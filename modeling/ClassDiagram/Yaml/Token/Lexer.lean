import ClassDiagram.Yaml.Token
import ClassDiagram.Yaml.Token.Scalar

/-!
# From text to tokens

Tokens of a YAML text.  Two things make the lexer more than a scan from left to right.  A key is known
only by the colon after it, so the places where a key may have begun are remembered, one for each level
of flow collections, and the key's token is put in there later.  And a block ends where a line begins
left of it, so the indentations of the open blocks are kept.

Where the text has a fault, the tokens before it are still given, but only those that can be told without
reading as far as the fault: a token that may yet turn out to begin a key is not among them.
-/

set_option autoImplicit false

namespace ClassDiagram.Yaml

/-- A place where a key may have begun.  It is `required` where nothing else could stand. -/
structure KeyPlace where
  token : Nat
  required : Bool
  index : Nat
  line : Nat
  column : Nat
  deriving Repr

/-- A lexer between two tokens: the place in the text, the tokens so far, the level of flow
collections, the indentation of the innermost block and of those around it, whether a key may begin
here, and where keys may have begun. -/
structure Lexer where
  cursor : Cursor
  tokens : Array Token
  flowLevel : Nat
  indent : Int
  outerIndents : List Int
  keyAllowed : Bool
  keyPlaces : List (Nat × KeyPlace)

namespace Lexer

/-- The lexer before a text. -/
def start (text : List Char) : Lexer :=
  { cursor := Cursor.start text, tokens := #[], flowLevel := 0, indent := -1, outerIndents := [],
    keyAllowed := true, keyPlaces := [] }

/-- Adds a token. -/
def emit (l : Lexer) (t : Token) : Lexer := { l with tokens := l.tokens.push t }

/-- Whether the lexer is inside a flow collection. -/
def inFlow (l : Lexer) : Bool := l.flowLevel != 0

/-- Drops the blanks, comments and line boundaries before a token.  In a block a key may begin after
a line boundary. -/
def skipToToken : Nat → Lexer → Lexer
  | 0, l => l
  | fuel + 1, l =>
    let c := (l.cursor.skipWhile (· == ' ')).skipComment
    match c.lineBreak with
    | ([], c) => { l with cursor := c }
    | (_, c) => skipToToken fuel { l with cursor := c, keyAllowed := l.keyAllowed || !l.inFlow }

/-- A key stands on one line and within 1024 characters. -/
def outdated (l : Lexer) (k : KeyPlace) : Bool :=
  k.line != l.cursor.line || l.cursor.index > k.index + 1024

/-- Forgets the places whose key can no longer follow; fails if one of them was required. -/
def dropOutdated (l : Lexer) : Except Fault Lexer :=
  if l.keyPlaces.any fun (_, k) => l.outdated k && k.required then throw .malformed
  else return { l with keyPlaces := l.keyPlaces.filter fun (_, k) => !l.outdated k }

/-- Forgets the place of this level; fails if it was required. -/
def dropKeyPlace (l : Lexer) : Except Fault Lexer :=
  match l.keyPlaces.lookup l.flowLevel with
  | none => return l
  | some k =>
    if k.required then throw .malformed
    else return { l with keyPlaces := l.keyPlaces.filter fun (level, _) => level != l.flowLevel }

/-- Remembers that a key may begin here, if keys may. -/
def saveKeyPlace (l : Lexer) : Except Fault Lexer :=
  if l.keyAllowed then do
    let c := l.cursor
    let required := !l.inFlow && l.indent == (c.column : Int)
    let l ← l.dropKeyPlace
    return { l with
      keyPlaces := (l.flowLevel, ⟨l.tokens.size, required, c.index, c.line, c.column⟩) :: l.keyPlaces }
  else return l

/-- Ends the blocks that are indented more than a column. -/
def closeBlocksFrom (column : Int) : List Int → Lexer → Lexer
  | [], l => l
  | outer :: rest, l =>
    if column < l.indent then
      closeBlocksFrom column rest { l.emit .blockEnd with indent := outer, outerIndents := rest }
    else l

/-- Ends the blocks that are indented more than a column; flow collections have no indentation. -/
def closeBlocks (l : Lexer) (column : Int) : Lexer :=
  if l.inFlow then l else closeBlocksFrom column l.outerIndents l

/-- Opens a block at a column if it is indented more than the innermost one, and tells whether it
did. -/
def openBlock (l : Lexer) (column : Nat) : Lexer × Bool :=
  if l.indent < (column : Int) then
    ({ l with outerIndents := l.indent :: l.outerIndents, indent := column }, true)
  else (l, false)

/-- Opens a block with a token if the column asks for it. -/
def openBlockWith (l : Lexer) (t : Token) : Lexer :=
  match l.openBlock l.cursor.column with
  | (l, true) => l.emit t
  | (l, false) => l

/-- Ends all blocks before a directive, a document marker or the end of the text. -/
def endBlocks (l : Lexer) : Except Fault Lexer := do
  let l ← (l.closeBlocks (-1)).dropKeyPlace
  return { l with keyAllowed := false }

/-! ## Directives, tags and anchors -/

/-- A letter, a digit, a hyphen or an underscore: what names are made of. -/
def isNameChar (c : Char) : Bool :=
  ('0' ≤ c && c ≤ '9') || ('A' ≤ c && c ≤ 'Z') || ('a' ≤ c && c ≤ 'z') || c == '-' || c == '_'

/-- A decimal number of a version. -/
def versionNumber? (c : Cursor) : Option (Nat × Cursor) :=
  let (digits, c) := c.takeWhile fun ch => '0' ≤ ch && ch ≤ '9'
  if digits.isEmpty then none
  else some (digits.foldl (fun n ch => 10 * n + (ch.toNat - 0x30)) 0, c)

/-- The handle of a tag: exclamation marks around a name, or a single one. -/
def tagHandle? (c : Cursor) : Option (String × Cursor) :=
  match c.rest with
  | '!' :: ' ' :: _ => some ("!", c.next)
  | '!' :: rest =>
    let name := rest.takeWhile isNameChar
    if rest[name.length]? == some '!' then
      some (String.ofList ('!' :: name ++ ['!']), c.advance (name.length + 2))
    else if name.isEmpty then none
    else none
  | _ => none

/-- The other characters of an address. -/
def addressMarks : List Char :=
  [';', '/', '?', ':', '@', '&', '=', '+', '$', ',', '.', '!', '~', '*', Char.ofNat 0x27, '(', ')',
    '[', ']', '%']

/-- A character of an address. -/
def isAddressChar (c : Char) : Bool := isNameChar c || addressMarks.contains c

/-- The octets of escapes with two hexadecimal digits each, and what follows them. -/
def octetEscapes? : Nat → List UInt8 → List Char → Option (List UInt8 × List Char)
  | 0, read, cs => some (read, cs)
  | fuel + 1, read, cs =>
    match cs with
    | '%' :: a :: b :: rest => do
      let high ← hexDigitValue? a
      let low ← hexDigitValue? b
      octetEscapes? fuel (read ++ [(16 * high + low).toUInt8]) rest
    | '%' :: _ => none
    | _ => some (read, cs)

/-- An address with its escapes replaced, given as a run of address characters. -/
def addressText? : Nat → List Char → List Char → Option (List Char)
  | 0, read, _ => some read
  | fuel + 1, read, cs =>
    match cs with
    | [] => some read
    | '%' :: _ => do
      let (octets, rest) ← octetEscapes? cs.length [] cs
      let text ← String.fromUTF8? (ByteArray.mk octets.toArray)
      addressText? fuel (read ++ text.toList) rest
    | ch :: rest => addressText? fuel (read ++ [ch]) rest

/-- A non-empty address. -/
def address? (c : Cursor) : Option (String × Cursor) := do
  let (run, c) := c.takeWhile isAddressChar
  if run.isEmpty then none
  else
    let text ← addressText? run.length [] run
    return (String.ofList text, c)

/-- What a directive says after its name. -/
def directiveBody? (name : List Char) (c : Cursor) : Option (Directive × Cursor) := do
  if name == ['Y', 'A', 'M', 'L'] then
    let (major, c) ← versionNumber? (c.skipWhile (· == ' '))
    if c.peek != some '.' then none
    else
      let (minor, c) ← versionNumber? c.next
      if endsWord c.peek then return (.version major minor, c) else none
  else if name == ['T', 'A', 'G'] then
    let (handle, c) ← tagHandle? (c.skipWhile (· == ' '))
    if c.peek != some ' ' then none
    else
      let (meaning, c) ← address? (c.skipWhile (· == ' '))
      if endsWord c.peek then return (.tag handle meaning, c) else none
  else return (.other, c.skipWhile (!isBreak ·))

/-- A directive with the line that it stands on. -/
def directive? (c : Cursor) : Option (Directive × Cursor) := do
  let (name, c) := c.next.takeWhile isNameChar
  if name.isEmpty || !endsWord c.peek then none
  else
    let (d, c) ← directiveBody? name c
    let c ← c.skipLineEnd?
    return (d, c)

/-- The name of an anchor or an alias after its indicator. -/
def anchorName? (c : Cursor) : Option (String × Cursor) :=
  let (name, c) := c.next.takeWhile isNameChar
  let ended := endsToken c.peek ||
    (c.peek.map ['?', ':', ',', ']', '\x7d', '%', '@', Char.ofNat 0x60].contains).getD false
  if name.isEmpty || !ended then none else some (String.ofList name, c)

/-- A tag. -/
def tag? (c : Cursor) : Option (TagName × Cursor) := do
  let (name, c) ←
    if c.peekAt 1 == some '<' then do
      let (suffix, c) ← address? (c.advance 2)
      if c.peek == some '>' then some ((⟨none, suffix⟩ : TagName), c.next) else none
    else if endsToken (c.peekAt 1) then some (⟨none, "!"⟩, c.next)
    else do
      let word := c.rest.tail.takeWhile fun ch => !endsWord (some ch)
      let (handle, c) ← if word.contains '!' then tagHandle? c else some ("!", c.next)
      let (suffix, c) ← address? c
      some (⟨some handle, suffix⟩, c)
  if endsWord c.peek then return (name, c) else none

/-! ## One token -/

/-- The start of a flow collection. -/
def flowStart (l : Lexer) (t : Token) : Except Fault Lexer := do
  let l ← l.saveKeyPlace
  return { l.emit t with flowLevel := l.flowLevel + 1, keyAllowed := true, cursor := l.cursor.next }

/-- The end of a flow collection; there must be one to end. -/
def flowEnd (l : Lexer) (t : Token) : Except Fault Lexer := do
  let l ← l.dropKeyPlace
  if l.inFlow then
    return { l.emit t with flowLevel := l.flowLevel - 1, keyAllowed := false, cursor := l.cursor.next }
  else throw .malformed

/-- A comma. -/
def flowEntry (l : Lexer) : Except Fault Lexer := do
  let l ← { l with keyAllowed := true }.dropKeyPlace
  return { l.emit .flowEntry with cursor := l.cursor.next }

/-- A hyphen before an item. -/
def blockEntry (l : Lexer) : Except Fault Lexer := do
  if !l.inFlow && !l.keyAllowed then throw .malformed
  else
    let l := if l.inFlow then l else l.openBlockWith .blockSequenceStart
    let l ← { l with keyAllowed := true }.dropKeyPlace
    return { l.emit .blockEntry with cursor := l.cursor.next }

/-- A question mark before a key. -/
def key (l : Lexer) : Except Fault Lexer := do
  if !l.inFlow && !l.keyAllowed then throw .malformed
  else
    let l := if l.inFlow then l else l.openBlockWith .blockMappingStart
    let l ← { l with keyAllowed := !l.inFlow }.dropKeyPlace
    return { l.emit .key with cursor := l.cursor.next }

/-- Puts a token in at a position. -/
def insertToken (l : Lexer) (position : Nat) (t : Token) : Lexer :=
  { l with tokens := l.tokens.insertIdxIfInBounds position t }

/-- A colon: the value of the key whose place was remembered, or a value without a key. -/
def value (l : Lexer) : Except Fault Lexer := do
  match l.keyPlaces.lookup l.flowLevel with
  | some k =>
    let l := { l with keyPlaces := l.keyPlaces.filter fun (level, _) => level != l.flowLevel }
    let l := l.insertToken k.token .key
    let l :=
      if l.inFlow then l
      else
        match l.openBlock k.column with
        | (l, true) => l.insertToken k.token .blockMappingStart
        | (l, false) => l
    return { l.emit .value with keyAllowed := false, cursor := l.cursor.next }
  | none =>
    if !l.inFlow && !l.keyAllowed then throw .malformed
    else
      let l := if l.inFlow then l else l.openBlockWith .blockMappingStart
      let l ← { l with keyAllowed := !l.inFlow }.dropKeyPlace
      return { l.emit .value with cursor := l.cursor.next }

/-- A token that may begin a key, read by `scan`. -/
def keyStart (l : Lexer) (scan : Cursor → Except Fault (Token × Cursor)) : Except Fault Lexer := do
  let l ← l.saveKeyPlace
  let (t, c) ← scan l.cursor
  return { l.emit t with keyAllowed := false, cursor := c }

/-- A literal or folded scalar, which never begins a key. -/
def blockText (l : Lexer) (folded : Bool) : Except Fault Lexer := do
  let l ← { l with keyAllowed := true }.dropKeyPlace
  let (text, c) ← wellFormed (blockScalar? folded l.indent l.cursor)
  return { l.emit (.scalar (String.ofList text) false) with cursor := c }

/-- A quoted scalar. -/
def quotedText (l : Lexer) (double : Bool) : Except Fault Lexer :=
  l.keyStart fun c =>
    (quotedScalar double c).map fun (text, c) => (.scalar (String.ofList text) false, c)

/-- A plain scalar.  A key may begin after it where a line has ended. -/
def plainText (l : Lexer) : Except Fault Lexer := do
  let l ← l.saveKeyPlace
  let (text, crossed, c) := plainScalar l.inFlow l.indent l.cursor
  return { l.emit (.scalar (String.ofList text) true) with keyAllowed := crossed, cursor := c }

/-- A directive. -/
def directiveLine (l : Lexer) : Except Fault Lexer := do
  let l ← l.endBlocks
  let (d, c) ← wellFormed (directive? l.cursor)
  return { l.emit (.directive d) with cursor := c }

/-- A document marker. -/
def marker (l : Lexer) (t : Token) : Except Fault Lexer := do
  let l ← l.endBlocks
  return { l.emit t with cursor := l.cursor.advance 3 }

/-- The characters that begin no plain scalar. -/
def indicators : List Char :=
  ['-', '?', ':', ',', '[', ']', '\x7b', '\x7d', '#', '&', '*', '!', '|', '>', Char.ofNat 0x27,
    Char.ofNat 0x22, '%', '@', Char.ofNat 0x60]

/-- Whether a plain scalar begins with a character that `after` follows. -/
def beginsPlain (l : Lexer) (c : Char) (after : Option Char) : Bool :=
  !(endsToken (some c)) && !indicators.contains c ||
    (!endsToken after && (c == '-' || (!l.inFlow && (c == '?' || c == ':'))))

/-- Reads the token that begins with `c`, where `after` is the character after it. -/
def tokenAt (l : Lexer) (c : Char) (after : Option Char) : Except Fault Lexer :=
  let lineStart := l.cursor.column == 0
  let alone := endsToken after
  if c == '%' && lineStart then l.directiveLine
  else if c == '-' && lineStart && l.cursor.atMarker then l.marker .documentStart
  else if c == '.' && lineStart && l.cursor.atMarker then l.marker .documentEnd
  else if c == '[' then l.flowStart .flowSequenceStart
  else if c == '\x7b' then l.flowStart .flowMappingStart
  else if c == ']' then l.flowEnd .flowSequenceEnd
  else if c == '\x7d' then l.flowEnd .flowMappingEnd
  else if c == ',' then l.flowEntry
  else if c == '-' && alone then l.blockEntry
  else if c == '?' && (l.inFlow || alone) then l.key
  else if c == ':' && (l.inFlow || alone) then l.value
  else if c == '*' then
    l.keyStart fun c => (wellFormed (anchorName? c)).map fun (name, c) => (.alias name, c)
  else if c == '&' then
    l.keyStart fun c => (wellFormed (anchorName? c)).map fun (name, c) => (.anchor name, c)
  else if c == '!' then
    l.keyStart fun c => (wellFormed (tag? c)).map fun (name, c) => (.tag name, c)
  else if c == '|' && !l.inFlow then l.blockText false
  else if c == '>' && !l.inFlow then l.blockText true
  else if c == Char.ofNat 0x27 then l.quotedText false
  else if c == Char.ofNat 0x22 then l.quotedText true
  else if l.beginsPlain c after then l.plainText
  else throw .malformed

/-- Whether the end of the text has been read. -/
def hasEnded (l : Lexer) : Bool := l.tokens.back? == some .streamEnd

/-- Reads the next tokens. -/
def next (l : Lexer) : Except Fault Lexer := do
  let l ← (skipToToken (l.cursor.rest.length + 1) l).dropOutdated
  let l := l.closeBlocks l.cursor.column
  match l.cursor.rest with
  | [] =>
    let l ← l.endBlocks
    return l.emit .streamEnd
  | c :: rest => l.tokenAt c rest.head?

/-- The number of the first token that is not told before more is read: the first that may begin a key,
or else the one after all tokens so far. -/
def untold (l : Lexer) : Nat :=
  (l.keyPlaces.filter fun (_, k) => !l.outdated k).foldl (fun n (_, k) => min n k.token)
    l.tokens.size

/-- The tokens of a lexer that meets a fault when it reads on. -/
def brokenOff (l : Lexer) (fault : Fault) : Array Token :=
  (l.tokens.take l.untold).push (.broken fault)

/-- Reads the tokens up to the end of the text, or up to a fault. -/
def run : Nat → Lexer → Array Token
  | 0, l => l.brokenOff .malformed
  | fuel + 1, l =>
    match l.next with
    | .error fault => l.brokenOff fault
    | .ok l => if l.hasEnded then l.tokens else run fuel l

end Lexer

/-- The tokens of a text of admitted characters, which may begin with a byte order mark. -/
def admittedTokens (text : List Char) : Array Token :=
  let l := Lexer.start text
  let l := match text with
    | c :: _ => if isByteOrderMark c then { l with cursor := l.cursor.next } else l
    | [] => l
  l.run (text.length + 2)

/-- The tokens of a text.  The last one ends the text or is the fault in it. -/
def tokens (text : List Char) : Array Token :=
  if text.all isAdmitted then admittedTokens text else #[.broken .malformed]

/-- The number of characters that are looked at before a stream is read. -/
def firstPiece : Nat := 8192

/-- The number of characters that are looked at when more of a stream is needed. -/
def laterPiece : Nat := 4096

/-- The tokens of a stream, of which a piece is looked at when it is reached.  A character that is not
admitted is a fault then; a value that has its fault before comes first. -/
def streamTokens (text : List Char) : Array Token :=
  let admitted := (text.takeWhile isAdmitted).length
  if admitted == text.length then admittedTokens text
  else if admitted < firstPiece then #[.broken .malformed]
  else
    let seen := admitted - (admitted - firstPiece) % laterPiece
    let found := admittedTokens (text.take seen)
    match found.back? with
    | some (.broken (.value _)) => found
    | _ => found.pop.push (.broken .malformed)

end ClassDiagram.Yaml
