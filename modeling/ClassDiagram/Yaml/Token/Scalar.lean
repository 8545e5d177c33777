import ClassDiagram.Text.Half
import ClassDiagram.Yaml.Cursor
import ClassDiagram.Yaml.Fault

/-!
# The scalars of YAML

Quoted, literal, folded and plain text.  Each reader starts at a cursor and gives the text and the place
after it; a reader that can fail gives nothing when the text is malformed, or the fault if there are several.
The fuel of a reader bounds the steps of its loop and is taken from the length of what is left.
-/

set_option autoImplicit false

namespace ClassDiagram.Yaml

/-- A hexadecimal digit. -/
def hexDigitValue? (c : Char) : Option Nat :=
  let n := c.toNat
  if 0x30 ≤ n && n ≤ 0x39 then some (n - 0x30)
  else if 0x61 ≤ n && n ≤ 0x66 then some (n - 0x57)
  else if 0x41 ≤ n && n ≤ 0x46 then some (n - 0x37)
  else none

/-- The number that exactly `count` hexadecimal digits write. -/
def hexNumber? (count : Nat) (cs : List Char) : Option Nat :=
  let digits := (cs.take count).filterMap hexDigitValue?
  if digits.length = count then some (digits.foldl (16 * · + ·) 0) else none

/-- A space or a tab. -/
def isSpaceOrTab (c : Char) : Bool := c == ' ' || c == '\t'

/-- A text in parts, the last one first. -/
abbrev Parts := List (List Char)

/-- The text that parts make up. -/
def joined (parts : Parts) : List Char := parts.reverse.flatten

/-! ## Quoted scalars -/

/-- The character of a double quoted escape with one letter. -/
def escapeLetter? (c : Char) : Option Char :=
  match c with
  | '0' => some (Char.ofNat 0)
  | 'a' => some (Char.ofNat 0x7)
  | 'b' => some (Char.ofNat 0x8)
  | 't' => some '\t'
  | '\t' => some '\t'
  | 'n' => some '\n'
  | 'v' => some (Char.ofNat 0xb)
  | 'f' => some (Char.ofNat 0xc)
  | 'r' => some '\r'
  | 'e' => some (Char.ofNat 0x1b)
  | ' ' => some ' '
  | '"' => some '"'
  | '\\' => some '\\'
  | '/' => some '/'
  | 'N' => some (Char.ofNat 0x85)
  | '_' => some (Char.ofNat 0xa0)
  | 'L' => some (Char.ofNat 0x2028)
  | 'P' => some (Char.ofNat 0x2029)
  | _ => none

/-- How many hexadecimal digits follow the letter of an escape. -/
def escapeWidth? (c : Char) : Option Nat :=
  match c with
  | 'x' => some 2
  | 'u' => some 4
  | 'U' => some 8
  | _ => none

/-- The line boundaries between two parts of a quoted scalar, blanks around them dropped. -/
def quotedBreaks? : Nat → Parts → Cursor → Option (List Char × Cursor)
  | 0, _, _ => none
  | fuel + 1, read, c =>
    if c.atMarker then none
    else
      let c := c.skipWhile isSpaceOrTab
      match c.lineBreak with
      | ([], c) => some (joined read, c)
      | (line, c) => quotedBreaks? fuel (line :: read) c

/-- The space between two parts of a quoted scalar: blanks as they stand, or one line boundary as a
space and further ones as themselves. -/
def quotedSpace? (fuel : Nat) (c : Cursor) : Option (List Char × Cursor) :=
  let (blanks, c) := c.takeWhile isSpaceOrTab
  match c.peek with
  | none => none
  | some _ =>
    match c.lineBreak with
    | ([], c) => some (blanks, c)
    | (line, c) =>
      match quotedBreaks? fuel [] c with
      | none => none
      | some (breaks, c) =>
        if line != ['\n'] then some (line ++ breaks, c)
        else if breaks.isEmpty then some ([' '], c)
        else some (breaks, c)

/-- The number of an escape by its code, and the place after it. -/
def codeEscape? (c : Cursor) : Option (Nat × Cursor) := do
  if c.peek != some '\\' then none
  else
    let width ← c.next.peek.bind escapeWidth?
    let c := c.advance 2
    let code ← hexNumber? width c.rest
    return (code, c.advance width)

/-- The character with a code; halves of pairs are not joined. -/
def characterOf (code : Nat) : Except Fault Char :=
  if 0x7fffffff < code then throw (.value .characterSize)
  else if 0x10ffff < code then throw (.value .characterRange)
  else return Text.charOfCode code

/-- The character, or the folded line boundary, that the backslash here announces. -/
def escape (fuel : Nat) (c : Cursor) : Except Fault (List Char × Cursor) := do
  let letter ← wellFormed c.next.peek
  match escapeLetter? letter with
  | some ch => return ([ch], c.advance 2)
  | none =>
    if (escapeWidth? letter).isSome then
      let (code, c) ← wellFormed (codeEscape? c)
      return ([← characterOf code], c)
    else if isBreak letter then wellFormed (quotedBreaks? fuel [] c.next.lineBreak.2)
    else throw .malformed

/-- The text of a quoted scalar up to its closing quote, after the text in `read`. -/
def quotedFrom (double : Bool) :
    Nat → Parts → Cursor → Except Fault (List Char × Cursor)
  | 0, _, _ => throw .malformed
  | fuel + 1, read, c =>
    match c.rest with
    | [] => throw .malformed
    | '"' :: _ =>
      if double then return (joined read, c.next) else quotedFrom double fuel (['"'] :: read) c.next
    | ch :: rest =>
      if ch == Char.ofNat 0x27 then
        if double then quotedFrom double fuel ([ch] :: read) c.next
        else if rest.head? == some ch then quotedFrom double fuel ([ch] :: read) (c.advance 2)
        else return (joined read, c.next)
      else if ch == '\\' && double then do
        let (text, c) ← escape fuel c
        quotedFrom double fuel (text :: read) c
      else if isSpaceOrTab ch || isBreak ch then do
        let (text, c) ← wellFormed (quotedSpace? fuel c)
        quotedFrom double fuel (text :: read) c
      else
        let (run, c) := c.takeWhile fun x =>
          !(x == '"' || x == Char.ofNat 0x27 || x == '\\' || isSpaceOrTab x || isBreak x)
        if run.isEmpty then quotedFrom double fuel ([ch] :: read) c.next
        else quotedFrom double fuel (run :: read) c

/-- A quoted scalar from its opening quote on. -/
def quotedScalar (double : Bool) (c : Cursor) : Except Fault (List Char × Cursor) :=
  quotedFrom double (c.rest.length + 1) [] c.next

/-! ## Block scalars -/

/-- What happens to the line boundaries at the end of a block scalar. -/
inductive Chomping where
  | strip
  | clip
  | keep
  deriving Repr, DecidableEq

/-- The chomping that an indicator asks for. -/
def chomping? (c : Char) : Option Chomping :=
  if c == '+' then some .keep else if c == '-' then some .strip else none

/-- The indentation, one to nine, that an indicator asks for. -/
def indentDigit? (c : Char) : Option Nat :=
  if '1' ≤ c && c ≤ '9' then some (c.toNat - 0x30) else none

/-- The indicators of a block scalar, in either order. -/
def blockIndicators? (c : Cursor) : Option (Chomping × Option Nat × Cursor) :=
  let chompingAt (c : Cursor) : Chomping × Cursor :=
    match c.peek.bind chomping? with
    | some chomping => (chomping, c.next)
    | none => (.clip, c)
  let digitAt (c : Cursor) : Option Nat × Cursor :=
    match c.peek.bind indentDigit? with
    | some n => (some n, c.next)
    | none => (none, c)
  let (chomping, increment, c) :=
    match c.peek.bind chomping? with
    | some chomping =>
      let (increment, c) := digitAt c.next
      (chomping, increment, c)
    | none =>
      match digitAt c with
      | (some n, c) =>
        let (chomping, c) := chompingAt c
        (chomping, some n, c)
      | (none, c) => (.clip, none, c)
  if endsWord c.peek then some (chomping, increment, c) else none

/-- The empty lines before the text of a block scalar whose indentation is not given, with the
greatest column that their spaces reach. -/
def blockLead : Nat → Parts → Nat → Cursor → List Char × Nat × Cursor
  | 0, read, widest, c => (joined read, widest, c)
  | fuel + 1, read, widest, c =>
    match c.peek with
    | some ' ' => blockLead fuel read (max widest c.next.column) c.next
    | _ =>
      match c.lineBreak with
      | ([], c) => (joined read, widest, c)
      | (line, c) => blockLead fuel (line :: read) widest c

/-- The empty lines between two lines of text, each with at most the indentation. -/
def blockBreaks (indent : Nat) : Nat → Parts → Cursor → List Char × Cursor
  | 0, read, c => (joined read, c)
  | fuel + 1, read, c =>
    let c := c.skipIndent indent
    match c.lineBreak with
    | ([], c) => (joined read, c)
    | (line, c) => blockBreaks indent fuel (line :: read) c

/-- The lines of a block scalar from a line with text on: the text, the last line boundary and the
empty lines after it.  In a folded scalar one line boundary between two lines that begin with text
is a space. -/
def blockLines (folded : Bool) (indent : Nat) :
    Nat → Parts → List Char → Cursor → List Char × List Char × List Char × Cursor
  | 0, read, breaks, c => (joined read, [], breaks, c)
  | fuel + 1, read, breaks, c =>
    let startsWithText := !(c.peek.map isSpaceOrTab).getD false
    let (line, c) := c.takeWhile (!isBreak ·)
    let read := line :: breaks :: read
    let (lineEnd, c) := c.lineBreak
    let (breaks, c) := blockBreaks indent (fuel + 1) [] c
    if c.column = indent && c.peek.isSome then
      let nextStartsWithText := !(c.peek.map isSpaceOrTab).getD false
      if folded && lineEnd == ['\n'] && startsWithText && nextStartsWithText then
        blockLines folded indent fuel (if breaks.isEmpty then [' '] :: read else read) breaks c
      else blockLines folded indent fuel (lineEnd :: read) breaks c
    else (joined read, lineEnd, breaks, c)

/-- A block scalar from its indicator on, in a block of the given indentation. -/
def blockScalar? (folded : Bool) (blockIndent : Int) (c : Cursor) : Option (List Char × Cursor) := do
  let (chomping, increment, c) ← blockIndicators? c.next
  let c ← c.skipLineEnd?
  let least := (max (blockIndent + 1) 1).toNat
  let fuel := c.rest.length + 1
  let (indent, breaks, c) :=
    match increment with
    | none =>
      let (breaks, widest, c) := blockLead fuel [] 0 c
      (max least widest, breaks, c)
    | some n =>
      let indent := least + n - 1
      let (breaks, c) := blockBreaks indent fuel [] c
      (indent, breaks, c)
  let (text, lineEnd, breaks, c) :=
    if c.column = indent && c.peek.isSome then blockLines folded indent fuel [] breaks c
    else ([], [], breaks, c)
  return match chomping with
    | .strip => (text, c)
    | .clip => (text ++ lineEnd, c)
    | .keep => (text ++ lineEnd ++ breaks, c)

/-! ## Plain scalars -/

/-- Whether a character separates the entries of flow collections. -/
def isFlowMark (c : Char) : Bool :=
  c == ',' || c == '[' || c == ']' || c == '\x7b' || c == '\x7d'

/-- The run of characters of a plain scalar that stands here: up to a blank, a line boundary, a colon
that ends a key, and inside a flow collection up to a mark of it. -/
def plainRun (inFlow : Bool) : List Char → List Char
  | [] => []
  | ch :: rest =>
    if isSpaceOrTab ch || isBreak ch then []
    else if ch == ':' && (endsToken rest.head? || (inFlow && (rest.head?.map isFlowMark).getD false))
    then []
    else if inFlow && (isFlowMark ch || ch == '?') then []
    else ch :: plainRun inFlow rest

/-- The line boundaries after the first between two parts of a plain scalar; none at a document
marker. -/
def plainBreaks? : Nat → Parts → Cursor → Option (List Char × Cursor)
  | 0, read, c => some (joined read, c)
  | fuel + 1, read, c =>
    match c.peek with
    | some ' ' => plainBreaks? fuel read c.next
    | _ =>
      match c.lineBreak with
      | ([], c) => some (joined read, c)
      | (line, c) => if c.atMarker then none else plainBreaks? fuel (line :: read) c

/-- The space between two parts of a plain scalar, and whether a line ended in it.  No space means
that the scalar ends here. -/
structure PlainSpace where
  text : List Char
  crossed : Bool
  cursor : Cursor

/-- The space after a part of a plain scalar. -/
def plainSpace (fuel : Nat) (c : Cursor) : PlainSpace :=
  let (spaces, c) := c.takeWhile (· == ' ')
  match c.lineBreak with
  | ([], c) => ⟨spaces, false, c⟩
  | (line, c) =>
    if c.atMarker then ⟨[], true, c⟩
    else
      match plainBreaks? fuel [] c with
      | none => ⟨[], true, c⟩
      | some (breaks, c) =>
        if line != ['\n'] then ⟨line ++ breaks, true, c⟩
        else if breaks.isEmpty then ⟨[' '], true, c⟩
        else ⟨breaks, true, c⟩

/-- The parts of a plain scalar after the text in `read` and the space in `space`.  Answers the text,
the place after it and whether a line ended after its last part. -/
def plainFrom (inFlow : Bool) (indent : Int) :
    Nat → Parts → List Char → Bool → Cursor → List Char × Bool × Cursor
  | 0, read, _, crossed, c => (joined read, crossed, c)
  | fuel + 1, read, space, crossed, c =>
    if c.peek == some '#' then (joined read, crossed, c)
    else
      let run := plainRun inFlow c.rest
      if run.isEmpty then (joined read, crossed, c)
      else
        let read := run :: space :: read
        let after := plainSpace (fuel + 1) (c.advance run.length)
        let c := after.cursor
        if after.text.isEmpty || c.peek == some '#' || (!inFlow && (c.column : Int) < indent) then
          (joined read, after.crossed, c)
        else plainFrom inFlow indent fuel read after.text after.crossed c

/-- A plain scalar in a block of the given indentation: its text, whether a line ended after it and
the place after it. -/
def plainScalar (inFlow : Bool) (blockIndent : Int) (c : Cursor) : List Char × Bool × Cursor :=
  plainFrom inFlow (blockIndent + 1) (c.rest.length + 1) [] [] false c

end ClassDiagram.Yaml
