import ClassDiagram.Document.Basic
import ClassDiagram.Text.Half

/-!
# JSON text

Reading JSON text.  The grammar is one; dialects differ in the range of integers, in what happens to
numbers that are too large, in the names `NaN` and `Infinity`, in how deep collections may nest and in
escapes that name half a character.  Reading gives the document or the first fault, with no position.
-/

set_option autoImplicit false

namespace ClassDiagram.Json

open Decimal (Binary64)

/-- What a reader of JSON admits. -/
structure Dialect where
  /-- Integers outside the 64 bit ranges are read as floats. -/
  boundedIntegers : Bool
  /-- `NaN`, `Infinity` and `-Infinity` are numbers. -/
  namedNumbers : Bool
  /-- A number too large for a float is infinite; otherwise it is refused. -/
  infiniteFloats : Bool
  /-- Half of a pair may stand alone; otherwise it is refused. -/
  halfCharacters : Bool
  /-- How deep collections may nest. -/
  deepest : Nat
  /-- A text with collections that nest deeper is malformed; otherwise they are a fault of their own. -/
  depthIsForm : Bool
  /-- The most digits of an integer that is read as one. -/
  mostDigits : Option Nat

/-- The dialect of model documents. -/
def Dialect.strict : Dialect := ⟨true, false, false, false, 1024, true, none⟩

/-- The dialect of type profiles: integers have no bounds but in their digits, and numbers may be
named. -/
def Dialect.lenient : Dialect := ⟨false, true, true, true, 987, false, some 4300⟩

/-- Why a text is no document. -/
inductive Fault where
  | malformed
  | tooManyDigits (count : Nat)
  /-- Collections nest too deep; the innermost one is a list or a mapping. -/
  | tooDeep (isList : Bool)
  deriving Repr, DecidableEq

/-- A reading that is malformed where it gives nothing. -/
def wellFormed {α : Type} : Option α → Except Fault α
  | some value => return value
  | none => throw .malformed

/-- Blanks between the tokens of JSON. -/
def isSpace (c : Char) : Bool := c == ' ' || c == '\t' || c == '\n' || c == '\r'

/-- Drops the blanks in front. -/
def skipSpace (cs : List Char) : List Char := cs.dropWhile isSpace

/-- An ASCII digit. -/
def isDigit (c : Char) : Bool := '0' ≤ c && c ≤ '9'

/-- The number that a row of ASCII digits writes. -/
def digitsValue (cs : List Char) : Nat :=
  cs.foldl (fun n c => 10 * n + (c.toNat - 0x30)) 0

/-- The value of a hexadecimal digit. -/
def hexValue? (c : Char) : Option Nat :=
  if isDigit c then some (c.toNat - 0x30)
  else if 'a' ≤ c && c ≤ 'f' then some (c.toNat - 0x57)
  else if 'A' ≤ c && c ≤ 'F' then some (c.toNat - 0x37)
  else none

/-- The code unit of four hexadecimal digits, and what follows them. -/
def codeUnit? : List Char → Option (Nat × List Char)
  | a :: b :: c :: d :: rest => do
    let a ← hexValue? a
    let b ← hexValue? b
    let c ← hexValue? c
    let d ← hexValue? d
    return (((a * 16 + b) * 16 + c) * 16 + d, rest)
  | _ => none

/-- The character of an escape with one letter. -/
def letterEscape? (c : Char) : Option Char :=
  match c with
  | '"' => some '"'
  | '\\' => some '\\'
  | '/' => some '/'
  | 'b' => some (Char.ofNat 0x8)
  | 'f' => some (Char.ofNat 0xc)
  | 'n' => some '\n'
  | 'r' => some '\r'
  | 't' => some '\t'
  | _ => none

/-- The character whose first code unit is `unit`, read from what follows that unit's digits. -/
def escapedChar? (d : Dialect) (unit : Nat) (rest : List Char) : Option (Char × List Char) :=
  if Text.isLeadingHalf unit then
    let paired := match rest with
      | '\\' :: 'u' :: more =>
        match codeUnit? more with
        | some (second, after) =>
          if Text.isTrailingHalf second then some (Text.joinedHalves unit second, after)
          else none
        | none => none
      | _ => none
    match paired with
    | some found => some found
    | none => if d.halfCharacters then some (Text.keptHalf unit, rest) else none
  else if Text.isTrailingHalf unit then
    if d.halfCharacters then some (Text.keptHalf unit, rest) else none
  else some (Char.ofNat unit, rest)

/-- The characters of a string up to its closing quote, and what follows it.  `fuel` bounds the
characters read and `read` holds them, the last first. -/
def stringFrom? (d : Dialect) : Nat → List Char → List Char → Option (String × List Char)
  | 0, _, _ => none
  | fuel + 1, read, cs =>
    match cs with
    | [] => none
    | '"' :: rest => some (String.ofList read.reverse, rest)
    | '\\' :: 'u' :: rest => do
      let (unit, rest) ← codeUnit? rest
      let (c, rest) ← escapedChar? d unit rest
      stringFrom? d fuel (c :: read) rest
    | '\\' :: letter :: rest => do
      let c ← letterEscape? letter
      stringFrom? d fuel (c :: read) rest
    | c :: rest => if c.toNat < 0x20 then none else stringFrom? d fuel (c :: read) rest

/-- A string after its opening quote. -/
def string? (d : Dialect) (fuel : Nat) (cs : List Char) : Option (String × List Char) :=
  stringFrom? d fuel [] cs

/-- A finite number, or an infinite one where the dialect admits it. -/
def admitFloat (d : Dialect) (x : Binary64) : Except Fault Document :=
  match x with
  | .infinite _ => if d.infiniteFloats then return .float x else throw .malformed
  | _ => return .float x

/-- Whether an integer with a number of digits is read. -/
def Dialect.admitsDigits (d : Dialect) (count : Nat) : Bool :=
  match d.mostDigits with
  | none => true
  | some most => count ≤ most

/-- The integer that digits write, as a float where the dialect bounds integers and it lies outside. -/
def integer (d : Dialect) (negative : Bool) (digits : List Char) : Except Fault Document :=
  if d.admitsDigits digits.length then
    let size := digitsValue digits
    let n : Int := if negative then -(size : Int) else size
    if d.boundedIntegers && (n < -(Nat.pow 2 63) || Nat.pow 2 64 ≤ n) then
      admitFloat d (Binary64.ofDecimal negative size 0)
    else return .int n
  else throw (.tooManyDigits digits.length)

/-- The digits after a decimal point, if there is one with a digit after it. -/
def fractionPart? : List Char → Option (List Char × List Char)
  | '.' :: rest =>
    let digits := rest.takeWhile isDigit
    if digits.isEmpty then none else some (digits, rest.dropWhile isDigit)
  | _ => none

/-- An exponent: a letter, a sign if any, and at least one digit. -/
def exponentPart? : List Char → Option (Int × List Char)
  | e :: rest =>
    if e = 'e' || e = 'E' then
      let (negative, rest) := match rest with
        | '-' :: more => (true, more)
        | '+' :: more => (false, more)
        | more => (false, more)
      let digits := rest.takeWhile isDigit
      if digits.isEmpty then none
      else
        let size : Int := digitsValue digits
        some (if negative then -size else size, rest.dropWhile isDigit)
    else none
  | [] => none

/-- A number after its sign: no needless zero in front, then a fraction and an exponent if any. -/
def unsignedNumber (d : Dialect) (negative : Bool) (cs : List Char) :
    Except Fault (Document × List Char) := do
  let run := cs.takeWhile isDigit
  let whole := if run.head? = some '0' then ['0'] else run
  if whole.isEmpty then throw .malformed
  else
    let rest := cs.drop whole.length
    let fraction := fractionPart? rest
    let rest := (fraction.map Prod.snd).getD rest
    let exponent := exponentPart? rest
    let rest := (exponent.map Prod.snd).getD rest
    if fraction.isNone && exponent.isNone then
      let value ← integer d negative whole
      return (value, rest)
    else
      let places := (fraction.map Prod.fst).getD []
      let power := (exponent.map Prod.fst).getD 0 - (places.length : Int)
      let value ← admitFloat d (Binary64.ofDecimal negative (digitsValue (whole ++ places)) power)
      return (value, rest)

/-- What follows a word, if the text begins with it. -/
def after? (word : List Char) (cs : List Char) : Option (List Char) :=
  if word.isPrefixOf cs then some (cs.drop word.length) else none

/-- The words that are values. -/
def wordValues (d : Dialect) : List (String × Document) :=
  [("null", .null), ("true", .bool true), ("false", .bool false)] ++
    if d.namedNumbers then
      [("NaN", .float .notANumber), ("Infinity", .float (.infinite false)),
        ("-Infinity", .float (.infinite true))]
    else []

/-- A value that is a word. -/
def word? (d : Dialect) (cs : List Char) : Option (Document × List Char) :=
  (wordValues d).findSome? fun (word, value) => (after? word.toList cs).map (value, ·)

/-- A number with its sign. -/
def number (d : Dialect) : List Char → Except Fault (Document × List Char)
  | '-' :: rest => unsignedNumber d true rest
  | cs => unsignedNumber d false cs

/-- Whether a collection, a list if `isList`, may stand inside `depth` collections. -/
def Dialect.admitDepth (d : Dialect) (isList : Bool) (depth : Nat) : Except Fault Unit :=
  if depth < d.deepest then return
  else throw (if d.depthIsForm then .malformed else .tooDeep isList)

mutual

/-- A value inside `depth` collections, and what follows it.  `fuel` bounds the characters read,
each counted twice. -/
def value (d : Dialect) (depth : Nat) : Nat → List Char → Except Fault (Document × List Char)
  | 0, _ => throw .malformed
  | fuel + 1, cs =>
    match skipSpace cs with
    | '"' :: rest => do
      let (s, rest) ← wellFormed (string? d fuel rest)
      return (.text s, rest)
    | '[' :: rest => do
      d.admitDepth true depth
      match skipSpace rest with
      | ']' :: rest => return (.list [], rest)
      | rest => items d (depth + 1) fuel [] rest
    | '\x7b' :: rest => do
      d.admitDepth false depth
      match skipSpace rest with
      | '\x7d' :: rest => return (.map [], rest)
      | rest => entries d (depth + 1) fuel [] rest
    | rest =>
      match word? d rest with
      | some found => return found
      | none => number d rest

/-- The items of a list up to its end, after those in `read`, the last first. -/
def items (d : Dialect) (depth : Nat) :
    Nat → List Document → List Char → Except Fault (Document × List Char)
  | 0, _, _ => throw .malformed
  | fuel + 1, read, cs => do
    let (item, rest) ← value d depth fuel cs
    match skipSpace rest with
    | ',' :: rest => items d depth fuel (item :: read) rest
    | ']' :: rest => return (.list (item :: read).reverse, rest)
    | _ => throw .malformed

/-- The entries of a mapping up to its end, after those in `read`, the last first. -/
def entries (d : Dialect) (depth : Nat) :
    Nat → List (Document × Document) → List Char → Except Fault (Document × List Char)
  | 0, _, _ => throw .malformed
  | fuel + 1, read, cs =>
    match skipSpace cs with
    | '"' :: rest => do
      let (key, rest) ← wellFormed (string? d fuel rest)
      match skipSpace rest with
      | ':' :: rest =>
        let (value, rest) ← value d depth fuel rest
        let read := (.text key, value) :: read
        match skipSpace rest with
        | ',' :: rest => entries d depth fuel read rest
        | '\x7d' :: rest => return (.map (Document.entriesOf read.reverse), rest)
        | _ => throw .malformed
      | _ => throw .malformed
    | _ => throw .malformed

end

/-- The document that a whole text writes, blanks around it aside. -/
def read (d : Dialect) (s : String) : Except Fault Document := do
  let cs := s.toList
  let (value, rest) ← value d 0 (2 * cs.length + 2) cs
  if (skipSpace rest).isEmpty then return value else throw .malformed

end ClassDiagram.Json
