import ClassDiagram.Document.Basic
import ClassDiagram.Decimal.Shortest
import ClassDiagram.Text.Quoted

/-!
# Documents as text

The text of a document value in a message or in an enumeration literal.  A text stands for itself
at the top and is quoted inside a collection; all other values look the same in both places, dates
excepted.  A collection inside itself is shown by its brackets and three dots.  There is no text for an
integer with too many digits, nor for a collection with one in it.
-/

set_option autoImplicit false

namespace ClassDiagram

open Decimal (DecimalStyle Binary64)

/-- Floats are positional from a ten-thousandth up to sixteen digits before the point; exponents have
two digits or more. -/
def Document.floatStyle : DecimalStyle := ⟨-4, 16, 2⟩

/-- A number with zeros in front up to a width. -/
def padded (width n : Nat) : String := String.ofList (Decimal.paddedDigits width n)

/-- A day as year, month and day with hyphens. -/
def Date.text (d : Date) : String :=
  padded 4 d.year ++ "-" ++ padded 2 d.month ++ "-" ++ padded 2 d.day

/-- The parts of a day, separated by commas. -/
def Date.parts (d : Date) : String :=
  s!"{d.year}, {d.month}, {d.day}"

/-- The distance of a zone from universal time, as a sign, hours and minutes. -/
def zoneText (offset : Int) : String :=
  let size := offset.natAbs
  (if offset < 0 then "-" else "+") ++ padded 2 (size / 60) ++ ":" ++ padded 2 (size % 60)

/-- A span of minutes in days and seconds, each named if it is not zero. -/
def spanText (minutes : Int) : String :=
  let days := Int.fdiv minutes 1440
  let seconds := Int.fmod minutes 1440 * 60
  let parts := (if days = 0 then [] else ["days=" ++ toString days]) ++
    (if seconds = 0 then [] else ["seconds=" ++ toString seconds])
  "datetime.timedelta(" ++ (if parts.isEmpty then "0" else ", ".intercalate parts) ++ ")"

/-- A point of time: the day, the time of day, a fraction if there is one and the zone if given. -/
def Moment.text (m : Moment) : String :=
  m.date.text ++ " " ++ padded 2 m.hour ++ ":" ++ padded 2 m.minute ++ ":" ++ padded 2 m.second ++
    (if m.microsecond = 0 then "" else "." ++ padded 6 m.microsecond) ++
    (m.offset.map zoneText).getD ""

/-- A point of time inside a collection. -/
def Moment.literal (m : Moment) : String :=
  let seconds := if m.second = 0 && m.microsecond = 0 then "" else s!", {m.second}"
  let fraction := if m.microsecond = 0 then "" else s!", {m.microsecond}"
  let zone := match m.offset with
    | none => ""
    | some 0 => ", tzinfo=datetime.timezone.utc"
    | some offset => ", tzinfo=datetime.timezone(" ++ spanText offset ++ ")"
  "datetime.datetime(" ++ m.date.parts ++ s!", {m.hour}, {m.minute}" ++ seconds ++ fraction ++ zone ++ ")"

/-- One octet between two quotes. -/
def quotedOctet (quote : Char) (n : Nat) : List Char :=
  if 0x20 ≤ n && n < 0x7f || n = 0x9 || n = 0xa || n = 0xd then Text.quotedChar quote (Char.ofNat n)
  else '\\' :: 'x' :: Text.hexDigits 2 n

/-- A row of octets: a quoted text with a mark in front. -/
def octetsText (octets : List Nat) : String :=
  let quote := Text.quoteFor (octets.map Char.ofNat)
  String.ofList ('b' :: quote :: octets.flatMap (quotedOctet quote) ++ [quote])

/-- The most digits of an integer that is written. -/
def mostDigitsWritten : Nat := 4300

/-- The least natural number that has too many digits to be written. -/
def leastUnwritten : Nat := Nat.pow 10 mostDigitsWritten

/-- The text of an integer, if it has few enough digits. -/
def integerText? (n : Int) : Option String :=
  if n.natAbs < leastUnwritten then some (toString n) else none

/-- What a message says of an integer that is not written. -/
def unwrittenMessage : String :=
  s!"Exceeds the limit ({mostDigitsWritten} digits) for integer string conversion; " ++
    "use sys.set_int_max_str_digits() to increase the limit"

namespace Document

/-- How a collection is shown inside itself. -/
def mark : Document → String
  | map _ => "\x7b...\x7d"
  | _ => "[...]"

mutual

/-- The text of a value inside collections, of which those that contain themselves are given by their
labels and marks. -/
def literalIn? (around : List (Nat × String)) : Document → Option String
  | null => some "None"
  | bool value => some (if value then "True" else "False")
  | int value => integerText? value
  | float value => some (String.ofList (floatStyle.text value))
  | text value => some (Text.quoted value)
  | bytes octets => some (octetsText octets)
  | date value => some ("datetime.date(" ++ value.parts ++ ")")
  | moment value => some value.literal
  | pair a b => do
    let a ← literalIn? around a
    let b ← literalIn? around b
    return "(" ++ a ++ ", " ++ b ++ ")"
  | list items => (literalsIn? around items).map fun texts => "[" ++ ", ".intercalate texts ++ "]"
  | set [] => some "set()"
  | set items =>
    (literalsIn? around items).map fun texts => "\x7b" ++ ", ".intercalate texts ++ "\x7d"
  | map entries =>
    (entryLiteralsIn? around entries).map fun texts => "\x7b" ++ ", ".intercalate texts ++ "\x7d"
  | knot label body =>
    match around.lookup label with
    | some mark => some mark
    | none => literalIn? ((label, body.mark) :: around) body
  | again label => some ((around.lookup label).getD "")

/-- The texts of the items of a collection. -/
def literalsIn? (around : List (Nat × String)) : List Document → Option (List String)
  | [] => some []
  | item :: rest => do
    let text ← literalIn? around item
    return text :: (← literalsIn? around rest)

/-- The texts of the entries of a mapping. -/
def entryLiteralsIn? (around : List (Nat × String)) :
    List (Document × Document) → Option (List String)
  | [] => some []
  | (key, value) :: rest => do
    let key ← literalIn? around key
    let value ← literalIn? around value
    return (key ++ ": " ++ value) :: (← entryLiteralsIn? around rest)

end

/-- The text of a value inside a collection. -/
def literal? (d : Document) : Option String := literalIn? [] d

/-- The text of a value that stands alone. -/
def display? : Document → Option String
  | text value => some value
  | date value => some value.text
  | moment value => some value.text
  | other => other.literal?

end Document

end ClassDiagram
