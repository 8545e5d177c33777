import ClassDiagram.Document.Calendar
import ClassDiagram.Text.Integer
import ClassDiagram.Yaml.Tag

/-!
# The types of plain scalars

What a plain scalar is: a truth value, a number, a day, nothing or a text.  The forms of numbers are those
of YAML 1.1: a leading zero makes an octal number, colons separate places to base sixty, and a float needs a
point and a sign in its exponent.  A line feed at the end of a scalar does not count.
-/

set_option autoImplicit false

namespace ClassDiagram.Yaml

/-! ## Forms -/

/-- An ASCII digit. -/
def isAsciiDigit (c : Char) : Bool := '0' ≤ c && c ≤ '9'

/-- A digit or an underscore. -/
def isDigitOrBar (c : Char) : Bool := isAsciiDigit c || c == '_'

/-- Places to base sixty after the first: a colon and one digit, or two of which the first is below
six.  What follows the last place is given back. -/
def sexagesimalPlaces (n : Nat) (cs : List Char) : Nat × List Char :=
  match cs with
  | ':' :: a :: b :: rest =>
    if '0' ≤ a && a ≤ '5' && isAsciiDigit b then sexagesimalPlaces (n + 1) rest
    else if isAsciiDigit a then sexagesimalPlaces (n + 1) (b :: rest)
    else (n, ':' :: a :: b :: rest)
  | [':', a] => if isAsciiDigit a then (n + 1, []) else (n, [':', a])
  | cs => (n, cs)
termination_by cs.length

/-- The words for true and false, in lower case, with a capital and in capitals. -/
def truthWords : List String :=
  ["yes", "Yes", "YES", "no", "No", "NO", "true", "True", "TRUE", "false", "False", "FALSE",
    "on", "On", "ON", "off", "Off", "OFF"]

/-- The words for nothing. -/
def nullWords : List String := ["~", "null", "Null", "NULL", ""]

/-- An exponent of a float: a letter, a sign and digits. -/
def isExponent : List Char → Bool
  | [] => true
  | e :: sign :: digits =>
    (e == 'e' || e == 'E') && (sign == '+' || sign == '-') && !digits.isEmpty &&
      digits.all isAsciiDigit
  | _ => false

/-- An unsigned float: digits with a point and an exponent if any, places to base sixty with a point,
or infinity. -/
def isUnsignedFloat (cs : List Char) : Bool :=
  match cs with
  | [] => false
  | '.' :: rest => [['i', 'n', 'f'], ['I', 'n', 'f'], ['I', 'N', 'F']].contains rest
  | c :: _ =>
    isAsciiDigit c &&
      match sexagesimalPlaces 0 (cs.dropWhile isDigitOrBar) with
      | (0, '.' :: rest) => isExponent (rest.dropWhile isDigitOrBar)
      | (_ + 1, '.' :: rest) => rest.all isDigitOrBar
      | _ => false

/-- A float that begins with its point, or what is no number; neither has a sign. -/
def isPointFloat : List Char → Bool
  | '.' :: c :: rest =>
    (isAsciiDigit c && isExponent (rest.dropWhile isDigitOrBar)) ||
      [['n', 'a', 'n'], ['N', 'a', 'N'], ['N', 'A', 'N']].contains (c :: rest)
  | _ => false

/-- A float. -/
def isFloat (cs : List Char) : Bool := isPointFloat cs || isUnsignedFloat (Text.dropSign cs)

/-- A hexadecimal digit or an underscore. -/
def isHexOrBar (c : Char) : Bool :=
  isDigitOrBar c || ('a' ≤ c && c ≤ 'f') || ('A' ≤ c && c ≤ 'F')

/-- An octal digit or an underscore. -/
def isOctalOrBar (c : Char) : Bool := ('0' ≤ c && c ≤ '7') || c == '_'

/-- A binary digit or an underscore. -/
def isBinaryOrBar (c : Char) : Bool := c == '0' || c == '1' || c == '_'

/-- An unsigned integer: binary, hexadecimal, octal, decimal or to base sixty. -/
def isUnsignedInt : List Char → Bool
  | ['0'] => true
  | '0' :: 'b' :: digits => !digits.isEmpty && digits.all isBinaryOrBar
  | '0' :: 'x' :: digits => !digits.isEmpty && digits.all isHexOrBar
  | '0' :: digits => digits.all isOctalOrBar
  | c :: rest =>
    isAsciiDigit c && (sexagesimalPlaces 0 (rest.dropWhile isDigitOrBar)).2.isEmpty
  | [] => false

/-- An integer. -/
def isInt (cs : List Char) : Bool := isUnsignedInt (Text.dropSign cs)

/-! ## Dates -/

/-- One or two digits, and what follows them. -/
def shortNumber? : List Char → Option (Nat × List Char)
  | a :: b :: rest =>
    if isAsciiDigit a then
      if isAsciiDigit b then some (10 * (a.toNat - 0x30) + (b.toNat - 0x30), rest)
      else some (a.toNat - 0x30, b :: rest)
    else none
  | [a] => if isAsciiDigit a then some (a.toNat - 0x30, []) else none
  | [] => none

/-- Exactly two digits, and what follows them. -/
def pairNumber? : List Char → Option (Nat × List Char)
  | a :: b :: rest =>
    if isAsciiDigit a && isAsciiDigit b then
      some (10 * (a.toNat - 0x30) + (b.toNat - 0x30), rest)
    else none
  | _ => none

/-- What follows a character that must stand here. -/
def expect? (c : Char) : List Char → Option (List Char)
  | x :: rest => if x == c then some rest else none
  | [] => none

/-- The separator of a day and a time: a letter or blanks. -/
def timeSeparator? : List Char → Option (List Char)
  | c :: rest =>
    if c == 'T' || c == 't' then some rest
    else if c == ' ' || c == '\t' then some (rest.dropWhile fun x => x == ' ' || x == '\t')
    else none
  | [] => none

/-- The zone of a time in minutes, after blanks: none, universal time, or a distance from it. -/
def zone? (cs : List Char) : Option (Option Int) :=
  match cs with
  | [] => some none
  | _ =>
    match cs.dropWhile fun x => x == ' ' || x == '\t' with
    | ['Z'] => some (some 0)
    | sign :: rest =>
      if sign == '+' || sign == '-' then
        match shortNumber? rest with
        | none => none
        | some (hours, rest) =>
          let minutes? := match rest with
            | [] => some 0
            | _ =>
              match (expect? ':' rest).bind pairNumber? with
              | some (minutes, []) => some minutes
              | _ => none
          minutes?.map fun minutes =>
            let size : Int := 60 * hours + minutes
            some (if sign == '-' then -size else size)
      else none
    | [] => none

/-- The microseconds of a fraction of a second: its first six digits, filled up with zeros. -/
def microseconds (digits : List Char) : Nat :=
  let six := digits.take 6
  (six.foldl (fun n c => 10 * n + (c.toNat - 0x30)) 0) * Nat.pow 10 (6 - six.length)

/-- A time of day and its zone. -/
def timeOfDay? (day : Date) (cs : List Char) : Option Moment := do
  let (hour, rest) ← shortNumber? cs
  let (minute, rest) ← (expect? ':' rest).bind pairNumber?
  let (second, rest) ← (expect? ':' rest).bind pairNumber?
  let (fraction, rest) := match rest with
    | '.' :: more => (more.takeWhile isAsciiDigit, more.dropWhile isAsciiDigit)
    | more => ([], more)
  let zone ← zone? rest
  return ⟨day, hour, minute, second, microseconds fraction, zone⟩

/-- A day, given with two digits for month and day, or a point of time; the numbers may still be out
of range. -/
def timestamp? (cs : List Char) : Option (Date ⊕ Moment) := do
  let (century, rest) ← pairNumber? cs
  let (years, rest) ← pairNumber? rest
  let rest ← expect? '-' rest
  let (month, afterMonth) ← shortNumber? rest
  let rest ← expect? '-' afterMonth
  let (day, rest) ← shortNumber? rest
  let date : Date := ⟨100 * century + years, month, day⟩
  if rest.isEmpty then return .inl date
  else
    let rest ← timeSeparator? rest
    let moment ← timeOfDay? date rest
    return .inr moment

/-- Whether a text is a day or a point of time without being tagged as one: a day alone has ten
characters. -/
def isTimestamp (cs : List Char) : Bool :=
  match timestamp? cs with
  | some (.inl _) => cs.length == 10
  | some (.inr _) => true
  | none => false

/-- The characters that stand for themselves alone as indicators. -/
def loneIndicators : List String := ["!", "&", "*"]

/-- The type of a scalar by its form. -/
def tagOfForm (cs : List Char) : Tag :=
  let s := String.ofList cs
  if truthWords.contains s then .bool
  else if isFloat cs then .float
  else if isInt cs then .int
  else if s == "<<" then .merge
  else if nullWords.contains s then .null
  else if isTimestamp cs then .timestamp
  else if s == "=" then .value
  else if loneIndicators.contains s then .indicator
  else .str

/-- A text without the line feed at its end, if there is one. -/
def withoutFinalFeed : List Char → List Char
  | [] => []
  | ['\n'] => []
  | c :: rest => c :: withoutFinalFeed rest

/-- The type of a plain scalar: that of its form, where a line feed at its end does not count unless it is
all that there is. -/
def tagOfPlain (s : String) : Tag :=
  if s == "\n" then .str else tagOfForm (withoutFinalFeed s.toList)

end ClassDiagram.Yaml
