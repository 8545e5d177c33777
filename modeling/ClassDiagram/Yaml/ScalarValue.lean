import ClassDiagram.Decimal.Binary64
import ClassDiagram.Document.Basic
import ClassDiagram.Text.Case
import ClassDiagram.Yaml.Fault
import ClassDiagram.Yaml.Plain

/-!
# The values of scalars

The value that the text of a scalar has under the type it is tagged with.  A tag in the text may ask for
more than the forms of plain scalars admit, so each type reads its text with rules of its own and says what
is wrong with it.
-/

set_option autoImplicit false

namespace ClassDiagram.Yaml

open Decimal (Binary64)

/-! ## Numbers -/

/-- The integer that a text writes to a base. -/
def wholeNumber (base : Nat) (text : List Char) : Except ValueFault Int :=
  (Text.integerOf base text).mapError fun
    | .notInteger => .notInteger base (String.ofList text)
    | .tooManyDigits count => .tooManyDigits count

/-- A text without underscores. -/
def withoutBars (cs : List Char) : List Char := cs.filter (· != '_')

/-- Whether a number has a minus, and what follows its sign; there must be something. -/
def splitSign (cs : List Char) : Except ValueFault (Bool × List Char) :=
  if cs.isEmpty then throw .noDigits else return (Text.isNegative cs, Text.dropSign cs)

/-- The integer that a scalar writes. -/
def intValue (cs : List Char) : Except ValueFault Int := do
  let (negative, digits) ← splitSign (withoutBars cs)
  let size ← match digits with
    | [] => throw .noDigits
    | ['0'] => pure 0
    | '0' :: 'b' :: rest => wholeNumber 2 rest
    | '0' :: 'x' :: rest => wholeNumber 16 rest
    | '0' :: _ => wholeNumber 8 digits
    | _ =>
      if digits.contains ':' then do
        let places ← (digits.splitOn ':').mapM (wholeNumber 10)
        pure (places.foldl (60 * · + ·) 0)
      else wholeNumber 10 digits
  return if negative then -size else size

/-- The power of ten in the exponent of a float, which has a sign or none; nothing is no power. -/
def exponentPower? : List Char → Option Int
  | [] => some 0
  | 'e' :: more =>
    (Text.decimalNumber? (Text.dropSign more)).map fun n =>
      if Text.isNegative more then -(n : Int) else n
  | _ => none

/-- The float that a text in lower case writes: whole digits, a fraction and an exponent, or a word. -/
def decimalFloat (text : List Char) : Except ValueFault Binary64 :=
  let trimmed := Text.trimBy Text.isBlankAroundNumber text
  let negative := Text.isNegative trimmed
  let cs := Text.dropSign trimmed
  let word := String.ofList cs
  if word == "inf" || word == "infinity" then return .infinite negative
  else if word == "nan" then return .notANumber
  else
    let whole := cs.takeWhile Text.isDecimalDigit
    let rest := cs.dropWhile Text.isDecimalDigit
    let (fraction, rest) := match rest with
      | '.' :: more => (more.takeWhile Text.isDecimalDigit, more.dropWhile Text.isDecimalDigit)
      | more => ([], more)
    match Text.decimalNumber? (whole ++ fraction), exponentPower? rest with
    | some n, some power => return Binary64.ofDecimal negative n (power - (fraction.length : Int))
    | _, _ => throw (.notFloat (String.ofList text))

/-- The word for infinity in a float. -/
def infinityWord : List Char := ['.', 'i', 'n', 'f']

/-- The word for what is no number in a float. -/
def notANumberWord : List Char := ['.', 'n', 'a', 'n']

/-- The sum of places to base sixty, the lowest first, with the worth of the next place and the sum so
far.  A place that is worth too much for a float has no value, whatever stands in it. -/
def sumOfPlaces (worth : Int) (sum : Binary64) : List Binary64 → Except ValueFault Binary64
  | [] => return sum
  | place :: rest =>
    match Binary64.ofInt worth with
    | .infinite _ => throw .placeRange
    | unit => sumOfPlaces (60 * worth) (sum.add (place.mul unit)) rest

/-- The text of a float as it is read: without underscores, in lower case. -/
def floatText (cs : List Char) : List Char :=
  (Text.lower (String.ofList (withoutBars cs))).toList

/-- The float that a scalar writes. -/
def floatValue (cs : List Char) : Except ValueFault Binary64 := do
  let (negative, digits) ← splitSign (floatText cs)
  let size ←
    if digits == infinityWord then pure (.infinite false)
    else if digits == notANumberWord then pure .notANumber
    else if digits.contains ':' then do
      let places ← (digits.splitOn ':').mapM decimalFloat
      sumOfPlaces 1 (Binary64.ofInt 0) places.reverse
    else decimalFloat digits
  return if negative then size.negate else size

/-- Whether a float is not the word for what is no number.  A float that is no number and not this word is a
key of its own, while the word is one key. -/
def isNotByWord (cs : List Char) : Bool := Text.dropSign (floatText cs) != notANumberWord

/-! ## Truth values, days and octets -/

/-- The truth value of a word; capitals do not count. -/
def truthValue (text : String) : Except ValueFault Bool :=
  let word := Text.lower text
  if ["yes", "true", "on"].contains word then return true
  else if ["no", "false", "off"].contains word then return false
  else throw (.notTruthValue word)

/-- A day that exists. -/
def checkedDate (d : Date) : Except ValueFault Date := do
  if d.year == 0 then throw (.yearRange d.year)
  if d.month == 0 || 12 < d.month then throw .monthRange
  if d.day == 0 || daysOfMonth d.year d.month < d.day then throw .dayRange
  return d

/-- A point of time that exists. -/
def checkedMoment (m : Moment) : Except ValueFault Moment := do
  if let some minutes := m.offset then
    if minutes ≤ -1440 || 1440 ≤ minutes then throw (.zoneRange minutes)
  let _ ← checkedDate m.date
  if 23 < m.hour then throw .hourRange
  if 59 < m.minute then throw .minuteRange
  if 59 < m.second then throw .secondRange
  return m

/-- The day or the point of time that a scalar writes. -/
def timestampValue (cs : List Char) : Except ValueFault Document :=
  match timestamp? (withoutFinalFeed cs) with
  | none => throw .notTimestamp
  | some (.inl date) => (checkedDate date).map .date
  | some (.inr moment) => (checkedMoment moment).map .moment

/-- The value of a digit to base sixty-four. -/
def base64Value? (c : Char) : Option Nat :=
  let n := c.toNat
  if 'A' ≤ c && c ≤ 'Z' then some (n - 0x41)
  else if 'a' ≤ c && c ≤ 'z' then some (n - 0x61 + 26)
  else if '0' ≤ c && c ≤ '9' then some (n - 0x30 + 52)
  else if c == '+' then some 62
  else if c == '/' then some 63
  else none

/-- The octets that digits to base sixty-four write, where `digits` of the current group of four are
read with `left` still to be written and `pads` padding signs seen.  Other characters are skipped; a
group must be complete or padded. -/
def base64Octets? (read : List Nat) (digits left pads : Nat) : List Char → Option (List Nat)
  | [] => if digits == 0 then some read.reverse else none
  | c :: rest =>
    if c == '=' then
      if 2 ≤ digits then
        if 4 ≤ digits + pads + 1 then some read.reverse
        else base64Octets? read digits left (pads + 1) rest
      else base64Octets? read digits left pads rest
    else
      match base64Value? c with
      | none => base64Octets? read digits left pads rest
      | some n =>
        match digits with
        | 0 => base64Octets? read 1 n 0 rest
        | 1 => base64Octets? ((left * 4 + n / 16) :: read) 2 (n % 16) 0 rest
        | 2 => base64Octets? ((left * 16 + n / 4) :: read) 3 (n % 4) 0 rest
        | _ => base64Octets? ((left * 64 + n) :: read) 0 0 0 rest

/-- The octets that a scalar writes in ASCII characters. -/
def binaryValue? (cs : List Char) : Option (List Nat) :=
  if cs.all fun c => c.toNat < 0x80 then base64Octets? [] 0 0 0 cs else none

/-! ## Scalars -/

/-- The value of a text tagged with a type; no text is of a type that has no scalars. -/
def scalarValue (tag : Tag) (text : String) : Except Fault Document :=
  match tag with
  | .null => return .null
  | .bool => ((truthValue text).map .bool).mapError .value
  | .int => ((intValue text.toList).map .int).mapError .value
  | .float => ((floatValue text.toList).map .float).mapError .value
  | .timestamp => (timestampValue text.toList).mapError .value
  | .str => return .text text
  | .binary => (wellFormed (binaryValue? text.toList)).map .bytes
  | _ => throw .malformed

end ClassDiagram.Yaml
