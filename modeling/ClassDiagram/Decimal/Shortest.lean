import ClassDiagram.Decimal.Binary64

/-!
# The shortest decimal text of a number

The shortest decimal that reads back as a given binary number, and the ways to write it.  Among the
decimals of one length the nearest to the value is taken, and of two equally near ones the one with
an even last digit.
-/

set_option autoImplicit false

namespace ClassDiagram.Decimal

/-- A positive decimal: `digits * 10 ^ power`. -/
structure Scientific where
  digits : Nat
  power : Int
  deriving Repr, DecidableEq

/-- A positive binary value with the ends of the interval of numbers that round to it, all three
over one denominator.  The ends belong to the interval when `closed` holds. -/
structure RoundingInterval where
  low : Nat
  value : Nat
  high : Nat
  denominator : Nat
  closed : Bool

/-- The numbers that round to `mantissa * 2 ^ exponent`: half a unit to either side, and only a
quarter below a power of two, where the lower neighbour is nearer. -/
def roundingInterval (mantissa : Nat) (exponent : Int) : RoundingInterval :=
  let below := if mantissa = Nat.pow 2 52 && exponent != Binary64.leastExponent then 1 else 2
  let unit := exponent - 2
  let factor := if 0 ≤ unit then Nat.pow 2 unit.toNat else 1
  { low := (4 * mantissa - below) * factor
    value := 4 * mantissa * factor
    high := (4 * mantissa + 2) * factor
    denominator := if 0 ≤ unit then 1 else Nat.pow 2 (-unit).toNat
    closed := mantissa % 2 == 0 }

/-- The number of digits before the decimal point: `10 ^ (n - 1) ≤ value < 10 ^ n`. -/
def RoundingInterval.places (r : RoundingInterval) : Int :=
  (Binary64.digitCount (r.value * Nat.pow 10 400 / r.denominator) : Int) - 400

/-- The decimal of `count` digits in the interval that is nearest to the value. -/
def RoundingInterval.nearestWith? (r : RoundingInterval) (count : Nat) : Option Scientific :=
  let power := r.places - count
  let factor := if power < 0 then Nat.pow 10 (-power).toNat else 1
  let step := r.denominator * (if 0 ≤ power then Nat.pow 10 power.toNat else 1)
  let inside (n : Nat) : Bool :=
    if r.closed then r.low * factor ≤ n * step && n * step ≤ r.high * factor
    else r.low * factor < n * step && n * step < r.high * factor
  let down := r.value * factor / step
  let up := down + 1
  let middle := (2 * down + 1) * step
  let nearer :=
    if 2 * (r.value * factor) < middle then down
    else if middle < 2 * (r.value * factor) then up
    else if down % 2 = 0 then down
    else up
  let farther := if nearer = down then up else down
  if inside nearer then some ⟨nearer, power⟩
  else if inside farther then some ⟨farther, power⟩
  else none

/-- Seventeen digits always identify a value. -/
def mostDigits : Nat := 17

/-- The shortest decimal that rounds to the positive value `mantissa * 2 ^ exponent`. -/
def shortest (mantissa : Nat) (exponent : Int) : Scientific :=
  let r := roundingInterval mantissa exponent
  ((List.range mostDigits).findSome? fun n => r.nearestWith? (n + 1)).getD ⟨mantissa, exponent⟩

/-- How a decimal is written: with a point in its place while the digits before it number more than
`fewestPlaces` and at most `mostPlaces`, else with an exponent of at least `exponentDigits` digits and
a sign. -/
structure DecimalStyle where
  fewestPlaces : Int
  mostPlaces : Int
  exponentDigits : Nat

/-- A whole number with zeros in front up to a width. -/
def paddedDigits (width n : Nat) : List Char :=
  let cs := Nat.toDigits 10 n
  List.replicate (width - cs.length) '0' ++ cs

/-- The digits of a decimal without zeros at the end. -/
def significantDigits (d : Scientific) : List Char :=
  ((Nat.toDigits 10 d.digits).reverse.dropWhile (· == '0')).reverse

/-- Writes a positive decimal.  Positional notation always shows a point and a digit after it. -/
def DecimalStyle.write (style : DecimalStyle) (d : Scientific) : List Char :=
  let places : Int := (Binary64.digitCount d.digits : Int) + d.power
  let digits := significantDigits d
  if style.fewestPlaces < places && places ≤ style.mostPlaces then
    if places ≤ 0 then
      '0' :: '.' :: List.replicate (-places).toNat '0' ++ digits
    else
      let whole := digits.take places.toNat
      let fraction := digits.drop places.toNat
      let zeros := List.replicate (places.toNat - whole.length) '0'
      whole ++ zeros ++ '.' :: (if fraction.isEmpty then ['0'] else fraction)
  else
    let lead := digits.take 1
    let fraction := digits.drop 1
    let point := if fraction.isEmpty then [] else '.' :: fraction
    let exponent := places - 1
    let sign := if exponent < 0 then '-' else '+'
    lead ++ point ++ 'e' :: sign :: paddedDigits style.exponentDigits exponent.natAbs

/-- The text of a binary number: its sign, then its shortest decimal, or the name of what has no
digits. -/
def DecimalStyle.text (style : DecimalStyle) : Binary64 → List Char
  | .notANumber => ['n', 'a', 'n']
  | .infinite negative => (if negative then ['-'] else []) ++ ['i', 'n', 'f']
  | .finite negative mantissa exponent =>
    (if negative then ['-'] else []) ++
      (if mantissa = 0 then ['0', '.', '0'] else style.write (shortest mantissa exponent))

end ClassDiagram.Decimal
