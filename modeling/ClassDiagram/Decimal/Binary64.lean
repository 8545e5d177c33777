/-!
# Floating point numbers

Binary floating point numbers of 64 bits, as exact values: a sign and a whole number times a power
of two, or an infinity, or no number.  Every operation is exact arithmetic followed by one rounding
to the nearest value, a half going to the even neighbour.
-/

set_option autoImplicit false

namespace ClassDiagram.Decimal

/-- A binary floating point number.  A finite one is `± mantissa * 2 ^ exponent`; the values that
`Binary64.round` builds have `mantissa < 2 ^ 53` and `-1074 ≤ exponent ≤ 971`, and an exponent above
the least only with `2 ^ 52 ≤ mantissa`. -/
inductive Binary64 where
  | finite (negative : Bool) (mantissa : Nat) (exponent : Int)
  | infinite (negative : Bool)
  | notANumber
  deriving Repr, DecidableEq

namespace Binary64

/-- The least exponent, that of the smallest positive value. -/
def leastExponent : Int := -1074

/-- The greatest exponent, that of the largest finite value. -/
def greatestExponent : Int := 971

/-- A quotient rounded to the nearest whole number, a half to the even one. -/
def roundedQuotient (num den : Nat) : Nat :=
  let low := num / den
  let twice := 2 * (num % den)
  if twice < den then low
  else if den < twice then low + 1
  else if low % 2 = 0 then low
  else low + 1

/-- The quotient `num / (den * 2 ^ exponent)` as a fraction of natural numbers. -/
def scaledFraction (num den : Nat) (exponent : Int) : Nat × Nat :=
  if 0 ≤ exponent then (num, den * Nat.pow 2 exponent.toNat)
  else (num * Nat.pow 2 (-exponent).toNat, den)

/-- The exponent that gives the fraction `num / den` a mantissa of 53 bits, but not less than the
least one. -/
def exponentFor (num den : Nat) : Int :=
  let guess : Int := (num.log2 : Int) - (den.log2 : Int) - 52
  let (n, d) := scaledFraction num den guess
  let exact := if n < d * Nat.pow 2 52 then guess - 1 else guess
  max exact leastExponent

/-- The value nearest to `± num / den`, for a positive `den`. -/
def round (negative : Bool) (num den : Nat) : Binary64 :=
  if num = 0 then .finite negative 0 leastExponent
  else
    let exponent := exponentFor num den
    let (n, d) := scaledFraction num den exponent
    let mantissa := roundedQuotient n d
    let (mantissa, exponent) :=
      if mantissa = Nat.pow 2 53 then (Nat.pow 2 52, exponent + 1) else (mantissa, exponent)
    if greatestExponent < exponent then .infinite negative
    else .finite negative mantissa exponent

/-- The number of decimal digits of a natural number. -/
def digitCount (n : Nat) : Nat := (Nat.toDigits 10 n).length

/-- The value nearest to `± digits * 10 ^ power`.  Powers far outside the range are answered without
computing them. -/
def ofDecimal (negative : Bool) (digits : Nat) (power : Int) : Binary64 :=
  if digits = 0 then .finite negative 0 leastExponent
  else
    let magnitude := (digitCount digits : Int) + power
    if 310 < magnitude then .infinite negative
    else if magnitude < -330 then .finite negative 0 leastExponent
    else if 0 ≤ power then round negative (digits * Nat.pow 10 power.toNat) 1
    else round negative digits (Nat.pow 10 (-power).toNat)

/-- The value nearest to a whole number. -/
def ofInt (n : Int) : Binary64 := round (decide (n < 0)) n.natAbs 1

/-- The same value with the other sign. -/
def negate : Binary64 → Binary64
  | .finite negative mantissa exponent => .finite (!negative) mantissa exponent
  | .infinite negative => .infinite (!negative)
  | .notANumber => .notANumber

/-- Whether a value is zero, of either sign. -/
def isZero : Binary64 → Bool
  | .finite _ mantissa _ => mantissa == 0
  | _ => false

/-- A signed whole number times a power of two, brought to a common lower exponent. -/
private def aligned (negative : Bool) (mantissa : Nat) (exponent lowest : Int) : Int :=
  let size := (mantissa * Nat.pow 2 (exponent - lowest).toNat : Nat)
  if negative then -(size : Int) else size

/-- The value nearest to `n * 2 ^ exponent`; a zero gets the given sign. -/
private def ofScaled (zeroSign : Bool) (n : Int) (exponent : Int) : Binary64 :=
  if n = 0 then .finite zeroSign 0 leastExponent
  else if 0 ≤ exponent then round (decide (n < 0)) (n.natAbs * Nat.pow 2 exponent.toNat) 1
  else round (decide (n < 0)) n.natAbs (Nat.pow 2 (-exponent).toNat)

/-- The sum, rounded once. -/
def add : Binary64 → Binary64 → Binary64
  | .finite s m e, .finite t n f =>
    let lowest := min e f
    ofScaled (s && t) (aligned s m e lowest + aligned t n f lowest) lowest
  | .notANumber, _ => .notANumber
  | _, .notANumber => .notANumber
  | .infinite s, .infinite t => if s = t then .infinite s else .notANumber
  | .infinite s, _ => .infinite s
  | _, .infinite t => .infinite t

/-- The product, rounded once. -/
def mul : Binary64 → Binary64 → Binary64
  | .finite s m e, .finite t n f =>
    let size := ((m * n : Nat) : Int)
    ofScaled (s != t) (if s != t then -size else size) (e + f)
  | .notANumber, _ => .notANumber
  | _, .notANumber => .notANumber
  | .infinite s, .infinite t => .infinite (s != t)
  | .infinite s, .finite t n _ => if n = 0 then .notANumber else .infinite (s != t)
  | .finite s m _, .infinite t => if m = 0 then .notANumber else .infinite (s != t)

/-- Whether a value equals a whole number. -/
def equalsInt (x : Binary64) (n : Int) : Bool :=
  match x with
  | .finite negative mantissa exponent =>
    if 0 ≤ exponent then aligned negative mantissa exponent 0 == n
    else aligned negative mantissa 0 0 == n * (Nat.pow 2 (-exponent).toNat : Nat)
  | _ => false

/-- A whole number as a value that is not rounded. -/
def exactly (n : Int) : Binary64 := .finite (decide (n < 0)) n.natAbs 0

/-- Whether a value is below another one as a number; what is no number is below none. -/
def isBelow (x y : Binary64) : Bool :=
  match x, y with
  | .notANumber, _ => false
  | _, .notANumber => false
  | .finite s m e, .finite t n f =>
    let lowest := min e f
    aligned s m e lowest < aligned t n f lowest
  | .infinite negative, .finite _ _ _ => negative
  | .finite _ _ _, .infinite negative => !negative
  | .infinite s, .infinite t => s && !t

/-- Whether two values are equal as numbers: the zeros are, and no value equals what is no
number. -/
def sameNumber (x y : Binary64) : Bool :=
  match x, y with
  | .notANumber, _ => false
  | _, .notANumber => false
  | _, _ => x == y || (x.isZero && y.isZero)

end Binary64

end ClassDiagram.Decimal
