import ClassDiagram.Document.Basic
import Mathlib.Algebra.Order.Ring.Int
import Mathlib.Tactic.Ring

/-!
# Keys that are the same

Two keys are the same if they are equal as values, whatever they are written as: the number one, the float one and true
are one key, and so are two clocks of different zones that show one point of time.  What a key stands for is told by
`Document.keyValue`, and keys are the same exactly if they stand for the same (`Document.sameKey_iff`).  So being the
same key is an equivalence.  Numbers are compared in units of the least positive float; a float has one way to be written
in these if it is written as rounding writes it (`Binary64.IsRounded`).
-/

set_option autoImplicit false

namespace ClassDiagram

namespace Decimal.Binary64

/-- Whether a value is written as rounding writes it: with a mantissa of 53 bits, and with fewer only at the least
exponent. -/
def IsRounded : Binary64 → Prop
  | .finite _ mantissa exponent =>
    mantissa < 2 ^ 53 ∧ leastExponent ≤ exponent ∧ (leastExponent < exponent → 2 ^ 52 ≤ mantissa)
  | _ => True

/-- A size with a sign. -/
def signed (negative : Bool) (size : Nat) : Int := if negative then -(size : Int) else size

/-- The number of units that one has, a unit being the least positive value. -/
def unitsOfOne : Int := 2 ^ (-leastExponent).toNat

/-- The number of units that a finite value has. -/
def units (negative : Bool) (mantissa : Nat) (exponent : Int) : Int :=
  signed negative mantissa * 2 ^ (exponent - leastExponent).toNat

variable {s t : Bool} {m k : Nat} {e f : Int}

/-- A sign can be put on a product or on its first factor. -/
theorem signed_mul (s : Bool) (m k : Nat) : signed s (m * k) = signed s m * k := by
  cases s <;> simp [signed]

/-- A sign does not change a size. -/
theorem natAbs_signed (s : Bool) (m : Nat) : (signed s m).natAbs = m := by
  cases s <;> simp [signed]

/-- One is more than no unit. -/
theorem unitsOfOne_pos : 0 < unitsOfOne := Int.pow_pos (by decide)

/-- A value equals a whole number if both have the same number of units. -/
theorem equalsInt_iff (least : leastExponent ≤ e) (n : Int) :
    equalsInt (.finite s m e) n = true ↔ units s m e = n * unitsOfOne := by
  have opened : equalsInt (.finite s m e) n =
      if 0 ≤ e then signed s (m * 2 ^ (e - 0).toNat) == n
      else signed s (m * 2 ^ ((0 : Int) - 0).toNat) == n * ((2 ^ (-e).toNat : Nat) : Int) := rfl
  rw [opened, units, unitsOfOne]
  split
  · next whole =>
    have exponents : (e - leastExponent).toNat = (e - 0).toNat + (-leastExponent).toNat := by
      rw [leastExponent] at *
      omega
    rw [beq_iff_eq, exponents, signed_mul, pow_add, ← mul_assoc, Nat.cast_pow, Nat.cast_ofNat]
    exact (Int.mul_eq_mul_right_iff (Int.pow_pos (by decide)).ne').symm
  · next broken =>
    have exponents : (-leastExponent).toNat = (-e).toNat + (e - leastExponent).toNat := by
      rw [leastExponent] at *
      omega
    rw [beq_iff_eq, exponents, signed_mul, pow_add, ← mul_assoc, Nat.cast_pow, Nat.cast_ofNat]
    simp only [sub_zero, Int.toNat_zero, pow_zero, mul_one]
    exact (Int.mul_eq_mul_right_iff (Int.pow_pos (by decide)).ne').symm

/-- A mantissa and an exponent as rounding writes them are told by the size. -/
theorem rounded_inj {a b : Nat} (short : m < 2 ^ 53) (short' : k < 2 ^ 53) (long : 0 < a → 2 ^ 52 ≤ m)
    (long' : 0 < b → 2 ^ 52 ≤ k) (same : m * 2 ^ a = k * 2 ^ b) : m = k ∧ a = b := by
  -- The mantissa at the lower exponent would be twice as large as it can be.
  have below : ∀ {m k a b : Nat}, m < 2 ^ 53 → (0 < b → 2 ^ 52 ≤ k) → m * 2 ^ a = k * 2 ^ b → ¬ a < b := by
    intro m k a b short long same less
    obtain ⟨d, rfl⟩ : ∃ d, b = a + (d + 1) := ⟨b - a - 1, by omega⟩
    have size : m = k * 2 ^ (d + 1) := by
      apply Nat.eq_of_mul_eq_mul_right (Nat.pow_pos (n := a) (by decide : 0 < 2))
      rw [same, pow_add]
      ring
    have least : 1 ≤ 2 ^ d := Nat.one_le_two_pow
    have more : 2 ^ 52 * 1 ≤ k * 2 ^ d := Nat.mul_le_mul (long (by omega)) least
    have twice : m = 2 * (k * 2 ^ d) := by
      rw [size, pow_succ]
      ring
    omega
  have equal : a = b := by
    have not_less := below short long' same
    have not_more := below short' long same.symm
    omega
  subst equal
  exact ⟨Nat.eq_of_mul_eq_mul_right (Nat.pow_pos (by decide)) same, rfl⟩

/-- Finite values are equal as numbers if they have the same number of units. -/
theorem sameNumber_iff (rounded : IsRounded (.finite s m e)) (rounded' : IsRounded (.finite t k f)) :
    sameNumber (.finite s m e) (.finite t k f) = true ↔ units s m e = units t k f := by
  obtain ⟨short, least, long⟩ := rounded
  obtain ⟨short', least', long'⟩ := rounded'
  simp only [sameNumber, isZero, Bool.or_eq_true, Bool.and_eq_true, beq_iff_eq, finite.injEq]
  constructor
  · rintro (⟨rfl, rfl, rfl⟩ | ⟨rfl, rfl⟩)
    · rfl
    · simp [units, signed]
  · intro same
    have sizes : m * 2 ^ (e - leastExponent).toNat = k * 2 ^ (f - leastExponent).toNat := by
      have abs := congrArg Int.natAbs same
      rw [units, units, Int.natAbs_mul, Int.natAbs_mul, natAbs_signed, natAbs_signed, Int.natAbs_pow,
        Int.natAbs_pow] at abs
      exact abs
    have above : 0 < (e - leastExponent).toNat → 2 ^ 52 ≤ m := by
      intro pos
      exact long (by omega)
    have above' : 0 < (f - leastExponent).toNat → 2 ^ 52 ≤ k := by
      intro pos
      exact long' (by omega)
    obtain ⟨rfl, exponents⟩ := rounded_inj short short' above above' sizes
    obtain rfl : e = f := by omega
    by_cases zero : m = 0
    · exact .inr ⟨zero, zero⟩
    · refine .inl ⟨?_, rfl, rfl⟩
      rw [units, units, Int.mul_eq_mul_right_iff (Int.pow_pos (by decide)).ne'] at same
      revert same
      cases s <;> cases t <;> simp [signed] <;> omega

end Decimal.Binary64

namespace Document

open Decimal (Binary64)

/-! ## Values that are built alike -/

mutual

/-- Values are alike exactly if they are equal. -/
theorem isAlike_iff (a b : Document) : isAlike a b = true ↔ a = b := by
  cases a <;> cases b <;> simp [isAlike, isAlike_iff, areAlike_iff, entriesAlike_iff]

/-- Lists of values are alike exactly if they are equal. -/
theorem areAlike_iff (xs ys : List Document) : areAlike xs ys = true ↔ xs = ys := by
  cases xs <;> cases ys <;> simp [areAlike, isAlike_iff, areAlike_iff]

/-- Entries of mappings are alike exactly if they are equal. -/
theorem entriesAlike_iff (xs ys : List (Document × Document)) : entriesAlike xs ys = true ↔ xs = ys := by
  cases xs <;> cases ys <;> simp [entriesAlike, isAlike_iff, entriesAlike_iff, Prod.ext_iff]

end

instance : DecidableEq Document := fun a b => decidable_of_iff _ (isAlike_iff a b)

/-! ## What keys stand for -/

/-- The size of a number: none, infinite, or a number of units. -/
inductive Size where
  | notANumber
  | infinite (negative : Bool)
  | units (number : Int)

/-- The size of a float. -/
def sizeOfFloat : Binary64 → Size
  | .notANumber => .notANumber
  | .infinite negative => .infinite negative
  | .finite negative mantissa exponent => .units (Binary64.units negative mantissa exponent)

/-- The size of a whole number. -/
def sizeOfInt (n : Int) : Size := .units (n * Binary64.unitsOfOne)

/-- When a moment is: at a time of a clock without a zone, or at a minute of universal time. -/
inductive Instant where
  | clock (value : Moment)
  | universal (minutes : Int) (second microsecond : Nat)

/-- When a moment is. -/
def instantOf (m : Moment) : Instant :=
  match m.offset with
  | none => .clock m
  | some ahead => .universal (m.localMinutes - ahead) m.second m.microsecond

/-- What a key stands for. -/
inductive KeyValue where
  | number (size : Size)
  | moment (instant : Instant)
  | other (d : Document)

/-- What a value stands for as a key. -/
def keyValue : Document → KeyValue
  | float value => .number (sizeOfFloat value)
  | bool value => .number (sizeOfInt (if value then 1 else 0))
  | int value => .number (sizeOfInt value)
  | moment value => .moment (instantOf value)
  | other => .other other

/-- Whether a value is written as rounding writes it, if it is a float. -/
def IsRounded : Document → Prop
  | float value => value.IsRounded
  | _ => True

/-- Integers of one size are equal. -/
theorem sizeOfInt_inj {m n : Int} : sizeOfInt m = sizeOfInt n ↔ m = n := by
  rw [sizeOfInt, sizeOfInt, Size.units.injEq]
  exact Int.mul_eq_mul_right_iff Binary64.unitsOfOne_pos.ne'

/-- A float is compared with an integer by their sizes. -/
theorem sizeOfFloat_eq_sizeOfInt {x : Binary64} (rounded : x.IsRounded) (n : Int) :
    x.equalsInt n = true ↔ sizeOfFloat x = sizeOfInt n := by
  cases x with
  | finite s m e =>
    rw [Binary64.equalsInt_iff rounded.2.1, sizeOfFloat, sizeOfInt, Size.units.injEq]
  | infinite s => exact ⟨nofun, nofun⟩
  | notANumber => exact ⟨nofun, nofun⟩

/-- Two floats are one key exactly if they have the same size. -/
theorem sameKey_floats {x y : Binary64} (rounded : x.IsRounded) (rounded' : y.IsRounded) :
    (float x).sameKey (float y) = true ↔ sizeOfFloat x = sizeOfFloat y := by
  cases x <;> cases y
  case finite.finite =>
    rw [sizeOfFloat, sizeOfFloat, Size.units.injEq]
    exact Binary64.sameNumber_iff rounded rounded'
  all_goals simp [sameKey, sizeOfFloat, Binary64.sameNumber, Binary64.isZero]

/-- Two points of time are the same exactly if they are at one instant. -/
theorem isSame_iff (x y : Moment) : x.isSame y = true ↔ instantOf x = instantOf y := by
  cases ahead : x.offset <;> cases ahead' : y.offset
  all_goals simp [Moment.isSame, instantOf, ahead, ahead', and_assoc]

/-- Keys are the same exactly if they stand for the same. -/
theorem sameKey_iff {a b : Document} (rounded : a.IsRounded) (rounded' : b.IsRounded) :
    a.sameKey b = true ↔ a.keyValue = b.keyValue := by
  cases a <;> cases b
  case float.float => simpa [keyValue] using sameKey_floats rounded rounded'
  case moment.moment => simpa [keyValue, sameKey] using isSame_iff _ _
  case float.int x n => simpa [keyValue, sameKey, asInt?] using sizeOfFloat_eq_sizeOfInt rounded n
  case float.bool x v => simpa [keyValue, sameKey, asInt?] using sizeOfFloat_eq_sizeOfInt rounded _
  case int.float n x => simpa [keyValue, sameKey, asInt?] using (sizeOfFloat_eq_sizeOfInt rounded' n).trans eq_comm
  case bool.float v x => simpa [keyValue, sameKey, asInt?] using (sizeOfFloat_eq_sizeOfInt rounded' _).trans eq_comm
  -- The other pairs are of two whole numbers, of two values that are compared as they are, or of two kinds.
  all_goals simp [sameKey, asInt?, keyValue, sizeOfInt_inj, BEq.beq, isAlike_iff]

section

variable {a b c : Document}

/-- A key is the same as itself. -/
theorem sameKey_refl (rounded : a.IsRounded) : a.sameKey a = true := (sameKey_iff rounded rounded).2 rfl

/-- Whether two keys are the same does not depend on their order. -/
theorem sameKey_comm (rounded : a.IsRounded) (rounded' : b.IsRounded) : a.sameKey b = b.sameKey a := by
  rw [Bool.eq_iff_iff, sameKey_iff rounded rounded', sameKey_iff rounded' rounded]
  exact eq_comm

/-- What is the same key as one of two that are the same is the same as the other. -/
theorem sameKey_congr (rounded : a.IsRounded) (rounded' : b.IsRounded) (same : a.sameKey b = true)
    (other : c.IsRounded) : a.sameKey c = b.sameKey c := by
  rw [sameKey_iff rounded rounded'] at same
  rw [Bool.eq_iff_iff, sameKey_iff rounded other, sameKey_iff rounded' other, same]

end

end Document

end ClassDiagram
