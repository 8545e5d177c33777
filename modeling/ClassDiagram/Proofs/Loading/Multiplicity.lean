import ClassDiagram.Multiplicity
import ClassDiagram.Proofs.Fallible
import Mathlib.Data.List.TakeWhile

/-!
# The texts that write multiplicities

A multiplicity is written as a number, a star, or a number and a second bound with two dots between them, with any
white space around each (`WritesMultiplicity`).  Digits, blanks, the star and the dot are four classes of characters
with nothing in common, so a text has at most one of these forms, and each step of the reading takes exactly one part
off the front.  What is read is therefore what is written (`readMultiplicity_eq_ok`).
-/

set_option autoImplicit false

namespace ClassDiagram

/-! ## Numbers -/

/-- Some decimal digits write a number; they are few enough to be read. -/
def WritesNumber (digits : List Char) (n : Nat) : Prop :=
  Text.decimalNumber? digits = some n ∧ digits.length ≤ Text.mostDigitsRead

namespace Text

/-- The value of a digit is below ten. -/
theorem lt_of_decimalValue? {c : Char} {d : Nat} (found : decimalValue? c = some d) : d < 10 := by
  unfold decimalValue? at found
  obtain ⟨first, there, rfl⟩ := Option.map_eq_some_iff.1 found
  have near := List.find?_some there
  simp only [Bool.and_eq_true, decide_eq_true_eq] at near
  omega

/-- The digits to the base ten are the decimal ones. -/
theorem digitValue?_ten (c : Char) : digitValue? 10 c = decimalValue? c := by
  unfold digitValue?
  cases value : decimalValue? c with
  | some d =>
    have small := lt_of_decimalValue? value
    simpa [Option.filter] using small
  | none =>
    dsimp only
    split
    · next letter =>
      simp only [Bool.and_eq_true, decide_eq_true_eq] at letter
      have large : ¬ c.toNat - 0x57 < 10 := by omega
      simp [Option.filter, large]
    · split
      · next letter =>
        simp only [Bool.and_eq_true, decide_eq_true_eq] at letter
        have large : ¬ c.toNat - 0x37 < 10 := by omega
        simp [Option.filter, large]
      · rfl

/-- What is read as a decimal number consists of decimal digits. -/
theorem all_isDecimalDigit {high n : Nat} {digits : List Char} (read : decimalNumberFrom? high digits = some n) :
    ∀ c ∈ digits, isDecimalDigit c := by
  induction digits generalizing high with
  | nil => exact nofun
  | cons c rest ih =>
    unfold decimalNumberFrom? at read
    cases value : decimalValue? c with
    | none =>
      rw [value] at read
      cases read
    | some d =>
      rw [value] at read
      rw [List.forall_mem_cons, isDecimalDigit, value]
      exact ⟨rfl, ih read⟩

/-- The digits of a number are worth the sum of their places. -/
theorem decimalNumberFrom?_eq (high : Nat) {digits : List Char} (decimal : ∀ c ∈ digits, isDecimalDigit c) :
    decimalNumberFrom? high digits =
      some ((digits.map decimalValue?).foldl (fun n value => 10 * n + value.getD 0) high) := by
  induction digits generalizing high with
  | nil => rfl
  | cons c rest ih =>
    rw [List.forall_mem_cons] at decimal
    obtain ⟨d, value⟩ := Option.isSome_iff_exists.1 decimal.1
    unfold decimalNumberFrom?
    rw [value, List.map_cons, List.foldl_cons, value]
    exact ih _ decimal.2

end Text

/-- A number is written by some decimal digits. -/
theorem WritesNumber.decimal {digits : List Char} {n : Nat} (written : WritesNumber digits n) :
    digits ≠ [] ∧ ∀ c ∈ digits, Text.isDecimalDigit c := by
  obtain ⟨read, -⟩ := written
  cases digits with
  | nil => cases read
  | cons c rest => exact ⟨List.cons_ne_nil c rest, Text.all_isDecimalDigit read⟩

/-- Characters all have a value as digits exactly if they are decimal digits. -/
theorem takeWhile_values {digits : List Char} :
    (digits.map Text.decimalValue?).takeWhile Option.isSome = digits.map Text.decimalValue? ↔
      ∀ c ∈ digits, Text.isDecimalDigit c := by
  rw [List.takeWhile_eq_self_iff, List.forall_mem_map]
  rfl

/-- What digits are read as is the number that they write. -/
theorem numberOfDigits_eq_ok {digits : List Char} {n : Nat} : numberOfDigits digits = .ok n ↔ WritesNumber digits n := by
  have values : Text.digitValue? 10 = Text.decimalValue? := funext Text.digitValue?_ten
  unfold numberOfDigits Text.naturalOf
  rw [mapError_eq_ok, values]
  dsimp only
  constructor
  · intro read
    split at read
    · cases read
    · next few =>
      split at read
      · cases read
      · next whole =>
        simp only [Bool.or_eq_true, List.isEmpty_iff, decide_eq_true_eq, not_or, Nat.not_lt] at whole
        obtain ⟨some, long⟩ := whole
        have all := (List.takeWhile_prefix (p := Option.isSome) (l := digits.map Text.decimalValue?)).eq_of_length_le
          (by rwa [List.length_map])
        have decimal := takeWhile_values.1 all
        rw [all] at read few
        obtain rfl := Except.ok.inj read
        refine ⟨?_, by simpa using few⟩
        cases digits with
        | nil => exact absurd rfl some
        | cons c rest => exact Text.decimalNumberFrom?_eq 0 decimal
  · intro written
    obtain ⟨some, decimal⟩ := written.decimal
    obtain ⟨read, few⟩ := written
    rw [takeWhile_values.2 decimal, List.length_map, if_neg (by simpa using few), if_neg (by simpa using some)]
    have worth : Text.decimalNumber? digits = Text.decimalNumberFrom? 0 digits := by
      cases digits with
      | nil => exact absurd rfl some
      | cons c rest => rfl
    rw [worth, Text.decimalNumberFrom?_eq 0 decimal] at read
    exact congrArg Except.ok (Option.some.inj read)

/-! ## Blanks -/

/-- Whether there are only blanks, if anything. -/
def AreBlank (cs : List Char) : Prop := ∀ c ∈ cs, Text.isBlank c

/-- White space in front of characters is skipped. -/
theorem exists_blanks (cs : List Char) : ∃ blanks, AreBlank blanks ∧ cs = blanks ++ skipBlanks cs :=
  ⟨cs.takeWhile Text.isBlank, fun _ there => List.mem_takeWhile_imp there, List.takeWhile_append_dropWhile.symm⟩

/-- White space in front of characters does not count. -/
theorem skipBlanks_append {blanks : List Char} (blank : AreBlank blanks) (cs : List Char) :
    skipBlanks (blanks ++ cs) = skipBlanks cs :=
  List.dropWhile_append_of_pos blank

/-- Nothing is left without white space exactly if there was nothing else. -/
theorem skipBlanks_eq_nil {cs : List Char} : skipBlanks cs = [] ↔ AreBlank cs := List.dropWhile_eq_nil_iff

/-- Nothing is skipped in front of a character that is not white. -/
theorem skipBlanks_cons {c : Char} (visible : Text.isBlank c = false) (rest : List Char) :
    skipBlanks (c :: rest) = c :: rest := by
  rw [skipBlanks, List.dropWhile_cons, visible]
  rfl

/-- No digit is white space: the blocks of digits and the ranges of blanks lie apart. -/
theorem not_isBlank_of_isDecimalDigit {c : Char} (digit : Text.isDecimalDigit c) : Text.isBlank c = false := by
  have apart : ∀ first ∈ Text.decimalZeros, ∀ r ∈ Text.blankRanges, first + 9 < r.first ∨ r.last < first := by decide
  obtain ⟨d, value⟩ := Option.isSome_iff_exists.1 digit
  obtain ⟨first, there, -⟩ := Option.map_eq_some_iff.1 value
  have near := List.find?_some there
  simp only [Bool.and_eq_true, decide_eq_true_eq] at near
  unfold Text.isBlank Text.inRanges
  rw [List.any_eq_false]
  intro r among inside
  simp only [Text.CodeRange.contains, Bool.and_eq_true, decide_eq_true_eq] at inside
  rcases apart first (List.mem_of_find?_eq_some there) r among with below | above
  · omega
  · omega

/-! ## Bounds in a text -/

namespace BoundText

/-- How a bound is written. -/
def chars : BoundText → List Char
  | star => ['*']
  | digits cs => cs

/-- A bound that a text can hold: a star, or decimal digits. -/
def IsProper : BoundText → Prop
  | star => True
  | digits cs => cs ≠ [] ∧ ∀ c ∈ cs, Text.isDecimalDigit c

/-- The text of a bound begins with a character that is not white. -/
theorem IsProper.exists_cons {b : BoundText} (proper : b.IsProper) :
    ∃ c rest, b.chars = c :: rest ∧ Text.isBlank c = false := by
  cases b with
  | star => exact ⟨'*', [], rfl, by decide⟩
  | digits cs =>
    obtain ⟨some, decimal⟩ := proper
    obtain ⟨c, rest, rfl⟩ := List.exists_cons_of_ne_nil some
    exact ⟨c, rest, rfl, not_isBlank_of_isDecimalDigit (decimal c List.mem_cons_self)⟩

end BoundText

/-- The text of a bound that is read is a proper one, in front of what is left. -/
theorem BoundText.isProper_of_read {cs rest : List Char} {b : BoundText} (read : boundText? cs = some (b, rest)) :
    b.IsProper ∧ cs = b.chars ++ rest := by
  unfold boundText? at read
  split at read
  · obtain ⟨rfl, rfl⟩ := Prod.mk.inj (Option.some.inj read)
    exact ⟨trivial, rfl⟩
  · dsimp only at read
    split at read
    · cases read
    · next some =>
      obtain ⟨rfl, rfl⟩ := Prod.mk.inj (Option.some.inj read)
      have proper : (BoundText.digits (cs.takeWhile Text.isDecimalDigit)).IsProper :=
        ⟨by simpa using some, fun _ there => List.mem_takeWhile_imp there⟩
      exact ⟨proper, List.takeWhile_append_dropWhile.symm⟩

/-- A bound is read up to the first character that is no digit. -/
theorem boundText?_append {b : BoundText} (proper : b.IsProper) {rest : List Char}
    (ends : rest.head?.all (! Text.isDecimalDigit ·)) : boundText? (b.chars ++ rest) = some (b, rest) := by
  cases b with
  | star => rfl
  | digits cs =>
    obtain ⟨some, decimal⟩ := proper
    have stop : rest.takeWhile Text.isDecimalDigit = [] ∧ rest.dropWhile Text.isDecimalDigit = rest := by
      cases rest with
      | nil => exact ⟨rfl, rfl⟩
      | cons c more =>
        have other : Text.isDecimalDigit c = false := by simpa using ends
        simp [other]
    have taken : (cs ++ rest).takeWhile Text.isDecimalDigit = cs := by
      rw [List.takeWhile_append_of_pos decimal, stop.1, List.append_nil]
    have dropped : (cs ++ rest).dropWhile Text.isDecimalDigit = rest := by
      rw [List.dropWhile_append_of_pos decimal, stop.2]
    change boundText? (cs ++ rest) = _
    unfold boundText?
    split
    · next more same =>
      obtain ⟨c, others, rfl⟩ := List.exists_cons_of_ne_nil some
      obtain ⟨rfl, -⟩ := List.cons.inj same
      exact absurd (decimal '*' List.mem_cons_self) (by decide)
    · dsimp only
      rw [taken, dropped, if_neg (by simpa using some)]

/-- A text holds one bound or two, with blanks around each. -/
inductive WritesBounds : List Char → BoundText → Option BoundText → Prop where
  | one {before b after} (leading : AreBlank before) (proper : b.IsProper) (trailing : AreBlank after) :
    WritesBounds (before ++ (b.chars ++ after)) b none
  | two {before b inner inner' b' after} (leading : AreBlank before) (proper : b.IsProper) (left : AreBlank inner)
    (right : AreBlank inner') (proper' : b'.IsProper) (trailing : AreBlank after) :
    WritesBounds (before ++ (b.chars ++ (inner ++ '.' :: '.' :: (inner' ++ (b'.chars ++ after))))) b (some b')

/-- The bounds that are read from a text are written in it. -/
theorem WritesBounds.of_read {cs : List Char} {b : BoundText} {b' : Option BoundText}
    (read : boundTexts? cs = some (b, b')) : WritesBounds cs b b' := by
  unfold boundTexts? at read
  obtain ⟨⟨first, rest⟩, found, read⟩ := Option.bind_eq_some_iff.1 read
  obtain ⟨proper, split⟩ := BoundText.isProper_of_read found
  obtain ⟨before, leading, cut⟩ := exists_blanks cs
  rw [cut, split]
  dsimp only at read
  split at read
  · next last =>
    obtain ⟨rfl, rfl⟩ := Prod.mk.inj (Option.some.inj read)
    exact .one leading proper (skipBlanks_eq_nil.1 last)
  · next rest' dots =>
    obtain ⟨⟨second, rest''⟩, found', read⟩ := Option.bind_eq_some_iff.1 read
    obtain ⟨proper', split'⟩ := BoundText.isProper_of_read found'
    obtain ⟨blank, same⟩ := Option.ite_none_right_eq_some.1 read
    obtain ⟨rfl, rfl⟩ := Prod.mk.inj (Option.some.inj same)
    obtain ⟨inner, left, cut'⟩ := exists_blanks rest
    obtain ⟨inner', right, cut''⟩ := exists_blanks rest'
    rw [cut', dots, cut'', split']
    exact .two leading proper left right proper' (skipBlanks_eq_nil.1 (List.isEmpty_iff.1 blank))
  · cases read

/-- The text of a bound is read to its end if no digit follows. -/
theorem BoundText.IsProper.read {b : BoundText} (proper : b.IsProper) {before rest : List Char}
    (leading : AreBlank before) (ends : rest.head?.all (! Text.isDecimalDigit ·)) :
    boundText? (skipBlanks (before ++ (b.chars ++ rest))) = some (b, rest) := by
  obtain ⟨c, more, same, visible⟩ := proper.exists_cons
  have kept : skipBlanks (b.chars ++ rest) = b.chars ++ rest := by
    rw [same]
    exact skipBlanks_cons visible _
  rw [skipBlanks_append leading, kept]
  exact boundText?_append proper ends

/-- White space keeps digits apart. -/
theorem AreBlank.ends {blanks : List Char} (blank : AreBlank blanks) (rest : List Char)
    (ends : rest.head?.all (! Text.isDecimalDigit ·)) : (blanks ++ rest).head?.all (! Text.isDecimalDigit ·) := by
  cases blanks with
  | nil => exact ends
  | cons c more =>
    have other : Text.isDecimalDigit c = false := by
      by_contra digit
      have visible := not_isBlank_of_isDecimalDigit (Bool.not_eq_false _ ▸ digit)
      rw [blank c List.mem_cons_self] at visible
      cases visible
    simp [other]

/-- The bounds that are read are those that the text holds. -/
theorem boundTexts?_eq_some {cs : List Char} {b : BoundText} {b' : Option BoundText} :
    boundTexts? cs = some (b, b') ↔ WritesBounds cs b b' := by
  refine ⟨WritesBounds.of_read, fun written => ?_⟩
  unfold boundTexts?
  cases written with
  | @one before b after leading proper trailing =>
    have read : boundText? (skipBlanks (before ++ (b.chars ++ after))) = some (b, after) :=
      proper.read leading (by simpa using trailing.ends [] rfl)
    rw [read, Option.bind_eq_bind, Option.bind_some]
    dsimp only
    rw [skipBlanks_eq_nil.2 trailing]
    rfl
  | @two before b inner inner' b' after leading proper left right proper' trailing =>
    have read := proper.read leading (left.ends ('.' :: '.' :: (inner' ++ (b'.chars ++ after))) rfl)
    have read' := proper'.read right (by simpa using trailing.ends [] rfl)
    rw [read, Option.bind_eq_bind, Option.bind_some]
    dsimp only
    rw [skipBlanks_append left, skipBlanks_cons (by decide)]
    change (boundText? (skipBlanks (inner' ++ (b'.chars ++ after)))).bind
      (fun second => if (skipBlanks second.2).isEmpty then some (b, some second.1) else none) = some (b, some b')
    rw [read', Option.bind_some, skipBlanks_eq_nil.2 trailing]
    rfl

/-! ## Multiplicities -/

/-- A text writes a multiplicity: a number for both bounds, a star for any number of values, or a number and a second
bound. -/
inductive WritesMultiplicity (cs : List Char) : Int → Int → Prop where
  | exactly {digits n} (bounds : WritesBounds cs (.digits digits) none) (number : WritesNumber digits n) :
    WritesMultiplicity cs n n
  | any (bounds : WritesBounds cs .star none) : WritesMultiplicity cs 0 (-1)
  | between {digits digits' n m} (bounds : WritesBounds cs (.digits digits) (some (.digits digits')))
    (lower : WritesNumber digits n) (upper : WritesNumber digits' m) : WritesMultiplicity cs n m
  | atLeast {digits n} (bounds : WritesBounds cs (.digits digits) (some .star)) (lower : WritesNumber digits n) :
    WritesMultiplicity cs n (-1)

/-- What a text is read as is the multiplicity that it writes. -/
theorem readMultiplicity_eq_ok {cs : List Char} {lower upper : Int} :
    readMultiplicity cs = .ok (lower, upper) ↔ WritesMultiplicity cs lower upper := by
  constructor
  · intro read
    unfold readMultiplicity at read
    split at read
    · cases read
    · next found =>
      obtain ⟨rfl, rfl⟩ := Prod.mk.inj (Except.ok.inj read)
      exact .any (boundTexts?_eq_some.1 found)
    · next digits found =>
      obtain ⟨n, number, same⟩ := bind_eq_ok.1 read
      obtain ⟨rfl, rfl⟩ := Prod.mk.inj (Except.ok.inj same)
      exact .exactly (boundTexts?_eq_some.1 found) (numberOfDigits_eq_ok.1 number)
    · cases read
    · next digits found =>
      obtain ⟨n, number, same⟩ := bind_eq_ok.1 read
      obtain ⟨rfl, rfl⟩ := Prod.mk.inj (Except.ok.inj same)
      exact .atLeast (boundTexts?_eq_some.1 found) (numberOfDigits_eq_ok.1 number)
    · next digits digits' found =>
      obtain ⟨n, number, rest⟩ := bind_eq_ok.1 read
      obtain ⟨m, number', same⟩ := bind_eq_ok.1 rest
      obtain ⟨rfl, rfl⟩ := Prod.mk.inj (Except.ok.inj same)
      exact .between (boundTexts?_eq_some.1 found) (numberOfDigits_eq_ok.1 number) (numberOfDigits_eq_ok.1 number')
  · intro written
    unfold readMultiplicity
    cases written with
    | exactly bounds number =>
      rw [boundTexts?_eq_some.2 bounds]
      dsimp only
      rw [numberOfDigits_eq_ok.2 number]
      rfl
    | any bounds =>
      rw [boundTexts?_eq_some.2 bounds]
      rfl
    | between bounds lower upper =>
      rw [boundTexts?_eq_some.2 bounds]
      dsimp only
      rw [numberOfDigits_eq_ok.2 lower, numberOfDigits_eq_ok.2 upper]
      rfl
    | atLeast bounds lower =>
      rw [boundTexts?_eq_some.2 bounds]
      dsimp only
      rw [numberOfDigits_eq_ok.2 lower]
      rfl

/-- A text writes a bound that stands alone: a star, or a number. -/
inductive WritesBound : List Char → Int → Prop where
  | unlimited : WritesBound ['*'] (-1)
  | number {digits n} (number : WritesNumber digits n) : WritesBound digits n

/-- A bound is read from a text exactly if it is written in it. -/
theorem readBound_eq_ok {cs : List Char} {bound : Int} : readBound cs = .ok bound ↔ WritesBound cs bound := by
  constructor
  · intro read
    unfold readBound at read
    split at read
    · next star =>
      obtain rfl := Except.ok.inj read
      rw [eq_of_beq star]
      exact .unlimited
    · split at read
      · cases read
      · obtain ⟨n, number, same⟩ := bind_eq_ok.1 read
        obtain rfl := Except.ok.inj same
        exact .number (numberOfDigits_eq_ok.1 number)
  · intro written
    cases written with
    | unlimited => rfl
    | @number digits n number =>
      obtain ⟨some, decimal⟩ := number.decimal
      have noStar : ¬ (cs == ['*']) = true := by
        intro star
        rw [eq_of_beq star] at decimal
        exact absurd (decimal '*' List.mem_cons_self) (by decide)
      have all : cs.all Text.isDigit = true := by
        rw [List.all_eq_true]
        intro c there
        rw [Text.isDigit, decimal c there]
        rfl
      unfold readBound
      rw [if_neg noStar, if_neg (by simpa [all] using some), numberOfDigits_eq_ok.2 number]
      rfl

/-! ## What no multiplicity holds -/

/-- The characters of multiplicities. -/
def IsBoundChar (c : Char) : Prop := Text.isBlank c ∨ Text.isDecimalDigit c ∨ c = '*' ∨ c = '.'

/-- The text of a bound consists of decimal digits or is a star. -/
theorem BoundText.IsProper.mem_chars {b : BoundText} (proper : b.IsProper) {c : Char} (there : c ∈ b.chars) :
    Text.isDecimalDigit c ∨ c = '*' := by
  cases b with
  | star => exact .inr (List.mem_singleton.1 there)
  | digits cs => exact .inl (proper.2 c there)

/-- Bounds are written with digits, stars, dots and white space. -/
theorem WritesBounds.isBoundChar {cs : List Char} {b : BoundText} {b' : Option BoundText}
    (written : WritesBounds cs b b') : ∀ c ∈ cs, IsBoundChar c := by
  have blank {blanks : List Char} (all : AreBlank blanks) : ∀ c ∈ blanks, IsBoundChar c := fun c there => .inl (all c there)
  have bound {b : BoundText} (proper : b.IsProper) : ∀ c ∈ b.chars, IsBoundChar c := fun c there =>
    .inr ((proper.mem_chars there).imp_right .inl)
  have dot : IsBoundChar '.' := .inr (.inr (.inr rfl))
  cases written with
  | one leading proper trailing =>
    simp only [List.forall_mem_append]
    exact ⟨blank leading, bound proper, blank trailing⟩
  | two leading proper left right proper' trailing =>
    simp only [List.forall_mem_append, List.forall_mem_cons]
    exact ⟨blank leading, bound proper, blank left, dot, dot, blank right, bound proper', blank trailing⟩

/-- Bounds are not written with one dot. -/
theorem WritesBounds.count_dot {cs : List Char} {b : BoundText} {b' : Option BoundText}
    (written : WritesBounds cs b b') : cs.count '.' ≠ 1 := by
  have blank {blanks : List Char} (all : AreBlank blanks) : blanks.count '.' = 0 :=
    List.count_eq_zero.2 fun there => absurd (all '.' there) (by decide)
  have bound {b : BoundText} (proper : b.IsProper) : b.chars.count '.' = 0 :=
    List.count_eq_zero.2 fun there => absurd (proper.mem_chars there) (by decide)
  cases written with
  | one leading proper trailing => simp [blank leading, bound proper, blank trailing]
  | two leading proper left right proper' trailing =>
    simp [blank leading, bound proper, blank left, blank right, bound proper', blank trailing]

/-- A multiplicity is written by bounds. -/
theorem WritesMultiplicity.exists_bounds {cs : List Char} {lower upper : Int}
    (written : WritesMultiplicity cs lower upper) : ∃ b b', WritesBounds cs b b' := by
  cases written with
  | exactly bounds _ => exact ⟨_, _, bounds⟩
  | any bounds => exact ⟨_, _, bounds⟩
  | between bounds _ _ => exact ⟨_, _, bounds⟩
  | atLeast bounds _ => exact ⟨_, _, bounds⟩

end ClassDiagram
