import ClassDiagram.Proofs.Loading.Refusal
import Mathlib.Data.Nat.Digits.Defs

/-!
# The forms of multiplicities

A multiplicity has one of four forms: a number, a star, two numbers, or a number and a star, with two dots between two
bounds and any white space around each (`MultiplicityForm`).  A text has at most one of them, for it holds its bounds in
one way only.  So what a text is read as is what its form says, and a text of no form is refused
(`multiplicity_read_by_form`).
-/

set_option autoImplicit false

namespace ClassDiagram

/-! ## Numerals -/

/-- Whether characters are a numeral: decimal digits, of any script, and at least one. -/
def IsNumeral (digits : List Char) : Prop := digits ≠ [] ∧ ∀ c ∈ digits, Text.isDecimalDigit c

instance (digits : List Char) : Decidable (IsNumeral digits) :=
  decidable_of_iff (digits ≠ [] ∧ digits.all Text.isDecimalDigit) (and_congr_right fun _ => List.all_eq_true)

/-- The number that a numeral stands for, its last digit being worth the least. -/
def numeralValue (digits : List Char) : Nat :=
  Nat.ofDigits 10 (digits.map fun c => (Text.decimalValue? c).getD 0).reverse

/-- A numeral may be read from its first digit on. -/
theorem numeralValue_eq_foldl (digits : List Char) :
    numeralValue digits = digits.foldl (fun n c => 10 * n + (Text.decimalValue? c).getD 0) 0 := by
  rw [numeralValue, Nat.ofDigits_eq_foldr, List.foldr_reverse, List.foldl_map]
  exact congrArg (fun f => digits.foldl f 0) (funext₂ fun n c => Nat.add_comm ..)

/-- Decimal digits are read as the number that they write. -/
theorem Text.decimalNumber?_eq {digits : List Char} (some : digits ≠ [])
    (decimal : ∀ c ∈ digits, Text.isDecimalDigit c) : Text.decimalNumber? digits = .some (numeralValue digits) := by
  have read := Text.decimalNumberFrom?_eq 0 decimal
  rw [List.foldl_map] at read
  rw [numeralValue_eq_foldl, ← read]
  cases digits with
  | nil => exact absurd rfl some
  | cons c rest => rfl

/-- Digits write the number that they stand for as a numeral, if they are few enough to be read. -/
theorem writesNumber_iff {digits : List Char} {n : Nat} :
    WritesNumber digits n ↔ IsNumeral digits ∧ digits.length ≤ Text.mostDigitsRead ∧ n = numeralValue digits := by
  constructor
  · intro written
    obtain ⟨some, decimal⟩ := written.decimal
    obtain ⟨read, few⟩ := written
    refine ⟨⟨some, decimal⟩, few, ?_⟩
    rw [Text.decimalNumber?_eq some decimal] at read
    exact (Option.some.inj read).symm
  · rintro ⟨⟨some, decimal⟩, few, rfl⟩
    exact ⟨Text.decimalNumber?_eq some decimal, few⟩

/-- A numeral with too many digits is not read. -/
theorem numberOfDigits_of_long {digits : List Char} (decimal : ∀ c ∈ digits, Text.isDecimalDigit c)
    (long : Text.mostDigitsRead < digits.length) : numberOfDigits digits = .error (.tooManyDigits digits.length) := by
  have values : Text.digitValue? 10 = Text.decimalValue? := funext Text.digitValue?_ten
  unfold numberOfDigits Text.naturalOf
  rw [values]
  dsimp only
  rw [takeWhile_values.2 decimal, List.length_map, if_pos (by simpa using long)]
  rfl

/-! ## Forms -/

/-- The forms of multiplicities, with their numerals. -/
inductive MultiplicityForm where
  | exactly (digits : List Char)
  | any
  | between (lower upper : List Char)
  | atLeast (lower : List Char)

namespace MultiplicityForm

/-- Whether a text has a form: its numerals, star and dots are there, with white space around each bound. -/
def IsWritten (form : MultiplicityForm) (cs : List Char) : Prop :=
  match form with
  | exactly digits => ∃ before after, AreBlank before ∧ IsNumeral digits ∧ AreBlank after ∧ cs = before ++ digits ++ after
  | any => ∃ before after, AreBlank before ∧ AreBlank after ∧ cs = before ++ ['*'] ++ after
  | between lower upper => ∃ before inner inner' after, AreBlank before ∧ IsNumeral lower ∧ AreBlank inner ∧
      AreBlank inner' ∧ IsNumeral upper ∧ AreBlank after ∧
      cs = before ++ lower ++ inner ++ ['.', '.'] ++ inner' ++ upper ++ after
  | atLeast lower => ∃ before inner inner' after, AreBlank before ∧ IsNumeral lower ∧ AreBlank inner ∧
      AreBlank inner' ∧ AreBlank after ∧ cs = before ++ lower ++ inner ++ ['.', '.'] ++ inner' ++ ['*'] ++ after

/-- The bounds that a form stands for. -/
def bounds : MultiplicityForm → Int × Int
  | exactly digits => (numeralValue digits, numeralValue digits)
  | any => (0, -1)
  | between lower upper => (numeralValue lower, numeralValue upper)
  | atLeast lower => (numeralValue lower, -1)

/-- The numerals of a form. -/
def numerals : MultiplicityForm → List (List Char)
  | exactly digits => [digits]
  | any => []
  | between lower upper => [lower, upper]
  | atLeast lower => [lower]

/-- Whether the numerals of a form have few enough digits to be read. -/
def IsShort (form : MultiplicityForm) : Prop := ∀ digits ∈ form.numerals, digits.length ≤ Text.mostDigitsRead

/-- The first bound of a form, as it stands in the text. -/
def first : MultiplicityForm → BoundText
  | exactly digits => .digits digits
  | any => .star
  | between lower _ => .digits lower
  | atLeast lower => .digits lower

/-- The second bound of a form, if it has one. -/
def second : MultiplicityForm → Option BoundText
  | exactly _ => none
  | any => none
  | between _ upper => some (.digits upper)
  | atLeast _ => some .star

/-- A text has a form exactly if it holds its bounds. -/
theorem isWritten_iff {form : MultiplicityForm} {cs : List Char} :
    form.IsWritten cs ↔ WritesBounds cs form.first form.second := by
  constructor
  · intro written
    cases form with
    | exactly digits =>
      obtain ⟨before, after, leading, numeral, trailing, rfl⟩ := written
      rw [List.append_assoc]
      exact .one (b := .digits digits) leading numeral trailing
    | any =>
      obtain ⟨before, after, leading, trailing, rfl⟩ := written
      rw [List.append_assoc]
      exact .one (b := .star) leading trivial trailing
    | between lower upper =>
      obtain ⟨before, inner, inner', after, leading, numeral, left, right, numeral', trailing, rfl⟩ := written
      simp only [List.append_assoc]
      exact @WritesBounds.two _ (.digits lower) _ _ (.digits upper) _ leading numeral left right numeral' trailing
    | atLeast lower =>
      obtain ⟨before, inner, inner', after, leading, numeral, left, right, trailing, rfl⟩ := written
      simp only [List.append_assoc]
      exact @WritesBounds.two _ (.digits lower) _ _ .star _ leading numeral left right trivial trailing
  · intro written
    cases form with
    | exactly digits =>
      cases written with
      | one leading proper trailing => exact ⟨_, _, leading, proper, trailing, (List.append_assoc ..).symm⟩
    | any =>
      cases written with
      | one leading proper trailing => exact ⟨_, _, leading, trailing, (List.append_assoc ..).symm⟩
    | between lower upper =>
      cases written with
      | two leading proper left right proper' trailing =>
        exact ⟨_, _, _, _, leading, proper, left, right, proper', trailing, by simp [BoundText.chars, first]⟩
    | atLeast lower =>
      cases written with
      | two leading proper left right proper' trailing =>
        exact ⟨_, _, _, _, leading, proper, left, right, trailing, by simp [BoundText.chars, first]⟩

/-- A text has one form at most. -/
theorem IsWritten.unique {form form' : MultiplicityForm} {cs : List Char} (written : form.IsWritten cs)
    (written' : form'.IsWritten cs) : form = form' := by
  have read := boundTexts?_eq_some.2 (isWritten_iff.1 written)
  have read' := boundTexts?_eq_some.2 (isWritten_iff.1 written')
  have same := Option.some.inj (read.symm.trans read')
  cases form <;> cases form' <;> simp_all [first, second]

/-- A text of a form with few digits writes the bounds that the form stands for. -/
theorem IsWritten.writes {form : MultiplicityForm} {cs : List Char} (written : form.IsWritten cs) (short : form.IsShort) :
    WritesMultiplicity cs form.bounds.1 form.bounds.2 := by
  have holds := isWritten_iff.1 written
  have number {digits : List Char} (proper : (BoundText.digits digits).IsProper) (there : digits ∈ form.numerals) :
      WritesNumber digits (numeralValue digits) := writesNumber_iff.2 ⟨proper, short digits there, rfl⟩
  have proper := holds.isProper
  cases form with
  | exactly digits => exact .exactly holds (number proper.1 (.head _))
  | any => exact .any holds
  | between lower upper => exact .between holds (number proper.1 (.head _)) (number (proper.2 _ rfl) (.tail _ (.head _)))
  | atLeast lower => exact .atLeast holds (number proper.1 (.head _))

/-- A text of a form with too many digits in a numeral is not read. -/
theorem IsWritten.read_of_long {form : MultiplicityForm} {cs : List Char} (written : form.IsWritten cs)
    (long : ¬ form.IsShort) :
    ∃ digits ∈ form.numerals, readMultiplicity cs = .error (.tooManyDigits digits.length) := by
  have holds := isWritten_iff.1 written
  have proper := holds.isProper
  have read := boundTexts?_eq_some.2 holds
  unfold readMultiplicity
  rw [read]
  cases form with
  | exactly digits =>
    have many : Text.mostDigitsRead < digits.length := by simpa [IsShort, numerals] using long
    exact ⟨digits, .head _, by simp only [first, second]; rw [numberOfDigits_of_long proper.1.2 many]; rfl⟩
  | any => exact absurd nofun long
  | between lower upper =>
    simp only [first, second]
    by_cases many : Text.mostDigitsRead < lower.length
    · exact ⟨lower, .head _, by rw [numberOfDigits_of_long proper.1.2 many]; rfl⟩
    · have few := Nat.not_lt.1 many
      have many' : Text.mostDigitsRead < upper.length := by
        by_contra few'
        exact long (by simpa [IsShort, numerals] using ⟨few, Nat.not_lt.1 few'⟩)
      have number : numberOfDigits lower = .ok (numeralValue lower) :=
        numberOfDigits_eq_ok.2 (writesNumber_iff.2 ⟨proper.1, few, rfl⟩)
      refine ⟨upper, .tail _ (.head _), ?_⟩
      rw [number, numberOfDigits_of_long (proper.2 _ rfl).2 many']
      rfl
  | atLeast lower =>
    have many : Text.mostDigitsRead < lower.length := by simpa [IsShort, numerals] using long
    exact ⟨lower, .head _, by simp only [first, second]; rw [numberOfDigits_of_long proper.1.2 many]; rfl⟩

end MultiplicityForm

/-- Whether a text has a star for its lower bound: a star, two dots and a second bound, with white space around each. -/
def HasStarBelow (cs : List Char) : Prop :=
  ∃ before inner inner' upper after, AreBlank before ∧ AreBlank inner ∧ AreBlank inner' ∧
    (upper = ['*'] ∨ IsNumeral upper) ∧ AreBlank after ∧
    cs = before ++ ['*'] ++ inner ++ ['.', '.'] ++ inner' ++ upper ++ after

/-- A star stands below exactly if two bounds are written of which the first is a star. -/
theorem hasStarBelow_iff {cs : List Char} : HasStarBelow cs ↔ ∃ b, WritesBounds cs .star (some b) := by
  constructor
  · rintro ⟨before, inner, inner', upper, after, leading, left, right, bound, trailing, rfl⟩
    simp only [List.append_assoc]
    rcases bound with rfl | numeral
    · exact ⟨.star, @WritesBounds.two _ .star _ _ .star _ leading trivial left right trivial trailing⟩
    · exact ⟨.digits upper, @WritesBounds.two _ .star _ _ (.digits upper) _ leading trivial left right numeral trailing⟩
  · rintro ⟨b, written⟩
    cases written with
    | two leading proper left right proper' trailing =>
      refine ⟨_, _, _, b.chars, _, leading, left, right, ?_, trailing, by simp [BoundText.chars]⟩
      cases b with
      | star => exact .inl rfl
      | digits cs => exact .inr proper'

/-- Each pair of bounds is that of a form, or its lower bound is a star. -/
theorem exists_form_or_star (b : BoundText) (b' : Option BoundText) :
    (∃ form : MultiplicityForm, form.first = b ∧ form.second = b') ∨ b = .star ∧ ∃ upper, b' = some upper := by
  rcases b with _ | digits <;> rcases b' with _ | _ | digits'
  · exact .inl ⟨.any, rfl, rfl⟩
  · exact .inr ⟨rfl, _, rfl⟩
  · exact .inr ⟨rfl, _, rfl⟩
  · exact .inl ⟨.exactly digits, rfl, rfl⟩
  · exact .inl ⟨.atLeast digits, rfl, rfl⟩
  · exact .inl ⟨.between digits digits', rfl, rfl⟩

/-- A text of no form is no multiplicity; if it has a star for its lower bound, that is what is wrong with it. -/
theorem readMultiplicity_of_no_form {cs : List Char} (none : ∀ form : MultiplicityForm, ¬ form.IsWritten cs) :
    (HasStarBelow cs → readMultiplicity cs = .error .unboundedLower) ∧
      (¬ HasStarBelow cs → readMultiplicity cs = .error .invalidMultiplicity) := by
  rw [hasStarBelow_iff]
  unfold readMultiplicity
  cases read : boundTexts? cs with
  | none =>
    refine ⟨?_, fun _ => rfl⟩
    rintro ⟨b, written⟩
    cases read.symm.trans (boundTexts?_eq_some.2 written)
  | some texts =>
    obtain ⟨b, b'⟩ := texts
    have written := boundTexts?_eq_some.1 read
    rcases exists_form_or_star b b' with ⟨form, rfl, rfl⟩ | ⟨rfl, upper, rfl⟩
    · exact absurd (MultiplicityForm.isWritten_iff.2 written) (none form)
    · exact ⟨fun _ => rfl, fun other => absurd ⟨upper, written⟩ other⟩

namespace Loading

/-- A multiplicity that is a text is read as this, and its fault is told at the path. -/
theorem multiplicity_text (path s : String) :
    multiplicity path (.text s) = (readMultiplicity s.toList).mapError (boundError path s) := rfl

/-- A text of a form with few digits is read as the bounds that the form stands for. -/
theorem multiplicity_of_form {path s : String} {form : MultiplicityForm} (written : form.IsWritten s.toList)
    (short : form.IsShort) : multiplicity path (.text s) = .ok form.bounds := by
  rw [multiplicity_text, readMultiplicity_eq_ok.2 (written.writes short)]
  rfl

/-- Every text of one of the forms is read as the bounds that the form stands for, unless a numeral in it has too many
digits to be read.  A text has at most one form.  Every other text is refused, and among these is every text with a star
for its lower bound. -/
theorem multiplicity_read_by_form (path s : String) :
    (∀ form : MultiplicityForm, form.IsWritten s.toList →
      (form.IsShort → multiplicity path (.text s) = .ok form.bounds) ∧
        (¬ form.IsShort → ∃ digits ∈ form.numerals,
          multiplicity path (.text s) = .error (.misfit (.tooManyDigits digits.length)))) ∧
      (∀ form form' : MultiplicityForm, form.IsWritten s.toList → form'.IsWritten s.toList → form = form') ∧
      ((∀ form : MultiplicityForm, ¬ form.IsWritten s.toList) →
        (HasStarBelow s.toList → multiplicity path (.text s) = refuse path (.unboundedLower s)) ∧
          (¬ HasStarBelow s.toList → multiplicity path (.text s) = refuse path (.invalidMultiplicity s))) ∧
      (HasStarBelow s.toList → ∀ form : MultiplicityForm, ¬ form.IsWritten s.toList) := by
  refine ⟨fun form written => ⟨multiplicity_of_form written, fun long => ?_⟩,
    fun _ _ => MultiplicityForm.IsWritten.unique, fun none => ?_, ?_⟩
  · rw [multiplicity_text]
    obtain ⟨digits, there, read⟩ := written.read_of_long long
    exact ⟨digits, there, by rw [read]; rfl⟩
  · rw [multiplicity_text]
    obtain ⟨star, other⟩ := readMultiplicity_of_no_form none
    exact ⟨fun below => by rw [star below]; rfl, fun apart => by rw [other apart]; rfl⟩
  · intro below form written
    obtain ⟨upper, holds⟩ := hasStarBelow_iff.1 below
    have read := boundTexts?_eq_some.2 holds
    have read' := boundTexts?_eq_some.2 (MultiplicityForm.isWritten_iff.1 written)
    have same := Option.some.inj (read.symm.trans read')
    cases form <;> simp [MultiplicityForm.first, MultiplicityForm.second] at same

/-- Digits of three scripts are one number, in lines of their own. -/
theorem multiplicity_read_by_form_of_scripts :
    (MultiplicityForm.between ['1', '٢'] ['３', '0']).IsWritten "1٢\n..\t３0\n".toList ∧
      multiplicity "p/A" (.text "1٢\n..\t３0\n") = .ok (12, 30) ∧
      multiplicity "p/A" (.text "*..1") = .error (.refused "" "p/A" (.unboundedLower "*..1")) ∧
      multiplicity "p/A" (.text "1...2") = .error (.refused "" "p/A" (.invalidMultiplicity "1...2")) := by
  have written : (MultiplicityForm.between ['1', '٢'] ['３', '0']).IsWritten "1٢\n..\t３0\n".toList := by
    have feed : AreBlank ['\n'] := List.forall_mem_singleton.2 (by decide)
    have tab : AreBlank ['\t'] := List.forall_mem_singleton.2 (by decide)
    exact ⟨[], ['\n'], ['\t'], ['\n'], nofun, by decide +kernel, feed, tab, by decide +kernel, feed, rfl⟩
  have short : (MultiplicityForm.between ['1', '٢'] ['３', '0']).IsShort := by
    simp [MultiplicityForm.IsShort, MultiplicityForm.numerals, Text.mostDigitsRead]
  have value : (MultiplicityForm.between ['1', '٢'] ['３', '0']).bounds = (12, 30) := by decide +kernel
  refine ⟨written, ?_, ?_, rfl⟩
  · rw [((multiplicity_read_by_form _ _).1 _ written).1 short, value]
  · have below : HasStarBelow "*..1".toList :=
      ⟨[], [], [], ['1'], [], nofun, nofun, nofun, .inr (by decide +kernel), nofun, rfl⟩
    obtain ⟨-, -, refused, none⟩ := multiplicity_read_by_form "p/A" "*..1"
    exact (refused (none below)).1 below

end Loading

end ClassDiagram
