import ClassDiagram.Proofs.Diagram.Structure
import ClassDiagram.Proofs.Loading.MultiplicityForms

/-!
# Labels of edges

An edge shows the bounds of both ends.  Equal bounds are shown as one number, and others as two with dots between them,
so a label has a form in which a multiplicity is written, though not always that of the text from which the bounds came
(`exists_label`).  The digits of a number stand for that number again (`numeralValue_toDigits`), so each label is read as
the bounds that it shows (`AreRead.label`), and different bounds have different labels (`labels_read_back`).
-/

set_option autoImplicit false

namespace ClassDiagram

/-! ## Numbers that are written -/

/-- The value of a decimal digit is its distance from zero. -/
theorem Text.decimalValue?_of_isDigit {c : Char} (digit : c.isDigit) :
    decimalValue? c = some (c.toNat - '0'.toNat) := by
  have range : 48 ≤ c.toNat ∧ c.toNat ≤ 57 := by
    simp only [Char.isDigit, Bool.and_eq_true, decide_eq_true_eq, ge_iff_le, UInt32.le_iff_toNat_le] at digit
    exact digit
  have first : (0x30 ≤ c.toNat && c.toNat ≤ 0x30 + 9) = true := by simpa using range
  rw [decimalValue?, decimalZeros, List.find?_cons, first]
  rfl

/-- A number is written as a numeral. -/
theorem isNumeral_toDigits (n : Nat) : IsNumeral (Nat.toDigits 10 n) := by
  refine ⟨Nat.toDigits_ne_nil, fun c there => ?_⟩
  have digit := Nat.isDigit_of_mem_toDigits (by decide) (by decide) there
  rw [Text.isDecimalDigit, Text.decimalValue?_of_isDigit digit]
  rfl

/-- The numeral that a number is written as stands for it. -/
theorem numeralValue_toDigits (n : Nat) : numeralValue (Nat.toDigits 10 n) = n := by
  have worth := Nat.ofDigitChars_ten_toDigits (n := n)
  rw [Nat.ofDigitChars_eq_foldl] at worth
  rw [numeralValue_eq_foldl]
  conv_rhs => rw [← worth]
  refine List.foldl_ext _ _ 0 fun high c there => ?_
  rw [Text.decimalValue?_of_isDigit (Nat.isDigit_of_mem_toDigits (by decide) (by decide) there)]
  rfl

/-- The value of digits is below the power of ten that they have no place for. -/
theorem numeralValue_lt (digits : List Char) : numeralValue digits < 10 ^ digits.length := by
  have bound := Nat.ofDigits_lt_base_pow_length (b := 10)
    (l := (digits.map fun c => (Text.decimalValue? c).getD 0).reverse) (by decide) ?_
  · simpa [numeralValue] using bound
  · intro d there
    obtain ⟨c, -, rfl⟩ := List.mem_map.1 (List.mem_reverse.1 there)
    cases value : Text.decimalValue? c with
    | none => decide
    | some d => exact Text.lt_of_decimalValue? value

/-! ## Labels -/

namespace Diagram

/-- The form in which a diagram shows a number and the bound above it, if there is one. -/
def shownForm (lower : Nat) (upper : Option Nat) : MultiplicityForm :=
  match upper with
  | none => .atLeast (Nat.toDigits 10 lower)
  | some upper =>
    if lower = upper then .exactly (Nat.toDigits 10 lower)
    else .between (Nat.toDigits 10 lower) (Nat.toDigits 10 upper)

/-- The bounds that stand for a number and the bound above it. -/
def boundsOf (lower : Nat) (upper : Option Nat) : Int × Int := (lower, (upper.map Int.ofNat).getD (-1))

/-- The form in which bounds are shown has these bounds. -/
theorem bounds_shownForm (lower : Nat) (upper : Option Nat) : (shownForm lower upper).bounds = boundsOf lower upper := by
  unfold shownForm
  split
  · simp [MultiplicityForm.bounds, numeralValue_toDigits, boundsOf]
  · split
    · next same => simp [MultiplicityForm.bounds, numeralValue_toDigits, boundsOf, same]
    · simp [MultiplicityForm.bounds, numeralValue_toDigits, boundsOf]

/-- Whether numbers can be written: each has few enough digits. -/
def AreSmall (lower : Nat) (upper : Option Nat) : Prop := lower < leastUnwritten ∧ ∀ n ∈ upper, n < leastUnwritten

/-- As many digits are read as are written. -/
theorem leastUnwritten_eq : leastUnwritten = 10 ^ Text.mostDigitsRead := by
  have most : mostDigitsWritten = Text.mostDigitsRead := rfl
  have power (k : Nat) : Nat.pow 10 k = 10 ^ k := rfl
  unfold leastUnwritten
  rewrite [most, power]
  rfl

/-- A number that can be written has no more digits than can be read. -/
theorem length_toDigits_le {n : Nat} (small : n < leastUnwritten) : (Nat.toDigits 10 n).length ≤ Text.mostDigitsRead := by
  rw [leastUnwritten_eq] at small
  exact (Nat.length_toDigits_le_iff (by decide) (by decide)).2 small

/-- The form in which small bounds are shown can be read. -/
theorem isShort_shownForm {lower : Nat} {upper : Option Nat} (small : AreSmall lower upper) :
    (shownForm lower upper).IsShort := by
  obtain ⟨low, high⟩ := small
  have few := length_toDigits_le low
  unfold shownForm
  split
  · exact List.forall_mem_singleton.2 few
  · next upper =>
    split
    · exact List.forall_mem_singleton.2 few
    · exact List.forall_mem_cons.2 ⟨few, List.forall_mem_singleton.2 (length_toDigits_le (high upper rfl))⟩

/-- Two bounds that are numbers are the same exactly if the numbers are. -/
theorem same_number (n m : Int) : (Bound.number n).same (.number m) = decide (n = m) := by
  have value : (Bound.number n).same (.number m) = (n == m) := rfl
  rw [value, beq_eq_decide]

/-- Bounds that are numbers are shown as one bound if they are equal and as a range if they are not. -/
theorem multiplicity?_number (s : Style) (lower upper : Int) : s.multiplicity? (.number lower) (.number upper) =
    if lower = upper then s.bound? (.number lower) else s.range? (.number lower) (.number upper) := by
  rw [Style.multiplicity?, same_number]
  simp only [decide_eq_true_eq]

/-- An upper bound of minus one is shown as a star. -/
theorem bound?_unbounded : Style.standard.bound? (.number (-1)) = some "*" := rfl

/-- A bound that is a natural number is shown by its digits. -/
theorem bound?_number {n : Nat} (small : n < leastUnwritten) :
    Style.standard.bound? (.number n) = some (String.ofList (Nat.toDigits 10 n)) := by
  have bounded : (Bound.number n).same .unbounded = false := by
    rw [Bound.unbounded, same_number]
    exact decide_eq_false (by omega)
  have written : (Bound.number n).text? = integerText? n := rfl
  rw [Style.bound?, bounded, written, integerText?, Int.natAbs_natCast, if_pos small, ← Nat.toString_eq_ofList_toDigits]
  rfl

/-- The label of bounds that can be written has the form in which they are shown. -/
theorem exists_label {lower : Nat} {upper : Option Nat} (small : AreSmall lower upper) :
    ∃ label, Style.standard.multiplicity? (.number (boundsOf lower upper).1) (.number (boundsOf lower upper).2) =
      some label ∧ (shownForm lower upper).IsWritten label.toList := by
  obtain ⟨low, high⟩ := small
  have numeral := isNumeral_toDigits
  rw [multiplicity?_number, Style.range?]
  cases upper with
  | none =>
    have apart : ¬ (lower : Int) = -1 := by omega
    change ∃ label, (if (lower : Int) = -1 then _ else _) = _ ∧ _
    rw [if_neg apart]
    change ∃ label, (do
      let low ← Style.standard.bound? (.number lower)
      let high ← Style.standard.bound? (.number (-1))
      return low ++ ".." ++ high) = some label ∧ _
    rw [bound?_number low, bound?_unbounded]
    exact ⟨_, rfl, [], [], [], [], nofun, numeral _, nofun, nofun, nofun, by simp⟩
  | some upper =>
    change ∃ label, (if (lower : Int) = upper then Style.standard.bound? (.number lower) else do
      let low ← Style.standard.bound? (.number lower)
      let high ← Style.standard.bound? (.number upper)
      return low ++ ".." ++ high) = some label ∧ _
    rw [bound?_number low, bound?_number (high upper rfl), shownForm]
    by_cases equal : lower = upper
    · rw [if_pos (Int.natCast_inj.2 equal), if_pos equal]
      exact ⟨_, rfl, [], [], nofun, numeral _, nofun, by simp⟩
    · rw [if_neg (mt Int.natCast_inj.1 equal), if_neg equal]
      exact ⟨_, rfl, [], [], [], [], nofun, numeral _, nofun, nofun, numeral _, nofun, by simp⟩

/-- What a text is read as are the bounds of numbers that can be written. -/
theorem exists_small {cs : List Char} {lower upper : Int} (written : WritesMultiplicity cs lower upper) :
    ∃ low high, AreSmall low high ∧ (lower, upper) = boundsOf low high := by
  have small {digits : List Char} {n : Nat} (number : WritesNumber digits n) : n < leastUnwritten := by
    obtain ⟨-, few, rfl⟩ := writesNumber_iff.1 number
    rw [leastUnwritten_eq]
    exact Nat.lt_of_lt_of_le (numeralValue_lt digits) (Nat.pow_le_pow_right (by decide) few)
  cases written with
  | exactly bounds number =>
    exact ⟨_, some _, ⟨small number, fun n there => Option.some.inj there ▸ small number⟩, rfl⟩
  | any bounds =>
    refine ⟨0, none, ⟨?_, nofun⟩, rfl⟩
    rw [leastUnwritten_eq]
    exact Nat.pow_pos (by decide)
  | between bounds first second =>
    exact ⟨_, some _, ⟨small first, fun n there => Option.some.inj there ▸ small second⟩, rfl⟩
  | atLeast bounds number => exact ⟨_, none, ⟨small number, nofun⟩, rfl⟩

/-- Whether bounds are what some text is read as. -/
def AreRead (lower upper : Int) : Prop := ∃ path s, Loading.multiplicity path (.text s) = .ok (lower, upper)

/-- Bounds that are read from a text have a label, and this is read as the bounds again. -/
theorem AreRead.label {lower upper : Int} (read : AreRead lower upper) :
    ∃ label, Style.standard.multiplicity? (.number lower) (.number upper) = some label ∧
      ∀ path, Loading.multiplicity path (.text label) = .ok (lower, upper) := by
  obtain ⟨path, s, read⟩ := read
  rw [Loading.multiplicity_text, mapError_eq_ok, readMultiplicity_eq_ok] at read
  obtain ⟨low, high, small, bounds⟩ := exists_small read
  obtain ⟨label, shown, written⟩ := exists_label small
  rw [← bounds] at shown
  refine ⟨label, shown, fun path => ?_⟩
  rw [Loading.multiplicity_of_form written (isShort_shownForm small), bounds_shownForm, bounds]

/-- Bounds that are read from texts and have the same label are the same. -/
theorem AreRead.inj {lower upper lower' upper' : Int} (read : AreRead lower upper) (read' : AreRead lower' upper')
    (same : Style.standard.multiplicity? (.number lower) (.number upper) =
      Style.standard.multiplicity? (.number lower') (.number upper')) : lower = lower' ∧ upper = upper' := by
  obtain ⟨label, shown, again⟩ := read.label
  obtain ⟨label', shown', other⟩ := read'.label
  obtain rfl : label = label' := Option.some.inj (shown.symm.trans (same.trans shown'))
  have bounds := (again "").symm.trans (other "")
  exact Prod.mk.inj (Except.ok.inj bounds)

/-! ## Edges -/

/-- Whether the line of an association shows a label at one of its ends. -/
def ShowsLabel (s : Style) (a : LinkedType) (line : String) (e : LinkedProperty) (label : String) : Prop :=
  ∃ first second low high, a.ends = [first, second] ∧ s.multiplicity? first.lower first.upper = some low ∧
    s.multiplicity? second.lower second.upper = some high ∧
    line = s.association (typeText first.type) low (s.edgeSign second.aggregation first.aggregation) high
      (typeText second.type) a.name ∧
    (e = first ∧ label = low ∨ e = second ∧ label = high)

/-- The label of an end is its multiplicity. -/
theorem ShowsLabel.multiplicity?_eq {s : Style} {a : LinkedType} {line label : String} {e : LinkedProperty}
    (shows : ShowsLabel s a line e label) : s.multiplicity? e.lower e.upper = some label := by
  obtain ⟨first, second, low, high, -, atFirst, atSecond, -, ⟨rfl, rfl⟩ | ⟨rfl, rfl⟩⟩ := shows
  · exact atFirst
  · exact atSecond

/-- The line of an association shows a label at each of its ends. -/
theorem exists_showsLabel {s : Style} {a : LinkedType} {line : String} (drawn : edgeText s a = .ok (some line))
    {e : LinkedProperty} (there : e ∈ a.ends) : ∃ label, ShowsLabel s a line e label := by
  unfold edgeText at drawn
  split at drawn
  · next first second ends =>
    dsimp only at drawn
    split at drawn
    · cases drawn
    · obtain ⟨low, atFirst, drawn⟩ := bind_eq_ok.1 drawn
      obtain ⟨high, atSecond, drawn⟩ := bind_eq_ok.1 drawn
      obtain rfl := Option.some.inj (Except.ok.inj drawn)
      rw [endMultiplicity_eq_ok] at atFirst atSecond
      rw [ends] at there
      rcases List.mem_pair.1 there with rfl | rfl
      · exact ⟨low, _, _, low, high, ends, atFirst, atSecond, rfl, .inl ⟨rfl, rfl⟩⟩
      · exact ⟨high, _, _, low, high, ends, atFirst, atSecond, rfl, .inr ⟨rfl, rfl⟩⟩
  · cases drawn

/-- Whether the bounds of an end are what some text is read as. -/
def HasReadBounds (e : LinkedProperty) : Prop :=
  ∃ lower upper, e.lower = .number lower ∧ e.upper = .number upper ∧ AreRead lower upper

/-- The label of bounds that are read from a text is read as the bounds again.  So different bounds that are read from
texts have different labels.  Each line of an association shows a label at both ends, and lines of two associations show
the same label at ends with such bounds only if the bounds are the same. -/
theorem labels_read_back :
    (∀ path s lower upper, Loading.multiplicity path (.text s) = .ok (lower, upper) →
      ∃ label, Style.standard.multiplicity? (.number lower) (.number upper) = some label ∧
        Loading.multiplicity path (.text label) = .ok (lower, upper)) ∧
      (∀ lower upper lower' upper', AreRead lower upper → AreRead lower' upper' →
        Style.standard.multiplicity? (.number lower) (.number upper) =
          Style.standard.multiplicity? (.number lower') (.number upper') →
        lower = lower' ∧ upper = upper') ∧
      (∀ a line, edgeText .standard a = .ok (some line) → ∀ e ∈ a.ends, ∃ label, ShowsLabel .standard a line e label) ∧
      ∀ a a' line line' e e' label, ShowsLabel .standard a line e label → ShowsLabel .standard a' line' e' label →
        HasReadBounds e → HasReadBounds e' → e.lower = e'.lower ∧ e.upper = e'.upper := by
  refine ⟨fun path s lower upper read => ?_, fun _ _ _ _ read read' same => read.inj read' same,
    fun a line drawn e there => exists_showsLabel drawn there, ?_⟩
  · obtain ⟨label, shown, again⟩ := AreRead.label ⟨path, s, read⟩
    exact ⟨label, shown, again path⟩
  · rintro a a' line line' e e' label shows shows' ⟨lower, upper, low, high, read⟩ ⟨lower', upper', low', high', read'⟩
    have atEnd := shows.multiplicity?_eq
    have atEnd' := shows'.multiplicity?_eq
    rw [low, high] at atEnd
    rw [low', high'] at atEnd'
    obtain ⟨rfl, rfl⟩ := read.inj read' (atEnd.trans atEnd'.symm)
    exact ⟨low.trans low'.symm, high.trans high'.symm⟩

/-- Zeros in front and a script of other digits are not in the label, and it is read as the same bounds. -/
theorem labels_read_back_without_zeros :
    Loading.multiplicity "p/A" (.text " 007 .. 1٢") = .ok (7, 12) ∧
      Style.standard.multiplicity? (.number 7) (.number 12) = some "7..12" ∧
      Loading.multiplicity "p/A" (.text "7..12") = .ok (7, 12) := by
  have read : Loading.multiplicity "p/A" (.text " 007 .. 1٢") = .ok (7, 12) := by
    have written : (MultiplicityForm.between ['0', '0', '7'] ['1', '٢']).IsWritten " 007 .. 1٢".toList := by
      have blank : AreBlank [' '] := List.forall_mem_singleton.2 (by decide)
      exact ⟨[' '], [' '], [' '], [], blank, by decide +kernel, blank, blank, by decide +kernel, nofun, rfl⟩
    have short : (MultiplicityForm.between ['0', '0', '7'] ['1', '٢']).IsShort := by
      simp [MultiplicityForm.IsShort, MultiplicityForm.numerals, Text.mostDigitsRead]
    have value : (MultiplicityForm.between ['0', '0', '7'] ['1', '٢']).bounds = (7, 12) := by decide +kernel
    rw [Loading.multiplicity_of_form written short, value]
  obtain ⟨back, -⟩ := labels_read_back
  obtain ⟨label, shown, again⟩ := back _ _ _ _ read
  have expected : Style.standard.multiplicity? (.number 7) (.number 12) = some "7..12" := by
    have small {n : Nat} (few : n < 10 ^ 2) : n < leastUnwritten := by
      rw [leastUnwritten_eq]
      exact Nat.lt_of_lt_of_le few (Nat.pow_le_pow_right (by decide) (by decide))
    have low : Style.standard.bound? (.number 7) = some "7" := bound?_number (n := 7) (small (by decide))
    have high : Style.standard.bound? (.number 12) = some "12" := bound?_number (n := 12) (small (by decide))
    rw [multiplicity?_number, if_neg (by decide), Style.range?, low, high]
    rfl
  obtain rfl := Option.some.inj (shown.symm.trans expected)
  exact ⟨read, shown, again⟩

end Diagram

end ClassDiagram
