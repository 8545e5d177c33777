import ClassDiagram.Proofs.Loading.Reading

/-!
# Refused documents and readings that break off

A document that declares no model should be refused: the error then names a fault of the document and its place.  A reading
breaks off instead where digits give no number, and where packages nest too deep.  Which documents these are is said
element by element, as the format is: the first part that is not in the format has bounds that look like numbers and are
none (`FirstAmong`, `ModelBreaks`).  Each reader breaks off exactly there (`BreaksIff`), so every other document is loaded
or refused (`loads_or_refuses_iff`).
-/

set_option autoImplicit false

namespace ClassDiagram

/-! ## Digits that give no number -/

/-- A text that stands for a bound alone consists of digits, but some have no decimal value or they are too many. -/
structure UnreadableBound (cs : List Char) : Prop where
  some : cs ≠ []
  digits : ∀ c ∈ cs, Text.isDigit c
  unreadable : (∃ c ∈ cs, Text.isDecimalDigit c = false) ∨ Text.mostDigitsRead < cs.length

/-- A number among the bounds of a multiplicity has too many digits. -/
def HasManyDigits : BoundText → Option BoundText → Prop
  | .star, _ => False
  | .digits cs, some (.digits cs') => Text.mostDigitsRead < cs.length ∨ Text.mostDigitsRead < cs'.length
  | .digits cs, _ => Text.mostDigitsRead < cs.length

/-- A text writes a multiplicity of which a number has too many digits. -/
def UnreadableMultiplicity (cs : List Char) : Prop := ∃ b b', WritesBounds cs b b' ∧ HasManyDigits b b'

/-- A text without bounds is no multiplicity that breaks the reading off. -/
theorem not_unreadableMultiplicity {cs : List Char} (other : boundTexts? cs = none) : ¬ UnreadableMultiplicity cs := by
  rintro ⟨b, b', bounds, -⟩
  cases other.symm.trans (boundTexts?_eq_some.2 bounds)

/-- Bounds break the reading off exactly if one has too many digits. -/
theorem unreadableMultiplicity_iff {cs : List Char} {b : BoundText} {b' : Option BoundText}
    (found : boundTexts? cs = some (b, b')) : UnreadableMultiplicity cs ↔ HasManyDigits b b' := by
  constructor
  · rintro ⟨c, c', bounds, many⟩
    obtain ⟨rfl, rfl⟩ := Prod.mk.inj (Option.some.inj (found.symm.trans (boundTexts?_eq_some.2 bounds)))
    exact many
  · exact fun many => ⟨b, b', boundTexts?_eq_some.1 found, many⟩

/-- The bounds that are written in a text are proper ones. -/
theorem WritesBounds.isProper {cs : List Char} {b : BoundText} {b' : Option BoundText} (written : WritesBounds cs b b') :
    b.IsProper ∧ ∀ second, b' = some second → second.IsProper := by
  cases written with
  | one leading proper trailing => exact ⟨proper, nofun⟩
  | two leading proper left right proper' trailing => exact ⟨proper, fun _ same => Option.some.inj same ▸ proper'⟩

/-- Digits are read unless there are too many of them or one has no decimal value. -/
theorem exists_writesNumber {digits : List Char} : (∃ n, WritesNumber digits n) ↔
    digits ≠ [] ∧ (∀ c ∈ digits, Text.isDecimalDigit c) ∧ digits.length ≤ Text.mostDigitsRead := by
  constructor
  · rintro ⟨n, written⟩
    exact ⟨written.decimal.1, written.decimal.2, written.2⟩
  · rintro ⟨some, decimal, few⟩
    obtain ⟨c, rest, rfl⟩ := List.exists_cons_of_ne_nil some
    exact ⟨_, Text.decimalNumberFrom?_eq 0 decimal, few⟩

/-- What is wrong with digits that give no number. -/
inductive BoundFault.IsNumeric : BoundFault → Prop where
  | notDecimal (text : String) : IsNumeric (.notDecimal text)
  | tooManyDigits (count : Nat) : IsNumeric (.tooManyDigits count)

/-- Digits are read as the number that they write, or the fault is about numbers. -/
theorem numberOfDigits_cases (digits : List Char) :
    (∃ n, numberOfDigits digits = .ok n ∧ WritesNumber digits n) ∨
      ∃ fault, numberOfDigits digits = .error fault ∧ fault.IsNumeric := by
  cases read : numberOfDigits digits with
  | ok n => exact .inl ⟨n, rfl, numberOfDigits_eq_ok.1 read⟩
  | error fault =>
    refine .inr ⟨fault, rfl, ?_⟩
    unfold numberOfDigits at read
    cases natural : Text.naturalOf 10 digits with
    | ok n =>
      rw [natural] at read
      cases read
    | error cause =>
      rw [natural] at read
      obtain rfl := Except.error.inj read
      cases cause with
      | notInteger => exact .notDecimal _
      | tooManyDigits count => exact .tooManyDigits count

namespace Form

/-! ## Documents whose reading breaks off -/

/-- An item is bad, and the items before it are good. -/
def FirstAmong {α : Type} (Good Bad : α → Prop) : List α → Prop
  | [] => False
  | a :: rest => Bad a ∨ Good a ∧ FirstAmong Good Bad rest

/-- The bounds of a feature look like numbers and cannot be read as such. -/
def HasUnreadableBounds (d : Document) : Prop :=
  match d.entry? "multiplicity" with
  | some value => ∃ word, value = .text word ∧ UnreadableMultiplicity word.toList
  | none => ∃ word, d.entry? "upper" = some (.text word) ∧ UnreadableBound (Text.trim word).toList

/-- Of a property the bounds are read first. -/
def PropertyBreaks (d : Document) : Prop := d.isMapping ∧ HasUnreadableBounds d

/-- Of an operation the name is read first. -/
def OperationBreaks (d : Document) : Prop := d.isMapping ∧ HasName d ∧ HasUnreadableBounds d

/-- A type is of a kind. -/
def HasKind (d : Document) (kind : Kind) : Prop := ∃ word, d.held "kind" = .text word ∧ kind? word = some kind

/-- Of a type the properties are read before the operations, and the ends of an association last. -/
def TypeBreaks (d : Document) : Prop :=
  d.isMapping ∧ HasName d ∧ (∃ kind, HasKind d kind) ∧
    (FirstAmong IsProperty PropertyBreaks (d.items "properties") ∨ HasList IsProperty d "properties" ∧
      (FirstAmong IsOperation OperationBreaks (d.items "operations") ∨ HasList IsOperation d "operations" ∧
        HasKind d .association ∧ FirstAmong IsProperty PropertyBreaks (d.items "ends")))

/-- A package that is read where packages may nest a number of times, itself counted. -/
def IsPackageWithin : Nat → Document → Prop
  | 0, _ => False
  | n + 1, d => NestWithin n (d.items "packages") ∧ IsPackage d

/-- Of a package the packages in it are read before the types; where no package may stand, the reading breaks off. -/
def PackageBreaks : Nat → Document → Prop
  | 0, _ => True
  | n + 1, d => d.isMapping ∧ HasName d ∧
      (FirstAmong (IsPackageWithin n) (PackageBreaks n) (d.items "packages") ∨
        HasList (IsPackageWithin n) d "packages" ∧ FirstAmong IsType TypeBreaks (d.items "types"))

/-- The reading of a model breaks off in its packages. -/
def ModelBreaks (depth : Nat) (root : Document) : Prop :=
  root.isMapping ∧ FirstAmong (IsPackageWithin depth) (PackageBreaks depth) (root.items "packages")

end Form

namespace Loading

open Form

/-! ## Ways to end -/

/-- The errors with which a reading breaks off. -/
inductive IsBreak : LoadError → Prop where
  | notDecimal (digits : String) : IsBreak (.misfit (.notInteger 10 digits))
  | tooManyDigits (count : Nat) : IsBreak (.misfit (.tooManyDigits count))
  | tooDeep : IsBreak .tooDeep

section

variable {α β : Type}

/-- A reading gives a value or refuses the document at a path. -/
def Reports (r : Result α) : Prop := (∃ a, r = .ok a) ∨ ∃ path problem, r = .error (.refused "" path problem)

/-- A reading breaks off. -/
def Breaks (r : Result α) : Prop := ∃ e, r = .error e ∧ IsBreak e

/-- A reading breaks off under a condition, and else it gives a value or refuses the document. -/
structure BreaksIff (r : Result α) (Bad : Prop) : Prop where
  breaks : Bad → Breaks r
  reports : ¬ Bad → Reports r

variable {x : Result α} {f : α → Result β} {Good Bad Bad' : Prop}

/-- A reading that breaks off neither gives a value nor refuses the document. -/
theorem Breaks.not_reports (breaks : Breaks x) : ¬ Reports x := by
  obtain ⟨e, rfl, isBreak⟩ := breaks
  rintro (⟨a, given⟩ | ⟨path, problem, refused⟩)
  · cases given
  · obtain rfl := Except.error.inj refused
    cases isBreak

/-- A reading that breaks off under a condition gives a value or refuses the document under the opposite one. -/
theorem BreaksIff.reports_iff (iff : BreaksIff x Bad) : Reports x ↔ ¬ Bad :=
  ⟨fun reports bad => (iff.breaks bad).not_reports reports, iff.reports⟩

/-- The condition under which a reading breaks off can be put in other words. -/
theorem BreaksIff.of_iff (iff : BreaksIff x Bad) (same : Bad' ↔ Bad) : BreaksIff x Bad' :=
  ⟨fun bad => iff.breaks (same.1 bad), fun good => iff.reports fun bad => good (same.2 bad)⟩

/-- A reading that gives a value or refuses the document never breaks off. -/
theorem Reports.breaksIff (reports : Reports x) : BreaksIff x False := ⟨False.elim, fun _ => reports⟩

/-- A reading that never breaks off gives a value or refuses the document. -/
theorem BreaksIff.of_false (iff : BreaksIff x False) : Reports x := iff.reports id

/-- A reading that gives a value breaks nothing off. -/
theorem reports_ok (a : α) : Reports (.ok a) := .inl ⟨a, rfl⟩

/-- A reading that refuses the document breaks nothing off. -/
theorem reports_refuse (path : String) (problem : LoadProblem) : Reports (refuse path problem : Result α) :=
  .inr ⟨path, problem, rfl⟩

/-- A reading in two steps breaks off in the first one, or in the second one where the first one passes. -/
theorem BreaksIff.bind (first : BreaksIff x Bad) (passes : (∃ a, x = .ok a) ↔ Good)
    (next : ∀ a, x = .ok a → BreaksIff (f a) Bad') : BreaksIff (x >>= f) (Bad ∨ Good ∧ Bad') := by
  cases x with
  | error e =>
    -- What the second step would do does not count here: the condition on it demands that the first one passes.
    have stops : ¬ Good := fun good => by
      obtain ⟨a, same⟩ := passes.2 good
      cases same
    refine ⟨fun bad => ?_, fun fine => ?_⟩
    · obtain ⟨e', same, isBreak⟩ := first.breaks (bad.resolve_right fun later => stops later.1)
      obtain rfl := Except.error.inj same
      exact ⟨e, rfl, isBreak⟩
    · rcases first.reports fun bad => fine (.inl bad) with ⟨a, same⟩ | ⟨path, problem, same⟩
      · cases same
      · obtain rfl := Except.error.inj same
        exact .inr ⟨path, problem, rfl⟩
  | ok a =>
    have good : Good := passes.1 ⟨a, rfl⟩
    have fine : ¬ Bad := fun bad => (first.breaks bad).not_reports (reports_ok a)
    refine (next a rfl).of_iff ?_
    rw [or_iff_right fine, and_iff_right good]

/-- Two readings in a row do not break off if neither does. -/
theorem Reports.bind (first : Reports x) (next : ∀ a, x = .ok a → Reports (f a)) : Reports (x >>= f) := by
  refine (first.breaksIff.bind Iff.rfl fun a given => (next a given).breaksIff).of_iff ?_ |>.of_false
  rw [and_false, or_false]

/-- Only the first of two steps breaks off. -/
theorem BreaksIff.then (first : BreaksIff x Bad) (next : ∀ a, x = .ok a → Reports (f a)) : BreaksIff (x >>= f) Bad := by
  refine (first.bind Iff.rfl fun a given => (next a given).breaksIff).of_iff ?_
  rw [and_false, or_false]

/-- Only the second of two steps breaks off. -/
theorem Reports.then (first : Reports x) (passes : (∃ a, x = .ok a) ↔ Good)
    (next : ∀ a, x = .ok a → BreaksIff (f a) Bad) : BreaksIff (x >>= f) (Good ∧ Bad) := by
  refine (first.breaksIff.bind passes next).of_iff ?_
  rw [false_or]

/-- The reading of a list breaks off at the first item that is not read, if its reading does. -/
theorem breaksIff_mapM {Good Bad : α → Prop} {items : List α} (each : ∀ a ∈ items, BreaksIff (f a) (Bad a))
    (passes : ∀ a ∈ items, (∃ b, f a = .ok b) ↔ Good a) : BreaksIff (items.mapM f) (FirstAmong Good Bad items) := by
  induction items with
  | nil => exact (reports_ok []).breaksIff
  | cons a rest ih =>
    rw [List.forall_mem_cons] at each passes
    rw [List.mapM_cons]
    refine each.1.bind passes.1 fun b _ => ?_
    exact (ih each.2 passes.2).then fun others _ => reports_ok (b :: others)

/-- A reading of items does not break off if that of each item does not. -/
theorem reports_mapM {items : List α} (each : ∀ a ∈ items, Reports (f a)) : Reports (items.mapM f) := by
  have never : ∀ items : List α, ¬ FirstAmong (fun a => ∃ b, f a = .ok b) (fun _ => False) items := by
    intro items
    induction items with
    | nil => exact id
    | cons a rest ih =>
      rintro (bad | ⟨-, later⟩)
      · exact bad
      · exact ih later
  exact (breaksIff_mapM (fun a there => (each a there).breaksIff) fun a _ => Iff.rfl).reports (never items)

end

/-! ## Fields -/

variable {path : String} {d : Document}

/-- Reading a reference does not break off. -/
theorem reports_referenceOf : Reports (referenceOf path d) := by
  cases d <;> first | exact reports_ok _ | exact reports_refuse ..

/-- Reading a name does not break off. -/
theorem reports_nameOf (fields : Fields) : Reports (nameOf path fields) := by
  unfold nameOf
  split
  · split
    · exact reports_refuse ..
    · exact reports_ok _
  · exact reports_refuse ..

/-- Reading items does not break off. -/
theorem reports_sequence (fields : Fields) (key : String) : Reports (sequence path fields key) := by
  unfold sequence
  split
  · exact reports_ok _
  · exact reports_ok _
  · exact reports_refuse ..

/-- A JSON document has a text. -/
theorem reports_shown (json : d.isJson) : Reports (shown d) := by
  obtain ⟨s, displayed⟩ := Document.exists_display json
  exact .inl ⟨s, shown_eq_ok.2 displayed⟩

/-- Reading a visibility does not break off. -/
theorem reports_visibilityOf (json : d.isJson) : Reports (visibilityOf path d) := by
  unfold visibilityOf
  split
  · exact reports_ok _
  · refine (reports_shown json).bind fun word _ => ?_
    split
    · exact reports_ok _
    · exact reports_refuse ..

/-- Reading an aggregation does not break off. -/
theorem reports_aggregationOf (json : d.isJson) : Reports (aggregationOf path d) := by
  unfold aggregationOf
  split
  · exact reports_ok _
  · refine (reports_shown json).bind fun word _ => ?_
    split
    · exact reports_ok _
    · exact reports_refuse ..

/-- Reading a kind does not break off. -/
theorem reports_kindOf (json : d.isJson) : Reports (kindOf path (.ofEntries d.entries)) := by
  have kind : ((d.entry? "kind").getD (.text "")).isJson := by
    cases found : d.entry? "kind" with
    | none => rfl
    | some value => exact Document.isJson_entry? json found
  unfold kindOf
  rw [Document.get?_entries, field_entries]
  refine (reports_shown kind).bind fun word _ => ?_
  split
  · exact reports_ok _
  · exact (reports_shown (Document.isJson_held json "kind")).bind fun _ _ => reports_refuse ..

/-- What is read of a mapping breaks off in what is read of its entries. -/
theorem breaksIff_mapping {α : Type} (json : d.isJson) {read : Fields → Result α} {Bad : Prop}
    (inner : BreaksIff (read (.ofEntries d.entries)) Bad) : BreaksIff (mapping path d >>= read) (d.isMapping ∧ Bad) := by
  cases d with
  | map entries => exact inner.of_iff (and_iff_right rfl)
  | knot label body => cases json
  | _ => exact ⟨fun bad => (nomatch bad.1), fun _ => reports_refuse ..⟩

section

variable {α β : Type} {key : String} {read : Document → Result α} {Good Bad : Document → Prop}

/-- Where an item is the first bad one there is a list. -/
theorem FirstAmong.mayList (first : FirstAmong Good Bad (d.items key)) : MayList d key := by
  cases value : d.held key with
  | list items => exact .inr ⟨items, value⟩
  | _ =>
    rw [Document.items, value] at first
    cases first

/-- A list at a key breaks off at an item, and what follows on it breaks off where the list is read. -/
theorem breaksIff_items (json : d.isJson) (each : ∀ item ∈ d.items key, BreaksIff (read item) (Bad item))
    (passes : ∀ item ∈ d.items key, (∃ a, read item = .ok a) ↔ Good item) {build : List α → Result β} {Bad' : Prop}
    (next : ∀ elements, BreaksIff (build elements) Bad') :
    BreaksIff (sequence path (.ofEntries d.entries) key >>= fun items => items.mapM read >>= build)
      (FirstAmong Good Bad (d.items key) ∨ HasList Good d key ∧ Bad') := by
  have listed : (∃ items, sequence path (.ofEntries d.entries) key = .ok items) ↔ MayList d key := by
    simp only [sequence_eq_ok json, exists_and_left, exists_eq, and_true]
  have here : ∀ items, sequence path (.ofEntries d.entries) key = .ok items →
      BreaksIff (items.mapM read >>= build)
        (FirstAmong Good Bad (d.items key) ∨ (∀ item ∈ d.items key, Good item) ∧ Bad') := by
    intro items found
    obtain ⟨-, rfl⟩ := (sequence_eq_ok json).1 found
    exact (breaksIff_mapM each passes).bind (exists_mapM_iff passes) fun elements _ => next elements
  refine ((reports_sequence _ _).then listed here).of_iff ?_
  rw [and_or_left, HasList, and_assoc, and_iff_right_of_imp FirstAmong.mayList]

end

/-! ## Bounds -/

/-- Digits that give a number, or what is wrong with them. -/
theorem breaksIff_numberOfDigits {digits : List Char} {text : String} :
    BreaksIff ((numberOfDigits digits).mapError (boundError path text)) (¬ ∃ n, WritesNumber digits n) := by
  rcases numberOfDigits_cases digits with ⟨n, read, written⟩ | ⟨fault, read, numeric⟩
  · rw [read]
    exact ⟨fun unwritten => absurd ⟨n, written⟩ unwritten, fun _ => reports_ok n⟩
  · have unwritten : ¬ ∃ n, WritesNumber digits n := by
      rintro ⟨n, written⟩
      rw [numberOfDigits_eq_ok.2 written] at read
      cases read
    rw [read]
    refine ⟨fun _ => ?_, fun written => absurd unwritten written⟩
    cases numeric with
    | notDecimal digits => exact ⟨_, rfl, .notDecimal digits⟩
    | tooManyDigits count => exact ⟨_, rfl, .tooManyDigits count⟩

/-- Reading a bound breaks off exactly if it cannot be read as a number. -/
theorem breaksIff_readBound {cs : List Char} {text : String} :
    BreaksIff ((readBound cs).mapError (boundError path text)) (UnreadableBound cs) := by
  unfold readBound
  split
  · next star =>
    refine ⟨fun unreadable => ?_, fun _ => reports_ok _⟩
    rw [eq_of_beq star] at unreadable
    exact absurd (unreadable.digits '*' List.mem_cons_self) (by decide)
  · split
    · next invalid =>
      refine ⟨fun unreadable => ?_, fun _ => reports_refuse ..⟩
      simp [unreadable.some, List.all_eq_true.2 unreadable.digits] at invalid
    · next valid =>
      simp only [Bool.or_eq_true, List.isEmpty_iff, Bool.not_eq_true', Bool.not_eq_false, not_or,
        List.all_eq_true] at valid
      obtain ⟨some, digits⟩ := valid
      rw [mapError_bind]
      refine (breaksIff_numberOfDigits.then fun n _ => reports_ok _).of_iff ?_
      rw [exists_writesNumber]
      constructor
      · rintro unreadable ⟨-, decimal, few⟩
        rcases unreadable.unreadable with ⟨c, there, other⟩ | many
        · rw [decimal c there] at other
          cases other
        · exact Nat.not_lt.2 few many
      · intro unwritten
        refine ⟨some, digits, ?_⟩
        by_cases few : cs.length ≤ Text.mostDigitsRead
        · left
          by_contra decimal
          exact unwritten ⟨some, by simpa using decimal, few⟩
        · exact .inr (Nat.not_le.1 few)

/-- The digits of a bound in a multiplicity are decimal, so all that can be wrong is that they are too many. -/
theorem breaksIff_digits {digits : List Char} (proper : (BoundText.digits digits).IsProper) {text : String} :
    BreaksIff ((numberOfDigits digits).mapError (boundError path text)) (Text.mostDigitsRead < digits.length) := by
  refine breaksIff_numberOfDigits.of_iff ?_
  rw [exists_writesNumber, and_iff_right proper.1, and_iff_right proper.2, Nat.not_le]

/-- Reading a multiplicity breaks off exactly if a bound of it cannot be read as a number. -/
theorem breaksIff_readMultiplicity {cs : List Char} {text : String} :
    BreaksIff ((readMultiplicity cs).mapError (boundError path text)) (UnreadableMultiplicity cs) := by
  unfold readMultiplicity
  split
  · next found =>
    exact ⟨fun unreadable => absurd unreadable (not_unreadableMultiplicity found), fun _ => reports_refuse ..⟩
  · next found => exact (reports_ok _).breaksIff.of_iff (unreadableMultiplicity_iff found)
  · next digits found =>
    have proper := (boundTexts?_eq_some.1 found).isProper
    rw [mapError_bind]
    exact ((breaksIff_digits proper.1).then fun n _ => reports_ok _).of_iff (unreadableMultiplicity_iff found)
  · next found => exact (reports_refuse ..).breaksIff.of_iff (unreadableMultiplicity_iff found)
  · next digits found =>
    have proper := (boundTexts?_eq_some.1 found).isProper
    rw [mapError_bind]
    exact ((breaksIff_digits proper.1).then fun n _ => reports_ok _).of_iff (unreadableMultiplicity_iff found)
  · next digits digits' found =>
    have proper := (boundTexts?_eq_some.1 found).isProper
    have read : (∃ n, (numberOfDigits digits).mapError (boundError path text) = .ok n) ↔ ∃ n, WritesNumber digits n :=
      exists_congr fun n => mapError_eq_ok.trans numberOfDigits_eq_ok
    rw [mapError_bind]
    have second (n : Nat) : BreaksIff ((do let m ← numberOfDigits digits'; pure ((n : Int), (m : Int))).mapError
        (boundError path text)) (Text.mostDigitsRead < digits'.length) := by
      rw [mapError_bind]
      exact (breaksIff_digits (proper.2 _ rfl)).then fun m _ => reports_ok _
    refine ((breaksIff_digits proper.1).bind read fun n _ => second n).of_iff ?_
    · rw [unreadableMultiplicity_iff found, HasManyDigits, exists_writesNumber, and_iff_right proper.1.1,
        and_iff_right proper.1.2, ← Nat.not_lt, or_iff_not_imp_left, or_iff_not_imp_left]
      tauto

/-- A value that is no text gives no multiplicity, or one that is read. -/
theorem breaksIff_multiplicity (json : d.isJson) :
    BreaksIff (multiplicity path d) (∃ word, d = .text word ∧ UnreadableMultiplicity word.toList) := by
  unfold multiplicity multiplicityOf
  split
  · next k => exact (reports_ok _).breaksIff.of_iff (by simp)
  · next noInt =>
    obtain ⟨s, shown⟩ := Document.exists_display json
    rw [shown]
    refine breaksIff_readMultiplicity.of_iff ?_
    constructor
    · rintro ⟨word, rfl, unreadable⟩
      obtain rfl := Option.some.inj shown
      exact unreadable
    · rintro ⟨b, b', bounds, many⟩
      by_cases isText : d.isText
      · obtain ⟨word, rfl⟩ := Document.exists_of_isText isText
        obtain rfl := Option.some.inj shown
        exact ⟨word, rfl, b, b', bounds, many⟩
      · have other : d.isText = false := by simpa using isText
        exact absurd bounds (Document.not_writesBounds json other noInt shown)

/-- Reading the bounds of an element breaks off exactly if one of them cannot be read as a number. -/
theorem breaksIff_bounds (json : d.isJson) : BreaksIff (bounds path (.ofEntries d.entries)) (HasUnreadableBounds d) := by
  unfold bounds HasUnreadableBounds
  rw [Document.get?_entries, Document.get?_entries, Document.get?_entries]
  cases given : d.entry? "multiplicity" with
  | some value => exact (breaksIff_multiplicity (Document.isJson_entry? json given)).then fun _ _ => reports_ok _
  | none =>
    dsimp only
    split
    · next word isText =>
      have found : d.entry? "upper" = some (.text word) := by
        cases upperAt : d.entry? "upper" with
        | none =>
          rw [upperAt] at isText
          cases isText
        | some value =>
          rw [upperAt] at isText
          exact congrArg some isText
      refine (breaksIff_readBound.then fun n _ => ?_).of_iff ?_
      · refine (reports_ok _).bind fun upper _ => ?_
        split
        · exact reports_ok _
        · exact reports_refuse ..
      · rw [found]
        constructor
        · rintro ⟨_, ⟨⟩, unreadable⟩
          exact unreadable
        · exact fun unreadable => ⟨word, rfl, unreadable⟩
    · next notText =>
      have fine : ¬ ∃ word, d.entry? "upper" = some (.text word) ∧ UnreadableBound (Text.trim word).toList := by
        rintro ⟨word, found, -⟩
        exact notText word (by rw [found]; rfl)
      refine ⟨fun unreadable => absurd unreadable fine, fun _ => (reports_ok _).bind fun upper _ => ?_⟩
      split
      · exact reports_ok _
      · exact reports_refuse ..

/-! ## Elements -/

/-- Reading a property breaks off exactly where the format says. -/
theorem breaksIff_propertyOf (json : d.isJson) : BreaksIff (propertyOf path d) (PropertyBreaks d) := by
  have part (key : String) : (d.held key).isJson := Document.isJson_held json key
  unfold propertyOf
  refine breaksIff_mapping json ((breaksIff_bounds json).then fun bounds _ => ?_)
  simp only [field_entries]
  refine (reports_nameOf _).bind fun name _ => ?_
  refine reports_referenceOf.bind fun type _ => ?_
  refine (reports_visibilityOf (part _)).bind fun visibility _ => ?_
  exact (reports_aggregationOf (part _)).bind fun aggregation _ => reports_ok _

/-- Reading a parameter does not break off. -/
theorem reports_parameterOf (json : d.isJson) : Reports (parameterOf path d) := by
  unfold parameterOf
  refine (breaksIff_mapping json (Reports.breaksIff ?_)).of_iff (by rw [and_false]) |>.of_false
  refine (reports_nameOf _).bind fun name _ => ?_
  exact reports_referenceOf.bind fun type _ => reports_ok _

/-- A name is read exactly if there is one. -/
theorem exists_nameOf_iff : (∃ name, nameOf path (.ofEntries d.entries) = .ok name) ↔ HasName d :=
  exists_congr fun _ => nameOf_eq_ok

/-- Reading an operation breaks off exactly where the format says. -/
theorem breaksIff_operationOf (json : d.isJson) : BreaksIff (operationOf path d) (OperationBreaks d) := by
  have part (key : String) : (d.held key).isJson := Document.isJson_held json key
  have parameters {here : String} : ∀ item ∈ d.items "params", Reports (parameterOf here item) := fun _ there =>
    reports_parameterOf (Document.isJson_items json there)
  unfold operationOf
  refine breaksIff_mapping json ((reports_nameOf _).then exists_nameOf_iff fun name _ => ?_)
  refine (breaksIff_bounds json).then fun bounds _ => ?_
  refine reports_referenceOf.bind fun type _ => ?_
  refine (reports_sequence _ _).bind fun items found => ?_
  obtain ⟨-, rfl⟩ := (sequence_eq_ok json).1 found
  refine (reports_mapM parameters).bind fun rs _ => ?_
  simp only [field_entries]
  exact (reports_visibilityOf (part _)).bind fun visibility _ => reports_ok _

/-- Reading references does not break off. -/
theorem reports_referencesOf (fields : Fields) (key : String) : Reports (referencesOf path fields key) := by
  unfold referencesOf
  refine (reports_sequence _ _).bind fun items _ => reports_mapM fun item _ => ?_
  refine reports_referenceOf.bind fun given _ => ?_
  split
  · exact reports_ok _
  · exact reports_refuse ..

/-- A property is read exactly if the document is one. -/
theorem exists_propertyOf_iff (json : d.isJson) : (∃ p, propertyOf path d = .ok p) ↔ IsProperty d := by
  rw [isProperty_iff]
  exact exists_congr fun _ => propertyOf_eq_ok json

/-- An operation is read exactly if the document is one. -/
theorem exists_operationOf_iff (json : d.isJson) : (∃ o, operationOf path d = .ok o) ↔ IsOperation d := by
  rw [isOperation_iff]
  exact exists_congr fun _ => operationOf_eq_ok json

/-- A type is read exactly if the document is one. -/
theorem exists_typeOf_iff (json : d.isJson) : (∃ t, typeOf path d = .ok t) ↔ IsType d := by
  rw [isType_iff json]
  exact exists_congr fun _ => typeOf_eq_ok json

/-- Only the ends of an association have bounds. -/
theorem breaksIff_bodyOf (json : d.isJson) (properties : List (Property Unit String))
    (operations : List (Operation Unit String)) (kind : Kind) :
    BreaksIff (bodyOf path (.ofEntries d.entries) properties operations kind)
      (kind = .association ∧ FirstAmong IsProperty PropertyBreaks (d.items "ends")) := by
  have never {body : Result (Body Unit String)} (reports : Reports body) (other : kind ≠ .association) :
      BreaksIff body (kind = .association ∧ FirstAmong IsProperty PropertyBreaks (d.items "ends")) :=
    reports.breaksIff.of_iff (by simp [other])
  cases kind with
  | classKind =>
    refine never ((reports_referencesOf _ _).bind fun superClasses _ => ?_) nofun
    exact (reports_referencesOf _ _).bind fun superInterfaces _ => reports_ok _
  | interface => exact never ((reports_referencesOf _ _).bind fun superInterfaces _ => reports_ok _) nofun
  | datatype => exact never (reports_ok _) nofun
  | primitive => exact never (reports_ok _) nofun
  | enumeration =>
    refine never ((reports_sequence _ _).bind fun items found => ?_) nofun
    obtain ⟨-, rfl⟩ := (sequence_eq_ok json).1 found
    refine (reports_mapM fun item there => ?_).bind fun literals _ => reports_ok _
    exact reports_shown (Document.isJson_items json there)
  | association =>
    have json' {item : Document} (there : item ∈ d.items "ends") : item.isJson := Document.isJson_items json there
    refine (breaksIff_items json (fun _ there => breaksIff_propertyOf (json' there))
      (fun _ there => exists_propertyOf_iff (json' there)) fun ends => (reports_ok _).breaksIff).of_iff ?_
    rw [and_false, or_false, and_iff_right rfl]

/-- Reading a type breaks off exactly where the format says. -/
theorem breaksIff_typeOf (json : d.isJson) : BreaksIff (typeOf path d) (TypeBreaks d) := by
  have json' {key : String} {item : Document} (there : item ∈ d.items key) : item.isJson :=
    Document.isJson_items json there
  unfold typeOf
  refine breaksIff_mapping json ((reports_nameOf _).then exists_nameOf_iff fun name _ => ?_)
  refine (reports_kindOf json).then (exists_congr fun kind => kindOf_eq_ok json) fun kind kinded => ?_
  refine breaksIff_items json (fun _ there => breaksIff_propertyOf (json' there))
    (fun _ there => exists_propertyOf_iff (json' there)) fun properties => ?_
  refine breaksIff_items json (fun _ there => breaksIff_operationOf (json' there))
    (fun _ there => exists_operationOf_iff (json' there)) fun operations => ?_
  refine ((breaksIff_bodyOf json properties operations kind).then fun body _ => reports_ok _).of_iff ?_
  refine and_congr_left fun _ => ?_
  -- The condition names the kind by its word, the body is read with the kind that was found: they are the same.
  obtain ⟨word, same, found⟩ := (kindOf_eq_ok json).1 kinded
  constructor
  · rintro ⟨word', same', found'⟩
    obtain rfl := Document.text.inj (same.symm.trans same')
    exact Option.some.inj (found.symm.trans found')
  · rintro rfl
    exact ⟨word, same, found⟩

/-! ## Packages and models -/

/-- A package is read within a depth exactly if the document is one within this depth. -/
theorem exists_packageWithin_iff (json : d.isJson) (n : Nat) :
    (∃ p, packageWithin n path d = .ok p) ↔ IsPackageWithin n d := by
  cases n with
  | zero => exact ⟨nofun, nofun⟩
  | succ n =>
    have read (p : Package Unit String) : packageWithin (n + 1) path d = .ok p ↔
        NestWithin n (d.items "packages") ∧ DeclaresPackage d p :=
      packageWithin_eq_ok json (packages_eq_ok n fun _ inside => Document.isJson_items json inside)
    simp only [read, exists_and_left]
    refine and_congr_right fun _ => ⟨?_, fun form => form.exists_declared json⟩
    rintro ⟨p, declared⟩
    exact isPackage_of_declared [p] (by simpa using json) (.cons declared .nil) d List.mem_cons_self

/-- Reading a package within a depth breaks off exactly where the format says. -/
theorem breaksIff_packageWithin (json : d.isJson) (n : Nat) : BreaksIff (packageWithin n path d) (PackageBreaks n d) := by
  -- Packages in a package are read with one level less, and at another path.
  induction n generalizing path d with
  | zero => exact ⟨fun _ => ⟨_, rfl, .tooDeep⟩, fun fine => absurd trivial fine⟩
  | succ n ih =>
    have json' {key : String} {item : Document} (there : item ∈ d.items key) : item.isJson :=
      Document.isJson_items json there
    unfold packageWithin
    refine breaksIff_mapping json ((reports_nameOf _).then exists_nameOf_iff fun name _ => ?_)
    refine breaksIff_items json (fun _ there => ih (json' there))
      (fun _ there => exists_packageWithin_iff (json' there) n) fun packages => ?_
    refine (breaksIff_items json (fun _ there => breaksIff_typeOf (json' there))
      (fun _ there => exists_typeOf_iff (json' there)) fun types => (reports_ok _).breaksIff).of_iff ?_
    rw [and_false, or_false]

/-- A JSON document is loaded or refused unless its first fault is a bound that looks like a number and is none, or a
package that is nested too deep; there the reading breaks off. -/
theorem loads_or_refuses_iff {root : Document} (json : root.isJson) (depth : Nat) :
    (Reports (modelWithin depth root) ↔ ¬ ModelBreaks depth root) ∧
      (ModelBreaks depth root → Breaks (modelWithin depth root)) := by
  have json' {item : Document} (there : item ∈ root.items "packages") : item.isJson := Document.isJson_items json there
  have model : BreaksIff (modelWithin depth root) (ModelBreaks depth root) := by
    unfold modelWithin
    refine breaksIff_mapping json ((breaksIff_items json (fun _ there => breaksIff_packageWithin (json' there) depth)
      (fun _ there => exists_packageWithin_iff (json' there) depth) fun packages => (reports_ok _).breaksIff).of_iff ?_)
    rw [and_false, or_false]
  exact ⟨model.reports_iff, model.breaks⟩

/-- A property has a superscript two for its upper bound, which counts as a digit and has no decimal value. -/
def superscript : Document :=
  let property := .map [(.text "name", .text "a"), (.text "upper", .text "²")]
  let type := .map [(.text "kind", .text "class"), (.text "name", .text "A"), (.text "properties", .list [property])]
  .map [(.text "packages", .list [.map [(.text "name", .text "p"), (.text "types", .list [type])]])]

/-- An upper bound that is a superscript digit breaks the loading off. -/
theorem superscript_breaks :
    superscript.isJson ∧ ModelBreaks deepestPackage superscript ∧ Breaks (modelWithin deepestPackage superscript) := by
  have unreadable : UnreadableBound (Text.trim "²").toList := by
    have trimmed : (Text.trim "²").toList = ['²'] := by decide +kernel
    rw [trimmed]
    have digit : Text.isDigit '²' = true := by decide +kernel
    exact ⟨nofun, List.forall_mem_singleton.2 digit, .inl ⟨'²', List.mem_cons_self, by decide +kernel⟩⟩
  have kind : kind? "class" = some .classKind := by decide +kernel
  have breaks : ModelBreaks deepestPackage superscript := by
    refine ⟨rfl, .inl ⟨rfl, ⟨"p", rfl, by decide⟩, .inr ⟨⟨.inl rfl, nofun⟩, .inl ?_⟩⟩⟩
    exact ⟨rfl, ⟨"A", rfl, by decide⟩, ⟨.classKind, "class", rfl, kind⟩, .inl (.inl ⟨rfl, "²", rfl, unreadable⟩)⟩
  exact ⟨rfl, breaks, (loads_or_refuses_iff rfl deepestPackage).2 breaks⟩

/-- An upper bound that is a superscript digit gives no model and is not refused. -/
theorem superscript_not_refused : superscript.isJson ∧ ¬ ((∃ m, modelOf superscript = .ok m) ∨
    ∃ file path problem, modelOf superscript = .error (.refused file path problem)) := by
  have broken : modelOf superscript = .error (.misfit (.notInteger 10 "²")) := rfl
  rw [broken]
  refine ⟨rfl, ?_⟩
  rintro (⟨m, given⟩ | ⟨file, path, problem, refused⟩)
  · cases given
  · cases refused

end Loading

end ClassDiagram
