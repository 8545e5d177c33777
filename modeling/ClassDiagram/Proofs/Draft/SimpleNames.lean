import ClassDiagram.Proofs.Draft.View

/-!
# Simple names in a draft

A name without several segments is looked up in the packages around its place, the nearest first, and then in the whole
model (`lookUpIn_simple`).  At each of these the kinds are asked for together with the name, so what has the name but
none of the kinds is passed over, however near it is (`find_simple_iff`).
-/

set_option autoImplicit false

namespace ClassDiagram

variable {ι ρ : Type}

/-! ## The first of a list -/

/-- Whether an item is the first of a list that has a property. -/
def IsFirst {α : Type} (P : α → Prop) (xs : List α) (x : α) : Prop :=
  ∃ before after, xs = before ++ x :: after ∧ P x ∧ ∀ y ∈ before, ¬ P y

/-- What is found in a list is the first item with the property. -/
theorem find?_eq_some_iff_isFirst {α : Type} {P : α → Prop} [DecidablePred P] {xs : List α} {x : α} :
    (xs.find? fun y => decide (P y)) = some x ↔ IsFirst P xs x := by
  rw [List.find?_eq_some_iff_append]
  constructor
  · rintro ⟨holds, before, after, split, others⟩
    exact ⟨before, after, split, by simpa using holds, fun y there => by simpa using others y there⟩
  · rintro ⟨before, after, split, holds, others⟩
    exact ⟨by simpa using holds, before, after, split, fun y there => by simpa using others y there⟩

/-- The first item with a property is in the list and has it. -/
theorem IsFirst.mem {α : Type} {P : α → Prop} {xs : List α} {x : α} (first : IsFirst P xs x) : x ∈ xs ∧ P x := by
  obtain ⟨before, after, rfl, holds, _⟩ := first
  exact ⟨by simp, holds⟩

/-! ## Where a name leads -/

/-- Whether a type has a name and one of some kinds. -/
def Classifier.IsSought (kinds : List Kind) (name : String) (t : Classifier ι ρ) : Prop :=
  t.name = name ∧ t.kind ∈ kinds

instance (kinds : List Kind) (name : String) : DecidablePred (Classifier.IsSought (ι := ι) (ρ := ρ) kinds name) :=
  fun _ => inferInstanceAs (Decidable (_ ∧ _))

/-- Whether a package holds a type with a name and one of some kinds. -/
def Package.Owns (kinds : List Kind) (name : String) (p : Package ι ρ) : Prop :=
  ∃ t ∈ p.types, t.IsSought kinds name

/-- The type that a simple name leads to inside of packages, which are given with the nearest first: the first one in
the nearest package that holds one, or where none does the first one of the model. -/
inductive Model.ScopesTo (m : Model ι ρ) (packages : List (Package ι ρ)) (kinds : List Kind) (name : String)
    (t : Classifier ι ρ) : Prop where
  | near {p : Package ι ρ} (nearest : IsFirst (Package.Owns kinds name) packages p)
    (first : IsFirst (Classifier.IsSought kinds name) p.types t)
  | anywhere (nowhere : ∀ p ∈ packages, ¬ p.Owns kinds name)
    (first : IsFirst (Classifier.IsSought kinds name) m.types t)

/-- The first type with a name and one of some kinds in a list. -/
def soughtAmong (kinds : List Kind) (name : String) (types : List (Classifier ι ρ)) : Option (Classifier ι ρ) :=
  types.find? fun t => decide (t.IsSought kinds name)

section

variable {m : Model ι ρ} {packages : List (Package ι ρ)} {kinds : List Kind} {name : String} {t : Classifier ι ρ}

/-- The type that a name means in scopes is of a kind that is sought and has the name. -/
theorem Model.ScopesTo.isSought (leads : m.ScopesTo packages kinds name t) : t.IsSought kinds name := by
  cases leads with
  | near _ first => exact first.mem.2
  | anywhere _ first => exact first.mem.2

/-- The type that a name means in packages of a model is a type of the model. -/
theorem Model.ScopesTo.mem_types (leads : m.ScopesTo packages kinds name t)
    (within : ∀ p ∈ packages, ∀ t ∈ p.types, t ∈ m.types) : t ∈ m.types := by
  cases leads with
  | near nearest first => exact within _ nearest.mem.1 t first.mem.1
  | anywhere _ first => exact first.mem.1

/-- Nothing is found among types exactly if none of them is sought. -/
theorem soughtAmong_eq_none_iff {types : List (Classifier ι ρ)} :
    soughtAmong kinds name types = none ↔ ∀ t ∈ types, ¬ t.IsSought kinds name := by
  simp [soughtAmong]

/-- The nearest package that holds a type gives the first one that it holds. -/
theorem findSome?_soughtAmong :
    packages.findSome? (fun p => soughtAmong kinds name p.types) = some t ↔
      ∃ p, IsFirst (Package.Owns kinds name) packages p ∧ IsFirst (Classifier.IsSought kinds name) p.types t := by
  rw [List.findSome?_eq_some_iff]
  constructor
  · rintro ⟨near, p, far, split, found, others⟩
    have first : IsFirst (Classifier.IsSought kinds name) p.types t := find?_eq_some_iff_isFirst.1 found
    refine ⟨p, ⟨near, far, split, ⟨t, first.mem⟩, ?_⟩, first⟩
    rintro q among ⟨t', part, sought⟩
    exact soughtAmong_eq_none_iff.1 (others q among) t' part sought
  · rintro ⟨p, ⟨near, far, split, _, others⟩, first⟩
    refine ⟨near, p, far, split, find?_eq_some_iff_isFirst.2 first, ?_⟩
    intro q among
    rw [soughtAmong_eq_none_iff]
    intro t' part sought
    exact others q among ⟨t', part, sought⟩

/-- Nothing is found in packages exactly if none of them owns what is sought. -/
theorem findSome?_soughtAmong_eq_none_iff :
    packages.findSome? (fun p => soughtAmong kinds name p.types) = none ↔ ∀ p ∈ packages, ¬ p.Owns kinds name := by
  simp [List.findSome?_eq_none_iff, soughtAmong_eq_none_iff, Package.Owns]

/-- A name means what is found in the packages around, or else in the whole model. -/
theorem scopesTo_iff :
    m.ScopesTo packages kinds name t ↔
      (packages.findSome? (fun p => soughtAmong kinds name p.types)).or (soughtAmong kinds name m.types) = some t := by
  rw [Option.or_eq_some_iff, findSome?_soughtAmong, findSome?_soughtAmong_eq_none_iff, soughtAmong,
    find?_eq_some_iff_isFirst]
  constructor
  · intro leads
    cases leads with
    | near nearest first => exact .inl ⟨_, nearest, first⟩
    | anywhere nowhere first => exact .inr ⟨nowhere, first⟩
  · rintro (⟨p, nearest, first⟩ | ⟨nowhere, first⟩)
    · exact .near nearest first
    · exact .anywhere nowhere first

end

namespace Draft

variable {d : Draft} {path : Path} {e : Element Handle Pointer} {around : List (Element Handle Pointer)}
  {kinds : List Kind} {name : String}

/-- A scope leads to its first type with the name and one of the kinds. -/
theorem named?_entriesOf (types : List (Classifier Handle Pointer)) :
    (entriesOf types).named? kinds name = (soughtAmong kinds name types).map .ofType := by
  have same : (fun t : Classifier Handle Pointer => t.name == name && kinds.contains t.kind) =
      fun t => decide (t.IsSought kinds name) := by
    funext t
    rw [Bool.eq_iff_iff, decide_eq_true_iff]
    simp [Classifier.IsSought]
  rw [Scope.named?, entriesOf, List.find?_map, Option.map_map, soughtAmong, ← same]
  rfl

/-- A simple name is looked up in the packages around its place, and then in the whole model. -/
theorem lookUpIn_simple (m : Model Handle Pointer) (nonempty : name ≠ "") (simple : (nameSegments name).length ≤ 1) :
    lookUpIn m around kinds name =
      (((packagesAmong around).findSome? fun p => soughtAmong kinds name p.types).or
        (soughtAmong kinds name m.types)).map .ofType := by
  have unqualified : ¬ isQualified name = true := by
    simp [isQualified, simple]
  have given : ¬ name.isEmpty = true := by
    simpa using nonempty
  rw [lookUpIn, Directory.find?, if_neg given, if_neg unqualified, findSimple, List.findSome?_append,
    List.findSome?_singleton, directoryOf, named?_entriesOf, List.findSome?_map, Option.map_or, List.map_findSome?]
  congr 2
  funext p
  exact named?_entriesOf p.types

/-- From an element of a linked draft, a simple name leads to none exactly if no type of the draft has the name and one
of the kinds.  Else it leads to the first such type of the nearest package around the element, the element itself if it
is one, that holds such a type, and to the first one of the draft where none of these packages does.  Types that have
the name and none of the kinds make no difference: they may be in any of the nearer packages. -/
theorem find_simple_iff (linked : d.IsLinked) (there : d.model.At path e around) (kinds : List Kind) {name : String}
    (nonempty : name ≠ "") (simple : (nameSegments name).length ≤ 1) :
    ((d.find (.element e.place.origin) kinds name).1 = none ↔
      ∀ t ∈ d.model.types, ¬ (t.name = name ∧ t.kind ∈ kinds)) ∧
    (∀ entry, (d.find (.element e.place.origin) kinds name).1 = some entry ↔
      ∃ t ∈ d.model.types, (t.name = name ∧ t.kind ∈ kinds) ∧
        d.model.ScopesTo (packagesAmong (e :: around)) kinds name t ∧ entry = .ofType t) ∧
    (∀ near p far, packagesAmong (e :: around) = near ++ p :: far →
      (∀ q ∈ near, ∀ t ∈ q.types, t.name = name → t.kind ∉ kinds) →
        ∀ t, IsFirst (Classifier.IsSought kinds name) p.types t →
          (d.find (.element e.place.origin) kinds name).1 = some (.ofType t)) := by
  have answer : (d.find (.element e.place.origin) kinds name).1 =
      (((packagesAmong (e :: around)).findSome? fun p => soughtAmong kinds name p.types).or
        (soughtAmong kinds name d.model.types)).map .ofType :=
    (linked.isCurrent.lookUp_eq there kinds name).trans (lookUpIn_simple d.model nonempty simple)
  have leads (entry : Entry) : (d.find (.element e.place.origin) kinds name).1 = some entry ↔
      ∃ t, d.model.ScopesTo (packagesAmong (e :: around)) kinds name t ∧ entry = .ofType t := by
    rw [answer, Option.map_eq_some_iff]
    simp only [scopesTo_iff, eq_comm]
  refine ⟨?_, ?_, ?_⟩
  · rw [answer, Option.map_eq_none_iff, Option.or_eq_none_iff, findSome?_soughtAmong_eq_none_iff,
      soughtAmong_eq_none_iff]
    constructor
    · intro nowhere
      exact nowhere.2
    · intro nowhere
      refine ⟨?_, nowhere⟩
      rintro p within ⟨t, part, sought⟩
      exact nowhere t (there.mem_types within part) sought
  · intro entry
    rw [leads]
    constructor
    · rintro ⟨t, scopes, rfl⟩
      exact ⟨t, scopes.mem_types fun p within t' part => there.mem_types within part, scopes.isSought, scopes, rfl⟩
    · rintro ⟨t, _, _, scopes, rfl⟩
      exact ⟨t, scopes, rfl⟩
  · intro near p far split others t first
    rw [leads]
    refine ⟨t, .near (p := p) ⟨near, far, split, ⟨t, first.mem⟩, ?_⟩ first, rfl⟩
    rintro q among ⟨t', part, sought⟩
    exact others q among t' part sought.1 sought.2

/-- An academy with a school in it, where a lesson has a course.  The archive before it has a course too, and the school
has one that is no class. -/
def academy : Declared :=
  ⟨[⟨(), "archive", [], [⟨(), "Course", .classBody ⟨false, [], [], [], []⟩⟩]⟩,
    ⟨(), "academy",
      [⟨(), "school", [],
        [⟨(), "Course", .enumeration []⟩,
          ⟨(), "Lesson", .classBody ⟨false, [⟨(), "course", none, .number 0, .number 1, none, false, .plain⟩], [], [],
            []⟩⟩]⟩],
      [⟨(), "Course", .primitive⟩, ⟨(), "Course", .classBody ⟨false, [], [], [], []⟩⟩]⟩]⟩

/-- From the property of the lesson, the name leads to the class of the academy: not to the enumeration of the school,
and not to the class of the archive, though that comes first in the model. -/
theorem find_simple_iff_in_academy :
    ∃ path e around, (ofDeclared academy).model.At path e around ∧
      e.place.origin = ⟨0, [.package 1, .package 0, .type 1, .property 0]⟩ ∧
      ((ofDeclared academy).find (.element e.place.origin) [.classKind] "Course").1 =
        some ⟨⟨0, [.package 1, .type 1]⟩, .classKind⟩ ∧
      (∃ t, (ofDeclared academy).model.ScopesTo (packagesAmong (e :: around)) [.classKind] "Course" t ∧
        t.place.origin = ⟨0, [.package 1, .type 1]⟩) ∧
      ((ofDeclared academy).find (.element e.place.origin) [.interface] "Course").1 = none := by
  let e := (ofDeclared academy).model.elements.get ⟨6, by decide +kernel⟩
  have origin : e.place.origin = ⟨0, [.package 1, .package 0, .type 1, .property 0]⟩ := by decide +kernel
  obtain ⟨path, around, there⟩ := Model.mem_elements_iff.1 (List.get_mem _ _ : e ∈ (ofDeclared academy).model.elements)
  have asClass := find_simple_iff (.declared academy) there [.classKind] (by decide : "Course" ≠ "") (by decide +kernel)
  have asInterface := find_simple_iff (.declared academy) there [.interface] (by decide : "Course" ≠ "")
    (by decide +kernel)
  have found : ((ofDeclared academy).find (.element e.place.origin) [.classKind] "Course").1 =
      some ⟨⟨0, [.package 1, .type 1]⟩, .classKind⟩ := by
    rw [origin]
    decide +kernel
  obtain ⟨t, _, _, leads, same⟩ := (asClass.2.1 _).1 found
  exact ⟨path, e, around, there, origin, found, ⟨t, leads, (congrArg Entry.origin same).symm⟩,
    asInterface.1.2 (by decide +kernel)⟩

end Draft

end ClassDiagram
