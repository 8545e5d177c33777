import ClassDiagram.Proofs.Draft.Relinking

/-!
# A package at the end rebinds nothing

Names are looked up in an order: the packages around a place from the nearest on, and the types of the model in their
order.  A package that comes at the end of a model comes last in each of these, so a name that led to a type leads
to the same type (`lookUpIn_append`, `findQualified_append`), and linking keeps all references that led somewhere
(`appending_keeps`).
-/

set_option autoImplicit false

namespace ClassDiagram

/-! ## The first of more -/

/-- What is found in a list is found with more behind it. -/
theorem find?_append_of_eq_some {α : Type} {p : α → Bool} {xs ys : List α} {a : α}
    (found : xs.find? p = some a) : (xs ++ ys).find? p = some a := by
  rw [List.find?_append, found, Option.some_or]

/-- What a scope leads to is not changed by what comes after it. -/
theorem Scope.named?_append {α : Type} [HasKind α] {scope more : Scope α} {kinds : List Kind} {name : String}
    {found : α} (before : scope.named? kinds name = some found) :
    Scope.named? (scope ++ more) kinds name = some found := by
  obtain ⟨pair, first, rfl⟩ := Option.map_eq_some_iff.1 before
  rw [Scope.named?, find?_append_of_eq_some first]
  rfl

namespace Draft

variable {m m' : Model Handle Pointer} {ps : List (Package Handle Pointer)} {found : Entry}
  {kinds : List Kind} {name : String}

/-! ## Names -/

section

variable (more : m'.packages = m.packages ++ ps)
include more

/-- The types of a model with packages behind it are its own and then theirs. -/
theorem types_append : m'.types = m.types ++ typesIn ps := by
  change typesIn m'.packages = typesIn m.packages ++ typesIn ps
  rw [more, ← routedTypes_map_snd, routedTypes_append, List.map_append, routedTypes_map_snd,
    routedTypes_map_snd]

/-- A qualified name that led to a type leads to it after packages were added at the end. -/
theorem findQualified_append (before : (m.nameTree Entry.ofType).findQualified kinds name = some found) :
    (m'.nameTree Entry.ofType).findQualified kinds name = some found := by
  rw [Model.findQualified_nameTree _ _ fun _ => rfl] at before ⊢
  obtain ⟨pair, first, rfl⟩ := Option.map_eq_some_iff.1 before
  rw [more, routedTypes_append, find?_append_of_eq_some first]
  rfl

/-- A name that led to a type leads to it after packages were added at the end. -/
theorem lookUpIn_append {around : List (Element Handle Pointer)}
    (before : lookUpIn m around kinds name = some found) : lookUpIn m' around kinds name = some found := by
  rw [lookUpIn, Directory.find?] at before ⊢
  split at before
  · exact absurd before (Option.some_ne_none found).symm
  · next given =>
    rw [if_neg given]
    split at before
    · next qualified =>
      rw [if_pos qualified]
      exact findQualified_append more before
    · next simple =>
      rw [if_neg simple]
      rw [findSimple, List.findSome?_append] at before ⊢
      -- The packages around the place are the same, and the whole model comes after them.
      cases near : List.findSome? (fun scope : Scope Entry => scope.named? kinds name)
          ((packagesAmong around).map fun p => entriesOf p.types) with
      | some entry =>
        rw [near, Option.some_or] at before
        rw [Option.some_or]
        exact before
      | none =>
        rw [near, Option.none_or, List.findSome?_singleton] at before
        rw [Option.none_or, List.findSome?_singleton]
        have everything : entriesOf m'.types = entriesOf m.types ++ entriesOf (typesIn ps) := by
          rw [types_append more, entriesOf, List.map_append]
          rfl
        change Scope.named? (entriesOf m'.types) kinds name = some found
        rw [everything]
        exact Scope.named?_append before

/-- A reference of a model is still there with packages behind it. -/
theorem referenceAt?_append {s : Spot} {p : Pointer} (before : referenceAt? m s = some p) :
    referenceAt? m' s = some p := by
  have elements : m'.elements = m.elements ++ (ps.map .package).flatMap Element.all := by
    rw [Model.elements_eq, Model.elements_eq, more, List.map_append, List.flatMap_append]
  obtain ⟨e, among, there⟩ := Option.bind_eq_some_iff.1 before
  rw [elementAmong] at among
  rw [referenceAt?, elementAmong, elements, find?_append_of_eq_some among]
  exact there

end

/-! ## References -/

variable {d d' : Draft} {e : Element Handle Pointer}

section

variable (current : d.IsCurrent) (current' : d'.IsCurrent)
  (more : (bare d'.model).packages = (bare d.model).packages ++ ps)
include current current' more

/-- A name that led to a type from an element leads to it in a draft with packages added at the end. -/
theorem lookUp_append (there : e ∈ d.model.elements)
    (before : d.lookUp (.element e.place.origin) kinds name = some found) :
    d'.lookUp (.element e.place.origin) kinds name = some found := by
  obtain ⟨_, around, inside, _, e', around', inside', origin, alike⟩ := exists_alike more there
  rw [current.lookUp_eq inside, ← lookUpIn_bare, alike] at before
  rw [origin, current'.lookUp_eq inside', ← lookUpIn_bare]
  exact lookUpIn_append more before

/-- A name that is found from an element is found there with packages behind the model. -/
theorem lookUpGiven_append {field : RefField} {given : Document} {origin : Origin}
    (there : e ∈ d.model.elements) (before : d.lookUpGiven e.place.origin field given = some origin) :
    d'.lookUpGiven e.place.origin field given = some origin := by
  cases given with
  | text name =>
    obtain ⟨entry, looked, rfl⟩ := Option.map_eq_some_iff.1 before
    rw [lookUpGiven, lookUp_append current current' more there looked]
    rfl
  | _ => exact absurd before (Option.some_ne_none origin).symm

/-- A reference that led somewhere leads there in a draft with packages added at the end. -/
theorem leadsTo?_append {s : Spot} {target : Holder} (before : d.leadsTo? s = some (some target)) :
    d'.leadsTo? s = some (some target) := by
  obtain ⟨p, found, _⟩ := Option.map_eq_some_iff.1 before
  obtain ⟨e, there, owner, _⟩ := mem_of_referenceAt? found
  have bareFound : referenceAt? (bare d.model) s = some p.anew := by
    rw [referenceAt?_bare, found]
    rfl
  have bareFound' := referenceAt?_append more bareFound
  rw [referenceAt?_bare] at bareFound'
  obtain ⟨p', found', anew⟩ := Option.map_eq_some_iff.1 bareFound'
  rw [current.leadsTo?_eq found] at before
  rw [current'.leadsTo?_eq found', ← p'.answer_anew, ← p'.name_anew, anew, p.answer_anew, p.name_anew]
  have led := Option.some.inj before
  congr 1
  obtain ⟨name, isLinked, aim⟩ := p
  have looked (found : (d.lookUpGiven s.owner s.field name).map Holder.element = some target) :
      (d'.lookUpGiven s.owner s.field name).map Holder.element = some target := by
    obtain ⟨origin, own, rfl⟩ := Option.map_eq_some_iff.1 found
    rw [← owner] at own ⊢
    rw [lookUpGiven_append current current' more there own]
    rfl
  cases aim with
  | given target' =>
    rw [Pointer.answer_given] at led ⊢
    exact led
  | unknown => exact looked led
  | settled found => exact looked led
  | absent => exact looked led

end

/-- Where a history of a linked draft has added a package at the end of its tree, the draft can be linked, and then
every reference of the old tree that led somewhere leads there, and names, qualified or not, that led to a type lead
to it. -/
theorem appending_keeps {d d₁ : Draft} {p : Package Handle Pointer} (linked : d.IsLinked)
    (history : Evolves d d₁) (appended : (bare d₁.model).packages = (bare d.model).packages ++ [p]) :
    ∃ d₂, d₁.link = (.ok (), d₂) ∧
      (∀ s target, d.leadsTo? s = some (some target) → d₂.leadsTo? s = some (some target)) ∧
      (∀ kinds name found, (d.findQualified kinds name).1 = some found →
        (d₂.findQualified kinds name).1 = some found) ∧
      ∀ e ∈ d.model.elements, ∀ kinds name found,
        (d.find (.element e.place.origin) kinds name).1 = some found →
          (d₂.find (.element e.place.origin) kinds name).1 = some found := by
  have current := linked.isCurrent
  have sound := history.isSound current.sound
  have current' := sound.linkAll
  have more : (bare d₁.linkAll.model).packages = (bare d.model).packages ++ [p] := by
    rw [bare_linkAll, appended]
  refine ⟨d₁.linkAll, sound.link_eq, fun s target before => ?_, fun kinds name found before => ?_,
    fun e there kinds name found before => ?_⟩
  · exact leadsTo?_append current current' more before
  · rw [findQualified_eq current.sound current.placed] at before
    rw [findQualified_eq current'.sound current'.placed]
    have tree (m : Model Handle Pointer) : (bare m).nameTree Entry.ofType = m.nameTree Entry.ofType :=
      congrArg Directory.tree (directoryOf_bare m)
    rw [← tree] at before ⊢
    exact findQualified_append more before
  · exact lookUp_append current current' more there before

/-- A second club, with a person of its own, and a coach. -/
def secondClub : Package Unit String :=
  ⟨(), "club", [],
    [⟨(), "Person", .classBody ⟨false, [], [], [], []⟩⟩,
      ⟨(), "Coach", .classBody ⟨false, [], [], ["Player"], []⟩⟩]⟩

/-- A player of the first club stays a person of the other package, though persons of the second club come under
the name of the club. -/
theorem appending_keeps_beside_second_club :
    ∃ d₁ d₂, (ofDeclared roster).add .model .packages (.package secondClub) none = .ok d₁ ∧
      d₁.link = (.ok (), d₂) ∧
      d₂.leadsTo? ⟨rosterPlayer, .superClasses, 0⟩ = some (some (.element rosterPerson)) ∧
      (d₂.findQualified Kind.all "club.Player").1 = some ⟨rosterPlayer, .classKind⟩ := by
  rcases added : (ofDeclared roster).add .model .packages (.package secondClub) none with _ | d₁
  · cases added
  · obtain ⟨d₂, linking, references, qualified, _⟩ :=
      appending_keeps (.declared roster) (.single (.edit (.add added))) (by cases added; rfl)
    exact ⟨d₁, d₂, rfl, linking, references _ _ (by decide +kernel), qualified _ _ _ (by decide +kernel)⟩

end Draft

end ClassDiagram
