import ClassDiagram.Proofs.Draft.Answers
import ClassDiagram.Proofs.Draft.Plain
import ClassDiagram.Proofs.Draft.QualifiedNames
import ClassDiagram.Proofs.Model.Duplicates

/-!
# Duplicate names in a draft

The check of a draft finds, for each name that occurs again in a scope of its tree, one error for each occurrence, in
their order, and no other error about duplicates (`IsTyped.reportsDuplicates`).  An error says nothing of the order of
the items but where its element is, so another order of the items of a scope gives the same errors in another order
(`duplicates_are_exact`).
-/

set_option autoImplicit false

namespace ClassDiagram

variable {ι ρ κ σ : Type}

/-! ## Scopes with other places -/

/-- The same scope with other places and references. -/
def NameScope.map (f : ι → κ) (g : ι → RefField → Nat → ρ → σ) : NameScope ι ρ → NameScope κ σ
  | packages items => packages (items.map (·.map f g))
  | types items => types (items.map (·.map f g))
  | properties items => properties (items.map (·.map f g))
  | operations items => operations (items.map (·.map f g))
  | ends items => ends (items.map (·.map f g))
  | literals t => literals (t.map f g)

section

variable (f : ι → κ) (g : ι → RefField → Nat → ρ → σ)

/-- The names of a scope occur at the places that they are moved to. -/
theorem NameScope.occurrences_map (s : NameScope ι ρ) :
    (s.map f g).occurrences = s.occurrences.map fun o => ⟨o.name, f o.place, o.element, o.index⟩ := by
  have elements {α β : Type} (h : α → β) (element : α → Element ι ρ) (element' : β → Element κ σ)
      (same : ∀ x, element' (h x) = (element x).map f g) (items : List α) :
      ((items.map h).map element').map Occurrence.ofElement =
        ((items.map element).map Occurrence.ofElement).map fun o => ⟨o.name, f o.place, o.element, o.index⟩ := by
    simp [Function.comp_def, same, Occurrence.ofElement]
  cases s with
  | packages items => exact elements (·.map f g) .package .package (fun _ => rfl) items
  | types items => exact elements (·.map f g) .classifier .classifier (fun _ => rfl) items
  | properties items => exact elements (·.map f g) .property .property (fun _ => rfl) items
  | operations items => exact elements (·.map f g) .operation .operation (fun _ => rfl) items
  | ends items => exact elements (·.map f g) .property .property (fun _ => rfl) items
  | literals t =>
    have literals : (t.map f g).literals = t.literals := by
      obtain ⟨_, _, body⟩ := t
      cases body <;> rfl
    rw [map, occurrences, literals, occurrences, List.map_map]
    rfl

/-- The finding for a scope does not depend on its places. -/
theorem NameScope.finding_map (s : NameScope ι ρ) : (s.map f g).finding = s.finding := by
  cases s <;> rfl

/-- The field of a scope does not depend on its places. -/
theorem NameScope.field_map (s : NameScope ι ρ) : (s.map f g).field = s.field := by
  cases s <;> rfl

/-- The errors of a scope are told by the keys of its places. -/
theorem NameScope.errors_map (key : κ → Key) (s : NameScope ι ρ) :
    (s.map f g).errors key = s.errors (key ∘ f) := by
  have names : (s.map f g).names = s.names := by
    rw [names, occurrences_map, List.map_map]
    rfl
  rw [errors, names, occurrences_map, List.filter_map, List.map_map, errors]
  congr 1
  funext o
  rw [Function.comp_apply, error, finding_map, field_map]
  rfl

/-- The scopes of a type move with its places. -/
theorem Classifier.scopes_map (t : Classifier ι ρ) : (t.map f g).scopes = t.scopes.map (·.map f g) := by
  obtain ⟨place, name, body⟩ := t
  cases body <;> rfl

/-- The scopes of a package move with its places. -/
theorem Package.scopes_map (p : Package ι ρ) : (p.map f g).scopes = p.scopes.map (·.map f g) := by
  obtain ⟨place, name, packages, types⟩ := p
  rw [Package.map, scopes, mapPackages_eq, List.flatMap_map, List.flatMap_congr fun t _ => t.scopes_map f g,
    ← List.map_flatMap]
  rfl

/-- The scopes of a model move with its places. -/
theorem Model.scopes_map (m : Model ι ρ) : (m.map f g).scopes = m.scopes.map (·.map f g) := by
  have top : (NameScope.packages (m.map f g).packages) = (NameScope.packages m.packages).map f g :=
    congrArg NameScope.packages (mapPackages_eq f g m.packages)
  have inside : (m.map f g).allPackages.flatMap Package.scopes =
      (m.allPackages.flatMap Package.scopes).map (·.map f g) := by
    have all : (m.map f g).allPackages = m.allPackages.map (·.map f g) := allPackages_mapPackages f g m.packages
    rw [all, List.flatMap_map, List.flatMap_congr fun p _ => p.scopes_map f g,
      List.map_flatMap]
  exact congrArg₂ List.cons top inside

end

namespace Draft

variable {d : Draft}

/-! ## Errors of a draft -/

/-- The key of an element of a draft by its handle. -/
def keyOf (d : Draft) (h : Handle) : Key := d.key h.origin

/-- The duplicate names in the linked form of a draft are those in its scopes, told by keys. -/
theorem duplicateNames_view (d : Draft) :
    Validation.duplicateNames d.view.model = d.model.scopes.flatMap (NameScope.errors d.keyOf) := by
  have scopes : d.view.model.scopes = d.model.scopes.map (·.map (d.placeOf d.positions) (d.linkOf d.positions)) :=
    Model.scopes_map _ _ d.model
  rw [Validation.duplicateNames_eq, scopes, List.flatMap_map]
  exact List.flatMap_congr fun s _ => s.errors_map _ _ Place.key

/-- The elements of a sound draft have distinct keys. -/
theorem IsSound.nodup_keys (sound : d.IsSound) : (d.model.elements.map (d.keyOf ·.place)).Nodup := by
  refine List.Nodup.map_on (fun e there e' there' same => ?_) ?_
  · exact sound.key_inj (mem_elements_of_tree there) (mem_elements_of_tree there') same
  · exact (List.nodup_append.1 sound.apart.of_map).1

/-- The element that a finding about a draft is at. -/
def elementOf (d : Draft) (x : Diagnostic) : Option Holder := d.holderAt? d.positions x.target

/-- What a finding says, wherever its element is. -/
def said (d : Draft) (x : Diagnostic) : Finding × Option Holder × String × String :=
  (x.finding, d.elementOf x, x.targetName, x.field)

/-- Whether what is found about duplicates is exact: for each name that occurs again in a scope one error for each of
its occurrences there, at the element itself, and no other. -/
structure ReportsDuplicates (d : Draft) (found : List Diagnostic) : Prop where
  again : ∀ s, d.model.HasScope s → ∀ name, 2 ≤ s.names.count name →
    found.filter (s.concerns d.keyOf name) = (s.occurrences.filter (·.name == name)).map (s.error d.keyOf) ∧
      (found.filter (s.concerns d.keyOf name)).length = s.names.count name
  once : ∀ s, d.model.HasScope s → ∀ name, s.names.count name < 2 → found.filter (s.concerns d.keyOf name) = []
  anchored : ∀ s, d.model.HasScope s → ∀ o ∈ s.occurrences,
    d.elementOf (s.error d.keyOf o) = some (.element o.place.origin)
  only : ∀ x ∈ found, x.isOnDuplicate = true → ∃ s, d.model.HasScope s ∧ ∃ o ∈ s.occurrences,
    2 ≤ s.names.count o.name ∧ s.error d.keyOf o = x

/-- The key of an element of the tree leads back to the element. -/
theorem IsSound.elementOf_error (sound : d.IsSound) {s : NameScope Handle Pointer} (there : d.model.HasScope s)
    {o : Occurrence Handle} (among : o ∈ s.occurrences) :
    d.elementOf (s.error d.keyOf o) = some (.element o.place.origin) := by
  obtain ⟨e, known, place⟩ := there.exists_element among
  obtain ⟨path, around, here⟩ := Model.mem_elements_iff.1 known
  have key : d.keyOf o.place = .inside path := place ▸ sound.key_eq here
  have leads : d.positions.originAt? path = some o.place.origin := place ▸ originAt?_positions here
  change d.holderAt? d.positions (d.keyOf o.place) = _
  rw [key]
  cases path with
  | nil => exact absurd rfl here.path_ne_nil
  | cons step rest => exact congrArg (Option.map Holder.element) leads

/-- The diagnostics of a sound draft report its duplicate names. -/
theorem IsSound.reportsDuplicates (sound : d.IsSound) (report : Bool) :
    d.ReportsDuplicates (d.view.diagnostics report) := by
  have exact {s : NameScope Handle Pointer} (there : d.model.HasScope s) (name : String) :=
    Linked.filter_diagnostics report sound.nodup_keys d.duplicateNames_view there name
  constructor
  · intro s there name again
    rw [exact there, if_pos again, List.length_map, NameScope.names, List.count_eq_countP, List.countP_map,
      List.countP_eq_length_filter]
    exact ⟨rfl, rfl⟩
  · intro s there name once
    rw [exact there, if_neg (by omega)]
  · intro s there o among
    exact sound.elementOf_error there among
  · intro x found duplicate
    exact Linked.exists_scope_of_isOnDuplicate d.duplicateNames_view found duplicate

/-! ## Another order -/

/-- What the errors about a name in a scope say, wherever their elements are. -/
theorem ReportsDuplicates.map_said {found : List Diagnostic} (reports : d.ReportsDuplicates found)
    {s : NameScope Handle Pointer} (there : d.model.HasScope s) (name : String) :
    (found.filter (s.concerns d.keyOf name)).map d.said =
      if 2 ≤ s.names.count name then
        ((s.occurrences.map Occurrence.unnumbered).filter (·.1 == name)).map fun (name, place, element) =>
          (s.finding name, some (.element place.origin), element, s.field)
      else [] := by
  split
  · next again =>
    rw [(reports.again s there name again).1, List.map_map, List.filter_map, List.map_map]
    refine List.map_congr_left fun o among => ?_
    have anchored := reports.anchored s there o (List.mem_filter.1 among).1
    rw [Function.comp_apply, said, anchored]
    rfl
  · next single => rw [reports.once s there name (by omega), List.map_nil]

/-- Another order of the items of a scope gives the same errors in another order. -/
theorem ReportsDuplicates.perm {d' : Draft} {found found' : List Diagnostic} (reports : d.ReportsDuplicates found)
    (reports' : d'.ReportsDuplicates found') {s s' : NameScope Handle Pointer} (there : d.model.HasScope s)
    (there' : d'.model.HasScope s') (permuted : s.IsPermuted s') (name : String) :
    ((found.filter (s.concerns d.keyOf name)).map d.said).Perm
      ((found'.filter (s'.concerns d'.keyOf name)).map d'.said) := by
  obtain ⟨finding, field, items⟩ := permuted.alike
  have names : s.names.Perm s'.names := by
    have both := items.map Prod.fst
    rw [List.map_map, List.map_map] at both
    exact both
  rw [reports.map_said there, reports'.map_said there', names.count_eq, finding, field]
  split
  · exact (items.filter _).map _
  · exact .nil

/-- The check of a draft in which everything is of its kind finds, for every scope of the tree and every name that
occurs there more than once, exactly one error for each occurrence, in the order of the occurrences: at the element
that has the name, or at the enumeration with the position of the literal.  For a name that occurs once there is none,
and there are no other errors about duplicates.  In another draft with the items of a scope in another order, the check
finds the same errors in this scope in another order. -/
theorem duplicates_are_exact {d : Draft} (sound : d.IsSound) (typed : d.IsTyped) (report : Bool) :
    ∃ found, (d.diagnostics report).1 = .ok found ∧ d.ReportsDuplicates found ∧
      (∀ (s : NameScope Handle Pointer) (o : Occurrence Handle), (s.error d.keyOf o).severity = .error ∧
        (s.error d.keyOf o).message = s!"Duplicate {s.label} name '{o.name}'.") ∧
      ∀ d' : Draft, d'.IsSound → d'.IsTyped → ∀ found', (d'.diagnostics report).1 = .ok found' →
        ∀ s s', d.model.HasScope s → d'.model.HasScope s' → s.IsPermuted s' → ∀ name,
          ((found.filter (s.concerns d.keyOf name)).map d.said).Perm
            ((found'.filter (s'.concerns d'.keyOf name)).map d'.said) := by
  refine ⟨_, typed.diagnostics_eq report, sound.reportsDuplicates report, fun s o => ⟨?_, ?_⟩, ?_⟩
  · exact s.severity_finding o.name
  · exact s.message_finding o.name
  · intro d' sound' typed' found' answered s s' there there' permuted name
    obtain rfl := typed'.eq_of_diagnostics answered
    exact (sound.reportsDuplicates report).perm (sound'.reportsDuplicates report) there there' permuted name

/-- An orchard with two types of one name, and an enumeration of its fruits. -/
def orchard (fruits : List String) : Declared :=
  ⟨[⟨(), "orchard", [],
    [⟨(), "Tree", .classBody ⟨false, [], [], [], []⟩⟩, ⟨(), "Fruit", .enumeration fruits⟩,
      ⟨(), "Tree", .interface ⟨[], [], []⟩⟩]⟩]⟩

/-- The check finds each of the trees, and the plum at its two positions, wherever these are. -/
theorem duplicates_are_exact_in_orchard :
    ∃ found found', ((ofDeclared (orchard ["PLUM", "PEAR", "PLUM"])).diagnostics true).1 = .ok found ∧
      ((ofDeclared (orchard ["PLUM", "PLUM", "PEAR"])).diagnostics true).1 = .ok found' ∧
      found.map (fun x => (x.message, x.targetName, x.index)) =
        [("Duplicate type name 'Tree'.", "Tree", none), ("Duplicate type name 'Tree'.", "Tree", none),
          ("Duplicate enumeration literal name 'PLUM'.", "Fruit", some 0),
          ("Duplicate enumeration literal name 'PLUM'.", "Fruit", some 2)] ∧
      ∃ s s', (ofDeclared (orchard ["PLUM", "PEAR", "PLUM"])).model.HasScope s ∧
        (ofDeclared (orchard ["PLUM", "PLUM", "PEAR"])).model.HasScope s' ∧
        (found.filter (s.concerns (ofDeclared (orchard ["PLUM", "PEAR", "PLUM"])).keyOf "PLUM")).length = 2 ∧
        ((found.filter (s.concerns (ofDeclared (orchard ["PLUM", "PEAR", "PLUM"])).keyOf "PLUM")).map
          (ofDeclared (orchard ["PLUM", "PEAR", "PLUM"])).said).Perm
          ((found'.filter (s'.concerns (ofDeclared (orchard ["PLUM", "PLUM", "PEAR"])).keyOf "PLUM")).map
            (ofDeclared (orchard ["PLUM", "PLUM", "PEAR"])).said) := by
  have sound (m : Declared) : (ofDeclared m).IsSound := (isCurrent_ofDeclared m).sound
  have typed := isTyped_ofDeclared
  obtain ⟨found, answered, reports, -, permuting⟩ :=
    duplicates_are_exact (sound (orchard ["PLUM", "PEAR", "PLUM"])) (typed _) true
  have answered' := (typed (orchard ["PLUM", "PLUM", "PEAR"])).diagnostics_eq true
  obtain rfl := (typed _).eq_of_diagnostics answered
  let s := (ofDeclared (orchard ["PLUM", "PEAR", "PLUM"])).model.scopes.get ⟨10, by decide +kernel⟩
  let s' := (ofDeclared (orchard ["PLUM", "PLUM", "PEAR"])).model.scopes.get ⟨10, by decide +kernel⟩
  have there := Model.mem_scopes.1 (List.get_mem _ _ : s ∈ _)
  have there' := Model.mem_scopes.1 (List.get_mem _ _ : s' ∈ _)
  have permuted : s.IsPermuted s' := .literals rfl rfl (by decide +kernel)
  refine ⟨_, _, answered, answered', by decide +kernel, s, s', there, there', ?_, ?_⟩
  · exact (reports.again s there "PLUM" (by decide +kernel)).2
  · exact permuting _ (sound _) (typed _) _ answered' s s' there there' permuted "PLUM"

end Draft

end ClassDiagram
