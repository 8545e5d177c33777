import ClassDiagram.Proofs.Model.Elements
import ClassDiagram.Proofs.Model.WellFormed

/-!
# Duplicate names

Names have to be distinct in scopes: among the packages of a model, the packages or types of a package, the
properties, operations or ends of a type, and the literals of an enumeration (`Model.HasScope`).  What the check finds
about duplicates is, scope after scope, an error for each occurrence of a name that occurs again
(`Validation.duplicateNames_eq`).  Scopes have no elements in common where elements have keys of their own, so the
errors about a name in one scope are those of its occurrences there (`Linked.filter_diagnostics`).
-/

set_option autoImplicit false

namespace ClassDiagram

variable {ι ρ : Type}

/-! ## Scopes -/

/-- Items whose names have to be distinct. -/
inductive NameScope (ι ρ : Type) where
  | packages (items : List (Package ι ρ))
  | types (items : List (Classifier ι ρ))
  | properties (items : List (Property ι ρ))
  | operations (items : List (Operation ι ρ))
  | ends (items : List (Property ι ρ))
  | literals (enumeration : Classifier ι ρ)

/-- An occurrence of a name: the place and the name of the element at which it is found and, where the element has
several such names, the position among them. -/
structure Occurrence (ι : Type) where
  name : String
  place : ι
  element : String
  index : Option Nat

/-- The occurrence of the name of an element. -/
def Occurrence.ofElement (e : Element ι ρ) : Occurrence ι := ⟨e.name, e.place, e.name, none⟩

namespace NameScope

/-- The word for an item of a scope. -/
def label : NameScope ι ρ → String
  | packages _ => "package"
  | types _ => "type"
  | properties _ => "property"
  | operations _ => "operation"
  | ends _ => "property"
  | literals _ => "enumeration literal"

/-- The field that holds the names of a scope. -/
def field : NameScope ι ρ → String
  | literals _ => "literals"
  | _ => "name"

/-- What is found where a name occurs again in a scope. -/
def finding (s : NameScope ι ρ) (name : String) : Finding :=
  match s with
  | literals _ => .duplicateLiteral name
  | s => .duplicateName s.label name

/-- The elements that are items of a scope. -/
def elements : NameScope ι ρ → List (Element ι ρ)
  | packages items => items.map .package
  | types items => items.map .classifier
  | properties items => items.map .property
  | operations items => items.map .operation
  | ends items => items.map .property
  | literals _ => []

/-- The names that occur in a scope, one after another. -/
def occurrences : NameScope ι ρ → List (Occurrence ι)
  | literals t => t.literals.zipIdx.map fun (literal, i) => ⟨literal, t.place, t.name, some i⟩
  | s => s.elements.map .ofElement

/-- The names of the items of a scope. -/
def names (s : NameScope ι ρ) : List String := s.occurrences.map (·.name)

/-- The error for an occurrence of a name, given the keys of elements. -/
def error (key : ι → Key) (s : NameScope ι ρ) (o : Occurrence ι) : Diagnostic :=
  ⟨s.finding o.name, key o.place, o.element, s.field, o.index⟩

/-- Whether a diagnostic is about a name that occurs again in a scope, and at an item of the scope. -/
def concerns (key : ι → Key) (s : NameScope ι ρ) (name : String) (x : Diagnostic) : Bool :=
  x.finding == s.finding name && s.occurrences.any fun o => x.target == key o.place

/-- The errors about names that occur again in a scope. -/
def errors (key : ι → Key) (s : NameScope ι ρ) : List Diagnostic :=
  (s.occurrences.filter fun o => Validation.isRepeated s.names o.name).map (s.error key)

end NameScope

/-- The scopes of a model. -/
inductive Model.HasScope (m : Model ι ρ) : NameScope ι ρ → Prop where
  | top : HasScope m (.packages m.packages)
  | packages {p : Package ι ρ} (held : m.HasPackage p) : HasScope m (.packages p.packages)
  | types {p : Package ι ρ} (held : m.HasPackage p) : HasScope m (.types p.types)
  | properties {t : Classifier ι ρ} (held : m.HasType t) : HasScope m (.properties t.properties)
  | operations {t : Classifier ι ρ} (held : m.HasType t) : HasScope m (.operations t.operations)
  | ends {t : Classifier ι ρ} (held : m.HasType t) : HasScope m (.ends t.ends)
  | literals {t : Classifier ι ρ} (held : m.HasType t) : HasScope m (.literals t)

/-- The scopes in a type. -/
def Classifier.scopes (t : Classifier ι ρ) : List (NameScope ι ρ) :=
  [.properties t.properties, .operations t.operations, .ends t.ends, .literals t]

/-- The scopes in a package, without those in its packages. -/
def Package.scopes (p : Package ι ρ) : List (NameScope ι ρ) :=
  .packages p.packages :: .types p.types :: p.types.flatMap Classifier.scopes

/-- The scopes in packages and in all packages in them. -/
def scopesIn (ps : List (Package ι ρ)) : List (NameScope ι ρ) :=
  .packages ps :: (allPackages ps).flatMap Package.scopes

/-- The scopes of a model in the order in which the check visits them. -/
def Model.scopes (m : Model ι ρ) : List (NameScope ι ρ) := scopesIn m.packages

/-- A scope is one of a model exactly if the model has it. -/
theorem Model.mem_scopes {m : Model ι ρ} {s : NameScope ι ρ} : s ∈ m.scopes ↔ m.HasScope s := by
  simp only [scopes, scopesIn, Package.scopes, Classifier.scopes, List.mem_cons, List.mem_flatMap, List.not_mem_nil,
    or_false]
  constructor
  · rintro (rfl | ⟨p, held, rfl | rfl | ⟨t, there, own⟩⟩)
    · exact .top
    · exact .packages (mem_allPackages.1 held)
    · exact .types (mem_allPackages.1 held)
    · have known : m.HasType t := ⟨p, mem_allPackages.1 held, there⟩
      rcases own with rfl | rfl | rfl | rfl
      · exact .properties known
      · exact .operations known
      · exact .ends known
      · exact .literals known
  · intro there
    cases there with
    | top => exact .inl rfl
    | packages held => exact .inr ⟨_, mem_allPackages.2 held, .inl rfl⟩
    | types held => exact .inr ⟨_, mem_allPackages.2 held, .inr (.inl rfl)⟩
    | properties held =>
      obtain ⟨p, outer, there⟩ := held
      exact .inr ⟨p, mem_allPackages.2 outer, .inr (.inr ⟨_, there, .inl rfl⟩)⟩
    | operations held =>
      obtain ⟨p, outer, there⟩ := held
      exact .inr ⟨p, mem_allPackages.2 outer, .inr (.inr ⟨_, there, .inr (.inl rfl)⟩)⟩
    | ends held =>
      obtain ⟨p, outer, there⟩ := held
      exact .inr ⟨p, mem_allPackages.2 outer, .inr (.inr ⟨_, there, .inr (.inr (.inl rfl))⟩)⟩
    | literals held =>
      obtain ⟨p, outer, there⟩ := held
      exact .inr ⟨p, mem_allPackages.2 outer, .inr (.inr ⟨_, there, .inr (.inr (.inr rfl))⟩)⟩

/-- Every occurrence of a name in a scope of a model is at an element of the model. -/
theorem Model.HasScope.exists_element {m : Model ι ρ} {s : NameScope ι ρ} (there : m.HasScope s) {o : Occurrence ι}
    (among : o ∈ s.occurrences) : ∃ e ∈ m.elements, e.place = o.place := by
  have package {p : Package ι ρ} (held : m.HasPackage p) : Element.package p ∈ m.elements := by
    induction held with
    | top there =>
      obtain ⟨path, here⟩ := At.of_mem_packages there
      exact here.mem_elements.1
    | nested _ there ih => exact mem_elements_of_mem_parts ih (by simp [there])
  have type {t : Classifier ι ρ} (held : m.HasType t) : Element.classifier t ∈ m.elements := by
    obtain ⟨p, outer, there⟩ := held
    exact mem_elements_of_mem_parts (package outer) (by simp [there])
  have item {s : NameScope ι ρ} (plain : s.occurrences = s.elements.map .ofElement) (among : o ∈ s.occurrences)
      (inside : ∀ e ∈ s.elements, e ∈ m.elements) : ∃ e ∈ m.elements, e.place = o.place := by
    rw [plain] at among
    obtain ⟨e, own, rfl⟩ := List.mem_map.1 among
    exact ⟨e, inside e own, rfl⟩
  have part {α : Type} {element : α → Element ι ρ} {items : List α} {outer : Element ι ρ} (known : outer ∈ m.elements)
      (parts : ∀ x ∈ items, element x ∈ outer.parts) : ∀ e ∈ items.map element, e ∈ m.elements :=
    List.forall_mem_map.2 fun x own => mem_elements_of_mem_parts known (parts x own)
  cases there with
  | top => exact item rfl among (List.forall_mem_map.2 fun p own => package (.top own))
  | packages held => exact item rfl among (part (package held) fun p own => by simp [own])
  | types held => exact item rfl among (part (package held) fun t own => by simp [own])
  | properties held => exact item rfl among (part (type held) fun p own => by simp [own])
  | operations held => exact item rfl among (part (type held) fun o own => by simp [own])
  | ends held => exact item rfl among (part (type held) fun p own => by simp [own])
  | literals held =>
    obtain ⟨_, _, rfl⟩ := List.mem_map.1 among
    exact ⟨_, type held, rfl⟩

/-! ## Another order of items -/

/-- An occurrence without its position. -/
def Occurrence.unnumbered (o : Occurrence ι) : String × ι × String := (o.name, o.place, o.element)

namespace NameScope

/-- Whether a scope has the items of another one in another order. -/
inductive IsPermuted : NameScope ι ρ → NameScope ι ρ → Prop where
  | packages {items items' : List (Package ι ρ)} (order : items.Perm items') :
    IsPermuted (.packages items) (.packages items')
  | types {items items' : List (Classifier ι ρ)} (order : items.Perm items') : IsPermuted (.types items) (.types items')
  | properties {items items' : List (Property ι ρ)} (order : items.Perm items') :
    IsPermuted (.properties items) (.properties items')
  | operations {items items' : List (Operation ι ρ)} (order : items.Perm items') :
    IsPermuted (.operations items) (.operations items')
  | ends {items items' : List (Property ι ρ)} (order : items.Perm items') : IsPermuted (.ends items) (.ends items')
  | literals {t t' : Classifier ι ρ} (place : t.place = t'.place) (name : t.name = t'.name)
    (order : t.literals.Perm t'.literals) : IsPermuted (.literals t) (.literals t')

/-- In another order, a scope has the same occurrences up to their positions, and the same is found for them. -/
theorem IsPermuted.alike {s s' : NameScope ι ρ} (permuted : s.IsPermuted s') :
    s.finding = s'.finding ∧ s.field = s'.field ∧
      (s.occurrences.map Occurrence.unnumbered).Perm (s'.occurrences.map Occurrence.unnumbered) := by
  cases permuted with
  | packages order => exact ⟨rfl, rfl, ((order.map _).map _).map _⟩
  | types order => exact ⟨rfl, rfl, ((order.map _).map _).map _⟩
  | properties order => exact ⟨rfl, rfl, ((order.map _).map _).map _⟩
  | operations order => exact ⟨rfl, rfl, ((order.map _).map _).map _⟩
  | ends order => exact ⟨rfl, rfl, ((order.map _).map _).map _⟩
  | @literals t t' place name order =>
    have plain (t : Classifier ι ρ) : (NameScope.literals t).occurrences.map Occurrence.unnumbered =
        t.literals.map fun literal => (literal, t.place, t.name) := by
      conv_rhs => rw [← List.zipIdx_map_fst 0 t.literals]
      rw [occurrences, List.map_map, List.map_map]
      rfl
    rw [plain, plain, place, name]
    exact ⟨rfl, rfl, order.map _⟩

end NameScope

/-! ## Errors, scope after scope -/

/-- What is made of items under a condition is made of those that meet it. -/
theorem filterMap_if {α β : Type} (p : α → Bool) (f : α → β) (items : List α) :
    (items.filterMap fun a => if p a then some (f a) else none) = (items.filter p).map f := by
  induction items with
  | nil => rfl
  | cons a rest ih => by_cases holds : p a = true <;> simp [holds, ih]

namespace Validation

/-- The check finds the errors of a scope whose items are elements by their names and keys. -/
theorem duplicates_eq (label : String) (items : List (String × Key)) (s : NameScope Place ρ)
    (own : s.elements.map (fun e => (e.name, e.place.key)) = items)
    (plain : s.occurrences = s.elements.map .ofElement)
    (word : ∀ name, s.finding name = .duplicateName label name) (field : s.field = "name") :
    duplicates label items = s.errors Place.key := by
  have names : (items.map Prod.fst) = s.names := by
    rw [← own, NameScope.names, plain, List.map_map, List.map_map]
    rfl
  have error : s.error Place.key ∘ Occurrence.ofElement =
      fun e : Element Place ρ => Diagnostic.atName (.duplicateName label e.name) e.place.key e.name := by
    funext e
    rw [Function.comp_apply, NameScope.error, word, field]
    rfl
  rw [duplicates, names, ← own, List.filterMap_map, NameScope.errors, plain, List.filter_map, List.map_map, error]
  exact filterMap_if _ _ s.elements

/-- The duplicate literals of a type are the errors of their scope. -/
theorem duplicateLiterals_eq (t : Classifier Place ρ) :
    duplicateLiterals t = (NameScope.literals t).errors Place.key := by
  have names : (NameScope.literals t).names = t.literals := by
    rw [NameScope.names, NameScope.occurrences, List.map_map]
    exact List.zipIdx_map_fst 0 t.literals
  rw [duplicateLiterals, NameScope.errors, names, NameScope.occurrences, List.filter_map, List.map_map]
  exact filterMap_if _ _ t.literals.zipIdx

/-- The duplicates in a type are the errors of its scopes. -/
theorem typeDuplicates_eq (t : Classifier Place ρ) :
    typeDuplicates t = t.scopes.flatMap (NameScope.errors Place.key) := by
  rw [typeDuplicates,
    duplicates_eq "property" (propertyNames t.properties) (.properties t.properties) List.map_map rfl (fun _ => rfl) rfl,
    duplicates_eq "operation" (operationNames t.operations) (.operations t.operations) List.map_map rfl (fun _ => rfl) rfl,
    duplicates_eq "property" (propertyNames t.ends) (.ends t.ends) List.map_map rfl (fun _ => rfl) rfl, duplicateLiterals_eq]
  simp [Classifier.scopes]

/-- The duplicates in a package are the errors of its scopes. -/
theorem packageDuplicates_eq (p : Package Place ρ) :
    packageDuplicates p = p.scopes.flatMap (NameScope.errors Place.key) := by
  rw [packageDuplicates,
    duplicates_eq "package" (packageNames p.packages) (.packages p.packages) List.map_map rfl (fun _ => rfl) rfl,
    duplicates_eq "type" (typeNames p.types) (.types p.types) List.map_map rfl (fun _ => rfl) rfl,
    List.flatMap_congr fun t _ => typeDuplicates_eq t, Package.scopes, List.flatMap_cons, List.flatMap_cons,
    List.flatMap_assoc, List.append_assoc]

/-- The check finds the errors of all scopes, one scope after another. -/
theorem duplicateNames_eq (m : Model Place ρ) :
    duplicateNames m = m.scopes.flatMap (NameScope.errors Place.key) := by
  rw [duplicateNames,
    duplicates_eq "package" (packageNames m.packages) (.packages m.packages) List.map_map rfl (fun _ => rfl) rfl,
    List.flatMap_congr fun p _ => packageDuplicates_eq p, Model.scopes, scopesIn, List.flatMap_cons,
    List.flatMap_assoc]
  rfl

end Validation

namespace NameScope

/-- A finding about a duplicate is an error. -/
theorem severity_finding (s : NameScope ι ρ) (name : String) : (s.finding name).severity = .error := by
  cases s <;> rfl

/-- A finding about a duplicate names the scope and the name. -/
theorem message_finding (s : NameScope ι ρ) (name : String) :
    (s.finding name).message = s!"Duplicate {s.label} name '{name}'." := by
  cases s with
  | literals t =>
    have words : "Duplicate " ++ "enumeration literal" ++ " name '" = "Duplicate enumeration literal name '" := rfl
    change "Duplicate enumeration literal name '" ++ name ++ "'." =
      "Duplicate " ++ "enumeration literal" ++ " name '" ++ name ++ "'."
    rw [words]
  | _ => rfl

end NameScope

/-- Whether a diagnostic is about a name that occurs again in a scope.  The names of members that associations add to
a class are compared where they are members, not in a scope of the model. -/
def Diagnostic.isOnDuplicate (x : Diagnostic) : Bool :=
  match x.finding with
  | .duplicateName _ _ => true
  | .duplicateLiteral _ => true
  | _ => false

/-- Whether a finding is about literals. -/
def Finding.isOnLiteral : Finding → Bool
  | duplicateLiteral _ => true
  | _ => false

namespace NameScope

variable {key : ι → Key} {s : NameScope ι ρ} {name : String} {x : Diagnostic}

/-- A diagnostic with the finding of a scope is about a duplicate. -/
theorem isOnDuplicate_of_finding (same : x.finding = s.finding name) : x.isOnDuplicate = true := by
  rw [Diagnostic.isOnDuplicate, same]
  cases s <;> rfl

/-- A diagnostic concerns a name in a scope exactly if it is its finding, at one of the occurrences. -/
theorem concerns_iff :
    s.concerns key name x = true ↔ x.finding = s.finding name ∧ ∃ o ∈ s.occurrences, x.target = key o.place := by
  simp [concerns]

/-- The errors of a scope are those for the occurrences of names that are repeated. -/
theorem mem_errors : x ∈ s.errors key ↔
    ∃ o ∈ s.occurrences, Validation.isRepeated s.names o.name = true ∧ s.error key o = x := by
  simp only [errors, List.mem_map, List.mem_filter, and_assoc]

/-- The errors of a scope are about duplicates. -/
theorem isOnDuplicate_of_mem_errors (found : x ∈ s.errors key) : x.isOnDuplicate = true := by
  obtain ⟨o, _, _, rfl⟩ := mem_errors.1 found
  have same : (s.error key o).finding = s.finding o.name := rfl
  exact isOnDuplicate_of_finding same

/-- A finding of a scope tells the name. -/
theorem finding_inj {name' : String} (same : s.finding name = s.finding name') : name = name' := by
  cases s <;> simpa [finding] using same

/-- Of the errors of a scope, those that concern a name there are those of its occurrences. -/
theorem filter_errors (key : ι → Key) (s : NameScope ι ρ) (name : String) :
    (s.errors key).filter (s.concerns key name) =
      if 2 ≤ s.names.count name then (s.occurrences.filter (·.name == name)).map (s.error key) else [] := by
  have own : ∀ o ∈ s.occurrences, (s.concerns key name ∘ s.error key) o = (o.name == name) := by
    intro o there
    rw [Function.comp_apply, Bool.eq_iff_iff, concerns_iff, beq_iff_eq]
    constructor
    · rintro ⟨same, -⟩
      exact finding_inj same
    · rintro rfl
      exact ⟨rfl, o, there, rfl⟩
  have counted : (s.errors key).filter (s.concerns key name) =
      (s.occurrences.filter fun o => (o.name == name) && Validation.isRepeated s.names name).map (s.error key) := by
    rw [errors, List.filter_map, List.filter_filter]
    congr 1
    refine List.filter_congr fun o there => ?_
    rw [own o there]
    by_cases same : o.name = name
    · rw [same]
    · rw [beq_eq_false_iff_ne.2 same, Bool.false_and, Bool.false_and]
  rw [counted]
  split
  · next again =>
    have repeated : Validation.isRepeated s.names name = true := by
      rw [Validation.isRepeated]
      exact decide_eq_true again
    simp [repeated]
  · next once =>
    have single : Validation.isRepeated s.names name = false := by
      rw [Validation.isRepeated]
      exact decide_eq_false once
    simp [single]

/-! ## Scopes are apart -/

/-- Where errors about a scope are: at the keys of its elements or, apart from these, at the key of its
enumeration. -/
def anchors (key : ι → Key) : NameScope ι ρ → List (Bool × Key)
  | literals t => [(true, key t.place)]
  | s => s.elements.map fun e => (false, key e.place)

/-- Every occurrence in a scope has an anchor. -/
theorem exists_anchor_of_mem (key : ι → Key) {o : Occurrence ι} (there : o ∈ s.occurrences) :
    ((s.finding o.name).isOnLiteral, key o.place) ∈ s.anchors key := by
  cases s with
  | literals t =>
    obtain ⟨_, _, rfl⟩ := List.mem_map.1 there
    exact List.mem_singleton.2 rfl
  | _ =>
    obtain ⟨e, among, rfl⟩ := List.mem_map.1 there
    exact List.mem_map.2 ⟨e, among, rfl⟩

end NameScope

section

variable (key : ι → Key) (a : Bool × Key)

/-- Pairs with one flag are counted by their keys. -/
theorem count_map_pair {α : Type} (b : Bool) (f : α → Key) (items : List α) :
    (items.map fun x => (b, f x)).count a = if a.1 = b then (items.map f).count a.2 else 0 := by
  obtain ⟨c, k⟩ := a
  induction items with
  | nil => simp
  | cons x rest ih =>
    rw [List.map_cons, List.count_cons, ih, List.map_cons, List.count_cons]
    by_cases same : c = b
    · simp [same]
    · simp [same, Ne.symm (a := c) same]

/-- The anchors of a scope of elements are counted by the keys of these. -/
theorem count_anchors_eq (s : NameScope ι ρ) (plain : s.anchors key = s.elements.map fun e => (false, key e.place)) :
    (s.anchors key).count a = if a.1 = false then (s.elements.map (key ·.place)).count a.2 else 0 := by
  rw [plain, count_map_pair]

/-- The anchors of the scopes in a type, and the type, are no more than the elements of the type. -/
theorem count_anchors_type (t : Classifier ι ρ) :
    (t.scopes.flatMap (NameScope.anchors key)).count a + (if a.1 = false then [key t.place].count a.2 else 0) ≤
      (t.elements.map (key ·.place)).count a.2 := by
  obtain ⟨b, k⟩ := a
  have literals : ((NameScope.literals t).anchors key).count (b, k) = if b = true then [key t.place].count k else 0 :=
    count_map_pair (b, k) true (fun t : Classifier ι ρ => key t.place) [t]
  have operations : ((t.operations.map Element.operation).map (key ·.place)).count k ≤
      ((t.operations.flatMap Operation.elements).map (key ·.place)).count k := by
    refine (List.Sublist.map _ ?_).count_le k
    induction t.operations with
    | nil => exact .slnil
    | cons o rest ih => exact .cons_cons _ (ih.trans (List.sublist_append_right _ _))
  have elements : (t.elements.map (key ·.place)).count k = [key t.place].count k +
      (((t.properties.map Element.property).map (key ·.place)).count k +
        ((t.operations.flatMap Operation.elements).map (key ·.place)).count k +
        ((t.ends.map Element.property).map (key ·.place)).count k) := by
    rw [← List.count_append, ← List.count_append, ← List.count_append, ← List.map_append, ← List.map_append]
    rfl
  simp only [Classifier.scopes, List.flatMap_cons, List.flatMap_nil, List.append_nil, List.count_append, literals,
    count_anchors_eq key _ (.properties _) rfl, count_anchors_eq key _ (.operations _) rfl,
    count_anchors_eq key _ (.ends _) rfl, NameScope.elements, elements]
  cases b with
  | false =>
    simp only [if_true, Bool.false_eq_true, if_false]
    omega
  | true =>
    simp only [if_true, Bool.true_eq_false, if_false]
    omega

/-- The anchors of types and their scopes are no more than the elements of the types. -/
theorem count_anchors_types (ts : List (Classifier ι ρ)) :
    ((NameScope.types ts).anchors key).count a +
        ((ts.flatMap Classifier.scopes).flatMap (NameScope.anchors key)).count a ≤
      ((ts.flatMap Classifier.elements).map (key ·.place)).count a.2 := by
  rw [count_anchors_eq key a _ rfl]
  induction ts with
  | nil => simp [NameScope.elements]
  | cons t rest ih =>
    have first := count_anchors_type key a t
    have items : (((NameScope.types (t :: rest)).elements).map (key ·.place)).count a.2 =
        [key t.place].count a.2 + (((NameScope.types rest).elements).map (key ·.place)).count a.2 := by
      rw [← List.count_append]
      rfl
    rw [List.flatMap_cons, List.flatMap_append, List.count_append, List.flatMap_cons, List.map_append,
      List.count_append, items]
    split at first
    · next named =>
      rw [if_pos named] at ih ⊢
      omega
    · next other =>
      rw [if_neg other] at ih ⊢
      omega

/-- The anchors of all scopes in packages are no more than the elements of the packages. -/
theorem count_anchors_le : (ps : List (Package ι ρ)) →
    ((scopesIn ps).flatMap (NameScope.anchors key)).count a ≤ ((allElements ps).map (key ·.place)).count a.2
  | [] => by simp [scopesIn, allPackages, NameScope.anchors, NameScope.elements]
  | ⟨place, name, packages, types⟩ :: rest => by
    have inside := count_anchors_le packages
    have after := count_anchors_le rest
    have within := count_anchors_types key a types
    have items (p : Package ι ρ) : ((NameScope.packages (p :: rest)).anchors key).count a =
        (if a.1 = false then [key p.place].count a.2 else 0) + ((NameScope.packages rest).anchors key).count a := by
      have single : [(false, key p.place)].count a = if a.1 = false then [key p.place].count a.2 else 0 :=
        count_map_pair a false (fun p : Package ι ρ => key p.place) [p]
      rw [← single, ← List.count_append]
      rfl
    have elements : ((allElements (⟨place, name, packages, types⟩ :: rest)).map (key ·.place)).count a.2 =
        [key place].count a.2 + (((allElements packages).map (key ·.place)).count a.2 +
          ((types.flatMap Classifier.elements).map (key ·.place)).count a.2) +
          ((allElements rest).map (key ·.place)).count a.2 := by
      rw [← List.count_append, ← List.count_append, ← List.count_append, ← List.map_append]
      rw [allElements, List.map_append, Package.elements]
      rfl
    have one : (if a.1 = false then [key place].count a.2 else 0) ≤ [key place].count a.2 := by
      split <;> omega
    simp only [scopesIn, List.flatMap_cons, List.count_append] at inside after ⊢
    rw [elements, items, allPackages, Package.all]
    simp only [Package.scopes, List.cons_append, List.flatMap_cons, List.flatMap_append, List.count_append]
    omega

/-- No two scopes of a model whose elements have different keys have an anchor in common. -/
theorem Model.scopes_apart {m : Model ι ρ} (keys : (m.elements.map (key ·.place)).Nodup) :
    m.scopes.Pairwise fun s s' => (s.anchors key).Disjoint (s'.anchors key) := by
  have once : (m.scopes.flatMap (NameScope.anchors key)).Nodup :=
    List.nodup_iff_count_le_one.2 fun a =>
      Nat.le_trans (count_anchors_le key a m.packages) (List.nodup_iff_count_le_one.1 keys a.2)
  exact (List.nodup_flatMap.1 once).2

end

/-! ## The errors about a name -/

/-- Where one item alone gives something and others are told apart by order, this is all that is given. -/
theorem flatMap_eq_of_pairwise {α β : Type} {R : α → α → Prop} {f : α → List β} {l : List α} {x : α}
    (apart : l.Pairwise R) (among : x ∈ l) (before : ∀ y, R y x → f y = []) (after : ∀ y, R x y → f y = []) :
    l.flatMap f = f x := by
  obtain ⟨early, late, rfl⟩ := List.append_of_mem among
  obtain ⟨-, rest, crossing⟩ := List.pairwise_append.1 apart
  have first : early.flatMap f = [] := List.flatMap_eq_nil_iff.2 fun y there =>
    before y (crossing y there x List.mem_cons_self)
  have last : late.flatMap f = [] := List.flatMap_eq_nil_iff.2 fun y there =>
    after y ((List.pairwise_cons.1 rest).1 y there)
  rw [List.flatMap_append, List.flatMap_cons, first, last, List.nil_append, List.append_nil]

/-- What concerns a name in a scope is no error of a scope without an anchor in common. -/
theorem NameScope.filter_errors_of_disjoint {key : ι → Key} {s s' : NameScope ι ρ} (name : String)
    (apart : (s.anchors key).Disjoint (s'.anchors key)) : (s'.errors key).filter (s.concerns key name) = [] := by
  refine List.filter_eq_nil_iff.2 fun x found concerned => ?_
  obtain ⟨o', there', -, rfl⟩ := mem_errors.1 found
  obtain ⟨same, o, there, here⟩ := concerns_iff.1 concerned
  have literal (s : NameScope ι ρ) (name name' : String) :
      (s.finding name).isOnLiteral = (s.finding name').isOnLiteral := by
    cases s <;> rfl
  have own := exists_anchor_of_mem key there
  have own' := exists_anchor_of_mem key there'
  rw [literal s o.name name, ← same, ← here] at own
  exact apart own own'

/-- Where elements have different keys, the errors of all scopes that concern a name in one scope are those of the
occurrences of the name there, if it occurs again. -/
theorem Model.filter_scopes {m : Model ι ρ} {key : ι → Key} (keys : (m.elements.map (key ·.place)).Nodup)
    {s : NameScope ι ρ} (there : m.HasScope s) (name : String) :
    (m.scopes.flatMap (NameScope.errors key)).filter (s.concerns key name) =
      if 2 ≤ s.names.count name then (s.occurrences.filter (·.name == name)).map (s.error key) else [] := by
  rw [List.filter_flatMap, flatMap_eq_of_pairwise (m.scopes_apart key keys) (mem_scopes.2 there)]
  · exact s.filter_errors key name
  · intro s' apart
    exact NameScope.filter_errors_of_disjoint name (List.disjoint_symm apart)
  · intro s' apart
    exact NameScope.filter_errors_of_disjoint name apart

namespace Validation

variable {m : Linked} {x : Diagnostic}

/-- Findings about conventions for names are not about duplicates. -/
theorem isOnDuplicate_naming {m : Model Place ρ} (found : x ∈ naming m) : x.isOnDuplicate = false := by
  simp only [naming, typeNaming, featureNaming, List.mem_append, List.mem_flatMap, List.mem_filterMap] at found
  grind [Diagnostic.isOnDuplicate, Diagnostic.atName]

/-- Findings about cycles are not about duplicates. -/
theorem isOnDuplicate_inheritanceCycles (found : x ∈ inheritanceCycles m) : x.isOnDuplicate = false := by
  simp only [inheritanceCycles, cyclesOf, List.mem_append, List.mem_map] at found
  grind [Diagnostic.isOnDuplicate]

/-- Findings about the ends of associations are not about duplicates. -/
theorem isOnDuplicate_associationArity (found : x ∈ associationArity m) : x.isOnDuplicate = false := by
  simp only [associationArity, List.mem_filterMap] at found
  grind [Diagnostic.isOnDuplicate]

/-- Findings about abstract operations are not about duplicates. -/
theorem isOnDuplicate_abstractOperations (found : x ∈ abstractOperations m) : x.isOnDuplicate = false := by
  simp only [abstractOperations, List.mem_filterMap] at found
  grind [Diagnostic.isOnDuplicate, Diagnostic.atName]

/-- Findings about members of associations are not about duplicates. -/
theorem isOnDuplicate_associationMembers (found : x ∈ associationMembers m) : x.isOnDuplicate = false := by
  simp only [associationMembers, memberClashes, List.mem_flatMap, List.mem_filterMap] at found
  grind [Diagnostic.isOnDuplicate, Diagnostic.atName]

/-- Findings about references are not about duplicates. -/
theorem isOnDuplicate_unresolvedReferences (found : x ∈ unresolvedReferences m) : x.isOnDuplicate = false := by
  simp only [unresolvedReferences, elementReferences, List.mem_flatMap, List.mem_filterMap] at found
  grind [Diagnostic.isOnDuplicate]

/-- Findings about duplicate names are about duplicates. -/
theorem isOnDuplicate_duplicateNames {m : Model Place ρ} (found : x ∈ duplicateNames m) : x.isOnDuplicate = true := by
  rw [duplicateNames_eq, List.mem_flatMap] at found
  obtain ⟨s, _, own⟩ := found
  exact NameScope.isOnDuplicate_of_mem_errors own

/-- Nothing but the comparison of names in scopes finds errors about duplicates. -/
theorem filter_isOnDuplicate (m : Linked) (report : Bool) :
    (m.diagnostics report).filter (·.isOnDuplicate) = duplicateNames m.model := by
  have none {found : List Diagnostic} (others : ∀ x ∈ found, x.isOnDuplicate = false) :
      found.filter (·.isOnDuplicate) = [] :=
    List.filter_eq_nil_iff.2 fun x there => by simp [others x there]
  have own : (duplicateNames m.model).filter (·.isOnDuplicate) = duplicateNames m.model :=
    List.filter_eq_self.2 fun x => isOnDuplicate_duplicateNames
  have references : (if report then unresolvedReferences m else []).filter (·.isOnDuplicate) = [] := by
    cases report with
    | false => rfl
    | true => exact none fun x => isOnDuplicate_unresolvedReferences
  rw [Linked.diagnostics, structureFindings]
  simp only [List.filter_append, own, references, none fun x => isOnDuplicate_naming (x := x) (m := m.model),
    none fun x => isOnDuplicate_inheritanceCycles (x := x) (m := m),
    none fun x => isOnDuplicate_associationArity (x := x) (m := m),
    none fun x => isOnDuplicate_abstractOperations (x := x) (m := m),
    none fun x => isOnDuplicate_associationMembers (x := x) (m := m), List.nil_append, List.append_nil]

end Validation

namespace Linked

variable {m : Linked}

/-- The findings that concern a name in a scope are the errors for its occurrences there, if it occurs again. -/
theorem filter_diagnostics (report : Bool) {m₀ : Model ι ρ} {key : ι → Key} (keys : (m₀.elements.map (key ·.place)).Nodup)
    (own : Validation.duplicateNames m.model = m₀.scopes.flatMap (NameScope.errors key)) {s : NameScope ι ρ}
    (there : m₀.HasScope s) (name : String) :
    (m.diagnostics report).filter (s.concerns key name) =
      if 2 ≤ s.names.count name then (s.occurrences.filter (·.name == name)).map (s.error key) else [] := by
  have duplicate : ∀ x ∈ m.diagnostics report, s.concerns key name x =
      (s.concerns key name x && x.isOnDuplicate) := by
    intro x _
    by_cases concerned : s.concerns key name x = true
    · rw [NameScope.isOnDuplicate_of_finding (NameScope.concerns_iff.1 concerned).1, Bool.and_true]
    · rw [Bool.not_eq_true] at concerned
      rw [concerned, Bool.false_and]
  rw [List.filter_congr duplicate, ← List.filter_filter, Validation.filter_isOnDuplicate, own]
  exact Model.filter_scopes keys there name

/-- Each error about a duplicate is that for an occurrence, in some scope, of a name that occurs again there. -/
theorem exists_scope_of_isOnDuplicate {m₀ : Model ι ρ} {key : ι → Key}
    (own : Validation.duplicateNames m.model = m₀.scopes.flatMap (NameScope.errors key)) {x : Diagnostic}
    {report : Bool} (found : x ∈ m.diagnostics report) (duplicate : x.isOnDuplicate = true) :
    ∃ s, m₀.HasScope s ∧ ∃ o ∈ s.occurrences, 2 ≤ s.names.count o.name ∧ s.error key o = x := by
  have among : x ∈ Validation.duplicateNames m.model := by
    rw [← Validation.filter_isOnDuplicate m report]
    exact List.mem_filter.2 ⟨found, duplicate⟩
  rw [own, List.mem_flatMap] at among
  obtain ⟨s, there, among⟩ := among
  obtain ⟨o, within, again, same⟩ := NameScope.mem_errors.1 among
  exact ⟨s, Model.mem_scopes.1 there, o, within, of_decide_eq_true again, same⟩

end Linked

end ClassDiagram
