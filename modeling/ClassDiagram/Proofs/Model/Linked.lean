import ClassDiagram.Association
import ClassDiagram.Proofs.Model.Names

/-!
# Linked models

What holds of the linked form of every model, whatever is declared in it: its types are known apart by
their keys, its references lead to its types, and the ends of its associations know their association and
are known apart by their keys.
-/

set_option autoImplicit false

namespace ClassDiagram

/-- Whether the types and the ends of a linked model are known apart, and references and ends fit them. -/
structure Linked.IsCoherent (m : Linked) : Prop where
  keys : (m.everyType.map (·.key)).Nodup
  targets : ∀ a ∈ m.associations, ∀ e ∈ a.ends, ∀ t, e.endType = some t →
    ∃ type ∈ m.everyType, type.target = t
  holders : ∀ a ∈ m.associations, ∀ e ∈ a.ends, e.place.holder = some a.key
  endKeys : ∀ a ∈ m.associations, (a.ends.map (·.place.key)).Nodup

/-- Whether the types and the ends of a linked model are known apart, and ends fit their associations and the classes
that they lead to.  What leads to the key of a type leads to the type; what is no type may be anything. -/
structure Linked.IsRooted (m : Linked) : Prop where
  keys : (m.everyType.map (·.key)).Nodup
  classes : ∀ a ∈ m.associations, ∀ e ∈ a.ends, ∀ t, e.endType = some t → t.kind = .classKind →
    ∃ type ∈ m.everyType, type.target = t
  told : ∀ a ∈ m.associations, ∀ e ∈ a.ends, ∀ t, e.endType = some t →
    ∀ type ∈ m.everyType, t.key = type.key → t = type.target
  holders : ∀ a ∈ m.associations, ∀ e ∈ a.ends, e.place.holder = some a.key
  endKeys : ∀ a ∈ m.associations, (a.ends.map (·.place.key)).Nodup

/-- A coherent model is rooted: its references lead to its types, which are known by their keys. -/
theorem Linked.IsCoherent.isRooted {m : Linked} (coherent : m.IsCoherent) : m.IsRooted where
  keys := coherent.keys
  classes := fun a among e there t found _ => coherent.targets a among e there t found
  told := by
    intro a among e there t found type known same
    obtain ⟨type', known', rfl⟩ := coherent.targets a among e there t found
    rw [List.inj_on_of_nodup_map coherent.keys known' known same]
  holders := coherent.holders
  endKeys := coherent.endKeys

namespace Linking

variable {P : Target → Prop}

/-- A type keeps its place, name and kind while its references are linked. -/
theorem target_map (g : Place → RefField → Nat → String → Link) (t : Classifier Place String) :
    (t.map id g).target = t.target := by
  obtain ⟨_, _, body⟩ := t
  cases body <;> rfl

/-- The ends of a declared type move with its places. -/
theorem ends_map (g : Place → RefField → Nat → String → Link) (t : Classifier Place String) :
    (t.map id g).ends = t.ends.map (·.map id g) := by
  obtain ⟨_, _, body⟩ := t
  cases body <;> rfl

/-- Linking keeps the types of packages, as far as references can lead to them. -/
theorem targets_linkPackages (d : Directory Target) (outer : List (Scope Target)) :
    (ps : List (Package Place String)) →
      (typesIn (linkPackages d outer ps)).map Classifier.target = (typesIn ps).map Classifier.target
  | [] => rfl
  | ⟨place, name, packages, types⟩ :: rest => by
    rw [linkPackages, linkPackage, typesIn_cons, typesIn_cons, List.map_append, List.map_append,
      targets_linkPackages d _ packages, targets_linkPackages d outer rest, List.map_append,
      List.map_append, List.map_map]
    congr 1
    exact List.map_congr_left fun t _ => target_map _ t

/-- A linked type is a type of the model with its names looked up in the packages around it. -/
theorem mem_linkPackages (d : Directory Target) (outer : List (Scope Target))
    (around : ∀ scope ∈ outer, Scope.All P scope) :
    (ps : List (Package Place String)) → (∀ t ∈ typesIn ps, P t.target) →
      ∀ t ∈ typesIn (linkPackages d outer ps), ∃ t' ∈ typesIn ps, ∃ scopes,
        (∀ scope ∈ scopes, Scope.All P scope) ∧ t = t'.map id fun _ field _ => linkIn d scopes field
  | [], _ => by simp [linkPackages]
  | ⟨place, name, packages, types⟩ :: rest, all => by
    simp only [typesIn_cons, List.mem_append, or_imp, forall_and] at all
    have inside : ∀ scope ∈ scopeOf types :: outer, Scope.All P scope := by
      refine List.forall_mem_cons.2 ⟨fun pair there => ?_, around⟩
      obtain ⟨t, among, rfl⟩ := List.mem_map.1 there
      exact all.1 t among
    intro t there
    rw [linkPackages, linkPackage, typesIn_cons] at there
    simp only [typesIn_cons, List.mem_append]
    rcases List.mem_append.1 there with among | there
    · obtain ⟨t', among', rfl⟩ := List.mem_map.1 among
      exact ⟨t', .inl among', _, inside, rfl⟩
    · rcases List.mem_append.1 there with below | after
      · obtain ⟨t', below', found⟩ := mem_linkPackages d _ inside packages all.2.1 t below
        exact ⟨t', .inr (.inl below'), found⟩
      · obtain ⟨t', after', found⟩ := mem_linkPackages d outer around rest all.2.2 t after
        exact ⟨t', .inr (.inr after'), found⟩

end Linking

/-- The linked form of a model has the types of the model in their places. -/
theorem Declared.everyType_link (m : Declared) :
    m.link.everyType.map Classifier.target = (Linking.settle m).types.map Classifier.target := by
  rw [Linked.everyType, List.map_append]
  exact (List.append_nil _).trans (Linking.targets_linkPackages _ [] _)

/-- A type of a linked model was linked in its place, with names that lead to types of the model. -/
theorem Declared.mem_link {m : Declared} {t : LinkedType} (there : t ∈ m.link.model.types) :
    ∃ t' ∈ (Linking.settle m).types, ∃ resolve : RefField → String → Link,
      (∀ field name target, (resolve field name).target = some target →
        ∃ type ∈ m.link.everyType, type.target = target) ∧
      t = t'.map id fun _ field _ => resolve field := by
  let P (target : Target) : Prop := ∃ type ∈ m.link.everyType, type.target = target
  have known : ∀ t ∈ typesIn (Linking.settle m).packages, P t.target := by
    intro t there
    have among : t.target ∈ m.link.everyType.map Classifier.target := by
      rw [Declared.everyType_link]
      exact List.mem_map_of_mem there
    exact List.mem_map.1 among
  obtain ⟨t', there', scopes, around, rfl⟩ :=
    Linking.mem_linkPackages (P := P) _ [] (by simp) (Linking.settle m).packages known t there
  refine ⟨t', there', _, fun field name target found => ?_, rfl⟩
  refine Directory.of_find? (P := P) ?_ ?_ around found
  · exact (NameTree.all_empty _).addPackages _ known
  · intro pair among
    obtain ⟨t, there, rfl⟩ := List.mem_map.1 among
    exact known t there

/-- The linked form of every model is coherent. -/
theorem Declared.link_isCoherent (m : Declared) : m.link.IsCoherent := by
  have settled {a : LinkedType} (there : a ∈ m.link.associations) := mem_link (List.mem_filter.1 there).1
  refine ⟨?_, ?_, ?_, ?_⟩
  · have keys := congrArg (List.map Target.key) m.everyType_link
    rw [List.map_map, List.map_map] at keys
    change m.link.everyType.map (·.key) = _ at keys
    rw [keys]
    exact Linking.nodup_keys_settle m
  · intro a there e among t found
    obtain ⟨a', there', resolve, leads, rfl⟩ := settled there
    rw [Linking.ends_map] at among
    obtain ⟨e', _, rfl⟩ := List.mem_map.1 among
    obtain ⟨link, linked, found⟩ := Option.bind_eq_some_iff.1 found
    obtain ⟨name, _, rfl⟩ := Option.map_eq_some_iff.1 linked
    exact leads _ _ t found
  · intro a there e among
    obtain ⟨a', there', resolve, _, rfl⟩ := settled there
    rw [Linking.ends_map] at among
    obtain ⟨e', among', rfl⟩ := List.mem_map.1 among
    exact Linking.holder_settle there' among'
  · intro a there
    obtain ⟨a', there', resolve, _, rfl⟩ := settled there
    rw [Linking.ends_map, List.map_map]
    exact Linking.nodup_ends_settle there'

end ClassDiagram
