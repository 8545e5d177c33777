import ClassDiagram.Proofs.Model.Routes
import ClassDiagram.TypeName
import Mathlib.Data.List.Nodup

/-!
# Qualified names of types

A qualified name that is joined of names without separators has these names as its segments
(`nameSegments_joined`).  Where packages side by side have different names, and types side by side too, no two
types have the same route and name (`nodup_routes`).
-/

set_option autoImplicit false

namespace ClassDiagram

variable {ι ρ : Type}

/-! ## Segments -/

/-- Whether a name can be a segment: it is not empty and holds no character of a separator. -/
structure IsSegment (name : String) : Prop where
  nonempty : name ≠ ""
  apart : ∀ c ∈ name.toList, c ≠ '.' ∧ c ≠ '/' ∧ c ≠ ':'

/-- A name is a segment exactly if it is not empty and has no separators in it. -/
theorem isSegment_iff (name : String) :
    IsSegment name ↔ name ≠ "" ∧ name.toList.all (fun c => c ≠ '.' ∧ c ≠ '/' ∧ c ≠ ':') = true := by
  simp only [List.all_eq_true, decide_eq_true_eq]
  exact ⟨fun ⟨nonempty, apart⟩ => ⟨nonempty, apart⟩, fun ⟨nonempty, apart⟩ => ⟨nonempty, apart⟩⟩

instance (name : String) : Decidable (IsSegment name) := decidable_of_iff' _ (isSegment_iff name)

/-- What stands between the segments of a qualified name. -/
def separators : List String := [".", "/", "::"]

/-- Characters that are no separators go to the segment that is read. -/
theorem segmentsFrom_append {cs : List Char} (apart : ∀ c ∈ cs, c ≠ '.' ∧ c ≠ '/' ∧ c ≠ ':')
    (segment rest : List Char) :
    segmentsFrom segment (cs ++ rest) = segmentsFrom (cs.reverse ++ segment) rest := by
  induction cs generalizing segment with
  | nil => rfl
  | cons c cs ih =>
    rw [List.forall_mem_cons] at apart
    obtain ⟨⟨dot, slash, colon⟩, others⟩ := apart
    rw [List.cons_append, segmentsFrom, if_neg (by simp [dot, slash]), ih others, List.reverse_cons,
      List.append_assoc, List.singleton_append]
    exact fun _ same => absurd same colon

/-- A separator ends the segment that is read. -/
theorem segmentsFrom_separator {separator : String} (known : separator ∈ separators)
    (segment rest : List Char) :
    segmentsFrom segment (separator.toList ++ rest) = segment.reverse :: segmentsFrom [] rest := by
  simp only [separators, List.mem_cons, List.not_mem_nil, or_false] at known
  rcases known with rfl | rfl | rfl
  · change segmentsFrom segment ('.' :: rest) = _
    rw [segmentsFrom, if_pos (by decide)]
    exact fun _ same => absurd same (by decide)
  · change segmentsFrom segment ('/' :: rest) = _
    rw [segmentsFrom, if_pos (by decide)]
    exact fun _ same => absurd same (by decide)
  · rfl

/-- Segments that are joined are read as the segments. -/
theorem segmentsFrom_joined {separator : String} (known : separator ∈ separators) {names : List String}
    (some : names ≠ []) (segments : ∀ name ∈ names, IsSegment name) :
    segmentsFrom [] (separator.intercalate names).toList = names.map String.toList := by
  rw [String.toList_intercalate]
  induction names with
  | nil => exact absurd rfl some
  | cons name rest ih =>
    rw [List.forall_mem_cons] at segments
    cases rest with
    | nil =>
      have single := segmentsFrom_append segments.1.apart [] []
      rw [List.append_nil, List.append_nil, segmentsFrom, List.reverse_reverse] at single
      rw [List.map_singleton, List.intercalate_singleton]
      exact single
    | cons next rest =>
      rw [List.map_cons, List.intercalate_cons_of_ne_nil (by simp), List.append_assoc,
        segmentsFrom_append segments.1.apart, segmentsFrom_separator known, ih (by simp) segments.2,
        List.append_nil, List.reverse_reverse]

/-- The segments of a name that is joined of segments are these. -/
theorem nameSegments_joined {separator : String} (known : separator ∈ separators) {names : List String}
    (some : names ≠ []) (segments : ∀ name ∈ names, IsSegment name) :
    nameSegments (joinedNames separator names) = names := by
  have nonempty : ∀ cs ∈ names.map String.toList, (!cs.isEmpty) = true := by
    rw [List.forall_mem_map]
    intro name there
    simp [(segments name there).nonempty]
  rw [nameSegments, joinedNames, segmentsFrom_joined known some segments, List.filter_eq_self.2 nonempty,
    List.map_map]
  exact (List.map_congr_left fun name _ => String.ofList_toList).trans (List.map_id names)

/-! ## Routes -/

/-- Whether packages side by side have different names, and types side by side too. -/
structure AreDistinct (ps : List (Package ι ρ)) : Prop where
  here : (ps.map (·.name)).Nodup
  inside : ∀ p ∈ allPackages ps, (p.packages.map (·.name)).Nodup ∧ (p.types.map (·.name)).Nodup

/-- The route of a type with the name of the type at its end. -/
def fullRoute (routed : List String × Classifier ι ρ) : List String := routed.1 ++ [routed.2.name]

/-- Names of packages that are distinct are so inside the first and among the others. -/
theorem AreDistinct.cons {place : ι} {name : String} {packages rest : List (Package ι ρ)}
    {types : List (Classifier ι ρ)} (distinct : AreDistinct (⟨place, name, packages, types⟩ :: rest)) :
    AreDistinct packages ∧ (types.map (·.name)).Nodup ∧ AreDistinct rest ∧ ∀ p ∈ rest, p.name ≠ name := by
  obtain ⟨here, inside⟩ := distinct
  rw [List.map_cons, List.nodup_cons] at here
  rw [allPackages, Package.all, List.forall_mem_append, List.forall_mem_cons] at inside
  refine ⟨⟨inside.1.1.1, inside.1.2⟩, inside.1.1.2, ⟨here.2, inside.2⟩, fun p there same => ?_⟩
  exact here.1 (List.mem_map.2 ⟨p, there, same⟩)

/-- No two types have the same route and name where names side by side are different. -/
theorem nodup_routes : {ps : List (Package ι ρ)} → AreDistinct ps → ((routedTypes ps).map fullRoute).Nodup
  | [], _ => List.nodup_nil
  | ⟨place, name, packages, types⟩ :: rest, distinct => by
    obtain ⟨below, own, after, other⟩ := distinct.cons
    have held : (types.map ([name], ·)).map fullRoute = types.map fun t => [name, t.name] := by
      rw [List.map_map]
      rfl
    have nested : ((routedTypes packages).map fun routed => (name :: routed.1, routed.2)).map fullRoute =
        ((routedTypes packages).map fullRoute).map (name :: ·) := by
      rw [List.map_map, List.map_map]
      rfl
    rw [routedTypes_cons, List.map_append, List.map_append, held, nested, List.nodup_append', List.nodup_append']
    refine ⟨⟨?_, (nodup_routes below).map fun _ _ => List.tail_eq_of_cons_eq, ?_⟩, nodup_routes after, ?_⟩
    · have tagged : (types.map (·.name)).map ([name, ·]) = types.map fun t => [name, t.name] := List.map_map
      rw [← tagged]
      exact own.map fun _ _ same => by simpa using same
    · -- A type that is nested has a longer route.
      intro route there there'
      obtain ⟨t, _, rfl⟩ := List.mem_map.1 there
      obtain ⟨inner, among, same⟩ := List.mem_map.1 there'
      obtain ⟨⟨route', t'⟩, routed, rfl⟩ := List.mem_map.1 among
      obtain ⟨p, _, steps, rfl⟩ := exists_of_mem_routedTypes routed
      simp [fullRoute] at same
    · intro route there there'
      obtain ⟨⟨route', t'⟩, routed, rfl⟩ := List.mem_map.1 there'
      obtain ⟨p, among, steps, rfl⟩ := exists_of_mem_routedTypes routed
      rcases List.mem_append.1 there with here | inner
      · obtain ⟨t, _, same⟩ := List.mem_map.1 here
        exact other p among (List.cons.inj same).1.symm
      · obtain ⟨route'', _, same⟩ := List.mem_map.1 inner
        exact other p among (List.cons.inj same).1.symm

end ClassDiagram
