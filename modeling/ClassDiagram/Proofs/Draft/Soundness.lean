import ClassDiagram.Draft.Edit
import ClassDiagram.Proofs.Draft.Surroundings
import ClassDiagram.Proofs.Model.Changes
import Mathlib.Algebra.GroupWithZero.Nat
import Mathlib.Data.List.Flatten
import Mathlib.Data.List.Perm.Subperm

/-!
# Soundness by counting

A draft is sound where no origin occurs twice in it (`isSound_iff`).  A change that puts elements in the element
with an origin raises how often an origin occurs by how often it occurs in what is put in, and this as often as
there is an element to put it in (`occurrences_ofElement_le`).  So a change may put elements in where the draft would
be sound with them aside (`IsSound.changeAll`).
-/

set_option autoImplicit false

namespace ClassDiagram.Draft

variable {d : Draft} {x o : Origin} {e c : Element Handle Pointer} {es : List (Element Handle Pointer)}

/-! ## Counting origins -/

/-- The elements that are in no other: the packages at the top of the tree, and the elements aside. -/
def roots (d : Draft) : List (Element Handle Pointer) := d.model.packages.map .package ++ d.aside

/-- The elements of a draft are all that is in its roots. -/
theorem elements_eq_roots (d : Draft) : d.elements = d.roots.flatMap Element.all := by
  rw [elements, Model.elements_eq, roots, List.flatMap_append]

/-- How often an origin occurs in an element and all that it holds. -/
def occurrences (x : Origin) (e : Element Handle Pointer) : Nat := (e.all.map (·.place.origin)).count x

/-- How often an origin occurs in some elements and all that they hold. -/
def occurrencesIn (x : Origin) (es : List (Element Handle Pointer)) : Nat := (es.map (occurrences x)).sum

/-- An origin is counted among elements as often as it occurs in them. -/
theorem count_origins (x : Origin) (es : List (Element Handle Pointer)) :
    ((es.flatMap Element.all).map (·.place.origin)).count x = occurrencesIn x es := by
  rw [List.map_flatMap, List.count_flatMap]
  rfl

/-- No origin occurs in no elements. -/
@[simp] theorem occurrencesIn_nil : occurrencesIn x [] = 0 := rfl

/-- An origin occurs in the first of some elements and in the others. -/
@[simp] theorem occurrencesIn_cons : occurrencesIn x (e :: es) = occurrences x e + occurrencesIn x es := rfl

/-- An origin occurs in both of two lists of elements. -/
@[simp] theorem occurrencesIn_append (es' : List (Element Handle Pointer)) :
    occurrencesIn x (es ++ es') = occurrencesIn x es + occurrencesIn x es' := by
  rw [occurrencesIn, List.map_append, List.sum_append]
  rfl

/-- An origin occurs at an element itself and in its parts. -/
theorem occurrences_eq (x : Origin) (e : Element Handle Pointer) :
    occurrences x e = (if e.place.origin = x then 1 else 0) + occurrencesIn x e.parts := by
  rw [occurrences, Element.all_eq, List.map_cons, List.count_cons, count_origins, Nat.add_comm]
  simp

/-- An origin occurs as often in elements in another order. -/
theorem occurrencesIn_perm {es' : List (Element Handle Pointer)} (same : es.Perm es') :
    occurrencesIn x es = occurrencesIn x es' := (same.map _).sum_nat

/-- An origin does not occur more often in fewer elements. -/
theorem occurrencesIn_le {es' : List (Element Handle Pointer)} (fewer : es.Subperm es') :
    occurrencesIn x es ≤ occurrencesIn x es' := by
  obtain ⟨es'', same, part⟩ := fewer
  rw [← occurrencesIn_perm same, ← count_origins, ← count_origins]
  exact ((part.flatMap _).map _).count_le x

/-- What each of some elements gains they gain together. -/
theorem occurrencesIn_map_le {f : Element Handle Pointer → Element Handle Pointer} {gain : Nat} :
    ∀ {es : List (Element Handle Pointer)},
      (∀ e ∈ es, occurrences x (f e) ≤ occurrences x e + gain * occurrences o e) →
        occurrencesIn x (es.map f) ≤ occurrencesIn x es + gain * occurrencesIn o es
  | [], _ => by simp
  | e :: es, each => by
    rw [List.forall_mem_cons] at each
    have rest := occurrencesIn_map_le each.2
    rw [List.map_cons, occurrencesIn_cons, occurrencesIn_cons, occurrencesIn_cons, Nat.mul_add]
    omega

/-- An origin does not occur more often inside a part of an element. -/
theorem occurrences_le_of_mem_all {t : Element Handle Pointer} (there : t ∈ e.all) :
    occurrences x t ≤ occurrences x e := by
  induction e using Element.induction with
  | step e ih =>
    rcases Element.mem_all.1 there with rfl | ⟨c, part, inside⟩
    · exact Nat.le_refl _
    · have held : occurrencesIn x [c] ≤ occurrencesIn x e.parts :=
        occurrencesIn_le (List.singleton_sublist.2 part).subperm
      have within := ih c part inside
      rw [occurrences_eq x e]
      simp only [occurrencesIn_cons, occurrencesIn_nil] at held
      omega

/-! ## Soundness by the roots -/

/-- Whether no reference of an element is missing. -/
def IsComplete (e : Element Handle Pointer) : Prop := ∀ r ∈ e.references, r.2.2.isAbsent = false

/-- Whether an element is of one of the first additions, and no reference of it is missing. -/
def IsWhole (additions : Nat) (e : Element Handle Pointer) : Prop :=
  e.place.origin.addition < additions ∧ IsComplete e

/-- A draft is sound if no origin occurs twice in its roots, they are whole and no name was given that does not fit. -/
theorem isSound_iff : d.IsSound ↔ (∀ x, occurrencesIn x d.roots ≤ 1) ∧
    (∀ e ∈ d.roots, ∀ x ∈ e.all, IsWhole d.additions x) ∧ ∀ g ∈ d.given, g.field ≠ "name" := by
  have inside {P : Element Handle Pointer → Prop} :
      (∀ e ∈ d.elements, P e) ↔ ∀ e ∈ d.roots, ∀ x ∈ e.all, P x := by
    simp only [elements_eq_roots, List.mem_flatMap]
    exact ⟨fun all e root x held => all x ⟨e, root, held⟩,
      fun all x ⟨e, root, held⟩ => all e root x held⟩
  have once : (d.elements.map (·.place.origin)).Nodup ↔ ∀ x, occurrencesIn x d.roots ≤ 1 := by
    rw [elements_eq_roots, List.nodup_iff_count_le_one]
    simp only [count_origins]
  rw [← inside, ← once]
  exact ⟨fun sound => ⟨sound.apart, fun e there => ⟨sound.known e there, sound.present e there⟩, sound.named⟩,
    fun ⟨apart, whole, named⟩ =>
      ⟨apart, fun e there => (whole e there).1, fun e there => (whole e there).2, named⟩⟩

/-! ## Changes of all elements -/

/-- Whether a change leaves each element where it is, and at most puts some elements in the element with an
origin. -/
structure IsTame (r : Change Handle Pointer) (o : Origin) (extra : List (Element Handle Pointer)) : Prop where
  place : ∀ c, (r.own c).place = c.place
  complete : ∀ c, IsComplete c → IsComplete (r.own c)
  parts : ∀ c, (r.own c).parts.Subperm ((if c.place.origin = o then extra else []) ++ c.parts)

section

variable {r : Change Handle Pointer} {extra : List (Element Handle Pointer)}

/-- A change that is tame leaves an element at its place. -/
theorem IsTame.place_ofElement (tame : IsTame r o extra) (e : Element Handle Pointer) :
    (r.ofElement e).place = e.place := by
  rw [Change.ofElement_eq, tame.place, Change.place_ofParts]

/-- A change that puts in elements changes how often an origin occurs by how often it occurs in these. -/
theorem occurrences_ofElement_le (tame : IsTame r o extra) (x : Origin) (e : Element Handle Pointer) :
    occurrences x (r.ofElement e) ≤ occurrences x e + occurrencesIn x extra * occurrences o e := by
  induction e using Element.induction with
  | step e ih =>
    have parts := occurrencesIn_le (x := x) (tame.parts (r.ofParts e))
    have inside := occurrencesIn_map_le ih
    rw [Change.parts_ofParts, Change.place_ofParts, occurrencesIn_append] at parts
    rw [occurrences_eq, tame.place_ofElement, Change.ofElement_eq, occurrences_eq x e, occurrences_eq o e,
      Nat.mul_add]
    split at parts
    · next here =>
      rw [if_pos here]
      omega
    · next other =>
      rw [occurrencesIn_nil] at parts
      rw [if_neg other]
      omega

/-- A change everywhere changes the roots. -/
theorem roots_changeAll (d : Draft) (r : Change Handle Pointer) :
    (d.changeAll r).roots = d.roots.map r.ofElement := by
  rw [roots, changeAll, Change.ofModel, Change.ofPackages_eq, roots, List.map_append, List.map_map,
    List.map_map]
  rfl

/-- A change that is tame leaves an element whole if what it brings in is whole. -/
theorem IsTame.isWhole (tame : IsTame r o extra) {additions : Nat}
    (new : ∀ y ∈ extra, ∀ x ∈ y.all, IsWhole additions x) (old : ∀ x ∈ e.all, IsWhole additions x) :
    ∀ x ∈ (r.ofElement e).all, IsWhole additions x := by
  refine Change.forall_all_ofElement (fun c whole => ?_) (fun c y part => ?_) old
  · refine ⟨?_, tame.complete _ fun p among => ?_⟩
    · rw [tame.place, Change.place_ofParts]
      exact whole.1
    · rw [Change.references_ofParts] at among
      exact whole.2 p among
  · rcases List.mem_append.1 ((tame.parts c).subset part) with put | kept
    · split at put
      · exact .inr (new y put)
      · exact absurd put List.not_mem_nil
    · exact .inl kept

/-- A change may put elements in where the draft would be sound with them aside. -/
theorem IsSound.changeAll (tame : IsTame r o extra)
    (sound : ({ d with aside := d.aside ++ extra } : Draft).IsSound) : (d.changeAll r).IsSound := by
  obtain ⟨once, whole, named⟩ := isSound_iff.1 sound
  have split : ({ d with aside := d.aside ++ extra } : Draft).roots = d.roots ++ extra := by
    rw [roots, roots, List.append_assoc]
  rw [split] at whole
  simp only [split, occurrencesIn_append] at once
  rw [List.forall_mem_append] at whole
  refine isSound_iff.2 ⟨fun x => ?_, fun e there => ?_, named⟩
  · -- There is at most one element to put them in.
    have place : occurrencesIn x extra * occurrencesIn o d.roots ≤ occurrencesIn x extra * 1 :=
      Nat.mul_le_mul_left _ (Nat.le_of_add_right_le (once o))
    have all := occurrencesIn_map_le fun e (_ : e ∈ d.roots) => occurrences_ofElement_le tame x e
    have total := once x
    rw [roots_changeAll]
    omega
  · rw [roots_changeAll] at there
    obtain ⟨e', root, rfl⟩ := List.mem_map.1 there
    exact tame.isWhole whole.2 (whole.1 e' root)

end

end ClassDiagram.Draft
