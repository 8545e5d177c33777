import ClassDiagram.Proofs.Draft.Linked
import Mathlib.Logic.Relation

/-!
# Histories of drafts

A draft is edited, references of it are asked for and names looked up in it, and it is linked, in any order.
Every draft of such a history is sound (`Evolves.isSound`), and one that was not edited since it was linked is current
(`IsLinked.isCurrent`).

An edit here gives names that are texts and puts no place without a reference in a list, and it puts in an element
only after it was taken out.  So no element is at two places.
-/

set_option autoImplicit false

namespace ClassDiagram.Draft

open Relation

/-- What asks a draft for something: targets of references are asked for or forgotten, and names looked up. -/
inductive Access : Draft → Draft → Prop where
  | settle (d : Draft) (chosen : Choice) : Access d (d.settle chosen)
  | forget (d : Draft) (owner : Origin) (field : RefField) (index : Nat) :
    Access d (d.forget owner field index)
  | find (d : Draft) (scope : Holder) (kinds : List Kind) (name : String) :
    Access d (d.find scope kinds name).2
  | findQualified (d : Draft) (kinds : List Kind) (name : String) : Access d (d.findQualified kinds name).2
  | keepIndex (d : Draft) : Access d d.keepIndex

/-- What changes the elements of a draft. -/
inductive Edit : Draft → Draft → Prop where
  | set (d : Draft) {holder : Holder} {word : String} {value : Document}
    (named : word = "name" → d.canHold holder word value = true) : Edit d (d.set holder word value)
  | setType (d : Draft) (holder : Holder) {type : Option Pointer}
    (present : ∀ p ∈ type, p.isAbsent = false) : Edit d (d.setType holder type)
  | changeSupers (d : Draft) (holder : Holder) (word : String) {f : List Pointer → List Pointer}
    (present : ∀ ps, (∀ p ∈ ps, p.isAbsent = false) → ∀ p ∈ f ps, p.isAbsent = false) :
    Edit d (d.changeSupers holder word f)
  | add {d d' : Draft} {item : Element Unit String} {holder : Holder} {branch : Branch}
    {position : Option Int} (added : d.add holder branch item position = .ok d') : Edit d d'
  | addAside (d : Draft) (item : Element Unit String) : Edit d (d.addAside item)
  | remove {d : Draft} {origin : Origin} {e : Element Handle Pointer}
    (found : d.element? origin = some e) : Edit d (d.remove e)
  | move {d d' : Draft} {origin : Origin} {e : Element Handle Pointer} {holder : Holder} {branch : Branch}
    {position : Option Int} (found : d.element? origin = some e)
    (moved : (d.without origin).insert holder branch e position = .ok d') : Edit d d'

/-- What can happen to a draft. -/
inductive Event : Draft → Draft → Prop where
  | edit {d d' : Draft} (edited : Edit d d') : Event d d'
  | access {d d' : Draft} (asked : Access d d') : Event d d'
  | link (d : Draft) : Event d d.link.2

/-- Whether a draft comes from another one by edits, accesses and linking, in any order. -/
abbrev Evolves : Draft → Draft → Prop := ReflTransGen Event

/-- Whether a draft comes from another one by accesses. -/
abbrev Accesses : Draft → Draft → Prop := ReflTransGen Access

/-- The drafts that are linked: a draft of a declared model, and what comes from one by any history that ends with
linking.  Asking for something and making an element outside the tree leave a draft linked. -/
inductive IsLinked : Draft → Prop where
  | declared (m : Declared) : IsLinked (ofDeclared m)
  | link {d d₁ d₂ : Draft} (linked : IsLinked d) (history : Evolves d d₁)
    (linking : d₁.link = (.ok (), d₂)) : IsLinked d₂
  | access {d d' : Draft} (linked : IsLinked d) (asked : Access d d') : IsLinked d'
  | addAside {d : Draft} (linked : IsLinked d) (item : Element Unit String) : IsLinked (d.addAside item)

variable {d d' : Draft}

/-! ## One step -/

/-- Asking a draft something leaves it sound. -/
theorem IsSound.access (sound : d.IsSound) (asked : Access d d') : d'.IsSound := by
  cases asked with
  | settle chosen => exact sound.settle chosen
  | forget owner field index => exact sound.mapPointers (onlyReads_forget d owner field index)
  | find scope kinds name =>
    rw [find]
    split
    · exact sound.withIndex _
    · exact sound
  | findQualified kinds name =>
    rw [findQualified]
    split
    · exact sound
    · exact sound.withIndex _
  | keepIndex => exact sound.withIndex _

/-- Asking a draft something leaves it current. -/
theorem IsCurrent.access (current : d.IsCurrent) (asked : Access d d') : d'.IsCurrent := by
  cases asked with
  | settle chosen => exact current.settle chosen
  | forget owner field index => exact current.mapPointers (onlyReads_forget d owner field index)
  | find scope kinds name =>
    rw [find]
    split
    · exact current.keepIndex
    · exact current
  | findQualified kinds name =>
    rw [findQualified]
    split
    · exact current
    · exact current.keepIndex
  | keepIndex => exact current.keepIndex

/-- Editing a draft leaves it sound. -/
theorem IsSound.edit (sound : d.IsSound) (edited : Edit d d') : d'.IsSound := by
  cases edited with
  | set named => exact sound.set named
  | setType holder present => exact sound.setType present
  | changeSupers holder word present => exact sound.changeSupers present
  | add added => exact sound.add added
  | addAside item => exact sound.addAside item
  | remove found => exact sound.remove found
  | move found moved => exact sound.move found moved

/-- A draft stays sound whatever happens to it. -/
theorem IsSound.event (sound : d.IsSound) (event : Event d d') : d'.IsSound := by
  cases event with
  | edit edited => exact sound.edit edited
  | access asked => exact sound.access asked
  | link =>
    rw [sound.link_eq]
    exact sound.isSound_linkAll

/-! ## All steps -/

/-- Every draft that comes from a sound one is sound. -/
theorem Evolves.isSound (history : Evolves d d') (sound : d.IsSound) : d'.IsSound := by
  induction history with
  | refl => exact sound
  | tail _ event ih => exact ih.event event

/-- A draft stays current however often it is asked something. -/
theorem Accesses.isCurrent (asked : Accesses d d') (current : d.IsCurrent) : d'.IsCurrent := by
  induction asked with
  | refl => exact current
  | tail _ asked ih => exact ih.access asked

/-- A draft of declared packages is current. -/
theorem isCurrent_ofDeclared (m : Declared) : (ofDeclared m).IsCurrent := by
  refine IsSound.linkAll ⟨?_, fun e there => ?_, fun e there => ?_, by simp⟩
  · obtain ⟨keys, within⟩ := Model.nodup_keys_settle m
    have apart := nodup_origins 0 keys within
    rw [elements, List.flatMap_nil, List.append_nil, Model.elements_map, List.map_map]
    refine (congrArg List.Nodup (List.map_congr_left fun e _ => ?_)).mpr apart
    exact congrArg Handle.origin (Element.place_map _ _ e)
  · rw [elements, List.flatMap_nil, List.append_nil, Model.elements_map] at there
    obtain ⟨s, _, rfl⟩ := List.mem_map.1 there
    rw [Element.place_map]
    exact Nat.zero_lt_one
  · rw [elements, List.flatMap_nil, List.append_nil] at there
    exact Model.forall_references_map (P := fun _ r => r.2.2.isAbsent = false) |>.2
      (fun _ _ _ _ => rfl) e there

/-- An element outside the tree does not matter to what a draft remembers. -/
theorem IsCurrent.addAside (current : d.IsCurrent) (item : Element Unit String) :
    (d.addAside item).IsCurrent :=
  current.of_model (current.sound.addAside item) rfl current.placed.index

/-- What a linked draft remembers is of its tree. -/
theorem IsLinked.isCurrent (linked : d.IsLinked) : d.IsCurrent := by
  induction linked with
  | declared m => exact isCurrent_ofDeclared m
  | link _ history linking ih =>
    have sound := history.isSound ih.sound
    rw [sound.link_eq] at linking
    obtain ⟨-, rfl⟩ := Prod.mk.inj linking
    exact sound.linkAll
  | access _ asked ih => exact ih.access asked
  | addAside _ item ih => exact ih.addAside item

end ClassDiagram.Draft
