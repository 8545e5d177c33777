import ClassDiagram.Draft.Inquiry
import ClassDiagram.Proofs.Draft.Linked
import ClassDiagram.Proofs.Layout

/-!
# Answers of inquiries

No inquiry looks at what was read before, so its answer can be given without it (`Inquiry.Gives`).  In a draft in which
everything is of the kind of its field (`IsTyped`) nothing is in the way of reading: a reference gives what it leads to
(`IsTyped.gives_read`), and names are texts.
-/

set_option autoImplicit false

namespace ClassDiagram.Draft

/-! ## Inquiries in parts -/

namespace Inquiry

variable {α β : Type} {q : Inquiry α} {x : Except Misfit α}

/-- Whether an inquiry has an answer, whatever was read before. -/
def Gives (q : Inquiry α) (x : Except Misfit α) : Prop := ∀ spots, (q.run spots).1 = x

/-- The second of two inquiries in a row begins with what was read by the first. -/
theorem run_bind (q : Inquiry α) (f : α → Inquiry β) (spots : List Spot) :
    (q >>= f).run spots =
      match q.run spots with
      | (.ok a, after) => (f a).run after
      | (.error e, after) => (.error e, after) := by
  rw [ExceptT.run_bind]
  simp only [bind, StateT.bind]
  rcases q.run spots with ⟨_ | _, after⟩ <;> rfl

/-- An inquiry in two steps that has an answer has one of the first step. -/
theorem ok_of_bind {f : α → Inquiry β} {b : β} {spots : List Spot} (answered : ((q >>= f).run spots).1 = .ok b) :
    ∃ a, (q.run spots).1 = .ok a ∧ ∃ after, ((f a).run after).1 = .ok b := by
  rw [run_bind] at answered
  cases run : q.run spots with
  | mk answer after =>
    rw [run] at answered
    cases answer with
    | error e => cases answered
    | ok a => exact ⟨a, rfl, after, answered⟩

/-- An inquiry that asks nothing gives its value. -/
@[simp] theorem gives_pure (a : α) : Gives (pure a) (.ok a) := fun _ => rfl

/-- A computation as an inquiry gives what it gives. -/
@[simp] theorem gives_of (x : Except Misfit α) : Gives (.of x) x := fun _ => rfl

/-- An inquiry that only notes what was read gives nothing. -/
theorem gives_modify (f : List Spot → List Spot) : Gives (modify f) (.ok ()) := fun _ => rfl

/-- Two inquiries in a row give what their computations do in a row. -/
theorem Gives.bind {f : α → Inquiry β} {g : α → Except Misfit β} (first : q.Gives x)
    (next : ∀ a, x = .ok a → (f a).Gives (g a)) : Gives (q >>= f) (x >>= g) := by
  intro spots
  have known := first spots
  rw [run_bind]
  cases run : q.run spots with
  | mk answer after =>
    rw [run] at known
    subst known
    cases answer with
    | error e => rfl
    | ok a => exact next a rfl after

/-- An inquiry whose first step has an answer goes on with it. -/
theorem Gives.then {f : α → Inquiry β} {a : α} {y : Except Misfit β} (first : q.Gives (.ok a))
    (next : (f a).Gives y) : Gives (q >>= f) y := by
  refine first.bind (g := fun _ => y) fun a' same => ?_
  obtain rfl := Except.ok.inj same
  exact next

/-- An inquiry whose value does not count gives nothing. -/
theorem Gives.discard {a : α} (first : q.Gives (.ok a)) : Gives (discard q) (.ok ()) := by
  have same : (Functor.discard q : Inquiry Unit) = q >>= fun _ => Pure.pure () := by
    rw [Functor.discard, map_const, bind_pure_comp]
    rfl
  rw [same]
  exact first.then (gives_pure ())

/-- An inquiry into each of some items passes if it does for every one of them. -/
theorem gives_forM {items : List α} {f : α → Inquiry Unit} (each : ∀ a ∈ items, (f a).Gives (.ok ())) :
    Gives (items.forM f) (.ok ()) := by
  induction items with
  | nil => exact gives_pure ()
  | cons a rest ih =>
    rw [List.forall_mem_cons] at each
    exact each.1.then (ih each.2)

/-- An inquiry into each of some items gives what the computations for them give. -/
theorem gives_mapM {items : List α} {f : α → Inquiry β} {g : α → Except Misfit β}
    (each : ∀ a ∈ items, (f a).Gives (g a)) : Gives (items.mapM f) (items.mapM g) := by
  induction items with
  | nil => exact gives_pure []
  | cons a rest ih =>
    rw [List.forall_mem_cons] at each
    rw [List.mapM_cons, List.mapM_cons]
    exact each.1.bind fun b _ => (ih each.2).bind fun bs _ => gives_pure (b :: bs)

/-- A fold of inquiries gives what the fold of their computations gives. -/
theorem gives_foldlM {items : List α} {f : β → α → Inquiry β} {g : β → α → Except Misfit β}
    (each : ∀ b, ∀ a ∈ items, (f b a).Gives (g b a)) (b : β) : Gives (items.foldlM f b) (items.foldlM g b) := by
  induction items generalizing b with
  | nil => exact gives_pure b
  | cons a rest ih =>
    simp only [List.forall_mem_cons] at each
    rw [List.foldlM_cons, List.foldlM_cons]
    exact (each b).1.bind fun b' _ => ih (fun b'' => (each b'').2) b'

/-- A draft answers an inquiry with what this gives. -/
theorem Gives.ask_eq (gives : q.Gives x) (d : Draft) : (d.ask q).1 = x := gives []

end Inquiry

open Inquiry

/-! ## Drafts in which everything is of its kind -/

/-- Whether everything in a draft is of the kind of its field: no reference is missing, references have texts as names
and lead to elements, and no value was given that does not fit. -/
structure IsTyped (d : Draft) : Prop where
  present : ∀ e ∈ d.elements, IsComplete e
  named : ∀ e ∈ d.elements, ∀ r ∈ e.references, ∃ name, r.2.2.name = .text name
  aimed : ∀ e ∈ d.elements, ∀ r ∈ e.references, r.2.2.aim ≠ .given .model
  given : d.given = []

/-- In a declared model everything is of its kind. -/
theorem isTyped_ofDeclared (m : Declared) : (ofDeclared m).IsTyped := by
  have references : ∀ e ∈ (ofDeclared m).elements, ∀ r ∈ e.references,
      ∃ name, r.2.2 = ⟨.text name, true, .unknown⟩ := by
    intro e there
    rw [elements, ofDeclared, linkAll, List.flatMap_nil, List.append_nil] at there
    refine Model.forall_references_map (P := fun _ r => ∃ name, r.2.2 = ⟨.text name, true, .unknown⟩) |>.2 ?_ e there
    refine Model.forall_references_map.2 fun _ _ r _ => ?_
    exact ⟨r.2.2, rfl⟩
  refine ⟨fun e there r among => ?_, fun e there r among => ?_, fun e there r among => ?_, rfl⟩
  all_goals obtain ⟨name, same⟩ := references e there r among
  · rw [same]
    rfl
  · exact ⟨name, by rw [same]⟩
  · rw [same]
    simp

variable {d : Draft}

/-- Reading references leaves everything of its kind. -/
theorem IsTyped.settle (typed : d.IsTyped) (chosen : Choice) : (d.settle chosen).IsTyped := by
  have reads := onlyReads_settle d chosen
  have elements : (d.settle chosen).elements = d.elements.map (·.map id fun h field i p =>
      if chosen h.origin field i then d.settled h.origin field p else p) := by
    rw [← elements_mapPointers]
    unfold Draft.settle
    split <;> rfl
  have given : (d.settle chosen).given = d.given := by
    unfold Draft.settle
    split <;> rfl
  have references {P : Pointer → Prop} (each : ∀ e ∈ d.elements, ∀ r ∈ e.references, ∀ h,
      P (if chosen h r.1 r.2.1 then d.settled h r.1 r.2.2 else r.2.2)) :
      ∀ e ∈ (d.settle chosen).elements, ∀ r ∈ e.references, P r.2.2 := by
    rw [elements, List.forall_mem_map]
    intro e there
    rw [Element.references_map, List.forall_mem_map]
    exact fun r among => each e there r among _
  refine ⟨?_, ?_, ?_, given.trans typed.given⟩
  · refine references (P := fun p => p.isAbsent = false) fun e there r among h => ?_
    exact (reads.isAbsent_eq ⟨h, none⟩ r.1 r.2.1 r.2.2).trans (typed.present e there r among)
  · refine references (P := fun p => ∃ name, p.name = .text name) fun e there r among h => ?_
    rw [reads.name_eq ⟨h, none⟩ r.1 r.2.1 r.2.2]
    exact typed.named e there r among
  · refine references (P := fun p => p.aim ≠ .given .model) fun e there r among h => ?_
    have aimed := typed.aimed e there r among
    split
    · rw [settled]
      split
      · simp
      · exact aimed
    · exact aimed

/-! ## Names -/

section

variable (typed : d.IsTyped)
include typed

/-- In a typed draft the name that was given to an element is its name, as a text. -/
theorem IsTyped.nameGiven_eq (e : Element Handle Pointer) : d.nameGiven e = .text e.name := by
  rw [nameGiven, given?, typed.given]
  rfl

/-- In a typed draft the home of an element is told by the names of the packages around it. -/
theorem IsTyped.homeTexts_eq (holder : Holder) :
    d.homeTexts holder = .ok ((d.packagesAround holder).map (·.name)) := by
  have names : (d.packagesAround holder).map (fun p => d.nameGiven (.package p)) =
      ((d.packagesAround holder).map (·.name)).map .text := by
    rw [List.map_map]
    exact List.map_congr_left fun p _ => typed.nameGiven_eq (.package p)
  rw [homeTexts, names, wordTexts_texts]

/-- In a typed draft the name that is held for an element is a text. -/
theorem IsTyped.nameHeld_eq (origin : Origin) : ∃ name, d.nameHeld (.element origin) = .ok (.text name) := by
  rw [nameHeld]
  cases d.element? origin with
  | none => exact ⟨"", rfl⟩
  | some e => exact ⟨e.name, congrArg Except.ok (typed.nameGiven_eq e)⟩

/-- An index can be made where names are texts. -/
theorem IsTyped.indexed_eq : d.indexed = .ok () := by
  have keys : ∀ names : List Document, (∀ name ∈ names, ∃ text, name = .text text) →
      (names.forM fun name => discard name.asKey : Except Misfit Unit) = .ok () := by
    intro names texts
    induction names with
    | nil => rfl
    | cons name rest ih =>
      rw [List.forall_mem_cons] at texts
      obtain ⟨⟨text, rfl⟩, others⟩ := texts
      exact ih others
  rw [indexed]
  split
  · rfl
  · refine keys _ fun name there => ?_
    obtain ⟨p, _, within⟩ := List.mem_flatMap.1 there
    rcases List.mem_cons.1 within with rfl | among
    · exact ⟨_, typed.nameGiven_eq _⟩
    · obtain ⟨t, _, rfl⟩ := List.mem_map.1 among
      exact ⟨_, typed.nameGiven_eq _⟩

/-! ## References -/

section

variable {e : Element Handle Pointer} (there : e ∈ d.elements) {r : RefField × Nat × Pointer}
  (among : r ∈ e.references)
include there among

/-- Nothing is in the way of reading a reference. -/
theorem IsTyped.gives_read (index : Nat) : (d.read e.place.origin r.1 index r.2.2).Gives
    (.ok (d.targetOf e.place.origin r.1 r.2.2)) := by
  have present := typed.present e there r among
  obtain ⟨name, text⟩ := typed.named e there r among
  have fits : d.nameFits e.place.origin r.2.2.name = .ok () := by
    rw [text, nameFits]
    split
    · exact typed.indexed_eq
    · rfl
  rw [Draft.read, if_neg (by simp [present])]
  split
  · exact ((fits ▸ gives_of _ : Gives _ (.ok ()))).then ((gives_modify _).then (gives_pure _))
  · exact (gives_modify _).then (gives_pure _)

/-- In a typed draft no reference leads to the model itself. -/
theorem IsTyped.targetOf_ne_model : d.targetOf e.place.origin r.1 r.2.2 ≠ some .model := by
  have aimed := typed.aimed e there r among
  unfold targetOf
  split
  · next target aim =>
    intro same
    obtain rfl := Option.some.inj same
    exact aimed aim
  · simp
  · split <;> simp
  · simp

end

end

end ClassDiagram.Draft
