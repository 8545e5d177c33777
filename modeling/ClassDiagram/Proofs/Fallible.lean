import Mathlib.Data.List.Forall2

/-!
# Computations that may fail

A computation in steps gives a value exactly if each of its steps does.  Another wording of its errors changes
nothing about that.
-/

set_option autoImplicit false

namespace ClassDiagram

variable {ε ε' α β γ : Type}

/-- Two steps in a row give a value exactly if the first gives one from which the second gives it. -/
theorem bind_eq_ok {x : Except ε α} {f : α → Except ε β} {b : β} :
    (x >>= f) = .ok b ↔ ∃ a, x = .ok a ∧ f a = .ok b := by
  cases x with
  | error e => exact ⟨nofun, fun ⟨_, found, _⟩ => nomatch found⟩
  | ok a =>
    refine ⟨fun given => ⟨a, rfl, given⟩, ?_⟩
    rintro ⟨_, ⟨⟩, given⟩
    exact given

/-- What is made of the value of a computation comes from that value. -/
theorem map_eq_ok {x : Except ε α} {f : α → β} {b : β} : x.map f = .ok b ↔ ∃ a, x = .ok a ∧ f a = b := by
  cases x with
  | error e => exact ⟨nofun, fun ⟨_, found, _⟩ => nomatch found⟩
  | ok a =>
    refine ⟨fun given => ⟨a, rfl, Except.ok.inj given⟩, ?_⟩
    rintro ⟨_, ⟨⟩, same⟩
    exact congrArg _ same

/-! ## Lists -/

/-- A check of each of some items passes if it passes for every one of them. -/
theorem forM_eq_ok {items : List α} {f : α → Except ε Unit} (each : ∀ a ∈ items, f a = .ok ()) :
    items.forM f = .ok () := by
  induction items with
  | nil => rfl
  | cons a rest ih =>
    rw [List.forall_mem_cons] at each
    change (f a >>= fun _ => rest.forM f) = .ok ()
    rw [each.1]
    exact ih each.2

/-- A list of computations gives what each of them gives. -/
theorem mapM_eq_ok {items : List α} {f : α → Except ε β} {R : α → β → Prop}
    (each : ∀ a ∈ items, ∀ b, f a = .ok b ↔ R a b) {results : List β} :
    items.mapM f = .ok results ↔ List.Forall₂ R items results := by
  induction items generalizing results with
  | nil =>
    rw [List.mapM_nil, List.forall₂_nil_left_iff]
    exact ⟨fun same => (Except.ok.inj same).symm, fun none => none ▸ rfl⟩
  | cons a rest ih =>
    rw [List.forall_mem_cons] at each
    rw [List.mapM_cons, bind_eq_ok, List.forall₂_cons_left_iff]
    constructor
    · rintro ⟨b, first, written⟩
      obtain ⟨others, later, last⟩ := bind_eq_ok.1 written
      obtain rfl := Except.ok.inj last
      exact ⟨b, others, (each.1 b).1 first, (ih each.2).1 later, rfl⟩
    · rintro ⟨b, others, first, later, rfl⟩
      refine ⟨b, (each.1 b).2 first, ?_⟩
      rw [(ih each.2).2 later]
      rfl

/-- What a list of computations gives has what each of them ensures. -/
theorem forall_mem_of_mapM {items : List α} {f : α → Except ε β} {P : β → Prop} {results : List β}
    (given : items.mapM f = .ok results) (each : ∀ a ∈ items, ∀ b, f a = .ok b → P b) : ∀ b ∈ results, P b := by
  have related : List.Forall₂ (fun a b => f a = .ok b) items results := (mapM_eq_ok fun _ _ _ => Iff.rfl).1 given
  clear given
  induction related with
  | nil => exact nofun
  | cons first _ ih =>
    rw [List.forall_mem_cons] at each
    exact List.forall_mem_cons.2 ⟨each.1 _ first, ih each.2⟩

/-- Each of some items is related to something exactly if the list of them is, item by item. -/
theorem exists_forall₂ {R : α → β → Prop} {items : List α} :
    (∃ results, List.Forall₂ R items results) ↔ ∀ a ∈ items, ∃ b, R a b := by
  induction items with
  | nil => exact ⟨fun _ => nofun, fun _ => ⟨[], .nil⟩⟩
  | cons a rest ih =>
    rw [List.forall_mem_cons, ← ih]
    constructor
    · rintro ⟨_, related⟩
      obtain ⟨b, others, first, later, rfl⟩ := List.forall₂_cons_left_iff.1 related
      exact ⟨⟨b, first⟩, others, later⟩
    · rintro ⟨⟨b, first⟩, others, later⟩
      exact ⟨b :: others, .cons first later⟩

/-- A list of computations gives something where each of them does. -/
theorem exists_mapM_iff {items : List α} {f : α → Except ε β} {P : α → Prop}
    (passes : ∀ a ∈ items, (∃ b, f a = .ok b) ↔ P a) :
    (∃ results, items.mapM f = .ok results) ↔ ∀ a ∈ items, P a := by
  have each : ∀ a ∈ items, ∀ b, f a = .ok b ↔ f a = .ok b := fun _ _ _ => Iff.rfl
  rw [← forall₂_congr passes, ← exists_forall₂]
  exact exists_congr fun results => mapM_eq_ok each

/-- What is made of each value can be made of them when all are there. -/
theorem mapM_map (f : α → Except ε β) (g : β → γ) (items : List α) :
    (items.mapM fun a => (f a).map g) = (items.mapM f).map (List.map g) := by
  induction items with
  | nil => rfl
  | cons a rest ih =>
    rw [List.mapM_cons, List.mapM_cons, ih]
    cases f a with
    | error e => rfl
    | ok b => cases rest.mapM f <;> rfl

/-- Computations that are the same for each item are the same for the list. -/
theorem mapM_congr {f g : α → Except ε β} {items : List α} (each : ∀ a ∈ items, f a = g a) :
    items.mapM f = items.mapM g := by
  induction items with
  | nil => rfl
  | cons a rest ih =>
    rw [List.forall_mem_cons] at each
    rw [List.mapM_cons, List.mapM_cons, each.1, ih each.2]

/-- Computations that never fail are a map. -/
theorem mapM_eq_map {f : α → Except ε β} {g : α → β} (each : ∀ a, f a = .ok (g a)) (items : List α) :
    items.mapM f = .ok (items.map g) := by
  obtain rfl : f = fun a => .ok (g a) := funext each
  exact List.mapM_pure

/-! ## Errors in other words -/

/-- Another wording of the errors leaves the values as they are. -/
theorem mapError_eq_ok {h : ε → ε'} {x : Except ε α} {a : α} : x.mapError h = .ok a ↔ x = .ok a := by
  cases x with
  | error e => exact ⟨nofun, nofun⟩
  | ok b =>
    constructor
    · rintro ⟨⟩
      rfl
    · rintro ⟨⟩
      rfl

/-- The errors of two steps in a row are those of each, in the other wording. -/
theorem mapError_bind (h : ε → ε') (x : Except ε α) (f : α → Except ε β) :
    (x >>= f).mapError h = x.mapError h >>= fun a => (f a).mapError h := by
  cases x <;> rfl

/-- The errors of a fold are those of its steps, in the other wording. -/
theorem mapError_foldlM (h : ε → ε') (f : β → α → Except ε β) (items : List α) (b : β) :
    (items.foldlM f b).mapError h = items.foldlM (fun b a => (f b a).mapError h) b := by
  induction items generalizing b with
  | nil => rfl
  | cons a rest ih =>
    rw [List.foldlM_cons, List.foldlM_cons, mapError_bind]
    exact congrArg _ (funext ih)

end ClassDiagram
