import ClassDiagram.Proofs.Model.Elements
import ClassDiagram.Proofs.Model.Places

/-!
# Elements in their places

Settling a model gives each element the position at which it is (`Model.at_of_mem_zip`, `Model.mem_zip_of_at`),
and no two elements of a tree one position (`Linking.nodup_keys_settleElement`).
-/

set_option autoImplicit false

namespace ClassDiagram

variable {ι ρ κ σ : Type}

/-! ## Steps to elements of a sort -/

/-- The position that a step leads to in its list. -/
def Step.index : Step → Nat
  | .package i => i
  | .type i => i
  | .property i => i
  | .operation i => i
  | .parameter i => i
  | .associationEnd i => i

/-- Whether a step can lead to an element of a sort. -/
def Step.Suits : Step → Element ι ρ → Prop
  | .package _, .package _ => True
  | .type _, .classifier _ => True
  | .property _, .property _ => True
  | .associationEnd _, .property _ => True
  | .operation _, .operation _ => True
  | .parameter _, .parameter _ => True
  | _, _ => False

/-- The step to a numbered part suits the part if it suits every item. -/
theorem suits_of_mem_numberedParts {α : Type} {toItem : Nat → Step} {element : α → Element ι ρ}
    {items : List α} {e : Element ι ρ} {step : Step} (there : (step, e) ∈ numberedParts toItem element items)
    (suits : ∀ i x, (toItem i).Suits (element x)) : step.Suits e := by
  obtain ⟨i, x, _, same⟩ := mem_numberedParts.1 there
  obtain ⟨rfl, rfl⟩ := Prod.mk.inj same
  exact suits i x

/-- The step to a part of an element suits the part. -/
theorem Element.suits_of_mem_steps {e c : Element ι ρ} {step : Step} (there : (step, c) ∈ e.steps) :
    step.Suits c := by
  cases e with
  | package p =>
    rcases List.mem_append.1 there with package | type
    · exact suits_of_mem_numberedParts package fun _ _ => trivial
    · exact suits_of_mem_numberedParts type fun _ _ => trivial
  | classifier t =>
    rcases List.mem_append.1 there with feature | last
    · rcases List.mem_append.1 feature with property | operation
      · exact suits_of_mem_numberedParts property fun _ _ => trivial
      · exact suits_of_mem_numberedParts operation fun _ _ => trivial
    · exact suits_of_mem_numberedParts last fun _ _ => trivial
  | operation o => exact suits_of_mem_numberedParts there fun _ _ => trivial
  | property p => exact absurd there List.not_mem_nil
  | parameter r => exact absurd there List.not_mem_nil

namespace Linking

/-! ## Settled elements -/

/-- An element in the place that a step leads to. -/
def settleElement (holder : Path) (home : List String) (step : Step) : Element ι ρ → Element Place ρ
  | .package p => .package (settlePackage holder home step.index p)
  | .classifier t => .classifier (settleType holder home step.index t)
  | .property p => .property (settleProperty holder home (fun _ => step) step.index p)
  | .operation o => .operation (settleOperation holder home step.index o)
  | .parameter r => .parameter (settleParameter holder home step.index r)

/-- Packages are settled one by one, each at its number. -/
theorem settlePackages_eq (holder : Path) (home : List String) (ps : List (Package ι ρ)) (i : Nat) :
    settlePackages holder home i ps = (ps.zipIdx i).map fun (p, j) => settlePackage holder home j p := by
  induction ps generalizing i with
  | nil => rfl
  | cons p rest ih => rw [settlePackages, ih, List.zipIdx_cons, List.map_cons]

section

variable (holder : Path) (home : List String) {step : Step}

/-- A settled element has the key of the path to it. -/
theorem key_settleElement {e : Element ι ρ} (suits : step.Suits e) :
    (settleElement holder home step e).place.key = .inside (holder ++ [step]) := by
  cases e with
  | package p =>
    obtain ⟨_, _, _, _⟩ := p
    cases step with
    | package i =>
      rw [settleElement, settlePackage]
      rfl
    | _ => exact suits.elim
  | classifier t =>
    cases step with
    | type i => rfl
    | _ => exact suits.elim
  | property p => rfl
  | operation o =>
    cases step with
    | operation i => rfl
    | _ => exact suits.elim
  | parameter r =>
    cases step with
    | parameter i => rfl
    | _ => exact suits.elim

/-- Settled items are numbered as the items are, each settled at its step. -/
theorem numberedParts_settleList {α β : Type} (toItem : Nat → Step) (settle : Nat → α → β)
    (element : α → Element ι ρ) (element' : β → Element Place ρ) (path : Path) (names : List String)
    (same : ∀ i x, element' (settle i x) = settleElement path names (toItem i) (element x)) (items : List α) :
    (settleList settle items).map element' =
      (numberedParts toItem element items).map fun (step, c) => settleElement path names step c := by
  rw [settleList, numberedParts, List.map_map, List.map_map]
  exact List.map_congr_left fun pair _ => same pair.2 pair.1

/-- The parts of a settled element are its parts, each settled where its step leads to. -/
theorem parts_settleElement {e : Element ι ρ} (suits : step.Suits e) :
    ∃ names, (settleElement holder home step e).parts =
      e.steps.map fun (next, c) => settleElement (holder ++ [step]) names next c := by
  cases e with
  | package p =>
    obtain ⟨place, name, packages, types⟩ := p
    cases step with
    | package i =>
      refine ⟨home ++ [name], ?_⟩
      rw [settleElement, settlePackage, Element.parts_package, settlePackages_eq, Element.steps,
        List.map_append]
      congr 1
      · exact numberedParts_settleList .package _ .package .package _ _ (fun _ _ => rfl) packages
      · exact numberedParts_settleList .type _ .classifier .classifier _ _ (fun _ _ => rfl) types
    | _ => exact suits.elim
  | classifier t =>
    obtain ⟨place, name, body⟩ := t
    cases step with
    | type i =>
      have properties : ∀ ps : List (Property ι ρ), _ := numberedParts_settleList .property
        (settleProperty (holder ++ [.type i]) home .property) .property .property (holder ++ [.type i]) home
        fun _ _ => rfl
      have operations : ∀ os : List (Operation ι ρ), _ := numberedParts_settleList .operation
        (settleOperation (holder ++ [.type i]) home) .operation .operation (holder ++ [.type i]) home
        fun _ _ => rfl
      have ends : ∀ ps : List (Property ι ρ), _ := numberedParts_settleList .associationEnd
        (settleProperty (holder ++ [.type i]) home .associationEnd) .property .property
        (holder ++ [.type i]) home fun _ _ => rfl
      refine ⟨home, ?_⟩
      rw [settleElement, Element.parts_classifier, Element.steps, List.map_append, List.map_append,
        ← properties, ← operations, ← ends]
      cases body <;> rfl
    | _ => exact suits.elim
  | operation o =>
    cases step with
    | operation i =>
      refine ⟨home, ?_⟩
      rw [settleElement, Element.parts_operation]
      exact numberedParts_settleList .parameter _ .parameter .parameter _ _ (fun _ _ => rfl) o.parameters
    | _ => exact suits.elim
  | property p => exact ⟨home, rfl⟩
  | parameter r => exact ⟨home, rfl⟩

/-- All that a settled element holds: the element itself, and all that its parts hold, settled. -/
theorem all_settleElement {e : Element ι ρ} (suits : step.Suits e) :
    ∃ names, (settleElement holder home step e).all = settleElement holder home step e ::
      e.steps.flatMap fun (next, c) => (settleElement (holder ++ [step]) names next c).all := by
  obtain ⟨names, parts⟩ := parts_settleElement holder home suits
  refine ⟨names, ?_⟩
  rw [Element.all_eq, parts, List.flatMap_map]

/-- As much is in a settled element as was in it. -/
theorem length_all_settleElement {e : Element ι ρ} (suits : step.Suits e) :
    (settleElement holder home step e).all.length = e.all.length := by
  induction e using Element.induction generalizing holder home step with
  | step e ih =>
    obtain ⟨names, all⟩ := all_settleElement holder home suits
    rw [all, Element.all_eq, Element.parts, List.flatMap_map, List.length_cons, List.length_cons,
      List.length_flatMap, List.length_flatMap]
    congr 2
    refine List.map_congr_left fun part among => ?_
    exact ih part.2 (List.mem_map_of_mem among) _ _ (Element.suits_of_mem_steps among)

/-- Elements that different steps lead to have different keys, with all that they hold. -/
theorem nodup_keys_parts {path : Path} {names : List String} {parts : List (Step × Element ι ρ)}
    (apart : (parts.map Prod.fst).Nodup)
    (inside : ∀ part ∈ parts, ((settleElement path names part.1 part.2).all.map (·.place.key)).Nodup ∧
      ∀ s ∈ (settleElement path names part.1 part.2).all, s.place.key.Under path part.1) :
    ((parts.flatMap fun (next, c) => (settleElement path names next c).all).map (·.place.key)).Nodup := by
  have held {part : Step × Element ι ρ} (among : part ∈ parts) {key : Key}
      (there : key ∈ (settleElement path names part.1 part.2).all.map (·.place.key)) :
      key.Under path part.1 := by
    obtain ⟨s, holds, rfl⟩ := List.mem_map.1 there
    exact (inside part among).2 s holds
  rw [List.map_flatMap, List.nodup_flatMap]
  refine ⟨fun part among => (inside part among).1, ?_⟩
  refine (List.pairwise_map.1 apart).imp_of_mem fun among among' differ key there there' => ?_
  exact differ ((held among there).step_eq (held among' there'))

/-- The elements of a settled element have different keys, which all lead through the element. -/
theorem nodup_keys_settleElement {e : Element ι ρ} (suits : step.Suits e) :
    ((settleElement holder home step e).all.map (·.place.key)).Nodup ∧
      ∀ s ∈ (settleElement holder home step e).all, s.place.key.Under holder step := by
  induction e using Element.induction generalizing holder home step with
  | step e ih =>
    obtain ⟨names, all⟩ := all_settleElement holder home suits
    have inside (part : Step × Element ι ρ) (among : part ∈ e.steps) :=
      ih part.2 (List.mem_map_of_mem among) (holder ++ [step]) names (Element.suits_of_mem_steps among)
    have here := key_settleElement holder home suits
    rw [all]
    refine ⟨?_, List.forall_mem_cons.2 ⟨here ▸ .here holder step, fun s there => ?_⟩⟩
    · rw [List.map_cons, List.nodup_cons, here]
      refine ⟨fun there => ?_, nodup_keys_parts e.nodup_steps inside⟩
      obtain ⟨s, among, same⟩ := List.mem_map.1 there
      obtain ⟨part, within, holds⟩ := List.mem_flatMap.1 among
      obtain ⟨rest, under⟩ := (inside part within).2 s holds
      simp [under] at same
    · obtain ⟨part, among, there⟩ := List.mem_flatMap.1 there
      exact ((inside part among).2 s there).up

end

end Linking

/-! ## Elements and their places side by side -/

open Linking

/-- What items give in pairs of equal length can be zipped item by item. -/
theorem zip_flatMap {α β γ : Type} {f : α → List β} {g : α → List γ} {xs : List α}
    (even : ∀ x ∈ xs, (f x).length = (g x).length) :
    (xs.flatMap f).zip (xs.flatMap g) = xs.flatMap fun x => (f x).zip (g x) := by
  induction xs with
  | nil => rfl
  | cons x rest ih =>
    rw [List.forall_mem_cons] at even
    rw [List.flatMap_cons, List.flatMap_cons, List.flatMap_cons, List.zip_append even.1, ih even.2]

/-- The elements of an element beside themselves in their places. -/
theorem zip_all_settleElement (holder : Path) (home : List String) {step : Step} {e : Element ι ρ}
    (suits : step.Suits e) :
    ∃ names, e.all.zip (settleElement holder home step e).all = (e, settleElement holder home step e) ::
      e.steps.flatMap fun (next, c) => c.all.zip (settleElement (holder ++ [step]) names next c).all := by
  obtain ⟨names, all⟩ := all_settleElement holder home suits
  refine ⟨names, ?_⟩
  rw [all, Element.all_eq, Element.parts, List.flatMap_map, List.zip_cons_cons, zip_flatMap]
  intro part among
  exact (length_all_settleElement _ _ (Element.suits_of_mem_steps among)).symm

/-- The packages at the top of a model, each with the step that leads to it. -/
def Model.steps (m : Model ι ρ) : List (Step × Element ι ρ) := numberedParts .package .package m.packages

namespace Model

variable {m : Model ι ρ} {path : Path} {e : Element ι ρ} {around : List (Element ι ρ)}

/-- The first steps into a model lead to its packages. -/
theorem mem_steps {step : Step} (there : (step, e) ∈ m.steps) : m.At [step] e [] := by
  obtain ⟨i, p, found, same⟩ := mem_numberedParts.1 there
  obtain ⟨rfl, rfl⟩ := Prod.mk.inj same
  exact .top found

/-- The step to a package of a model suits it. -/
theorem suits_of_mem_steps {step : Step} (there : (step, e) ∈ m.steps) : step.Suits e :=
  suits_of_mem_numberedParts there fun _ _ => trivial

/-- The elements of a model are what its first steps lead to. -/
theorem elements_eq_steps (m : Model ι ρ) : m.elements = m.steps.flatMap fun part => part.2.all := by
  rw [elements_eq, steps, ← numberedParts_map_snd, List.flatMap_map]

/-- The elements of a settled model are what its first steps lead to, settled. -/
theorem elements_settle (m : Model ι ρ) :
    (settle m).elements = m.steps.flatMap fun (step, c) => (settleElement [] [] step c).all := by
  have settled := numberedParts_settleList .package (settlePackage [] []) .package .package [] []
    (fun _ _ => rfl) m.packages
  rw [settleList] at settled
  rw [elements_eq, settle, settlePackages_eq, settled, List.flatMap_map, steps]

/-- The elements of a model are zipped with the settled ones step by step. -/
theorem zip_settle (m : Model ι ρ) :
    m.elements.zip (settle m).elements =
      m.steps.flatMap fun (step, c) => c.all.zip (settleElement [] [] step c).all := by
  rw [elements_settle, elements_eq_steps, zip_flatMap]
  intro part among
  exact (length_all_settleElement _ _ (suits_of_mem_steps among)).symm

/-- A settled model has as many elements. -/
theorem length_settle (m : Model ι ρ) : (settle m).elements.length = m.elements.length := by
  rw [elements_settle, elements_eq_steps, List.length_flatMap, List.length_flatMap]
  congr 1
  exact List.map_congr_left fun part among => length_all_settleElement _ _ (suits_of_mem_steps among)

/-- The elements of a settled model have different positions. -/
theorem nodup_keys_settle (m : Model ι ρ) :
    ((settle m).elements.map (·.place.key)).Nodup ∧
      ∀ s ∈ (settle m).elements, ∃ path, s.place.key = .inside path := by
  have inside (part : Step × Element ι ρ) (among : part ∈ m.steps) :=
    nodup_keys_settleElement [] [] (suits_of_mem_steps among)
  have apart : (m.steps.map Prod.fst).Nodup := nodup_numberedParts fun i j same => Step.package.inj same
  rw [elements_settle]
  refine ⟨nodup_keys_parts apart inside, fun s there => ?_⟩
  obtain ⟨part, among, holds⟩ := List.mem_flatMap.1 there
  obtain ⟨rest, under⟩ := (inside part among).2 s holds
  exact ⟨_, under⟩

/-- An element and its settled form are on the same path. -/
theorem at_of_mem_zip_all {holder : Path} {home : List String} {step : Step} {x : Element ι ρ}
    {s : Element Place ρ} (there : m.At (holder ++ [step]) e around) (suits : step.Suits e)
    (pair : (x, s) ∈ e.all.zip (settleElement holder home step e).all) :
    ∃ path around', m.At path x around' ∧ s.place.key = .inside path := by
  induction e using Element.induction generalizing holder home step around with
  | step e ih =>
    obtain ⟨names, zipped⟩ := zip_all_settleElement holder home suits
    rw [zipped] at pair
    rcases List.mem_cons.1 pair with same | inside
    · obtain ⟨rfl, rfl⟩ := Prod.mk.inj same
      exact ⟨_, _, there, key_settleElement _ _ suits⟩
    · obtain ⟨part, among, inside⟩ := List.mem_flatMap.1 inside
      exact ih part.2 (List.mem_map_of_mem among) (.part there among) (Element.suits_of_mem_steps among)
        inside

/-- An element stands beside itself in a place whose key is a position of the element. -/
theorem at_of_mem_zip {s : Element Place ρ} (pair : (e, s) ∈ m.elements.zip (settle m).elements) :
    ∃ path around, m.At path e around ∧ s.place.key = .inside path := by
  rw [zip_settle] at pair
  obtain ⟨part, among, inside⟩ := List.mem_flatMap.1 pair
  exact at_of_mem_zip_all (mem_steps among) (suits_of_mem_steps among) inside

/-- An element at a position stands beside itself in a place whose key is the position. -/
theorem mem_zip_of_at (there : m.At path e around) :
    ∃ s, (e, s) ∈ m.elements.zip (settle m).elements ∧ s.place.key = .inside path := by
  -- With the element all that it holds stands there, each beside itself in its place.
  have inside : ∃ holder home step, path = holder ++ [step] ∧ step.Suits e ∧
      ∀ pair ∈ e.all.zip (settleElement holder home step e).all,
        pair ∈ m.elements.zip (settle m).elements := by
    induction there with
    | @top i p found =>
      have among : (Step.package i, Element.package p) ∈ m.steps :=
        mem_numberedParts.2 ⟨i, p, found, rfl⟩
      refine ⟨[], [], .package i, rfl, trivial, fun pair within => ?_⟩
      rw [zip_settle]
      exact List.mem_flatMap.2 ⟨_, among, within⟩
    | @part path e c around next outer leads ih =>
      obtain ⟨holder, home, step, rfl, suits, all⟩ := ih
      obtain ⟨names, zipped⟩ := zip_all_settleElement holder home suits
      refine ⟨_, names, next, rfl, Element.suits_of_mem_steps leads, fun pair within => all pair ?_⟩
      rw [zipped]
      exact List.mem_cons_of_mem _ (List.mem_flatMap.2 ⟨_, leads, within⟩)
  obtain ⟨holder, home, step, rfl, suits, all⟩ := inside
  refine ⟨settleElement holder home step e, all _ ?_, key_settleElement _ _ suits⟩
  obtain ⟨names, zipped⟩ := zip_all_settleElement holder home suits
  rw [zipped]
  exact List.mem_cons_self

end Model

end ClassDiagram
