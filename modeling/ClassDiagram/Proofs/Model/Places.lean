import ClassDiagram.Linking
import Mathlib.Data.List.Basic
import Mathlib.Data.List.Nodup

/-!
# Places

Settling gives no two types of a model one key, and gives each end of an association the association as
its holder and a key that its other ends do not have.
-/

set_option autoImplicit false

namespace ClassDiagram

variable {ι ρ : Type}

/-- The types of packages and of all packages in them. -/
def typesIn (ps : List (Package ι ρ)) : List (Classifier ι ρ) := (allPackages ps).flatMap (·.types)

/-- There are no types in no packages. -/
@[simp] theorem typesIn_nil : typesIn ([] : List (Package ι ρ)) = [] := rfl

/-- The types in packages are those of the first, those inside it and those in the others. -/
theorem typesIn_cons (place : ι) (name : String) (packages rest : List (Package ι ρ))
    (types : List (Classifier ι ρ)) :
    typesIn (⟨place, name, packages, types⟩ :: rest) =
      types ++ (typesIn packages ++ typesIn rest) := by
  simp [typesIn, allPackages, Package.all]

/-! ## Keys -/

/-- Whether a key is of something that a step from a position leads to or is on the way to. -/
def Key.Under (k : Key) (holder : Path) (step : Step) : Prop :=
  ∃ rest, k = .inside (holder ++ step :: rest)

namespace Key.Under

variable {k : Key} {holder : Path} {step step' : Step}

/-- The key of a part is under the step to it. -/
theorem here (holder : Path) (step : Step) : Key.Under (.inside (holder ++ [step])) holder step :=
  ⟨[], rfl⟩

/-- What is under a step is under the steps before. -/
theorem up (under : k.Under (holder ++ [step]) step') : k.Under holder step := by
  obtain ⟨rest, rfl⟩ := under
  exact ⟨step' :: rest, by simp⟩

/-- The way to an element takes one step from a position. -/
theorem step_eq (first : k.Under holder step) (second : k.Under holder step') : step = step' := by
  obtain ⟨rest, rfl⟩ := first
  obtain ⟨rest', same⟩ := second
  have steps : step = step' ∧ rest = rest' := by simpa using same
  exact steps.1

end Key.Under

namespace Linking

/-- Elements that are settled one after the other have different keys, where their positions give them. -/
theorem nodup_settleList {α β γ : Type} (settle : Nat → α → β) (key : β → γ) {position : Nat → γ}
    (keyed : ∀ i a, key (settle i a) = position i) (apart : Function.Injective position)
    (items : List α) : ((settleList settle items).map key).Nodup := by
  have positions : (settleList settle items).map key = (List.range' 0 items.length).map position := by
    rw [settleList, List.map_map, ← List.zipIdx_map_snd, List.map_map]
    exact List.map_congr_left fun pair _ => keyed pair.2 pair.1
  rw [positions]
  exact List.Nodup.map apart List.nodup_range'

/-- Items that are settled are the items at their places. -/
theorem mem_settleList {α β : Type} {settle : Nat → α → β} {items : List α} {b : β}
    (there : b ∈ settleList settle items) : ∃ i a, b = settle i a := by
  obtain ⟨pair, _, rfl⟩ := List.mem_map.1 there
  exact ⟨pair.2, pair.1, rfl⟩

/-- The types of settled packages have different keys, which lead through the packages. -/
theorem keys_settlePackages (holder : Path) (home : List String) (i : Nat) :
    (ps : List (Package ι ρ)) →
      ((typesIn (settlePackages holder home i ps)).map (·.key)).Nodup ∧
        ∀ t ∈ typesIn (settlePackages holder home i ps), ∃ j, i ≤ j ∧ t.key.Under holder (.package j)
  | [] => by simp [settlePackages]
  | ⟨_, name, packages, types⟩ :: rest => by
    rw [settlePackages, settlePackage, typesIn_cons]
    generalize hpath : holder ++ [Step.package i] = path
    obtain ⟨nodupIn, underIn⟩ := keys_settlePackages path (home ++ [name]) 0 packages
    obtain ⟨nodupAfter, underAfter⟩ := keys_settlePackages holder home (i + 1) rest
    have nodupHere : ((settleList (settleType path (home ++ [name])) types).map (·.key)).Nodup := by
      refine nodup_settleList (settleType path (home ++ [name])) (·.key) (fun _ _ => rfl) ?_ types
      intro n n' same
      simpa using same
    have underHere (t : Classifier Place ρ)
        (there : t ∈ settleList (settleType path (home ++ [name])) types) :
        ∃ n, t.key.Under path (.type n) := by
      obtain ⟨n, t, rfl⟩ := mem_settleList there
      exact ⟨n, .here path _⟩
    -- What this package holds, and what the packages after it hold, is under different steps.
    have underThis (t : Classifier Place ρ)
        (there : t ∈ settleList (settleType path (home ++ [name])) types ∨
          t ∈ typesIn (settlePackages path (home ++ [name]) 0 packages)) :
        t.key.Under holder (.package i) := by
      rcases there with among | below
      · obtain ⟨n, under⟩ := underHere t among
        exact (hpath ▸ under).up
      · obtain ⟨j, _, under⟩ := underIn t below
        exact (hpath ▸ under).up
    refine ⟨?_, fun t there => ?_⟩
    · simp only [List.map_append, List.nodup_append, List.mem_append, List.mem_map]
      refine ⟨nodupHere, ⟨nodupIn, nodupAfter, ?_⟩, ?_⟩
      · rintro _ ⟨t, below, rfl⟩ _ ⟨t', after, rfl⟩ same
        obtain ⟨j, le, under⟩ := underAfter t' after
        have := Key.Under.step_eq (same ▸ underThis t (.inr below)) under
        simp only [Step.package.injEq] at this
        omega
      · rintro _ ⟨t, among, rfl⟩ _ (⟨t', below, rfl⟩ | ⟨t', after, rfl⟩) same
        · obtain ⟨n, under⟩ := underHere t among
          obtain ⟨j, _, under'⟩ := underIn t' below
          exact absurd (Key.Under.step_eq (same ▸ under) under') (by simp)
        · obtain ⟨j, le, under⟩ := underAfter t' after
          have := Key.Under.step_eq (same ▸ underThis t (.inl among)) under
          simp only [Step.package.injEq] at this
          omega
    · rcases List.mem_append.1 there with among | there
      · exact ⟨i, Nat.le_refl i, underThis t (.inl among)⟩
      · rcases List.mem_append.1 there with below | after
        · exact ⟨i, Nat.le_refl i, underThis t (.inr below)⟩
        · obtain ⟨j, le, under⟩ := underAfter t after
          exact ⟨j, by omega, under⟩

/-- No two types of a settled model have one key. -/
theorem nodup_keys_settle (m : Model ι ρ) : ((settle m).types.map (·.key)).Nodup :=
  (keys_settlePackages [] [] 0 m.packages).1

/-! ## Ends -/

/-- Every type of settled packages was settled in its place. -/
theorem mem_settlePackages (holder : Path) (home : List String) (i : Nat) :
    (ps : List (Package ι ρ)) → ∀ t ∈ typesIn (settlePackages holder home i ps),
      ∃ path names n t', t = settleType path names n (t' : Classifier ι ρ)
  | [] => by simp [settlePackages]
  | ⟨_, name, packages, types⟩ :: rest => by
    intro t there
    rw [settlePackages, settlePackage, typesIn_cons] at there
    rcases List.mem_append.1 there with among | there
    · obtain ⟨n, t', rfl⟩ := mem_settleList among
      exact ⟨_, _, n, t', rfl⟩
    · rcases List.mem_append.1 there with below | after
      · exact mem_settlePackages _ _ 0 packages t below
      · exact mem_settlePackages holder home (i + 1) rest t after

/-- The ends of a type in its place are settled under it. -/
theorem ends_settleType (holder : Path) (home : List String) (i : Nat) (t : Classifier ι ρ) :
    (settleType holder home i t).ends =
      settleList (settleProperty (holder ++ [.type i]) home .associationEnd) t.ends := by
  obtain ⟨_, _, body⟩ := t
  cases body <;> rfl

/-- The ends of an association of a settled model have the association as their holder. -/
theorem holder_settle {m : Model ι ρ} {t : Classifier Place ρ} (there : t ∈ (settle m).types)
    {e : Property Place ρ} (among : e ∈ t.ends) : e.place.holder = some t.key := by
  obtain ⟨path, names, n, t', rfl⟩ := mem_settlePackages [] [] 0 m.packages t there
  rw [ends_settleType] at among
  obtain ⟨j, e', rfl⟩ := mem_settleList among
  rfl

/-- The ends of an association of a settled model have different keys. -/
theorem nodup_ends_settle {m : Model ι ρ} {t : Classifier Place ρ} (there : t ∈ (settle m).types) :
    (t.ends.map (·.place.key)).Nodup := by
  obtain ⟨path, names, n, t', rfl⟩ := mem_settlePackages [] [] 0 m.packages t there
  rw [ends_settleType]
  refine nodup_settleList (settleProperty _ names .associationEnd) (·.place.key) (fun _ _ => rfl) ?_ t'.ends
  intro j j' same
  simpa using same

end Linking

end ClassDiagram
