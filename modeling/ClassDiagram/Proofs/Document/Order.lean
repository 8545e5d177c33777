import ClassDiagram.Document.Order
import ClassDiagram.Proofs.Fallible
import Mathlib.Data.List.InsertIdx
import Mathlib.Data.List.Perm.Basic
import Mathlib.Order.Lattice

/-!
# Values in order

Sorting does not fail on values that can all be compared, and gives these values in order.  The values in front that
are in order are taken as they are (`firstRun_map`), and each one after them goes where all before it are not above it
and all behind it are (`place_map`).
-/

set_option autoImplicit false

namespace ClassDiagram.Sorting

/-! ## Items in any order -/

section

variable {α : Type} {below : α → α → Except Misfit Bool}

/-- No item is lost where a rising run is taken. -/
theorem perm_of_risingFrom {last : α} {run rest front back : List α}
    (given : risingFrom below last run rest = .ok (front, back)) : (front ++ back).Perm (last :: run ++ rest) := by
  have stop : ∀ rest, ((last :: run).reverse ++ rest).Perm (last :: run ++ rest) := fun rest =>
    (List.reverse_perm _).append_right rest
  induction rest generalizing last run with
  | nil =>
    obtain ⟨rfl, rfl⟩ := Prod.ext_iff.1 (Except.ok.inj given)
    exact stop []
  | cons item rest ih =>
    obtain ⟨falls, -, given⟩ := bind_eq_ok.1 given
    cases falls with
    | true =>
      obtain ⟨rfl, rfl⟩ := Prod.ext_iff.1 (Except.ok.inj given)
      exact stop (item :: rest)
    | false =>
      have shifted : (last :: run ++ item :: rest).Perm (item :: (last :: run) ++ rest) := List.perm_middle
      exact (ih given fun rest => (List.reverse_perm _).append_right rest).trans shifted.symm

/-- No item is lost where a falling run is taken. -/
theorem perm_of_fallingFrom {last : α} {run rest front back : List α}
    (given : fallingFrom below last run rest = .ok (front, back)) : (front ++ back).Perm (last :: run ++ rest) := by
  induction rest generalizing last run with
  | nil =>
    obtain ⟨rfl, rfl⟩ := Prod.ext_iff.1 (Except.ok.inj given)
    exact .refl _
  | cons item rest ih =>
    obtain ⟨falls, -, given⟩ := bind_eq_ok.1 given
    cases falls with
    | true =>
      have shifted : (last :: run ++ item :: rest).Perm (item :: (last :: run) ++ rest) := List.perm_middle
      exact (ih given).trans shifted.symm
    | false =>
      obtain ⟨rfl, rfl⟩ := Prod.ext_iff.1 (Except.ok.inj given)
      exact .refl _

/-- No item is lost where the first run is taken. -/
theorem perm_of_firstRun {items front back : List α} (given : firstRun below items = .ok (front, back)) :
    (front ++ back).Perm items := by
  match items with
  | [] | [_] =>
    obtain ⟨rfl, rfl⟩ := Prod.ext_iff.1 (Except.ok.inj given)
    exact .refl _
  | first :: second :: rest =>
    obtain ⟨falls, -, given⟩ := bind_eq_ok.1 given
    cases falls with
    | true => exact (perm_of_fallingFrom given).trans (.swap ..)
    | false => exact (perm_of_risingFrom given).trans (.swap ..)

/-- Nothing but the item is put among others. -/
theorem mem_of_place {items placed : List α} {item : α} (put : place below items item = .ok placed) :
    ∀ a ∈ placed, a = item ∨ a ∈ items := by
  obtain ⟨i, -, same⟩ := bind_eq_ok.1 put
  obtain rfl := Except.ok.inj same
  exact fun a => List.eq_or_mem_of_mem_insertIdx

/-- Sorting gives no other items than it takes, whatever the comparison says. -/
theorem mem_of_sort {items sorted : List α} (given : sort below items = .ok sorted) : ∀ a ∈ sorted, a ∈ items := by
  obtain ⟨⟨run, rest⟩, parted, given⟩ := bind_eq_ok.1 given
  replace given : rest.foldlM (place below) run = .ok sorted := given
  have whole : ∀ a ∈ run ++ rest, a ∈ items := fun a => (perm_of_firstRun parted).mem_iff.1
  clear parted
  induction rest generalizing run with
  | nil =>
    obtain rfl := Except.ok.inj given
    simpa using whole
  | cons item rest ih =>
    rw [List.foldlM_cons] at given
    obtain ⟨placed, put, given⟩ := bind_eq_ok.1 given
    refine ih _ given (List.forall_mem_append.2 ⟨fun a among => whole a ?_, fun a later => whole a ?_⟩)
    · rcases mem_of_place put a among with rfl | earlier
      · exact List.mem_append_right _ List.mem_cons_self
      · exact List.mem_append_left _ earlier
    · exact List.mem_append_right _ (List.mem_cons_of_mem _ later)

end

/-! ## Items that can be compared -/

/- The items are the images of keys under `f`, and the comparison goes by the keys. -/
variable {α κ : Type} [LinearOrder κ] {below : α → α → Except Misfit Bool} {f : κ → α}
  (orders : ∀ x y, below (f x) (f y) = .ok (decide (x < y)))
include orders

/-- A run that rises is taken as far as it goes, in order, and no item is lost. -/
theorem risingFrom_map {last : κ} {run : List κ} (rest : List κ) (rises : (last :: run).Pairwise (· ≥ ·)) :
    ∃ front back : List κ, risingFrom below (f last) (run.map f) (rest.map f) = .ok (front.map f, back.map f) ∧
      front.Pairwise (· ≤ ·) ∧ (front ++ back).Perm (last :: run ++ rest) := by
  have whole : (last :: run).reverse.Pairwise (· ≤ ·) := List.pairwise_reverse.2 rises
  have stop : ∀ rest, ((last :: run).reverse ++ rest).Perm (last :: run ++ rest) := fun rest =>
    (List.reverse_perm _).append_right rest
  induction rest generalizing last run with
  | nil => exact ⟨_, [], by rw [List.map_reverse]; rfl, whole, stop []⟩
  | cons item rest ih =>
    rw [List.map_cons, risingFrom, orders]
    by_cases falls : item < last
    · rw [decide_eq_true falls]
      exact ⟨_, item :: rest, by rw [List.map_reverse]; rfl, whole, stop _⟩
    · rw [decide_eq_false falls]
      have rises' : (item :: last :: run).Pairwise (· ≥ ·) := by
        refine List.pairwise_cons.2 ⟨List.forall_mem_cons.2 ⟨not_lt.1 falls, fun x among => ?_⟩, rises⟩
        exact (List.rel_of_pairwise_cons rises among).trans (not_lt.1 falls)
      obtain ⟨front, back, same, inOrder, perm⟩ := ih rises' (List.pairwise_reverse.2 rises') fun rest =>
        (List.reverse_perm _).append_right rest
      have shifted : (last :: run ++ item :: rest).Perm (item :: (last :: run) ++ rest) := List.perm_middle
      exact ⟨front, back, same, inOrder, perm.trans shifted.symm⟩

/-- A run that falls is taken as far as it goes and turned round, and no item is lost. -/
theorem fallingFrom_map {last : κ} {run : List κ} (rest : List κ) (rises : (last :: run).Pairwise (· ≤ ·)) :
    ∃ front back : List κ, fallingFrom below (f last) (run.map f) (rest.map f) = .ok (front.map f, back.map f) ∧
      front.Pairwise (· ≤ ·) ∧ (front ++ back).Perm (last :: run ++ rest) := by
  induction rest generalizing last run with
  | nil => exact ⟨_, [], rfl, rises, .refl _⟩
  | cons item rest ih =>
    rw [List.map_cons, fallingFrom, orders]
    by_cases falls : item < last
    · rw [decide_eq_true falls]
      have rises' : (item :: last :: run).Pairwise (· ≤ ·) := by
        refine List.pairwise_cons.2 ⟨List.forall_mem_cons.2 ⟨falls.le, fun x among => ?_⟩, rises⟩
        exact falls.le.trans (List.rel_of_pairwise_cons rises among)
      obtain ⟨front, back, same, inOrder, perm⟩ := ih rises'
      have shifted : (last :: run ++ item :: rest).Perm (item :: (last :: run) ++ rest) := List.perm_middle
      exact ⟨front, back, same, inOrder, perm.trans shifted.symm⟩
    · rw [decide_eq_false falls]
      exact ⟨_, item :: rest, rfl, rises, .refl _⟩

/-- The first run of some items is in order, and no item is lost. -/
theorem firstRun_map (items : List κ) :
    ∃ front back : List κ, firstRun below (items.map f) = .ok (front.map f, back.map f) ∧
      front.Pairwise (· ≤ ·) ∧ (front ++ back).Perm items := by
  match items with
  | [] => exact ⟨[], [], rfl, .nil, .refl _⟩
  | [item] => exact ⟨[item], [], rfl, List.pairwise_singleton .., .refl _⟩
  | first :: second :: rest =>
    rw [List.map_cons, List.map_cons, firstRun, orders]
    by_cases falls : second < first
    · rw [decide_eq_true falls]
      have rises : [second, first].Pairwise (· ≤ ·) := List.pairwise_pair.2 falls.le
      obtain ⟨front, back, same, inOrder, perm⟩ := fallingFrom_map orders rest rises
      exact ⟨front, back, same, inOrder, perm.trans (.swap ..)⟩
    · rw [decide_eq_false falls]
      have rises : [second, first].Pairwise (· ≥ ·) := List.pairwise_pair.2 (not_lt.1 falls)
      obtain ⟨front, back, same, inOrder, perm⟩ := risingFrom_map orders rest rises
      exact ⟨front, back, same, inOrder, perm.trans (.swap ..)⟩

/-- The place that is found parts the items: those before it are not above the item, and those behind it are. -/
theorem placeBetween_map (item : κ) {sorted : List κ} (inOrder : sorted.Pairwise (· ≤ ·)) (low high : Nat)
    (bounds : low ≤ high ∧ high ≤ sorted.length) (before : ∀ x ∈ sorted.take low, x ≤ item)
    (behind : ∀ x ∈ sorted.drop high, item < x) :
    ∃ i ≤ sorted.length, placeBetween below (f item) (sorted.map f).toArray low high = .ok i ∧
      (∀ x ∈ sorted.take i, x ≤ item) ∧ ∀ x ∈ sorted.drop i, item < x := by
  rw [placeBetween]
  split
  · next apart =>
    have inside : low + (high - low) / 2 < sorted.length := by omega
    generalize mid : low + (high - low) / 2 = middle at inside
    have found : (sorted.map f).toArray[middle]? = some (f sorted[middle]) := by simp [inside]
    dsimp only
    rw [found]
    change ∃ i ≤ _, (below (f item) (f sorted[middle]) >>= fun lower => _) = _ ∧ _
    rw [orders]
    by_cases lower : item < sorted[middle]
    · rw [decide_eq_true lower]
      refine placeBetween_map item inOrder low middle (by omega) before fun x among => ?_
      rw [List.drop_eq_getElem_cons inside] at among
      obtain rfl | later := List.mem_cons.1 among
      · exact lower
      · have pairs := inOrder.sublist (List.drop_sublist middle sorted)
        rw [List.drop_eq_getElem_cons inside] at pairs
        exact lower.trans_le (List.rel_of_pairwise_cons pairs later)
    · rw [decide_eq_false lower]
      refine placeBetween_map item inOrder (middle + 1) high (by omega) (fun x among => ?_) behind
      have pairs := inOrder.sublist (List.take_sublist (middle + 1) sorted)
      rw [List.take_succ_eq_append_getElem inside] at among pairs
      obtain earlier | rest := List.mem_append.1 among
      · exact ((List.pairwise_append.1 pairs).2.2 x earlier _ (List.mem_singleton.2 rfl)).trans (not_lt.1 lower)
      · exact List.mem_singleton.1 rest ▸ not_lt.1 lower
  · next together =>
    obtain rfl : low = high := by omega
    exact ⟨low, bounds.2, rfl, before, behind⟩
termination_by high - low

/-- An item that is put among others in order leaves them in order, and no item is lost. -/
theorem place_map {sorted : List κ} (item : κ) (inOrder : sorted.Pairwise (· ≤ ·)) :
    ∃ placed : List κ, place below (sorted.map f) (f item) = .ok (placed.map f) ∧
      placed.Pairwise (· ≤ ·) ∧ placed.Perm (item :: sorted) := by
  obtain ⟨i, inside, found, before, behind⟩ := placeBetween_map orders item inOrder 0 sorted.length
    ⟨Nat.zero_le _, Nat.le_refl _⟩ (by simp) (by simp)
  refine ⟨sorted.insertIdx i item, ?_, ?_, List.perm_insertIdx item sorted inside⟩
  · rw [place, List.length_map, found, List.map_insertIdx]
    rfl
  · have parted : sorted.insertIdx i item = sorted.take i ++ item :: sorted.drop i := by
      apply List.ext_getElem <;> grind
    have halves := inOrder
    rw [← List.take_append_drop i sorted, List.pairwise_append] at halves
    rw [parted]
    refine List.pairwise_append.2 ⟨halves.1, List.pairwise_cons.2 ⟨fun x later => (behind x later).le, halves.2.1⟩, ?_⟩
    exact fun x earlier => List.forall_mem_cons.2 ⟨before x earlier, halves.2.2 x earlier⟩

/-- Sorting gives the items in order. -/
theorem sort_map (items : List κ) :
    ∃ sorted : List κ, sort below (items.map f) = .ok (sorted.map f) ∧ sorted.Pairwise (· ≤ ·) ∧ sorted.Perm items := by
  obtain ⟨front, back, parted, inOrder, perm⟩ := firstRun_map orders items
  have each : ∀ back front : List κ, front.Pairwise (· ≤ ·) → ∃ sorted : List κ,
      (back.map f).foldlM (place below) (front.map f) = .ok (sorted.map f) ∧
        sorted.Pairwise (· ≤ ·) ∧ sorted.Perm (front ++ back) := by
    intro back
    induction back with
    | nil => exact fun front inOrder => ⟨front, rfl, inOrder, by rw [List.append_nil]⟩
    | cons item rest ih =>
      intro front inOrder
      obtain ⟨placed, put, inOrder', perm'⟩ := place_map orders item inOrder
      obtain ⟨sorted, rested, inOrder'', perm''⟩ := ih placed inOrder'
      refine ⟨sorted, ?_, inOrder'', perm''.trans ((perm'.append_right rest).trans List.perm_middle.symm)⟩
      rw [List.map_cons, List.foldlM_cons, put]
      exact rested
  obtain ⟨sorted, rested, inOrder', perm'⟩ := each back front inOrder
  refine ⟨sorted, ?_, inOrder', perm'.trans perm⟩
  rw [sort, parted]
  exact rested

end ClassDiagram.Sorting
