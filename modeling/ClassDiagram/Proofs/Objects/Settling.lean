import ClassDiagram.Proofs.Objects.Conduct
import ClassDiagram.Proofs.Objects.Paired

/-!
# How calls of accessors settle

What a call with all calls that it makes does to a paired heap, given as writes and entries.  A call on a
member with an opposite end goes through at most seven accessors, whatever else is in the heap: it gives
up what is in its way on either side (`evict`), and then ends or begins one link (`part`, `join`).

The module is a ladder.  `Settles.removeFrom`, `Settles.addTo`, `Settles.set_none`, `Settles.set_some` and
`Settles.set_other` reduce a call to the calls that it makes; `settles_unlinking` and `settles_linking` are
what the other object does when it is called back; the last section has the calls from outside.
-/

set_option autoImplicit false

namespace ClassDiagram.Objects

open Heap (Entry)

/-- An exchange of calls is done: it needs no more than a number of levels of calls, and leaves another
heap and no more than a number of further entries. -/
def Settles (exchange : Nat → Heap → Outcome) (h : Heap) (levels entries : Nat) (h' : Heap) : Prop :=
  ∃ es : List Entry, es.length ≤ entries ∧
    ∀ n before, exchange (n + levels) (h.recordAll before) = .done (h'.recordAll (before ++ es))

/-- The exchange that begins with a call. -/
def calling (c : Call) : Nat → Heap → Outcome := fun n h => run n h c

/-- The exchange that begins with the call of an object on another one, if there is one to make. -/
def passing (next : Option PartnerCall) (receiver self : Nat) : Nat → Heap → Outcome :=
  fun n h => passOn (run n) h next receiver self

variable {h h' h₁ : Heap} {x y v old : Nat} {r o : String} {s t : Slot} {k k' d d' : Nat}

/-- An exchange is also done within more levels and more entries. -/
theorem Settles.mono {exchange : Nat → Heap → Outcome} (settled : Settles exchange h d k h')
    (levels : d ≤ d') (entries : k ≤ k') : Settles exchange h d' k' h' := by
  obtain ⟨es, count, done⟩ := settled
  refine ⟨es, Nat.le_trans count entries, fun n before => ?_⟩
  obtain ⟨more, rfl⟩ := Nat.exists_eq_add_of_le levels
  rw [Nat.add_comm d, ← Nat.add_assoc]
  exact done (n + more) before

/-- Where there is no call to make, nothing is done. -/
theorem settles_passing_none (h : Heap) (receiver self : Nat) :
    Settles (passing none receiver self) h 0 0 h :=
  ⟨[], Nat.le_refl 0, fun n before => by simp [passing, passOn]⟩

/-- There is always fuel for eight levels of calls. -/
theorem Heap.eight_le_enoughFuel (h : Heap) : 8 ≤ h.enoughFuel := by
  simp only [Heap.enoughFuel, Nat.pow_eq, Nat.pow_two]
  exact Nat.mul_le_mul_left 2 (Nat.mul_le_mul (Nat.le_add_left 2 _) (Nat.le_add_left 2 _))

/-- An exchange that settles within the fuel that there always is. -/
theorem Settles.perform {levels entries : Nat} {c : Call}
    (settled : Settles (calling c) h levels entries h') (few : levels ≤ 8) :
    ∃ es : List Entry, es.length ≤ entries ∧ h.perform c = .done (h'.recordAll es) := by
  obtain ⟨es, count, done⟩ := settled
  obtain ⟨more, enough⟩ := Nat.exists_eq_add_of_le' (Nat.le_trans few h.eight_le_enoughFuel)
  refine ⟨es, count, ?_⟩
  rw [Heap.perform, enough]
  exact done more []

/-- An exchange that settles is done as far as it ends. -/
theorem Settles.of_ends {next : Option PartnerCall} {levels entries : Nat}
    (settled : Settles (passing next y x) h levels entries h') (n : Nat) (before : List Entry) :
    (∃ g, passOn (run n) (h.recordAll before) next y x = .unfinished g) ∨
      ∃ es, passOn (run n) (h.recordAll before) next y x = .done (h'.recordAll es) := by
  obtain ⟨es, _, done⟩ := settled
  by_cases ends : ∀ g, passOn (run n) (h.recordAll before) next y x ≠ .unfinished g
  · have same : passOn (run (n + levels)) (h.recordAll before) next y x =
        passOn (run n) (h.recordAll before) next y x :=
      passOn_congr (fun h c ends => run_add_of_ends n levels c ends) ends
    exact .inr ⟨before ++ es, same.symm.trans (done n before)⟩
  · exact .inl (by simpa using ends)

/-! ## One level of calls -/

/-- A `set` of a slot for a single object runs after an entry in the trace. -/
theorem run_set (found : h.slot? x r = some s) {current : Option Nat} (held : s.holding = .one current)
    (n : Nat) (argument : Option Nat) : run (n + 1) h ⟨x, .set, r, argument⟩ =
      runSet (run n) (h.record x .set r) x s current argument := by
  obtain ⟨object, there, named⟩ := Option.bind_eq_some_iff.1 found
  simp only [run, runWith, there, named, held]

/-- An `addTo` of a slot for a list runs after an entry in the trace. -/
theorem run_addTo (found : h.slot? x r = some s) {values : List Nat} (held : s.holding = .many values)
    (n : Nat) (argument : Option Nat) : run (n + 1) h ⟨x, .addTo, r, argument⟩ =
      runAdd (run n) (h.record x .addTo r) x s values argument := by
  obtain ⟨object, there, named⟩ := Option.bind_eq_some_iff.1 found
  simp only [run, runWith, there, named, held]

/-- A `removeFrom` of a slot for a list runs after an entry in the trace. -/
theorem run_removeFrom (found : h.slot? x r = some s) {values : List Nat}
    (held : s.holding = .many values) (n : Nat) (argument : Option Nat) :
    run (n + 1) h ⟨x, .removeFrom, r, argument⟩ =
      runRemove (run n) (h.record x .removeFrom r) x s values argument := by
  obtain ⟨object, there, named⟩ := Option.bind_eq_some_iff.1 found
  simp only [run, runWith, there, named, held]

/-- The entry that a call begins with comes after the entries before it. -/
theorem Heap.record_recordAll (h : Heap) (before : List Entry) (x : Nat) (kind : AccessorKind)
    (r : String) : (h.recordAll before).record x kind r = h.recordAll (before ++ [(x, kind, r)]) := by
  simp [Heap.recordAll]

/-- A call that finds nothing to change is one entry. -/
theorem Settles.of_idle {kind : AccessorKind} {argument : Option Nat}
    (idle : ∀ n before, run (n + 1) (h.recordAll before) ⟨x, kind, r, argument⟩ =
      .done ((h.recordAll before).record x kind r)) :
    Settles (calling ⟨x, kind, r, argument⟩) h 1 1 h :=
  ⟨[(x, kind, r)], Nat.le_refl 1, fun n before => (idle n before).trans
    (congrArg Outcome.done (h.record_recordAll before x kind r))⟩

/-- To set a slot to what it holds changes nothing. -/
theorem settles_set_same (found : h.slot? x r = some s) {current : Option Nat}
    (held : s.holding = .one current) : Settles (calling ⟨x, .set, r, current⟩) h 1 1 h := by
  refine .of_idle fun n before => ?_
  rw [run_set (by rwa [Heap.slot?_recordAll]) held]
  exact if_pos rfl

/-- To add nothing, or what is there, changes nothing. -/
theorem settles_addTo_present (found : h.slot? x r = some s) {values : List Nat}
    (held : s.holding = .many values) {argument : Option Nat} (present : ∀ v ∈ argument, v ∈ values) :
    Settles (calling ⟨x, .addTo, r, argument⟩) h 1 1 h := by
  refine .of_idle fun n before => ?_
  rw [run_addTo (by rwa [Heap.slot?_recordAll]) held]
  cases argument with
  | none => rfl
  | some v => simp [runAdd, present v rfl]

/-- To remove nothing, or what is not there, changes nothing. -/
theorem settles_removeFrom_absent (found : h.slot? x r = some s) {values : List Nat}
    (held : s.holding = .many values) {argument : Option Nat} (absent : ∀ v ∈ argument, v ∉ values) :
    Settles (calling ⟨x, .removeFrom, r, argument⟩) h 1 1 h := by
  refine .of_idle fun n before => ?_
  rw [run_removeFrom (by rwa [Heap.slot?_recordAll]) held]
  cases argument with
  | none => rfl
  | some v => simp [runRemove, absent v rfl]

/-- A call that ends with the call on another object settles as that one does. -/
theorem Settles.of_passing {kind : AccessorKind} {argument : Option Nat} {next : Option PartnerCall}
    (calls : ∀ n before, run (n + 1) (h.recordAll before) ⟨x, kind, r, argument⟩ =
      passOn (run n) (h₁.recordAll (before ++ [(x, kind, r)])) next y x)
    (settled : Settles (passing next y x) h₁ d k h') :
    Settles (calling ⟨x, kind, r, argument⟩) h (d + 1) (k + 1) h' := by
  obtain ⟨es, count, done⟩ := settled
  refine ⟨(x, kind, r) :: es, by simpa using count, fun n before => ?_⟩
  have last := done n (before ++ [(x, kind, r)])
  simp only [passing, List.append_assoc, List.singleton_append] at last
  rw [← Nat.add_assoc, calling, calls, last]

/-- To remove an object from a list takes it out and goes on with the call to unlink. -/
theorem Settles.removeFrom (found : h.slot? x r = some s) {values : List Nat}
    (held : s.holding = .many values) (present : v ∈ values)
    (settled : Settles (passing s.detach v x) (h.adjust x r (·.without v)) d k h') :
    Settles (calling ⟨x, .removeFrom, r, some v⟩) h (d + 1) (k + 1) h' := by
  refine .of_passing (fun n before => ?_) settled
  rw [run_removeFrom (by rwa [Heap.slot?_recordAll]) held, runRemove, if_pos (by simpa using present),
    Heap.record_recordAll, Heap.name_of_slot? found, Heap.hold_recordAll,
    Heap.hold_eq_adjust (Heap.holding?_of_slot found) (·.without v) (by rw [held]; rfl)]

/-- To add an object to a list puts it at the end and goes on with the call to link. -/
theorem Settles.addTo (found : h.slot? x r = some s) {values : List Nat}
    (held : s.holding = .many values) (absent : v ∉ values)
    (settled : Settles (passing s.attach v x) (h.adjust x r (·.including v)) d k h') :
    Settles (calling ⟨x, .addTo, r, some v⟩) h (d + 1) (k + 1) h' := by
  refine .of_passing (fun n before => ?_) settled
  rw [run_addTo (by rwa [Heap.slot?_recordAll]) held, runAdd, if_neg (by simpa using absent),
    Heap.record_recordAll, Heap.name_of_slot? found, Heap.hold_recordAll,
    Heap.hold_eq_adjust (Heap.holding?_of_slot found) (·.including v) (by rw [held]; rfl)]

/-- To set an empty slot puts an object in and goes on with the call to link. -/
theorem Settles.set_some (found : h.slot? x r = some s) (held : s.holding = .one none)
    (settled : Settles (passing s.attach v x) (h.adjust x r (·.including v)) d k h') :
    Settles (calling ⟨x, .set, r, some v⟩) h (d + 1) (k + 1) h' := by
  refine .of_passing (fun n before => ?_) settled
  rw [run_set (by rwa [Heap.slot?_recordAll]) held, runSet, if_neg (by simp)]
  simp only [Outcome.andThen]
  rw [Heap.record_recordAll, Heap.name_of_slot? found, Heap.hold_recordAll,
    Heap.hold_eq_adjust (Heap.holding?_of_slot found) (·.including v) (by rw [held]; rfl)]

/-- To set a slot to nothing takes out what is there, makes the call to unlink and writes again. -/
theorem Settles.set_none (found : h.slot? x r = some s) (held : s.holding = .one (some old))
    (settled : Settles (passing s.detach old x) (h.adjust x r (·.without old)) d k h₁) :
    Settles (calling ⟨x, .set, r, none⟩) h (d + 1) (k + 1) (h₁.hold x r (.one none)) := by
  obtain ⟨es, count, done⟩ := settled
  refine ⟨(x, .set, r) :: es, by simpa using count, fun n before => ?_⟩
  have released := done n (before ++ [(x, .set, r)])
  simp only [passing, List.append_assoc, List.singleton_append] at released
  rw [← Nat.add_assoc, calling, run_set (by rwa [Heap.slot?_recordAll]) held, runSet, if_neg (by simp)]
  simp only
  rw [Heap.record_recordAll, Heap.name_of_slot? found, Heap.hold_recordAll,
    Heap.hold_eq_adjust (Heap.holding?_of_slot found) (·.without old) (by simp [held, Holding.without]),
    released]
  simp only [Outcome.andThen]
  rw [Heap.hold_recordAll]

/-- To set a slot to another object takes out what is there, makes the call to unlink, puts the new object
in and goes on with the call to link. -/
theorem Settles.set_other (found : h.slot? x r = some s) (held : s.holding = .one (some old))
    (ne : old ≠ v) (released : Settles (passing s.detach old x) (h.adjust x r (·.without old)) d k h₁)
    (linked : Settles (passing s.attach v x) (h₁.hold x r (.one (some v))) d k' h') :
    Settles (calling ⟨x, .set, r, some v⟩) h (d + 1) (k + k' + 1) h' := by
  obtain ⟨es, count, done⟩ := released
  obtain ⟨es', count', done'⟩ := linked
  refine ⟨(x, .set, r) :: (es ++ es'), by simp; omega, fun n before => ?_⟩
  have released := done n (before ++ [(x, .set, r)])
  have linked := done' n (before ++ (x, .set, r) :: es)
  simp only [passing, List.append_assoc, List.cons_append, List.nil_append] at released linked
  rw [← Nat.add_assoc, calling, run_set (by rwa [Heap.slot?_recordAll]) held, runSet,
    if_neg (by simpa using ne)]
  simp only
  rw [Heap.record_recordAll, Heap.name_of_slot? found, Heap.hold_recordAll,
    Heap.hold_eq_adjust (Heap.holding?_of_slot found) (·.without old) (by simp [held, Holding.without]),
    released]
  simp only [Outcome.andThen]
  rw [Heap.hold_recordAll, linked]

/-! ## The other object -/

/-- A call to unlink that finds its link gone. -/
theorem settles_unlinking_idle (found : h.slot? x r = some s) (room : s.holding.HasRoom)
    (gone : y ∉ s.holding.values) :
    Settles (passing (some (.unlinking r s.holding.isList)) x y) h 1 1 h := by
  cases held : s.holding with
  | one value =>
    obtain rfl : value = none := by rwa [held] at room
    exact settles_set_same found held
  | many values =>
    have absent : ∀ w ∈ some y, w ∉ values := by simpa [held, Holding.values] using gone
    exact settles_removeFrom_absent found held absent

/-- A call to link that finds its link there. -/
theorem settles_linking_idle (found : h.slot? x r = some s) (present : y ∈ s.holding.values) :
    Settles (passing (some (.linking r s.holding.isList)) x y) h 1 1 h := by
  cases held : s.holding with
  | one value =>
    obtain rfl : value = some y := by simpa [held, Holding.values] using present
    exact settles_set_same found held
  | many values =>
    have there : ∀ w ∈ some y, w ∈ values := by simpa [held, Holding.values] using present
    exact settles_addTo_present found held there

/-- A call to unlink, after the link is gone on the side that calls: the other side gives it up. -/
theorem settles_unlinking (dual : h.Dual x r y o) (ht : h.slot? y o = some t)
    (held : x ∈ t.holding.values) (room : h.HasRoom x r) (gone : y ∉ h.values x r) :
    Settles (passing (some (.unlinking o t.holding.isList)) y x) h 2 2
      (h.adjust y o (·.without x)) := by
  obtain ⟨s, t', hs, ht', _, faces⟩ := dual.faces
  obtain rfl : t' = t := Option.some.inj (ht'.symm.trans ht)
  -- The call back finds the slot of the caller as the caller left it.
  have echo : Settles (passing t'.detach x y) (h.adjust y o (·.without x)) 1 1
      (h.adjust y o (·.without x)) := by
    rw [faces.detach]
    refine settles_unlinking_idle ?_ (room _ (Heap.holding?_of_slot hs)) ?_
    · rw [Heap.slot?_adjust_of_ne dual.slot_ne, hs]
    · rwa [← Heap.values_of_slot hs]
  cases kind : t'.holding with
  | one value =>
    obtain rfl : value = some x := by simpa [kind, Holding.values] using held
    have settled := Settles.set_none ht kind echo
    have twice : (h.adjust y o (·.without x)).hold y o (.one none) = h.adjust y o (·.without x) := by
      rw [Heap.adjust_of_some (Heap.holding?_of_slot ht), Heap.hold_hold, kind]
      simp [Holding.without]
    rwa [twice] at settled
  | many values =>
    rw [kind] at held
    exact Settles.removeFrom ht kind held echo

/-- An object gives up another one that a slot holds, and the other side follows. -/
theorem settles_release (found : h.slot? x r = some s) (dual : h.Dual x r y o)
    (room : (s.holding.without y).HasRoom) (once : y ∉ (s.holding.without y).values)
    (back : x ∈ h.values y o) :
    Settles (passing s.detach y x) (h.adjust x r (·.without y)) 2 2 (h.part x r y o) := by
  obtain ⟨s', t, hs, ht, faces, _⟩ := dual.faces
  obtain rfl : s' = s := Option.some.inj (hs.symm.trans found)
  have left := Heap.slot?_adjust_self found (·.without y)
  rw [faces.detach, Heap.part]
  refine settles_unlinking (dual.of_shape (Heap.shape?_adjust (Holding.isList_without y))) ?_ ?_ ?_ ?_
  · rw [Heap.slot?_adjust_of_ne dual.symm.slot_ne, ht]
  · rwa [← Heap.values_of_slot ht]
  · intro k there
    rw [Heap.holding?_of_slot left] at there
    rwa [← Option.some.inj there]
  · rwa [Heap.values_of_slot left]

/-- In a slot that is taken, the object that is in the way goes before the new one comes. -/
theorem part_hold_of_taken {u : Nat} (dual : h.Dual x r v o) (other : u ≠ x)
    (taken : h.holding? v o = some (.one (some u))) :
    ((h.adjust x r (·.including v)).part v o u r).hold v o (.one (some x)) =
      (h.evict v o r).join x r v o := by
  have apart : ¬ (x = u ∧ r = r) := fun same => other same.1.symm
  have away : ¬ (v = u ∧ o = r) := fun same => dual.distinct same.2.symm
  have evicted : h.evict v o r = h.part v o u r := by simp [Heap.evict, taken]
  have emptied : ((h.part v o u r).adjust x r (·.including v)).holding? v o = some (.one none) := by
    rw [Heap.holding?_adjust, if_neg dual.symm.slot_ne, Heap.part, Heap.holding?_adjust, if_neg away,
      Heap.holding?_adjust, if_pos ⟨rfl, rfl⟩, taken]
    simp [Holding.without]
  calc
    _ = ((h.part v o u r).adjust x r (·.including v)).hold v o (.one (some x)) := by
      rw [Heap.part, Heap.adjust_comm h dual.slot_ne, Heap.adjust_comm _ apart, ← Heap.part]
    _ = (h.evict v o r).join x r v o := by
      rw [evicted, Heap.join]
      exact Heap.hold_eq_adjust emptied (·.including x) rfl

/-- A call to link, on a slot that is taken, after the link is there on the side that calls. -/
theorem settles_linking_taken {u : Nat} (paired : h.Paired) (dual : h.Dual x r v o)
    (ht : h.slot? v o = some t) (kind : t.holding = .one (some u)) (other : u ≠ x)
    (echo : Settles (passing t.attach x v) ((h.evict v o r).join x r v o) 1 1
      ((h.evict v o r).join x r v o)) :
    Settles (calling ⟨v, .set, o, some x⟩) (h.adjust x r (·.including v)) 3 4
      ((h.evict v o r).join x r v o) := by
  have inWay : u ∈ h.values v o := by simp [Heap.values_of_slot ht, kind, Holding.values]
  have link : h.Dual v o u r := paired.dual_of_mem dual.symm inWay
  have free : (h.adjust x r (·.including v)).slot? v o = some t := by
    rw [Heap.slot?_adjust_of_ne dual.symm.slot_ne, ht]
  have back : v ∈ (h.adjust x r (·.including v)).values u r := by
    rw [Heap.values_adjust_of_ne (by simp [other])]
    exact paired.mem_symm link inWay
  have released := settles_release free
    (link.of_shape (Heap.shape?_adjust (Holding.isList_including v)))
    (by simp [kind, Holding.without, Holding.HasRoom])
    (by rw [Holding.values_without, kind]; simp [Holding.values]) back
  have final := part_hold_of_taken dual other (by rw [Heap.holding?_of_slot ht, kind])
  rw [← final] at echo ⊢
  exact Settles.set_other free kind other released (echo.mono (by omega) (Nat.le_refl 1))

/-- A call to link, after the link is there on the side that calls: the other side gives up the link that
is in its way, if any, and takes the new one. -/
theorem settles_linking (paired : h.Paired) (dual : h.Dual x r v o) (ht : h.slot? v o = some t)
    (new : v ∉ h.values x r) :
    Settles (passing (some (.linking o t.holding.isList)) v x) (h.adjust x r (·.including v)) 3 4
      ((h.evict v o r).join x r v o) := by
  obtain ⟨s, t', hs, ht', _, faces⟩ := dual.faces
  obtain rfl : t' = t := Option.some.inj (ht'.symm.trans ht)
  have new' : x ∉ t'.holding.values := by
    rw [← Heap.values_of_slot ht]
    exact fun held => new (paired.mem_symm dual.symm held)
  have free : (h.adjust x r (·.including v)).slot? v o = some t' := by
    rw [Heap.slot?_adjust_of_ne dual.symm.slot_ne, ht]
  -- Whatever the other side gave up, the call back finds the slot of the caller with its new link.
  have echo : Settles (passing t'.attach x v) ((h.evict v o r).join x r v o) 1 1
      ((h.evict v o r).join x r v o) := by
    obtain ⟨s', hs', same⟩ := Heap.slot?_of_shape (Heap.shape?_evict h v o r) hs
    have joined : ((h.evict v o r).join x r v o).slot? x r =
        some { s' with holding := s'.holding.including v } := by
      rw [Heap.join, Heap.slot?_adjust_of_ne dual.slot_ne, Heap.slot?_adjust_self hs']
    have idle := settles_linking_idle joined (Holding.mem_values_including v s'.holding)
    rwa [Holding.isList_including, Slot.isList_of_emptied same, ← faces.attach] at idle
  cases kind : t'.holding with
  | many values =>
    rw [kind] at new'
    have keep : h.evict v o r = h := by simp [Heap.evict, Heap.holding?_of_slot ht, kind]
    rw [keep] at echo ⊢
    exact (Settles.addTo free kind new' echo).mono (by omega) (by omega)
  | one value =>
    cases value with
    | none =>
      have keep : h.evict v o r = h := by simp [Heap.evict, Heap.holding?_of_slot ht, kind]
      rw [keep] at echo ⊢
      exact (Settles.set_some free kind echo).mono (by omega) (by omega)
    | some u =>
      have other : u ≠ x := fun same => new' (by simp [kind, Holding.values, same])
      exact settles_linking_taken paired dual ht kind other echo

/-! ## Calls from outside -/

/-- To remove an object from a list of a member with an opposite end ends the link on both sides. -/
theorem settles_removeFrom_linked (paired : h.Paired) (found : h.slot? x r = some s)
    {values : List Nat} (held : s.holding = .many values) (dual : h.Dual x r v o) (present : v ∈ values) :
    Settles (calling ⟨x, .removeFrom, r, some v⟩) h 3 3 (h.part x r v o) := by
  have distinct : values.Nodup := by
    simpa [Heap.values_of_slot found, held, Holding.values] using paired.nodup x r
  refine Settles.removeFrom found held present (settles_release found dual ?_ ?_ ?_)
  · rw [held]
    trivial
  · rw [held, Holding.values_without]
    exact fun again => (distinct.mem_erase_iff.1 again).1 rfl
  · exact paired.mem_symm dual (by simpa [Heap.values_of_slot found, held, Holding.values] using present)

/-- To set a member with an opposite end to nothing ends the link that is there on both sides. -/
theorem settles_set_none_linked (paired : h.Paired) (found : h.slot? x r = some s)
    (held : s.holding = .one (some old)) (dual : h.Dual x r old o) :
    Settles (calling ⟨x, .set, r, none⟩) h 3 3 (h.part x r old o) := by
  have released := settles_release found dual (by simp [held, Holding.without, Holding.HasRoom])
    (by rw [Holding.values_without, held]; simp [Holding.values])
    (paired.mem_symm dual (by simp [Heap.values_of_slot found, held, Holding.values]))
  have settled := Settles.set_none found held released
  have twice : (h.part x r old o).hold x r (.one none) = h.part x r old o := by
    rw [Heap.part_comm dual.slot_ne, Heap.part,
      Heap.adjust_of_some (k := .one (some old))
        (by rw [Heap.holding?_adjust, if_neg dual.slot_ne, Heap.holding?_of_slot found, held]),
      Heap.hold_hold]
    simp [Holding.without]
  rwa [twice] at settled

/-- To add a new object to a list of a member with an opposite end links the two, after the new object
gave up what was in the way. -/
theorem settles_addTo_linked (paired : h.Paired) (found : h.slot? x r = some s) {values : List Nat}
    (held : s.holding = .many values) (dual : h.Dual x r v o) (new : v ∉ values) :
    Settles (calling ⟨x, .addTo, r, some v⟩) h 4 5 ((h.evict v o r).join x r v o) := by
  obtain ⟨s', t, hs, ht, faces, _⟩ := dual.faces
  obtain rfl : s' = s := Option.some.inj (hs.symm.trans found)
  refine Settles.addTo found held new ?_
  rw [faces.attach]
  exact settles_linking paired dual ht
    (by simpa [Heap.values_of_slot found, held, Holding.values] using new)

/-- To set a member with an opposite end to another object links the two, after both gave up what was in
the way. -/
theorem settles_set_some_linked (paired : h.Paired) (found : h.slot? x r = some s)
    {current : Option Nat} (held : s.holding = .one current) (dual : h.Dual x r v o)
    (new : current ≠ some v) :
    Settles (calling ⟨x, .set, r, some v⟩) h 4 7 (((h.evict x r o).evict v o r).join x r v o) := by
  obtain ⟨s', t, hs, ht, faces, _⟩ := dual.faces
  obtain rfl : s' = s := Option.some.inj (hs.symm.trans found)
  cases current with
  | none =>
    have keep : h.evict x r o = h := by simp [Heap.evict, Heap.holding?_of_slot found, held]
    have linked := settles_linking paired dual ht (by simp [Heap.values_of_slot found, held, Holding.values])
    rw [keep]
    rw [← faces.attach] at linked
    exact (Settles.set_some found held linked).mono (Nat.le_refl 4) (by omega)
  | some old =>
    have there : old ∈ h.values x r := by simp [Heap.values_of_slot found, held, Holding.values]
    have link : h.Dual x r old o := paired.dual_of_mem dual there
    have released := settles_release found link (by simp [held, Holding.without, Holding.HasRoom])
      (by rw [Holding.values_without, held]; simp [Holding.values]) (paired.mem_symm link there)
    have evicted : h.evict x r o = h.part x r old o := by
      simp [Heap.evict, Heap.holding?_of_slot found, held]
    have emptied : (h.part x r old o).holding? x r = some (.one none) := by
      rw [Heap.part, Heap.holding?_adjust, if_neg link.slot_ne,
        Heap.holding?_of_slot (Heap.slot?_adjust_self found _), held]
      simp [Holding.without]
    obtain ⟨t', ht', same⟩ := Heap.slot?_of_shape (Heap.shape?_part h x r old o) ht
    have linked := settles_linking (paired.part link) (dual.of_shape (Heap.shape?_part h x r old o)) ht'
      (by simp [Heap.values, emptied, Holding.values])
    rw [Slot.isList_of_emptied same, ← faces.attach,
      ← Heap.hold_eq_adjust emptied (·.including v) rfl] at linked
    rw [evicted]
    exact Settles.set_other found held (by simpa using new) (released.mono (by omega) (Nat.le_refl 2))
      linked

end ClassDiagram.Objects
