import ClassDiagram.Proofs.Objects.Updates

/-!
# Calls from outside

What one call from outside comes to on each kind of member.  On a member with an opposite end it leaves the
heap `Heap.linkedBy` after at most seven entries (`settles_linkedBy`).  On a member without one it writes
its own slot and no other one (`settles_alone`).  Where there is no slot for it, it is refused and nothing
changes (`run_refuses`).
-/

set_option autoImplicit false

namespace ClassDiagram

namespace Objects

namespace Heap

variable {h : Heap} {x y : Nat} {r o : String} {c : Call} {s : Slot}

section Kinds

variable (paired : h.Paired) (found : h.slot? x r = some s)
include paired found

/-- A `set` on a member with an opposite end is done within a few levels, as `linkedBy` says. -/
theorem settles_linkedBy_set (calls : h.Calls x r o) {current : Option Nat}
    (held : s.holding = .one current) (argument : Option Nat) (duals : ∀ v ∈ argument, h.Dual x r v o) :
    Settles (calling ⟨x, .set, r, argument⟩) h 4 7 (h.linkedBy ⟨x, .set, r, argument⟩ o) := by
  have values : h.values x r = current.toList := by simp [values_of_slot found, held, Holding.values]
  cases argument with
  | none =>
    cases current with
    | none =>
      have keep : h.linkedBy ⟨x, .set, r, none⟩ o = h := by
        simp [linkedBy, evict, holding?_of_slot found, held]
      rw [keep]
      exact (settles_set_same found held).mono (by omega) (by omega)
    | some old =>
      have ends : h.linkedBy ⟨x, .set, r, none⟩ o = h.part x r old o := by
        simp [linkedBy, evict, holding?_of_slot found, held]
      have dual : h.Dual x r old o := paired.dual calls (by simp [values])
      rw [ends]
      exact (settles_set_none_linked paired found held dual).mono (by omega) (by omega)
  | some v =>
    by_cases there : current = some v
    · have keep : h.linkedBy ⟨x, .set, r, some v⟩ o = h := by simp [linkedBy, values, there]
      rw [keep]
      exact (settles_set_same found (held.trans (congrArg _ there))).mono (by omega) (by omega)
    · have begins : h.linkedBy ⟨x, .set, r, some v⟩ o =
          ((h.evict x r o).evict v o r).join x r v o := by
        simp [linkedBy, values, there]
      rw [begins]
      exact settles_set_some_linked paired found held (duals v rfl) there

/-- An `addTo` on a member with an opposite end is done within a few levels, as `linkedBy` says. -/
theorem settles_linkedBy_addTo {values : List Nat} (held : s.holding = .many values)
    (argument : Option Nat) (duals : ∀ v ∈ argument, h.Dual x r v o) :
    Settles (calling ⟨x, .addTo, r, argument⟩) h 4 7 (h.linkedBy ⟨x, .addTo, r, argument⟩ o) := by
  have values_eq : h.values x r = values := by simp [values_of_slot found, held, Holding.values]
  cases argument with
  | none => exact (settles_addTo_present found held (by simp)).mono (by omega) (by omega)
  | some v =>
    by_cases there : v ∈ values
    · have keep : h.linkedBy ⟨x, .addTo, r, some v⟩ o = h := by simp [linkedBy, values_eq, there]
      rw [keep]
      exact (settles_addTo_present found held (by simpa using there)).mono (by omega) (by omega)
    · have begins : h.linkedBy ⟨x, .addTo, r, some v⟩ o = (h.evict v o r).join x r v o := by
        simp [linkedBy, values_eq, there]
      rw [begins]
      exact (settles_addTo_linked paired found held (duals v rfl) there).mono (by omega) (by omega)

/-- A `removeFrom` on a member with an opposite end is done within a few levels, as `linkedBy` says. -/
theorem settles_linkedBy_removeFrom {values : List Nat} (held : s.holding = .many values)
    (argument : Option Nat) (duals : ∀ v ∈ argument, h.Dual x r v o) :
    Settles (calling ⟨x, .removeFrom, r, argument⟩) h 4 7
      (h.linkedBy ⟨x, .removeFrom, r, argument⟩ o) := by
  have values_eq : h.values x r = values := by simp [values_of_slot found, held, Holding.values]
  cases argument with
  | none => exact (settles_removeFrom_absent found held (by simp)).mono (by omega) (by omega)
  | some v =>
    by_cases there : v ∈ values
    · have ends : h.linkedBy ⟨x, .removeFrom, r, some v⟩ o = h.part x r v o := by
        simp [linkedBy, values_eq, there]
      rw [ends]
      exact (settles_removeFrom_linked paired found held (duals v rfl) there).mono (by omega) (by omega)
    · have keep : h.linkedBy ⟨x, .removeFrom, r, some v⟩ o = h := by simp [linkedBy, values_eq, there]
      rw [keep]
      exact (settles_removeFrom_absent found held (by simpa using there)).mono (by omega) (by omega)

end Kinds

/-- A call on a member with an opposite end is done after at most seven entries. -/
theorem settles_linkedBy (paired : h.Paired) (admits : h.Admits c o) :
    Settles (calling c) h 4 7 (h.linkedBy c o) := by
  obtain ⟨s, b, found, faces⟩ := admits.calls
  have fits := admits.fits s found
  have duals := admits.dual
  have calls := admits.calls
  obtain ⟨x, kind, r, argument⟩ := c
  cases held : s.holding with
  | one current =>
    cases kind with
    | set => exact settles_linkedBy_set paired found calls held argument duals
    | get | addTo | removeFrom | sizeOf => simp [held, AccessorKind.fits, Holding.isList] at fits
  | many values =>
    cases kind with
    | addTo => exact settles_linkedBy_addTo paired found held argument duals
    | removeFrom => exact settles_linkedBy_removeFrom paired found held argument duals
    | get | set | sizeOf => simp [held, AccessorKind.fits, Holding.isList] at fits

/-- A call that changes things is refused at once where there is no slot for it. -/
theorem run_refuses (n : Nat) {object : Object} (there : h.object? c.receiver = some object)
    (changes : c.kind = .set ∨ c.kind = .addTo ∨ c.kind = .removeFrom)
    (unfit : ∀ s, h.slot? c.receiver c.role = some s → c.kind.fits s.holding.isList = false) :
    ∃ e, e ≠ .noObject ∧ run (n + 1) h c = .failed h e := by
  obtain ⟨x, kind, r, argument⟩ := c
  cases named : object.slot? r with
  | none => exact ⟨.noMember object.className r, by simp, by simp only [run, runWith, there, named]⟩
  | some s =>
    have unfit := unfit s (by simp [slot?, there, named])
    cases held : s.holding with
    | one current =>
      refine ⟨.singleValued object.className r, by simp, ?_⟩
      rcases changes with rfl | rfl | rfl
      · simp [held, AccessorKind.fits, Holding.isList] at unfit
      · simp only [run, runWith, there, named, held]
      · simp only [run, runWith, there, named, held]
    | many values =>
      refine ⟨.multiValued object.className r, by simp, ?_⟩
      rcases changes with rfl | rfl | rfl
      · simp only [run, runWith, there, named, held]
      · simp [held, AccessorKind.fits, Holding.isList] at unfit
      · simp [held, AccessorKind.fits, Holding.isList] at unfit

/-- Whether a heap comes from a paired one by a call from outside that writes one slot only. -/
structure WrittenAt (h' h : Heap) (x : Nat) (r : String) : Prop where
  shape : ∀ y o, h'.shape? y o = h.shape? y o
  paired : h'.Paired
  holding : ∀ y o, ¬ (y = x ∧ o = r) → h'.holding? y o = h.holding? y o
  traces : h'.traces = h.traces

/-- Whatever is written into a slot that makes no calls, no link is on one side only. -/
theorem Paired.writtenAt (paired : h.Paired) (found : h.slot? x r = some s) (silent : s.attach = none)
    {f : Holding → Holding} (keeps : ∀ k, (f k).isList = k.isList)
    (nodup : (f s.holding).values.Nodup) : (h.adjust x r f).WrittenAt h x r := by
  have shape := shape?_adjust (h := h) (x := x) (r := r) keeps
  have others (y : Nat) (o : String) (ne : ¬ (y = x ∧ o = r)) := values_adjust_of_ne (h := h) ne f
  refine ⟨shape, ⟨fun y o => ?_, ?_⟩, fun y o ne => by rw [holding?_adjust, if_neg ne],
    traces_adjust ..⟩
  · by_cases here : y = x ∧ o = r
    · obtain ⟨rfl, rfl⟩ := here
      rwa [values_of_slot (slot?_adjust_self found f)]
    · rw [others y o here]
      exact paired.nodup y o
  · intro p q t o b v found' faces held
    obtain ⟨t', found'', same⟩ := slot?_of_shape (fun y o => (shape y o).symm) found'
    have faces' := faces.of_emptied same.symm
    -- Slots that call back are others than the one that was written.
    have differs {y : Nat} {role : String} {u : Slot} (there : h.slot? y role = some u) {o : String}
        {b : Bool} (calls : u.Faces o b) : ¬ (y = x ∧ role = r) := by
      rintro ⟨rfl, rfl⟩
      obtain rfl : s = u := Option.some.inj (found.symm.trans there)
      exact absurd (silent.symm.trans calls.attach) (by simp)
    rw [others p q (differs found'' faces')] at held
    obtain ⟨dual, back⟩ := paired.both found'' faces' held
    obtain ⟨_, u, _, there, _, calls⟩ := dual.faces
    rw [others v o (differs there calls)]
    exact ⟨dual.of_shape shape, back⟩

/-- A heap with its links on both sides is one that was written at a slot, with nothing written. -/
theorem Paired.writtenAt_self (paired : h.Paired) : h.WrittenAt h x r :=
  ⟨fun _ _ => rfl, paired, fun _ _ _ => rfl, rfl⟩

section Silent

variable (paired : h.Paired) (found : h.slot? x r = some s) (silent : s.attach = none ∧ s.detach = none)
include paired found silent

/-- A `set` on a member without an opposite end is done at once and writes its own slot only. -/
theorem settles_alone_set {current : Option Nat} (held : s.holding = .one current)
    (argument : Option Nat) :
    ∃ h', Settles (calling ⟨x, .set, r, argument⟩) h 1 1 h' ∧ h'.WrittenAt h x r := by
  by_cases same : current = argument
  · exact ⟨h, settles_set_same found (held.trans (congrArg _ same)), paired.writtenAt_self⟩
  have comes (v : Nat) : (h.adjust x r (·.including v)).WrittenAt h x r :=
    paired.writtenAt found silent.1 (Holding.isList_including v)
      (by simp [held, Holding.including, Holding.values])
  cases current with
  | none =>
    cases argument with
    | none => exact absurd rfl same
    | some v =>
      have linked := settles_passing_none (h.adjust x r (·.including v)) v x
      rw [← silent.1] at linked
      exact ⟨_, Settles.set_some found held linked, comes v⟩
  | some old =>
    have released := settles_passing_none (h.adjust x r (·.without old)) old x
    have emptied : h.adjust x r (·.without old) = h.hold x r (.one none) := by
      rw [adjust_of_some (holding?_of_slot found), held]
      simp [Holding.without]
    rw [← silent.2] at released
    cases argument with
    | none =>
      refine ⟨_, Settles.set_none found held released, ?_⟩
      rw [emptied, hold_hold, ← emptied]
      exact paired.writtenAt found silent.1 (Holding.isList_without old)
        (by simp [held, Holding.without, Holding.values])
    | some v =>
      have linked := settles_passing_none ((h.adjust x r (·.without old)).hold x r (.one (some v))) v x
      rw [← silent.1] at linked
      refine ⟨_, Settles.set_other found held (by simpa using same) released linked, ?_⟩
      rw [emptied, hold_hold, hold_eq_adjust (holding?_of_slot found) (·.including v) (by rw [held]; rfl)]
      exact comes v

/-- An `addTo` on a member without an opposite end is done at once and writes its own slot only. -/
theorem settles_alone_addTo {values : List Nat} (held : s.holding = .many values)
    (argument : Option Nat) :
    ∃ h', Settles (calling ⟨x, .addTo, r, argument⟩) h 1 1 h' ∧ h'.WrittenAt h x r := by
  by_cases there : ∀ v ∈ argument, v ∈ values
  · exact ⟨h, settles_addTo_present found held there, paired.writtenAt_self⟩
  · cases argument with
    | none => exact absurd (by simp) there
    | some v =>
      have absent : v ∉ values := by simpa using there
      have distinct : values.Nodup := by
        simpa [values_of_slot found, held, Holding.values] using paired.nodup x r
      have linked := settles_passing_none (h.adjust x r (·.including v)) v x
      rw [← silent.1] at linked
      refine ⟨_, Settles.addTo found held absent linked, ?_⟩
      refine paired.writtenAt found silent.1 (Holding.isList_including v) ?_
      rw [held]
      exact distinct.append (List.nodup_singleton v) (by simpa using absent)

/-- A `removeFrom` on a member without an opposite end is done at once and writes its own slot only. -/
theorem settles_alone_removeFrom {values : List Nat} (held : s.holding = .many values)
    (argument : Option Nat) :
    ∃ h', Settles (calling ⟨x, .removeFrom, r, argument⟩) h 1 1 h' ∧ h'.WrittenAt h x r := by
  by_cases absent : ∀ v ∈ argument, v ∉ values
  · exact ⟨h, settles_removeFrom_absent found held absent, paired.writtenAt_self⟩
  · cases argument with
    | none => exact absurd (by simp) absent
    | some v =>
      have present : v ∈ values := by simpa using absent
      have distinct : values.Nodup := by
        simpa [values_of_slot found, held, Holding.values] using paired.nodup x r
      have released := settles_passing_none (h.adjust x r (·.without v)) v x
      rw [← silent.2] at released
      refine ⟨_, Settles.removeFrom found held present released, ?_⟩
      refine paired.writtenAt found silent.1 (Holding.isList_without v) ?_
      rw [held]
      exact distinct.erase v

end Silent

/-- A call on a member without an opposite end is one entry and writes its own slot. -/
theorem settles_alone (paired : h.Paired) (found : h.slot? c.receiver c.role = some s)
    (silent : s.attach = none ∧ s.detach = none) (fits : c.kind.fits s.holding.isList = true) :
    ∃ h', Settles (calling c) h 1 1 h' ∧ h'.WrittenAt h c.receiver c.role := by
  obtain ⟨x, kind, r, argument⟩ := c
  cases held : s.holding with
  | one current =>
    cases kind with
    | set => exact settles_alone_set paired found silent held argument
    | get | addTo | removeFrom | sizeOf => simp [held, AccessorKind.fits, Holding.isList] at fits
  | many values =>
    cases kind with
    | addTo => exact settles_alone_addTo paired found silent held argument
    | removeFrom => exact settles_alone_removeFrom paired found silent held argument
    | get | set | sizeOf => simp [held, AccessorKind.fits, Holding.isList] at fits

end Heap

end Objects

end ClassDiagram
