import ClassDiagram.Proofs.Objects.Conduct
import ClassDiagram.Proofs.Objects.Weights
import Mathlib.Tactic.Linarith

/-!
# Every exchange of calls ends

Whatever the slots of the objects hold, a call with all calls that it makes is done or fails after as many
levels of calls as `Heap.enoughFuel` allows.  Nothing is asked of the contents: links may be held on one
side only, and an object may be in a slot for another class.

Calls that unlink make calls that unlink, and each takes one object out of a slot (`run_shrinks`).  Calls
that link go to and fro between two objects; each puts one of the two into a slot of the other one.  A slot
that holds a third object gives it up for good, since all that a slot of the two gets during the exchange
is the other of the two.  Between two such displacements every call fills one more slot.  So the number
of slots with a third object, and then the number of slots without the other object, get smaller
(`run_ends`), although the calls that unlink may empty slots that were filled before.
-/

set_option autoImplicit false

namespace ClassDiagram

namespace Objects

variable {h h' : Heap} {x y : Nat} {r : String} {s : Slot} {f g : Nat → Holding → Nat}

/-! ## Calls that unlink -/

/-- Whether a weight gets no larger when an object goes. -/
def Wanes (f : Nat → Holding → Nat) : Prop := ∀ i v k, f i (k.without v) ≤ f i k

/-- The number of objects in a slot gets no larger when an object goes. -/
theorem wanes_linkWeight : Wanes linkWeight := by
  intro i v k
  simp only [linkWeight, Holding.values_without]
  exact List.length_erase_le

/-- Whether a heap is another one with objects taken out of slots. -/
structure Heap.Within (h' h : Heap) : Prop where
  regular : h'.Regular
  shape : ∀ y o, h'.shape? y o = h.shape? y o
  total_le : ∀ f, Wanes f → h'.total f ≤ h.total f

/-- A heap is itself with nothing taken out. -/
theorem Heap.Within.refl (regular : h.Regular) : h.Within h :=
  ⟨regular, fun _ _ => rfl, fun _ _ => Nat.le_refl _⟩

/-- A heap with objects taken out twice is one with objects taken out. -/
theorem Heap.Within.trans {h'' : Heap} (second : h''.Within h') (first : h'.Within h) : h''.Within h :=
  ⟨second.regular, fun y o => (second.shape y o).trans (first.shape y o),
    fun f wanes => Nat.le_trans (second.total_le f wanes) (first.total_le f wanes)⟩

/-- An entry in a trace takes no object out of a slot. -/
theorem Heap.Within.record (regular : h.Regular) (x : Nat) (kind : AccessorKind) (r : String) :
    (h.record x kind r).Within h :=
  ⟨regular.record x kind r, fun y o => by simp [Heap.shape?], fun f _ => by simp⟩

/-- A write that takes an object out. -/
theorem Heap.Within.hold (regular : h.Regular) (found : h.slot? x r = some s) {k : Holding} {v : Nat}
    (taken : k = s.holding.without v) : (h.hold x r k).Within h := by
  subst taken
  refine ⟨regular.hold x r _, fun y o => ?_, fun f wanes => ?_⟩
  · rw [Heap.hold_eq_adjust (Heap.holding?_of_slot found) (·.without v) rfl]
    exact Heap.shape?_adjust (Holding.isList_without v) y o
  · have change := regular.total_hold found (s.holding.without v) f
    have := wanes x v s.holding
    omega

/-- Whether an exchange ends, and takes objects out of slots only. -/
structure Shrinks (h : Heap) (o : Outcome) : Prop where
  ends : ∀ h', o ≠ .unfinished h'
  within : o.heap.Within h

/-- An exchange that takes objects out of a heap with objects taken out takes them out of the first heap. -/
theorem Shrinks.trans {o : Outcome} (second : Shrinks h' o) (first : h'.Within h) : Shrinks h o :=
  ⟨second.ends, second.within.trans first⟩

/-- Emptying a slot for a single object takes out what it holds. -/
theorem Heap.Within.clear (regular : h.Regular) (found : h.slot? x r = some s)
    (single : s.holding.isList = false) : (h.hold x r (.one none)).Within h := by
  cases held : s.holding with
  | one value =>
    cases value with
    | none => exact .hold (v := 0) regular found (by simp [held, Holding.without])
    | some w => exact .hold (v := w) regular found (by simp [held, Holding.without])
  | many values => simp [held, Holding.isList] at single

/-- A call to unlink ends within as many levels as there are objects in slots. -/
theorem run_shrinks (n : Nat) (regular : h.Regular) {c : Call} (unlinks : c.Unlinks)
    (enough : h.total linkWeight < n) : Shrinks h (run n h c) := by
  induction n generalizing h c with
  | zero => omega
  | succ n ih =>
    have recorded := Heap.Within.record regular c.receiver c.kind c.role
    -- The object that goes is told of it when its slot is written, so there is one link less to end.
    have released {s : Slot} {k : Holding} {v : Nat} (found : h.slot? c.receiver c.role = some s)
        (taken : k = s.holding.without v) (held : v ∈ s.holding.values) :
        Shrinks h (passOn (run n) ((h.record c.receiver c.kind c.role).hold c.receiver c.role k)
          s.detach v c.receiver) := by
      have entered : (h.record c.receiver c.kind c.role).slot? c.receiver c.role = some s := by
        simpa using found
      have written := (Heap.Within.hold recorded.regular entered taken).trans recorded
      cases calls : s.detach with
      | none => exact ⟨by simp [passOn], written⟩
      | some call =>
        refine (ih written.regular (Call.unlinks_on (regular.detach found calls) v c.receiver) ?_).trans written
        have change := recorded.regular.total_hold entered k linkWeight
        rw [Heap.total_record] at change
        have less : linkWeight c.receiver k < linkWeight c.receiver s.holding := by
          simp only [linkWeight, taken, Holding.values_without, List.length_erase_of_mem held]
          have := List.length_pos_of_mem held
          omega
        omega
    have conduct := conducts (run n) h c
    change Shrinks h (runWith (run n) h c)
    generalize runWith (run n) h c = o at conduct ⊢
    cases conduct with
    | refused e cause => exact ⟨by simp, .refl regular⟩
    | reads => exact ⟨by simp, .refl regular⟩
    | idles => exact ⟨by simp, recorded⟩
    | adds s values new kind found held given absent => simp [unlinks (.inl kind)] at given
    | fills s new kind found held given => simp [unlinks (.inr kind)] at given
    | replaces s old new kind found held given ne => simp [unlinks (.inr kind)] at given
    | removes s values old kind found held given present =>
      exact released found (by simp [held, Holding.without]) (by simpa [held, Holding.values] using present)
    | clears s old kind found held given =>
      have first := released (k := .one none) (v := old) found (by simp [held, Holding.without])
        (by simp [held, Holding.values])
      generalize passOn (run n) _ s.detach old c.receiver = o at first ⊢
      cases o with
      | done g =>
        obtain ⟨s', found', same⟩ := Heap.slot?_of_shape first.within.shape found
        have single : s'.holding.isList = false := by
          rw [Slot.isList_of_emptied same, held]
          rfl
        exact ⟨by simp [Outcome.andThen], (Heap.Within.clear first.within.regular found' single).trans
          first.within⟩
      | failed g e => exact ⟨by simp [Outcome.andThen], first.within⟩
      | unfinished g => exact absurd rfl (first.ends g)

/-- The same for the call that a slot makes on an object that goes. -/
theorem passOn_shrinks {n : Nat} (regular : h.Regular) {call : Option PartnerCall}
    (unlinks : ∀ c, call = some c → c.Unlinks) (enough : h.total linkWeight < n) (y self : Nat) :
    Shrinks h (passOn (run n) h call y self) := by
  cases call with
  | none => exact ⟨by simp [passOn], .refl regular⟩
  | some c => exact run_shrinks n regular (Call.unlinks_on (unlinks c rfl) y self) enough

/-! ## Calls that link -/

/-- The other one of two objects that link to each other. -/
def partner (a b i : Nat) : Option Nat :=
  if i = a then some b else if i = b then some a else none

/-- Each of two objects is the partner of the other. -/
theorem partner_symm {a b i p : Nat} (other : partner a b i = some p) : partner a b p = some i := by
  simp only [partner] at other ⊢
  split at other
  · obtain rfl : b = p := Option.some.inj other
    split <;> simp_all
  · split at other
    · obtain rfl : a = p := Option.some.inj other
      simp_all
    · exact absurd other (by simp)

/-- A weight that counts the slots of two objects that hold a third one and can hold no more. -/
def foreignWeight (a b i : Nat) : Holding → Nat
  | .one (some v) => if (partner a b i).isSome ∧ partner a b i ≠ some v then 1 else 0
  | _ => 0

/-- A weight that counts the slots of two objects that do not hold the other one. -/
def missingWeight (a b i : Nat) (k : Holding) : Nat :=
  match partner a b i with
  | some p => if p ∈ k.values then 0 else 1
  | none => 0

/-- A slot counts at most once as one that holds a third object. -/
theorem foreignWeight_le_one (a b i : Nat) (k : Holding) : foreignWeight a b i k ≤ 1 := by
  unfold foreignWeight
  split
  · split <;> omega
  · omega

/-- A slot counts at most once as one that does not hold the other object. -/
theorem missingWeight_le_one (a b i : Nat) (k : Holding) : missingWeight a b i k ≤ 1 := by
  unfold missingWeight
  split
  · split <;> omega
  · omega

/-- The number of slots that hold a third object gets no larger when an object goes. -/
theorem wanes_foreignWeight (a b : Nat) : Wanes (foreignWeight a b) := by
  intro i v k
  cases k with
  | one value =>
    cases value with
    | none => exact Nat.le_refl _
    | some w =>
      by_cases gone : w = v
      · simp [Holding.without, gone, foreignWeight]
      · simp [Holding.without, gone]
  | many values => exact Nat.le_refl _

/-- A bound on the number of levels of calls while two objects link to each other. -/
def Heap.reach (h : Heap) (a b : Nat) : Nat :=
  2 * (h.total (foreignWeight a b) * (h.slotCount + 1) + h.total (missingWeight a b)) +
    h.total linkWeight + 1

/-- Where every slot counts at most once, there are at least as many slots. -/
theorem Heap.total_le_slotCount (h : Heap) (light : ∀ i k, f i k ≤ 1) : h.total f ≤ h.slotCount := by
  rw [← Heap.total_one]
  exact weigh_le light 0 h.objects

/-- When a slot that lacked the other object of the two gets it, less can follow. -/
theorem reach_lt_of_fill {a b : Nat} (slots : h'.slotCount = h.slotCount)
    (foreign : h'.total (foreignWeight a b) ≤ h.total (foreignWeight a b))
    (missing : h'.total (missingWeight a b) + 1 = h.total (missingWeight a b))
    (links : h'.total linkWeight ≤ h.total linkWeight + 1) : h'.reach a b < h.reach a b := by
  have product := Nat.mul_le_mul_right (h.slotCount + 1) foreign
  simp only [Heap.reach, slots]
  omega

/-- When a slot gives up a third object, less can follow, however many slots were emptied with it. -/
theorem reach_lt_of_displace {a b : Nat} (slots : h'.slotCount ≤ h.slotCount)
    (foreign : h'.total (foreignWeight a b) + 1 ≤ h.total (foreignWeight a b))
    (links : h'.total linkWeight ≤ h.total linkWeight) : h'.reach a b < h.reach a b := by
  have missing := Heap.total_le_slotCount h' (missingWeight_le_one a b)
  have product := Nat.mul_le_mul foreign (Nat.add_le_add_right slots 1)
  rw [Nat.add_one_mul] at product
  simp only [Heap.reach]
  omega

/-- The bound on the levels of calls of two objects on each other is within the fuel of a heap. -/
theorem reach_le_enoughFuel (h : Heap) (a b : Nat) : h.reach a b ≤ h.enoughFuel := by
  have foreign := Heap.total_le_slotCount h (foreignWeight_le_one a b)
  have missing := Heap.total_le_slotCount h (missingWeight_le_one a b)
  have product := Nat.mul_le_mul_right (h.slotCount + 1) foreign
  simp only [Heap.reach, Heap.enoughFuel, Nat.pow_eq, Nat.pow_two, Heap.total_linkWeight]
  nlinarith

/-- An entry in a trace leaves the bound on the levels of calls. -/
@[simp] theorem reach_record (a b x : Nat) (kind : AccessorKind) (r : String) :
    (h.record x kind r).reach a b = h.reach a b := by
  simp [Heap.reach, ← Heap.total_one]

/-- The writing of a slot leaves the number of slots. -/
theorem Heap.Regular.slotCount_hold (regular : h.Regular) (found : h.slot? x r = some s)
    (k : Holding) : (h.hold x r k).slotCount = h.slotCount := by
  have ones := regular.total_hold found k fun _ _ => 1
  rw [Heap.total_one, Heap.total_one] at ones
  omega

/-- Less can follow when one of the two objects gets the other one where there is room for it. -/
theorem reach_including_lt {a b p : Nat} (regular : h.Regular) (found : h.slot? x r = some s)
    (other : partner a b x = some p) (room : s.holding.HasRoom) (absent : p ∉ s.holding.values) :
    (h.hold x r (s.holding.including p)).reach a b < h.reach a b := by
  have change (f : Nat → Holding → Nat) := regular.total_hold found (s.holding.including p) f
  refine reach_lt_of_fill (regular.slotCount_hold found _) ?_ ?_ ?_
  · have foreign := change (foreignWeight a b)
    have light : foreignWeight a b x (s.holding.including p) = 0 := by
      cases s.holding <;> simp [Holding.including, foreignWeight, other]
    omega
  · have missing := change (missingWeight a b)
    simp only [missingWeight, other, absent, Holding.mem_values_including, if_true, if_false]
      at missing
    omega
  · have links := change linkWeight
    simp only [linkWeight, Holding.values_including room, List.length_append, List.length_singleton]
      at links
    omega

/-- Less can follow when one of the two objects gets the other one in the place of a third one, which has
made calls to unlink before. -/
theorem reach_replace_lt {a b old new : Nat} (regular : h.Regular) (found : h.slot? x r = some s)
    (held : s.holding = .one (some old)) (other : partner a b x = some new) (ne : old ≠ new)
    (within : h'.Within (h.hold x r (.one none))) :
    (h'.hold x r (.one (some new))).reach a b < h.reach a b := by
  have emptied : (h.hold x r (.one none)).Within h :=
    .hold (v := old) regular found (by simp [held, Holding.without])
  obtain ⟨s', found', _⟩ := Heap.slot?_of_shape (within.trans emptied).shape found
  have first (f : Nat → Holding → Nat) := regular.total_hold found (.one none) f
  have second (f : Nat → Holding → Nat) := within.regular.total_hold found' (.one (some new)) f
  simp only [held] at first
  -- The slot counts as one with a third object before, and not after.
  refine reach_lt_of_displace ?_ ?_ ?_
  · rw [within.regular.slotCount_hold found', ← regular.slotCount_hold found (.one none),
      ← Heap.total_one, ← Heap.total_one]
    exact within.total_le _ fun _ _ _ => Nat.le_refl 1
  · have before := first (foreignWeight a b)
    have after := second (foreignWeight a b)
    have fewer := within.total_le _ (wanes_foreignWeight a b)
    have differs : ¬ new = old := fun e => ne e.symm
    simp only [foreignWeight, other, Option.isSome_some, Option.some.injEq, ne_eq, differs,
      not_false_eq_true, not_true_eq_false, and_self, and_false, if_true, if_false] at before after
    omega
  · have before := first linkWeight
    have after := second linkWeight
    have fewer := within.total_le _ wanes_linkWeight
    simp only [linkWeight, Holding.values, Option.toList, List.length_singleton, List.length_nil]
      at before after
    omega

/-- A call ends that unlinks, or that links one of two objects to the other one. -/
theorem run_ends {a b : Nat} (n : Nat) (regular : h.Regular) {c : Call}
    (between : c.Unlinks ∨ c.argument = partner a b c.receiver) (enough : h.reach a b ≤ n) :
    ∀ h', run n h c ≠ .unfinished h' := by
  induction n generalizing h c with
  | zero => simp [Heap.reach] at enough
  | succ n ih =>
    -- A call that unlinks never links, so its levels are those of the links that are left.
    by_cases unlinks : c.Unlinks
    · refine (run_shrinks (n + 1) regular unlinks ?_).ends
      simp only [Heap.reach] at enough
      omega
    have pair := between.resolve_left unlinks
    have recorded := regular.record c.receiver c.kind c.role
    have same := reach_record (h := h) a b c.receiver c.kind c.role
    -- The call on the object that comes links the same two objects, the other way round.
    have passes {g : Heap} {call : Option PartnerCall} {new : Nat} (regular : g.Regular)
        (given : c.argument = some new) (less : g.reach a b < h.reach a b) :
        ∀ h', passOn (run n) g call new c.receiver ≠ .unfinished h' := by
      cases call with
      | none => simp [passOn]
      | some call =>
        refine ih regular ?_ (by omega)
        by_cases self : call.passesSelf = true
        · right
          rw [PartnerCall.on, if_pos self]
          exact (partner_symm (pair.symm.trans given)).symm
        · left
          intro _
          rw [PartnerCall.on, if_neg self]
    have conduct := conducts (run n) h c
    change ∀ h', runWith (run n) h c ≠ .unfinished h'
    generalize runWith (run n) h c = o at conduct ⊢
    cases conduct with
    | refused e cause => simp
    | reads => simp
    | idles => simp
    | removes s values old kind found held given present => exact absurd (by simp [Call.Unlinks, kind]) unlinks
    | clears s old kind found held given => exact absurd (fun _ => given) unlinks
    | adds s values new kind found held given absent =>
      refine passes (recorded.hold _ _ _) given (same ▸ ?_)
      have less := reach_including_lt recorded (by simpa using found) (pair.symm.trans given)
        (by simp [held, Holding.HasRoom]) (by simpa [held, Holding.values] using absent)
      simpa [held, Holding.including] using less
    | fills s new kind found held given =>
      refine passes (recorded.hold _ _ _) given (same ▸ ?_)
      have less := reach_including_lt recorded (by simpa using found) (pair.symm.trans given)
        (by simp [held, Holding.HasRoom]) (by simp [held, Holding.values])
      simpa [held, Holding.including] using less
    | replaces s old new kind found held given ne =>
      have entered : (h.record c.receiver c.kind c.role).slot? c.receiver c.role = some s := by
        simpa using found
      have released := passOn_shrinks (n := n) (recorded.hold c.receiver c.role (.one none))
        (fun _ calls => recorded.detach entered calls) ?_ old c.receiver
      · generalize passOn (run n) _ s.detach old c.receiver = o at released ⊢
        cases o with
        | done g =>
          refine passes (released.within.regular.hold _ _ _) given (same ▸ ?_)
          exact reach_replace_lt recorded entered held (pair.symm.trans given) ne released.within
        | failed g e => simp [Outcome.andThen]
        | unfinished g => exact absurd rfl (released.ends g)
      · have change := recorded.total_hold entered (.one none) linkWeight
        simp only [Heap.total_record, linkWeight, held, Holding.values, Option.toList,
          List.length_singleton, List.length_nil] at change
        simp only [Heap.reach] at enough
        omega

/-- A run leaves objects regular: it writes and records. -/
theorem run_regular (n : Nat) (regular : h.Regular) (c : Call) : (run n h c).heap.Regular := by
  induction n generalizing h c with
  | zero => exact regular
  | succ n ih =>
    have passes {g : Heap} (regular : g.Regular) (next : Option PartnerCall) (v self : Nat) :
        (passOn (run n) g next v self).heap.Regular := by
      cases next with
      | none => exact regular
      | some call => exact ih regular _
    have entered := regular.record c.receiver c.kind c.role
    have conduct := conducts (run n) h c
    change (runWith (run n) h c).heap.Regular
    generalize runWith (run n) h c = o at conduct ⊢
    cases conduct with
    | refused | reads => exact regular
    | idles => exact entered
    | adds s values new => exact passes (entered.hold _ _ _) _ _ _
    | removes s values old => exact passes (entered.hold _ _ _) _ _ _
    | fills s new => exact passes (entered.hold _ _ _) _ _ _
    | clears s old =>
      have released := passes (entered.hold c.receiver c.role (.one none)) s.detach old c.receiver
      generalize passOn (run n) _ s.detach old c.receiver = o at released ⊢
      cases o with
      | done g => exact Heap.Regular.hold released _ _ _
      | failed | unfinished => exact released
    | replaces s old new =>
      have released := passes (entered.hold c.receiver c.role (.one none)) s.detach old c.receiver
      generalize passOn (run n) _ s.detach old c.receiver = o at released ⊢
      cases o with
      | done g => exact passes (Heap.Regular.hold released _ _ _) _ _ _
      | failed | unfinished => exact released

/-! ## Objects of classes -/

/-- The calls of members for an object that goes take something out. -/
theorem AssociationMember.onDetach_unlinks {d : AssociationMember} {c : PartnerCall}
    (calls : d.onDetach = some c) : c.Unlinks := by
  unfold AssociationMember.onDetach at calls
  split at calls
  · split at calls
    · obtain rfl := Option.some.inj calls
      simp [PartnerCall.Unlinks]
    · obtain rfl := Option.some.inj calls
      simp [PartnerCall.Unlinks]
  · exact absurd calls (by simp)

variable {m : Linked}

/-- An object of a class is regular. -/
theorem Object.IsOf.isRegular {owner : LinkedType} {o : Object} (isOf : o.IsOf m owner) :
    o.IsRegular := by
  refine ⟨isOf.names, fun s there c calls => ?_⟩
  obtain ⟨d, _, same⟩ := isOf.member_of_mem there
  exact AssociationMember.onDetach_unlinks ((congrArg (·.detach) same).symm.trans calls)

/-- Whether all objects are of classes of a model and the objects in their slots are among them. -/
structure Heap.MadeOf (h : Heap) (m : Linked) : Prop where
  isOf : ∀ o ∈ h.objects, ∃ owner, o.IsOf m owner
  values_lt : ∀ o ∈ h.objects, ∀ s ∈ o.slots, ∀ v ∈ s.holding.values, v < h.objects.length

/-- All objects of classes of a model are regular. -/
theorem Heap.MadeOf.regular (made : h.MadeOf m) : h.Regular := by
  intro x o there
  obtain ⟨owner, isOf⟩ := made.isOf o (List.mem_of_getElem? there)
  exact isOf.isRegular

/-- The objects in slots are among those of the heap. -/
theorem Heap.MadeOf.on (made : h.MadeOf m) : h.On h.objects.length := by
  refine ⟨rfl, fun {x r v} held => ?_⟩
  obtain ⟨s, found⟩ := Heap.slot?_of_mem_values held
  rw [Heap.values_of_slot found] at held
  obtain ⟨o, there, named⟩ := Option.bind_eq_some_iff.1 found
  exact made.values_lt o (List.mem_of_getElem? there) s (List.mem_of_find?_eq_some named) v held

/-- A call of an accessor with all calls that it makes is done, or one of them is on a role that its object
does not have or that is of the other kind.  More levels of calls than `Heap.perform` allows would not be
used.  Nothing is asked of what the slots hold, nor of the names of the roles. -/
theorem perform_ends (made : h.MadeOf m) (c : Call) (receiver : c.receiver < h.objects.length)
    (argument : ∀ v ∈ c.argument, v < h.objects.length) :
    (∃ h', h.perform c = .done h' ∨ ∃ e, e ≠ .noObject ∧ h.perform c = .failed h' e) ∧
      ∀ more, run (h.enoughFuel + more) h c = h.perform c := by
  have ends : ∀ h', h.perform c ≠ .unfinished h' := by
    -- The receiver and the argument are the two objects that the calls which link go to and fro between.
    refine run_ends (a := c.receiver) (b := c.argument.getD 0) _ made.regular ?_ (reach_le_enoughFuel ..)
    cases given : c.argument with
    | none => exact .inl fun _ => given
    | some v => exact .inr (by simp [partner])
  have stays := run_staysOn h.enoughFuel made.on c receiver argument
  refine ⟨?_, fun more => run_add_of_ends _ more c ends⟩
  change (h.perform c).StaysOn _ at stays
  generalize h.perform c = o at ends stays ⊢
  cases o with
  | done h' => exact ⟨h', .inl rfl⟩
  | failed h' e => exact ⟨h', .inr ⟨e, fun same => stays.found h' (same ▸ rfl), rfl⟩⟩
  | unfinished h' => exact absurd rfl (ends h')

/-- Two teams and a player between them: the first team has the player twice, who is in the second one,
which does not have the player. -/
def uneven : Heap :=
  ⟨[⟨"Team", [⟨"players", some (.linking "team" false), some (.unlinking "team" false), .many [2, 2]⟩], []⟩,
    ⟨"Team", [⟨"players", some (.linking "team" false), some (.unlinking "team" false), .many []⟩], []⟩,
    ⟨"Player", [⟨"team", some (.linking "players" true), some (.unlinking "players" true), .one (some 1)⟩],
      []⟩]⟩

/-- Links that are held on one side only, and an object that is held twice. -/
theorem perform_ends_of_uneven :
    uneven.MadeOf club.link ∧
      (∃ h', uneven.perform ⟨0, .removeFrom, "players", some 2⟩ = .done h' ∨
        ∃ e, e ≠ .noObject ∧ uneven.perform ⟨0, .removeFrom, "players", some 2⟩ = .failed h' e) ∧
      ∀ more, run (uneven.enoughFuel + more) uneven ⟨0, .removeFrom, "players", some 2⟩ =
        uneven.perform ⟨0, .removeFrom, "players", some 2⟩ := by
  have owned : ∀ o ∈ uneven.objects, ∃ owner ∈ club.link.classes, o.className = owner.name ∧
      o.slots.map Slot.emptied = slotsOf (club.link.associationMembers owner) := by
    decide +kernel
  have made : uneven.MadeOf club.link := by
    refine ⟨fun o there => ?_, by decide⟩
    obtain ⟨owner, _, name, slots⟩ := owned o there
    exact ⟨owner, name, slots⟩
  exact ⟨made, perform_ends made _ (by decide) (by decide)⟩

end Objects

end ClassDiagram
