import ClassDiagram.Proofs.Objects.Slots

/-!
# What one accessor does

The ways in which an accessor can run, given a runner for the calls that it makes: it is refused, it finds
nothing to change, or it writes one slot of its object and makes a call on each object that it takes out
or puts in.  `conducts` says that there are no other ways; every argument about all runs splits by it and
opens no accessor again.

Two facts about whole runs follow here: more fuel does not change a run that is done or failed, and a
run on objects that are there stays on them.
-/

set_option autoImplicit false

namespace ClassDiagram.Objects

/-- The ways in which an accessor can run. -/
inductive Conduct (exchange : Heap → Call → Outcome) (h : Heap) (c : Call) : Outcome → Prop where
  /-- There is no such object or slot, or the slot is of the other kind. -/
  | refused (e : CallError) (cause : e = .noObject → h.object? c.receiver = none) :
    Conduct exchange h c (.failed h e)
  /-- An accessor that only reads is done. -/
  | reads : Conduct exchange h c (.done h)
  /-- There is nothing to change. -/
  | idles : Conduct exchange h c (.done (h.record c.receiver c.kind c.role))
  /-- An object comes to a list. -/
  | adds (s : Slot) (values : List Nat) (new : Nat) (kind : c.kind = .addTo)
      (found : h.slot? c.receiver c.role = some s) (held : s.holding = .many values)
      (given : c.argument = some new) (absent : new ∉ values) :
    Conduct exchange h c (passOn exchange
      ((h.record c.receiver c.kind c.role).hold c.receiver c.role (.many (values ++ [new])))
      s.attach new c.receiver)
  /-- An object goes from a list. -/
  | removes (s : Slot) (values : List Nat) (old : Nat) (kind : c.kind = .removeFrom)
      (found : h.slot? c.receiver c.role = some s) (held : s.holding = .many values)
      (given : c.argument = some old) (present : old ∈ values) :
    Conduct exchange h c (passOn exchange
      ((h.record c.receiver c.kind c.role).hold c.receiver c.role (.many (values.erase old)))
      s.detach old c.receiver)
  /-- An object comes to an empty slot. -/
  | fills (s : Slot) (new : Nat) (kind : c.kind = .set)
      (found : h.slot? c.receiver c.role = some s) (held : s.holding = .one none)
      (given : c.argument = some new) :
    Conduct exchange h c (passOn exchange
      ((h.record c.receiver c.kind c.role).hold c.receiver c.role (.one (some new)))
      s.attach new c.receiver)
  /-- The object of a slot goes, and nothing comes. -/
  | clears (s : Slot) (old : Nat) (kind : c.kind = .set)
      (found : h.slot? c.receiver c.role = some s) (held : s.holding = .one (some old))
      (given : c.argument = none) :
    Conduct exchange h c ((passOn exchange
      ((h.record c.receiver c.kind c.role).hold c.receiver c.role (.one none))
      s.detach old c.receiver).andThen fun h => .done (h.hold c.receiver c.role (.one none)))
  /-- The object of a slot goes, and another one comes. -/
  | replaces (s : Slot) (old new : Nat) (kind : c.kind = .set)
      (found : h.slot? c.receiver c.role = some s) (held : s.holding = .one (some old))
      (given : c.argument = some new) (ne : old ≠ new) :
    Conduct exchange h c ((passOn exchange
      ((h.record c.receiver c.kind c.role).hold c.receiver c.role (.one none))
      s.detach old c.receiver).andThen fun h =>
        passOn exchange (h.hold c.receiver c.role (.one (some new))) s.attach new c.receiver)

/-- The slot that is found for a role has the name of the role. -/
theorem Heap.name_of_slot? {h : Heap} {x : Nat} {r : String} {s : Slot} (found : h.slot? x r = some s) :
    s.name = r := by
  obtain ⟨object, _, named⟩ := Option.bind_eq_some_iff.1 found
  simpa using List.find?_some named

variable {h : Heap} {exchange : Heap → Call → Outcome}

/-- A `set` of a slot for a single object runs in one of the ways of an accessor. -/
theorem conducts_set {x : Nat} {r : String} {s : Slot} (found : h.slot? x r = some s)
    {current : Option Nat} (held : s.holding = .one current) (argument : Option Nat) :
    Conduct exchange h ⟨x, .set, r, argument⟩
      (runSet exchange (h.record x .set r) x s current argument) := by
  have named := Heap.name_of_slot? found
  by_cases same : current = argument
  · unfold runSet
    rw [if_pos same]
    exact .idles
  · unfold runSet
    rw [if_neg same, named]
    cases current with
    | none =>
      cases argument with
      | none => exact absurd rfl same
      | some new => exact .fills s new rfl found held rfl
    | some old =>
      cases argument with
      | none => exact .clears s old rfl found held rfl
      | some new => exact .replaces s old new rfl found held rfl (by simpa using same)

/-- An `addTo` of a slot for a list runs in one of the ways of an accessor. -/
theorem conducts_add {x : Nat} {r : String} {s : Slot} (found : h.slot? x r = some s)
    {values : List Nat} (held : s.holding = .many values) (argument : Option Nat) :
    Conduct exchange h ⟨x, .addTo, r, argument⟩
      (runAdd exchange (h.record x .addTo r) x s values argument) := by
  cases argument with
  | none => exact .idles
  | some new =>
    by_cases present : new ∈ values
    · rw [runAdd, if_pos (by simpa using present)]
      exact .idles
    · rw [runAdd, if_neg (by simpa using present), Heap.name_of_slot? found]
      exact .adds s values new rfl found held rfl present

/-- A `removeFrom` of a slot for a list runs in one of the ways of an accessor. -/
theorem conducts_remove {x : Nat} {r : String} {s : Slot} (found : h.slot? x r = some s)
    {values : List Nat} (held : s.holding = .many values) (argument : Option Nat) :
    Conduct exchange h ⟨x, .removeFrom, r, argument⟩
      (runRemove exchange (h.record x .removeFrom r) x s values argument) := by
  cases argument with
  | none => exact .idles
  | some old =>
    by_cases present : old ∈ values
    · rw [runRemove, if_pos (by simpa using present), Heap.name_of_slot? found]
      exact .removes s values old rfl found held rfl present
    · rw [runRemove, if_neg (by simpa using present)]
      exact .idles

/-- An accessor runs in one of these ways. -/
theorem conducts (exchange : Heap → Call → Outcome) (h : Heap) (c : Call) :
    Conduct exchange h c (runWith exchange h c) := by
  obtain ⟨x, kind, r, argument⟩ := c
  cases there : h.object? x with
  | none =>
    simp only [runWith, there]
    exact .refused _ fun _ => there
  | some object =>
    cases named : object.slot? r with
    | none =>
      simp only [runWith, there, named]
      exact .refused _ (by simp)
    | some s =>
      have found : h.slot? x r = some s := by simp [Heap.slot?, there, named]
      simp only [runWith, there, named]
      cases held : s.holding with
      | one current =>
        cases kind with
        | get => exact .reads
        | sizeOf => exact .refused _ (by simp)
        | set => exact conducts_set found held argument
        | addTo => exact .refused _ (by simp)
        | removeFrom => exact .refused _ (by simp)
      | many values =>
        cases kind with
        | get => exact .reads
        | sizeOf => exact .reads
        | set => exact .refused _ (by simp)
        | addTo => exact conducts_add found held argument
        | removeFrom => exact conducts_remove found held argument

/-! ## Fuel -/

section Fuel

variable {more : Heap → Call → Outcome}

/-- Where a runner agrees with another one on the calls that end, it agrees on the call that an accessor
makes, if that one ends. -/
theorem passOn_congr
    (agree : ∀ h c, (∀ h', exchange h c ≠ .unfinished h') → more h c = exchange h c)
    {call : Option PartnerCall} {receiver self : Nat}
    (ends : ∀ h', passOn exchange h call receiver self ≠ .unfinished h') :
    passOn more h call receiver self = passOn exchange h call receiver self := by
  cases call with
  | none => rfl
  | some c => exact agree _ _ ends

/-- The same for two parts of a run, one after the other. -/
theorem andThen_congr {o o' : Outcome} {next next' : Heap → Outcome}
    (ends : ∀ h', o.andThen next ≠ .unfinished h')
    (first : (∀ h', o ≠ .unfinished h') → o' = o)
    (second : ∀ h, (∀ h', next h ≠ .unfinished h') → next' h = next h) :
    o'.andThen next' = o.andThen next := by
  cases o with
  | done h =>
    rw [first (by simp)]
    exact second h ends
  | failed h e =>
    rw [first (by simp)]
    rfl
  | unfinished h => exact absurd rfl (ends h)

/-- A `set` that ends also ends so with an exchange that goes on where the first one does not. -/
theorem runSet_congr
    (agree : ∀ h c, (∀ h', exchange h c ≠ .unfinished h') → more h c = exchange h c) {x : Nat} {s : Slot}
    {current argument : Option Nat} (ends : ∀ h', runSet exchange h x s current argument ≠ .unfinished h') :
    runSet more h x s current argument = runSet exchange h x s current argument := by
  unfold runSet at ends ⊢
  split
  · rfl
  · next differs =>
    simp only [differs, if_false] at ends
    refine andThen_congr ends ?_ ?_
    · intro ends
      cases current with
      | none => rfl
      | some old => exact passOn_congr agree ends
    · intro h ends
      cases argument with
      | none => rfl
      | some new => exact passOn_congr agree ends

/-- An `addTo` that ends also ends so with an exchange that goes on where the first one does not. -/
theorem runAdd_congr
    (agree : ∀ h c, (∀ h', exchange h c ≠ .unfinished h') → more h c = exchange h c) {x : Nat} {s : Slot}
    {values : List Nat} {argument : Option Nat}
    (ends : ∀ h', runAdd exchange h x s values argument ≠ .unfinished h') :
    runAdd more h x s values argument = runAdd exchange h x s values argument := by
  cases argument with
  | none => rfl
  | some new =>
    simp only [runAdd] at ends ⊢
    split
    · rfl
    · next absent =>
      simp only [absent] at ends
      exact passOn_congr agree ends

/-- A `removeFrom` that ends also ends so with an exchange that goes on where the first one does not. -/
theorem runRemove_congr
    (agree : ∀ h c, (∀ h', exchange h c ≠ .unfinished h') → more h c = exchange h c) {x : Nat} {s : Slot}
    {values : List Nat} {argument : Option Nat}
    (ends : ∀ h', runRemove exchange h x s values argument ≠ .unfinished h') :
    runRemove more h x s values argument = runRemove exchange h x s values argument := by
  cases argument with
  | none => rfl
  | some old =>
    simp only [runRemove] at ends ⊢
    split
    · next present =>
      simp only [present, if_true] at ends
      exact passOn_congr agree ends
    · rfl

/-- The same for a call, which runs one accessor or none. -/
theorem runWith_congr
    (agree : ∀ h c, (∀ h', exchange h c ≠ .unfinished h') → more h c = exchange h c) {c : Call}
    (ends : ∀ h', runWith exchange h c ≠ .unfinished h') : runWith more h c = runWith exchange h c := by
  obtain ⟨x, kind, r, argument⟩ := c
  simp only [runWith] at ends ⊢
  split
  · rfl
  · next object there =>
    simp only [there] at ends
    split
    · rfl
    · next s named =>
      simp only [named] at ends
      cases held : s.holding with
      | one current =>
        simp only [held] at ends ⊢
        cases kind with
        | set => exact runSet_congr agree ends
        | get | sizeOf | addTo | removeFrom => rfl
      | many values =>
        simp only [held] at ends ⊢
        cases kind with
        | addTo => exact runAdd_congr agree ends
        | removeFrom => exact runRemove_congr agree ends
        | get | sizeOf | set => rfl

end Fuel

/-- A run that ends does not need more fuel. -/
theorem run_add_of_ends (n more : Nat) (c : Call) (ends : ∀ h', run n h c ≠ .unfinished h') :
    run (n + more) h c = run n h c := by
  induction n generalizing h c with
  | zero => exact absurd rfl (ends h)
  | succ n ih =>
    rw [Nat.add_right_comm]
    exact runWith_congr (fun h c ends => ih c ends) ends

/-! ## The objects of a run -/

/-- Whether there are a number of objects and every object in a slot is one of them. -/
structure Heap.On (h : Heap) (count : Nat) : Prop where
  length : h.objects.length = count
  values_lt : ∀ {x r v}, v ∈ h.values x r → v < count

/-- Whether a run stays on a number of objects: it leaves them, and does not look for another one. -/
structure Outcome.StaysOn (o : Outcome) (count : Nat) : Prop where
  heap : o.heap.On count
  found : ∀ h, o ≠ .failed h .noObject

section Objects

variable {count : Nat}

/-- An entry in the trace of an object brings no other objects in. -/
theorem Heap.On.record (on : h.On count) (x : Nat) (kind : AccessorKind) (r : String) :
    (h.record x kind r).On count := by
  refine ⟨by simpa [Heap.record, Heap.modify] using on.length, fun {y o v} held => ?_⟩
  simp only [Heap.values, Heap.holding?, Heap.slot?_record] at held
  exact on.values_lt held

/-- What is put into a slot brings no other objects in, if it holds none. -/
theorem Heap.On.hold (on : h.On count) {k : Holding} (new : ∀ v ∈ k.values, v < count) (x : Nat)
    (r : String) : (h.hold x r k).On count := by
  refine ⟨by simpa [Heap.hold, Heap.modify] using on.length, fun {y o v} held => ?_⟩
  simp only [Heap.values, Heap.holding?, Heap.slot?_hold] at held
  split at held
  · cases found : h.slot? y o with
    | none => simp [found] at held
    | some s => exact new v (by simpa [found] using held)
  · exact on.values_lt held

/-- An object in a slot is one of the objects of the heap. -/
theorem Heap.On.lt_of_slot (on : h.On count) {x : Nat} {r : String} {s : Slot}
    (found : h.slot? x r = some s) {v : Nat} (held : v ∈ s.holding.values) : v < count :=
  on.values_lt (x := x) (r := r) (by simpa [Heap.values, Heap.holding?, found] using held)

/-- The call that an accessor makes on another object passes its own object, or nothing. -/
theorem PartnerCall.argument_on {c : PartnerCall} {receiver self v : Nat}
    (given : v ∈ (PartnerCall.on c receiver self).argument) : v = self := by
  unfold PartnerCall.on at given
  split at given
  · exact (Option.some.inj given).symm
  · cases given

/-- A run on objects that are there stays on them. -/
theorem run_staysOn (n : Nat) (on : h.On count) (c : Call) (receiver : c.receiver < count)
    (argument : ∀ v ∈ c.argument, v < count) : (run n h c).StaysOn count := by
  induction n generalizing h c with
  | zero => exact ⟨on, by simp [run]⟩
  | succ n ih =>
    have passes {g : Heap} (on : g.On count) (next : Option PartnerCall) {v : Nat} (lt : v < count) :
        (passOn (run n) g next v c.receiver).StaysOn count := by
      cases next with
      | none => exact ⟨on, by simp [passOn]⟩
      | some call => exact ih on _ lt fun w given => PartnerCall.argument_on given ▸ receiver
    -- Whatever comes to a slot is the argument, and whatever goes from one was there.
    have conduct := conducts (run n) h c
    change (runWith (run n) h c).StaysOn count
    generalize runWith (run n) h c = o at conduct ⊢
    have entered := on.record c.receiver c.kind c.role
    cases conduct with
    | refused e cause =>
      refine ⟨on, fun h' same => ?_⟩
      have missing := cause (by simpa using (Outcome.failed.inj same).2)
      rw [Heap.object?, List.getElem?_eq_none_iff] at missing
      have := on.length
      omega
    | reads => exact ⟨on, by simp⟩
    | idles => exact ⟨entered, by simp⟩
    | adds s values new kind found held given absent =>
      refine passes (entered.hold ?_ _ _) _ (argument new given)
      intro v there
      rcases List.mem_append.1 there with old | last
      · exact on.lt_of_slot found (by simpa [held, Holding.values] using old)
      · exact List.mem_singleton.1 last ▸ argument new given
    | removes s values old kind found held given present =>
      refine passes (entered.hold ?_ _ _) _ (argument old given)
      intro v there
      exact on.lt_of_slot found (by simpa [held, Holding.values] using List.mem_of_mem_erase there)
    | fills s new kind found held given =>
      refine passes (entered.hold ?_ _ _) _ (argument new given)
      simpa [Holding.values] using argument new given
    | clears s old kind found held given =>
      have there : old < count := on.lt_of_slot found (by simp [held, Holding.values])
      have released := passes (entered.hold (k := .one none) (by simp [Holding.values]) c.receiver c.role)
        s.detach there
      generalize passOn (run n) _ s.detach old c.receiver = o at released ⊢
      cases o with
      | done g => exact ⟨released.heap.hold (by simp [Holding.values]) _ _, by simp [Outcome.andThen]⟩
      | failed g e => exact released
      | unfinished g => exact released
    | replaces s old new kind found held given ne =>
      have there : old < count := on.lt_of_slot found (by simp [held, Holding.values])
      have released := passes (entered.hold (k := .one none) (by simp [Holding.values]) c.receiver c.role)
        s.detach there
      generalize passOn (run n) _ s.detach old c.receiver = o at released ⊢
      cases o with
      | done g =>
        exact passes (released.heap.hold (by simpa [Holding.values] using argument new given) _ _) _
          (argument new given)
      | failed g e => exact released
      | unfinished g => exact released

end Objects

end ClassDiagram.Objects
