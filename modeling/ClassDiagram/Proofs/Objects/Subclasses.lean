import ClassDiagram.Proofs.Model.WellFormed
import ClassDiagram.Proofs.Objects.Sides
import ClassDiagram.Proofs.Objects.Termination

/-!
# Objects of subclasses

An object has slots for the members of its own class only.  If an object `x` is to hold an object `v` of
a subclass of the class that a member is for, `x` takes `v` and then calls an accessor that `v` inherits;
there may be no slot for it.  If the class of `v` happens to have a member of that name and kind, the
exchange goes on with the opposite end of that one, and so on to and fro between the two objects.

`Linked.Strands` says of two classes that such an exchange comes to a member that there is not.  While it
lasts, all links but those between the two objects stay on both sides (`Exchanging`), and each call puts
one of the two into a slot of the other one (`Exchanging.comes`).  So an exchange that ends is done unless
it strands (`Exchanging.joins`), and is not done if it does (`Exchanging.not_done_of_strands`).
-/

set_option autoImplicit false

namespace ClassDiagram

/-! ## Members that answer each other -/

/-- Whether a member takes the call that another one makes on an object that comes to it. -/
def AssociationMember.Answers (e d : AssociationMember) : Prop :=
  e.name = d.opposite.name ∧ e.isList = d.opposite.isList

namespace Linked

/-- Whether the calls to link an object of the class of a member with an object of another class, the
first one being on the member, come to a member that there is not after a number of others. -/
inductive StrandsAfter (m : Linked) : Nat → AssociationMember → LinkedType → Prop where
  | here {d : AssociationMember} {other : LinkedType} (calls : d.isBidirectional = true)
    (missing : ∀ e ∈ m.associationMembers other, ¬ e.Answers d) : StrandsAfter m 0 d other
  | later {n : Nat} {d e : AssociationMember} {other : LinkedType} (calls : d.isBidirectional = true)
    (member : e ∈ m.associationMembers other) (answers : e.Answers d)
    (rest : StrandsAfter m n e d.owner) : StrandsAfter m (n + 1) d other

/-- Whether the calls to link two objects come to a member that there is not. -/
def Strands (m : Linked) (d : AssociationMember) (other : LinkedType) : Prop :=
  ∃ n, m.StrandsAfter n d other

variable {m : Linked} {d e : AssociationMember} {owner other : LinkedType} {n n' : Nat}

/-- A member from which calls strand has an opposite end. -/
theorem StrandsAfter.calls (strands : m.StrandsAfter n d other) : d.isBidirectional = true := by
  cases strands with
  | here calls _ => exact calls
  | later calls _ _ _ => exact calls

/-- Among members of different names one answers a member. -/
theorem answer_eq (names : ((m.associationMembers other).map (·.name)).Nodup) {e' : AssociationMember}
    (member : e ∈ m.associationMembers other) (answers : e.Answers d)
    (member' : e' ∈ m.associationMembers other) (answers' : e'.Answers d) : e = e' :=
  List.inj_on_of_nodup_map names member member' (answers.1.trans answers'.1.symm)

section Owners

variable (rooted : m.IsRooted) (isClass : owner ∈ m.everyClass) (otherIsClass : other ∈ m.everyClass)
  (names : ((m.associationMembers owner).map (·.name)).Nodup)
  (otherNames : ((m.associationMembers other).map (·.name)).Nodup)
include rooted isClass otherIsClass names otherNames

/-- Members of a class have different names, so there is one way for the calls to go. -/
theorem StrandsAfter.unique (strands : m.StrandsAfter n d other) (member : d ∈ m.associationMembers owner)
    (again : m.StrandsAfter n' d other) : n = n' := by
  induction strands generalizing owner n' with
  | here calls missing =>
    cases again with
    | here => rfl
    | later _ member' answers' _ => exact absurd answers' (missing _ member')
  | later calls member' answers rest ih =>
    cases again with
    | here _ missing => exact absurd answers (missing _ member')
    | later _ member'' answers'' rest'' =>
      obtain rfl := answer_eq otherNames member' answers member'' answers''
      obtain rfl := ((rooted.mem_associationMembers isClass).1 member).1
      exact congrArg (· + 1) (ih otherIsClass isClass otherNames names member' rest'')

/-- Between two objects of the classes at the ends of an association the calls go to and fro. -/
theorem not_strands_of_target (member : d ∈ m.associationMembers owner)
    (leads : d.target.map (·.key) = some other.key) : ¬ m.Strands d other := by
  rintro ⟨n, strands⟩
  obtain ⟨t, found, same⟩ := Option.map_eq_some_iff.1 leads
  obtain ⟨_, opposite, _⟩ := rooted.opposite_member isClass member otherIsClass found same
  obtain ⟨owned, _⟩ := (rooted.mem_associationMembers isClass).1 member
  cases strands with
  | here _ missing => exact missing _ opposite ⟨rfl, rfl⟩
  | later calls member' answers rest =>
    obtain rfl := answer_eq otherNames opposite ⟨rfl, rfl⟩ member' answers
    have whole := StrandsAfter.later calls member' answers rest
    cases rest with
    | here _ missing => exact missing d (owned ▸ member) ⟨rfl, rfl⟩
    | later _ member'' answers' rest' =>
      obtain rfl := answer_eq (owned ▸ names) (owned ▸ member) ⟨rfl, rfl⟩ member'' answers'
      have := rest'.unique rooted isClass otherIsClass names otherNames member whole
      omega

end Owners

end Linked

namespace Objects

/-! ## The course of an exchange -/

/-- Whether two objects are a given pair, in either order. -/
def IsPair (x v p q : Nat) : Prop := p = x ∧ q = v ∨ p = v ∧ q = x

variable {m : Linked} {w : World} {h g : Heap} {x v y z p q old n : Nat} {r : String} {s : Slot}
  {owner other : LinkedType} {d e : AssociationMember}

/-- Two objects are a pair in either order. -/
theorem IsPair.symm (pair : IsPair x v y z) : IsPair x v z y := by
  unfold IsPair at *
  omega

/-- The other object of a pair is determined by the first one. -/
theorem IsPair.unique (pair : IsPair x v y p) (again : IsPair x v y q) : p = q := by
  unfold IsPair at *
  omega

/-- A heap between the calls of two objects on each other: the slots are those of a world, and all links
but those between the two are held on both sides. -/
structure Exchanging (w : World) (x v : Nat) (h : Heap) : Prop where
  shape : ∀ y r, h.shape? y r = w.heap.shape? y r
  paired : h.PairedBut (IsPair x v)

/-- Whether a heap has the links of another one between two objects, and one more. -/
def Gains (x v : Nat) (g h : Heap) (y : Nat) (r : String) (z : Nat) : Prop :=
  ∀ p q, IsPair x v p q → ∀ role, q ∈ g.values p role ↔ q ∈ h.values p role ∨ p = y ∧ role = r ∧ q = z

/-- Entries in the traces leave a heap between the calls of two objects on each other. -/
theorem Exchanging.recordAll (exchanging : Exchanging w x v h) (es : List Heap.Entry) :
    Exchanging w x v (h.recordAll es) :=
  ⟨fun y r => by rw [Heap.shape?_recordAll, exchanging.shape], exchanging.paired.recordAll es⟩

/-- A link that ends leaves a heap between the calls of two objects on each other. -/
theorem Exchanging.part (exchanging : Exchanging w x v h) {o : String} (dual : h.Dual y r z o) :
    Exchanging w x v (h.part y r z o) :=
  ⟨fun p q => by rw [Heap.shape?_part, exchanging.shape], exchanging.paired.part dual⟩

/-- An object of the pair comes to a slot of the other one, which has room or makes no calls. -/
theorem Exchanging.including (exchanging : Exchanging w x v h) (found : h.slot? y r = some s)
    (pair : IsPair x v y z) (new : z ∉ h.values y r) (free : s.holding.HasRoom ∨ s.attach = none) :
    Exchanging w x v (h.adjust y r (·.including z)) ∧ Gains x v (h.adjust y r (·.including z)) h y r z := by
  have shape := Heap.shape?_adjust (h := h) (x := y) (r := r) (Holding.isList_including z)
  have self : (h.adjust y r (·.including z)).values y r = (s.holding.including z).values :=
    Heap.values_of_slot (Heap.slot?_adjust_self found _)
  refine ⟨⟨fun p q => by rw [shape, exchanging.shape], fun p q => ?_, ?_⟩, fun p q pair' role => ?_⟩
  · by_cases here : p = y ∧ q = r
    · obtain ⟨rfl, rfl⟩ := here
      have before := exchanging.paired.nodup p q
      rw [self]
      rw [Heap.values_of_slot found] at before new
      cases held : s.holding with
      | one value => simp [Holding.including, Holding.values]
      | many values =>
        rw [held] at before new
        exact before.append (List.nodup_singleton z) (by simpa [Holding.values] using new)
    · rw [Heap.values_adjust_of_ne here]
      exact exchanging.paired.nodup p q
  · intro p q t o b u found' faces held counts
    obtain ⟨t', found'', same⟩ := Heap.slot?_of_shape (fun p q => (shape p q).symm) found'
    have faces' := faces.of_emptied same.symm
    -- The link that comes is one of the pair.
    have old : u ∈ h.values p q := by
      rcases Heap.mem_values_of_including held with old | ⟨rfl, rfl, rfl⟩
      · exact old
      · exact absurd pair counts
    obtain ⟨dual, back⟩ := exchanging.paired.both found'' faces' old counts
    refine ⟨dual.of_shape shape, ?_⟩
    by_cases here : u = y ∧ o = r
    · obtain ⟨rfl, rfl⟩ := here
      obtain ⟨_, s', _, there, _, calls⟩ := dual.faces
      obtain rfl : s' = s := Option.some.inj (there.symm.trans found)
      have room := free.resolve_right fun silent => absurd (silent.symm.trans calls.attach) (by simp)
      rw [self, Holding.values_including room, ← Heap.values_of_slot found]
      exact List.mem_append_left _ back
    · rwa [Heap.values_adjust_of_ne here]
  · refine ⟨Heap.mem_values_of_including, ?_⟩
    have comes : z ∈ (h.adjust y r (·.including z)).values y r := by
      rw [self]
      exact Holding.mem_values_including ..
    rintro (old | ⟨rfl, rfl, rfl⟩)
    · by_cases here : p = y ∧ role = r
      · obtain ⟨rfl, rfl⟩ := here
        rwa [pair'.unique pair]
      · rwa [Heap.values_adjust_of_ne here]
    · exact comes

/-- Entries in the traces leave the links that were gained. -/
theorem Gains.recordAll (gains : Gains x v g h y r z) (es : List Heap.Entry) :
    Gains x v (g.recordAll es) h y r z := fun p q pair role => by
  rw [Heap.values_recordAll]
  exact gains p q pair role

/-- The end of a link with a third object changes no link between the two. -/
theorem mem_values_part_iff {o : String} (dual : h.Dual y r old o) (pair : IsPair x v y z)
    (other : old ≠ z) (pair' : IsPair x v p q) (role : String) :
    q ∈ (h.part y r old o).values p role ↔ q ∈ h.values p role := by
  rw [Heap.values_part dual.slot_ne]
  split
  · next here =>
    obtain rfl : q = z := (here.1 ▸ pair').unique pair
    exact List.mem_erase_of_ne (Ne.symm other)
  · split
    · next here =>
      have apart : q ≠ y := by
        rintro rfl
        exact other (pair'.symm.unique pair ▸ here.1.symm)
      exact List.mem_erase_of_ne apart
    · exact Iff.rfl

/-! ## Slots of members -/

section Members

variable (sound : w.IsSound m)
  (exchanging : Exchanging w x v h) (owned : w.owners[y]? = some owner)
include sound exchanging owned

/-- Between the calls an object has a slot for each member of its class. -/
theorem Exchanging.slot (member : d ∈ m.associationMembers owner) :
    ∃ s, h.slot? y d.name = some s ∧ s.emptied = Slot.ofMember d := by
  obtain ⟨s, found, same⟩ := sound.slot owned member
  obtain ⟨s', found', same'⟩ := Heap.slot?_of_shape exchanging.shape found
  exact ⟨s', found', same'.trans same⟩

end Members

/-! ## One call -/

/-- The call to link at the far end of a member is on the member itself. -/
theorem linkingAt_far (d : AssociationMember) (y z : Nat) :
    linkingAt d.far y z = ⟨y, if d.isList then .addTo else .set, d.name, some z⟩ := rfl

/-- A call to link on a slot with room puts the object in and goes on with the call to link. -/
theorem run_linkingAt_of_room (found : h.slot? y d.name = some s)
    (kind : s.holding.isList = d.isList) (room : s.holding.HasRoom) (new : z ∉ s.holding.values) (n : Nat) :
    ∃ es, run (n + 1) h (linkingAt d.far y z) =
      passOn (run n) ((h.adjust y d.name (·.including z)).recordAll es) s.attach z y := by
  have named := Heap.name_of_slot? found
  cases held : s.holding with
  | many values =>
    rw [held] at kind new
    refine ⟨[(y, .addTo, d.name)], ?_⟩
    rw [linkingAt_far, ← kind, if_pos (by rfl), run_addTo found held, runAdd,
      if_neg (by simpa [Holding.values] using new), named,
      Heap.hold_record, Heap.hold_eq_adjust (Heap.holding?_of_slot found) (·.including z) (by rw [held]; rfl)]
    rfl
  | one value =>
    rw [held] at kind room
    obtain rfl : value = none := room
    refine ⟨[(y, .set, d.name)], ?_⟩
    rw [linkingAt_far, ← kind, if_neg (by simp [Holding.isList]), run_set found held, runSet,
      if_neg (by simp)]
    simp only [Outcome.andThen]
    rw [named, Heap.hold_record,
      Heap.hold_eq_adjust (Heap.holding?_of_slot found) (·.including z) (by rw [held]; rfl)]
    rfl

/-- A call to link on a slot that is taken. -/
theorem run_linkingAt_of_taken (found : h.slot? y d.name = some s)
    (kind : s.holding.isList = d.isList) (held : s.holding = .one (some old)) (ne : old ≠ z) (n : Nat) :
    run (n + 1) h (linkingAt d.far y z) =
      (passOn (run n) ((h.adjust y d.name (·.without old)).recordAll [(y, .set, d.name)])
        s.detach old y).andThen fun h =>
          passOn (run n) (h.hold y d.name (.one (some z))) s.attach z y := by
  rw [linkingAt_far, ← kind, held, if_neg (by simp [Holding.isList]), run_set found held, runSet,
    if_neg (by simpa using ne)]
  simp only
  rw [Heap.name_of_slot? found, Heap.hold_record,
    Heap.hold_eq_adjust (Heap.holding?_of_slot found) (·.without old) (by simp [held, Holding.without])]
  rfl

section Calls

variable (sound : w.IsSound m)
  (exchanging : Exchanging w x v h) (owned : w.owners[y]? = some owner)
  (member : d ∈ m.associationMembers owner)
include sound exchanging owned member

/-- To link two objects of which the one has the other one changes nothing. -/
theorem Exchanging.idles (present : z ∈ h.values y d.name) (n : Nat) :
    ∃ es, run (n + 1) h (linkingAt d.far y z) = .done (h.recordAll es) := by
  obtain ⟨s, found, same⟩ := exchanging.slot sound owned member
  rw [Heap.values_of_slot found] at present
  obtain ⟨es, _, done⟩ := settles_linking_idle found present
  have idle := done n []
  rw [World.isList_of_emptied same] at idle
  exact ⟨es, idle⟩

/-- Otherwise the call puts the one into the slot of the other one, and goes on with the opposite end. -/
theorem Exchanging.comes (pair : IsPair x v y z) (new : z ∉ h.values y d.name) (n : Nat) :
    (∃ g, run (n + 1) h (linkingAt d.far y z) = .unfinished g) ∨
      ∃ g, Exchanging w x v g ∧ Gains x v g h y d.name z ∧
        run (n + 1) h (linkingAt d.far y z) = passOn (run n) g d.onAttach z y := by
  obtain ⟨s, found, same⟩ := exchanging.slot sound owned member
  have kind : s.holding.isList = d.far.isList := World.isList_of_emptied same
  have attach : s.attach = d.onAttach := congrArg (·.attach) same
  have detach : s.detach = d.onDetach := congrArg (·.detach) same
  have new' : z ∉ s.holding.values := Heap.values_of_slot found ▸ new
  by_cases room : s.holding.HasRoom
  · obtain ⟨es, runs⟩ := run_linkingAt_of_room found kind room new' n
    obtain ⟨exchanging', gains⟩ := exchanging.including found pair new (.inl room)
    exact .inr ⟨_, exchanging'.recordAll es, gains.recordAll es, attach ▸ runs⟩
  · obtain ⟨old, held⟩ := s.holding.taken_of_not_hasRoom room
    have ne : old ≠ z := by
      rintro rfl
      simp [held, Holding.values] at new'
    have runs := run_linkingAt_of_taken found kind held ne n
    cases calls : d.isBidirectional with
    | false =>
      obtain ⟨silent, silent'⟩ := AssociationMember.calls_of_not_isBidirectional calls
      obtain ⟨exchanging', gains⟩ := exchanging.including found pair new (.inr (attach.trans silent))
      refine .inr ⟨_, exchanging'.recordAll [(y, .set, d.name)], gains.recordAll _, runs.trans ?_⟩
      rw [detach, silent', attach, ← Heap.hold_without found held old z, ← Heap.hold_recordAll]
      rfl
    | true =>
      have faces := World.faces_of_emptied same calls
      have there : old ∈ h.values y d.name := by
        simp [Heap.values_of_slot found, held, Holding.values]
      obtain ⟨dual, back⟩ := exchanging.paired.both found faces there fun pair' => ne (pair'.unique pair)
      have released := settles_release found dual (by simp [held, Holding.without, Holding.HasRoom])
        (by rw [Holding.values_without, held]; simp [Holding.values]) back
      rcases released.of_ends n [(y, .set, d.name)] with ⟨g, unfinished⟩ | ⟨es, done⟩
      · exact .inl ⟨g, runs.trans (by rw [unfinished]; rfl)⟩
      · have emptied : (h.part y d.name old d.opposite.name).slot? y d.name =
            some { s with holding := .one none } := by
          rw [Heap.part, Heap.slot?_adjust_of_ne dual.slot_ne, Heap.slot?_adjust_self found]
          simp [held, Holding.without]
        have parted {p q : Nat} := mem_values_part_iff (p := p) (q := q) dual pair ne
        obtain ⟨exchanging', gains⟩ := (exchanging.part dual).including emptied pair
          (fun held => new ((parted pair d.name).1 held)) (.inl rfl)
        refine .inr ⟨_, exchanging'.recordAll es, fun p q pair' role => ?_, runs.trans ?_⟩
        · rw [Heap.values_recordAll, gains p q pair' role, parted pair' role]
        · rw [done, attach, ← Heap.hold_eq_adjust (Heap.holding?_of_slot emptied) (·.including z) rfl,
            ← Heap.hold_recordAll]
          rfl

end Calls

/-! ## Whole exchanges -/

/-- The call that a member with an opposite end makes for a new object is the one to link at that end. -/
theorem passOn_onAttach (calls : d.isBidirectional = true) :
    passOn (run n) h d.onAttach z y = run n h (linkingAt d.opposite z y) := by
  rw [AssociationMember.onAttach_of_isBidirectional calls]
  rfl

/-- A member that answers another one is called as that one calls its opposite end. -/
theorem linkingAt_of_answers (answers : e.Answers d) :
    linkingAt e.far z y = linkingAt d.opposite z y := by
  obtain ⟨named, kind⟩ := answers
  rw [linkingAt_far, named, kind]
  rfl

section Runs

variable (sound : w.IsSound m) (rooted : m.IsRooted)
include sound

/-- A call to link is refused where the class of the receiver has no member for it. -/
theorem Exchanging.refuses (exchanging : Exchanging w x v g) (owned : w.owners[z]? = some other)
    (missing : ∀ e ∈ m.associationMembers other, ¬ e.Answers d) (y n : Nat) :
    (∃ h', run n g (linkingAt d.opposite z y) = .unfinished h') ∨
      ∃ e, run n g (linkingAt d.opposite z y) = .failed g e := by
  cases n with
  | zero => exact .inl ⟨g, rfl⟩
  | succ n =>
    cases there : g.object? z with
    | none => exact .inr ⟨.noObject, by simp only [run, runWith, linkingAt, there]⟩
    | some object =>
      have changes : (linkingAt d.opposite z y).kind = .set ∨ (linkingAt d.opposite z y).kind = .addTo ∨
          (linkingAt d.opposite z y).kind = .removeFrom := by
        unfold linkingAt
        split <;> simp
      obtain ⟨e, _, failed⟩ := Heap.run_refuses n there changes fun s found => by
        obtain ⟨s', found', same'⟩ := Heap.slot?_of_shape (fun p q => (exchanging.shape p q).symm) found
        obtain ⟨e, member, named, same⟩ := sound.member_of_slot owned found'
        have kind : s.holding.isList = e.isList := World.isList_of_emptied (same'.symm.trans same)
        have differs : e.isList ≠ d.opposite.isList := fun same => missing e member ⟨named, same⟩
        rw [kind]
        cases isList : d.opposite.isList <;> simp_all [linkingAt, AccessorKind.fits]
      exact .inr ⟨e, failed⟩

include rooted

/-- How a call to link `z` to `y` ends: it has put `z` into the slot of `y` and ended no link between the
two.  If a call failed, then since there was no member for it; and if `y` did not have `z` before, a call
that is done has put `y` into the slot of `z`. -/
structure Joins (m : Linked) (x v : Nat) (h : Heap) (y z : Nat) (d : AssociationMember) (other : LinkedType)
    (o : Outcome) : Prop where
  keeps : ∀ p q, IsPair x v p q → ∀ role, q ∈ h.values p role → q ∈ o.heap.values p role
  comes : z ∈ o.heap.values y d.name
  strands : ∀ g e, o = .failed g e → m.Strands d other
  back : d.isBidirectional = true → z ∉ h.values y d.name → ∀ g, o = .done g → y ∈ g.values z d.opposite.name

/-- A call to link one of two objects to the other, if it ends, ends as `Joins` says. -/
theorem Exchanging.joins (n : Nat) (exchanging : Exchanging w x v h) (pair : IsPair x v y z)
    (owned : w.owners[y]? = some owner) (owned' : w.owners[z]? = some other)
    (member : d ∈ m.associationMembers owner)
    (ends : ∀ g, run n h (linkingAt d.far y z) ≠ .unfinished g) :
    Joins m x v h y z d other (run n h (linkingAt d.far y z)) := by
  -- The two objects change places with every call.
  induction n generalizing h y z owner other d with
  | zero => exact absurd rfl (ends h)
  | succ n ih =>
    by_cases present : z ∈ h.values y d.name
    · obtain ⟨es, idle⟩ := exchanging.idles sound owned member present n
      rw [idle]
      refine ⟨fun p q _ role held => ?_, ?_, by simp, fun _ new => absurd present new⟩
      · rwa [Outcome.heap, Heap.values_recordAll]
      · rwa [Outcome.heap, Heap.values_recordAll]
    rcases exchanging.comes sound owned member pair present n with ⟨g, unfinished⟩ | ⟨g, after, gains, runs⟩
    · exact absurd unfinished (ends g)
    have comes : z ∈ g.values y d.name := (gains y z pair d.name).2 (.inr ⟨rfl, rfl, rfl⟩)
    have keeps (p q : Nat) (pair' : IsPair x v p q) (role : String) (held : q ∈ h.values p role) :
        q ∈ g.values p role := (gains p q pair' role).2 (.inl held)
    rw [runs] at ends ⊢
    cases calls : d.isBidirectional with
    | false =>
      rw [(AssociationMember.calls_of_not_isBidirectional calls).1]
      exact ⟨keeps, comes, by simp [passOn], by simp [calls]⟩
    | true =>
      rw [passOn_onAttach calls] at ends ⊢
      by_cases answered : ∃ e ∈ m.associationMembers other, e.Answers d
      · obtain ⟨e, member', answers⟩ := answered
        rw [← linkingAt_of_answers answers] at ends ⊢
        have rest := ih after pair.symm owned' owned member' ends
        refine ⟨fun p q pair' role held => rest.keeps p q pair' role (keeps p q pair' role held),
          rest.keeps y z pair d.name comes, fun g' e' failed => ?_, fun _ _ g' done => ?_⟩
        · obtain ⟨k, strands⟩ := rest.strands g' e' failed
          have isClass := sound.classes owner (List.mem_of_getElem? owned)
          obtain ⟨same, _⟩ := (rooted.mem_associationMembers isClass).1 member
          exact ⟨k + 1, .later calls member' answers (same.symm ▸ strands)⟩
        · have there := rest.comes
          rwa [done, answers.1] at there
      · have missing : ∀ e ∈ m.associationMembers other, ¬ e.Answers d := by simpa using answered
        rcases after.refuses sound owned' missing y n with ⟨g', unfinished⟩ | ⟨e, failed⟩
        · exact absurd unfinished (ends g')
        · rw [failed]
          exact ⟨keeps, comes, fun _ _ _ => ⟨0, .here calls missing⟩, by simp⟩

/-- Whether neither of two objects is in a slot of the other one from which the calls strand after a number
of others, or sooner. -/
def Fresh (w : World) (m : Linked) (x v : Nat) (h : Heap) (n : Nat) : Prop :=
  ∀ k ≤ n, ∀ p q near far f, IsPair x v p q → w.owners[p]? = some near → w.owners[q]? = some far →
    f ∈ m.associationMembers near → m.StrandsAfter k f far → q ∉ h.values p f.name

/-- An exchange that strands is not done. -/
theorem Exchanging.not_done_of_strands (k : Nat) (strands : m.StrandsAfter k d other) (n : Nat)
    (exchanging : Exchanging w x v h) (fresh : Fresh w m x v h k) (pair : IsPair x v y z)
    (owned : w.owners[y]? = some owner) (owned' : w.owners[z]? = some other)
    (member : d ∈ m.associationMembers owner) (g : Heap) :
    run n h (linkingAt d.far y z) ≠ .done g := by
  -- On the way to the missing member no call may find its link there and end the exchange: what the
  -- calls before put in is in slots from which the way is longer.
  induction strands generalizing n h y z owner with
  | @here d other calls missing =>
    cases n with
    | zero => simp [run]
    | succ n =>
      have new := fresh 0 (Nat.le_refl 0) y z owner other d pair owned owned' member (.here calls missing)
      rcases exchanging.comes sound owned member pair new n with ⟨g, unfinished⟩ | ⟨g, after, _, runs⟩
      · simp [unfinished]
      · rw [runs, passOn_onAttach calls]
        rcases after.refuses sound owned' missing y n with ⟨g', unfinished⟩ | ⟨e, failed⟩
        · simp [unfinished]
        · simp [failed]
  | @later k d e other calls member' answers rest ih =>
    have whole := Linked.StrandsAfter.later calls member' answers rest
    have isClass := sound.classes owner (List.mem_of_getElem? owned)
    have isClass' := sound.classes other (List.mem_of_getElem? owned')
    have names := sound.names owner (List.mem_of_getElem? owned)
    have names' := sound.names other (List.mem_of_getElem? owned')
    obtain ⟨same, _⟩ := (rooted.mem_associationMembers isClass).1 member
    cases n with
    | zero => simp [run]
    | succ n =>
      have new := fresh (k + 1) (Nat.le_refl _) y z owner other d pair owned owned' member whole
      rcases exchanging.comes sound owned member pair new n with ⟨g, unfinished⟩ | ⟨g, after, gains, runs⟩
      · simp [unfinished]
      · rw [runs, passOn_onAttach calls, ← linkingAt_of_answers answers]
        refine ih n after ?_ pair.symm owned' (same.symm ▸ owned) member'
        intro i le p q near far f pair' ownedP ownedQ memberF strands' held
        rcases (gains p q pair' f.name).1 held with old | ⟨rfl, named, rfl⟩
        · exact fresh i (by omega) p q near far f pair' ownedP ownedQ memberF strands' old
        · obtain rfl := Option.some.inj (owned.symm.trans ownedP)
          obtain rfl := Option.some.inj (owned'.symm.trans ownedQ)
          obtain rfl := sound.member_eq owned memberF member named
          have := strands'.unique rooted isClass isClass' names names' member whole
          omega

end Runs

/-! ## Calls from outside -/

namespace World

/-- All objects of a world that can be reached are regular. -/
theorem Reachable.regular (reachable : Reachable m w) : w.heap.Regular := by
  induction reachable with
  | empty => exact fun x o there => absurd there (by simp [World.empty, Heap.empty, Heap.object?])
  | @create w owner _ _ ih =>
    intro x o there
    simp only [World.create, Heap.create, Heap.add, Heap.object?] at there
    rcases List.mem_append.1 (List.mem_of_getElem? there) with old | last
    · obtain ⟨i, found⟩ := List.mem_iff_getElem?.1 old
      exact ih i o found
    · obtain rfl := List.mem_singleton.1 last
      suffices slots : (slotsOf (m.associationMembers owner)).map Slot.emptied =
          slotsOf (m.associationMembers owner) from Object.IsOf.isRegular (m := m) ⟨rfl, slots⟩
      conv_rhs => rw [← List.map_id (slotsOf (m.associationMembers owner))]
      refine List.map_congr_left fun s there => ?_
      obtain ⟨d, _, rfl⟩ := mem_slotsOf there
      exact Slot.emptied_ofMember d
  | call _ _ ih => exact run_regular _ ih _

/-- What comes of a call to link two objects: it is done and each holds the other one, unless the calls
come to a member that there is not; then a call fails, and the first object holds the second one, which it
did not before. -/
structure LinksUnlessStranded (w : World) (m : Linked) (d : AssociationMember) (other : LinkedType)
    (x v : Nat) : Prop where
  new : v ∉ w.heap.values x d.name
  links : ¬ m.Strands d other ↔ ∃ h', w.heap.perform (linkingAt d.far x v) = .done h' ∧
    v ∈ h'.values x d.name ∧ x ∈ h'.values v d.opposite.name
  strands : m.Strands d other → ∃ h' e, w.heap.perform (linkingAt d.far x v) = .failed h' e ∧
    v ∈ h'.values x d.name

/-- Between calls from outside two objects are in slots of each other only for members that answer each
other. -/
theorem IsSound.fresh (sound : w.IsSound m) (rooted : m.IsRooted) (x v n : Nat) :
    Fresh w m x v w.heap n := by
  intro k _ p q near far f _ ownedP ownedQ member strands held
  obtain ⟨other, owned, leads⟩ := sound.accepts ownedP member held
  obtain rfl := Option.some.inj (owned.symm.trans ownedQ)
  have nearThere := List.mem_of_getElem? ownedP
  have farThere := List.mem_of_getElem? ownedQ
  exact Linked.not_strands_of_target rooted (sound.classes near nearThere) (sound.classes other farThere)
    (sound.names near nearThere) (sound.names other farThere) member (leads strands.calls) ⟨k, strands⟩

/-- An object of a subclass of the class that a member is for is linked by a call unless the calls come to
a member that there is not.  Circles of super classes are found in the packages of a model only, so a class
outside has to be another one than the class that the member is for. -/
theorem links_unless_stranded {m : Linked} (rooted : m.IsRooted) (valid : m.IsValid) {w : World}
    (reachable : Reachable m w) (clear : w.IsClear m) {x v : Nat} {owner other : LinkedType}
    {d : AssociationMember} {t : Target} (ownedX : w.owners[x]? = some owner)
    (ownedV : w.owners[v]? = some other) (member : d ∈ m.associationMembers owner) (target : d.target = some t)
    (isClass : t.kind = .classKind)
    (sub : Relation.TransGen (m.HasSuper .superClasses) other.key t.key)
    (proper : other ∈ m.strays → other.key ≠ t.key) :
    w.LinksUnlessStranded m d other x v := by
  have sound := reachable.isSound rooted valid clear
  have calls : d.isBidirectional = true := by simp [AssociationMember.isBidirectional, target, isClass]
  have otherIsClass := sound.classes other (List.mem_of_getElem? ownedV)
  -- A class is not a subclass of itself, so `v` is not one of the objects that `x` holds.
  have new : v ∉ w.heap.values x d.name := by
    intro held
    obtain ⟨other', owned, leads⟩ := sound.accepts ownedX member held
    obtain rfl := Option.some.inj (owned.symm.trans ownedV)
    have same : t.key = other'.key := by simpa [target] using leads calls
    rcases Linked.mem_classes_or_strays otherIsClass with inside | outside
    · obtain ⟨there, kind⟩ := Model.mem_ofKind.1 inside
      exact (Validation.noErrors_structureFindings.1 valid.structureFindings).classes other' there kind (same ▸ sub)
    · exact proper outside same.symm
  have pair : IsPair x v x v := .inl ⟨rfl, rfl⟩
  have exchanging : Exchanging w x v w.heap := ⟨fun _ _ => rfl, sound.paired.pairedBut _⟩
  have ends : ∀ g, w.heap.perform (linkingAt d.far x v) ≠ .unfinished g :=
    run_ends (a := x) (b := v) _ reachable.regular (.inr (by simp [linkingAt, partner]))
      (reach_le_enoughFuel ..)
  have joins : Joins m x v w.heap x v d other (w.heap.perform (linkingAt d.far x v)) :=
    exchanging.joins sound rooted _ pair ownedX ownedV member ends
  have notDone (strands : m.Strands d other) (g : Heap) :
      w.heap.perform (linkingAt d.far x v) ≠ .done g := by
    obtain ⟨k, strands⟩ := strands
    exact exchanging.not_done_of_strands sound rooted k strands _ (sound.fresh rooted x v k) pair
      ownedX ownedV member g
  cases result : w.heap.perform (linkingAt d.far x v) with
  | done g =>
    rw [result] at joins
    have fine : ¬ m.Strands d other := fun strands => notDone strands g result
    exact ⟨new, ⟨fun _ => ⟨g, result, joins.comes, joins.back calls new g rfl⟩, fun _ => fine⟩,
      fun strands => absurd strands fine⟩
  | failed g e =>
    rw [result] at joins
    have strands := joins.strands g e rfl
    refine ⟨new, ⟨fun fine => absurd strands fine, ?_⟩, fun _ => ⟨g, e, result, joins.comes⟩⟩
    rintro ⟨h', done, _⟩
    simp [result] at done
  | unfinished g => exact absurd result (ends g)

/-- Players of a team, of which some are goalkeepers, and one is the captain of the team. -/
def squad : Declared :=
  ⟨[⟨(), "squad", [],
    [⟨(), "Team", .classBody ⟨false, [], [], [], []⟩⟩,
      ⟨(), "Player", .classBody ⟨false, [], [], [], []⟩⟩,
      ⟨(), "Goalkeeper", .classBody ⟨false, [], [], ["Player"], []⟩⟩,
      ⟨(), "Captain", .classBody ⟨false, [], [], ["Player"], []⟩⟩,
      ⟨(), "plays", .association
        [⟨(), "team", some "Team", .number 0, .number 1, none, false, .plain⟩,
          ⟨(), "players", some "Player", .number 0, .unbounded, none, false, .plain⟩]⟩,
      ⟨(), "leads", .association
        [⟨(), "team", some "Team", .number 0, .number 1, none, false, .plain⟩,
          ⟨(), "captain", some "Captain", .number 0, .number 1, none, false, .plain⟩]⟩]⟩]⟩

/-- The types and the ends of the squad are known apart. -/
theorem squad_isRooted : squad.link.IsRooted := squad.link_isCoherent.isRooted

/-- The squad has no errors. -/
theorem squad_isValid : squad.link.IsValid := by
  decide +kernel

/-- The class of teams. -/
def squadTeam : LinkedType := squad.link.classes.get ⟨0, by decide +kernel⟩

/-- The class of players. -/
def squadPlayer : LinkedType := squad.link.classes.get ⟨1, by decide +kernel⟩

/-- The class of goalkeepers, who are players. -/
def goalkeeper : LinkedType := squad.link.classes.get ⟨2, by decide +kernel⟩

/-- The class of captains, who are players. -/
def captain : LinkedType := squad.link.classes.get ⟨3, by decide +kernel⟩

/-- The member of teams for their players. -/
def playersOfTeam : AssociationMember :=
  (squad.link.associationMembers squadTeam).get ⟨0, by decide +kernel⟩

/-- A team, a goalkeeper and a captain. -/
def training : World :=
  ((empty.create squad.link squadTeam).create squad.link goalkeeper).create squad.link captain

/-- A team, a goalkeeper and a captain can be created. -/
theorem training_reachable : Reachable squad.link training := by
  refine .create (.create (.create .empty ?_) ?_) ?_
  · exact Linked.mem_everyClass_of_mem_classes (List.get_mem ..)
  · exact Linked.mem_everyClass_of_mem_classes (List.get_mem ..)
  · exact Linked.mem_everyClass_of_mem_classes (List.get_mem ..)

/-- The captain of the squad is a player. -/
theorem captain_isPlayer :
    Relation.TransGen (squad.link.HasSuper .superClasses) captain.key squadPlayer.key :=
  .single (by unfold Linked.HasSuper; decide +kernel)

/-- A goalkeeper of the squad is a player. -/
theorem goalkeeper_isPlayer :
    Relation.TransGen (squad.link.HasSuper .superClasses) goalkeeper.key squadPlayer.key :=
  .single (by unfold Linked.HasSuper; decide +kernel)

/-- The captain has a team as a captain, too. -/
theorem links_captain :
    training.LinksUnlessStranded squad.link playersOfTeam captain 0 2 ∧
      ¬ squad.link.Strands playersOfTeam captain := by
  have links : training.LinksUnlessStranded squad.link playersOfTeam captain 0 2 :=
    links_unless_stranded squad_isRooted squad_isValid training_reachable (isClear_of_no_strays rfl training)
      (t := squadPlayer.target) rfl rfl (List.get_mem ..) (by decide +kernel) (by decide +kernel) captain_isPlayer
      nofun
  have done : ∃ h', training.heap.perform (linkingAt playersOfTeam.far 0 2) = .done h' ∧
      2 ∈ h'.values 0 playersOfTeam.name ∧ 0 ∈ h'.values 2 playersOfTeam.opposite.name :=
    ⟨(training.call (linkingAt playersOfTeam.far 0 2)).heap, by decide +kernel⟩
  exact ⟨links, links.links.2 done⟩

/-- A goalkeeper inherits the accessors of a player, but has no slot for the team. -/
theorem goalkeeper_not_linked :
    squad.link.IsValid ∧ Reachable squad.link training ∧ training.owners[0]? = some squadTeam ∧
      training.owners[1]? = some goalkeeper ∧ playersOfTeam ∈ squad.link.associationMembers squadTeam ∧
      playersOfTeam.target = some squadPlayer.target ∧ squadPlayer.target.kind = .classKind ∧
      Relation.TransGen (squad.link.HasSuper .superClasses) goalkeeper.key squadPlayer.target.key ∧
      ¬ ∃ h', training.heap.perform (linkingAt playersOfTeam.far 0 1) = .done h' := by
  refine ⟨squad_isValid, training_reachable, rfl, rfl, List.get_mem .., by decide +kernel, by decide +kernel,
    goalkeeper_isPlayer, ?_⟩
  have failed : training.heap.perform (linkingAt playersOfTeam.far 0 1) =
      .failed (training.call (linkingAt playersOfTeam.far 0 1)).heap (.noMember "Goalkeeper" "team") := by
    decide +kernel
  simp [failed]

end World

end Objects

end ClassDiagram
