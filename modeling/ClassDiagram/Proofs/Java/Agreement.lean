import ClassDiagram.Proofs.Java.Callbacks
import ClassDiagram.Proofs.Java.Stores

/-!
# Generated accessors and objects

A call of an accessor does to a store, as the lines say that are written for it, what `run` does to objects: it leaves
the same values, lists and entries (`generated_accessors_agree`).  The lines are read back first, so the two have nothing
in common but the names of fields and methods.  They agree level by level: an accessor that is read does what `runSet`,
`runAdd` or `runRemove` does, if the calls that it makes agree, and these have a unit of fuel less.
-/

set_option autoImplicit false

namespace ClassDiagram

/-- Whether accessors of a kind are for a change. -/
def AccessorKind.IsChange (kind : AccessorKind) : Prop := kind = .set ∨ kind = .addTo ∨ kind = .removeFrom

/-- An accessor that changes a member of either sort is one that changes something. -/
theorem AccessorKind.isChange_of_fits {kind : AccessorKind} {isList : Bool}
    (fits : kind.fits isList = true) : kind.IsChange := by
  unfold IsChange
  cases kind <;> simp_all [AccessorKind.fits]

namespace Java

variable {call : Invocation} {s s' : Store} {f f' : Frame} {d : AssociationMember} {r type : String}

/-! ## Bodies -/

/-- Instructions go on behind one that does not end them. -/
theorem executeAll_of_on {first : Instruction} (on : first.execute call s f = .on s' f') (rest : List Instruction) :
    executeAll call s f (first :: rest) = executeAll call s' f' rest := by
  rw [executeAll, on]

/-- Nothing is executed behind an instruction that ends the method. -/
theorem executeAll_of_over {first : Instruction} {answer : Answer} (ended : first.execute call s f = .over answer)
    (rest : List Instruction) : executeAll call s f (first :: rest) = .over answer := by
  rw [executeAll, ended]

/-- A guard ends an accessor if its condition holds. -/
theorem execute_guard (call : Invocation) {test : Test} {holds : Bool} (decided : test.holds? s f = some holds) :
    Instruction.execute call s f (.when test [.leave]) = if holds then .over (.returned s) else .on s f := by
  rw [Instruction.execute, decided]
  cases holds with
  | false => rfl
  | true => simp only [executeAll, Instruction.execute, if_true]

/-- An adder passes on what it adds. -/
theorem executeAll_adderBody {values : List (Option Nat)} {new : Option Nat}
    (field : s.field? f.self r = some (.list values)) (given : f.locals.lookup "newValue" = some new) :
    executeAll call s f (meanings r (adderBody d)) =
      if new = none ∨ new ∈ values then .over (.returned s)
      else executeAll call (s.assign f.self r (.list (values ++ [new]))) f
        (meanings r (notification .newValue d.onAttach)) := by
  have decided : (Condition.newMissingOrHeld.meaning r).holds? s f = some (decide (new = none ∨ new ∈ values)) := by
    cases new <;> simp [Condition.meaning, Test.holds?, Term.value?, given, field]
  have guard := execute_guard call decided
  have add : Instruction.execute call s f (.add r (.variable "newValue")) =
      .on (s.assign f.self r (.list (values ++ [new]))) f := by
    simp only [Instruction.execute, Term.value?, field, given]
  rw [adderBody, meanings_append]
  change executeAll call s f (.when (Condition.newMissingOrHeld.meaning r) [.leave] :: .add r (.variable "newValue") ::
    meanings r (notification .newValue d.onAttach)) = _
  by_cases idle : new = none ∨ new ∈ values
  · rw [if_pos (decide_eq_true idle)] at guard
    rw [if_pos idle, executeAll_of_over guard]
  · rw [if_neg (by simpa using idle)] at guard
    rw [if_neg idle, executeAll_of_on guard, executeAll_of_on add]

/-- A remover passes on what it removes. -/
theorem executeAll_removerBody {values : List (Option Nat)} {old : Option Nat}
    (field : s.field? f.self r = some (.list values)) (given : f.locals.lookup "oldValue" = some old) :
    executeAll call s f (meanings r (removerBody d)) =
      if old ∈ values then executeAll call (s.assign f.self r (.list (values.erase old))) f
        (meanings r (notification .oldValue d.onDetach))
      else .over (.returned s) := by
  have decided : (Condition.oldNotHeld.meaning r).holds? s f = some (decide (old ∉ values)) := by
    simp [Condition.meaning, Test.holds?, Term.value?, given, field]
  have guard := execute_guard call decided
  have remove : Instruction.execute call s f (.remove r (.variable "oldValue")) =
      .on (s.assign f.self r (.list (values.erase old))) f := by
    simp only [Instruction.execute, Term.value?, field, given]
  rw [removerBody, meanings_append]
  change executeAll call s f (.when (Condition.oldNotHeld.meaning r) [.leave] :: .remove r (.variable "oldValue") ::
    meanings r (notification .oldValue d.onDetach)) = _
  by_cases present : old ∈ values
  · rw [if_neg (by simpa using present)] at guard
    rw [if_pos present, executeAll_of_on guard, executeAll_of_on remove]
  · rw [if_pos (decide_eq_true present)] at guard
    rw [if_neg present, executeAll_of_over guard]

/-! ## Lines of accessors in a text -/

/-- The lines for the accessors of the members of a class stand in its text, one after the other. -/
theorem accessorLines_infix {m : Linked} {t : LinkedType} {s : Settings} (isClass : t.kind = .classKind)
    {file : SourceFile} (written : s.source m t = .ok (some file)) :
    ∃ lines, file.text = textOfLines lines ∧
      accessorLines s.indent.margin s.table (m.associationMembers t) <:+: full lines := by
  obtain ⟨u, unit, given, -⟩ := exists_unit_of_source written
  obtain ⟨c, known⟩ := unit?_of_class (m := m) isClass s
  obtain rfl := Option.some.inj (unit.symm.trans known)
  obtain ⟨margin, head, lines, imported, indent, -, text, -, all⟩ := CompilationUnit.fullLines_of_block rfl given
  refine ⟨lines, text, ?_⟩
  rw [all, indent, classCode, codeLines_append, codeLines_append]
  exact (List.infix_append _ _ _).trans (List.infix_append _ _ _)

end Java

namespace Objects

open Java

variable {m : Linked} {table : TypeTable} {methods : LinkedType → List Method} {owners : List LinkedType}
  {owner : LinkedType} {g h h' : Heap} {n x : Nat} {d : AssociationMember} {s : Slot}

/-- The calls that a member makes on objects that come and go are for changes. -/
theorem isChange_of_call {c : PartnerCall} (calls : c ∈ d.onAttach ∨ c ∈ d.onDetach) : c.kind.IsChange := by
  cases bidirectional : d.isBidirectional with
  | false =>
    obtain ⟨silent, silent'⟩ := AssociationMember.calls_of_not_isBidirectional bidirectional
    rw [silent, silent'] at calls
    simp at calls
  | true =>
    rw [AssociationMember.onAttach_of_isBidirectional bidirectional,
      AssociationMember.onDetach_of_isBidirectional bidirectional] at calls
    rcases calls with same | same
    · obtain rfl := Option.some.inj same
      cases d.opposite.isList with
      | false => exact .inl rfl
      | true => exact .inr (.inl rfl)
    · obtain rfl := Option.some.inj same
      cases d.opposite.isList with
      | false => exact .inl rfl
      | true => exact .inr (.inr rfl)

/-- Whether calls that are done do the same to a store, with as much fuel. -/
def CallsAgree (m : Linked) (methods : LinkedType → List Method) (owners : List LinkedType) (n : Nat) : Prop :=
  ∀ (h : Heap) (c : Call) (h' : Heap), h.IsOf m owners → c.kind.IsChange → run n h c = .done h' →
    invokeWith methods n (storeOf owners h) c.receiver (c.kind.method c.role) c.argument =
      .returned (storeOf owners h')

/-! ## Setters in two steps -/

/-- What a setter does with the old value. -/
def letGo (exchange : Heap → Call → Outcome) (h : Heap) (x : Nat) (r : String) (detach : Option PartnerCall)
    (current : Option Nat) : Outcome :=
  match current with
  | none => .done h
  | some old => passOn exchange (h.hold x r (.one none)) detach old x

/-- What a setter does with the new value. -/
def putIn (exchange : Heap → Call → Outcome) (h : Heap) (x : Nat) (r : String) (attach : Option PartnerCall)
    (argument : Option Nat) : Outcome :=
  match argument with
  | none => .done (h.hold x r (.one argument))
  | some new => passOn exchange (h.hold x r (.one argument)) attach new x

/-- Two steps that are done together are done one after the other. -/
theorem Outcome.exists_of_andThen {o : Outcome} {next : Heap → Outcome} (done : o.andThen next = .done h') :
    ∃ g, o = .done g ∧ next g = .done h' := by
  cases o with
  | done g => exact ⟨g, rfl, done⟩
  | failed g e => cases done
  | unfinished g => cases done

/-- What a setter that is done has done: nothing, or it let go of the old value and put the new one in. -/
theorem runSet_done {exchange : Heap → Call → Outcome} {current argument : Option Nat}
    (done : runSet exchange h x s current argument = .done h') :
    (current = argument ∧ h = h') ∨ (current ≠ argument ∧
      ∃ g, letGo exchange h x s.name s.detach current = .done g ∧
        putIn exchange g x s.name s.attach argument = .done h') := by
  unfold runSet at done
  split at done
  · next same => exact .inl ⟨same, Outcome.done.inj done⟩
  · next ne => exact .inr ⟨ne, Outcome.exists_of_andThen done⟩

/-- A setter of one way writes its slot and makes no call. -/
theorem runSet_of_one_way (isOf : h.IsOf m owners) (found : h.slot? x d.name = some s)
    {current : Option Nat} (held : s.holding = .one current) (oneWay : d.isBidirectional = false)
    (emptied : s.emptied = Slot.ofMember d) {exchange : Heap → Call → Outcome} (argument : Option Nat) :
    runSet exchange h x s current argument = .done (h.hold x d.name (.one argument)) := by
  have named : s.name = d.name := Heap.name_of_slot? found
  obtain ⟨silent, silent'⟩ := AssociationMember.calls_of_not_isBidirectional oneWay
  have attach : s.attach = none := (congrArg Slot.attach emptied).trans silent
  have detach : s.detach = none := (congrArg Slot.detach emptied).trans silent'
  unfold runSet
  split
  · next same => rw [← same, ← held, isOf.hold_self found]
  · rw [named, attach, detach]
    cases current <;> cases argument <;> simp [Outcome.andThen, passOn, Heap.hold_hold]

/-- A slot is of its kind after the old value was released. -/
theorem exists_held_of_released (isOf : h.IsOf m owners) (found : h.slot? x d.name = some s)
    {current : Option Nat} (held : s.holding = .one current) {call : Option PartnerCall}
    (released : letGo (run n) h x d.name call current = .done g) :
    g.IsOf m owners ∧ ∃ s' current', g.slot? x d.name = some s' ∧ s'.holding = .one current' := by
  have kept : g.IsOf m owners := by
    cases current with
    | none =>
      obtain rfl : h = g := Outcome.done.inj released
      exact isOf
    | some old =>
      have written : (h.hold x d.name (.one none)).IsOf m owners := isOf.hold found (by rw [held]; rfl)
      have passed := written.passOn (fun g c isOf => isOf.run n c) call old x
      rw [letGo] at released
      rw [released] at passed
      exact passed
  obtain ⟨s', found', same⟩ := isOf.exists_slot kept found
  have kind := Slot.isList_of_emptied same
  rw [held] at kind
  cases held' : s'.holding with
  | one current' => exact ⟨kept, s', current', found', held'⟩
  | many values =>
    rw [held'] at kind
    cases kind

section Level

variable (agrees : CallsAgree m methods owners n)
include agrees

/-- A call on another object does to a store what it does to objects. -/
theorem CallsAgree.notification (isOf : h.IsOf m owners) {call : Option PartnerCall}
    (changes : ∀ c ∈ call, c.kind.IsChange) {f : Frame} {receiver : Operand} {y : Nat} (r : String)
    (value : receiver.term.value? (storeOf owners h) f = some (some y))
    (done : passOn (run n) h call y f.self = .done h') :
    executeAll (invokeWith methods n) (storeOf owners h) f (meanings r (Java.notification receiver call)) =
      .on (storeOf owners h') f := by
  cases call with
  | none =>
    obtain rfl : h = h' := Outcome.done.inj done
    simp only [Java.notification, Option.map_none, Option.toList_none, meanings, executeAll]
  | some c =>
    have returned := agrees h (PartnerCall.on c y f.self) h' isOf (changes c rfl) done
    change invokeWith methods n (storeOf owners h) y c.method (if c.passesSelf then some f.self else none) = _
      at returned
    have argument : Term.value? (storeOf owners h) f (if c.passesSelf then .self else .null) =
        some (if c.passesSelf then some f.self else none) := by
      cases c.passesSelf <;> rfl
    simp only [Java.notification, Option.map_some, Option.toList_some, meanings, Statement.meaning, executeAll,
      Instruction.execute, value, argument, returned]

variable (isOf : h.IsOf m owners) (found : h.slot? x d.name = some s)
include isOf found

/-- A generated setter lets go of the old value in the same way. -/
theorem CallsAgree.letGo (type : String) {current argument : Option Nat} (held : s.holding = .one current)
    (released : Objects.letGo (run n) h x d.name d.onDetach current = .done g) :
    Instruction.execute (invokeWith methods n) (storeOf owners h) ⟨x, [("newValue", argument)]⟩
      (Statement.meaning d.name
        (.when .fieldGiven ([.keepOld type, .assign .null] ++ Java.notification .oldValue d.onDetach))) =
        .on (storeOf owners g) ⟨x, [("newValue", argument)]⟩ := by
  have field := isOf.field?_of_slot found
  rw [held, Holding.toField] at field
  have decided : Test.holds? (storeOf owners h) ⟨x, [("newValue", argument)]⟩ (Condition.fieldGiven.meaning d.name) =
      some current.isSome := by
    cases current <;> simp [Condition.meaning, Test.holds?, Term.value?, field]
  cases current with
  | none =>
    obtain rfl : h = g := Outcome.done.inj released
    simp only [Statement.meaning, Instruction.execute, decided, Option.isSome_none]
  | some old =>
    have kept : (h.hold x d.name (.one none)).IsOf m owners := isOf.hold found (by rw [held]; rfl)
    have undeclared : List.lookup "oldValue" [("newValue", argument)] = none := rfl
    have value : Operand.oldValue.term.value? (storeOf owners (h.hold x d.name (.one none)))
        ⟨x, [("oldValue", some old), ("newValue", argument)]⟩ = some (some old) := rfl
    have told := agrees.notification kept (fun _ calls => isChange_of_call (.inr calls)) d.name value released
    rw [storeOf_hold, Holding.toField] at told
    simp only [Statement.meaning, Instruction.execute, decided, Option.isSome_some, List.cons_append, List.nil_append,
      meanings, executeAll, Operand.term, Term.value?, undeclared, field, told]

/-- A generated setter puts the new value in in the same way. -/
theorem CallsAgree.putIn {current argument : Option Nat} (held : s.holding = .one current)
    (linked : Objects.putIn (run n) h x d.name d.onAttach argument = .done h') :
    executeAll (invokeWith methods n) (storeOf owners h) ⟨x, [("newValue", argument)]⟩
      (meanings d.name [.assign .newValue, .when .newGiven (Java.notification .newValue d.onAttach)]) =
        .on (storeOf owners h') ⟨x, [("newValue", argument)]⟩ := by
  have field := isOf.field?_of_slot found
  rw [held, Holding.toField] at field
  have given : List.lookup "newValue" [("newValue", argument)] = some argument := rfl
  have decided (s : Store) : Test.holds? s ⟨x, [("newValue", argument)]⟩ (Condition.newGiven.meaning d.name) =
      some argument.isSome := by
    cases argument <;> rfl
  cases argument with
  | none =>
    obtain rfl := Outcome.done.inj linked
    simp only [meanings, Statement.meaning, executeAll, Instruction.execute, Operand.term, Term.value?, field, given,
      decided, Option.isSome_none, storeOf_hold, Holding.toField]
  | some new =>
    have kept : (h.hold x d.name (.one (some new))).IsOf m owners := isOf.hold found (by rw [held]; rfl)
    have value : Operand.newValue.term.value? (storeOf owners (h.hold x d.name (.one (some new))))
        ⟨x, [("newValue", some new)]⟩ = some (some new) := rfl
    have told := agrees.notification kept (fun _ calls => isChange_of_call (.inl calls)) d.name value linked
    rw [storeOf_hold, Holding.toField] at told
    simp only [meanings, Statement.meaning, executeAll, Instruction.execute, Operand.term, Term.value?, field, given,
      decided, Option.isSome_some, told]

variable (emptied : s.emptied = Slot.ofMember d)
include emptied

/-- A generated setter does what `runSet` does. -/
theorem CallsAgree.setterBody (type : String) {current argument : Option Nat} (held : s.holding = .one current)
    (done : runSet (run n) h x s current argument = .done h') :
    (executeAll (invokeWith methods n) (storeOf owners h) ⟨x, [("newValue", argument)]⟩
      (meanings d.name (Java.setterBody type d))).answer = .returned (storeOf owners h') := by
  have field := isOf.field?_of_slot found
  rw [held, Holding.toField] at field
  have given : List.lookup "newValue" [("newValue", argument)] = some argument := rfl
  have named : s.name = d.name := Heap.name_of_slot? found
  have attach : s.attach = d.onAttach := congrArg Slot.attach emptied
  have detach : s.detach = d.onDetach := congrArg Slot.detach emptied
  cases bidirectional : d.isBidirectional with
  | false =>
    rw [runSet_of_one_way isOf found held bidirectional emptied] at done
    obtain rfl := Outcome.done.inj done
    rw [setterBody_of_one_way bidirectional, storeOf_hold]
    simp only [meanings, Statement.meaning, executeAll, Instruction.execute, Operand.term, Term.value?, field, given,
      Progress.answer, Holding.toField]
  | true =>
    have decided : Test.holds? (storeOf owners h) ⟨x, [("newValue", argument)]⟩ (Condition.fieldIsNew.meaning d.name) =
        some (current == argument) := by
      simp only [Condition.meaning, Test.holds?, Term.value?, field, given]
    have guard := execute_guard (invokeWith methods n) decided
    rw [setterBody_of_isBidirectional bidirectional]
    change (executeAll (invokeWith methods n) (storeOf owners h) ⟨x, [("newValue", argument)]⟩
      (.when (Condition.fieldIsNew.meaning d.name) [.leave] :: Statement.meaning d.name (.when .fieldGiven _) ::
        meanings d.name [.assign .newValue, .when .newGiven _])).answer = _
    rcases runSet_done done with ⟨rfl, rfl⟩ | ⟨ne, g, released, linked⟩
    · rw [if_pos (beq_self_eq_true _)] at guard
      rw [executeAll_of_over guard]
      rfl
    · rw [named, detach] at released
      rw [named, attach] at linked
      -- The slot may hold something else after the calls that release the old value.
      obtain ⟨kept, s', current', found', held'⟩ := exists_held_of_released isOf found held released
      rw [if_neg (by simpa using ne)] at guard
      rw [executeAll_of_on guard, executeAll_of_on (agrees.letGo isOf found type held released),
        agrees.putIn kept found' held' linked]
      rfl

/-- A generated adder does what `runAdd` does. -/
theorem CallsAgree.adderBody {values : List Nat} (held : s.holding = .many values) {argument : Option Nat}
    (done : runAdd (run n) h x s values argument = .done h') :
    (executeAll (invokeWith methods n) (storeOf owners h) ⟨x, [("newValue", argument)]⟩
      (meanings d.name (Java.adderBody d))).answer = .returned (storeOf owners h') := by
  have field := isOf.field?_of_slot found
  rw [held, Holding.toField] at field
  have named : s.name = d.name := Heap.name_of_slot? found
  have attach : s.attach = d.onAttach := congrArg Slot.attach emptied
  rw [executeAll_adderBody field rfl]
  cases argument with
  | none =>
    obtain rfl : h = h' := Outcome.done.inj done
    rfl
  | some new =>
    by_cases present : new ∈ values
    · rw [runAdd, if_pos (by simpa using present)] at done
      obtain rfl := Outcome.done.inj done
      rw [if_pos (by simpa using present)]
      rfl
    · rw [runAdd, if_neg (by simpa using present), named, attach] at done
      have written : storeOf owners (h.hold x d.name (.many (values ++ [new]))) =
          (storeOf owners h).assign x d.name (.list (values.map some ++ [some new])) := by
        rw [storeOf_hold, Holding.toField, List.map_append, List.map_singleton]
      have kept : (h.hold x d.name (.many (values ++ [new]))).IsOf m owners :=
        isOf.hold found (by rw [held]; rfl)
      rw [if_neg (by simpa using present), ← written,
        agrees.notification kept (fun _ calls => isChange_of_call (.inl calls)) d.name rfl done]
      rfl

/-- A generated remover does what `runRemove` does, also if it is to remove nothing. -/
theorem CallsAgree.removerBody {values : List Nat} (held : s.holding = .many values) {argument : Option Nat}
    (done : runRemove (run n) h x s values argument = .done h') :
    (executeAll (invokeWith methods n) (storeOf owners h) ⟨x, [("oldValue", argument)]⟩
      (meanings d.name (Java.removerBody d))).answer = .returned (storeOf owners h') := by
  have field := isOf.field?_of_slot found
  rw [held, Holding.toField] at field
  have named : s.name = d.name := Heap.name_of_slot? found
  have detach : s.detach = d.onDetach := congrArg Slot.detach emptied
  rw [executeAll_removerBody field rfl]
  cases argument with
  | none =>
    -- No list holds null, so a generated remover finds nothing to remove.
    obtain rfl : h = h' := Outcome.done.inj done
    rw [if_neg (by simp)]
    rfl
  | some old =>
    by_cases present : old ∈ values
    · rw [runRemove, if_pos (by simpa using present), named, detach] at done
      have written : storeOf owners (h.hold x d.name (.many (values.erase old))) =
          (storeOf owners h).assign x d.name (.list ((values.map some).erase (some old))) := by
        rw [storeOf_hold, Holding.toField, List.map_erase fun _ _ => Option.some.inj]
      have kept : (h.hold x d.name (.many (values.erase old))).IsOf m owners :=
        isOf.hold found (by rw [held]; rfl)
      rw [if_pos (by simpa using present), ← written,
        agrees.notification kept (fun _ calls => isChange_of_call (.inr calls)) d.name rfl done]
      rfl
    · rw [runRemove, if_neg (by simpa using present)] at done
      obtain rfl := Outcome.done.inj done
      rw [if_neg (by simpa using present)]
      rfl

/-- What a call does to objects its accessor does to a store, as it is written out. -/
theorem CallsAgree.changeBody (type : String) {kind : AccessorKind} (change : kind.IsChange)
    {argument : Option Nat} (done : runWith (run n) h ⟨x, kind, d.name, argument⟩ = .done h') :
    (executeAll (invokeWith methods n) (storeOf owners (h.record x kind d.name))
      ⟨x, [((changeParameter kind).word, argument)]⟩ (meanings d.name (Java.changeBody kind type d))).answer =
        .returned (storeOf owners h') := by
  obtain ⟨o, there, slot⟩ := Option.bind_eq_some_iff.1 found
  have recorded := isOf.record x kind d.name
  have found' : (h.record x kind d.name).slot? x d.name = some s := by rw [Heap.slot?_record, found]
  simp only [runWith, there, slot] at done
  -- An accessor that is done has found a slot of its kind.
  rcases change with rfl | rfl | rfl
  · cases held : s.holding with
    | one current =>
      rw [held] at done
      exact agrees.setterBody recorded found' emptied type held done
    | many values =>
      rw [held] at done
      cases done
  · cases held : s.holding with
    | one current =>
      rw [held] at done
      cases done
    | many values =>
      rw [held] at done
      exact agrees.adderBody recorded found' emptied held done
  · cases held : s.holding with
    | one current =>
      rw [held] at done
      cases done
    | many values =>
      rw [held] at done
      exact agrees.removerBody recorded found' emptied held done

end Level

/-! ## Calls -/

/-- Whether the accessors of all classes are written, and are told apart by their names. -/
structure HasAccessors (m : Linked) (table : TypeTable) : Prop where
  emitted : ∀ owner ∈ m.everyClass, AreEmitted table (m.associationMembers owner)
  own : ∀ owner ∈ m.everyClass, HasOwnAccessors (m.associationMembers owner)

/-- Whether classes and the ends of associations are named by words, as all names that Java accepts are. -/
structure HasWords (m : Linked) : Prop where
  classes : ∀ owner ∈ m.everyClass, isWord owner.name = true
  ends : ∀ a ∈ m.associations, ∀ e ∈ a.ends, isWord e.name = true

/-- The accessors of the members of a class can be read. -/
theorem HasWords.isLegible (words : HasWords m) (rooted : m.IsRooted) (known : owner ∈ m.everyClass)
    (member : d ∈ m.associationMembers owner) (table : TypeTable) : IsLegibleMember table d := by
  obtain ⟨-, -, -, a, among, ends⟩ := (rooted.mem_associationMembers known).1 member
  have near : isWord d.opposite.name = true := words.ends a among _ (mem_ends ends.symm)
  refine isLegibleMember (words.ends a among _ (mem_ends ends)) near fun t leads isClass => ?_
  obtain ⟨other, there, rfl⟩ := rooted.classes a among d.far (mem_ends ends) t leads isClass
  exact words.classes other (Linked.mem_everyClass.2 ⟨there, isClass⟩)

/-- The methods in the lines that are written for a class are those that its accessors mean. -/
theorem HasWords.methods_eq (words : HasWords m) (rooted : m.IsRooted) (known : owner ∈ m.everyClass) (s : Settings) :
    s.methods m owner = methodsOf s.table (m.associationMembers owner) := by
  rw [Settings.methods, methodsIn_accessorLines fun d member => words.isLegible rooted known member s.table,
    Option.getD_some]

/-- Where no two members of a class have the same name, every world is clear. -/
theorem HasAccessors.isClear (accessors : HasAccessors m table) {w : World} (reachable : World.Reachable m w) :
    w.IsClear m :=
  fun owner there _ => (accessors.own owner (reachable.mem_everyClass there)).1

section

variable (accessors : HasAccessors m table) (classes : ∀ owner ∈ owners, owner ∈ m.everyClass)
  (same : ∀ owner ∈ owners, methods owner = methodsOf table (m.associationMembers owner))
include accessors classes same

/-- One level of calls agrees if the level below does. -/
theorem CallsAgree.succ (agrees : CallsAgree m methods owners n) : CallsAgree m methods owners (n + 1) := by
  intro h c h' isOf change done
  obtain ⟨x, kind, r, argument⟩ := c
  change runWith (run n) h ⟨x, kind, r, argument⟩ = .done h' at done
  change invokeWith methods (n + 1) (storeOf owners h) x (kind.method r) argument = _
  cases there : h.object? x with
  | none =>
    simp only [runWith, there] at done
    cases done
  | some o =>
    cases slot : o.slot? r with
    | none =>
      simp only [runWith, there, slot] at done
      cases done
    | some s =>
      have found : h.slot? x r = some s := Option.bind_eq_some_iff.2 ⟨o, there, slot⟩
      obtain ⟨owner, owned⟩ := isOf.owned there
      obtain ⟨d, member, rfl, emptied⟩ := isOf.member owned found
      have here : owner ∈ owners := List.mem_of_getElem? owned
      have known := classes owner here
      have fits : kind.fits d.isList = true := by
        by_contra unfit
        obtain ⟨e, _, refused⟩ := Heap.run_refuses n there change fun s' found' => by
          obtain rfl := Option.some.inj (found.symm.trans found')
          rw [World.isList_of_emptied emptied]
          simpa using unfit
        cases done.symm.trans refused
      obtain ⟨type, dispatched⟩ :=
        find?_methodsOf (accessors.emitted owner known) (accessors.own owner known) member fits
      have executed := agrees.changeBody isOf found emptied type change done
      change (methodsOf table (m.associationMembers owner)).find? (·.name == kind.method d.name) = some _ at dispatched
      rw [invokeWith, getElem?_storeOf there owned]
      simp only [Object.toInstance, same owner here, dispatched, meaning_changeAccessor]
      rw [← storeOf_record, executed]

/-- Calls agree on every level. -/
theorem calls_agree (n : Nat) : CallsAgree m methods owners n := by
  induction n with
  | zero => exact fun h c h' isOf change done => nomatch done
  | succ n ih => exact ih.succ accessors classes same

end

namespace World

/-- A call that suits its member is done, and its accessor does the same: it returns, with as much fuel or more, and
leaves the values, lists and entries that the call leaves.  This holds of the statements of the accessors under any
names, and of the lines that are written for them as they are read back, if the names are words; other names make lines
that are no Java.  The lines for the accessors of a class stand in its text, one after the other. -/
theorem generated_accessors_agree {m : Linked} (rooted : m.IsRooted) (valid : m.IsValid) {s : Settings}
    (accessors : HasAccessors m s.table) {w : World} (reachable : Reachable m w) {c : Call} (suits : w.Suits m c) :
    (∃ h', w.heap.perform c = .done h' ∧
      (∀ more, invokeWith (fun owner => methodsOf s.table (m.associationMembers owner)) (w.heap.enoughFuel + more)
        (storeOf w.owners w.heap) c.receiver (c.kind.method c.role) c.argument = .returned (storeOf w.owners h')) ∧
      (HasWords m → ∀ more, invoke m s (w.heap.enoughFuel + more) (storeOf w.owners w.heap) c.receiver
        (c.kind.method c.role) c.argument = .returned (storeOf w.owners h'))) ∧
    ∀ owner ∈ m.everyClass, ∀ file, s.source m owner = .ok (some file) → ∃ lines, file.text = textOfLines lines ∧
      accessorLines s.indent.margin s.table (m.associationMembers owner) <:+: full lines := by
  refine ⟨?_, fun owner known file written => accessorLines_infix (Linked.mem_everyClass.1 known).2 written⟩
  have sound := reachable.isSound rooted valid (accessors.isClear reachable)
  obtain ⟨owner, owned, d, member, named, fits, accepts⟩ := suits
  obtain ⟨x, kind, _, argument⟩ := c
  obtain rfl := named
  obtain ⟨h', es, _, done, _⟩ := sound.performs rooted valid owned member fits accepts
  have change := AccessorKind.isChange_of_fits fits
  have enough (more : Nat) : run (w.heap.enoughFuel + more) w.heap ⟨x, kind, d.name, argument⟩ =
      .done (h'.recordAll es) := by
    refine (run_add_of_ends w.heap.enoughFuel more _ fun g unfinished => ?_).trans done
    cases done.symm.trans unfinished
  refine ⟨_, done, fun more => ?_, fun words more => ?_⟩
  · exact calls_agree accessors sound.classes (fun _ _ => rfl) _ w.heap _ _ reachable.isOf change (enough more)
  · exact calls_agree accessors sound.classes (fun owner there => words.methods_eq rooted (sound.classes owner there) s)
      _ w.heap _ _ reachable.isOf change (enough more)

/-- The sources of the club can be written, with accessors that are told apart. -/
theorem club_hasAccessors : HasAccessors club.link ⟨[], []⟩ :=
  ⟨fun owner _ => areEmitted (fun _ => rfl) _, by decide +kernel⟩

/-- The classes and the ends of the club are named by words. -/
theorem club_hasWords : HasWords club.link :=
  ⟨by decide +kernel, by decide +kernel⟩

/-- The player changes the team, in generated code as among objects. -/
theorem generated_accessors_agree_for_player :
    season.Suits club.link ⟨2, .set, "team", some 1⟩ ∧
      ∃ h', season.heap.perform ⟨2, .set, "team", some 1⟩ = .done h' ∧ h'.values 1 "players" = [2] ∧
        ∀ more, invoke club.link ⟨.standard, ⟨[], []⟩, false⟩ (season.heap.enoughFuel + more)
          (storeOf season.owners season.heap) 2 "setTeam" (some 1) = .returned (storeOf season.owners h') := by
  have suits : season.Suits club.link ⟨2, .set, "team", some 1⟩ := by decide +kernel
  obtain ⟨⟨h', done, -, agree⟩, -⟩ := generated_accessors_agree (s := ⟨.standard, ⟨[], []⟩, false⟩) club_isRooted
    club_isValid club_hasAccessors season_reachable suits
  have players : (season.call ⟨2, .set, "team", some 1⟩).heap.values 1 "players" = [2] := by decide +kernel
  have method : AccessorKind.set.method "team" = "setTeam" := by decide +kernel
  rw [World.call, done] at players
  refine ⟨suits, h', done, players, fun more => ?_⟩
  rw [← method]
  exact agree club_hasWords more

end World

end Objects

end ClassDiagram
