import ClassDiagram.Proofs.Java.Dispatch
import ClassDiagram.Proofs.Java.Layout
import ClassDiagram.Proofs.Model.Associations
import ClassDiagram.Proofs.Objects.World

/-!
# Calls between generated classes

The accessors of a member call accessors of the objects that it holds.  The class of these objects has the
member that the calls are for, and its source declares the methods that are called, for objects of the class
that calls (`calls_are_declared`).
-/

set_option autoImplicit false

namespace ClassDiagram.Java

variable {f : AssociationMember} {t : Target} {table : TypeTable}

/-! ## The accessors of a member for objects of a class -/

/-- The elements of a member for objects of a class have the name of that class as type. -/
theorem elementType_of_class (typed : f.target = some t) (isClass : t.kind = .classKind) :
    elementType table f = .ok t.name := by
  have name : table.nameOfTarget f.target = .text t.name := by
    simp [TypeTable.nameOfTarget, typed, isClass]
  rw [elementType, name]
  rfl

/-- A member for objects of a class has the accessors of a list of them or of one. -/
theorem memberAccessors_of_class (typed : f.target = some t) (isClass : t.kind = .classKind) :
    memberAccessors table f =
      .ok (if f.isList then collectionAccessors ("List<" ++ t.name ++ ">") t.name f
        else singleAccessors t.name f) := by
  have name : table.nameOfTarget f.target = .text t.name := by
    simp [TypeTable.nameOfTarget, typed, isClass]
  rw [memberAccessors, typeOfMember, elementType_of_class typed isClass, name]
  cases f.isList <;> rfl

/-- An accessor that changes a member is declared as a public method that returns nothing. -/
theorem header_changeAccessor (kind : AccessorKind) (type : String) (d : AssociationMember) :
    (changeAccessor kind type d).header ++ " \x7b" =
      "public void " ++ d.methodFor kind ++ "(" ++ type ++ " " ++ (changeParameter kind).word ++ ") \x7b" := by
  have first : "public void " = "public " ++ ("void" ++ " ") := rfl
  have last : ") \x7b" = ")" ++ " \x7b" := rfl
  change "public " ++ "void" ++ " " ++ d.methodFor kind ++ "(" ++ (type ++ " " ++ (changeParameter kind).word) ++
    ")" ++ " \x7b" = _
  simp only [first, last, String.append_assoc]

/-! ## What the accessors of a member name -/

section

variable {p : String → Prop} {d : AssociationMember} {type : String}

/-- A notification names the methods that it calls. -/
theorem nameAll_notification (receiver : Operand) {calls : Option PartnerCall} (named : ∀ c ∈ calls, p c.method) :
    NameAll p (notification receiver calls) := by
  cases calls with
  | none => trivial
  | some c => exact ⟨named c rfl, trivial⟩

/-- A setter of a member whose objects know it releases the old value and links the new one. -/
theorem setterBody_of_isBidirectional (bidirectional : d.isBidirectional = true) :
    setterBody type d = [.when .fieldIsNew [.leave],
      .when .fieldGiven ([.keepOld type, .assign .null] ++ notification .oldValue d.onDetach),
      .assign .newValue, .when .newGiven (notification .newValue d.onAttach)] := by
  rw [setterBody, AssociationMember.onAttach_of_isBidirectional bidirectional,
    AssociationMember.onDetach_of_isBidirectional bidirectional]

/-- A setter of a member whose objects do not know it assigns the value. -/
theorem setterBody_of_one_way (oneWay : d.isBidirectional = false) :
    setterBody type d = [.assign .newValue] := by
  obtain ⟨attach, detach⟩ := AssociationMember.calls_of_not_isBidirectional oneWay
  rw [setterBody, attach, detach]

variable (near : ∀ kind : AccessorKind, p (kind.method d.opposite.name))
include near

/-- The call on a value that was linked is on an accessor of the opposite end. -/
theorem named_onAttach : ∀ c ∈ d.onAttach, p c.method := by
  intro c calls
  unfold AssociationMember.onAttach at calls
  split at calls
  · obtain rfl := Option.some.inj calls
    exact near _
  · cases calls

/-- The call on a value that was unlinked is on an accessor of the opposite end. -/
theorem named_onDetach : ∀ c ∈ d.onDetach, p c.method := by
  intro c calls
  unfold AssociationMember.onDetach at calls
  split at calls
  · split at calls <;> obtain rfl := Option.some.inj calls <;> exact near _
  · cases calls

/-- A setter names the type of its values only where it makes calls. -/
theorem nameAll_setterBody (typed : d.isBidirectional = true → p type) : NameAll p (setterBody type d) := by
  cases bidirectional : d.isBidirectional with
  | false =>
    rw [setterBody_of_one_way bidirectional]
    exact ⟨trivial, trivial⟩
  | true =>
    rw [setterBody_of_isBidirectional bidirectional]
    have released := nameAll_notification .oldValue (named_onDetach near)
    have linked := nameAll_notification .newValue (named_onAttach near)
    exact ⟨⟨trivial, trivial⟩, ⟨typed bidirectional, trivial, released⟩, trivial, linked, trivial⟩

/-- An adder names accessors of the opposite end. -/
theorem nameAll_adderBody : NameAll p (adderBody d) :=
  ⟨⟨trivial, trivial⟩, trivial, nameAll_notification .newValue (named_onAttach near)⟩

/-- A remover names accessors of the opposite end. -/
theorem nameAll_removerBody : NameAll p (removerBody d) :=
  ⟨⟨trivial, trivial⟩, trivial, nameAll_notification .oldValue (named_onDetach near)⟩

/-- The accessors of a member name accessors of the opposite end, and the class of its values. -/
theorem nameAll_of_memberAccessors (classes : ∀ t, d.target = some t → t.kind = .classKind → p t.name)
    {accessors : List Accessor} (emitted : memberAccessors table d = .ok accessors) :
    ∀ a ∈ accessors, NameAll p a.body := by
  intro a among
  obtain ⟨type, element, rfl⟩ := memberAccessors_cases emitted
  split at among
  · simp only [collectionAccessors, List.mem_cons, List.not_mem_nil, or_false] at among
    rcases among with rfl | rfl | rfl | rfl
    · exact ⟨trivial, trivial⟩
    · exact ⟨trivial, trivial⟩
    · exact nameAll_adderBody near
    · exact nameAll_removerBody near
  · next isSingle =>
    have typed : d.isBidirectional = true → p type := by
      intro bidirectional
      rw [AssociationMember.isBidirectional] at bidirectional
      obtain ⟨t, leads, isClass⟩ : ∃ t, d.target = some t ∧ t.kind = .classKind := by
        cases leads : d.target with
        | none => simp [leads] at bidirectional
        | some t => exact ⟨t, rfl, by simpa [leads] using bidirectional⟩
      have same := emitted.symm.trans (memberAccessors_of_class leads isClass)
      rw [if_neg isSingle, if_neg isSingle] at same
      have heads := congrArg (·.head?.map (·.returns)) (Except.ok.inj same)
      obtain rfl : type = t.name := Option.some.inj heads
      exact classes t leads isClass
    simp only [singleAccessors, List.mem_cons, List.not_mem_nil, or_false] at among
    rcases among with rfl | rfl
    · exact ⟨trivial, trivial⟩
    · exact nameAll_setterBody near typed

end

/-- An accessor of a member is named as one of some kind. -/
theorem exists_methodFor {d : AssociationMember} {accessors : List Accessor}
    (emitted : memberAccessors table d = .ok accessors) {a : Accessor} (among : a ∈ accessors) :
    ∃ kind, a.name = d.methodFor kind := by
  have there := List.mem_map_of_mem (f := (·.name)) among
  rw [map_name_of_emitted emitted, accessorNames, List.mem_map] at there
  obtain ⟨kind, -, same⟩ := there
  exact ⟨kind, same.symm⟩

/-- The accessors of a member can be read if both ends are named by words, and the class of its values is. -/
theorem isLegibleMember {d : AssociationMember} (word : isWord d.name = true) (near : isWord d.opposite.name = true)
    (classes : ∀ t, d.target = some t → t.kind = .classKind → isWord t.name = true) : IsLegibleMember table d := by
  refine ⟨word, fun accessors emitted a among => ?_⟩
  have body : NameAll (isWord · = true) a.body :=
    nameAll_of_memberAccessors (fun kind => isWord_method kind near) classes emitted a among
  obtain ⟨kind, same⟩ := exists_methodFor emitted among
  refine ⟨same ▸ isWord_method kind word, ?_, body⟩
  obtain ⟨type, element, rfl⟩ := memberAccessors_cases emitted
  split at among
  · simp only [collectionAccessors, List.mem_cons, List.not_mem_nil, or_false] at among
    rcases among with rfl | rfl | rfl | rfl <;> simp
  · simp only [singleAccessors, List.mem_cons, List.not_mem_nil, or_false] at among
    rcases among with rfl | rfl <;> simp

/-! ## The source of a class -/

/-- Whether a text has a line inside a block that begins a public method that returns nothing and takes
one value of a type. -/
def DeclaresMethod (indent : Indent) (text method type : String) : Prop :=
  ∃ margin lines parameter, indent = .unit margin ∧ text = textOfLines lines ∧
    (parameter = Operand.newValue ∨ parameter = .oldValue) ∧
    margin ++ ("public void " ++ method ++ "(" ++ type ++ " " ++ parameter.word ++ ") \x7b") ∈ lines

/-- Every class has a unit. -/
theorem unit?_of_class {m : Linked} {other : LinkedType} (isClass : other.kind = .classKind) (s : Settings) :
    ∃ c, s.unit? m other = some (classUnit s.table other c (m.associationMembers other)) := by
  have covered : s.covers other = true := by simp [Settings.covers, isClass]
  rw [Settings.unit?, if_pos covered]
  rw [Classifier.kind] at isClass
  cases body : other.body with
  | classBody c => exact ⟨c, rfl⟩
  | _ =>
    rw [body] at isClass
    cases isClass

/-- The source of a class declares the accessors that change its members for objects of a class. -/
theorem declaresMethod_of_member {s : Settings} {other : LinkedType} {c : ClassBody Place Link}
    {members : List AssociationMember} (member : f ∈ members) (typed : f.target = some t)
    (isClass : t.kind = .classKind) {kind : AccessorKind} (fits : kind.fits f.isList = true) {text : String}
    (written : (classUnit s.table other c members).text s.indent = .ok text) :
    DeclaresMethod s.indent text (f.methodFor kind) t.name := by
  let a := changeAccessor kind t.name f
  have among := changeAccessor_mem fits t.name ("List<" ++ t.name ++ ">") t.name
  rw [ite_self] at among
  have word : changeParameter kind = .newValue ∨ changeParameter kind = .oldValue := by
    cases kind <;> simp [changeParameter]
  have code : (.block a.header (statementCodes f.name a.body)) ∈ accessorCode s.table f := by
    rw [accessorCode, memberAccessors_of_class typed isClass]
    exact List.mem_flatMap.2 ⟨a, among, by simp [Accessor.code]⟩
  have inClass : (.block a.header (statementCodes f.name a.body)) ∈ classCode s.table other c members := by
    simp only [classCode, List.mem_append]
    exact .inl (.inr (List.mem_flatMap.2 ⟨f, member, code⟩))
  cases header : classHeader other c with
  | error e =>
    have among : .unwritable e ∈ (classUnit s.table other c members).code := by
      rw [classUnit, header]
      exact List.mem_singleton.2 rfl
    obtain ⟨w, w', _, _, _, given, _⟩ := CompilationUnit.exists_write_of_text among written
    rw [Page.write] at given
    cases given
  | ok outer =>
    have among : (.block outer (classCode s.table other c members)) ∈
        (classUnit s.table other c members).code := by
      rw [classUnit, header]
      exact List.mem_singleton.2 rfl
    obtain ⟨margin, lines, indent, same, there⟩ :=
      CompilationUnit.line_mem_of_text among (.inside inClass .here) written
    refine ⟨margin, lines, changeParameter kind, indent, same, word, ?_⟩
    rw [header_changeAccessor] at there
    simpa [repeated] using there

/-! ## Calls -/

/-- Whether two members are for the two ends of one association, each at the class that the other one is
for. -/
structure IsDual (d f : AssociationMember) : Prop where
  far : f.far = d.opposite
  opposite : f.opposite = d.far
  target : f.target = some d.owner.target

/-- Whether a class has what the calls of a member need: a member that is dual to it, to which no other
member of the class of the first one is dual, with the accessors that are called, and source that declares
them for objects of that class. -/
structure Answers (m : Linked) (d : AssociationMember) (other : LinkedType) (f : AssociationMember) : Prop where
  member : f ∈ m.associationMembers other
  dual : IsDual d f
  back : IsDual f d
  unique : ∀ d' ∈ m.associationMembers d.owner, IsDual f d' → d' = d
  onAttach : d.onAttach = some ⟨if f.isList then .addTo else .set, f.name, true⟩
  onDetach : d.onDetach = some ⟨if f.isList then .removeFrom else .set, f.name, f.isList⟩
  declares : other ∈ m.classes → ∀ s : Settings, ∃ u, s.unit? m other = some u ∧
    ∀ text, u.text s.indent = .ok text → ∀ call, d.onAttach = some call ∨ d.onDetach = some call →
      DeclaresMethod s.indent text call.method d.owner.name

variable {m : Linked} {owner other : LinkedType} {d : AssociationMember}

/-- The source of a class declares the methods that are called on its members. -/
theorem declares_of_calls (isClass : other ∈ m.classes) (member : f ∈ m.associationMembers other)
    (typed : f.target = some t) (isClass' : t.kind = .classKind)
    (onAttach : d.onAttach = some ⟨if f.isList then .addTo else .set, f.name, true⟩)
    (onDetach : d.onDetach = some ⟨if f.isList then .removeFrom else .set, f.name, f.isList⟩) (s : Settings) :
    ∃ u, s.unit? m other = some u ∧ ∀ text, u.text s.indent = .ok text →
      ∀ call, d.onAttach = some call ∨ d.onDetach = some call →
        DeclaresMethod s.indent text call.method t.name := by
  obtain ⟨c, found⟩ := unit?_of_class (Linked.kind_of_mem_classes isClass) s
  refine ⟨_, found, fun text written call made => ?_⟩
  obtain ⟨fits, role⟩ : call.kind.fits f.isList = true ∧ call.role = f.name := by
    rcases made with made | made
    · obtain rfl := Option.some.inj (onAttach.symm.trans made)
      cases f.isList <;> exact ⟨rfl, rfl⟩
    · obtain rfl := Option.some.inj (onDetach.symm.trans made)
      cases f.isList <;> exact ⟨rfl, rfl⟩
  rw [PartnerCall.method, role]
  exact declaresMethod_of_member member typed isClass' fits written

/-- The calls of a member for objects of a class are on the dual member of that class, whose source declares
them.  A member for anything else makes no calls.  The linked form of every linked draft is rooted, whatever
targets were given in it (`Draft.IsLinked.view_isRooted`). -/
theorem calls_are_declared (rooted : m.IsRooted) (known : owner ∈ m.everyClass)
    (member : d ∈ m.associationMembers owner) :
    d.owner = owner ∧
    (∀ t, d.target = some t → t.kind = .classKind →
      ∃ other ∈ m.everyClass, other.target = t ∧ ∃ f, Answers m d other f) ∧
    ((∀ t, d.target = some t → t.kind ≠ .classKind) → d.onAttach = none ∧ d.onDetach = none) := by
  obtain ⟨rfl, _, typed, a, among, ends⟩ := (rooted.mem_associationMembers known).1 member
  have kind : d.owner.target.kind = .classKind := (Linked.mem_everyClass.1 known).2
  refine ⟨rfl, ?_, ?_⟩
  · intro t leads isClass
    obtain ⟨other, there, rfl⟩ := rooted.classes a among d.far (mem_ends ends) t leads isClass
    have known' : other ∈ m.everyClass := Linked.mem_everyClass.2 ⟨there, isClass⟩
    obtain ⟨bidirectional, member', _⟩ := rooted.opposite_member known member known' leads rfl
    have onAttach := AssociationMember.onAttach_of_isBidirectional bidirectional
    have onDetach := AssociationMember.onDetach_of_isBidirectional bidirectional
    have onDetach : d.onDetach =
        some ⟨if d.opposite.isList then .removeFrom else .set, d.opposite.name, d.opposite.isList⟩ := by
      rw [onDetach, PartnerCall.unlinking]
      cases d.opposite.isList <;> rfl
    refine ⟨other, known', rfl, ⟨other, d.opposite, d.far⟩, ?_⟩
    exact {
      member := member'
      dual := ⟨rfl, rfl, typed⟩
      back := ⟨rfl, rfl, leads⟩
      unique := fun d' there dual => by
        have owned := ((rooted.mem_associationMembers known).1 there).1
        obtain ⟨_, far, opposite⟩ := d'
        obtain rfl : _ = d.owner := owned
        obtain rfl : far = d.far := dual.far
        obtain rfl : opposite = d.opposite := dual.opposite
        rfl
      onAttach := onAttach
      onDetach := onDetach
      declares := fun isClass' s =>
        declares_of_calls isClass' member' typed kind onAttach onDetach s }
  · intro other
    refine AssociationMember.calls_of_not_isBidirectional ?_
    rw [AssociationMember.isBidirectional]
    cases leads : d.target with
    | none => rfl
    | some t => simpa using other t leads

open Objects World

/-- The member of houses for the tenant who has one as home. -/
def tenantOfHouse : AssociationMember :=
  (lodgings.view.associationMembers houseOutside).get ⟨0, by decide +kernel⟩

/-- The tenant declares the method that a house outside the model calls. -/
theorem calls_are_declared_by_tenant :
    tenantOfHouse ∈ lodgings.view.associationMembers houseOutside ∧ houseOutside ∈ lodgings.view.strays ∧
      (∃ f, Answers lodgings.view tenantOfHouse tenant f) ∧
      ∃ u text, (Settings.mk .standard ⟨[], []⟩ false).unit? lodgings.view tenant = some u ∧
        u.text .standard = .ok text ∧ DeclaresMethod .standard text "setHome" "House" := by
  have rooted : lodgings.view.IsRooted := lodgings_isLinked.view_isRooted
  have member : tenantOfHouse ∈ lodgings.view.associationMembers houseOutside := List.get_mem ..
  have inside : tenant ∈ lodgings.view.classes := List.get_mem ..
  obtain ⟨_, calls, _⟩ := calls_are_declared rooted houseOutside_mem_everyClass member
  obtain ⟨other, known, same, f, answers⟩ := calls tenant.target (by rfl) (Linked.kind_of_mem_classes inside)
  obtain rfl : other = tenant :=
    rooted.type_eq (Linked.mem_everyClass.1 known).1 (Linked.mem_everyType inside) (congrArg Target.key same)
  obtain ⟨u, found, declares⟩ := answers.declares inside ⟨.standard, ⟨[], []⟩, false⟩
  have written : ((Settings.mk .standard ⟨[], []⟩ false).unit? lodgings.view tenant).map
      (fun u => (u.text .standard).isOk) = some true := by decide +kernel
  rw [found, Option.map_some, Option.some.injEq] at written
  obtain ⟨text, written⟩ : ∃ text, u.text .standard = .ok text := by
    cases given : u.text .standard with
    | error e =>
      rw [given] at written
      cases written
    | ok text => exact ⟨text, rfl⟩
  have attach : tenantOfHouse.onAttach = some ⟨.set, "home", true⟩ := by decide +kernel
  have method : PartnerCall.method ⟨.set, "home", true⟩ = "setHome" := by decide +kernel
  have name : tenantOfHouse.owner.name = "House" := by decide +kernel
  have declared := declares text written _ (.inl attach)
  rw [method, name] at declared
  exact ⟨member, List.get_mem .., ⟨f, answers⟩, u, text, found, written, declared⟩

end ClassDiagram.Java
