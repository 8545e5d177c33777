import ClassDiagram.Proofs.Draft.Plain
import ClassDiagram.Proofs.Java.Layout
import ClassDiagram.Proofs.Model.Associations

/-!
# The Java files of a draft and of its linked form

Where nothing is given beside the tree, each check that stands before a piece of code fails only where the piece itself
cannot be formed, so the code that is laid out for a draft is that of the unit (`code_codeOf_nothing`).  In a draft in
which everything is of its kind, nothing is in the way of reading what a file imports.  So the file of a type is the one
that the linked form has (`IsTyped.gives_sourceOf`), whatever was read before.
-/

set_option autoImplicit false

namespace ClassDiagram

/-! ## References to elements -/

/-- Whether what a reference leads to is an element, and not the model. -/
def Link.LeadsToElement (l : Link) : Prop := ∀ target, l.target = some target → target.key ≠ .inside []

/-- Whether the type of an element leads to an element. -/
def TypeLeadsToElement (type : Option Link) : Prop := ∀ l ∈ type, l.LeadsToElement

/-- Whether all references of a linked model lead to elements. -/
def Linked.LeadsToElements (m : Linked) : Prop :=
  ∀ e ∈ m.model.elements, ∀ r ∈ e.references, r.2.2.LeadsToElement

section

variable {m : Linked} (leads : m.LeadsToElements) {t : LinkedType}
include leads

/-- The type of an element leads to an element. -/
theorem Linked.LeadsToElements.typed {e : Element Place Link} (there : e ∈ m.model.elements) {type : Option Link}
    (own : e.references = typeReference type) : TypeLeadsToElement type := by
  intro l given
  obtain rfl : type = some l := given
  exact leads e there (.type, 0, l) (by simp [own, typeReference])

/-- The type of a property or an end leads to an element. -/
theorem Linked.LeadsToElements.property (there : t ∈ m.model.types) {p : LinkedProperty}
    (part : p ∈ t.properties ∨ p ∈ t.ends) : TypeLeadsToElement p.type := by
  have inside : Element.property p ∈ m.model.elements :=
    Model.mem_elements_of_mem_parts (Model.mem_types_iff.1 there) (by simpa using part)
  exact leads.typed inside rfl

/-- The types of an operation and of its parameters lead to elements. -/
theorem Linked.LeadsToElements.operation (there : t ∈ m.model.types) {o : LinkedOperation}
    (part : o ∈ t.operations) : TypeLeadsToElement o.type ∧ ∀ r ∈ o.parameters, TypeLeadsToElement r.type := by
  have inside : Element.operation o ∈ m.model.elements :=
    Model.mem_elements_of_mem_parts (Model.mem_types_iff.1 there) (by simp [part])
  refine ⟨leads.typed inside rfl, fun r among => ?_⟩
  have within : Element.parameter r ∈ m.model.elements :=
    Model.mem_elements_of_mem_parts inside (by simp [among])
  exact leads.typed within rfl

/-- A member that an association adds to a type has the type of an end. -/
theorem Linked.LeadsToElements.member {r : AssociationMember} (there : r ∈ m.associationMembers t) :
    TypeLeadsToElement r.far.type := by
  obtain ⟨a, among, within⟩ := List.mem_flatMap.1 there
  obtain ⟨far, isFar, built⟩ := List.mem_filterMap.1 within
  obtain ⟨-, paired⟩ := Option.ite_none_right_eq_some.1 built
  obtain ⟨opposite, -, rfl⟩ := Option.map_eq_some_iff.1 paired
  obtain ⟨near, ends, -⟩ := mem_farEnds.1 isFar
  have isEnd : far ∈ a.ends := by
    rcases ends with ends | ends <;> simp [ends]
  have known : a ∈ m.model.types := (List.mem_filter.1 (mem_associationsAt.1 among).1).1
  exact leads.property known (.inr isEnd)

end

namespace Draft

open Inquiry
open Java (Code)

/-- The references of the linked form lead to elements where those of the draft do. -/
theorem IsTyped.view_leadsToElements {d : Draft} (typed : d.IsTyped) : d.view.LeadsToElements := by
  refine Model.forall_references_map (P := fun _ (r : RefField × Nat × Link) => r.2.2.LeadsToElement) |>.2 ?_
  intro e there r among target found
  obtain ⟨holder, aimed, leads⟩ := Option.bind_eq_some_iff.1 found
  cases holder with
  | model => exact absurd aimed (typed.targetOf_ne_model (mem_elements_of_tree there) among)
  | element origin =>
    obtain ⟨x, -, rfl⟩ := Option.map_eq_some_iff.1 leads
    exact d.keyIn_ne_root origin

/-! ## Names of types -/

/-- The type of an element is written as the linked form has it. -/
theorem typeWord_nothing (table : TypeTable) {type : Option Link} (leads : TypeLeadsToElement type) (many : Bool) :
    typeWord .nothing table type many = table.writtenType type many := by
  unfold typeWord TypeTable.writtenType TypeTable.nameOfType
  cases found : type.bind (·.target) with
  | none => rfl
  | some target =>
    obtain ⟨l, given, aimed⟩ := Option.bind_eq_some_iff.1 found
    have name : targetName .nothing target = .ok (.text target.name) := by
      have inside : target.key ≠ .inside [] := leads l given target aimed
      rw [targetName, if_neg (by simp [inside])]
      rfl
    dsimp only
    rw [name]
    dsimp only [TypeTable.nameOfTarget]
    split <;> rfl

/-! ## What cannot be formed -/

/-- Whether nothing but a number with too many digits is in the way of something. -/
def OnlyUnwritten {α : Type} (x : Except Misfit α) : Prop := ∀ e, x = .error e → e = .unwritten

namespace OnlyUnwritten

variable {α β : Type} {x : Except Misfit α} {y : Except Misfit β}

/-- A computation that does not fail fails only with what cannot be written. -/
theorem ok (a : α) : OnlyUnwritten (.ok a : Except Misfit α) := nofun

/-- Two steps in a row fail only with what cannot be written if both do so. -/
theorem bind {f : α → Except Misfit β} (first : OnlyUnwritten x) (next : ∀ a, OnlyUnwritten (f a)) :
    OnlyUnwritten (x >>= f) := by
  cases x with
  | error e => exact fun e' same => first e' (congrArg Except.error (Except.error.inj same))
  | ok a => exact next a

/-- A computation whose value is changed fails as it did. -/
theorem map {f : α → β} (first : OnlyUnwritten x) : OnlyUnwritten (x.map f) := by
  cases x with
  | error e => exact fun e' same => first e' (congrArg Except.error (Except.error.inj same))
  | ok a => exact nofun

/-- A computation whose value does not count fails as it did. -/
theorem discard (first : OnlyUnwritten x) : OnlyUnwritten (discard x) := by
  cases x with
  | error e => exact fun e' same => first e' (congrArg Except.error (Except.error.inj same))
  | ok a => exact nofun

/-- A check of items fails only with what cannot be written if that of each item does so. -/
theorem forM {f : α → Except Misfit Unit} {items : List α} (each : ∀ a ∈ items, OnlyUnwritten (f a)) :
    OnlyUnwritten (items.forM f) := by
  induction items with
  | nil => exact ok ()
  | cons a rest ih =>
    rw [List.forall_mem_cons] at each
    exact each.1.bind fun _ => ih each.2

/-- What needs something else fails with it where only numbers are in the way of both. -/
theorem error_of_needs (first : OnlyUnwritten x) (second : OnlyUnwritten y)
    (needs : ∀ b, y = .ok b → ∃ a, x = .ok a) : ∀ e, x = .error e → y = .error e := by
  intro e failed
  obtain rfl := first e failed
  cases y with
  | error e' => rw [second e' rfl]
  | ok b =>
    obtain ⟨a, given⟩ := needs b rfl
    rw [failed] at given
    cases given

end OnlyUnwritten

/-- The text of a value in a line fails only if it cannot be written. -/
theorem onlyUnwritten_lineText (value : Document) : OnlyUnwritten (lineText value) := by
  intro e failed
  unfold lineText at failed
  split at failed
  · cases failed
  · exact (Except.error.inj failed).symm

/-- The name of a type fails only if it cannot be written. -/
theorem onlyUnwritten_writtenType (table : TypeTable) (type : Option Link) (many : Bool) :
    OnlyUnwritten (table.writtenType type many) := by
  unfold TypeTable.writtenType
  dsimp only
  split
  · exact .ok _
  · split
    · exact ((onlyUnwritten_lineText _).bind fun _ => .ok _).map
    · exact .ok _

/-- Types and names fail only if one of the types cannot be written. -/
theorem onlyUnwritten_typedNames (parts : List (Except Misfit Document × String))
    (each : ∀ part ∈ parts, OnlyUnwritten part.1) : OnlyUnwritten (Java.typedNames parts) := by
  refine OnlyUnwritten.bind ?_ fun _ => .ok _
  induction parts with
  | nil => exact .ok []
  | cons part rest ih =>
    rw [List.forall_mem_cons] at each
    rw [List.mapM_cons]
    refine OnlyUnwritten.bind ?_ fun _ => (ih each.2).bind fun _ => .ok _
    exact each.1.bind fun type => (onlyUnwritten_lineText type).bind fun _ => .ok _

/-- Types and names can be written only if every type can. -/
theorem ok_of_typedNames {parts : List (Except Misfit Document × String)} {text : String}
    (written : Java.typedNames parts = .ok text) : ∀ part ∈ parts, ∃ type, part.1 = .ok type := by
  obtain ⟨texts, each, -⟩ := bind_eq_ok.1 written
  clear written
  induction parts generalizing texts with
  | nil => simp
  | cons part rest ih =>
    rw [List.mapM_cons] at each
    obtain ⟨text', first, others⟩ := bind_eq_ok.1 each
    obtain ⟨texts', later, -⟩ := bind_eq_ok.1 others
    obtain ⟨type, given, -⟩ := bind_eq_ok.1 first
    exact List.forall_mem_cons.2 ⟨⟨type, given⟩, ih texts' later⟩

/-! ## Pieces of code -/

/-- A check that fails only where the code cannot be formed either leaves the code as it is. -/
theorem guarded_eq {check : Except Misfit Unit} {code : List Code}
    (within : ∀ e, check = .error e → code = [.unwritable e]) : guarded check code = code := by
  unfold guarded
  cases check with
  | ok _ => rfl
  | error e => exact (within e rfl).symm

/-- Code that is guarded item by item is the code itself if every guard passes. -/
theorem flatMap_guarded {α : Type} {items : List α} {check : α → Except Misfit Unit} {code : α → Code}
    (each : ∀ a ∈ items, guarded (check a) [code a] = [code a]) :
    items.flatMap (fun a => guarded (check a) [code a]) = items.map code := by
  rw [List.flatMap_congr each, List.map_eq_flatMap]

/-- Words that are texts can be joined. -/
theorem joinWords_texts (words : List String) : ∃ text, joinWords (words.map .text) = .ok text := by
  have texts : (words.map Document.text).filter (·.isGiven) =
      (words.filter fun word => (Document.text word).isGiven).map .text := by
    rw [List.filter_map]
    rfl
  exact ⟨_, by rw [joinWords, texts, wordTexts_texts]; rfl⟩

/-- Where nothing was given, the names of super types fit. -/
theorem supersFit_nothing (links : List Link) : supersFit .nothing links = .ok () := by
  have names : (links.filterMap fun l => l.target.map fun t => GivenAt.nothing.name t.key t.name) =
      (knownNames links).map .text := by
    rw [knownNames, List.map_filterMap]
    refine List.filterMap_congr fun l _ => ?_
    rw [Option.map_map]
    rfl
  rw [supersFit, names, wordTexts_texts]
  rfl

/-- Where nothing was given, the header of a class fits. -/
theorem classHeaderFits_nothing (t : LinkedType) (c : ClassBody Place Link) :
    classHeaderFits .nothing t c = .ok () := by
  obtain ⟨text, joined⟩ := joinWords_texts ["public", if c.isAbstract then "abstract" else "", "class", t.name]
  rw [classHeaderFits, supersFit_nothing, supersFit_nothing]
  change discard (joinWords _) >>= _ = _
  rw [show [Document.text "public", .text (if c.isAbstract then "abstract" else ""), .text "class",
    GivenAt.nothing.name t.key t.name] = ["public", if c.isAbstract then "abstract" else "", "class",
      t.name].map .text from rfl, joined]
  rfl

section

variable (table : TypeTable)

/-- Where nothing was given, the field of a property is written as it is. -/
theorem field_nothing {p : LinkedProperty} (leads : TypeLeadsToElement p.type) :
    guarded (fieldFits .nothing table p) [Java.propertyField table p] = [Java.propertyField table p] := by
  refine guarded_eq fun e failed => ?_
  rw [fieldFits, typeWord_nothing table leads] at failed
  unfold Java.propertyField TypeTable.propertyType
  cases typed : table.writtenType p.type p.isList with
  | error e' =>
    rw [typed] at failed
    obtain rfl := Except.error.inj failed
    rfl
  | ok type =>
    rw [typed] at failed
    change discard (joinWords [.text "private", .text (Java.staticWord p.isStatic), type, .text p.name]) = _ at failed
    change [Code.ofLine (joinWords [.text "private", .text (Java.staticWord p.isStatic), type, .text p.name] >>= _)] = _
    cases joined : joinWords [.text "private", .text (Java.staticWord p.isStatic), type, .text p.name] with
    | error e' =>
      rw [joined] at failed
      obtain rfl := Except.error.inj failed
      rfl
    | ok text =>
      rw [joined] at failed
      cases failed

/-- Where nothing was given, the constant of a property is written as it is. -/
theorem constant_nothing {p : LinkedProperty} (leads : TypeLeadsToElement p.type) :
    guarded (discard (typeWord .nothing table p.type p.isList)) [Java.constantCode table p] =
      [Java.constantCode table p] := by
  refine guarded_eq fun e failed => ?_
  rw [typeWord_nothing table leads] at failed
  unfold Java.constantCode TypeTable.propertyType
  cases typed : table.writtenType p.type p.isList with
  | error e' =>
    rw [typed] at failed
    obtain rfl := Except.error.inj failed
    rfl
  | ok type =>
    rw [typed] at failed
    cases failed

/-- Where nothing was given, a member fits. -/
theorem member_nothing {r : AssociationMember} (leads : TypeLeadsToElement r.far.type) :
    memberFits .nothing r = .ok () := by
  unfold memberFits
  cases found : r.target with
  | none => rfl
  | some target =>
    obtain ⟨l, given, aimed⟩ := Option.bind_eq_some_iff.1 found
    have inside : target.key ≠ .inside [] := leads l given target aimed
    dsimp only
    rw [targetName, if_neg (by simp [inside])]
    rfl

/-- Where nothing was given, the accessors of a member fit. -/
theorem accessors_nothing (r : AssociationMember) : accessorsFit .nothing r = .ok () := by
  unfold accessorsFit
  split <;> rfl

/-! ## Operations -/

/-- The head of an operation fails only if it cannot be written. -/
theorem onlyUnwritten_operationHead (o : LinkedOperation) : OnlyUnwritten (Java.operationHead table o) := by
  have result : OnlyUnwritten (table.resultType o) := by
    unfold TypeTable.resultType
    split
    · exact .ok _
    · exact onlyUnwritten_writtenType table o.type o.isList
  refine OnlyUnwritten.bind ?_ fun _ => (result.bind fun _ => ?_)
  · refine onlyUnwritten_typedNames _ fun part there => ?_
    obtain ⟨r, -, rfl⟩ := List.mem_map.1 there
    exact onlyUnwritten_writtenType table r.type r.isList
  · exact (onlyUnwritten_lineText _).bind fun _ => .ok _

variable {o : LinkedOperation} (leads : TypeLeadsToElement o.type)
  (leadAll : ∀ r ∈ o.parameters, TypeLeadsToElement r.type)
include leads leadAll

/-- An operation does not fit only if it cannot be written. -/
theorem onlyUnwritten_operationFits : OnlyUnwritten (operationFits .nothing table o) := by
  have word {type : Option Link} (leads : TypeLeadsToElement type) (many : Bool) :
      OnlyUnwritten (discard (typeWord .nothing table type many)) := by
    rw [typeWord_nothing table leads]
    exact (onlyUnwritten_writtenType table type many).discard
  exact (OnlyUnwritten.forM fun r there => word (leadAll r there) r.isList).bind fun _ => word leads o.isList

/-- An operation is checked for what its head needs. -/
theorem operationHead_of_operationFits :
    ∀ e, operationFits .nothing table o = .error e → Java.operationHead table o = .error e := by
  refine (onlyUnwritten_operationFits table leads leadAll).error_of_needs (onlyUnwritten_operationHead table o) ?_
  intro head written
  obtain ⟨parameters, listed, rest⟩ := bind_eq_ok.1 written
  obtain ⟨result, typed, -⟩ := bind_eq_ok.1 rest
  have fits : o.parameters.forM (fun r => discard (typeWord .nothing table r.type r.isList)) = .ok () := by
    refine forM_eq_ok fun r there => ?_
    obtain ⟨type, given⟩ := ok_of_typedNames listed _ (List.mem_map_of_mem there)
    have word : typeWord .nothing table r.type r.isList = .ok type :=
      (typeWord_nothing table (leadAll r there) r.isList).trans given
    rw [word]
    rfl
  have returned : ∃ type, typeWord .nothing table o.type o.isList = .ok type := by
    cases given : o.type with
    | none => exact ⟨.text "", rfl⟩
    | some l =>
      have word := typeWord_nothing table leads o.isList
      rw [TypeTable.resultType, given] at typed
      rw [given] at word
      exact ⟨result, word.trans typed⟩
  obtain ⟨type, word⟩ := returned
  refine ⟨(), ?_⟩
  rw [operationFits, fits, word]
  rfl

/-- Where nothing was given, an operation of a class is written as it is. -/
theorem classOperation_nothing : operationCode .nothing table o (Java.classOperation table o) =
    Java.classOperation table o := by
  have last : guarded (operationFits .nothing table o) ((Java.classOperation table o).drop 2) =
      (Java.classOperation table o).drop 2 := by
    refine guarded_eq fun e failed => ?_
    have head := operationHead_of_operationFits table leads leadAll e failed
    unfold Java.classOperation
    rw [head]
    cases o.isAbstract <;> rfl
  rw [operationCode, last, List.take_append_drop]

/-- Where nothing was given, an operation of an interface is written as it is. -/
theorem interfaceOperation_nothing : operationCode .nothing table o (Java.interfaceOperation table o) =
    Java.interfaceOperation table o := by
  have last : guarded (operationFits .nothing table o) ((Java.interfaceOperation table o).drop 2) =
      (Java.interfaceOperation table o).drop 2 := by
    refine guarded_eq fun e failed => ?_
    have head := operationHead_of_operationFits table leads leadAll e failed
    unfold Java.interfaceOperation
    rw [head]
    cases o.isStatic <;> rfl
  rw [operationCode, last, List.take_append_drop]

end

/-! ## Units -/

/-- The components of a record are checked for what their types need. -/
theorem record_nothing (table : TypeTable) {properties : List LinkedProperty}
    (leads : ∀ p ∈ properties, TypeLeadsToElement p.type) (t : LinkedType) :
    guarded (properties.forM fun p => discard (typeWord .nothing table p.type p.isList))
      (Java.recordUnit table t properties).code = (Java.recordUnit table t properties).code := by
  have components : ∀ e, (properties.forM fun p => discard (typeWord .nothing table p.type p.isList)) = .error e →
      Java.typedNames (properties.map fun p => (table.propertyType p, p.name)) = .error e := by
    refine OnlyUnwritten.error_of_needs ?_ ?_ fun text written => ⟨(), forM_eq_ok fun p there => ?_⟩
    · refine OnlyUnwritten.forM fun p there => ?_
      rw [typeWord_nothing table (leads p there)]
      exact (onlyUnwritten_writtenType table p.type p.isList).discard
    · refine onlyUnwritten_typedNames _ fun part there => ?_
      obtain ⟨p, -, rfl⟩ := List.mem_map.1 there
      exact onlyUnwritten_writtenType table p.type p.isList
    · obtain ⟨type, given⟩ := ok_of_typedNames written _ (List.mem_map_of_mem there)
      have word : typeWord .nothing table p.type p.isList = .ok type :=
        (typeWord_nothing table (leads p there) p.isList).trans given
      rw [word]
      rfl
  refine guarded_eq fun e failed => ?_
  unfold Java.recordUnit
  rw [components e failed]
  rfl

section

variable {m : Linked} (leads : m.LeadsToElements) {t : LinkedType} (there : t ∈ m.model.types)
include leads there

/-- Where nothing was given, the code of a class is written as it is. -/
theorem classCode_nothing (table : TypeTable) {c : ClassBody Place Link} (body : t.body = .classBody c) :
    classCode .nothing table t c (m.associationMembers t) = Java.classCode table t c (m.associationMembers t) := by
  have properties : t.properties = c.properties := by rw [Classifier.properties, body]
  have operations : t.operations = c.operations := by rw [Classifier.operations, body]
  have fields := flatMap_guarded fun p (among : p ∈ c.properties) =>
    field_nothing table (leads.property there (.inl (properties ▸ among)))
  have members : (m.associationMembers t).flatMap (fun r => guarded (memberFits .nothing r) [Java.memberField table r]) =
      (m.associationMembers t).map (Java.memberField table) := by
    refine flatMap_guarded fun r among => ?_
    rw [member_nothing (leads.member among)]
    rfl
  have methods : c.operations.flatMap (fun o => operationCode .nothing table o (Java.classOperation table o)) =
      c.operations.flatMap (Java.classOperation table) := by
    refine List.flatMap_congr fun o among => ?_
    obtain ⟨result, parameters⟩ := leads.operation there (operations ▸ among)
    exact classOperation_nothing table result parameters
  have accessors : (m.associationMembers t).flatMap
      (fun r => guarded (accessorsFit .nothing r) (Java.accessorCode table r)) =
        (m.associationMembers t).flatMap (Java.accessorCode table) := by
    refine List.flatMap_congr fun r _ => ?_
    rw [accessors_nothing]
    rfl
  rw [classCode, Java.classCode, fields, members, methods, accessors]
  rfl

/-- Where nothing was given, the code of an interface is written as it is. -/
theorem interfaceCode_nothing (table : TypeTable) {c : InterfaceBody Place Link} (body : t.body = .interface c) :
    interfaceCode .nothing table c =
      c.properties.map (Java.constantCode table) ++ c.operations.flatMap (Java.interfaceOperation table) := by
  have properties : t.properties = c.properties := by rw [Classifier.properties, body]
  have operations : t.operations = c.operations := by rw [Classifier.operations, body]
  have constants := flatMap_guarded fun p (among : p ∈ c.properties) =>
    constant_nothing table (leads.property there (.inl (properties ▸ among)))
  have methods : c.operations.flatMap (fun o => operationCode .nothing table o (Java.interfaceOperation table o)) =
      c.operations.flatMap (Java.interfaceOperation table) := by
    refine List.flatMap_congr fun o among => ?_
    obtain ⟨result, parameters⟩ := leads.operation there (operations ▸ among)
    exact interfaceOperation_nothing table result parameters
  rw [interfaceCode, constants, methods]

/-- Where nothing is given beside the tree, the code that is laid out for a type is that of its unit. -/
theorem code_codeOf_nothing {s : Java.Settings} {u : Java.CompilationUnit} (unit : s.unit? m t = some u) :
    codeOf .nothing s.table (m.associationMembers t) t = u.code := by
  obtain ⟨-, unit⟩ := Option.ite_none_right_eq_some.1 unit
  split at unit
  · next c body =>
    obtain rfl := Option.some.inj unit
    simp only [codeOf, body]
    rw [classCode_nothing leads there s.table body, classHeaderFits_nothing]
    rfl
  · next c body =>
    obtain rfl := Option.some.inj unit
    simp only [codeOf, body]
    rw [interfaceCode_nothing leads there s.table body, supersFit_nothing]
    rfl
  · next properties body =>
    obtain rfl := Option.some.inj unit
    simp only [codeOf, body]
    refine record_nothing s.table (fun p among => leads.property there (.inl ?_)) t
    rw [Classifier.properties, body]
    exact among
  · next literals body =>
    obtain rfl := Option.some.inj unit
    have lines : (literals.map Document.text).forM canBeFollowed = .ok () := by
      refine forM_eq_ok fun literal among => ?_
      obtain ⟨text, -, rfl⟩ := List.mem_map.1 among
      rfl
    have own : t.literals = literals := by rw [Classifier.literals, body]
    simp only [codeOf, body]
    rw [enumerationCode, GivenAt.literals_nothing, own]
    change [Code.block _ (guarded ((literals.map Document.text).forM canBeFollowed) _)] = _
    rw [lines]
    rfl
  · cases unit
  · cases unit

end

/-! ## Files -/

section

variable {d : Draft} (typed : d.IsTyped)
include typed

/-- In a typed draft every target can be imported. -/
theorem IsTyped.importFits_eq (target : Option Holder) : d.importFits target = .ok () := by
  have home (holder : Holder) : discard (d.homeTexts holder) = .ok () := by
    rw [typed.homeTexts_eq]
    rfl
  unfold importFits
  split
  · split
    · rw [typed.nameGiven_eq, home]
      split <;> rfl
    · exact home _
  · rfl

/-- Reading the import of the type of an element meets nothing in the way. -/
theorem IsTyped.gives_readImport {e : Element Handle Pointer} (there : e ∈ d.elements) {type : Option Pointer}
    (own : e.references = typeReference type) : (d.readImport e.place type).Gives (.ok ()) := by
  obtain ⟨target, reads, -⟩ := typed.gives_readType there own
  refine reads.then ?_
  rw [typed.importFits_eq]
  exact gives_of (.ok ())

variable {t : Classifier Handle Pointer} (there : t ∈ d.model.types)
include there

/-- Reading the imports of super types meets nothing in the way. -/
theorem IsTyped.gives_readSuperImports (field : RefField) : (d.readSuperImports t field).Gives (.ok ()) := by
  refine typed.gives_readEach (mem_elements_of_tree (Model.mem_types_iff.1 there)) field fun target other => ?_
  rw [typed.importFits_eq]
  refine (gives_of (.ok ())).then ?_
  rw [if_neg (by simp [other])]
  exact gives_pure ()

/-- Nothing is in the way of reading what the file of a type imports. -/
theorem IsTyped.gives_readImports (f : Forms) (members : List AssociationMember) :
    (d.readImports f members t).Gives (.ok ()) := by
  have part {e : Element Handle Pointer} (held : e ∈ (Element.classifier t).parts) : e ∈ d.model.elements :=
    Model.mem_elements_of_mem_parts (Model.mem_types_iff.1 there) held
  have home : discard (Inquiry.of (d.homeTexts (.element t.place.origin))) |>.Gives (.ok ()) := by
    rw [typed.homeTexts_eq]
    exact (gives_of (.ok _)).discard
  refine home.then ?_
  refine (typed.gives_readSuperImports there .superClasses).then ?_
  refine (typed.gives_readSuperImports there .superInterfaces).then ?_
  refine Gives.then (a := ()) (gives_forM fun p among => ?_) ?_
  · exact typed.gives_readImport (mem_elements_of_tree (part (e := .property p) (by simp [among]))) rfl
  refine Gives.then (a := ()) (gives_forM fun r _ => ?_) ?_
  · rw [typed.importFits_eq]
    exact gives_of (.ok ())
  refine gives_forM fun o among => ?_
  have inside : Element.operation o ∈ d.model.elements := part (by simp [among])
  refine (typed.gives_readImport (mem_elements_of_tree inside) rfl).then (gives_forM fun r listed => ?_)
  have within : Element.parameter r ∈ d.model.elements := Model.mem_elements_of_mem_parts inside (by simp [listed])
  exact typed.gives_readImport (mem_elements_of_tree within) rfl

/-- The file of a type in a draft in which everything is of its kind is that of the linked form, whatever was read
before. -/
theorem IsTyped.gives_sourceOf (s : Java.Settings) {m : Linked} (leads : m.LeadsToElements) {l : LinkedType}
    (known : l ∈ m.model.types) (positions : Positions) :
    (d.sourceOf s ⟨positions, m, .nothing, m⟩ ⟨t, l, l⟩).Gives (s.source m l) := by
  unfold sourceOf Java.Settings.source
  cases unit : s.unit? m l with
  | none => exact gives_pure none
  | some u =>
    refine (typed.gives_readImports there _ _).then ?_
    dsimp only
    rw [code_codeOf_nothing leads known unit]
    refine (gives_of (u.text s.indent)).bind fun text _ => ?_
    exact (gives_of (.ok ())).then (gives_pure _)

end

end Draft

end ClassDiagram
