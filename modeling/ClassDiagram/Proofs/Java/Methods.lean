import ClassDiagram.Proofs.Java.Callbacks
import ClassDiagram.Proofs.Java.Lines
import ClassDiagram.Proofs.Model.WellFormed

/-!
# The methods of a class

The text of a class has its fields, and after them the accessors of its properties, those of its members and its
operations (`IsClassText`).  All accessors are named by a verb and a name with a capital, so two properties or members
share one exactly if their names are the same with capitals; the check of a model compares names as they are.  What
a class needs for methods that are told apart is therefore more than a model without errors (`declares_once_iff`).
-/

set_option autoImplicit false

namespace ClassDiagram.Java

/-! ## Methods -/

/-- A method of a class: what stands in front of its name, its name, the types and the names of its parameters, its
comment, and its body unless it is abstract. -/
structure ClassMethod where
  before : String
  name : String
  parameters : List (String × String)
  comment : List Code
  body : Option (List Code)

namespace ClassMethod

/-- What tells methods apart: the name and the types of the parameters. -/
def signature (m : ClassMethod) : String × List String := (m.name, m.parameters.map Prod.fst)

/-- The line that declares a method. -/
def head (m : ClassMethod) : String :=
  m.before ++ m.name ++ "(" ++ ", ".intercalate (m.parameters.map fun (type, name) => type ++ " " ++ name) ++ ")"

/-- The code of a method, set off by an empty line. -/
def code (m : ClassMethod) : List Code :=
  .blank :: m.comment ++
    [match m.body with
      | some body => .block m.head body
      | none => .line (m.head ++ ";")]

end ClassMethod

/-- The words in front of a name, and a space if there are any. -/
def wordsBefore (words : List Document) : Except Misfit String :=
  (wordTexts 0 (words.filter (·.isGiven))).map fun texts => if texts.isEmpty then "" else " ".intercalate texts ++ " "

/-- The getter and the setter of a property. -/
def propertyMethods (table : TypeTable) (owner : String) (p : LinkedProperty) : Except Misfit (List ClassMethod) := do
  let words := [.text (visibilityWord (p.visibility.getD .publicAccess)), .text (staticWord p.isStatic)]
  let holder := if p.isStatic then owner else "this"
  let type ← table.propertyType p
  let getter ← wordsBefore (words ++ [type])
  let setter ← wordsBefore (words ++ [.text voidType])
  return [
    { before := getter, name := AccessorKind.get.method p.name, parameters := [], comment := []
      body := some [.line ("return " ++ holder ++ "." ++ p.name ++ ";")] },
    { before := setter, name := AccessorKind.set.method p.name, parameters := [(← lineText type, p.name)], comment := []
      body := some [.line (holder ++ "." ++ p.name ++ " = " ++ p.name ++ ";")] }]

/-- The methods of a member. -/
def memberMethods (table : TypeTable) (d : AssociationMember) : Except Misfit (List ClassMethod) := do
  return (← memberAccessors table d).map fun a =>
    { before := "public " ++ a.returns ++ " ", name := a.name
      parameters := (a.parameter.map fun (type, operand) => (type, operand.word)).toList, comment := []
      body := some (statementCodes d.name a.body) }

/-- The type and the name of a parameter. -/
def typedName (part : Except Misfit Document × String) : Except Misfit (String × String) := do
  return (← lineText (← part.1), part.2)

/-- The method of an operation. -/
def operationMethod (table : TypeTable) (o : LinkedOperation) : Except Misfit ClassMethod := do
  let parameters ← (o.parameters.map fun p => (table.parameterType p, p.name)).mapM typedName
  let result ← lineText (← table.resultType o)
  let words ← wordsBefore [.text ((o.visibility.map visibilityWord).getD ""),
    .text (if o.isAbstract then "abstract" else staticWord o.isStatic)]
  return { before := words ++ result ++ " ", name := o.name, parameters := parameters, comment := [operationComment o]
           body := if o.isAbstract then none else some (operationBody o) }

/-- The accessors of a class: those of its properties and those of its members. -/
def accessorMethods (table : TypeTable) (owner : String) (properties : List LinkedProperty)
    (members : List AssociationMember) : Except Misfit (List ClassMethod) := do
  let ofProperties ← properties.mapM (propertyMethods table owner)
  let ofMembers ← members.mapM (memberMethods table)
  return (ofProperties ++ ofMembers).flatten

/-- The methods for the operations of a class. -/
def operationMethods (table : TypeTable) (operations : List LinkedOperation) : Except Misfit (List ClassMethod) :=
  operations.mapM (operationMethod table)

/-! ## Heads -/

/-- A last word that is a text is the last of the words of a line. -/
theorem wordTexts_append {last : String} (position : Nat) (words : List Document) :
    wordTexts position (words ++ [.text last]) = (wordTexts position words).map (· ++ [last]) := by
  induction words generalizing position with
  | nil => rfl
  | cons word rest ih =>
    cases word with
    | text word =>
      rw [List.cons_append, wordTexts, wordTexts, ih]
      cases wordTexts (position + 1) rest <;> rfl
    | _ => rfl

/-- Words that are joined end with the last one, if that is not empty. -/
theorem joinWords_eq_ok {words : List Document} {last text : String} (given : last.isEmpty = false)
    (joined : joinWords (words ++ [.text last]) = .ok text) :
    ∃ before, wordsBefore words = .ok before ∧ text = before ++ last := by
  have kept : (Document.text last).isGiven = true := by simp [Document.isGiven, given]
  rw [joinWords, List.filter_append, List.filter_cons, if_pos kept, List.filter_nil, wordTexts_append] at joined
  rw [wordsBefore]
  cases texts : wordTexts 0 (words.filter (·.isGiven)) with
  | error e =>
    rw [texts] at joined
    cases joined
  | ok texts' =>
    rw [texts] at joined
    obtain rfl : " ".intercalate (texts' ++ [last]) = text := Except.ok.inj joined
    refine ⟨_, rfl, ?_⟩
    cases texts' with
    | nil => rfl
    | cons word rest =>
      rw [String.intercalate_append_of_ne_nil (List.cons_ne_nil _ _) (List.cons_ne_nil _ _), String.intercalate_singleton]
      rfl

/-- The name of an accessor is not empty. -/
theorem isEmpty_method (kind : AccessorKind) (r : String) : (kind.method r).isEmpty = false := by
  cases kind <;> simp [AccessorKind.method, AccessorKind.verb]

/-! ## Code that can be written -/

/-- Whether none of some pieces of code is one that cannot be written. -/
def AreWritable (codes : List Code) : Prop := ∀ e, .unwritable e ∉ codes

/-- Code in a row that can be written can be written in two parts. -/
theorem AreWritable.of_append {codes first second : List Code} (writable : AreWritable codes)
    (split : codes = first ++ second) : AreWritable first ∧ AreWritable second := by
  subst split
  exact ⟨fun e there => writable e (List.mem_append_left _ there),
    fun e there => writable e (List.mem_append_right _ there)⟩

/-- Code for items that can be written can be written for each of them. -/
theorem AreWritable.of_mem {α : Type} {items : List α} {f : α → List Code} (writable : AreWritable (items.flatMap f)) :
    ∀ a ∈ items, AreWritable (f a) :=
  fun a among e there => writable e (List.mem_flatMap.2 ⟨a, among, there⟩)

/-- Code that was written can be. -/
theorem areWritable_of_writeAll {w w' : Page} {codes : List Code} (written : w.writeAll codes = .ok w') :
    AreWritable codes := by
  intro e there
  obtain ⟨v, v', _, given, _⟩ := Page.exists_write_of_mem there written
  rw [Page.write] at given
  cases given

/-- A block that can be written has a header. -/
theorem exists_of_ofBlock {header : Except Misfit String} {body codes : List Code} (writable : AreWritable codes)
    (there : .ofBlock header body ∈ codes) : ∃ text, header = .ok text := by
  cases header with
  | error e => exact absurd there (writable e)
  | ok text => exact ⟨text, rfl⟩

/-- A line that can be written is formed. -/
theorem exists_of_ofLine {line : Except Misfit String} {codes : List Code} (writable : AreWritable codes)
    (there : .ofLine line ∈ codes) : ∃ text, line = .ok text := by
  cases line with
  | error e => exact absurd there (writable e)
  | ok text => exact ⟨text, rfl⟩

/-! ## Methods from the code of a class -/

variable {table : TypeTable}

/-- The accessors of a property that can be written are two methods. -/
theorem propertyAccessors_eq {owner : String} {p : LinkedProperty}
    (writable : AreWritable (propertyAccessors table owner p)) :
    ∃ methods, propertyMethods table owner p = .ok methods ∧
      propertyAccessors table owner p = methods.flatMap (·.code) := by
  obtain ⟨first, getter⟩ := exists_of_ofBlock writable (.tail _ (.head _))
  obtain ⟨second, setter⟩ := exists_of_ofBlock writable (.tail _ (.tail _ (.tail _ (.head _))))
  obtain ⟨type, typed, named⟩ := bind_eq_ok.1 getter
  obtain ⟨words, joined, same⟩ := bind_eq_ok.1 named
  obtain ⟨words', joined', named'⟩ := bind_eq_ok.1 setter
  obtain ⟨type', typed', named'⟩ := bind_eq_ok.1 named'
  obtain ⟨text, shown, same'⟩ := bind_eq_ok.1 named'
  obtain rfl : type = type' := Except.ok.inj (typed.symm.trans typed')
  let modifiers : List Document :=
    [.text (visibilityWord (p.visibility.getD .publicAccess)), .text (staticWord p.isStatic)]
  obtain ⟨before, formed, rfl⟩ : ∃ before, wordsBefore (modifiers ++ [type]) = .ok before ∧
      words = before ++ AccessorKind.get.method p.name := joinWords_eq_ok (isEmpty_method .get p.name) joined
  obtain ⟨before', formed', rfl⟩ : ∃ before, wordsBefore (modifiers ++ [.text voidType]) = .ok before ∧
      words' = before ++ AccessorKind.set.method p.name := joinWords_eq_ok (isEmpty_method .set p.name) joined'
  obtain rfl := Except.ok.inj same
  obtain rfl := Except.ok.inj same'
  refine ⟨_, bind_eq_ok.2 ⟨type, typed, bind_eq_ok.2 ⟨before, formed, bind_eq_ok.2 ⟨before', formed',
    bind_eq_ok.2 ⟨text, shown, rfl⟩⟩⟩⟩, ?_⟩
  -- Both headers are the heads of their methods, and the bodies stand as they are.
  refine (congrArg₂ (fun a b => [.blank, Code.ofBlock a _, .blank, Code.ofBlock b _]) getter setter).trans ?_
  simp [ClassMethod.code, ClassMethod.head, Code.ofBlock, String.append_assoc]

/-- The accessors of a member that can be written are methods. -/
theorem accessorCode_eq {d : AssociationMember} (writable : AreWritable (accessorCode table d)) :
    ∃ methods, memberMethods table d = .ok methods ∧ accessorCode table d = methods.flatMap (·.code) := by
  unfold memberMethods
  unfold accessorCode at writable ⊢
  cases emitted : memberAccessors table d with
  | error e =>
    rw [emitted] at writable
    exact absurd List.mem_cons_self (writable e)
  | ok accessors =>
    refine ⟨_, rfl, ?_⟩
    rw [List.flatMap_map]
    refine congrArg accessors.flatMap (funext fun a => ?_)
    rcases a with ⟨returns, name, _ | ⟨type, operand⟩, body⟩
    · simp [Accessor.code, Accessor.header, ClassMethod.code, ClassMethod.head]
    · simp [Accessor.code, Accessor.header, ClassMethod.code, ClassMethod.head]

/-- Types and names are put together pair by pair. -/
theorem typedNames_eq (parts : List (Except Misfit Document × String)) :
    typedNames parts = (parts.mapM typedName).map fun pairs =>
      ", ".intercalate (pairs.map fun (type, name) => type ++ " " ++ name) := by
  let write (pair : String × String) : String := pair.1 ++ " " ++ pair.2
  have each (part : Except Misfit Document × String) :
      (do return (← lineText (← part.1)) ++ " " ++ part.2) = (typedName part).map write := by
    obtain ⟨_ | type, name⟩ := part
    · rfl
    · change (lineText type >>= fun text => pure (text ++ " " ++ name)) =
        (lineText type >>= fun text => pure (text, name)).map write
      cases lineText type <;> rfl
  have texts : typedNames parts = (parts.mapM fun part => (typedName part).map write).map (", ".intercalate ·) := by
    simp only [← each]
    rfl
  rw [texts, mapM_map]
  cases parts.mapM typedName <;> rfl

/-- The head of an operation is that of a method. -/
theorem operationMethod_of_head {o : LinkedOperation} {word head : String}
    (same : word = if o.isAbstract then "abstract" else staticWord o.isStatic)
    (formed : (do joinWords [.text ((o.visibility.map visibilityWord).getD ""), .text word,
      .text (← operationHead table o)]) = .ok head) :
    ∃ method, operationMethod table o = .ok method ∧ method.head = head ∧ method.comment = [operationComment o] ∧
      method.body = if o.isAbstract then none else some (operationBody o) := by
  subst same
  obtain ⟨text, headed, joined⟩ := bind_eq_ok.1 formed
  obtain ⟨list, listed, headed⟩ := bind_eq_ok.1 headed
  obtain ⟨type, typed, headed⟩ := bind_eq_ok.1 headed
  obtain ⟨result, shown, same⟩ := bind_eq_ok.1 headed
  obtain rfl := Except.ok.inj same
  have apart : joinWords ([_, _] ++ [.text _]) = .ok head := joined
  obtain ⟨words, worded, rfl⟩ := joinWords_eq_ok (by simp) apart
  rw [parameterText, typedNames_eq] at listed
  cases read : (o.parameters.map fun p => (table.parameterType p, p.name)).mapM typedName with
  | error e =>
    rw [read] at listed
    cases listed
  | ok parameters =>
    rw [read] at listed
    obtain rfl := Except.ok.inj listed
    refine ⟨_, bind_eq_ok.2 ⟨parameters, read, bind_eq_ok.2 ⟨type, typed, bind_eq_ok.2 ⟨result, shown,
      bind_eq_ok.2 ⟨words, worded, rfl⟩⟩⟩⟩, ?_, rfl, rfl⟩
    simp only [ClassMethod.head, String.append_assoc]

/-- An operation that can be written is a method. -/
theorem classOperation_eq {o : LinkedOperation} (writable : AreWritable (classOperation table o)) :
    ∃ method, operationMethod table o = .ok method ∧ classOperation table o = method.code := by
  unfold classOperation at writable ⊢
  cases isAbstract : o.isAbstract with
  | true =>
    rw [isAbstract] at writable
    obtain ⟨line, formed⟩ := exists_of_ofLine writable (.tail _ (.tail _ (.head _)))
    obtain ⟨head, header, rfl⟩ := map_eq_ok.1 formed
    obtain ⟨method, made, rfl, comment, body⟩ := operationMethod_of_head (by rw [isAbstract]; rfl) header
    refine ⟨method, made, ?_⟩
    rw [isAbstract] at body
    simp [ClassMethod.code, comment, body, header, Code.ofLine, Except.map]
  | false =>
    rw [isAbstract] at writable
    obtain ⟨head, formed⟩ := exists_of_ofBlock writable (.tail _ (.tail _ (.head _)))
    obtain ⟨method, made, rfl, comment, body⟩ := operationMethod_of_head (by rw [isAbstract]; rfl) formed
    refine ⟨method, made, ?_⟩
    rw [isAbstract] at body
    simp [ClassMethod.code, comment, body, formed, Code.ofBlock]

/-! ## The text of a class -/

/-- The fields of a class. -/
def classFields (table : TypeTable) (properties : List LinkedProperty) (members : List AssociationMember) : List Code :=
  properties.map (propertyField table) ++ [.blank] ++ members.map (memberField table) ++ [.blank]

/-- Code that is read for each of some items is read for all of them. -/
theorem exists_mapM {α β : Type} {items : List α} {read : α → Except Misfit β} {code : α → List Code}
    {codeOf : β → List Code}
    (each : ∀ a ∈ items, ∃ b, read a = .ok b ∧ code a = codeOf b) :
    ∃ results, items.mapM read = .ok results ∧ items.flatMap code = results.flatMap codeOf := by
  induction items with
  | nil => exact ⟨[], rfl, rfl⟩
  | cons a rest ih =>
    rw [List.forall_mem_cons] at each
    obtain ⟨b, first, same⟩ := each.1
    obtain ⟨others, later, same'⟩ := ih each.2
    refine ⟨b :: others, ?_, by rw [List.flatMap_cons, List.flatMap_cons, same, same']⟩
    rw [List.mapM_cons, first, later]
    rfl

/-- The code of a class is that of its fields and its methods. -/
theorem classCode_eq {t : LinkedType} {c : ClassBody Place Link} {members : List AssociationMember}
    (writable : AreWritable (classCode table t c members)) :
    ∃ accessors operations, accessorMethods table t.name c.properties members = .ok accessors ∧
      operationMethods table c.operations = .ok operations ∧
      classCode table t c members =
        classFields table c.properties members ++ (accessors ++ operations).flatMap (·.code) := by
  obtain ⟨front, last⟩ := writable.of_append rfl
  obtain ⟨front, second⟩ := front.of_append rfl
  have first := (front.of_append rfl).2
  obtain ⟨ofProperties, read, same⟩ := exists_mapM fun p there => propertyAccessors_eq (first.of_mem p there)
  obtain ⟨ofMembers, read', same'⟩ := exists_mapM fun d there => accessorCode_eq (second.of_mem d there)
  obtain ⟨operations, read'', same''⟩ := exists_mapM fun o there => classOperation_eq (last.of_mem o there)
  refine ⟨(ofProperties ++ ofMembers).flatten, operations, ?_, read'', ?_⟩
  · rw [accessorMethods, read, read']
    rfl
  · rw [classCode, same, same', same'', classFields]
    simp only [List.flatMap_append, List.append_assoc, List.flatten_eq_flatMap, List.flatMap_assoc, id]

/-- A text is that of a class with some methods: besides empty lines it has its package and its imports, and between the
header of the class and a brace its fields and the methods. -/
def IsClassText (s : Settings) (t : LinkedType) (c : ClassBody Place Link) (members : List AssociationMember)
    (methods : List ClassMethod) (text : String) : Prop :=
  ∃ margin header lines, ∃ imported : List String, s.indent = .unit margin ∧ classHeader t c = .ok header ∧
    text = textOfLines lines ∧
    full lines = packageLines (packageName t.place.home) ++ imported.map ("import " ++ ·) ++ [header ++ " \x7b"] ++
      codeLines margin 1 (classFields s.table c.properties members) ++ codeLines margin 1 (methods.flatMap (·.code)) ++
      ["\x7d"]

/-- Every text that is written for a class is that of a class with its methods. -/
theorem isClassText {s : Settings} {t : LinkedType} {c : ClassBody Place Link} {members : List AssociationMember}
    {text : String} (written : (classUnit s.table t c members).text s.indent = .ok text) :
    ∃ accessors operations, accessorMethods s.table t.name c.properties members = .ok accessors ∧
      operationMethods s.table c.operations = .ok operations ∧
      IsClassText s t c members (accessors ++ operations) text := by
  obtain ⟨margin, header, lines, imported, unit, formed, same, ⟨w, w', body⟩, all⟩ :=
    CompilationUnit.fullLines_of_block (u := classUnit s.table t c members) rfl written
  obtain ⟨accessors, operations, read, read', code⟩ := classCode_eq (areWritable_of_writeAll body)
  refine ⟨accessors, operations, read, read', margin, header, lines, imported, unit, formed, same, ?_⟩
  rw [all, code, codeLines_append]
  simp only [List.append_assoc]
  rfl

/-! ## Methods that are told apart -/

/-- The accessors for one name: methods named by different verbs and the name, and a getter among them. -/
structure IsGroup (name : String) (methods : List ClassMethod) : Prop where
  kinds : ∃ kinds : List AccessorKind, kinds.Nodup ∧ methods.map (·.name) = kinds.map (·.method name)
  getter : (AccessorKind.get.method name, []) ∈ methods.map (·.signature)

/-- The accessors of a property are a group with its name. -/
theorem propertyMethods_isGroup {owner : String} {p : LinkedProperty} {methods : List ClassMethod}
    (read : propertyMethods table owner p = .ok methods) : IsGroup p.name methods := by
  obtain ⟨type, _, read⟩ := bind_eq_ok.1 read
  obtain ⟨getter, _, read⟩ := bind_eq_ok.1 read
  obtain ⟨setter, _, read⟩ := bind_eq_ok.1 read
  obtain ⟨text, _, same⟩ := bind_eq_ok.1 read
  obtain rfl := Except.ok.inj same
  exact ⟨⟨[.get, .set], by decide, rfl⟩, .head _⟩

/-- The accessors of a member are a group with its name. -/
theorem memberMethods_isGroup {d : AssociationMember} {methods : List ClassMethod}
    (read : memberMethods table d = .ok methods) : IsGroup d.name methods := by
  obtain ⟨accessors, emitted, same⟩ := bind_eq_ok.1 read
  obtain rfl := Except.ok.inj same
  obtain ⟨type, element, rfl⟩ := memberAccessors_cases emitted
  split
  · exact ⟨⟨[.get, .sizeOf, .addTo, .removeFrom], by decide, rfl⟩, .head _⟩
  · exact ⟨⟨[.get, .set], by decide, rfl⟩, .head _⟩

section

variable {name name' : String} {methods methods' : List ClassMethod}

/-- The methods of a group are told apart. -/
theorem IsGroup.nodup (group : IsGroup name methods) : (methods.map (·.signature)).Nodup := by
  obtain ⟨kinds, distinct, named⟩ := group.kinds
  have names : (methods.map (·.name)).Nodup := by
    rw [named]
    exact distinct.map fun _ _ same => (AccessorKind.method_inj same).1
  refine .of_map Prod.fst ?_
  rwa [List.map_map]

/-- The methods of a group are accessors for its name. -/
theorem IsGroup.named (group : IsGroup name methods) {m : ClassMethod} (there : m ∈ methods) :
    ∃ kind : AccessorKind, m.name = kind.method name := by
  obtain ⟨kinds, -, named⟩ := group.kinds
  have among : m.name ∈ kinds.map (·.method name) := named ▸ List.mem_map_of_mem there
  obtain ⟨kind, -, same⟩ := List.mem_map.1 among
  exact ⟨kind, same.symm⟩

/-- Accessors for two names are told apart exactly if the names differ when they begin with a capital. -/
theorem IsGroup.apart_iff (group : IsGroup name methods) (group' : IsGroup name' methods') :
    (∀ a ∈ methods.map (·.signature), ∀ b ∈ methods'.map (·.signature), a ≠ b) ↔ capitalized name ≠ capitalized name' := by
  constructor
  · intro apart same
    -- Setters may still differ in their types, but no getter has parameters.
    refine apart _ group.getter _ group'.getter ?_
    rw [AccessorKind.method, AccessorKind.method, same]
  · rintro differ a there b there' rfl
    obtain ⟨m, among, rfl⟩ := List.mem_map.1 there
    obtain ⟨m', among', same⟩ := List.mem_map.1 there'
    obtain ⟨kind, named⟩ := group.named among
    obtain ⟨kind', named'⟩ := group'.named among'
    have names : m'.name = m.name := congrArg Prod.fst same
    exact differ (AccessorKind.method_inj (named.symm.trans (names.symm.trans named'))).2

/-- A group is told apart from others exactly if none of them has its name, but for the case of the first letter. -/
theorem IsGroup.apart_all_iff (group : IsGroup name methods) {names : List String} {groups : List (List ClassMethod)}
    (each : List.Forall₂ IsGroup names groups) :
    (∀ a ∈ methods.map (·.signature), ∀ b ∈ groups.flatten.map (·.signature), a ≠ b) ↔
      capitalized name ∉ names.map capitalized := by
  induction each with
  | nil => simp
  | @cons name' methods' names groups first _ ih =>
    rw [List.flatten_cons, List.map_append, List.map_cons, List.mem_cons, not_or, ← ih, ← ne_eq, ← group.apart_iff first]
    simp only [List.mem_append, or_imp, forall_and]

end

/-- The methods of groups are told apart exactly if their names are distinct, but for the case of the first letter. -/
theorem nodup_groups_iff {names : List String} {groups : List (List ClassMethod)}
    (each : List.Forall₂ IsGroup names groups) :
    (groups.flatten.map (·.signature)).Nodup ↔ (names.map capitalized).Nodup := by
  induction each with
  | nil => simp
  | cons first rest ih =>
    rw [List.flatten_cons, List.map_append, List.nodup_append, and_iff_right first.nodup, first.apart_all_iff rest, ih,
      List.map_cons, List.nodup_cons, and_comm]

/-- The accessors of a class are told apart exactly if the names of its properties and members are, when they begin with
capitals. -/
theorem nodup_accessors_iff {owner : String} {properties : List LinkedProperty} {members : List AssociationMember}
    {accessors : List ClassMethod} (read : accessorMethods table owner properties members = .ok accessors) :
    (accessors.map (·.signature)).Nodup ↔
      ((properties.map (·.name) ++ members.map (·.name)).map capitalized).Nodup := by
  obtain ⟨ofProperties, first, read⟩ := bind_eq_ok.1 read
  obtain ⟨ofMembers, second, same⟩ := bind_eq_ok.1 read
  obtain rfl := Except.ok.inj same
  have first := (mapM_eq_ok fun p _ methods => Iff.rfl).1 first
  have second := (mapM_eq_ok fun d _ methods => Iff.rfl).1 second
  have groups : List.Forall₂ IsGroup (properties.map (·.name)) ofProperties :=
    List.forall₂_map_left_iff.2 (first.imp fun _ _ => propertyMethods_isGroup)
  have groups' : List.Forall₂ IsGroup (members.map (·.name)) ofMembers :=
    List.forall₂_map_left_iff.2 (second.imp fun _ _ => memberMethods_isGroup)
  exact nodup_groups_iff (List.rel_append groups groups')

/-- Operations of different names are told apart. -/
theorem nodup_operations {operations : List LinkedOperation} {methods : List ClassMethod}
    (names : (operations.map (·.name)).Nodup) (read : operationMethods table operations = .ok methods) :
    (methods.map (·.signature)).Nodup := by
  have named : List.Forall₂ (fun o method => o.name = method.name) operations methods := by
    refine ((mapM_eq_ok fun o _ method => Iff.rfl).1 read).imp fun o method made => ?_
    obtain ⟨parameters, _, made⟩ := bind_eq_ok.1 made
    obtain ⟨type, _, made⟩ := bind_eq_ok.1 made
    obtain ⟨result, _, made⟩ := bind_eq_ok.1 made
    obtain ⟨words, _, same⟩ := bind_eq_ok.1 made
    obtain rfl := Except.ok.inj same
    rfl
  have same : operations.map (·.name) = methods.map (·.name) := by
    rw [← List.forall₂_eq_eq_eq, List.forall₂_map_left_iff, List.forall₂_map_right_iff]
    exact named
  refine .of_map Prod.fst ?_
  rw [List.map_map]
  exact same ▸ names

/-- In a model without errors, the methods in the text of a class are told apart by their names and the types of their
parameters exactly if the names of its properties and members differ when they begin with capitals, and no operation
is like an accessor. -/
theorem declares_once_iff {m : Linked} (valid : m.IsValid) {t : LinkedType} (isClass : t ∈ m.classes) (s : Settings) :
    ∃ c, t.body = .classBody c ∧ ∃ u, s.unit? m t = some u ∧ ∀ text, u.text s.indent = .ok text →
      ∃ accessors operations, accessorMethods s.table t.name c.properties (m.associationMembers t) = .ok accessors ∧
        operationMethods s.table c.operations = .ok operations ∧
        IsClassText s t c (m.associationMembers t) (accessors ++ operations) text ∧
        (((accessors ++ operations).map (·.signature)).Nodup ↔
          ((c.properties.map (·.name) ++ (m.associationMembers t).map (·.name)).map capitalized).Nodup ∧
            ∀ o ∈ operations, ∀ a ∈ accessors, o.signature ≠ a.signature) := by
  have wellFormed := (no_errors_iff_well_formed m true).1.1 valid
  obtain ⟨known, kind⟩ := Model.mem_ofKind.1 isClass
  obtain ⟨c, body⟩ : ∃ c, t.body = .classBody c := by
    rw [Classifier.kind] at kind
    cases body : t.body with
    | classBody c => exact ⟨c, rfl⟩
    | _ =>
      rw [body] at kind
      cases kind
  have covered : s.covers t = true := by simp [Settings.covers, kind]
  refine ⟨c, body, classUnit s.table t c (m.associationMembers t), ?_, fun text written => ?_⟩
  · rw [Settings.unit?, if_pos covered, body]
  · obtain ⟨accessors, operations, read, read', isText⟩ := isClassText written
    -- Of the three sources of methods the check of a model covers one: operations have names of their own.
    have names : (c.operations.map (·.name)).Nodup := by
      have distinct := wellFormed.operationNames t known
      rwa [Classifier.operations, body] at distinct
    refine ⟨accessors, operations, read, read', isText, ?_⟩
    rw [List.map_append, List.nodup_append, and_iff_right (nodup_operations names read'), nodup_accessors_iff read]
    refine and_congr_right fun _ => ?_
    simp only [List.forall_mem_map]
    exact ⟨fun apart o there a there' same => apart a there' o there same.symm,
      fun apart a there o there' same => apart o there' a there same.symm⟩

open Objects World

/-- The methods of a player are told apart. -/
theorem declares_once_for_player :
    club.link.IsValid ∧ clubPlayer ∈ club.link.classes ∧
      ∃ u text methods, (Settings.mk .standard ⟨[], []⟩ false).unit? club.link clubPlayer = some u ∧
        u.text .standard = .ok text ∧ (methods.map (·.signature)).Nodup ∧
        ∃ c, IsClassText ⟨.standard, ⟨[], []⟩, false⟩ clubPlayer c (club.link.associationMembers clubPlayer) methods text := by
  have player : clubPlayer ∈ club.link.classes := List.get_mem ..
  obtain ⟨c, body, u, found, each⟩ := declares_once_iff club_isValid player ⟨.standard, ⟨[], []⟩, false⟩
  have written : ((Settings.mk .standard ⟨[], []⟩ false).unit? club.link clubPlayer).bind
      (fun u => (u.text .standard).toOption) ≠ none := by decide +kernel
  rw [found, Option.bind_some] at written
  obtain ⟨text, written⟩ : ∃ text, u.text .standard = .ok text := by
    cases given : u.text .standard with
    | error e =>
      rw [given] at written
      exact absurd rfl written
    | ok text => exact ⟨text, rfl⟩
  obtain ⟨accessors, operations, _, read, isText, apart⟩ := each text written
  obtain rfl : (⟨false, [], [], [], []⟩ : ClassBody Place Link) = c := by
    have plain : clubPlayer.body = .classBody ⟨false, [], [], [], []⟩ := rfl
    exact Body.classBody.inj (plain.symm.trans body)
  obtain rfl : [] = operations := Except.ok.inj read
  have names : ((club.link.associationMembers clubPlayer).map (·.name)).map capitalized = ["Team"] := by decide +kernel
  refine ⟨club_isValid, player, u, text, _, found, written, apart.2 ⟨?_, nofun⟩, _, isText⟩
  rw [List.map_nil, List.nil_append, names]
  decide

/-- A flat has a property and a member of an association that differ in a capital only. -/
def homes : Declared :=
  ⟨[⟨(), "homes", [],
    [⟨(), "Person", .classBody ⟨false, [], [], [], []⟩⟩,
      ⟨(), "Flat", .classBody ⟨false, [⟨(), "owner", some "Person", .number 1, .number 1, none, false, .plain⟩], [], [], []⟩⟩,
      ⟨(), "ownership", .association
        [⟨(), "flats", some "Flat", .number 0, .unbounded, none, false, .plain⟩,
          ⟨(), "Owner", some "Person", .number 1, .number 1, none, false, .plain⟩]⟩]⟩]⟩

/-- A flat with a property and an end that differ in the case of a letter declares one getter twice. -/
theorem homes_declare_twice :
    homes.link.IsValid ∧ ∃ flat ∈ homes.link.classes, ∃ u lines,
      (Settings.mk .standard .default false).unit? homes.link flat = some u ∧
        u.text .standard = .ok (textOfLines lines) ∧ lines.count "    public Person getOwner() \x7b" = 2 := by
  let flat : LinkedType := homes.link.classes.get ⟨1, by decide +kernel⟩
  have among : flat ∈ homes.link.classes := List.get_mem ..
  have counted : ((Settings.mk .standard .default false).unit? homes.link flat).bind (fun u =>
      (u.page .standard).toOption.map (·.lines.inOrder.count "    public Person getOwner() \x7b")) = some 2 := by
    decide +kernel
  obtain ⟨u, found, counted⟩ := Option.bind_eq_some_iff.1 counted
  refine ⟨by decide +kernel, flat, among, u, ?_⟩
  cases finished : u.page .standard with
  | error e =>
    rw [finished] at counted
    cases counted
  | ok page =>
    rw [finished] at counted
    refine ⟨page.lines.inOrder, found, ?_, Option.some.inj counted⟩
    rw [CompilationUnit.text, finished]
    rfl

end ClassDiagram.Java
