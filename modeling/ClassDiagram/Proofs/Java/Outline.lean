import ClassDiagram.Proofs.Java.Entries
import ClassDiagram.Proofs.Java.Methods
import ClassDiagram.Proofs.Java.UnbrokenNames

/-!
# The outline of a class

The text of a class, read back by its braces, is one block under the header of the class, after its package and its
imports.  In the block stand the fields of the properties and of the members, the accessors of both and the operations,
each group in the order of the model, and nothing else (`class_reads_as_declared`).  The bodies of methods are read as
blocks of their own, for no line of theirs looks like the beginning or the end of a block (`exists_parts`).
-/

set_option autoImplicit false

namespace ClassDiagram.Java

variable {table : TypeTable}

/-! ## Fields -/

/-- Whether a line is the private field of a property; a list begins as a new one. -/
def IsPropertyField (table : TypeTable) (p : LinkedProperty) (line : String) : Prop :=
  ∃ type words, table.propertyType p = .ok type ∧
    joinWords [.text "private", .text (if p.isStatic then "static" else ""), type, .text p.name] = .ok words ∧
    line = words ++ (if p.isList then " = new ArrayList<>()" else "") ++ ";"

/-- Whether a line is the private field of a member; a list begins as a new one. -/
def IsMemberField (table : TypeTable) (d : AssociationMember) (line : String) : Prop :=
  ∃ type, typeOfMember table d = .ok type ∧
    line = "private " ++ type ++ " " ++ d.name ++ (if d.isList then " = new ArrayList<>()" else "") ++ ";"

/-- The field of a property that can be written is a line. -/
theorem exists_propertyField {p : LinkedProperty} (writable : AreWritable [propertyField table p]) :
    ∃ line, propertyField table p = .line line ∧ IsPropertyField table p line := by
  obtain ⟨line, formed⟩ := exists_of_ofLine writable (.head _)
  refine ⟨line, congrArg Code.ofLine formed, ?_⟩
  obtain ⟨type, typed, formed⟩ := bind_eq_ok.1 formed
  obtain ⟨words, joined, same⟩ := bind_eq_ok.1 formed
  exact ⟨type, words, typed, joined, (Except.ok.inj same).symm⟩

/-- The field of a member that can be written is a line. -/
theorem exists_memberField {d : AssociationMember} (writable : AreWritable [memberField table d]) :
    ∃ line, memberField table d = .line line ∧ IsMemberField table d line := by
  obtain ⟨line, formed⟩ := exists_of_ofLine writable (.head _)
  refine ⟨line, congrArg Code.ofLine formed, ?_⟩
  obtain ⟨type, typed, same⟩ := bind_eq_ok.1 formed
  exact ⟨type, typed, (Except.ok.inj same).symm⟩

/-- Fields that can be written are lines, in order. -/
theorem exists_fields {α : Type} {items : List α} {field : α → Code} {R : α → String → Prop}
    (writable : AreWritable (items.map field))
    (each : ∀ a, AreWritable [field a] → ∃ line, field a = .line line ∧ R a line) :
    ∃ lines, items.map field = lines.map .line ∧ List.Forall₂ R items lines := by
  induction items with
  | nil => exact ⟨[], rfl, .nil⟩
  | cons a rest ih =>
    obtain ⟨first, later⟩ : AreWritable [field a] ∧ AreWritable (rest.map field) := writable.of_append rfl
    obtain ⟨line, same, related⟩ := each a first
    obtain ⟨lines, same', others⟩ := ih later
    exact ⟨line :: lines, by rw [List.map_cons, List.map_cons, same, same'], .cons related others⟩

/-- Whether a line is a statement: it ends with a semicolon. -/
def IsStatementLine (line : String) : Prop := ∃ front, line = front ++ ";"

/-- A statement is no part of a block. -/
theorem IsStatementLine.isReadable {line : String} (isStatement : IsStatementLine line) : IsReadable line := by
  obtain ⟨front, rfl⟩ := isStatement
  exact isReadable_statement front rfl

/-- Statements are no empty lines. -/
theorem full_statements {lines : List String} (each : ∀ l ∈ lines, IsStatementLine l) : full lines = lines := by
  refine full_eq_self fun l there => ?_
  obtain ⟨front, rfl⟩ := each l there
  simp

/-- Statements are read as lines. -/
theorem lineEntries_of_statements {lines : List String} (each : ∀ l ∈ lines, IsStatementLine l) :
    lineEntries lines = lines.map .line :=
  congrArg (List.map Entry.line) (full_statements each)

/-- The field of a property is a statement. -/
theorem IsPropertyField.isStatementLine {p : LinkedProperty} {line : String} (isField : IsPropertyField table p line) :
    IsStatementLine line := by
  obtain ⟨_, _, _, _, rfl⟩ := isField
  exact ⟨_, rfl⟩

/-- The field of a member is a statement. -/
theorem IsMemberField.isStatementLine {d : AssociationMember} {line : String} (isField : IsMemberField table d line) :
    IsStatementLine line := by
  obtain ⟨_, _, rfl⟩ := isField
  exact ⟨_, rfl⟩

/-- What is related to items one by one has what the relation says of it. -/
theorem forall_of_forall₂ {α β : Type} {items : List α} {results : List β} {P : β → Prop}
    (related : List.Forall₂ (fun _ b => P b) items results) : ∀ b ∈ results, P b := by
  induction related with
  | nil => nofun
  | cons first _ ih => exact List.forall_mem_cons.2 ⟨first, ih⟩

/-- The line of a package is a statement. -/
theorem isStatementLine_package {name : String} : ∀ l ∈ packageLines name, IsStatementLine l := by
  unfold packageLines
  split
  · nofun
  · exact List.forall_mem_singleton.2 ⟨"package " ++ name, rfl⟩

/-- Results that are related to items by equal values have these values in order. -/
theorem map_of_forall₂ {α β γ : Type} {items : List α} {results : List β} {f : β → γ} {g : α → γ}
    (related : List.Forall₂ (fun a b => f b = g a) items results) : results.map f = items.map g := by
  induction related with
  | nil => rfl
  | cons first _ ih => rw [List.map_cons, List.map_cons, first, ih]

/-- Lines are read as lines. -/
theorem codeEntries_lines (lines : List String) : codeEntries (lines.map .line) = lineEntries lines := by
  induction lines with
  | nil => rfl
  | cons l rest ih =>
    rw [List.map_cons, codeEntries, ih, Code.entries, lineEntries, lineEntries, lineEntries, ← List.map_append,
      ← full_append]
    rfl

/-- Statements can be read. -/
theorem areReadable_lines {lines : List String} (each : ∀ l ∈ lines, IsStatementLine l) :
    AreReadable (lines.map .line) := by
  refine areReadable_iff.2 fun code there => ?_
  obtain ⟨l, among, rfl⟩ := List.mem_map.1 there
  exact (each l among).isReadable

/-! ## Methods -/

/-- What a method is read as: the lines of its comment, and a block unless it is abstract. -/
def ClassMethod.entries (m : ClassMethod) : List Entry :=
  codeEntries m.comment ++
    [match m.body with
      | some body => .block m.head (codeEntries body)
      | none => .line (m.head ++ ";")]

/-- A method is read as its comment and its block. -/
theorem ClassMethod.codeEntries_code (m : ClassMethod) : codeEntries m.code = m.entries := by
  rw [ClassMethod.code, codeEntries_append, ClassMethod.entries, codeEntries]
  refine congrArg (codeEntries m.comment ++ ·) ?_
  cases m.body with
  | some body => rfl
  | none => exact (List.append_nil _).trans (lineEntries_of_statements (List.forall_mem_singleton.2 ⟨m.head, rfl⟩))

/-- A method can be read if its comment and its body can. -/
theorem ClassMethod.areReadable {m : ClassMethod} (comment : AreReadable m.comment)
    (body : ∀ b, m.body = some b → AreReadable b) : AreReadable m.code := by
  rw [ClassMethod.code, areReadable_append]
  refine ⟨⟨trivial, comment⟩, ?_, trivial⟩
  cases given : m.body with
  | some b => exact body b given
  | none => exact isReadable_statement m.head rfl

/-- Methods are read one after another. -/
theorem codeEntries_methods (methods : List ClassMethod) :
    codeEntries (methods.flatMap (·.code)) = methods.flatMap ClassMethod.entries := by
  rw [codeEntries_eq, List.flatMap_assoc]
  refine List.flatMap_congr fun m _ => ?_
  rw [← codeEntries_eq, m.codeEntries_code]

/-- Methods can be read if each of them can. -/
theorem areReadable_methods {methods : List ClassMethod} (each : ∀ m ∈ methods, AreReadable m.code) :
    AreReadable (methods.flatMap (·.code)) := by
  refine areReadable_iff.2 fun code there => ?_
  obtain ⟨m, among, there⟩ := List.mem_flatMap.1 there
  exact areReadable_iff.1 (each m among) code there

/-- Whether methods are the accessors with some names, in order, each with a body. -/
structure AreAccessors (names : List String) (methods : List ClassMethod) : Prop where
  named : methods.map (·.name) = names
  uncommented : ∀ m ∈ methods, m.comment = []
  bodies : ∀ m ∈ methods, m.body.isSome

/-- Whether methods are those of a property: a getter and a setter. -/
structure ArePropertyMethods (table : TypeTable) (owner : String) (p : LinkedProperty) (methods : List ClassMethod) :
    Prop where
  given : propertyMethods table owner p = .ok methods
  accessors : AreAccessors ([.get, .set].map (AccessorKind.method · p.name)) methods

/-- Whether methods are those of a member, as it has one value or many. -/
structure AreMemberMethods (table : TypeTable) (d : AssociationMember) (methods : List ClassMethod) : Prop where
  given : memberMethods table d = .ok methods
  accessors : AreAccessors (accessorNames d) methods

/-- Whether a method is that of an operation, with its comment, and a body unless it is abstract. -/
structure IsOperationMethod (table : TypeTable) (o : LinkedOperation) (method : ClassMethod) : Prop where
  given : operationMethod table o = .ok method
  name : method.name = o.name
  comment : method.comment = [operationComment o]
  body : method.body.isSome = !o.isAbstract

/-- The methods of a property are its accessors, and can be read. -/
theorem propertyMethods_eq_ok {owner : String} {p : LinkedProperty} {methods : List ClassMethod}
    (given : propertyMethods table owner p = .ok methods) :
    ArePropertyMethods table owner p methods ∧ ∀ m ∈ methods, AreReadable m.code := by
  have all := given
  obtain ⟨type, _, given⟩ := bind_eq_ok.1 given
  obtain ⟨getter, _, given⟩ := bind_eq_ok.1 given
  obtain ⟨setter, _, given⟩ := bind_eq_ok.1 given
  obtain ⟨text, _, same⟩ := bind_eq_ok.1 given
  obtain rfl := Except.ok.inj same
  refine ⟨⟨all, rfl, by simp, by simp⟩, List.forall_mem_cons.2 ⟨?_, List.forall_mem_singleton.2 ?_⟩⟩
  · exact ClassMethod.areReadable trivial fun b same => Option.some.inj same ▸ ⟨isReadable_statement _ rfl, trivial⟩
  · exact ClassMethod.areReadable trivial fun b same => Option.some.inj same ▸ ⟨isReadable_statement _ rfl, trivial⟩

/-- The methods of a member are its accessors, and can be read. -/
theorem memberMethods_eq_ok {d : AssociationMember} {methods : List ClassMethod}
    (given : memberMethods table d = .ok methods) :
    AreMemberMethods table d methods ∧ ∀ m ∈ methods, AreReadable m.code := by
  have all := given
  obtain ⟨accessors, emitted, same⟩ := bind_eq_ok.1 given
  obtain rfl := Except.ok.inj same
  refine ⟨⟨all, ?_, ?_, ?_⟩, fun m there => ?_⟩
  · rw [List.map_map]
    exact map_name_of_emitted emitted
  · intro m there
    obtain ⟨a, -, rfl⟩ := List.mem_map.1 there
    rfl
  · intro m there
    obtain ⟨a, -, rfl⟩ := List.mem_map.1 there
    rfl
  · obtain ⟨a, -, rfl⟩ := List.mem_map.1 there
    exact ClassMethod.areReadable trivial fun b same => Option.some.inj same ▸ areReadable_statementCodes d.name a.body

/-- The body of an operation can be read if its content has no braces. -/
theorem areReadable_operationBody {o : LinkedOperation} (braceless : IsBraceless o.content) :
    AreReadable (operationBody o) := by
  unfold operationBody
  split
  · exact ⟨isReadable_fragment braceless, trivial⟩
  · exact ⟨⟨by decide, by decide⟩, trivial⟩

/-- The comment of an operation can be read if its description has no braces. -/
theorem isReadable_operationComment {o : LinkedOperation} (braceless : IsBraceless o.description) :
    (operationComment o).IsReadable := by
  refine isReadable_comment braceless (List.forall_mem_singleton.2 ?_)
  split <;> simp [IsNoBrace]

/-- The method of an operation has its name, and can be read if its description and its content have no braces. -/
theorem operationMethod_eq_ok {o : LinkedOperation} {method : ClassMethod}
    (given : operationMethod table o = .ok method) : IsOperationMethod table o method ∧
      (IsBraceless o.description → IsBraceless o.content → AreReadable method.code) := by
  have all := given
  obtain ⟨parameters, _, given⟩ := bind_eq_ok.1 given
  obtain ⟨type, _, given⟩ := bind_eq_ok.1 given
  obtain ⟨result, _, given⟩ := bind_eq_ok.1 given
  obtain ⟨words, _, same⟩ := bind_eq_ok.1 given
  obtain rfl := Except.ok.inj same
  refine ⟨⟨all, rfl, rfl, ?_⟩, fun described written => ?_⟩
  · cases o.isAbstract <;> rfl
  · refine ClassMethod.areReadable ⟨isReadable_operationComment described, trivial⟩ fun b same => ?_
    obtain ⟨-, same⟩ := Option.ite_none_left_eq_some.1 same
    exact Option.some.inj same ▸ areReadable_operationBody written

/-! ## Classes -/

/-- The parts of the text of a class: its imports, the header of its block, the lines of its fields and the methods, in
groups. -/
structure ClassParts where
  imports : List String
  header : String
  fields : List String
  memberFields : List String
  accessors : List (List ClassMethod)
  memberAccessors : List (List ClassMethod)
  operations : List ClassMethod

namespace ClassParts

/-- The methods of a class: accessors of properties, accessors of members and operations. -/
def methods (parts : ClassParts) : List ClassMethod :=
  parts.accessors.flatten ++ parts.memberAccessors.flatten ++ parts.operations

/-- What the text of a class in a package is read as. -/
def entries (package : String) (parts : ClassParts) : List Entry :=
  (packageLines package).map .line ++ parts.imports.map (fun name => .line (importLine name)) ++
    [.block parts.header ((parts.fields ++ parts.memberFields).map .line ++ parts.methods.flatMap ClassMethod.entries)]

/-- Whether the parts are those of a class: its imports, each once and in order, a field and a pair of accessors for each
property, a field and accessors for each member, and a declaration for each operation, in the order of the model. -/
structure AreOf (s : Settings) (t : LinkedType) (c : ClassBody Place Link) (members : List AssociationMember)
    (parts : ClassParts) : Prop where
  imports : ∃ names sorted, (classUnit s.table t c members).imports = .ok names ∧ sortedNames names = .ok sorted ∧
    sorted.mapM lineText = .ok parts.imports
  header : classHeader t c = .ok parts.header
  fields : List.Forall₂ (IsPropertyField s.table) c.properties parts.fields
  memberFields : List.Forall₂ (IsMemberField s.table) members parts.memberFields
  accessors : List.Forall₂ (ArePropertyMethods s.table t.name) c.properties parts.accessors
  memberAccessors : List.Forall₂ (AreMemberMethods s.table) members parts.memberAccessors
  operations : List.Forall₂ (IsOperationMethod s.table) c.operations parts.operations

variable {s : Settings} {t : LinkedType} {c : ClassBody Place Link} {members : List AssociationMember}
  {parts : ClassParts}

/-- Methods in groups are named group by group. -/
theorem names_of_groups {α : Type} {items : List α} {groups : List (List ClassMethod)} {names : α → List String}
    (related : List.Forall₂ (fun a group => group.map (·.name) = names a) items groups) :
    groups.flatten.map (·.name) = items.flatMap names := by
  rw [List.map_flatten, map_of_forall₂ related, List.flatMap_def]

/-- The methods of a class are named, in the order of the model, by the accessors of its properties, the accessors of its
members and its operations. -/
theorem AreOf.names (own : parts.AreOf s t c members) : parts.methods.map (·.name) =
    c.properties.flatMap (fun p => [.get, .set].map (AccessorKind.method · p.name)) ++
      members.flatMap accessorNames ++ c.operations.map (·.name) := by
  rw [methods, List.map_append, List.map_append,
    names_of_groups (own.accessors.imp fun _ _ given => given.accessors.named),
    names_of_groups (own.memberAccessors.imp fun _ _ given => given.accessors.named),
    map_of_forall₂ (own.operations.imp fun _ _ given => given.name)]

end ClassParts

variable {s : Settings} {t : LinkedType} {c : ClassBody Place Link} {members : List AssociationMember}

/-- The fields of a class are lines, one for each property and then one for each member. -/
theorem exists_classFields {properties : List LinkedProperty}
    (writable : AreWritable (classFields table properties members)) :
    ∃ fields memberFields, List.Forall₂ (IsPropertyField table) properties fields ∧
      List.Forall₂ (IsMemberField table) members memberFields ∧
      AreReadable (classFields table properties members) ∧
      codeEntries (classFields table properties members) = (fields ++ memberFields).map .line := by
  obtain ⟨front, -⟩ := writable.of_append rfl
  obtain ⟨front, last⟩ := front.of_append rfl
  obtain ⟨fields, lines, areFields⟩ := exists_fields (front.of_append rfl).1 fun _ => exists_propertyField
  obtain ⟨memberFields, lines', areFields'⟩ := exists_fields last fun _ => exists_memberField
  have statements : ∀ l ∈ fields, IsStatementLine l := forall_of_forall₂ (areFields.imp fun _ _ => (·.isStatementLine))
  have statements' : ∀ l ∈ memberFields, IsStatementLine l :=
    forall_of_forall₂ (areFields'.imp fun _ _ => (·.isStatementLine))
  have shape : classFields table properties members =
      fields.map .line ++ [.blank] ++ memberFields.map .line ++ [.blank] := by rw [classFields, lines, lines']
  refine ⟨fields, memberFields, areFields, areFields', ?_, ?_⟩
  · simp only [shape, areReadable_append]
    exact ⟨⟨⟨areReadable_lines statements, trivial, trivial⟩, areReadable_lines statements'⟩, trivial, trivial⟩
  · have none : codeEntries [.blank] = [] := rfl
    simp only [shape, codeEntries_append, none, codeEntries_lines, lineEntries_of_statements statements,
      lineEntries_of_statements statements', List.append_nil, List.map_append]

/-- What is read for each item is related to it, and has what every such thing has. -/
theorem forall₂_of_mapM {α β : Type} {items : List α} {read : α → Except Misfit β} {R : α → β → Prop} {P : β → Prop}
    {results : List β} (each : ∀ a ∈ items, ∀ b, read a = .ok b → R a b ∧ P b) (given : items.mapM read = .ok results) :
    List.Forall₂ R items results ∧ ∀ b ∈ results, P b := by
  have related := (mapM_eq_ok fun a _ b => Iff.rfl).1 given
  have among := (List.forall₂_and_left items results).2 ⟨fun a here => here, related⟩
  have both := among.imp fun a b ⟨here, same⟩ => each a here b same
  exact ⟨both.imp fun _ _ => And.left, forall_of_forall₂ (both.imp fun _ _ => And.right)⟩

/-- The code of a class consists of its fields and its methods, and no line of it looks like part of a block unless it is
one. -/
theorem exists_parts (writable : AreWritable (classCode s.table t c members))
    (braceless : ∀ o ∈ c.operations, IsBraceless o.description ∧ IsBraceless o.content) :
    ∃ fields memberFields accessors memberAccessors operations,
      List.Forall₂ (IsPropertyField s.table) c.properties fields ∧
      List.Forall₂ (IsMemberField s.table) members memberFields ∧
      List.Forall₂ (ArePropertyMethods s.table t.name) c.properties accessors ∧
      List.Forall₂ (AreMemberMethods s.table) members memberAccessors ∧
      List.Forall₂ (IsOperationMethod s.table) c.operations operations ∧
      AreReadable (classCode s.table t c members) ∧
      codeEntries (classCode s.table t c members) = (fields ++ memberFields).map .line ++
        (accessors.flatten ++ memberAccessors.flatten ++ operations).flatMap ClassMethod.entries := by
  obtain ⟨methods, operations, read, read', same⟩ := classCode_eq writable
  obtain ⟨accessors, ofProperties, read⟩ := bind_eq_ok.1 read
  obtain ⟨memberAccessors, ofMembers, flat⟩ := bind_eq_ok.1 read
  obtain rfl := Except.ok.inj flat
  rw [same] at writable ⊢
  obtain ⟨fields, memberFields, areFields, areFields', front, frontEntries⟩ :=
    exists_classFields (writable.of_append rfl).1
  obtain ⟨areAccessors, first⟩ := forall₂_of_mapM (fun _ _ _ => propertyMethods_eq_ok) ofProperties
  obtain ⟨areAccessors', second⟩ := forall₂_of_mapM (fun _ _ _ => memberMethods_eq_ok) ofMembers
  -- Only operations have lines that were written by hand, so nothing else has to be without braces.
  obtain ⟨areOperations, third⟩ := forall₂_of_mapM (P := fun method => AreReadable method.code)
    (fun o there method given => (operationMethod_eq_ok given).imp_right fun readable =>
      readable (braceless o there).1 (braceless o there).2) read'
  refine ⟨fields, memberFields, accessors, memberAccessors, operations, areFields, areFields', areAccessors,
    areAccessors', areOperations, areReadable_append.2 ⟨front, areReadable_methods fun m among => ?_⟩, ?_⟩
  · rw [List.flatten_append, List.mem_append, List.mem_append, List.mem_flatten, List.mem_flatten] at among
    rcases among with (⟨methods, own, among⟩ | ⟨methods, own, among⟩) | among
    · exact first methods own m among
    · exact second methods own m among
    · exact third m among
  · rw [codeEntries_append, frontEntries, codeEntries_methods, List.flatten_append]

/-- The last line of a block outside all others is its brace. -/
theorem last_of_block {w w' : Page} {header : String} {body : List Code} (outside : w.openBlocks = [])
    (written : w.write (.block header body) = .ok w') : w'.lines.inOrder.getLast? = some "\x7d" := by
  obtain ⟨l, v, -, inside, closed⟩ := Page.write_block written
  have opened : v.openBlocks = header :: w.openBlocks := (Page.continues_writeAll body inside).openBlocks
  rw [Page.closeBlock, opened, outside] at closed
  obtain ⟨brace, formed, rfl⟩ := Page.line_eq_ok.1 closed
  obtain ⟨⟨margin, -, rfl⟩, -⟩ := indentedLine_eq_ok (by decide) formed
  rw [WrittenLines.inOrder_cons, List.getLast?_concat]
  rfl

/-- The code of a class is one block under its header, and the brace of it is the last line. -/
theorem exists_block {page : Page} (written : (classUnit s.table t c members).write s.indent = .ok page) :
    ∃ header, classHeader t c = .ok header ∧
      (classUnit s.table t c members).code = [.block header (classCode s.table t c members)] ∧
      AreWritable (classCode s.table t c members) ∧ page.lines.inOrder.getLast? = some "\x7d" := by
  obtain ⟨w, -, outside, block⟩ := CompilationUnit.exists_writeAll written
  obtain ⟨header, formed⟩ := exists_of_ofBlock (areWritable_of_writeAll block) (.head _)
  have code : (classUnit s.table t c members).code = [.block header (classCode s.table t c members)] := by
    rw [classUnit, formed]
    rfl
  rw [code, Page.writeAll] at block
  obtain ⟨v, only, none⟩ := bind_eq_ok.1 block
  obtain rfl : v = page := Except.ok.inj none
  obtain ⟨_, _, _, among, _⟩ := Page.write_block only
  exact ⟨header, formed, code, areWritable_of_writeAll among, last_of_block outside only⟩

/-- The text of a class is read as the parts of the class: its package, its imports and one block, in which stand, in this
order, the fields of the properties, the fields of the members, the accessors of the properties, the accessors of the
members and the operations.  The last line of it is the brace of the class, and that closed the last block.  If no name
in it has a line feed, no line has one, and the lines are those that the text is split into. -/
theorem class_reads_as_declared {m : Linked} {f : SourceFile} (body : t.body = .classBody c)
    (braceless : ∀ o ∈ c.operations, IsBraceless o.description ∧ IsBraceless o.content)
    (written : s.source m t = .ok (some f)) :
    ∃ parts page, ClassParts.AreOf s t c (m.associationMembers t) parts ∧
      (classUnit s.table t c (m.associationMembers t)).write s.indent = .ok page ∧ page.openBlocks = [] ∧
      f.text = textOfLines page.lines.inOrder ∧
      ('\n' ∉ s.indent.margin.toList → s.table.IsUnbroken → AreUnbroken (classNames t c (m.associationMembers t)) →
        AreUnbroken page.lines.inOrder) ∧
      (AreUnbroken page.lines.inOrder →
        (Text.splitAtFeeds f.text.toList).map String.ofList = page.lines.inOrder ++ [""]) ∧
      readEntries s.indent.margin page.lines.inOrder = some (parts.entries (packageName t.place.home)) ∧
      page.lines.inOrder.getLast? = some "\x7d" := by
  obtain ⟨u, unit, given, -⟩ := exists_unit_of_source written
  obtain ⟨-, unit⟩ := Option.ite_none_right_eq_some.1 unit
  rw [body] at unit
  obtain rfl := Option.some.inj unit
  obtain ⟨page, names, sorted, imports, started, outside, same, collected, ordered, read, all⟩ :=
    CompilationUnit.exists_write given
  obtain ⟨header, formed, code, writable, last⟩ := exists_block started
  obtain ⟨fields, memberFields, accessors, memberAccessors, operations, areFields, areFields', areAccessors,
    areAccessors', areOperations, readable, entries⟩ := exists_parts writable braceless
  refine ⟨⟨imports, header, fields, memberFields, accessors, memberAccessors, operations⟩, page, ?_, started, outside,
    same, fun apart unbroken named => areUnbroken_classUnit apart unbroken named given started, fun lines => ?_, ?_,
    last⟩
  · exact ⟨⟨names, sorted, collected, ordered, read⟩, formed, areFields, areFields', areAccessors, areAccessors',
      areOperations⟩
  · rw [same]
    exact splitAtFeeds_textOfLines (fun none => by simp [none] at last) lines
  · -- The package and the imports end with semicolons, so they are read as lines before the block.
    have statements : ∀ l ∈ packageLines (packageName t.place.home) ++ imports.map importLine, IsStatementLine l := by
      refine List.forall_mem_append.2 ⟨isStatementLine_package, ?_⟩
      exact List.forall_mem_map.2 fun name _ => ⟨"import " ++ name, rfl⟩
    have outer := full_statements statements
    have lines : full page.lines.inOrder = full (packageLines (packageName t.place.home) ++ imports.map importLine) ++
        codeLines s.indent.margin 0 [.block header (classCode s.table t c (m.associationMembers t))] := by
      rw [outer, ← code]
      exact all
    rw [readEntries_eq lines (fun l there => (statements l there).isReadable) ⟨readable, trivial⟩,
      lineEntries_of_statements statements, codeEntries, codeEntries, Code.entries, entries]
    simp [ClassParts.entries, ClassParts.methods]

/-- A type of the kind of classes has the body of a class. -/
theorem exists_classBody (isClass : t.kind = .classKind) : ∃ c, t.body = .classBody c := by
  rw [Classifier.kind] at isClass
  cases body : t.body with
  | classBody c => exact ⟨c, rfl⟩
  | _ =>
    rw [body] at isClass
    cases isClass

/-- A mill with a list of all grains, and with wheels; it grinds in a way of its own, and stops. -/
def mill : Declared :=
  ⟨[⟨(), "mill", [],
    [⟨(), "Grain", .enumeration ["RYE", "WHEAT"]⟩, ⟨(), "Wheel", .classBody ⟨false, [], [], [], []⟩⟩,
      ⟨(), "Mill", .classBody ⟨true,
        [⟨(), "grains", some "Grain", .number 0, .unbounded, none, true, .plain⟩],
        [⟨(), "grind", none, .number 1, .number 1, [⟨(), "grain", some "Grain", .number 1⟩], none, false, true,
            .text "Grinds some grain.", .null⟩,
          ⟨(), "stop", none, .number 1, .number 1, [], some .publicAccess, false, false, .null, .text "return;"⟩],
        [], []⟩⟩,
      ⟨(), "drive", .association
        [⟨(), "mill", some "Mill", .number 1, .number 1, none, false, .plain⟩,
          ⟨(), "wheels", some "Wheel", .number 0, .unbounded, none, false, .plain⟩]⟩]⟩]⟩

/-- The text of the mill is read as two fields and eight methods. -/
theorem class_reads_as_declared_of_mill :
    ∃ t ∈ mill.link.model.types, ∃ f parts lines,
      (Settings.mk .standard .default false).source mill.link t = .ok (some f) ∧ f.text = textOfLines lines ∧
        (Text.splitAtFeeds f.text.toList).map String.ofList = lines ++ [""] ∧
        readEntries "    " lines = some (ClassParts.entries "mill" parts) ∧ lines.getLast? = some "\x7d" ∧
        parts.fields.length = 1 ∧ parts.memberFields.length = 1 ∧
        parts.methods.map (·.name) = ["getGrains", "setGrains", "getWheels", "sizeOfWheels", "addToWheels",
          "removeFromWheels", "grind", "stop"] := by
  let t : LinkedType := mill.link.model.types.get ⟨2, by decide +kernel⟩
  obtain ⟨c, body⟩ : ∃ c, t.body = .classBody c := exists_classBody (by decide +kernel)
  have properties : c.properties = t.properties := by rw [Classifier.properties, body]
  have operations : c.operations = t.operations := by rw [Classifier.operations, body]
  have braceless : ∀ o ∈ c.operations, IsBraceless o.description ∧ IsBraceless o.content := by
    rw [operations]
    decide +kernel
  have given : ((Settings.mk .standard .default false).source mill.link t).toOption.join.map (·.package) =
      some "mill" := by decide +kernel
  obtain ⟨f, written, -⟩ := exists_source_of_package given
  have superClasses : c.superClasses = t.supersIn .superClasses := by simp only [Classifier.supersIn, body]
  have superInterfaces : c.superInterfaces = t.supersIn .superInterfaces := by simp only [Classifier.supersIn, body]
  have named : AreUnbroken (classNames t c (mill.link.associationMembers t)) := by
    rw [classNames, superClasses, superInterfaces, properties, operations]
    decide +kernel
  obtain ⟨parts, page, own, -, -, text, unbroken, split, read, last⟩ := class_reads_as_declared body braceless written
  have split := split (unbroken (by decide) default_isUnbroken named)
  have home : packageName t.place.home = "mill" := by decide +kernel
  rw [home] at read
  refine ⟨t, List.get_mem .., f, parts, page.lines.inOrder, written, text, split, read, last, ?_, ?_, ?_⟩
  · rw [← own.fields.length_eq, properties]
    decide +kernel
  · rw [← own.memberFields.length_eq]
    decide +kernel
  · rw [own.names, properties, operations]
    decide +kernel

end ClassDiagram.Java
