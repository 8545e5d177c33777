import ClassDiagram.Proofs.Draft.QualifiedNames
import ClassDiagram.Proofs.Java.CommentedCode

/-!
# Descriptions cannot change code

The descriptions of operations go into comments and into nothing else, so models that differ in them have units whose
code without its comments is the same (`unit?_described`).  A text keeps it that way as long as no description holds an
end of a comment (`source_described`).  Nothing takes such an end out of a description: what stands behind it in its
line, and in the lines after it, is code.
-/

set_option autoImplicit false

namespace ClassDiagram

/-! ## Descriptions of the operations of a model -/

/-- The change that gives every operation a description. -/
def describing (f : LinkedOperation → String) : Change Place Link :=
  { operation := fun o => { o with description := .text (f o) } }

/-- A type with descriptions of its operations. -/
def Classifier.described (t : LinkedType) (f : LinkedOperation → String) : LinkedType := (describing f).ofClassifier t

/-- A model with descriptions of its operations. -/
def Linked.described (m : Linked) (f : LinkedOperation → String) : Linked :=
  { m with model := (describing f).ofModel m.model }

variable {m : Linked} {t : LinkedType} {f : LinkedOperation → String}

/-- An operation is described and changed in nothing else. -/
theorem ofOperation_describing (f : LinkedOperation → String) (o : LinkedOperation) :
    (describing f).ofOperation o = { o with description := .text (f o) } := by
  have parameters : o.parameters.map (describing f).parameter = o.parameters := List.map_id _
  rw [Change.ofOperation, parameters]
  rfl

namespace Classifier

/-- A type with other descriptions is at its place. -/
theorem place_described (t : LinkedType) (f : LinkedOperation → String) : (t.described f).place = t.place := rfl

/-- A type with other descriptions has its name. -/
theorem name_described (t : LinkedType) (f : LinkedOperation → String) : (t.described f).name = t.name := rfl

/-- The body of a type with descriptions of its operations. -/
theorem body_described (t : LinkedType) (f : LinkedOperation → String) : (t.described f).body =
    t.body.changeOperations (·.map fun o => { o with description := .text (f o) }) := by
  obtain ⟨place, name, body⟩ := t
  have operations : (describing f).ofOperation = fun o => { o with description := .text (f o) } :=
    funext (ofOperation_describing f)
  have same (ps : List LinkedProperty) : ps.map (describing f).property = ps := List.map_id ps
  rw [described, Change.ofClassifier]
  cases body <;> simp [Body.changeProperties, Body.changeOperations, Body.changeEnds, operations, same] <;> rfl

/-- A type with other descriptions is of its kind. -/
theorem kind_described (t : LinkedType) (f : LinkedOperation → String) : (t.described f).kind = t.kind := by
  rw [kind, body_described, kind]
  cases t.body <;> rfl

/-- Associations have no operations. -/
theorem described_of_association (t : LinkedType) (f : LinkedOperation → String) (kind : t.kind = .association) :
    t.described f = t := by
  have body := t.body_described f
  obtain ⟨place, name, own⟩ := t
  cases own with
  | association ends => exact congrArg (Classifier.mk place name) body
  | _ => cases kind

end Classifier

namespace Linked

/-- The types of a model with other descriptions are its types with these. -/
theorem types_described (m : Linked) (f : LinkedOperation → String) :
    (m.described f).model.types = m.model.types.map (·.described f) := by
  have all : (m.described f).model.allPackages = m.model.allPackages.map (describing f).ofPackage :=
    allPackages_ofPackages (fun _ => rfl) m.model.packages
  rw [Model.types, all, Model.types, List.flatMap_map, List.map_flatMap]
  refine List.flatMap_congr fun p _ => ?_
  obtain ⟨place, name, packages, types⟩ := p
  rfl

/-- A model with other descriptions has its associations. -/
theorem associations_described (m : Linked) (f : LinkedOperation → String) :
    (m.described f).associations = m.associations := by
  have kinds : ((fun t : LinkedType => t.kind == .association) ∘ fun t : LinkedType => t.described f) =
      fun t : LinkedType => t.kind == .association := by
    funext t
    rw [Function.comp_apply, t.kind_described]
  rw [associations, Model.ofKind, types_described, List.filter_map, kinds]
  refine (List.map_congr_left fun t among => ?_).trans (List.map_id _)
  exact t.described_of_association f (eq_of_beq (List.mem_filter.1 among).2)

/-- In a model with other descriptions the ends have their opposites. -/
theorem opposite?_described (m : Linked) (f : LinkedOperation → String) : (m.described f).opposite? = m.opposite? := by
  have found (key : Key) : (m.described f).everyType.find? (fun t => t.kind == .association && t.key == key) =
      m.everyType.find? fun t => t.kind == .association && t.key == key := by
    have same : ((fun t : LinkedType => t.kind == .association && t.key == key) ∘
        fun t : LinkedType => t.described f) = fun t : LinkedType => t.kind == .association && t.key == key := by
      funext t
      rw [Function.comp_apply, t.kind_described]
      rfl
    rw [everyType, everyType, types_described, List.find?_append, List.find?_append, List.find?_map, same]
    congr 1
    cases own : m.model.types.find? fun t => t.kind == .association && t.key == key with
    | none => rfl
    | some t =>
      have kind := List.find?_some own
      rw [Bool.and_eq_true] at kind
      exact congrArg some (t.described_of_association f (eq_of_beq kind.1))
  funext p
  rw [opposite?, opposite?, associationOf?, associationOf?]
  cases p.place.holder with
  | none => rfl
  | some key =>
    dsimp only
    rw [found key]

/-- The members of a class whose operations are described are those of the class, of which only the owner is
described. -/
theorem associationMembers_described (m : Linked) (t : LinkedType) (f : LinkedOperation → String) :
    (m.described f).associationMembers (t.described f) =
      (m.associationMembers t).map fun r => { r with owner := t.described f } := by
  have at' : (m.described f).associationsAt t.key = m.associationsAt t.key := by
    rw [associationsAt, participations, associations_described]
    rfl
  rw [associationMembers, associationMembers, List.map_flatMap]
  change List.flatMap _ ((m.described f).associationsAt t.key) = _
  rw [at', opposite?_described]
  refine List.flatMap_congr fun a _ => ?_
  rw [List.map_filterMap]
  refine List.filterMap_congr fun far _ => ?_
  split
  · rw [Option.map_map]
    rfl
  · rfl

end Linked

namespace Java

/-! ## Code of a described model -/

variable {table : TypeTable}

/-- A block is plain if the code in it is. -/
theorem plain_ofBlock (header : Except Misfit String) (body : List Code) :
    (Code.ofBlock header body).plain = Code.ofBlock header (plainCodes body) := by
  cases header <;> rfl

/-- Code in a row is plain piece by piece. -/
theorem plainCodes_append (first second : List Code) :
    plainCodes (first ++ second) = plainCodes first ++ plainCodes second := by
  rw [plainCodes_eq, plainCodes_eq, plainCodes_eq, List.map_append]

/-- Operations are written alike without their descriptions. -/
theorem plainCodes_operations (write : LinkedOperation → List Code)
    (same : ∀ o description, plainCodes (write { o with description := description }) = plainCodes (write o))
    (f : LinkedOperation → String) (operations : List LinkedOperation) :
    plainCodes ((operations.map fun o => { o with description := .text (f o) }).flatMap write) =
      plainCodes (operations.flatMap write) := by
  rw [plainCodes_eq, plainCodes_eq, List.flatMap_map, List.map_flatMap, List.map_flatMap]
  refine List.flatMap_congr fun o _ => ?_
  rw [← plainCodes_eq, ← plainCodes_eq]
  exact same o _

/-- An operation of a class is the same but for its description. -/
theorem plain_classOperation (o : LinkedOperation) (description : Document) :
    plainCodes (classOperation table { o with description := description }) = plainCodes (classOperation table o) := by
  unfold classOperation
  cases o.isAbstract <;> rfl

/-- An operation of an interface is the same but for its description. -/
theorem plain_interfaceOperation (o : LinkedOperation) (description : Document) :
    plainCodes (interfaceOperation table { o with description := description }) =
      plainCodes (interfaceOperation table o) := by
  unfold interfaceOperation
  cases o.isStatic <;> rfl

/-- Descriptions do not change what operations import. -/
theorem importsOfOperations_described (table : TypeTable) (own : String) (f : LinkedOperation → String)
    (operations : List LinkedOperation) :
    importsOfOperations table own (operations.map fun o => { o with description := .text (f o) }) =
      importsOfOperations table own operations := by
  rw [importsOfOperations, importsOfOperations, importsForEach, importsForEach, List.mapM_map]
  rfl

section

variable (table : TypeTable) (own : LinkedType) (members : List AssociationMember)

/-- What is written for a member does not depend on what its owner holds. -/
theorem importsOfMembers_withOwner (package : String) :
    importsOfMembers table package (members.map fun r => { r with owner := own }) =
      importsOfMembers table package members := by
  rw [importsOfMembers, importsOfMembers, importsForEach, importsForEach, List.mapM_map]
  rfl

/-- The code of members does not depend on the form of their owner. -/
theorem memberCode_withOwner :
    (members.map fun r : AssociationMember => { r with owner := own }).map (memberField table) =
        members.map (memberField table) ∧
      (members.map fun r : AssociationMember => { r with owner := own }).flatMap (accessorCode table) =
        members.flatMap (accessorCode table) := by
  rw [List.map_map, List.flatMap_map]
  exact ⟨rfl, rfl⟩

end

/-- The unit of a class with other descriptions is the same but for these. -/
theorem classUnit_described (t : LinkedType) (c : ClassBody Place Link) (members : List AssociationMember)
    (f : LinkedOperation → String) :
    (classUnit table (t.described f) { c with operations := c.operations.map fun o => { o with description := .text (f o) } }
      (members.map fun r => { r with owner := t.described f })).plain = (classUnit table t c members).plain := by
  have operations := importsOfOperations_described table (packageName t.place.home) f c.operations
  have brought := importsOfMembers_withOwner table (t.described f) members (packageName t.place.home)
  have written := memberCode_withOwner table (t.described f) members
  have bodies := plainCodes_operations (classOperation table) plain_classOperation f c.operations
  simp only [CompilationUnit.plain, classUnit, classCode, plainCodes, plain_ofBlock, plainCodes_append,
    t.place_described, t.name_described, operations, brought, written, bodies]
  rfl

/-- The unit of an interface with other descriptions is the same but for these. -/
theorem interfaceUnit_described (t : LinkedType) (c : InterfaceBody Place Link) (f : LinkedOperation → String) :
    (interfaceUnit table (t.described f)
      { c with operations := c.operations.map fun o => { o with description := .text (f o) } }).plain =
      (interfaceUnit table t c).plain := by
  have operations := importsOfOperations_described table (packageName t.place.home) f c.operations
  have bodies := plainCodes_operations (interfaceOperation table) plain_interfaceOperation f c.operations
  simp only [CompilationUnit.plain, interfaceUnit, plainCodes, Code.plain, plainCodes_append, t.place_described,
    operations, bodies]
  rfl

/-- Without their descriptions, the units of a described type and of the type are the same. -/
theorem unit?_described (s : Settings) (m : Linked) (t : LinkedType) (f : LinkedOperation → String) :
    (s.unit? (m.described f) (t.described f)).map CompilationUnit.plain = (s.unit? m t).map CompilationUnit.plain := by
  have covers : s.covers (t.described f) = s.covers t := by
    rw [Settings.covers, t.kind_described, Settings.covers]
  rw [Settings.unit?, Settings.unit?, covers, t.body_described, m.associationMembers_described]
  split
  · cases t.body with
    | classBody c => exact congrArg some (classUnit_described t c _ f)
    | interface c => exact congrArg some (interfaceUnit_described t c f)
    | datatype properties => rfl
    | primitive => rfl
    | enumeration literals => rfl
    | association ends => rfl
  · rfl

/-! ## Comments of a described model -/

/-- A line is harmless. -/
theorem isHarmless_ofLine (text : Except Misfit String) : (Code.ofLine text).IsHarmless := by
  cases text <;> trivial

/-- A block is harmless if the code in it is. -/
theorem isHarmless_ofBlock {header : Except Misfit String} {body : List Code} (harmless : AreHarmless body) :
    (Code.ofBlock header body).IsHarmless := by
  cases header with
  | ok text => exact harmless
  | error e => trivial

mutual

/-- There are no comments in the bodies of accessors. -/
theorem isHarmless_statement (field : String) : (x : Statement) → (x.code field).IsHarmless
  | .when condition body => by
    rw [Statement.code]
    exact areHarmless_statements field body
  | .leave | .returnField | .returnView | .returnSize | .keepOld _ | .assign _ | .add | .remove | .call _ _ => by
    rw [Statement.code]
    trivial

/-- The code of statements is harmless. -/
theorem areHarmless_statements (field : String) : (xs : List Statement) → AreHarmless (statementCodes field xs)
  | [] => trivial
  | x :: rest => ⟨isHarmless_statement field x, areHarmless_statements field rest⟩

end

/-- The accessors of a member are harmless. -/
theorem areHarmless_accessorCode (r : AssociationMember) : AreHarmless (accessorCode table r) := by
  rw [accessorCode]
  split
  · next accessors _ =>
    refine areHarmless_iff.2 fun code among => ?_
    obtain ⟨a, _, own⟩ := List.mem_flatMap.1 among
    have both : AreHarmless (a.code r.name) := ⟨trivial, areHarmless_statements _ _, trivial⟩
    exact areHarmless_iff.1 both code own
  · exact ⟨trivial, trivial⟩

/-- The tag of a comment. -/
def operationTag (o : LinkedOperation) : String := if o.content.isGiven then "@generated NOT" else "@generated"

/-- The tag of an operation does not end a comment. -/
theorem isHarmless_operationTag (o : LinkedOperation) : IsHarmless [operationTag o] := by
  unfold IsHarmless operationTag
  split <;> decide

/-- The comment of an operation is harmless if its description does not end one. -/
theorem isHarmless_operationComment {o : LinkedOperation} {text : String} (described : o.description = .text text)
    (one : ¬ EndsComment text.toList) : (operationComment o).IsHarmless :=
  ⟨⟨text, described, one⟩, isHarmless_operationTag o⟩

/-- Whether a page is another one with a comment on lines of its own. -/
def Page.AddsComment (w w' : Page) (comment : List Char) : Prop :=
  ∃ lines : List String, w'.lines = lines.reverse ++ w.lines ∧
    charsOf lines = (repeated w.indent.margin w.openBlocks.length).toList ++ comment ++ ['\n']

/-- What is written for the description of an operation is one comment exactly if the description has no end of a
comment. -/
theorem adds_operationComment {o : LinkedOperation} {text : String} (described : o.description = .text text)
    {w w' : Page} (apart : IsApart w.indent.margin.toList) (written : w.write (operationComment o) = .ok w') :
    ∃ comment, w.AddsComment w' comment ∧ (IsComment comment ↔ ¬ EndsComment text.toList) := by
  obtain ⟨lines, formed⟩ := exists_descriptionLines text
  rw [← described] at formed
  have written : w.addLines (commentLines (commentBody lines [operationTag o])) = .ok w' :=
    (write_comment formed w _).symm.trans written
  cases indent : w.indent with
  | broken error =>
    rw [addLines_of_broken indent] at written
    cases written
  | unit margin =>
    have within : IsApart (repeated margin w.openBlocks.length).toList := by
      rw [indent] at apart
      exact isApart_repeated apart _
    rw [addLines_of_unit (full_commentLines _) indent] at written
    obtain rfl := Except.ok.inj written
    refine ⟨javadoc (repeated margin w.openBlocks.length) (commentBody lines [operationTag o]), ⟨_, rfl, ?_⟩, ?_⟩
    · rw [indent]
      exact charsOf_javadocLines _ _
    · rw [isComment_javadoc within, ← endsComment_lines (described ▸ formed)]
      exact isHarmless_commentBody_iff (isHarmless_operationTag o)

/-- The body of an operation is harmless. -/
theorem areHarmless_operationBody (o : LinkedOperation) : AreHarmless (operationBody o) := by
  unfold operationBody
  split <;> exact ⟨trivial, trivial⟩

/-- Whether operations are described by texts without an end of a comment. -/
def AreDescribed (operations : List LinkedOperation) : Prop :=
  ∀ o ∈ operations, ∃ text, o.description = .text text ∧ ¬ EndsComment text.toList

/-- Code that is written for items is harmless if that of each item is. -/
theorem areHarmless_flatMap {α : Type} {write : α → List Code} {items : List α}
    (each : ∀ x ∈ items, AreHarmless (write x)) : AreHarmless (items.flatMap write) := by
  refine areHarmless_iff.2 fun code among => ?_
  obtain ⟨x, there, own⟩ := List.mem_flatMap.1 among
  exact areHarmless_iff.1 (each x there) code own

/-- Code in a row is harmless if all of it is. -/
theorem areHarmless_append {first second : List Code} :
    AreHarmless (first ++ second) ↔ AreHarmless first ∧ AreHarmless second := by
  simp only [areHarmless_iff, List.forall_mem_append]

/-- Lines that are written for items are harmless. -/
theorem areHarmless_ofLines {α : Type} (line : α → Except Misfit String) (items : List α) :
    AreHarmless (items.map fun x => Code.ofLine (line x)) :=
  areHarmless_iff.2 (List.forall_mem_map.2 fun x _ => isHarmless_ofLine (line x))

/-- The unit of a class is harmless if no description in it ends a comment. -/
theorem areHarmless_classUnit (t : LinkedType) {c : ClassBody Place Link} (members : List AssociationMember)
    (described : AreDescribed c.operations) : AreHarmless (classUnit table t c members).code := by
  refine ⟨isHarmless_ofBlock ?_, trivial⟩
  have operations : AreHarmless (c.operations.flatMap (classOperation table)) := by
    refine areHarmless_flatMap fun o there => ?_
    obtain ⟨text, own, one⟩ := described o there
    refine ⟨trivial, isHarmless_operationComment own one, ?_, trivial⟩
    split
    · exact isHarmless_ofLine _
    · exact isHarmless_ofBlock (areHarmless_operationBody o)
  have accessors : AreHarmless (c.properties.flatMap (propertyAccessors table t.name)) :=
    areHarmless_flatMap fun p _ =>
      ⟨trivial, isHarmless_ofBlock ⟨trivial, trivial⟩, trivial, isHarmless_ofBlock ⟨trivial, trivial⟩, trivial⟩
  have members : AreHarmless (members.flatMap (accessorCode table)) :=
    areHarmless_flatMap fun r _ => areHarmless_accessorCode r
  have blank : AreHarmless [Code.blank] := ⟨trivial, trivial⟩
  rw [classCode]
  simp only [areHarmless_append]
  exact ⟨⟨⟨⟨⟨⟨areHarmless_ofLines _ _, blank⟩, areHarmless_ofLines _ _⟩, blank⟩, accessors⟩, members⟩, operations⟩

/-- The unit of an interface is harmless if no description in it ends a comment. -/
theorem areHarmless_interfaceUnit (t : LinkedType) {c : InterfaceBody Place Link}
    (described : AreDescribed c.operations) : AreHarmless (interfaceUnit table t c).code := by
  have operations : AreHarmless (c.operations.flatMap (interfaceOperation table)) := by
    refine areHarmless_flatMap fun o there => ?_
    obtain ⟨text, own, one⟩ := described o there
    refine ⟨trivial, isHarmless_operationComment own one, ?_, trivial⟩
    split
    · exact isHarmless_ofBlock (areHarmless_operationBody o)
    · exact isHarmless_ofLine _
  exact ⟨areHarmless_append.2 ⟨areHarmless_ofLines _ _, operations⟩, trivial⟩

/-- The lines of literals are harmless. -/
theorem areHarmless_literalLines : (literals : List String) → AreHarmless (literalLines literals)
  | [] => trivial
  | [_] => ⟨trivial, trivial⟩
  | _ :: next :: rest => ⟨trivial, areHarmless_literalLines (next :: rest)⟩

/-- The unit of a type whose operations have descriptions without an end of a comment is harmless. -/
theorem areHarmless_of_unit? {s : Settings} {u : CompilationUnit} (described : AreDescribed t.operations)
    (unit : s.unit? m t = some u) : AreHarmless u.code := by
  obtain ⟨place, name, body⟩ := t
  rw [Settings.unit?] at unit
  split at unit
  · cases body with
    | classBody c =>
      obtain rfl := Option.some.inj unit
      exact areHarmless_classUnit _ _ described
    | interface c =>
      obtain rfl := Option.some.inj unit
      exact areHarmless_interfaceUnit _ described
    | datatype properties =>
      obtain rfl := Option.some.inj unit
      exact ⟨isHarmless_ofBlock trivial, trivial⟩
    | enumeration literals =>
      obtain rfl := Option.some.inj unit
      exact ⟨areHarmless_literalLines literals, trivial⟩
    | primitive => cases unit
    | association ends => cases unit
  · cases unit

/-! ## Files of a described model -/

/-- A file without the comments in its text. -/
def SourceFile.uncommented (file : SourceFile) : SourceFile :=
  { file with text := String.ofList (withoutComments file.text.toList) }

/-- The file of a type without its descriptions and comments. -/
def plainSource (s : Settings) (m : Linked) (t : LinkedType) : Except Misfit (Option SourceFile) :=
  match (s.unit? m t).map CompilationUnit.plain with
  | none => return none
  | some u => ((u.text s.indent).map (withoutComments ·.toList)).map fun code => some (.ofText t (String.ofList code))

section

variable {s : Settings} (apart : IsApart s.indent.margin.toList)
include apart

/-- Without comments, the file of a type whose operations have harmless descriptions does not depend on these. -/
theorem source_described (harmless : ∀ o ∈ t.operations, ¬ EndsComment (f o).toList) :
    (s.source (m.described f) (t.described f)).map (Option.map SourceFile.uncommented) = plainSource s m t := by
  have described : AreDescribed (t.described f).operations := by
    have operations : (t.described f).operations = t.operations.map fun o => { o with description := .text (f o) } := by
      have body := t.body_described f
      rw [Classifier.operations, body, Classifier.operations]
      cases t.body <;> rfl
    intro o there
    rw [operations] at there
    obtain ⟨o, own, rfl⟩ := List.mem_map.1 there
    exact ⟨f o, rfl, harmless o own⟩
  have plain := unit?_described s m t f
  rw [Settings.source, plainSource, ← plain]
  cases unit : s.unit? (m.described f) (t.described f) with
  | none => rfl
  | some u =>
    have same := u.text_plain apart (areHarmless_of_unit? described unit)
    rw [Option.map_some]
    dsimp only
    rw [← same]
    cases u.text s.indent <;> rfl

/-- The sources with descriptions that end no comment are those without them, the comments aside. -/
theorem sources_described (harmless : ∀ t ∈ m.model.types, ∀ o ∈ t.operations, ¬ EndsComment (f o).toList) :
    (s.sources (m.described f)).map (List.map SourceFile.uncommented) =
      (m.model.types.mapM (plainSource s m)).map fun files => files.filterMap id := by
  have each : (m.model.types.mapM fun t => s.source (m.described f) (t.described f)).map
      (List.map (Option.map SourceFile.uncommented)) = m.model.types.mapM (plainSource s m) := by
    rw [← mapM_map]
    exact mapM_congr fun t there => source_described apart (harmless t there)
  have kept (files : List (Option SourceFile)) : (files.filterMap id).map SourceFile.uncommented =
      (files.map (Option.map SourceFile.uncommented)).filterMap id := by
    rw [List.map_filterMap, List.filterMap_map]
    rfl
  rw [← each, Settings.sources, m.types_described, List.mapM_map]
  change Except.map _ ((m.model.types.mapM fun t => s.source (m.described f) (t.described f)) >>= _) = _
  cases m.model.types.mapM fun t => s.source (m.described f) (t.described f) with
  | error e => rfl
  | ok files => exact congrArg Except.ok (kept files)

end

/-- The lines of a text without its comments, blank lines apart. -/
def bareLines (text : String) : List (List Char) :=
  (Text.splitAtFeeds (withoutComments text.toList)).filter fun line => ! line.all Text.isBlank

/-- Two descriptions of the operations of a model, none with an end of a comment in it, leave the code of its files the
same: without comments, the files are the same, or the same is wrong with them.  Each comment that is written for an
operation is one comment exactly if its description has no end of a comment in it. -/
theorem descriptions_leave_code (m : Linked) {s : Settings} (apart : IsApart s.indent.margin.toList)
    {f g : LinkedOperation → String} (harmless : ∀ t ∈ m.model.types, ∀ o ∈ t.operations,
      ¬ EndsComment (f o).toList ∧ ¬ EndsComment (g o).toList) :
    (s.sources (m.described f)).map (List.map SourceFile.uncommented) =
        (s.sources (m.described g)).map (List.map SourceFile.uncommented) ∧
      ∀ (o : LinkedOperation) (text : String), o.description = .text text → ∀ w w' : Page, w.indent = s.indent →
        w.write (operationComment o) = .ok w' →
          ∃ comment, w.AddsComment w' comment ∧ (IsComment comment ↔ ¬ EndsComment text.toList) := by
  constructor
  · rw [sources_described apart fun t there o own => (harmless t there o own).1,
      sources_described apart fun t there o own => (harmless t there o own).2]
  · intro o text described w w' indent written
    exact adds_operationComment described (indent ▸ apart) written

/-- A bakery that opens. -/
def bakery : Linked :=
  Declared.link ⟨[⟨(), "town", [], [⟨(), "Bakery", .classBody ⟨false, [],
    [⟨(), "open", none, .number 1, .number 1, [], none, false, false, .null, .null⟩], [], []⟩⟩]⟩]⟩

/-- Descriptions of the bakery, one of which begins a comment, leave its code the same. -/
theorem descriptions_leave_code_of_bakery :
    ((Settings.mk .standard .default false).sources (bakery.described fun _ => "From seven /* to noon.")).map
        (List.map SourceFile.uncommented) =
      ((Settings.mk .standard .default false).sources (bakery.described fun _ => "")).map
        (List.map SourceFile.uncommented) ∧
      (((Settings.mk .standard .default false).sources (bakery.described fun _ => "From seven /* to noon.")).toOption.map
        (List.map fun file => (bareLines file.text).map String.ofList)) =
        some [["package town;", "public class Bakery \x7b", "    void open() \x7b",
          "        throw new UnsupportedOperationException();", "    \x7d", "\x7d"]] := by
  have apart : IsApart Indent.standard.margin.toList := by
    intro c there
    simp [Indent.standard, Indent.margin] at there
    subst there
    decide
  refine ⟨(descriptions_leave_code bakery (s := ⟨.standard, .default, false⟩) apart fun _ _ _ _ => ?_).1, ?_⟩
  · exact ⟨by decide, by decide⟩
  · decide +kernel

/-- A description that ends its comment becomes code. -/
theorem bakery_description_becomes_code :
    (((Settings.mk .standard .default false).sources (bakery.described fun _ => "*/ int x; /*")).toOption.map
      (List.map fun file => bareLines file.text)) ≠
    (((Settings.mk .standard .default false).sources (bakery.described fun _ => "Opens.")).toOption.map
      (List.map fun file => bareLines file.text)) := by
  decide +kernel

end Java

end ClassDiagram
