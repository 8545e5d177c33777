import ClassDiagram.Java.Source
import ClassDiagram.Proofs.Fallible
import ClassDiagram.Proofs.Layout

/-!
# The types that code names

A text does not show which of its words stand for types.  Here the code of a unit is put together from parts, of which
each is a plain text, the name of a type or the name of a collection of the standard library; with the names in
their places it is the code that is generated (`code_markedUnit`).  What a unit names is read off the parts, whatever
the names are.
-/

set_option autoImplicit false

namespace ClassDiagram

/-- Whether all names that a table gives, and all imports, are texts that are not empty. -/
structure TypeTable.IsTextual (r : TypeTable) : Prop where
  aliases : ∀ entry ∈ r.aliases, ∃ text, entry.2 = .text text ∧ text ≠ ""
  imports : ∀ entry ∈ r.imports, ∃ text, entry.2 = .text text ∧ text ≠ ""

namespace Java

/-! ## Lines -/

/-- A part of a line: a text, the name of a type, where it is used or in a list of super types, or the name of
a collection. -/
inductive Part where
  | text (text : String)
  | type (target : Target)
  | superType (target : Target)
  | list
  | arrayList
  | collections

/-- The name that code has for a type. -/
def typeWord (table : TypeTable) (t : Target) : String :=
  match table.nameOfTarget (some t) with
  | .text name => name
  | _ => ""

/-- What stands in a line for a part. -/
def Part.word (table : TypeTable) : Part → String
  | .text words => words
  | .type t => typeWord table t
  | .superType t => t.name
  | .list => "List"
  | .arrayList => "ArrayList"
  | .collections => "Collections"

/-- The line that parts make. -/
def lineOf (table : TypeTable) : List Part → String
  | [] => ""
  | part :: rest => part.word table ++ lineOf table rest

/-- Words in one line, with a space between those that are not empty. -/
def spaced (table : TypeTable) : List (List Part) → List Part
  | [] => []
  | word :: rest =>
    if lineOf table word = "" ∨ lineOf table (spaced table rest) = "" then word ++ spaced table rest
    else word ++ .text " " :: spaced table rest

/-- Items in one line, with commas between them. -/
def listed : List (List Part) → List Part
  | [] => []
  | [last] => last
  | item :: rest => item ++ .text ", " :: listed rest

section Lines

variable {table : TypeTable}

/-- No parts make an empty line. -/
@[simp] theorem lineOf_nil : lineOf table [] = "" := rfl

/-- Parts make a line of the first and then the others. -/
@[simp] theorem lineOf_cons (part : Part) (rest : List Part) :
    lineOf table (part :: rest) = part.word table ++ lineOf table rest := rfl

/-- Parts in a row make a line of the first and then the second. -/
@[simp] theorem lineOf_append (first second : List Part) :
    lineOf table (first ++ second) = lineOf table first ++ lineOf table second := by
  induction first with
  | nil => simp
  | cons part rest ih => simp only [List.cons_append, lineOf_cons, ih, String.append_assoc]

/-- A text stands in a line as it is. -/
@[simp] theorem word_text (text : String) : (Part.text text).word table = text := rfl

/-- Items make a line with commas between them. -/
theorem lineOf_listed (items : List (List Part)) :
    lineOf table (listed items) = ", ".intercalate (items.map (lineOf table)) := by
  induction items with
  | nil => rfl
  | cons first rest ih =>
    cases rest with
    | nil => simp [listed, String.intercalate_singleton]
    | cons second rest =>
      rw [listed, lineOf_append, lineOf_cons, ih, List.map_cons, List.map_cons, List.map_cons,
        String.intercalate_cons_cons, word_text, String.append_assoc]
      exact List.cons_ne_nil _ _

/-- Words make a line with spaces between those that are not empty. -/
theorem lineOf_spaced (words : List (List Part)) :
    lineOf table (spaced table words) = " ".intercalate ((words.map (lineOf table)).filter (!·.isEmpty)) := by
  induction words with
  | nil => rfl
  | cons word rest ih =>
    have given : ∀ first others, (rest.map (lineOf table)).filter (!·.isEmpty) = first :: others → first ≠ "" := by
      intro first others same empty
      have among : first ∈ (rest.map (lineOf table)).filter (!·.isEmpty) := same ▸ List.mem_cons_self
      simpa [empty] using (List.mem_filter.1 among).2
    rw [spaced, List.map_cons, List.filter_cons]
    by_cases empty : lineOf table word = ""
    · simp [empty, ih]
    · have kept : (!(lineOf table word).isEmpty) = true := by simpa using empty
      rw [if_pos kept]
      generalize others : (rest.map (lineOf table)).filter (!·.isEmpty) = texts at ih given
      cases texts with
      | nil => simp [ih]
      | cons first texts =>
        have later : lineOf table (spaced table rest) ≠ "" := by
          rw [ih]
          cases texts <;> simp [String.intercalate_cons_cons, given first]
        rw [if_neg (not_or.2 ⟨empty, later⟩), lineOf_append, lineOf_cons, ih, String.intercalate_cons_cons, word_text,
          String.append_assoc]

variable (table) in
/-- Texts that are joined as words give the line of their parts. -/
theorem joinWords_lines (words : List (List Part)) :
    joinWords (words.map fun word => .text (lineOf table word)) = .ok (lineOf table (spaced table words)) := by
  have given : (words.map fun word => Document.text (lineOf table word)).filter (·.isGiven) =
      ((words.map (lineOf table)).filter (!·.isEmpty)).map .text := by
    rw [List.filter_map, List.filter_map, List.map_map]
    rfl
  rw [joinWords, given, wordTexts_texts, lineOf_spaced]
  rfl

end Lines

/-! ## Code -/

/-- Code with the types that it names. -/
inductive Marked where
  | plain (code : Code)
  | line (parts : List Part)
  | block (header : List Part) (body : List Marked)

mutual

/-- The code with the names in their places. -/
def Marked.code (table : TypeTable) : Marked → Code
  | .plain code => code
  | .line parts => .line (lineOf table parts)
  | .block header body => .block (lineOf table header) (markedCode table body)

/-- Pieces of code with the names in their places. -/
def markedCode (table : TypeTable) : List Marked → List Code
  | [] => []
  | piece :: rest => piece.code table :: markedCode table rest

end

mutual

/-- The parts of code. -/
def Marked.parts : Marked → List Part
  | .plain _ => []
  | .line parts => parts
  | .block header body => header ++ partsOf body

/-- The parts of pieces of code. -/
def partsOf : List Marked → List Part
  | [] => []
  | piece :: rest => piece.parts ++ partsOf rest

end

/-- Marked code is code piece by piece. -/
theorem markedCode_eq (table : TypeTable) (pieces : List Marked) :
    markedCode table pieces = pieces.map (Marked.code table) := by
  induction pieces with
  | nil => rfl
  | cons piece rest ih => rw [markedCode, ih, List.map_cons]

/-- The parts of marked code are those of its pieces. -/
theorem partsOf_eq (pieces : List Marked) : partsOf pieces = pieces.flatMap Marked.parts := by
  induction pieces with
  | nil => rfl
  | cons piece rest ih => rw [partsOf, ih, List.flatMap_cons]

/-- Code without marks is the same when marked. -/
theorem markedCode_plain (table : TypeTable) (codes : List Code) : markedCode table (codes.map .plain) = codes := by
  induction codes with
  | nil => rfl
  | cons code rest ih => rw [List.map_cons, markedCode, ih, Marked.code]

/-! ## Types -/

/-- The name of a type; nothing when it is unknown. -/
def typeParts : Option Target → List Part
  | none => []
  | some t => [.type t]

/-- A list of elements of a type. -/
def listParts (element : List Part) : List Part := .list :: .text "<" :: element ++ [.text ">"]

/-- The type of an element, as a list when it holds many values; a type without a name makes no list. -/
def writtenParts (table : TypeTable) (type : Option Link) (many : Bool) : List Part :=
  let base := typeParts (type.bind (·.target))
  if many ∧ lineOf table base ≠ "" then listParts base else base

/-- The type and the name of an element. -/
def typedParts (table : TypeTable) (type : Option Link) (many : Bool) (name : String) : List Part :=
  writtenParts table type many ++ [.text (" " ++ name)]

/-- The type of a member. -/
def memberParts (d : AssociationMember) : List Part :=
  if d.isList then listParts (typeParts d.target) else typeParts d.target

/-- The value that a field begins with. -/
def initialParts (many : Bool) : List Part := if many then [.text " = new ", .arrayList, .text "<>()"] else []

/-- What an operation returns, its name and its parameters. -/
def headParts (table : TypeTable) (o : LinkedOperation) : List Part :=
  (if o.type.isNone then [.text voidType] else writtenParts table o.type o.isList) ++ .text (" " ++ o.name ++ "(") ::
    listed (o.parameters.map fun p => typedParts table p.type p.isList p.name) ++ [.text ")"]

/-- The names of the super types that are known. -/
def superParts (links : List Link) : List (List Part) :=
  links.filterMap fun l => l.target.map fun t => [.superType t]

/-- A clause of a header with the super types it lists. -/
def clauseParts (word : String) (links : List Link) : List Part :=
  if (superParts links).isEmpty then [] else .text (" " ++ word ++ " ") :: listed (superParts links)

/-- A value that is looked up is that of an entry. -/
theorem exists_mem_of_valueAt? {key value : Document} {entries : List (Document × Document)}
    (found : Document.valueAt? key entries = some value) : ∃ entry ∈ entries, entry.2 = value := by
  induction entries with
  | nil => cases found
  | cons entry rest ih =>
    rw [Document.valueAt?] at found
    split at found
    · exact ⟨entry, List.mem_cons_self, Option.some.inj found⟩
    · obtain ⟨entry, among, same⟩ := ih found
      exact ⟨entry, List.mem_cons_of_mem _ among, same⟩

section Types

variable {table : TypeTable} (textual : table.IsTextual)

include textual

/-- A name that is a text stands for a text in a table of texts. -/
theorem nameFor_text (name : String) : ∃ text, table.nameFor (.text name) = .text text := by
  unfold TypeTable.nameFor Table.get?
  cases found : Document.valueAt? (.text name) table.aliases with
  | none => exact ⟨name, rfl⟩
  | some value =>
    obtain ⟨entry, among, rfl⟩ := exists_mem_of_valueAt? found
    obtain ⟨text, same, _⟩ := textual.aliases entry among
    exact ⟨text, same⟩

/-- The name of a type is the line of its parts. -/
theorem nameOfTarget_eq (target : Option Target) :
    table.nameOfTarget target = .text (lineOf table (typeParts target)) := by
  cases target with
  | none => rfl
  | some t =>
    have isText : ∃ text, table.nameOfTarget (some t) = .text text := by
      unfold TypeTable.nameOfTarget
      dsimp only
      split
      · exact nameFor_text textual t.name
      · exact ⟨_, rfl⟩
    obtain ⟨text, same⟩ := isText
    simp [typeParts, Part.word, typeWord, same]

/-- The type of an element is the line of its parts. -/
theorem writtenType_eq (type : Option Link) (many : Bool) :
    table.writtenType type many = .ok (.text (lineOf table (writtenParts table type many))) := by
  unfold TypeTable.writtenType TypeTable.nameOfType writtenParts
  rw [nameOfTarget_eq textual]
  generalize typeParts _ = base
  by_cases named : lineOf table base = ""
  · simp [named, Document.isGiven]
    rfl
  · cases many with
    | false =>
      simp [named, Document.isGiven]
      rfl
    | true =>
      simp [named, Document.isGiven, listParts, Part.word]
      rfl

/-- The text of the name of a type is the line of its parts. -/
theorem nameOfTarget_text (target : Option Target) :
    lineText (table.nameOfTarget target) = .ok (lineOf table (typeParts target)) := by
  rw [nameOfTarget_eq textual]
  rfl

/-- The type of a member is the line of its parts. -/
theorem typeOfMember_eq (d : AssociationMember) :
    typeOfMember table d = .ok (lineOf table (memberParts d)) := by
  unfold typeOfMember memberParts listType elementType
  rw [nameOfTarget_text textual]
  cases d.isList with
  | false => rfl
  | true =>
    simp [listParts, Part.word]
    rfl

/-- Types and names are the line of their parts. -/
theorem typedNames_lines {α : Type} (items : List α) (type : α → Option Link) (many : α → Bool) (name : α → String) :
    typedNames (items.map fun a => (table.writtenType (type a) (many a), name a)) =
      .ok (lineOf table (listed (items.map fun a => typedParts table (type a) (many a) (name a)))) := by
  have each (a : α) : (do return (← lineText (← table.writtenType (type a) (many a))) ++ " " ++ name a) =
      (.ok (lineOf table (typedParts table (type a) (many a) (name a))) : Except Misfit String) := by
    rw [writtenType_eq textual]
    simp only [typedParts, lineOf_append, lineOf_cons, lineOf_nil, word_text, String.append_empty, ← String.append_assoc]
    rfl
  rw [typedNames, List.mapM_map, lineOf_listed, List.map_map]
  exact congrArg (· >>= fun texts => pure (", ".intercalate texts)) (mapM_eq_map each items)

/-- The head of an operation is the line of its parts. -/
theorem operationHead_eq (o : LinkedOperation) : operationHead table o = .ok (lineOf table (headParts table o)) := by
  have parameters : parameterText table o.parameters =
      .ok (lineOf table (listed (o.parameters.map fun p => typedParts table p.type p.isList p.name))) :=
    typedNames_lines textual o.parameters (·.type) (·.isList) (·.name)
  have result : table.resultType o = .ok (.text (lineOf table
      (if o.type.isNone then [.text voidType] else writtenParts table o.type o.isList))) := by
    unfold TypeTable.resultType
    split
    · simp
      rfl
    · exact writtenType_eq textual ..
  rw [operationHead, parameters, result, headParts]
  simp only [lineOf_append, lineOf_cons, lineOf_nil, word_text, String.append_empty, ← String.append_assoc]
  rfl

end Types

/-! ## Fields and methods -/

/-- The field of a property. -/
def markedField (table : TypeTable) (p : LinkedProperty) : Marked :=
  .line (spaced table [[.text "private"], [.text (staticWord p.isStatic)], writtenParts table p.type p.isList,
    [.text p.name]] ++ initialParts p.isList ++ [.text ";"])

/-- The field of a member of an association. -/
def markedMember (d : AssociationMember) : Marked :=
  .line (.text "private " :: memberParts d ++ .text (" " ++ d.name) :: initialParts d.isList ++ [.text ";"])

/-- The getter and the setter of a property. -/
def markedAccessors (table : TypeTable) (owner : String) (p : LinkedProperty) : List Marked :=
  let type := writtenParts table p.type p.isList
  let holder := if p.isStatic then owner else "this"
  let header (returns : List Part) (method : String) : List Part :=
    spaced table [[.text (visibilityWord (p.visibility.getD .publicAccess))], [.text (staticWord p.isStatic)], returns,
      [.text method]]
  [.plain .blank,
    .block (header type (AccessorKind.get.method p.name) ++ [.text "()"])
      [.plain (.line ("return " ++ holder ++ "." ++ p.name ++ ";"))],
    .plain .blank,
    .block (header [.text voidType] (AccessorKind.set.method p.name) ++ .text "(" :: type ++
      [.text (" " ++ p.name ++ ")")])
      [.plain (.line (holder ++ "." ++ p.name ++ " = " ++ p.name ++ ";"))]]

mutual

/-- A statement of an accessor of a member of a type. -/
def Statement.marked (type : List Part) (field : String) : Statement → Marked
  | .returnView => .line [.text "return ", .collections, .text (".unmodifiableList(" ++ fieldText field ++ ");")]
  | .keepOld _ => .line (type ++ [.text (" oldValue = " ++ fieldText field ++ ";")])
  | .when condition body => .block [.text ("if (" ++ condition.text field ++ ")")] (markedStatements type field body)
  | other => .plain (other.code field)

/-- Statements of an accessor. -/
def markedStatements (type : List Part) (field : String) : List Statement → List Marked
  | [] => []
  | s :: rest => s.marked type field :: markedStatements type field rest

end

/-- An accessor of a member: what it returns, and the type of its values. -/
def Accessor.marked (returns element type : List Part) (field : String) (a : Accessor) : List Marked :=
  let parameter := match a.parameter with
    | none => []
    | some (_, operand) => element ++ [.text (" " ++ operand.word)]
  [.plain .blank,
    .block (.text "public " :: returns ++ .text (" " ++ a.name ++ "(") :: parameter ++ [.text ")"])
      (markedStatements type field a.body)]

/-- The accessors of a member. -/
def markedMemberAccessors (table : TypeTable) (d : AssociationMember) : List Marked :=
  let type := memberParts d
  let element := typeParts d.target
  let accessors :=
    if d.isList then
      [type, [.text "int"], [.text voidType], [.text voidType]].zip
        (collectionAccessors (lineOf table type) (lineOf table element) d)
    else [type, [.text voidType]].zip (singleAccessors (lineOf table type) d)
  accessors.flatMap fun (returns, a) => a.marked returns element type d.name

/-- An operation of a class. -/
def markedOperation (table : TypeTable) (o : LinkedOperation) : List Marked :=
  let header (word : String) : List Part :=
    spaced table [[.text ((o.visibility.map visibilityWord).getD "")], [.text word], headParts table o]
  [.plain .blank, .plain (operationComment o),
    if o.isAbstract then .line (header "abstract" ++ [.text ";"])
    else .block (header (staticWord o.isStatic)) ((operationBody o).map .plain)]

/-- The constant of a property of an interface. -/
def markedConstant (table : TypeTable) (p : LinkedProperty) : Marked :=
  .line (typedParts table p.type p.isList p.name ++ .text " = " ::
    (if p.isList then [.list, .text ".of()"] else [.text "null"]) ++ [.text ";"])

/-- An operation of an interface. -/
def markedInterfaceOperation (table : TypeTable) (o : LinkedOperation) : List Marked :=
  [.plain .blank, .plain (operationComment o),
    if o.isStatic then .block (.text "static " :: headParts table o) ((operationBody o).map .plain)
    else .line (headParts table o ++ [.text ";"])]

section Pieces

variable {table : TypeTable} (textual : table.IsTextual)
include textual

/-- The field of a property is written as it is marked. -/
theorem code_markedField (p : LinkedProperty) : (markedField table p).code table = propertyField table p := by
  have words := joinWords_lines table
    [[.text "private"], [.text (staticWord p.isStatic)], writtenParts table p.type p.isList, [.text p.name]]
  simp only [List.map_cons, List.map_nil, lineOf_cons, lineOf_nil, word_text, String.append_empty] at words
  have initial : lineOf table (initialParts p.isList) = initialValue p.isList := by
    cases p.isList <;> rfl
  have line : propertyField table p = .ofLine (do
      let declaration ← joinWords [.text "private", .text (staticWord p.isStatic),
        .text (lineOf table (writtenParts table p.type p.isList)), .text p.name]
      return declaration ++ initialValue p.isList ++ ";") := by
    rw [propertyField, TypeTable.propertyType, writtenType_eq textual]
    rfl
  rw [line, words, markedField, Marked.code, lineOf_append, lineOf_append, initial]
  rfl

/-- The field of a member is written as it is marked. -/
theorem code_markedMember (d : AssociationMember) : (markedMember d).code table = memberField table d := by
  have initial : lineOf table (initialParts d.isList) = initialValue d.isList := by
    cases d.isList <;> rfl
  rw [memberField, typeOfMember_eq textual, markedMember, Marked.code]
  simp only [lineOf_append, lineOf_cons, lineOf_nil, word_text, String.append_empty, ← String.append_assoc, initial]
  rfl

/-- The accessors of a property are written as they are marked. -/
theorem code_markedAccessors (owner : String) (p : LinkedProperty) :
    markedCode table (markedAccessors table owner p) = propertyAccessors table owner p := by
  have typed : table.propertyType p = .ok (.text (lineOf table (writtenParts table p.type p.isList))) :=
    writtenType_eq textual ..
  have words (returns : List Part) (method : String) := joinWords_lines table
    [[.text (visibilityWord (p.visibility.getD .publicAccess))], [.text (staticWord p.isStatic)], returns,
      [.text method]]
  have getter := words (writtenParts table p.type p.isList) (AccessorKind.get.method p.name)
  have setter := words [.text voidType] (AccessorKind.set.method p.name)
  simp only [List.map_cons, List.map_nil, lineOf_cons, lineOf_nil, word_text, String.append_empty] at getter setter
  have pieces : propertyAccessors table owner p =
      [.blank,
        .ofBlock (do return (← joinWords [.text (visibilityWord (p.visibility.getD .publicAccess)),
            .text (staticWord p.isStatic), .text (lineOf table (writtenParts table p.type p.isList)),
            .text (AccessorKind.get.method p.name)]) ++ "()")
          [.line ("return " ++ (if p.isStatic then owner else "this") ++ "." ++ p.name ++ ";")],
        .blank,
        .ofBlock (do
            let words ← joinWords [.text (visibilityWord (p.visibility.getD .publicAccess)),
              .text (staticWord p.isStatic), .text voidType, .text (AccessorKind.set.method p.name)]
            return words ++ "(" ++ lineOf table (writtenParts table p.type p.isList) ++ " " ++ p.name ++ ")")
          [.line ((if p.isStatic then owner else "this") ++ "." ++ p.name ++ " = " ++ p.name ++ ";")]] := by
    rw [propertyAccessors, typed]
    rfl
  rw [pieces, getter, setter, markedAccessors]
  simp only [markedCode, Marked.code, lineOf_append, lineOf_cons, lineOf_nil, word_text, String.append_empty,
    ← String.append_assoc]
  rfl

omit textual in
/-- An accessor is written as it is marked if its types and its statements are. -/
theorem code_accessor {returns element type : List Part} {field : String} {a : Accessor}
    (returned : a.returns = lineOf table returns)
    (parameter : ∀ word operand, a.parameter = some (word, operand) → word = lineOf table element)
    (body : markedCode table (markedStatements type field a.body) = statementCodes field a.body) :
    markedCode table (a.marked returns element type field) = a.code field := by
  rw [Accessor.marked, Accessor.code, Accessor.header, markedCode, markedCode, markedCode, Marked.code, Marked.code, body]
  cases given : a.parameter with
  | none => simp [returned, ← String.append_assoc]
  | some pair =>
    obtain ⟨word, operand⟩ := pair
    obtain rfl := parameter word operand given
    simp [returned, ← String.append_assoc]

omit textual in
/-- The statements of a setter keep the old value with the type of the member. -/
theorem code_setterBody (type : List Part) (field : String) (d : AssociationMember) :
    markedCode table (markedStatements type field (setterBody (lineOf table type) d)) =
      statementCodes field (setterBody (lineOf table type) d) := by
  unfold setterBody
  cases d.onDetach <;> cases d.onAttach <;>
    simp [markedStatements, Statement.marked, markedCode, Marked.code, statementCodes, Statement.code, notification,
      ← String.append_assoc]

omit textual in
/-- No statement of an accessor of a list names the type of its values. -/
theorem code_listBodies (type : List Part) (field : String) (d : AssociationMember) :
    ∀ body ∈ [[.returnView], [.returnSize], adderBody d, removerBody d],
      markedCode table (markedStatements type field body) = statementCodes field body := by
  unfold adderBody removerBody
  cases d.onDetach <;> cases d.onAttach <;>
    simp [markedStatements, Statement.marked, markedCode, Marked.code, statementCodes, Statement.code, notification,
      Part.word, ← String.append_assoc]

omit textual in
/-- Accessors are written as they are marked if each of them is. -/
theorem code_accessors {element type : List Part} {field : String} {accessors : List (List Part × Accessor)}
    (each : ∀ a ∈ accessors, markedCode table (a.2.marked a.1 element type field) = a.2.code field) :
    markedCode table (accessors.flatMap fun (returns, a) => a.marked returns element type field) =
      (accessors.map Prod.snd).flatMap (Accessor.code field) := by
  simp only [markedCode_eq] at each ⊢
  rw [List.map_flatMap, List.flatMap_map]
  exact List.flatMap_congr each

/-- The accessors of a member are written as they are marked. -/
theorem code_markedMemberAccessors (d : AssociationMember) :
    markedCode table (markedMemberAccessors table d) = accessorCode table d := by
  have emitted : memberAccessors table d = .ok (if d.isList then
      collectionAccessors (lineOf table (memberParts d)) (lineOf table (typeParts d.target)) d
      else singleAccessors (lineOf table (memberParts d)) d) := by
    rw [memberAccessors, typeOfMember_eq textual, elementType, nameOfTarget_text textual]
    rfl
  rw [accessorCode, emitted, markedMemberAccessors]
  cases isList : d.isList with
  | true =>
    obtain ⟨view, size, add, remove, -⟩ : _ ∧ _ ∧ _ ∧ _ ∧ _ := by
      simpa only [List.forall_mem_cons] using @code_listBodies table (memberParts d) d.name d
    refine code_accessors ?_
    simp only [if_true, collectionAccessors, List.zip_cons_cons, List.zip_nil_right, List.forall_mem_cons]
    refine ⟨code_accessor rfl nofun view, code_accessor (by simp) nofun size, code_accessor (by simp) ?_ add,
      code_accessor (by simp) ?_ remove, nofun⟩
    · rintro _ _ ⟨⟩
      rfl
    · rintro _ _ ⟨⟩
      rfl
  | false =>
    have single : memberParts d = typeParts d.target := by rw [memberParts, isList, if_neg Bool.false_ne_true]
    refine code_accessors ?_
    simp only [Bool.false_eq_true, if_false, singleAccessors, List.zip_cons_cons, List.zip_nil_right,
      List.forall_mem_cons]
    refine ⟨code_accessor rfl nofun rfl, code_accessor (by simp) ?_ (code_setterBody ..), nofun⟩
    rintro _ _ ⟨⟩
    rw [single]

/-- An operation of a class is written as it is marked. -/
theorem code_markedOperation (o : LinkedOperation) :
    markedCode table (markedOperation table o) = classOperation table o := by
  have words (word : String) := joinWords_lines table
    [[.text ((o.visibility.map visibilityWord).getD "")], [.text word], headParts table o]
  simp only [List.map_cons, List.map_nil, lineOf_cons, lineOf_nil, word_text, String.append_empty] at words
  have pieces : classOperation table o = [.blank, operationComment o,
      if o.isAbstract then
        .ofLine ((joinWords [.text ((o.visibility.map visibilityWord).getD ""), .text "abstract",
          .text (lineOf table (headParts table o))]).map (· ++ ";"))
      else
        .ofBlock (joinWords [.text ((o.visibility.map visibilityWord).getD ""), .text (staticWord o.isStatic),
          .text (lineOf table (headParts table o))]) (operationBody o)] := by
    rw [classOperation, operationHead_eq textual]
    rfl
  rw [pieces, words, words, markedOperation]
  cases o.isAbstract with
  | true => simp [markedCode, Marked.code, Code.ofLine, Except.map]
  | false => simp [markedCode, Marked.code, Code.ofBlock, markedCode_plain]

/-- The constant of a property is written as it is marked. -/
theorem code_markedConstant (p : LinkedProperty) : (markedConstant table p).code table = constantCode table p := by
  have line : constantCode table p = .line (lineOf table (writtenParts table p.type p.isList) ++ " " ++ p.name ++ " = " ++
      (if p.isList then "List.of()" else "null") ++ ";") := by
    rw [constantCode, TypeTable.propertyType, writtenType_eq textual]
    rfl
  have value : lineOf table (if p.isList then [.list, .text ".of()"] else [.text "null"]) =
      if p.isList then "List.of()" else "null" := by
    cases p.isList <;> rfl
  rw [line, markedConstant, Marked.code]
  simp only [typedParts, lineOf_append, lineOf_cons, lineOf_nil, word_text, String.append_empty, ← String.append_assoc,
    value]

/-- An operation of an interface is written as it is marked. -/
theorem code_markedInterfaceOperation (o : LinkedOperation) :
    markedCode table (markedInterfaceOperation table o) = interfaceOperation table o := by
  rw [interfaceOperation, operationHead_eq textual, markedInterfaceOperation]
  cases o.isStatic with
  | true => simp [markedCode, Marked.code, Code.ofBlock, Except.map, markedCode_plain]
  | false => simp [markedCode, Marked.code, Code.ofLine, Except.map]

end Pieces

/-! ## Units -/

/-- The code of a class. -/
def markedClass (table : TypeTable) (t : LinkedType) (c : ClassBody Place Link) (members : List AssociationMember) :
    List Marked :=
  let header := spaced table [[.text "public"], [.text (if c.isAbstract then "abstract" else "")], [.text "class"],
    [.text t.name]]
  [.block (header ++ clauseParts "extends" c.superClasses ++ clauseParts "implements" c.superInterfaces)
    (c.properties.map (markedField table) ++ [.plain .blank] ++ members.map markedMember ++ [.plain .blank] ++
      c.properties.flatMap (markedAccessors table t.name) ++ members.flatMap (markedMemberAccessors table) ++
      c.operations.flatMap (markedOperation table))]

/-- The code of an interface. -/
def markedInterface (table : TypeTable) (t : LinkedType) (c : InterfaceBody Place Link) : List Marked :=
  [.block (.text ("public interface " ++ t.name) :: clauseParts "extends" c.superInterfaces)
    (c.properties.map (markedConstant table) ++ c.operations.flatMap (markedInterfaceOperation table))]

/-- The code of a data type. -/
def markedRecord (table : TypeTable) (t : LinkedType) (properties : List LinkedProperty) : List Marked :=
  [.block (.text ("public record " ++ t.name ++ "(") ::
    listed (properties.map fun p => typedParts table p.type p.isList p.name) ++ [.text ")"]) []]

/-- The code of the unit of a type; enumerations name no types. -/
def markedUnit (table : TypeTable) (m : Linked) (t : LinkedType) : List Marked :=
  match t.body with
  | .classBody c => markedClass table t c (m.associationMembers t)
  | .interface c => markedInterface table t c
  | .datatype properties => markedRecord table t properties
  | .enumeration literals => [.plain (.block (enumerationHeader t) (literalLines literals))]
  | .primitive => []
  | .association _ => []

section Units

variable {table : TypeTable}

/-- A clause of a header is the line of its parts. -/
theorem lineOf_clauseParts (word : String) (links : List Link) :
    lineOf table (clauseParts word links) = clause word (knownNames links) := by
  have names : (superParts links).map (lineOf table) = knownNames links := by
    rw [superParts, knownNames, List.map_filterMap]
    refine congrArg (List.filterMap · links) (funext fun l => ?_)
    cases l.target with
    | none => rfl
    | some t => simp [Part.word]
  have none : (superParts links).isEmpty = (knownNames links).isEmpty := by rw [← names, List.isEmpty_map]
  rw [clauseParts, clause, none]
  split
  · rfl
  · rw [lineOf_cons, lineOf_listed, names, word_text]

variable (textual : table.IsTextual)
include textual

/-- A class is written as it is marked. -/
theorem code_markedClass (t : LinkedType) (c : ClassBody Place Link) (members : List AssociationMember) :
    markedCode table (markedClass table t c members) = (classUnit table t c members).code := by
  have words := joinWords_lines table
    [[.text "public"], [.text (if c.isAbstract then "abstract" else "")], [.text "class"], [.text t.name]]
  simp only [List.map_cons, List.map_nil, lineOf_cons, lineOf_nil, word_text, String.append_empty] at words
  have body : markedCode table (c.properties.map (markedField table) ++ [.plain .blank] ++ members.map markedMember ++
      [.plain .blank] ++ c.properties.flatMap (markedAccessors table t.name) ++
      members.flatMap (markedMemberAccessors table) ++ c.operations.flatMap (markedOperation table)) =
      classCode table t c members := by
    have field := code_markedField textual
    have member := code_markedMember textual
    have accessors := code_markedAccessors textual t.name
    have memberAccessors := code_markedMemberAccessors textual
    have operation := code_markedOperation textual
    simp only [markedCode_eq] at accessors memberAccessors operation
    simp only [markedCode_eq, List.map_append, List.map_map, List.map_flatMap, List.map_cons, List.map_nil, Marked.code,
      Function.comp_def, field, member, accessors, memberAccessors, operation, classCode]
  rw [markedClass, markedCode, markedCode, Marked.code, body, classUnit, classHeader, words]
  simp only [lineOf_append, lineOf_clauseParts]
  rfl

/-- An interface is written as it is marked. -/
theorem code_markedInterface (t : LinkedType) (c : InterfaceBody Place Link) :
    markedCode table (markedInterface table t c) = (interfaceUnit table t c).code := by
  have body : markedCode table
      (c.properties.map (markedConstant table) ++ c.operations.flatMap (markedInterfaceOperation table)) =
      c.properties.map (constantCode table) ++ c.operations.flatMap (interfaceOperation table) := by
    have constant := code_markedConstant textual
    have operation := code_markedInterfaceOperation textual
    simp only [markedCode_eq] at operation
    simp only [markedCode_eq, List.map_append, List.map_map, List.map_flatMap, Function.comp_def, constant, operation]
  rw [markedInterface, markedCode, markedCode, Marked.code, body, lineOf_cons, lineOf_clauseParts, word_text]
  rfl

/-- A record is written as it is marked. -/
theorem code_markedRecord (t : LinkedType) (properties : List LinkedProperty) :
    markedCode table (markedRecord table t properties) = (recordUnit table t properties).code := by
  have components : typedNames (properties.map fun p => (table.propertyType p, p.name)) = _ :=
    typedNames_lines textual properties (·.type) (·.isList) (·.name)
  rw [recordUnit, components, markedRecord]
  simp only [markedCode, Marked.code, lineOf_append, lineOf_cons, lineOf_nil, word_text, String.append_empty]
  rfl

omit textual in
/-- The code of a unit is put together from its parts. -/
theorem code_markedUnit {s : Settings} {m : Linked} {t : LinkedType} {u : CompilationUnit} (textual : s.table.IsTextual)
    (found : s.unit? m t = some u) : u.code = markedCode s.table (markedUnit s.table m t) := by
  unfold Settings.unit? at found
  split at found
  · unfold markedUnit
    cases body : t.body <;> rw [body] at found <;> cases found
    · exact (code_markedClass textual ..).symm
    · exact (code_markedInterface textual ..).symm
    · exact (code_markedRecord textual ..).symm
    · rfl
  · cases found

end Units

end Java
end ClassDiagram
