import ClassDiagram.Proofs.Document.Order
import ClassDiagram.Proofs.Java.Callbacks
import ClassDiagram.Proofs.Java.LineFeeds
import ClassDiagram.Proofs.Java.Parts

/-!
# Names without line feeds

The text of a class is made of names: its own, those of its packages, of its features and of the types that it names, and
what a type table gives for these.  If none of them has a line feed, no line of the text has one
(`areUnbroken_classUnit`): descriptions and contents are split into lines before they are written.
-/

set_option autoImplicit false

namespace ClassDiagram

/-- Whether the text of a value in a line has no line feed. -/
def Document.IsUnbroken (d : Document) : Prop := ∀ text, lineText d = .ok text → '\n' ∉ text.toList

/-- Whether what a type table gives has no line feed: what names stand for, and what is imported. -/
structure TypeTable.IsUnbroken (r : TypeTable) : Prop where
  aliases : ∀ entry ∈ r.aliases, entry.2.IsUnbroken
  imports : ∀ entry ∈ r.imports, entry.2.IsUnbroken

namespace Java

/-- The names of the type that a reference leads to, and of the packages around it. -/
def linkNames (l : Link) : List String := l.target.elim [] fun t => t.name :: t.home

/-- The names of an element with a type. -/
def elementNames (name : String) (type : Option Link) : List String := name :: type.elim [] linkNames

/-- The names of an operation, those of its parameters included. -/
def operationNames (o : LinkedOperation) : List String :=
  elementNames o.name o.type ++ o.parameters.flatMap fun r => elementNames r.name r.type

/-- The names of a member: those of the end that it is for, and the name of the opposite end. -/
def memberNames (d : AssociationMember) : List String := d.opposite.name :: elementNames d.name d.far.type

/-- The names that the text of a class is made of. -/
def classNames (t : LinkedType) (c : ClassBody Place Link) (members : List AssociationMember) : List String :=
  t.name :: t.place.home ++ c.superClasses.flatMap linkNames ++ c.superInterfaces.flatMap linkNames ++
    c.properties.flatMap (fun p => elementNames p.name p.type) ++ members.flatMap memberNames ++
    c.operations.flatMap operationNames

/-- Texts have no line feed if the first has none and the others have none. -/
theorem areUnbroken_cons {first : String} {rest : List String} :
    AreUnbroken (first :: rest) ↔ '\n' ∉ first.toList ∧ AreUnbroken rest := List.forall_mem_cons

/-- The names of items have no line feed if those of each item have none. -/
theorem areUnbroken_flatMap {α : Type} {items : List α} {names : α → List String} :
    AreUnbroken (items.flatMap names) ↔ ∀ a ∈ items, AreUnbroken (names a) := List.forall_mem_flatMap

variable {table : TypeTable}

/-! ## Values in lines -/

/-- The text of a text is that text. -/
theorem isUnbroken_text {text : String} (unbroken : '\n' ∉ text.toList) : (Document.text text).IsUnbroken := by
  intro given same
  obtain rfl : text = given := Except.ok.inj same
  exact unbroken

/-- A value to look up by is the value itself. -/
theorem eq_of_asKey {d key : Document} (given : d.asKey = .ok key) : key = d := by
  unfold Document.asKey at given
  split at given
  · exact (Except.ok.inj given).symm
  · cases given

/-- Words that are joined have no line feed if none of them has one. -/
theorem not_mem_joinWords {words : List Document} {text : String} (each : ∀ word ∈ words, word.IsUnbroken)
    (joined : joinWords words = .ok text) : '\n' ∉ text.toList := by
  obtain ⟨texts, given, rfl⟩ := map_eq_ok.1 joined
  refine not_mem_intercalate (by decide) fun word there => ?_
  have among : Document.text word ∈ words.filter (·.isGiven) := by
    rw [eq_of_wordTexts given]
    exact List.mem_map_of_mem there
  exact each _ (List.mem_filter.1 among).1 word rfl

/-- The dotted name of a package has no line feed if none of its parts has one. -/
theorem not_mem_packageName {home : List String} (unbroken : AreUnbroken home) : '\n' ∉ (packageName home).toList :=
  not_mem_intercalate (by decide) unbroken

/-- The modifiers for visibilities have no line feed. -/
theorem not_mem_visibilityWord (v : Visibility) : '\n' ∉ (visibilityWord v).toList := by cases v <;> decide

/-- The modifier of static features has no line feed. -/
theorem not_mem_staticWord (isStatic : Bool) : '\n' ∉ (staticWord isStatic).toList := by cases isStatic <;> decide

/-- The value that a field begins with has no line feed. -/
theorem not_mem_initialValue (many : Bool) : '\n' ∉ (initialValue many).toList := by cases many <;> decide

/-- The objects that statements name have no line feed. -/
theorem not_mem_word (operand : Operand) : '\n' ∉ operand.word.toList := by cases operand <;> decide

/-- The name of an accessor has no line feed if the name that it is for has none. -/
theorem not_mem_accessor {name : String} (named : '\n' ∉ name.toList) (kind : AccessorKind) :
    '\n' ∉ (kind.method name).toList := not_mem_method (by decide) kind named

/-- A clause of a header has no line feed if the names that it lists have none. -/
theorem not_mem_clause {word : String} {links : List Link} (plain : '\n' ∉ word.toList)
    (named : AreUnbroken (links.flatMap linkNames)) : '\n' ∉ (clause word (knownNames links)).toList := by
  have names : AreUnbroken (knownNames links) := by
    intro name there
    obtain ⟨l, among, leads⟩ := List.mem_filterMap.1 there
    obtain ⟨t, target, rfl⟩ := Option.map_eq_some_iff.1 leads
    refine areUnbroken_flatMap.1 named l among t.name ?_
    rw [linkNames, target]
    exact List.mem_cons_self
  unfold clause
  split
  · exact nofun
  · have opens : '\n' ∉ (" " ++ word ++ " ").toList := by simp [plain]
    exact not_mem_append opens (not_mem_intercalate (by decide) names)

/-- The names of an element include those of its type. -/
theorem names_of_target {type : Option Link} {t : Target} (named : AreUnbroken (type.elim [] linkNames))
    (leads : type.bind (·.target) = some t) : AreUnbroken (t.name :: t.home) := by
  obtain ⟨l, rfl, target⟩ := Option.bind_eq_some_iff.1 leads
  rwa [Option.elim_some, linkNames, target] at named

/-! ## Types -/

/-- A list of values whose type has no line feed is written without one. -/
theorem not_mem_listType {element : Document} {text : String} (plain : element.IsUnbroken)
    (given : listType element = .ok text) : '\n' ∉ text.toList := by
  obtain ⟨inner, written, same⟩ := bind_eq_ok.1 given
  obtain rfl := Except.ok.inj same
  simp [plain inner written]

section Types

variable (unbroken : table.IsUnbroken)
include unbroken

/-- What a name stands for has no line feed if the name has none. -/
theorem isUnbroken_nameFor {name : String} (named : '\n' ∉ name.toList) : (table.nameFor (.text name)).IsUnbroken := by
  rw [TypeTable.nameFor]
  cases found : table.aliases.get? (.text name) with
  | none => exact isUnbroken_text named
  | some value =>
    obtain ⟨entry, among, rfl⟩ := exists_mem_of_valueAt? found
    exact unbroken.aliases entry among

/-- The name that a type is written with has no line feed if its own has none. -/
theorem isUnbroken_nameOfTarget {target : Option Target} (named : ∀ t ∈ target, '\n' ∉ t.name.toList) :
    (table.nameOfTarget target).IsUnbroken := by
  cases target with
  | none => exact isUnbroken_text nofun
  | some t =>
    rw [TypeTable.nameOfTarget]
    split
    · exact isUnbroken_nameFor unbroken (named t rfl)
    · exact isUnbroken_text (named t rfl)

/-- The name of the type of an element has no line feed if its own has none. -/
theorem isUnbroken_nameOfType {type : Option Link} (named : AreUnbroken (type.elim [] linkNames)) :
    (table.nameOfType type).IsUnbroken :=
  isUnbroken_nameOfTarget unbroken fun _ leads => (areUnbroken_cons.1 (names_of_target named leads)).1

/-- The type of an element has no line feed if the names of it have none. -/
theorem isUnbroken_writtenType {type : Option Link} {many : Bool} {d : Document}
    (named : AreUnbroken (type.elim [] linkNames)) (given : table.writtenType type many = .ok d) : d.IsUnbroken := by
  have base := isUnbroken_nameOfType unbroken named
  unfold TypeTable.writtenType at given
  dsimp only at given
  split at given
  · obtain rfl := Except.ok.inj given
    exact isUnbroken_text nofun
  · split at given
    · obtain ⟨text, listed, rfl⟩ := map_eq_ok.1 given
      exact isUnbroken_text (not_mem_listType base listed)
    · obtain rfl := Except.ok.inj given
      exact base

/-- What an operation returns has no line feed if the names of its type have none. -/
theorem isUnbroken_resultType {o : LinkedOperation} {d : Document} (named : AreUnbroken (o.type.elim [] linkNames))
    (given : table.resultType o = .ok d) : d.IsUnbroken := by
  unfold TypeTable.resultType at given
  split at given
  · obtain rfl := Except.ok.inj given
    exact isUnbroken_text (by decide)
  · exact isUnbroken_writtenType unbroken named given

/-- The types of a member have no line feed if the names of it have none. -/
theorem not_mem_typesOfMember {d : AssociationMember} (named : AreUnbroken (memberNames d)) :
    (∀ type, typeOfMember table d = .ok type → '\n' ∉ type.toList) ∧
      ∀ type, elementType table d = .ok type → '\n' ∉ type.toList := by
  have plain : (table.nameOfTarget d.target).IsUnbroken :=
    isUnbroken_nameOfType unbroken (areUnbroken_cons.1 (areUnbroken_cons.1 named).2).2
  refine ⟨fun type given => ?_, plain⟩
  unfold typeOfMember at given
  split at given
  · exact not_mem_listType plain given
  · exact plain type given

end Types

/-- The standard names have no line feeds. -/
theorem default_isUnbroken : TypeTable.default.IsUnbroken := by
  refine ⟨?_, nofun⟩
  simp only [TypeTable.default, standardPrimitives, List.map_cons, List.map_nil, List.forall_mem_cons]
  exact ⟨isUnbroken_text (by decide), isUnbroken_text (by decide), isUnbroken_text (by decide),
    isUnbroken_text (by decide), nofun⟩

/-! ## Imports -/

/-- Whether what is imported has no line feed. -/
def AreImportsUnbroken (imports : Imports) : Prop := ∀ names, imports = .ok names → ∀ d ∈ names, d.IsUnbroken

/-- Imports in a row have no line feed if neither part has one. -/
theorem AreImportsUnbroken.append {first second : Imports} (unbroken : AreImportsUnbroken first)
    (unbroken' : AreImportsUnbroken second) : AreImportsUnbroken (do return (← first) ++ (← second)) := by
  intro names given
  obtain ⟨front, found, given⟩ := bind_eq_ok.1 given
  obtain ⟨back, found', same⟩ := bind_eq_ok.1 given
  obtain rfl := Except.ok.inj same
  exact List.forall_mem_append.2 ⟨unbroken front found, unbroken' back found'⟩

/-- Imports for items have no line feed if those for each item have none. -/
theorem areImportsUnbroken_each {α : Type} {items : List α} {f : α → Imports}
    (each : ∀ a ∈ items, AreImportsUnbroken (f a)) : AreImportsUnbroken (importsForEach items f) := by
  intro names given
  obtain ⟨lists, all, rfl⟩ := map_eq_ok.1 given
  exact List.forall_mem_flatten.2 (forall_mem_of_mapM all each)

/-- Imports have no line feed if each of them has none. -/
theorem areImportsUnbroken_ok {names : List Document} (each : ∀ d ∈ names, d.IsUnbroken) :
    AreImportsUnbroken (.ok names) := by
  rintro _ ⟨⟩
  exact each

/-- The imports of collections are no names of the model. -/
theorem isUnbroken_collectionImports :
    ∀ d ∈ [listImport, listImplementationImport, collectionsImport], d.IsUnbroken := by
  simp only [List.forall_mem_cons]
  exact ⟨isUnbroken_text (by decide), isUnbroken_text (by decide), isUnbroken_text (by decide), nofun⟩

section Passes

variable (own : String) (unbroken : table.IsUnbroken)
include unbroken

/-- What is imported for a primitive type has no line feed. -/
theorem areImportsUnbroken_primitive (name : String) : AreImportsUnbroken (primitiveImport table name) := by
  intro names given
  obtain ⟨key, -, given⟩ := bind_eq_ok.1 given
  cases found : table.importFor key with
  | none =>
    rw [found] at given
    obtain rfl := Except.ok.inj given
    exact nofun
  | some value =>
    rw [found] at given
    obtain ⟨entry, among, rfl⟩ := exists_mem_of_valueAt? found
    dsimp only at given
    split at given
    · obtain ⟨name, isKey, same⟩ := bind_eq_ok.1 given
      obtain rfl := Except.ok.inj same
      obtain rfl := eq_of_asKey isKey
      exact List.forall_mem_singleton.2 (unbroken.imports entry among)
    · obtain rfl := Except.ok.inj given
      exact nofun

/-- The import of a type has no line feed if its name and those of its packages have none. -/
theorem areImportsUnbroken_target {target : Option Target}
    (named : ∀ t ∈ target, '\n' ∉ t.name.toList ∧ AreUnbroken t.home) :
    AreImportsUnbroken (targetImport table own target) := by
  cases target with
  | none => exact areImportsUnbroken_ok nofun
  | some t =>
    obtain ⟨name, home⟩ := named t rfl
    unfold targetImport
    dsimp only
    split
    · exact areImportsUnbroken_primitive unbroken t.name
    · split
      · exact areImportsUnbroken_ok nofun
      · have qualified : '\n' ∉ (packageName t.home ++ "." ++ t.name).toList :=
          not_mem_append (not_mem_append (not_mem_packageName home) (by decide)) name
        exact areImportsUnbroken_ok (List.forall_mem_singleton.2 (isUnbroken_text qualified))

/-- The imports for an element have no line feed if the names of its type have none. -/
theorem areImportsUnbroken_type {type : Option Link} (many : Bool) (named : AreUnbroken (type.elim [] linkNames)) :
    AreImportsUnbroken (importsFor table own type many) := by
  unfold importsFor
  cases leads : type.bind (·.target) with
  | none => exact areImportsUnbroken_ok nofun
  | some t =>
    refine (areImportsUnbroken_target own unbroken fun t' same => ?_).append (areImportsUnbroken_ok ?_)
    · obtain rfl := Option.some.inj same
      exact areUnbroken_cons.1 (names_of_target named leads)
    · split
      · exact List.forall_mem_singleton.2 (List.forall_mem_cons.1 isUnbroken_collectionImports).1
      · exact nofun

/-- The imports of super types have no line feed if the names of these have none. -/
theorem areImportsUnbroken_supers {links : List Link} (named : AreUnbroken (links.flatMap linkNames)) :
    AreImportsUnbroken (importsOfSupers table own links) := by
  refine areImportsUnbroken_each fun l among => areImportsUnbroken_target own unbroken fun t target => ?_
  have names := areUnbroken_flatMap.1 named l among
  rw [linkNames, target] at names
  exact areUnbroken_cons.1 names

/-- The imports of properties have no line feed if the names of these have none. -/
theorem areImportsUnbroken_properties {properties : List LinkedProperty}
    (named : AreUnbroken (properties.flatMap fun p => elementNames p.name p.type)) :
    AreImportsUnbroken (importsOfProperties table own properties) :=
  areImportsUnbroken_each fun p among =>
    areImportsUnbroken_type own unbroken p.isList (areUnbroken_cons.1 (areUnbroken_flatMap.1 named p among)).2

/-- The imports of members have no line feed if the names of these have none. -/
theorem areImportsUnbroken_members {members : List AssociationMember}
    (named : AreUnbroken (members.flatMap memberNames)) :
    AreImportsUnbroken (importsOfMembers table own members) := by
  refine areImportsUnbroken_each fun d among => ?_
  obtain ⟨-, named⟩ := areUnbroken_cons.1 (areUnbroken_flatMap.1 named d among)
  refine (areImportsUnbroken_target own unbroken fun t leads =>
    areUnbroken_cons.1 (names_of_target (areUnbroken_cons.1 named).2 leads)).append (areImportsUnbroken_ok ?_)
  split
  · exact isUnbroken_collectionImports
  · exact nofun

/-- The imports of operations have no line feed if the names of these have none. -/
theorem areImportsUnbroken_operations {operations : List LinkedOperation}
    (named : AreUnbroken (operations.flatMap operationNames)) :
    AreImportsUnbroken (importsOfOperations table own operations) := by
  refine areImportsUnbroken_each fun o among => ?_
  obtain ⟨result, parameters⟩ := areUnbroken_append.1 (areUnbroken_flatMap.1 named o among)
  refine (areImportsUnbroken_type own unbroken o.isList (areUnbroken_cons.1 result).2).append ?_
  exact areImportsUnbroken_each fun r among' =>
    areImportsUnbroken_type own unbroken r.isList (areUnbroken_cons.1 (areUnbroken_flatMap.1 parameters r among')).2

end Passes

/-! ## Code -/

/-- A line has no line feed if what it is formed of has none. -/
theorem isUnbroken_ofLine {line : Except Misfit String} (each : ∀ text, line = .ok text → '\n' ∉ text.toList) :
    (Code.ofLine line).IsUnbroken := by
  cases line with
  | ok text => exact each text rfl
  | error e => trivial

/-- A block has no line feeds if its header and the code in it have none. -/
theorem isUnbroken_ofBlock {header : Except Misfit String} {body : List Code}
    (each : ∀ text, header = .ok text → '\n' ∉ text.toList) (inside : AreCodesUnbroken body) :
    (Code.ofBlock header body).IsUnbroken := by
  cases header with
  | ok text => exact ⟨each text rfl, inside⟩
  | error e => trivial

/-- A condition has no line feed if the name of its field has none. -/
theorem not_mem_condition {field : String} (named : '\n' ∉ field.toList) (condition : Condition) :
    '\n' ∉ (condition.text field).toList := by
  have own : '\n' ∉ (fieldText field).toList := not_mem_append (by decide) named
  have given : '\n' ∉ "newValue != null".toList := by decide
  cases condition with
  | fieldIsNew => exact not_mem_append own (by decide)
  | fieldGiven => exact not_mem_append own (by decide)
  | newGiven => exact given
  | newMissingOrHeld => exact not_mem_append (not_mem_append (by decide) own) (by decide)
  | oldNotHeld => exact not_mem_append (not_mem_append (by decide) own) (by decide)

mutual

/-- The code of a statement has no line feeds if what it names has none. -/
theorem isUnbroken_code {field : String} (named : '\n' ∉ field.toList) : (s : Statement) →
    s.Names (fun name => '\n' ∉ name.toList) → (s.code field).IsUnbroken
  | .leave, _ => by simp [Statement.code, Code.IsUnbroken]
  | .returnField, _ => by simp [Statement.code, Code.IsUnbroken, fieldText, named]
  | .returnView, _ => by simp [Statement.code, Code.IsUnbroken, fieldText, named]
  | .returnSize, _ => by simp [Statement.code, Code.IsUnbroken, fieldText, named]
  | .keepOld type, plain => by
    have plain : '\n' ∉ type.toList := plain
    simp [Statement.code, Code.IsUnbroken, fieldText, named, plain]
  | .assign value, _ => by simp [Statement.code, Code.IsUnbroken, fieldText, named, not_mem_word]
  | .add, _ => by simp [Statement.code, Code.IsUnbroken, fieldText, named]
  | .remove, _ => by simp [Statement.code, Code.IsUnbroken, fieldText, named]
  | .call receiver call, plain => by
    have plain : '\n' ∉ call.method.toList := plain
    have passed : '\n' ∉ (if call.passesSelf then Operand.self.word else Operand.null.word).toList := by
      split <;> exact not_mem_word _
    simp [Statement.code, Code.IsUnbroken, callText, not_mem_word, plain, passed]
  | .when condition body, plain => by
    rw [Statement.Names] at plain
    rw [Statement.code, Code.IsUnbroken]
    exact ⟨not_mem_append (not_mem_append (by decide) (not_mem_condition named condition)) (by decide),
      areUnbroken_statementCodes named body plain⟩

/-- The code of statements has no line feeds if what they name has none. -/
theorem areUnbroken_statementCodes {field : String} (named : '\n' ∉ field.toList) : (body : List Statement) →
    NameAll (fun name => '\n' ∉ name.toList) body → AreCodesUnbroken (statementCodes field body)
  | [], _ => trivial
  | s :: rest, plain => ⟨isUnbroken_code named s plain.1, areUnbroken_statementCodes named rest plain.2⟩

end

/-- Whether the name of an accessor, the types in its header and what its statements name have no line feed. -/
structure Accessor.IsUnbroken (a : Accessor) : Prop where
  returns : '\n' ∉ a.returns.toList
  name : '\n' ∉ a.name.toList
  parameter : ∀ p ∈ a.parameter, '\n' ∉ p.1.toList
  body : NameAll (fun name => '\n' ∉ name.toList) a.body

/-- The code of an accessor has no line feeds if its types and its names have none. -/
theorem Accessor.areUnbroken_code {a : Accessor} {field : String} (named : '\n' ∉ field.toList)
    (unbroken : a.IsUnbroken) : AreCodesUnbroken (a.code field) := by
  obtain ⟨returned, called, parameter, body⟩ := a
  obtain ⟨returns, name, typed, names⟩ := unbroken
  have inside := areUnbroken_statementCodes named body names
  refine ⟨trivial, ⟨?_, inside⟩, trivial⟩
  cases parameter with
  | none => simpa [Accessor.header] using ⟨returns, name⟩
  | some p => simpa [Accessor.header, not_mem_word] using ⟨returns, name, typed p rfl⟩

section Code

variable (unbroken : table.IsUnbroken)
include unbroken

/-- The field of a property has no line feed if its names have none. -/
theorem isUnbroken_propertyField {p : LinkedProperty} (named : AreUnbroken (elementNames p.name p.type)) :
    (propertyField table p).IsUnbroken := by
  obtain ⟨name, type⟩ := areUnbroken_cons.1 named
  refine isUnbroken_ofLine fun text formed => ?_
  obtain ⟨d, typed, formed⟩ := bind_eq_ok.1 formed
  obtain ⟨words, joined, same⟩ := bind_eq_ok.1 formed
  obtain rfl := Except.ok.inj same
  have plain : '\n' ∉ words.toList := by
    refine not_mem_joinWords ?_ joined
    simp only [List.forall_mem_cons]
    exact ⟨isUnbroken_text (by decide), isUnbroken_text (not_mem_staticWord _),
      isUnbroken_writtenType unbroken type typed, isUnbroken_text name, nofun⟩
  exact not_mem_append (not_mem_append plain (not_mem_initialValue _)) (by decide)

/-- The field of a member has no line feed if its names have none. -/
theorem isUnbroken_memberField {d : AssociationMember} (named : AreUnbroken (memberNames d)) :
    (memberField table d).IsUnbroken := by
  have types := not_mem_typesOfMember unbroken named
  obtain ⟨-, named⟩ := areUnbroken_cons.1 named
  obtain ⟨name, -⟩ := areUnbroken_cons.1 named
  refine isUnbroken_ofLine fun text formed => ?_
  obtain ⟨type, typed, same⟩ := bind_eq_ok.1 formed
  obtain rfl := Except.ok.inj same
  simp [types.1 type typed, name, not_mem_initialValue]

/-- The accessors of a property have no line feeds if its names and that of the class have none. -/
theorem areUnbroken_propertyAccessors {owner : String} {p : LinkedProperty} (owned : '\n' ∉ owner.toList)
    (named : AreUnbroken (elementNames p.name p.type)) : AreCodesUnbroken (propertyAccessors table owner p) := by
  obtain ⟨name, type⟩ := areUnbroken_cons.1 named
  have holder : '\n' ∉ (if p.isStatic then owner else "this").toList := by
    split
    · exact owned
    · decide
  -- Both headers begin with the modifiers, what is returned and the name of the accessor.
  have words {returns : Document} {kind : AccessorKind} {text : String} (plain : returns.IsUnbroken)
      (joined : joinWords [.text (visibilityWord (p.visibility.getD .publicAccess)), .text (staticWord p.isStatic),
        returns, .text (kind.method p.name)] = .ok text) : '\n' ∉ text.toList := by
    refine not_mem_joinWords ?_ joined
    simp only [List.forall_mem_cons]
    exact ⟨isUnbroken_text (not_mem_visibilityWord _), isUnbroken_text (not_mem_staticWord _), plain,
      isUnbroken_text (not_mem_accessor name kind), nofun⟩
  refine ⟨trivial, isUnbroken_ofBlock (fun text formed => ?_) ⟨?_, trivial⟩, trivial,
    isUnbroken_ofBlock (fun text formed => ?_) ⟨?_, trivial⟩, trivial⟩
  · obtain ⟨d, typed, formed⟩ := bind_eq_ok.1 formed
    obtain ⟨front, joined, same⟩ := bind_eq_ok.1 formed
    obtain rfl := Except.ok.inj same
    exact not_mem_append (words (isUnbroken_writtenType unbroken type typed) joined) (by decide)
  · exact not_mem_append (not_mem_append (not_mem_append (not_mem_append (by decide) holder) (by decide)) name)
      (by decide)
  · obtain ⟨front, joined, formed⟩ := bind_eq_ok.1 formed
    obtain ⟨d, typed, formed⟩ := bind_eq_ok.1 formed
    obtain ⟨parameter, written, same⟩ := bind_eq_ok.1 formed
    obtain rfl := Except.ok.inj same
    have plain := words (isUnbroken_text (by decide)) joined
    have plain' := isUnbroken_writtenType unbroken type typed parameter written
    simp [plain, plain', name]
  · simp [Code.IsUnbroken, holder, name]

/-- The accessors of a member have no line feed if the names of its ends and of the type of its values have none. -/
theorem areUnbroken_accessorCode {d : AssociationMember} (named : AreUnbroken (memberNames d)) :
    AreCodesUnbroken (accessorCode table d) := by
  have types := not_mem_typesOfMember unbroken named
  obtain ⟨near, named⟩ := areUnbroken_cons.1 named
  obtain ⟨name, -⟩ := areUnbroken_cons.1 named
  have method := not_mem_accessor name
  have calls := not_mem_accessor near
  unfold accessorCode
  cases emitted : memberAccessors table d with
  | error e => exact ⟨trivial, trivial⟩
  | ok accessors =>
    obtain ⟨type, typed, given⟩ := bind_eq_ok.1 emitted
    obtain ⟨element, typed', same⟩ := bind_eq_ok.1 given
    obtain rfl := Except.ok.inj same
    have plain : '\n' ∉ type.toList := types.1 type typed
    have plain' : '\n' ∉ element.toList := types.2 element typed'
    have number : '\n' ∉ "int".toList := by decide
    have nothing : '\n' ∉ voidType.toList := by decide
    refine areCodesUnbroken_flatMap.2 fun a among => Accessor.areUnbroken_code name ?_
    split at among
    · simp only [collectionAccessors, List.mem_cons, List.not_mem_nil, or_false] at among
      rcases among with rfl | rfl | rfl | rfl
      · exact ⟨plain, method .get, by simp, trivial, trivial⟩
      · exact ⟨number, method .sizeOf, by simp, trivial, trivial⟩
      · exact ⟨nothing, method .addTo, by simpa using plain', nameAll_adderBody calls⟩
      · exact ⟨nothing, method .removeFrom, by simpa using plain', nameAll_removerBody calls⟩
    · simp only [singleAccessors, List.mem_cons, List.not_mem_nil, or_false] at among
      rcases among with rfl | rfl
      · exact ⟨plain, method .get, by simp, trivial, trivial⟩
      · exact ⟨nothing, method .set, by simpa using plain, nameAll_setterBody calls fun _ => plain⟩

/-- The head of an operation has no line feed if its names have none. -/
theorem not_mem_operationHead {o : LinkedOperation} {text : String} (named : AreUnbroken (operationNames o))
    (formed : operationHead table o = .ok text) : '\n' ∉ text.toList := by
  obtain ⟨own, ofParameters⟩ := areUnbroken_append.1 named
  obtain ⟨name, type⟩ := areUnbroken_cons.1 own
  obtain ⟨parameters, listed, formed⟩ := bind_eq_ok.1 formed
  obtain ⟨d, typed, formed⟩ := bind_eq_ok.1 formed
  obtain ⟨result, written, same⟩ := bind_eq_ok.1 formed
  obtain rfl := Except.ok.inj same
  have plain : '\n' ∉ result.toList := isUnbroken_resultType unbroken type typed result written
  have plain' : '\n' ∉ parameters.toList := by
    obtain ⟨texts, all, same⟩ := bind_eq_ok.1 listed
    obtain rfl := Except.ok.inj same
    refine not_mem_intercalate (by decide) (forall_mem_of_mapM all fun part among text given => ?_)
    obtain ⟨r, there, rfl⟩ := List.mem_map.1 among
    obtain ⟨name, type⟩ := areUnbroken_cons.1 (areUnbroken_flatMap.1 ofParameters r there)
    obtain ⟨d, typed, given⟩ := bind_eq_ok.1 given
    obtain ⟨word, written, same⟩ := bind_eq_ok.1 given
    obtain rfl := Except.ok.inj same
    have front : '\n' ∉ word.toList := isUnbroken_writtenType unbroken type typed word written
    exact not_mem_append (not_mem_append front (by decide)) name
  simp [plain, plain', name]

/-- An operation of a class has no line feeds if its names have none. -/
theorem areUnbroken_classOperation {o : LinkedOperation} (named : AreUnbroken (operationNames o)) :
    AreCodesUnbroken (classOperation table o) := by
  have visibility : '\n' ∉ ((o.visibility.map visibilityWord).getD "").toList := by
    cases o.visibility with
    | none => exact nofun
    | some v => exact not_mem_visibilityWord v
  have header {word text : String} (plain : '\n' ∉ word.toList)
      (formed : (do joinWords [.text ((o.visibility.map visibilityWord).getD ""), .text word,
        .text (← operationHead table o)]) = .ok text) : '\n' ∉ text.toList := by
    obtain ⟨head, formed, joined⟩ := bind_eq_ok.1 formed
    refine not_mem_joinWords ?_ joined
    simp only [List.forall_mem_cons]
    exact ⟨isUnbroken_text visibility, isUnbroken_text plain,
      isUnbroken_text (not_mem_operationHead unbroken named formed), nofun⟩
  have abstractly : '\n' ∉ "abstract".toList := by decide
  have thrown : '\n' ∉ "throw new UnsupportedOperationException();".toList := by decide
  have tagged : (operationComment o).IsUnbroken := by
    refine List.forall_mem_singleton.2 ?_
    split <;> decide
  have body : AreCodesUnbroken (operationBody o) := by
    unfold operationBody
    split
    · exact ⟨trivial, trivial⟩
    · exact ⟨thrown, trivial⟩
  refine ⟨trivial, tagged, ?_, trivial⟩
  split
  · refine isUnbroken_ofLine fun text formed => ?_
    obtain ⟨words, joined, rfl⟩ := map_eq_ok.1 formed
    exact not_mem_append (header abstractly joined) (by decide)
  · exact isUnbroken_ofBlock (fun text formed => header (not_mem_staticWord _) formed) body

end Code

/-! ## Units -/

/-- The header of a class has no line feed if its name and those of its super types have none. -/
theorem not_mem_classHeader {t : LinkedType} {c : ClassBody Place Link} {text : String} (name : '\n' ∉ t.name.toList)
    (superClasses : AreUnbroken (c.superClasses.flatMap linkNames))
    (superInterfaces : AreUnbroken (c.superInterfaces.flatMap linkNames)) (formed : classHeader t c = .ok text) :
    '\n' ∉ text.toList := by
  obtain ⟨words, joined, same⟩ := bind_eq_ok.1 formed
  obtain rfl := Except.ok.inj same
  have plain : '\n' ∉ words.toList := by
    refine not_mem_joinWords ?_ joined
    simp only [List.forall_mem_cons]
    refine ⟨isUnbroken_text (by decide), isUnbroken_text ?_, isUnbroken_text (by decide), isUnbroken_text name, nofun⟩
    split <;> decide
  exact not_mem_append (not_mem_append plain (not_mem_clause (by decide) superClasses))
    (not_mem_clause (by decide) superInterfaces)

/-- The code of a class has no line feed if none of its names has one. -/
theorem isUnbroken_classCode {t : LinkedType} {c : ClassBody Place Link} {members : List AssociationMember}
    (unbroken : table.IsUnbroken) (named : AreUnbroken (classNames t c members)) :
    AreCodesUnbroken (classCode table t c members) := by
  simp only [classNames, areUnbroken_append, areUnbroken_cons, areUnbroken_flatMap, and_assoc, List.cons_append] at named
  obtain ⟨name, -, -, -, properties, ofMembers, operations⟩ := named
  have gap : AreCodesUnbroken [.blank] := ⟨trivial, trivial⟩
  have each {α : Type} {items : List α} {code : α → Code} (unbroken : ∀ a ∈ items, (code a).IsUnbroken) :
      AreCodesUnbroken (items.map code) := areCodesUnbroken_iff.2 (List.forall_mem_map.2 unbroken)
  simp only [classCode, areCodesUnbroken_append, areCodesUnbroken_flatMap]
  exact ⟨⟨⟨⟨⟨⟨each fun p among => isUnbroken_propertyField unbroken (properties p among), gap⟩,
    each fun d among => isUnbroken_memberField unbroken (ofMembers d among)⟩, gap⟩,
    fun p among => areUnbroken_propertyAccessors unbroken name (properties p among)⟩,
    fun d among => areUnbroken_accessorCode unbroken (ofMembers d among)⟩,
    fun o among => areUnbroken_classOperation unbroken (operations o among)⟩

/-- The imports of a class have no line feed if none of its names has one. -/
theorem areImportsUnbroken_class {t : LinkedType} {c : ClassBody Place Link} {members : List AssociationMember}
    (unbroken : table.IsUnbroken) (named : AreUnbroken (classNames t c members)) :
    AreImportsUnbroken (classUnit table t c members).imports := by
  rw [classNames, areUnbroken_append, areUnbroken_append, areUnbroken_append, areUnbroken_append,
    areUnbroken_append] at named
  obtain ⟨⟨⟨⟨⟨-, superClasses⟩, superInterfaces⟩, properties⟩, ofMembers⟩, operations⟩ := named
  intro names given
  obtain ⟨first, found, given⟩ := bind_eq_ok.1 given
  obtain ⟨second, found', given⟩ := bind_eq_ok.1 given
  obtain ⟨third, found'', given⟩ := bind_eq_ok.1 given
  obtain ⟨fourth, brought, given⟩ := bind_eq_ok.1 given
  obtain ⟨last, brought', same⟩ := bind_eq_ok.1 given
  obtain rfl := Except.ok.inj same
  simp only [List.forall_mem_append]
  refine ⟨⟨⟨⟨⟨areImportsUnbroken_supers _ unbroken superClasses first found,
    areImportsUnbroken_supers _ unbroken superInterfaces second found'⟩,
    areImportsUnbroken_properties _ unbroken properties third found''⟩, ?_⟩,
    areImportsUnbroken_members _ unbroken ofMembers fourth brought⟩,
    areImportsUnbroken_operations _ unbroken operations last brought'⟩
  unfold fieldImports
  split
  · exact List.forall_mem_singleton.2 (List.forall_mem_cons.1 (List.forall_mem_cons.1 isUnbroken_collectionImports).2).1
  · exact nofun

/-- Only the name itself is added to names. -/
theorem mem_of_addName {names names' : List Document} {name : Document} (added : addName names name = .ok names') :
    ∀ d ∈ names', d ∈ names ∨ d = name := by
  obtain ⟨key, isKey, same⟩ := bind_eq_ok.1 added
  obtain rfl := Except.ok.inj same
  obtain rfl := eq_of_asKey isKey
  split
  · exact fun d => Or.inl
  · exact fun d there => (List.mem_append.1 there).imp_right List.mem_singleton.1

/-- Names that are put in order are among those that were given. -/
theorem mem_of_sortedNames {names sorted : List Document} (ordered : sortedNames names = .ok sorted) :
    ∀ d ∈ sorted, d ∈ names := by
  obtain ⟨once, added, ordered⟩ := bind_eq_ok.1 ordered
  have each : ∀ rest seen : List Document, rest.foldlM addName seen = .ok once → (∀ d ∈ seen ++ rest, d ∈ names) →
      ∀ d ∈ once, d ∈ names := by
    intro rest
    induction rest with
    | nil =>
      intro seen same among
      obtain rfl := Except.ok.inj same
      exact (List.forall_mem_append.1 among).1
    | cons name rest ih =>
      intro seen given among
      rw [List.foldlM_cons] at given
      obtain ⟨seen', added, given⟩ := bind_eq_ok.1 given
      rw [List.forall_mem_append, List.forall_mem_cons] at among
      refine ih seen' given (List.forall_mem_append.2 ⟨fun d there => ?_, among.2.2⟩)
      rcases mem_of_addName added d there with earlier | rfl
      · exact among.1 d earlier
      · exact among.2.1
  have whole : ∀ d ∈ once, d ∈ names := each names [] added fun d there => there
  exact fun d there => whole d (Sorting.mem_of_sort ordered d there)

/-- The lines of a unit have no line feed if its package, its imports and its code have none. -/
theorem areUnbroken_unit {u : CompilationUnit} {indent : Indent} {text : String} {page : Page}
    (apart : '\n' ∉ indent.margin.toList) (package : '\n' ∉ u.package.toList) (imports : AreImportsUnbroken u.imports)
    (code : AreCodesUnbroken u.code) (written : u.text indent = .ok text) (started : u.write indent = .ok page) :
    AreUnbroken page.lines.inOrder := by
  obtain ⟨page', names, sorted, texts, started', -, -, collected, ordered, read, all⟩ :=
    CompilationUnit.exists_write written
  obtain rfl : page' = page := Except.ok.inj (started'.symm.trans started)
  refine areUnbroken_of_full ?_
  have front : AreUnbroken (packageLines u.package) := by
    unfold packageLines
    split
    · exact nofun
    · exact List.forall_mem_singleton.2 (not_mem_append (not_mem_append (by decide) package) (by decide))
  have brought : AreUnbroken texts := forall_mem_of_mapM read fun d there text given =>
    imports names collected d (mem_of_sortedNames ordered d there) text given
  have lines : AreUnbroken (texts.map importLine) :=
    List.forall_mem_map.2 fun name there => not_mem_append (not_mem_append (by decide) (brought name there)) (by decide)
  have same : full page'.lines.inOrder = page'.fullLines := rfl
  rw [same, all, areUnbroken_append, areUnbroken_append]
  exact ⟨⟨front, lines⟩, areUnbroken_codeLines apart 0 u.code code⟩

/-- The lines of a class have no line feed if none of its names has one. -/
theorem areUnbroken_classUnit {s : Settings} {t : LinkedType} {c : ClassBody Place Link}
    {members : List AssociationMember} {text : String} {page : Page} (apart : '\n' ∉ s.indent.margin.toList)
    (unbroken : s.table.IsUnbroken) (named : AreUnbroken (classNames t c members))
    (written : (classUnit s.table t c members).text s.indent = .ok text)
    (started : (classUnit s.table t c members).write s.indent = .ok page) : AreUnbroken page.lines.inOrder := by
  have code := isUnbroken_classCode unbroken named
  have imports := areImportsUnbroken_class unbroken named
  simp only [classNames, areUnbroken_append, areUnbroken_cons, and_assoc, List.cons_append] at named
  obtain ⟨name, home, superClasses, superInterfaces, -⟩ := named
  refine areUnbroken_unit apart (not_mem_packageName home) imports ⟨?_, trivial⟩ written started
  exact isUnbroken_ofBlock (fun text formed => not_mem_classHeader name superClasses superInterfaces formed) code

end Java

end ClassDiagram
