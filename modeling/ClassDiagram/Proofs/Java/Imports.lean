import ClassDiagram.Draft.Edit
import ClassDiagram.Draft.View
import ClassDiagram.Proofs.Document.Order
import ClassDiagram.Proofs.Java.Lines
import ClassDiagram.Proofs.Java.Parts
import Mathlib.Data.String.Basic

/-!
# Imports

The imports of a unit are collected before its code is written, by a pass over the declarations that knows nothing of
the code.  Each step of the pass brings some names (`Brings`), and each piece of the code needs some (`Needs`); taken
together they are the same names, but for one case (`brings_unit`): an element with many values whose type has an
empty name is not written as a list, and lists are imported all the same.  The page puts the names in order, each
once (`sortedNames_texts`).
-/

set_option autoImplicit false

namespace ClassDiagram.Java

/-! ## Names in order -/

/-- Two texts are the same key exactly if they are equal. -/
theorem sameKey_text (a b : String) : (Document.text a).sameKey (.text b) = (a == b) := by
  rw [Document.sameKey.eq_def]
  simp only [Document.asInt?]
  change Document.isAlike _ _ = _
  rw [Document.isAlike.eq_def]

/-- Names that are texts are added each once. -/
theorem addNames_texts (names seen : List String) (distinct : seen.Nodup) :
    ∃ all : List String, (names.map Document.text).foldlM addName (seen.map .text) = .ok (all.map .text) ∧
      all.Nodup ∧ ∀ n, n ∈ all ↔ n ∈ seen ∨ n ∈ names := by
  induction names generalizing seen with
  | nil => exact ⟨seen, rfl, distinct, by simp⟩
  | cons name rest ih =>
    have held : (seen.map Document.text).any (·.sameKey (.text name)) = seen.contains name := by
      rw [List.any_map, List.contains_eq_any_beq]
      exact congrArg seen.any (funext fun n => (sameKey_text n name).trans (Bool.beq_comm ..))
    have step : addName (seen.map .text) (.text name) =
        .ok ((if seen.contains name then seen else seen ++ [name]).map .text) := by
      rw [← held]
      change Except.ok _ = _
      split <;> simp
    rw [List.map_cons, List.foldlM_cons, step]
    cases among : seen.contains name with
    | true =>
      obtain ⟨all, same, distinct, mem⟩ := ih seen distinct
      refine ⟨all, same, distinct, fun n => ?_⟩
      have : name ∈ seen := by simpa using among
      rw [mem, List.mem_cons]
      grind
    | false =>
      have fresh : name ∉ seen := by simpa using among
      obtain ⟨all, same, distinct, mem⟩ := ih (seen ++ [name]) (by grind)
      refine ⟨all, same, distinct, fun n => ?_⟩
      rw [mem, List.mem_append, List.mem_singleton, List.mem_cons, or_assoc]

/-- Names that are texts are put in order, each once. -/
theorem sortedNames_texts (names : List String) :
    ∃ sorted : List String, sortedNames (names.map .text) = .ok (sorted.map .text) ∧ sorted.Pairwise (· < ·) ∧
      ∀ n, n ∈ sorted ↔ n ∈ names := by
  obtain ⟨all, added, distinct, mem⟩ := addNames_texts names [] .nil
  have orders (x y : String) : Document.isBelow (.text x) (.text y) = .ok (decide (x < y)) := rfl
  obtain ⟨sorted, done, inOrder, perm⟩ := Sorting.sort_map orders all
  refine ⟨sorted, ?_, ?_, fun n => ?_⟩
  · rw [sortedNames]
    exact bind_eq_ok.2 ⟨_, added, done⟩
  · have apart : sorted.Nodup := perm.nodup_iff.2 distinct
    exact (inOrder.and apart).imp fun both => both.1.lt_of_ne both.2
  · rw [perm.mem_iff, mem]
    simp

/-- Texts stand in lines as they are. -/
theorem mapM_lineText (names : List String) : (names.map Document.text).mapM lineText = .ok names := by
  have each (name : String) : (lineText ∘ Document.text) name = .ok (id name) := rfl
  rw [List.mapM_map, mapM_eq_map each, List.map_id]

/-! ## What parts need -/

/-- The import of a type that code names in the package `own`. -/
def typeImport (table : TypeTable) (own : String) (t : Target) : Option String :=
  if t.kind = .primitive then
    match table.importFor (.text (typeWord table t)) with
    | some (.text name) => some name
    | _ => none
  else if packageName t.home = "" ∨ packageName t.home = own then none
  else some (packageName t.home ++ "." ++ t.name)

/-- The import of a part in the package `own`. -/
def Part.import? (table : TypeTable) (own : String) : Part → Option String
  | .text _ => none
  | .type t => typeImport table own t
  | .superType t => typeImport table own t
  | .list => some "java.util.List"
  | .arrayList => some "java.util.ArrayList"
  | .collections => some "java.util.Collections"

/-- Whether some of the parts has an import. -/
def Needs (table : TypeTable) (own : String) (parts : List Part) (n : String) : Prop :=
  ∃ part ∈ parts, part.import? table own = some n

instance (table : TypeTable) (own : String) (parts : List Part) (n : String) : Decidable (Needs table own parts n) :=
  inferInstanceAs (Decidable (∃ part ∈ parts, part.import? table own = some n))

/-- The type of an element, and whether it has many values. -/
abbrev Typing := Option Link × Bool

/-- Whether an element has a type with an empty name but many values; it is not written as a list. -/
def IsUnlisted (table : TypeTable) (e : Typing) : Prop :=
  e.2 ∧ ∃ t, e.1.bind (·.target) = some t ∧ typeWord table t = ""

instance (table : TypeTable) (e : Typing) : Decidable (IsUnlisted table e) :=
  inferInstanceAs (Decidable (e.2 ∧ ∃ t ∈ e.1.bind (·.target), typeWord table t = ""))

/-- Whether some of the elements is not written as a list although it has many values. -/
def HasUnlisted (table : TypeTable) (elements : List Typing) : Prop := ∃ e ∈ elements, IsUnlisted table e

instance (table : TypeTable) (elements : List Typing) : Decidable (HasUnlisted table elements) :=
  inferInstanceAs (Decidable (∃ e ∈ elements, IsUnlisted table e))

/-- Elements in a row have an unlisted one if either part has. -/
theorem hasUnlisted_append {table : TypeTable} (first second : List Typing) :
    HasUnlisted table (first ++ second) ↔ HasUnlisted table first ∨ HasUnlisted table second := by
  simp only [HasUnlisted, List.mem_append, or_and_right, exists_or]

/-- Whether the type of some of the elements, as it is written, has an import. -/
def NeedsTypes (table : TypeTable) (own : String) (elements : List Typing) (n : String) : Prop :=
  ∃ e ∈ elements, Needs table own (writtenParts table e.1 e.2) n

/-- The elements of properties. -/
def typingsOfProperties (properties : List LinkedProperty) : List Typing :=
  properties.map fun p => (p.type, p.isList)

/-- The elements of an operation: what it returns and its parameters. -/
def typingsOfOperation (o : LinkedOperation) : List Typing :=
  (o.type, o.isList) :: o.parameters.map fun r => (r.type, r.isList)

/-- The elements of a type. -/
def typings (t : LinkedType) : List Typing :=
  typingsOfProperties t.properties ++ t.operations.flatMap typingsOfOperation

section Needs

variable {table : TypeTable} {own n : String}

/-- No parts need no import. -/
@[simp] theorem not_needs_nil : ¬ Needs table own [] n := by simp [Needs]

/-- Parts need what the first of them imports and what the others need. -/
@[simp] theorem needs_cons (part : Part) (rest : List Part) :
    Needs table own (part :: rest) n ↔ part.import? table own = some n ∨ Needs table own rest n := by
  simp [Needs]

/-- Parts in a row need what either of them needs. -/
@[simp] theorem needs_append (first second : List Part) :
    Needs table own (first ++ second) n ↔ Needs table own first n ∨ Needs table own second n := by
  simp [Needs, or_and_right, exists_or]

/-- A text is not imported. -/
@[simp] theorem import?_text (text : String) : (Part.text text).import? table own = none := rfl

/-- Words with spaces between them need what the words need. -/
@[simp] theorem needs_spaced (words : List (List Part)) :
    Needs table own (spaced table words) n ↔ ∃ word ∈ words, Needs table own word n := by
  induction words with
  | nil => simp [spaced]
  | cons word rest ih =>
    rw [spaced]
    split <;> simp [ih]

/-- Items with commas between them need what the items need. -/
@[simp] theorem needs_listed (items : List (List Part)) :
    Needs table own (listed items) n ↔ ∃ item ∈ items, Needs table own item n := by
  induction items with
  | nil => simp [listed]
  | cons item rest ih =>
    cases rest with
    | nil => simp [listed]
    | cons second rest => simp [listed, ih]

/-- Pieces of code need what the parts of each of them need. -/
@[simp] theorem needs_partsOf (pieces : List Marked) :
    Needs table own (partsOf pieces) n ↔ ∃ piece ∈ pieces, Needs table own piece.parts n := by
  rw [partsOf_eq]
  simp only [Needs, List.mem_flatMap]
  grind

/-- Pieces of code in a row need what either of them needs. -/
theorem needs_pieces_append (first second : List Marked) :
    Needs table own (partsOf (first ++ second)) n ↔
      Needs table own (partsOf first) n ∨ Needs table own (partsOf second) n := by
  rw [partsOf_eq, partsOf_eq, partsOf_eq, List.flatMap_append, needs_append]

/-- Pieces of code for items need what the piece of each item needs. -/
theorem needs_pieces_map {α : Type} (f : α → Marked) (items : List α) :
    Needs table own (partsOf (items.map f)) n ↔ ∃ a ∈ items, Needs table own (f a).parts n := by
  simp

/-- Code for items needs what the code of each item needs. -/
theorem needs_pieces_flatMap {α : Type} (f : α → List Marked) (items : List α) :
    Needs table own (partsOf (items.flatMap f)) n ↔ ∃ a ∈ items, Needs table own (partsOf (f a)) n := by
  simp only [needs_partsOf, List.mem_flatMap]
  grind

/-- A list of something needs lists and what its elements need. -/
@[simp] theorem needs_listParts (element : List Part) :
    Needs table own (listParts element) n ↔ n = "java.util.List" ∨ Needs table own element n := by
  simp [listParts, Part.import?, eq_comm]

/-- A type needs its import. -/
theorem needs_typeParts (target : Option Target) :
    Needs table own (typeParts target) n ↔ ∃ t, target = some t ∧ typeImport table own t = some n := by
  cases target <;> simp [typeParts, Part.import?]

/-- A type as it is written needs its import, and lists if it is one or should be. -/
theorem needs_writtenParts (type : Option Link) (many : Bool) :
    Needs table own (writtenParts table type many) n ∨ (IsUnlisted table (type, many) ∧ n = "java.util.List") ↔
      Needs table own (typeParts (type.bind (·.target))) n ∨
        (many ∧ (type.bind (·.target)).isSome) ∧ n = "java.util.List" := by
  unfold writtenParts IsUnlisted
  cases type.bind (·.target) with
  | none => simp [typeParts]
  | some t =>
    cases many with
    | false => simp [typeParts]
    | true =>
      by_cases named : typeWord table t = "" <;> simp [typeParts, Part.word, named]
      tauto

end Needs

/-! ## What is collected -/

/-- Whether some imports are exactly the texts with a property. -/
def Brings (imports : Imports) (P : String → Prop) : Prop :=
  ∃ names : List String, imports = .ok (names.map .text) ∧ ∀ n, n ∈ names ↔ P n

namespace Brings

variable {x y : Imports} {P Q : String → Prop}

/-- Imports bring names with a property if they bring those with one that is the same. -/
theorem congr (brings : Brings x P) (same : ∀ n, P n ↔ Q n) : Brings x Q := by
  obtain ⟨names, given, mem⟩ := brings
  exact ⟨names, given, fun n => (mem n).trans (same n)⟩

/-- Imports in a row bring what either of them brings. -/
theorem append (first : Brings x P) (second : Brings y Q) :
    Brings (do return (← x) ++ (← y)) fun n => P n ∨ Q n := by
  obtain ⟨names, rfl, mem⟩ := first
  obtain ⟨others, rfl, mem'⟩ := second
  exact ⟨names ++ others, congrArg Except.ok (List.map_append ..).symm, fun n => by rw [List.mem_append, mem, mem']⟩

/-- Names that are imported besides, under a condition. -/
theorem appendIf (brings : Brings x P) (condition : Prop) [Decidable condition] (names : List String) :
    Brings (do return (← x) ++ if condition then names.map .text else []) fun n => P n ∨ (condition ∧ n ∈ names) := by
  obtain ⟨found, rfl, mem⟩ := brings
  refine ⟨found ++ if condition then names else [], ?_, fun n => ?_⟩
  · change Except.ok _ = _
    split <;> simp
  · rw [List.mem_append, mem]
    split <;> simp [*]

/-- Imports for items bring what those for each item bring. -/
theorem each {α : Type} {items : List α} {f : α → Imports} {R : α → String → Prop}
    (brings : ∀ a ∈ items, Brings (f a) (R a)) : Brings (importsForEach items f) fun n => ∃ a ∈ items, R a n := by
  induction items with
  | nil => exact ⟨[], rfl, by simp⟩
  | cons a rest ih =>
    rw [List.forall_mem_cons] at brings
    obtain ⟨names, given, mem⟩ := brings.1
    obtain ⟨others, later, mem'⟩ := ih brings.2
    refine ⟨names ++ others, ?_, fun n => by rw [List.mem_append, mem, mem']; simp⟩
    obtain ⟨lists, all, flat⟩ := map_eq_ok.1 later
    rw [importsForEach, List.mapM_cons, given, all]
    change Except.ok _ = _
    rw [List.flatten_cons, flat, List.map_append]

end Brings

section Passes

variable {table : TypeTable} (own : String) (textual : table.IsTextual)
include textual

/-- The import of a type brings what the type needs. -/
theorem brings_targetImport (target : Option Target) :
    Brings (targetImport table own target) (Needs table own (typeParts target)) := by
  cases target with
  | none => exact ⟨[], rfl, by simp [typeParts]⟩
  | some t =>
    suffices given : targetImport table own (some t) = .ok ((typeImport table own t).toList.map .text) from
      ⟨_, given, fun n => by simp [typeParts, Part.import?, Option.mem_toList]⟩
    unfold targetImport typeImport
    by_cases primitive : t.kind = .primitive
    · have word : table.nameFor (.text t.name) = .text (typeWord table t) := by
        have named := nameOfTarget_eq textual (some t)
        simpa [TypeTable.nameOfTarget, primitive, typeParts, Part.word] using named
      have key : (Document.text (typeWord table t)).asKey = .ok (.text (typeWord table t)) := rfl
      simp only [primitive, beq_self_eq_true, if_true]
      rw [primitiveImport, word, key]
      refine bind_eq_ok.2 ⟨_, rfl, ?_⟩
      cases found : table.importFor (.text (typeWord table t)) with
      | none => rfl
      | some value =>
        obtain ⟨entry, among, rfl⟩ := exists_mem_of_valueAt? found
        obtain ⟨text, same, given⟩ := textual.imports entry among
        rw [same]
        simp [Document.isGiven, given]
        rfl
    · simp [primitive]
      split <;> rfl

/-- The imports for an element bring what its type needs as it is written, and lists where it is not listed. -/
theorem brings_importsFor (type : Option Link) (many : Bool) :
    Brings (importsFor table own type many) fun n =>
      Needs table own (writtenParts table type many) n ∨ (IsUnlisted table (type, many) ∧ n = "java.util.List") := by
  refine Brings.congr ?_ fun n => (needs_writtenParts type many).symm
  unfold importsFor
  cases type.bind (·.target) with
  | none => exact ⟨[], rfl, by simp [typeParts]⟩
  | some t =>
    refine ((brings_targetImport own textual (some t)).appendIf (many = true) ["java.util.List"]).congr fun n => ?_
    simp

/-- The imports of super types bring what their names need. -/
theorem brings_importsOfSupers (links : List Link) :
    Brings (importsOfSupers table own links) fun n => ∃ names ∈ superParts links, Needs table own names n := by
  refine (Brings.each fun l _ => brings_targetImport own textual l.target).congr fun n => ?_
  simp only [superParts, needs_typeParts, List.mem_filterMap, Option.map_eq_some_iff]
  constructor
  · rintro ⟨l, among, t, found, given⟩
    exact ⟨_, ⟨l, among, t, found, rfl⟩, by simpa [Part.import?] using given⟩
  · rintro ⟨_, ⟨l, among, t, found, rfl⟩, given⟩
    exact ⟨l, among, t, found, by simpa [Part.import?] using given⟩

omit textual in
/-- Imports for items with elements bring what the types of these need. -/
theorem Brings.typings {α : Type} {items : List α} {f : α → Imports} {elements : α → List Typing}
    (brings : ∀ a ∈ items, Brings (f a) fun n =>
      NeedsTypes table own (elements a) n ∨ (HasUnlisted table (elements a) ∧ n = "java.util.List")) :
    Brings (importsForEach items f) fun n => NeedsTypes table own (items.flatMap elements) n ∨
      (HasUnlisted table (items.flatMap elements) ∧ n = "java.util.List") := by
  refine (Brings.each brings).congr fun n => ?_
  simp only [NeedsTypes, HasUnlisted, List.mem_flatMap]
  grind

/-- The imports of properties bring what their types need. -/
theorem brings_importsOfProperties (properties : List LinkedProperty) :
    Brings (importsOfProperties table own properties) fun n =>
      NeedsTypes table own (typingsOfProperties properties) n ∨
        (HasUnlisted table (typingsOfProperties properties) ∧ n = "java.util.List") := by
  rw [typingsOfProperties, List.map_eq_flatMap]
  refine .typings own fun p _ => (brings_importsFor own textual p.type p.isList).congr fun n => ?_
  simp [NeedsTypes, HasUnlisted]

/-- The imports of members bring what their types need, and three for lists. -/
theorem brings_importsOfMembers (members : List AssociationMember) :
    Brings (importsOfMembers table own members) fun n => ∃ d ∈ members, Needs table own (typeParts d.target) n ∨
      (d.isList = true ∧ n ∈ ["java.util.List", "java.util.ArrayList", "java.util.Collections"]) :=
  Brings.each fun d _ => (brings_targetImport own textual d.target).appendIf (d.isList = true)
    ["java.util.List", "java.util.ArrayList", "java.util.Collections"]

/-- The imports of operations bring what their types and those of their parameters need. -/
theorem brings_importsOfOperations (operations : List LinkedOperation) :
    Brings (importsOfOperations table own operations) fun n =>
      NeedsTypes table own (operations.flatMap typingsOfOperation) n ∨
        (HasUnlisted table (operations.flatMap typingsOfOperation) ∧ n = "java.util.List") := by
  refine .typings own fun o _ => ?_
  refine ((brings_importsFor own textual o.type o.isList).append
    (.each fun r _ => brings_importsFor own textual r.type r.isList)).congr fun n => ?_
  simp only [NeedsTypes, HasUnlisted, typingsOfOperation, List.exists_mem_cons_iff, List.mem_map]
  grind

end Passes

/-! ## What is written -/

section Pieces

variable {table : TypeTable} {own n : String}

/-- The value of a field needs the implementation of lists if it is one. -/
theorem needs_initialParts (many : Bool) :
    Needs table own (initialParts many) n ↔ many = true ∧ n = "java.util.ArrayList" := by
  cases many <;> simp [initialParts, Part.import?, eq_comm]

/-- The type of a member needs its import, and lists if it is one. -/
theorem needs_memberParts (d : AssociationMember) :
    Needs table own (memberParts d) n ↔
      Needs table own (typeParts d.target) n ∨ (d.isList = true ∧ n = "java.util.List") := by
  unfold memberParts
  cases d.isList <;> simp [or_comm]

/-- The field of a property needs what its type needs, and the implementation of lists if it is one. -/
theorem needs_markedField (p : LinkedProperty) :
    Needs table own (markedField table p).parts n ↔
      Needs table own (writtenParts table p.type p.isList) n ∨ (p.isList = true ∧ n = "java.util.ArrayList") := by
  simp [markedField, Marked.parts, needs_initialParts]

/-- The accessors of a property need what its type needs. -/
theorem needs_markedAccessors (owner : String) (p : LinkedProperty) :
    Needs table own (partsOf (markedAccessors table owner p)) n ↔
      Needs table own (writtenParts table p.type p.isList) n := by
  simp [markedAccessors, Marked.parts]

/-- The field of a member needs what its type needs, and both imports of lists if it is one. -/
theorem needs_markedMember (d : AssociationMember) :
    Needs table own (markedMember d).parts n ↔ Needs table own (typeParts d.target) n ∨
      (d.isList = true ∧ n ∈ ["java.util.List", "java.util.ArrayList"]) := by
  simp only [markedMember, Marked.parts, needs_append, needs_cons, needs_memberParts, needs_initialParts, import?_text,
    not_needs_nil, List.mem_cons, List.not_mem_nil]
  grind

/-- Statements in a row need what either of them needs. -/
theorem needs_statements_append {type : List Part} {field : String} (first second : List Statement) :
    Needs table own (partsOf (markedStatements type field (first ++ second))) n ↔
      Needs table own (partsOf (markedStatements type field first)) n ∨
        Needs table own (partsOf (markedStatements type field second)) n := by
  induction first with
  | nil => simp [markedStatements]
  | cons s rest ih => rw [List.cons_append, markedStatements, markedStatements, partsOf, partsOf, needs_append, ih,
      needs_append, or_assoc]

/-- Nothing is named in a call. -/
theorem not_needs_notification {type : List Part} {field : String} (receiver : Operand) (call : Option PartnerCall) :
    ¬ Needs table own (partsOf (markedStatements type field (notification receiver call))) n := by
  cases call <;> simp [notification, markedStatements, Statement.marked, Marked.parts]

/-- Nothing but the type of the old value is named in a setter. -/
theorem needs_setterBody {type : List Part} {field word : String} {d : AssociationMember}
    (needs : Needs table own (partsOf (markedStatements type field (setterBody word d))) n) :
    Needs table own type n := by
  unfold setterBody at needs
  split at needs
  · simp [markedStatements, Statement.marked, Marked.parts] at needs
  · simpa only [markedStatements, Statement.marked, Marked.parts, partsOf, import?_text, needs_append, needs_cons,
      not_needs_nil, needs_statements_append, not_needs_notification, reduceCtorEq, or_false, false_or] using needs

/-- Nothing is named in what changes a list. -/
theorem not_needs_listBody {type : List Part} {field : String} {d : AssociationMember} :
    ¬ Needs table own (partsOf (markedStatements type field (adderBody d))) n ∧
      ¬ Needs table own (partsOf (markedStatements type field (removerBody d))) n := by
  unfold adderBody removerBody
  simp only [needs_statements_append, not_needs_notification]
  simp [markedStatements, Statement.marked, Marked.parts]

/-- The accessors of a member need what its type needs, and lists and their views if it is a list. -/
theorem needs_markedMemberAccessors (d : AssociationMember) :
    Needs table own (partsOf (markedMemberAccessors table d)) n ↔ Needs table own (typeParts d.target) n ∨
      (d.isList = true ∧ n ∈ ["java.util.List", "java.util.Collections"]) := by
  unfold markedMemberAccessors
  cases isList : d.isList with
  | true =>
    have bodies := @not_needs_listBody table own n (memberParts d) d.name d
    simp only [needs_partsOf] at bodies
    simp [collectionAccessors, Accessor.marked, Marked.parts, needs_memberParts, isList, markedStatements,
      Statement.marked, Part.import?, bodies, eq_comm]
    tauto
  | false =>
    have body := @needs_setterBody table own n (memberParts d) d.name (lineOf table (memberParts d)) d
    simp only [needs_partsOf] at body
    simp [singleAccessors, Accessor.marked, Marked.parts, needs_memberParts, isList, markedStatements,
      Statement.marked]
    exact fun x among needs => by simpa [needs_memberParts, isList] using body ⟨x, among, needs⟩

/-- The head of an operation needs what its types need. -/
theorem needs_headParts (o : LinkedOperation) :
    Needs table own (headParts table o) n ↔ NeedsTypes table own (typingsOfOperation o) n := by
  have result : Needs table own (if o.type.isNone then [.text voidType] else writtenParts table o.type o.isList) n ↔
      Needs table own (writtenParts table o.type o.isList) n := by
    cases o.type with
    | none => simp [writtenParts, typeParts]
    | some type => simp
  simp only [headParts, needs_append, result, needs_cons, needs_listed, typedParts, NeedsTypes, typingsOfOperation]
  simp

/-- An operation of a class needs what its types need. -/
theorem needs_markedOperation (o : LinkedOperation) :
    Needs table own (partsOf (markedOperation table o)) n ↔ NeedsTypes table own (typingsOfOperation o) n := by
  rw [← needs_headParts]
  unfold markedOperation
  cases o.isAbstract <;> simp [Marked.parts]

/-- An operation of an interface needs what its types need. -/
theorem needs_markedInterfaceOperation (o : LinkedOperation) :
    Needs table own (partsOf (markedInterfaceOperation table o)) n ↔
      NeedsTypes table own (typingsOfOperation o) n := by
  rw [← needs_headParts]
  unfold markedInterfaceOperation
  cases o.isStatic <;> simp [Marked.parts]

/-- Operations need what their types need if the code of each of them does. -/
theorem needs_operations {code : LinkedOperation → List Marked}
    (each : ∀ o, Needs table own (partsOf (code o)) n ↔ NeedsTypes table own (typingsOfOperation o) n)
    (operations : List LinkedOperation) :
    Needs table own (partsOf (operations.flatMap code)) n ↔
      NeedsTypes table own (operations.flatMap typingsOfOperation) n := by
  simp only [needs_pieces_flatMap, each, NeedsTypes, List.mem_flatMap]
  grind

/-- Lines of properties that write the types name these, and a collection for the lists. -/
theorem needs_properties {line : LinkedProperty → Marked} {collection : String}
    (each : ∀ p, Needs table own (line p).parts n ↔
      Needs table own (writtenParts table p.type p.isList) n ∨ (p.isList = true ∧ n = collection))
    (properties : List LinkedProperty) :
    Needs table own (partsOf (properties.map line)) n ↔
      NeedsTypes table own (typingsOfProperties properties) n ∨ (properties.any (·.isList) = true ∧ n = collection) := by
  simp only [needs_pieces_map, each, NeedsTypes, typingsOfProperties, List.mem_map, List.any_eq_true]
  grind

/-- The accessors of properties need what the types of these need. -/
theorem needs_propertyAccessors (owner : String) (properties : List LinkedProperty) :
    Needs table own (partsOf (properties.flatMap (markedAccessors table owner))) n ↔
      NeedsTypes table own (typingsOfProperties properties) n := by
  simp only [needs_pieces_flatMap, needs_markedAccessors, NeedsTypes, typingsOfProperties, List.mem_map]
  grind

/-- The constant of a property needs what its type needs, and lists if it is one. -/
theorem needs_markedConstant (p : LinkedProperty) :
    Needs table own (markedConstant table p).parts n ↔
      Needs table own (writtenParts table p.type p.isList) n ∨ (p.isList = true ∧ n = "java.util.List") := by
  unfold markedConstant
  cases p.isList <;> simp [Marked.parts, typedParts, Part.import?, eq_comm]

/-- The fields and the accessors of members name their types and, for lists, the collections. -/
theorem needs_members (members : List AssociationMember) :
    Needs table own (partsOf (members.map markedMember)) n ∨
        Needs table own (partsOf (members.flatMap (markedMemberAccessors table))) n ↔
      ∃ d ∈ members, Needs table own (typeParts d.target) n ∨
        (d.isList = true ∧ n ∈ ["java.util.List", "java.util.ArrayList", "java.util.Collections"]) := by
  simp only [needs_pieces_map, needs_pieces_flatMap, needs_markedMember, needs_markedMemberAccessors, List.mem_cons]
  grind

/-- A clause of a header needs what the names in it need. -/
theorem needs_clauseParts (word : String) (links : List Link) :
    Needs table own (clauseParts word links) n ↔ ∃ names ∈ superParts links, Needs table own names n := by
  unfold clauseParts
  cases superParts links <;> simp

end Pieces

/-! ## Units -/

section Units

variable {table : TypeTable} (textual : table.IsTextual)
include textual

/-- The imports of a class bring what its code needs, and lists where an element is not listed. -/
theorem brings_classUnit {t : LinkedType} {c : ClassBody Place Link} (body : t.body = .classBody c)
    (members : List AssociationMember) :
    Brings (classUnit table t c members).imports fun n =>
      Needs table (packageName t.place.home) (partsOf (markedClass table t c members)) n ∨
        (HasUnlisted table (typings t) ∧ n = "java.util.List") := by
  obtain ⟨classes, ofClasses, inClasses⟩ := brings_importsOfSupers (packageName t.place.home) textual c.superClasses
  obtain ⟨interfaces, ofInterfaces, inInterfaces⟩ :=
    brings_importsOfSupers (packageName t.place.home) textual c.superInterfaces
  obtain ⟨properties, ofProperties, inProperties⟩ :=
    brings_importsOfProperties (packageName t.place.home) textual c.properties
  obtain ⟨others, ofMembers, inMembers⟩ := brings_importsOfMembers (packageName t.place.home) textual members
  obtain ⟨operations, ofOperations, inOperations⟩ :=
    brings_importsOfOperations (packageName t.place.home) textual c.operations
  let fields := if c.properties.any (·.isList) then ["java.util.ArrayList"] else []
  have collected : (classUnit table t c members).imports =
      .ok ((classes ++ interfaces ++ properties ++ fields ++ others ++ operations).map .text) := by
    have field : fieldImports c.properties = fields.map .text := by
      unfold fieldImports fields
      split <;> rfl
    rw [classUnit, ofClasses, ofInterfaces, ofProperties, ofMembers, ofOperations]
    simp only [List.map_append, ← field]
    rfl
  refine ⟨_, collected, fun n => ?_⟩
  have inFields : n ∈ fields ↔ c.properties.any (·.isList) = true ∧ n = "java.util.ArrayList" := by
    unfold fields
    split <;> simp_all
  have header : ¬ Needs table (packageName t.place.home) (spaced table [[.text "public"],
      [.text (if c.isAbstract then "abstract" else "")], [.text "class"], [.text t.name]]) n := by
    simp
  have elements : typings t = typingsOfProperties c.properties ++ c.operations.flatMap typingsOfOperation := by
    simp [typings, Classifier.properties, Classifier.operations, body]
  simp only [List.mem_append, inClasses, inInterfaces, inProperties, inFields, inMembers, inOperations, ← needs_members]
  simp only [markedClass, partsOf, Marked.parts, needs_append, needs_pieces_append, needs_properties needs_markedField,
    needs_propertyAccessors, needs_operations needs_markedOperation, needs_clauseParts, header, not_needs_nil, elements,
    hasUnlisted_append]
  grind

omit textual in
/-- Constants of an interface are lists of a type that is known or not written as one. -/
theorem needs_list_of_resolved {own : String} {properties : List LinkedProperty}
    (resolved : ∀ p ∈ properties, p.endType.isSome) (lists : properties.any (·.isList) = true) :
    NeedsTypes table own (typingsOfProperties properties) "java.util.List" ∨
      HasUnlisted table (typingsOfProperties properties) := by
  obtain ⟨p, among, isList⟩ := List.any_eq_true.1 lists
  have typing : (p.type, p.isList) ∈ typingsOfProperties properties := List.mem_map.2 ⟨p, among, rfl⟩
  have found : Needs table own (writtenParts table p.type p.isList) "java.util.List" ∨
      (IsUnlisted table (p.type, p.isList) ∧ "java.util.List" = "java.util.List") :=
    (needs_writtenParts p.type p.isList).2 (.inr ⟨⟨isList, resolved p among⟩, rfl⟩)
  exact found.imp (fun needs => ⟨_, typing, needs⟩) fun unlisted => ⟨_, typing, unlisted.1⟩

/-- The imports of an interface bring what its code needs, and lists where an element is not listed. -/
theorem brings_interfaceUnit {t : LinkedType} {c : InterfaceBody Place Link} (body : t.body = .interface c)
    (resolved : ∀ p ∈ t.properties, p.endType.isSome) :
    Brings (interfaceUnit table t c).imports fun n =>
      Needs table (packageName t.place.home) (partsOf (markedInterface table t c)) n ∨
        (HasUnlisted table (typings t) ∧ n = "java.util.List") := by
  obtain ⟨interfaces, ofInterfaces, inInterfaces⟩ :=
    brings_importsOfSupers (packageName t.place.home) textual c.superInterfaces
  obtain ⟨properties, ofProperties, inProperties⟩ :=
    brings_importsOfProperties (packageName t.place.home) textual c.properties
  obtain ⟨operations, ofOperations, inOperations⟩ :=
    brings_importsOfOperations (packageName t.place.home) textual c.operations
  have collected : (interfaceUnit table t c).imports = .ok ((interfaces ++ properties ++ operations).map .text) := by
    rw [interfaceUnit, ofInterfaces, ofProperties, ofOperations]
    simp only [List.map_append]
    rfl
  refine ⟨_, collected, fun n => ?_⟩
  have elements : typings t = typingsOfProperties c.properties ++ c.operations.flatMap typingsOfOperation := by
    simp [typings, Classifier.properties, Classifier.operations, body]
  have constants : c.properties.any (·.isList) = true ∧ n = "java.util.List" →
      NeedsTypes table (packageName t.place.home) (typingsOfProperties c.properties) n ∨
        (HasUnlisted table (typingsOfProperties c.properties) ∧ n = "java.util.List") := by
    rintro ⟨lists, rfl⟩
    rw [Classifier.properties, body] at resolved
    exact (needs_list_of_resolved resolved lists).imp_right fun unlisted => ⟨unlisted, rfl⟩
  simp only [List.mem_append, inInterfaces, inProperties, inOperations]
  simp only [markedInterface, partsOf, Marked.parts, needs_append, needs_cons, import?_text, reduceCtorEq, false_or,
    needs_pieces_append, needs_properties needs_markedConstant, needs_operations needs_markedInterfaceOperation,
    needs_clauseParts, not_needs_nil, elements, hasUnlisted_append]
  grind

/-- The imports of a record bring what its code needs, and lists where an element is not listed. -/
theorem brings_recordUnit {t : LinkedType} {properties : List LinkedProperty} (body : t.body = .datatype properties) :
    Brings (recordUnit table t properties).imports fun n =>
      Needs table (packageName t.place.home) (partsOf (markedRecord table t properties)) n ∨
        (HasUnlisted table (typings t) ∧ n = "java.util.List") := by
  refine (brings_importsOfProperties (packageName t.place.home) textual properties).congr fun n => ?_
  have elements : typings t = typingsOfProperties properties := by
    simp [typings, Classifier.properties, Classifier.operations, body]
  rw [elements]
  refine or_congr_left ?_
  simp [markedRecord, Marked.parts, partsOf, typedParts, NeedsTypes, typingsOfProperties]

omit textual in
/-- What is imported is what the parts of a unit need, and lists for elements that are not written as lists. -/
theorem brings_unit {s : Settings} {m : Linked} {t : LinkedType} {u : CompilationUnit} (textual : s.table.IsTextual)
    (resolved : ∀ p ∈ t.properties, p.endType.isSome) (found : s.unit? m t = some u) :
    u.package = packageName t.place.home ∧ Brings u.imports fun n =>
      Needs s.table (packageName t.place.home) (partsOf (markedUnit s.table m t)) n ∨
        (HasUnlisted s.table (typings t) ∧ n = "java.util.List") := by
  unfold Settings.unit? at found
  split at found
  · unfold markedUnit
    cases body : t.body <;> rw [body] at found <;> cases found
    · exact ⟨rfl, brings_classUnit textual body _⟩
    · exact ⟨rfl, brings_interfaceUnit textual body resolved⟩
    · exact ⟨rfl, brings_recordUnit textual body⟩
    · refine ⟨rfl, [], rfl, fun n => ?_⟩
      simp [partsOf, Marked.parts, HasUnlisted, typings, typingsOfProperties, Classifier.properties,
        Classifier.operations, body]
  · cases found

end Units

/-- Where the imports of a unit are texts, its text has their lines between its package and its code, in order, each
once. -/
theorem Brings.lines {u : CompilationUnit} {P : String → Prop} {indent : Indent} {text : String}
    (brings : Brings u.imports P) (written : u.text indent = .ok text) :
    ∃ lines names : List String, text = textOfLines lines ∧
      full lines = packageLines u.package ++ names.map (fun n => "import " ++ n ++ ";") ++
        codeLines indent.margin 0 u.code ∧
      names.Pairwise (· < ·) ∧ ∀ n, n ∈ names ↔ P n := by
  obtain ⟨names, collected, mem⟩ := brings
  obtain ⟨page, _, _, texts, _, _, rfl, given, ordered, read, all⟩ := CompilationUnit.exists_write written
  obtain rfl := Except.ok.inj (collected.symm.trans given)
  obtain ⟨sorted, ordered', inOrder, same⟩ := sortedNames_texts names
  obtain rfl := Except.ok.inj (ordered'.symm.trans ordered)
  obtain rfl := Except.ok.inj ((mapM_lineText sorted).symm.trans read)
  exact ⟨page.lines.inOrder, sorted, rfl, all, inOrder, fun n => (same n).trans (mem n)⟩

/-- The file of a type has, between its package and its code, the import lines of some names in order, each once.  They
are the names that the types and collections need which its code names, and that of lists where an element is not
written as a list although it has many values, as its type has an empty name. -/
theorem imports_are_exact {s : Settings} {m : Linked} {t : LinkedType} {file : SourceFile}
    (textual : s.table.IsTextual) (resolved : ∀ p ∈ t.properties, p.endType.isSome)
    (written : s.source m t = .ok (some file)) :
    ∃ lines names : List String, file.text = textOfLines lines ∧
      full lines = packageLines file.package ++ names.map (fun n => "import " ++ n ++ ";") ++
        codeLines s.indent.margin 0 (markedCode s.table (markedUnit s.table m t)) ∧
      names.Pairwise (· < ·) ∧
      ∀ n, n ∈ names ↔ Needs s.table file.package (partsOf (markedUnit s.table m t)) n ∨
        (HasUnlisted s.table (typings t) ∧ n = "java.util.List") := by
  obtain ⟨u, found, given, own⟩ := exists_unit_of_source written
  obtain ⟨package, brings⟩ := brings_unit textual resolved found
  have lines := brings.lines given
  rw [code_markedUnit textual found, package] at lines
  rw [own]
  exact lines

/-- The standard names of types are texts. -/
theorem default_isTextual : TypeTable.default.IsTextual := by
  constructor
  · intro entry among
    simp only [TypeTable.default, standardPrimitives, List.map_cons, List.map_nil, List.mem_cons, List.not_mem_nil,
      or_false] at among
    rcases among with rfl | rfl | rfl | rfl <;> exact ⟨_, rfl, by decide⟩
  · intro entry among
    cases among

/-- A depot that has shelves with parts from another package, and a list of its items. -/
def depot : Declared :=
  ⟨[⟨(), "parts", [], [⟨(), "Bolt", .classBody ⟨false, [], [], [], []⟩⟩]⟩,
    ⟨(), "depot", [],
      [⟨(), "Shelf", .classBody ⟨false,
          [⟨(), "bolts", some "parts.Bolt", .number 0, .unbounded, none, false, .plain⟩], [], [], []⟩⟩,
        ⟨(), "Stock", .interface ⟨[],
          [⟨(), "items", some "Item", .number 1, .number 1, [], none, false, false, .null, .null⟩], []⟩⟩,
        ⟨(), "Item", .classBody ⟨false, [], [], [], []⟩⟩]⟩]⟩

/-- The shelf imports the bolts that it holds and the lists that it holds them in, and nothing else. -/
theorem imports_are_exact_of_shelf :
    ∃ shelf ∈ depot.link.model.types, ∃ file lines, ∃ names : List String,
      (Settings.mk .standard .default false).source depot.link shelf = .ok (some file) ∧
        file.text = textOfLines lines ∧
        full lines = packageLines file.package ++ names.map (fun n => "import " ++ n ++ ";") ++
          codeLines "    " 0 (markedCode .default (markedUnit .default depot.link shelf)) ∧
        names.Pairwise (· < ·) ∧ "parts.Bolt" ∈ names ∧ "java.util.Collections" ∉ names := by
  let shelf : LinkedType := depot.link.model.types.get ⟨1, by decide +kernel⟩
  have resolved : ∀ p ∈ shelf.properties, p.endType.isSome := by decide +kernel
  have given : ((Settings.mk .standard .default false).source depot.link shelf).toOption.join.map (·.package) =
      some "depot" := by decide +kernel
  obtain ⟨file, written, package⟩ := exists_source_of_package given
  obtain ⟨lines, names, text, all, inOrder, mem⟩ := imports_are_exact default_isTextual resolved written
  rw [package] at mem
  refine ⟨shelf, List.get_mem .., file, lines, names, written, text, all, inOrder, (mem _).2 (.inl ?_), ?_⟩
  · decide +kernel
  · rw [mem, not_or]
    exact ⟨by decide +kernel, fun unlisted => absurd unlisted.2 (by decide)⟩

/-- The depot after the items lost their name and the stock got many of them. -/
def namelessDepot : Linked :=
  ((((Draft.ofDeclared depot).settle fun _ _ _ => true).set
      (.element ⟨0, [.package 1, .type 1, .operation 0]⟩) "upper" (.int (-1))).set
    (.element ⟨0, [.package 1, .type 2]⟩) "name" (.text "")).view

/-- The stock imports lists, but its code names none. -/
theorem stock_imports_unused_list :
    ∃ stock ∈ namelessDepot.model.types, stock.properties.length = 0 ∧
      (∀ o ∈ stock.operations, (o.type.bind (·.target)).isSome ∧ o.parameters.length = 0) ∧
      ((Settings.mk .standard .default false).source namelessDepot stock).toOption.join.map
          (fun file => (Text.splitAtFeeds file.text.toList).map String.ofList) =
        some ["package depot;", "", "import java.util.List;", "", "public interface Stock \x7b", "    /**",
          "     * @generated", "     */", "     items();", "\x7d", ""] ∧
      ¬ Needs .default "depot" (partsOf (markedUnit .default namelessDepot stock)) "java.util.List" := by
  let stock : LinkedType := namelessDepot.model.types.get ⟨2, by decide +kernel⟩
  exact ⟨stock, List.get_mem .., by decide +kernel, by decide +kernel, by decide +kernel, by decide +kernel⟩

end ClassDiagram.Java
