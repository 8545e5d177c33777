import ClassDiagram.Proofs.Java.Imports
import ClassDiagram.Validation

/-!
# Types of one name

Code names types without their packages, and the imports tell where a name is from.  A name is therefore clear
only if it stands for one type wherever the unit uses it (`HasNoHomonyms`).  Types of different packages may share
a name, and nothing keeps a unit from using two of them: then an import takes the name from the unit's own type or its
neighbour, or two imports share it.  Apart from that the imports do what they are for (`words_are_clear_iff`).
-/

set_option autoImplicit false

namespace ClassDiagram.Java

/-! ## Names -/

/-- The simple name in a qualified one: what stands behind the last dot. -/
def simpleName (n : String) : String := String.ofList (n.toList.reverse.takeWhile (· != '.')).reverse

/-- The name of a type with its package in front; the root package has no name. -/
def qualified (package name : String) : String := if package = "" then name else package ++ "." ++ name

/-- The qualified name of what a type is in code: of a primitive type what is imported for it, or else a word of the
language.  A word with dots is no simple name. -/
def originOf (table : TypeTable) (t : Target) (word : String) : Option String :=
  if t.kind = .primitive then
    match typeImport table "" t with
    | some n => some n
    | none => if '.' ∈ word.toList then none else some word
  else some (qualified (packageName t.home) t.name)

/-- The word for a type or a collection, with the qualified name of what it was written for. -/
def Part.use? (table : TypeTable) : Part → Option (String × String)
  | .text _ => none
  | .type t => (originOf table t (typeWord table t)).map (typeWord table t, ·)
  | .superType t => (originOf table t t.name).map (t.name, ·)
  | .list => some ("List", "java.util.List")
  | .arrayList => some ("ArrayList", "java.util.ArrayList")
  | .collections => some ("Collections", "java.util.Collections")

/-- What a unit uses: words for types and collections, with what they were written for. -/
def usesOf (table : TypeTable) (parts : List Part) : List (String × String) := parts.filterMap (Part.use? table)

/-- The type that a part names. -/
def Part.target? : Part → Option Target
  | .type t => some t
  | .superType t => some t
  | _ => none

/-! ## Clear names -/

/-- Where a unit stands: its package, the name of its type and the names of the types of the package. -/
structure Site where
  own : String
  name : String
  neighbours : List String

/-- Where the unit of a type stands. -/
def siteOf (m : Linked) (t : LinkedType) : Site :=
  let own := packageName t.place.home
  ⟨own, t.name, (m.model.types.filter fun t =>
    t.kind != .primitive && t.kind != .association && packageName t.place.home == own).map (·.name)⟩

namespace Site

/-- The qualified names that a unit itself ties a word to: that of its own type and the imports that end in the word. -/
def tied (w : Site) (imports : List String) (word : String) : List String :=
  (if word = w.name then [qualified w.own w.name] else []) ++ imports.filter (simpleName · = word)

/-- Whether a word stands for a qualified name and for no other one.  A word that the unit does not tie to anything is
that of a type of the package or else of the language. -/
structure Denotes (w : Site) (imports : List String) (word origin : String) : Prop where
  tied : ∀ n ∈ w.tied imports word, n = origin
  free : w.tied imports word = [] → origin = if word ∈ w.neighbours then qualified w.own word else word

/-- Whether the imports of a unit keep its words apart: no two of them end in one name, none ends in the name of the
unit's own type or of a type of its package that it uses, and all words denote what they were written for. -/
structure IsClear (w : Site) (table : TypeTable) (parts : List Part) (imports : List String) : Prop where
  apart : ∀ a ∈ imports, ∀ b ∈ imports, simpleName a = simpleName b → a = b
  ownType : ∀ a ∈ imports, simpleName a ≠ w.name
  neighbours : ∀ a ∈ imports, ∀ part ∈ parts, ∀ t, part.target? = some t → t.kind ≠ .primitive →
    packageName t.home = w.own → simpleName a ≠ t.name
  words : ∀ use ∈ usesOf table parts, w.Denotes imports use.1 use.2

/-- Whether each word of a unit is used for one thing, the unit's own type included, and no word of the language is
the name of a type of the package. -/
structure HasNoHomonyms (w : Site) (table : TypeTable) (parts : List Part) : Prop where
  uses : ∀ u ∈ (w.name, qualified w.own w.name) :: usesOf table parts,
    ∀ v ∈ (w.name, qualified w.own w.name) :: usesOf table parts, u.1 = v.1 → u.2 = v.2
  language : ∀ part ∈ parts, part.import? table w.own = none → ∀ use, part.use? table = some use → use.1 = use.2 →
    use.1 ∈ w.neighbours → use.2 = qualified w.own use.1

/-- Whether names are as code expects them: every type that is used is written with its simple name, every import is
from another package, and what is used of the unit's own package is there. -/
structure HasPlainNames (w : Site) (table : TypeTable) (parts : List Part) : Prop where
  simple : ∀ use ∈ usesOf table parts, simpleName use.2 = use.1
  foreign : ∀ part ∈ parts, ∀ n, part.import? table w.own = some n →
    n ≠ simpleName n ∧ n ≠ qualified w.own (simpleName n)
  known : ∀ part ∈ parts, ∀ t, part.target? = some t → t.kind ≠ .primitive → packageName t.home = w.own →
    t.name ∈ w.neighbours

end Site

/-! ## Imports and uses -/

section Uses

variable {table : TypeTable} {own : String} {part : Part}

/-- A type that is not primitive is written by its name. -/
theorem typeWord_of_not_primitive {t : Target} (other : t.kind ≠ .primitive) : typeWord table t = t.name := by
  simp [typeWord, TypeTable.nameOfTarget, other]

variable (own) in
/-- The import of a primitive type does not depend on the package. -/
theorem typeImport_of_primitive {t : Target} (primitive : t.kind = .primitive) :
    typeImport table own t = typeImport table "" t := by
  rw [typeImport, typeImport, if_pos primitive, if_pos primitive]

/-- A type that is imported comes from where it is imported. -/
theorem originOf_of_import {t : Target} {n : String} (found : typeImport table own t = some n) (word : String) :
    originOf table t word = some n := by
  by_cases primitive : t.kind = .primitive
  · rw [originOf, if_pos primitive, ← typeImport_of_primitive own primitive, found]
  · rw [typeImport, if_neg primitive] at found
    split at found
    · cases found
    · next foreign =>
      rw [originOf, if_neg primitive, qualified, if_neg (not_or.1 foreign).1, found]

/-- What is imported for a part is what its word was written for. -/
theorem use_of_import {n : String} (found : part.import? table own = some n) :
    part.use? table = some (part.word table, n) := by
  cases part with
  | text text => cases found
  | type t => rw [Part.use?, originOf_of_import found]; rfl
  | superType t => rw [Part.use?, originOf_of_import found]; rfl
  | _ =>
    obtain rfl := Option.some.inj found
    rfl

/-- A type that is not imported is a word of the language or a type of the root package or of the own one. -/
theorem originOf_cases {t : Target} {word origin : String} (found : originOf table t word = some origin)
    (named : t.kind ≠ .primitive → word = t.name) :
    typeImport table own t = some origin ∨ (typeImport table own t = none ∧
      (origin = word ∨ (t.kind ≠ .primitive ∧ packageName t.home = own ∧ origin = qualified own word))) := by
  by_cases primitive : t.kind = .primitive
  · rw [originOf, if_pos primitive, ← typeImport_of_primitive own primitive] at found
    cases given : typeImport table own t with
    | some n =>
      rw [given] at found
      exact .inl found
    | none =>
      rw [given] at found
      dsimp only at found
      split at found
      · cases found
      · exact .inr ⟨rfl, .inl (Option.some.inj found).symm⟩
  · obtain rfl := named primitive
    rw [originOf, if_neg primitive] at found
    obtain rfl := Option.some.inj found
    rw [typeImport, if_neg primitive]
    by_cases root : packageName t.home = ""
    · exact .inr ⟨if_pos (.inl root), .inl (if_pos root)⟩
    · by_cases near : packageName t.home = own
      · exact .inr ⟨if_pos (.inr near), .inr ⟨primitive, near, near ▸ rfl⟩⟩
      · exact .inl (by rw [if_neg (not_or.2 ⟨root, near⟩), qualified, if_neg root])

/-- What a word was written for is imported, or it needs no import. -/
theorem import_of_use {word origin : String} (found : part.use? table = some (word, origin)) :
    part.import? table own = some origin ∨ (part.import? table own = none ∧ (origin = word ∨
      ∃ t, part.target? = some t ∧ t.kind ≠ .primitive ∧ packageName t.home = own ∧ word = t.name ∧
        origin = qualified own word)) := by
  cases part with
  | text text => cases found
  | type t =>
    obtain ⟨_, given, ⟨⟩⟩ := Option.map_eq_some_iff.1 found
    refine (originOf_cases given typeWord_of_not_primitive).imp id (.imp id (.imp id ?_))
    exact fun near => ⟨t, rfl, near.1, near.2.1, typeWord_of_not_primitive near.1, near.2.2⟩
  | superType t =>
    obtain ⟨_, given, ⟨⟩⟩ := Option.map_eq_some_iff.1 found
    refine (originOf_cases given fun _ => rfl).imp id (.imp id (.imp id ?_))
    exact fun near => ⟨t, rfl, near.1, near.2.1, rfl, near.2.2⟩
  | _ =>
    cases found
    exact .inl rfl

/-- A type of the own package is written for what it is. -/
theorem use_of_neighbour {t : Target} (named : part.target? = some t) (other : t.kind ≠ .primitive)
    (near : packageName t.home = own) : part.use? table = some (t.name, qualified own t.name) := by
  subst near
  cases part <;> cases named
  · rw [Part.use?, typeWord_of_not_primitive other, originOf, if_neg other]
    rfl
  · rw [Part.use?, originOf, if_neg other]
    rfl

end Uses

namespace Site

variable {w : Site} {table : TypeTable} {parts : List Part} {imports : List String}

/-- A word is tied to the type of the unit that has this name and to what is imported under it. -/
theorem mem_tied {n word : String} :
    n ∈ w.tied imports word ↔ (word = w.name ∧ n = qualified w.own w.name) ∨ (n ∈ imports ∧ simpleName n = word) := by
  rw [tied, List.mem_append, List.mem_filter, decide_eq_true_iff]
  refine or_congr_left ?_
  split <;> simp [*]

/-- The uses in a unit are those of its parts. -/
theorem mem_usesOf {use : String × String} :
    use ∈ usesOf table parts ↔ ∃ part ∈ parts, part.use? table = some use := List.mem_filterMap

/-- Everything that is imported is used, under its simple name. -/
theorem use_of_mem_imports (plain : w.HasPlainNames table parts) (needed : ∀ n, n ∈ imports ↔ Needs table w.own parts n)
    {n : String} (imported : n ∈ imports) : (simpleName n, n) ∈ usesOf table parts := by
  obtain ⟨part, among, found⟩ := (needed n).1 imported
  have use : (part.word table, n) ∈ usesOf table parts := mem_usesOf.2 ⟨part, among, use_of_import found⟩
  have word : simpleName n = part.word table := plain.simple (part.word table, n) use
  rw [word]
  exact use

/-- A word denotes one thing at most. -/
theorem Denotes.unique {word origin other : String} (first : w.Denotes imports word origin)
    (second : w.Denotes imports word other) : origin = other := by
  by_cases free : w.tied imports word = []
  · exact (first.free free).trans (second.free free).symm
  · obtain ⟨n, tied⟩ := List.exists_mem_of_ne_nil _ free
    exact (first.tied n tied).symm.trans (second.tied n tied)

/-- In a unit that is clear the name of the type denotes it. -/
theorem IsClear.denotes_own (clear : w.IsClear table parts imports) :
    w.Denotes imports w.name (qualified w.own w.name) where
  tied n tied := by
    obtain ⟨-, rfl⟩ | ⟨imported, same⟩ := mem_tied.1 tied
    · rfl
    · exact absurd same (clear.ownType n imported)
  free free := by
    have tied : qualified w.own w.name ∈ w.tied imports w.name := mem_tied.2 (.inl ⟨rfl, rfl⟩)
    rw [free] at tied
    cases tied

/-- A unit that is clear has no homonyms. -/
theorem IsClear.hasNoHomonyms (plain : w.HasPlainNames table parts)
    (needed : ∀ n, n ∈ imports ↔ Needs table w.own parts n) (clear : w.IsClear table parts imports) :
    w.HasNoHomonyms table parts where
  uses := by
    have denotes : ∀ u ∈ (w.name, qualified w.own w.name) :: usesOf table parts, w.Denotes imports u.1 u.2 :=
      List.forall_mem_cons.2 ⟨clear.denotes_own, clear.words⟩
    intro u used v used' same
    exact (denotes u used).unique (same ▸ denotes v used')
  language := by
    rintro part among - ⟨word, origin⟩ found same near
    obtain rfl : word = origin := same
    have denotes := clear.words _ (mem_usesOf.2 ⟨part, among, found⟩)
    by_cases free : w.tied imports word = []
    · exact (denotes.free free).trans (if_pos near)
    · obtain ⟨n, tied⟩ := List.exists_mem_of_ne_nil _ free
      have same : n = word := denotes.tied n tied
      obtain ⟨rfl, given⟩ | ⟨imported, simple⟩ := mem_tied.1 tied
      · exact same ▸ given
      · -- What is imported is qualified, and a word of the language is not.
        obtain ⟨other, held, needs⟩ := (needed n).1 imported
        exact absurd (same.trans simple.symm) (plain.foreign other held n needs).1

/-- A unit without homonyms is clear. -/
theorem HasNoHomonyms.isClear (plain : w.HasPlainNames table parts)
    (needed : ∀ n, n ∈ imports ↔ Needs table w.own parts n) (apart : w.HasNoHomonyms table parts) :
    w.IsClear table parts imports where
  apart a imported b imported' same :=
    apart.uses _ (.tail _ (use_of_mem_imports plain needed imported)) _
      (.tail _ (use_of_mem_imports plain needed imported')) same
  ownType a imported same := by
    have own : a = qualified w.own w.name :=
      apart.uses _ (.tail _ (use_of_mem_imports plain needed imported)) _ (.head _) same
    obtain ⟨part, among, needs⟩ := (needed a).1 imported
    exact (plain.foreign part among a needs).2 (same ▸ own)
  neighbours a imported part among t named other near same := by
    have used : (t.name, qualified w.own t.name) ∈ usesOf table parts :=
      mem_usesOf.2 ⟨part, among, use_of_neighbour named other near⟩
    have own : a = qualified w.own t.name :=
      apart.uses _ (.tail _ (use_of_mem_imports plain needed imported)) _ (.tail _ used) same
    obtain ⟨held, there, needs⟩ := (needed a).1 imported
    exact (plain.foreign held there a needs).2 (same ▸ own)
  words := by
    rintro ⟨word, origin⟩ used
    constructor
    · intro n tied
      obtain ⟨rfl, rfl⟩ | ⟨imported, rfl⟩ := mem_tied.1 tied
      · exact apart.uses _ (.head _) _ (.tail _ used) rfl
      · exact apart.uses _ (.tail _ (use_of_mem_imports plain needed imported)) _ (.tail _ used) rfl
    · intro free
      obtain ⟨part, among, found⟩ := mem_usesOf.1 used
      obtain imported | ⟨none, same | ⟨t, named, other, near, rfl, given⟩⟩ := import_of_use found
      · have tied : origin ∈ w.tied imports word :=
          mem_tied.2 (.inr ⟨(needed origin).2 ⟨part, among, imported⟩, plain.simple (word, origin) used⟩)
        rw [free] at tied
        cases tied
      · split
        · next near => exact apart.language part among none _ found same.symm near
        · exact same
      · rw [given]
        exact (if_pos (plain.known part among t named other near)).symm

end Site

/-- In the file of a type with plain names, the imports keep the words of the unit apart exactly if there are no
homonyms among these. -/
theorem words_are_clear_iff {s : Settings} {m : Linked} {t : LinkedType} {file : SourceFile}
    (textual : s.table.IsTextual) (resolved : ∀ p ∈ t.properties, p.endType.isSome)
    (named : ¬ HasUnlisted s.table (typings t))
    (plain : (siteOf m t).HasPlainNames s.table (partsOf (markedUnit s.table m t)))
    (written : s.source m t = .ok (some file)) :
    ∃ lines names : List String, file.text = textOfLines lines ∧
      full lines = packageLines file.package ++ names.map (fun n => "import " ++ n ++ ";") ++
        codeLines s.indent.margin 0 (markedCode s.table (markedUnit s.table m t)) ∧
      ((siteOf m t).IsClear s.table (partsOf (markedUnit s.table m t)) names ↔
        (siteOf m t).HasNoHomonyms s.table (partsOf (markedUnit s.table m t))) := by
  obtain ⟨u, found, given, own⟩ := exists_unit_of_source written
  obtain ⟨package, brings⟩ := brings_unit textual resolved found
  obtain ⟨lines, names, text, all, -, mem⟩ := brings.lines given
  rw [code_markedUnit textual found, package, ← own] at all
  have needed : ∀ n, n ∈ names ↔ Needs s.table (siteOf m t).own (partsOf (markedUnit s.table m t)) n := fun n =>
    (mem n).trans (or_iff_left fun unlisted => named unlisted.1)
  exact ⟨lines, names, text, all, fun clear => clear.hasNoHomonyms plain needed,
    fun apart => apart.isClear plain needed⟩

/-- The words of the shelf are clear. -/
theorem words_are_clear_of_shelf :
    ∃ shelf ∈ depot.link.model.types, ∃ file lines, ∃ names : List String,
      (Settings.mk .standard .default false).source depot.link shelf = .ok (some file) ∧
        file.text = textOfLines lines ∧
        full lines = packageLines file.package ++ names.map (fun n => "import " ++ n ++ ";") ++
          codeLines "    " 0 (markedCode .default (markedUnit .default depot.link shelf)) ∧
        (siteOf depot.link shelf).IsClear .default (partsOf (markedUnit .default depot.link shelf)) names := by
  let shelf : LinkedType := depot.link.model.types.get ⟨1, by decide +kernel⟩
  have resolved : ∀ p ∈ shelf.properties, p.endType.isSome := by decide +kernel
  have plain : (siteOf depot.link shelf).HasPlainNames .default (partsOf (markedUnit .default depot.link shelf)) := by
    have foreign : ∀ part ∈ partsOf (markedUnit .default depot.link shelf), ∀ n ∈ part.import? .default "depot",
        n ≠ simpleName n ∧ n ≠ qualified "depot" (simpleName n) := by decide +kernel
    have known : ∀ part ∈ partsOf (markedUnit .default depot.link shelf), ∀ t ∈ part.target?, t.kind ≠ .primitive →
        packageName t.home = "depot" → t.name ∈ (siteOf depot.link shelf).neighbours := by decide +kernel
    exact ⟨by decide +kernel, foreign, known⟩
  have apart : (siteOf depot.link shelf).HasNoHomonyms .default (partsOf (markedUnit .default depot.link shelf)) := by
    have language : ∀ part ∈ partsOf (markedUnit .default depot.link shelf), part.import? .default "depot" = none →
        ∀ use ∈ part.use? .default, use.1 = use.2 → use.1 ∈ (siteOf depot.link shelf).neighbours →
          use.2 = qualified "depot" use.1 := by decide +kernel
    exact ⟨by decide +kernel, language⟩
  have given : ((Settings.mk .standard .default false).source depot.link shelf).toOption.join.map (·.package) =
      some "depot" := by decide +kernel
  obtain ⟨file, written, -⟩ := exists_source_of_package given
  obtain ⟨lines, names, text, all, clear⟩ :=
    words_are_clear_iff default_isTextual resolved (by decide +kernel) plain written
  exact ⟨shelf, List.get_mem .., file, lines, names, written, text, all, clear.2 apart⟩

/-- Two kingdoms, each with a crown, of which one is made after the other. -/
def kingdoms : Declared :=
  ⟨[⟨(), "north", [], [⟨(), "Crown", .classBody ⟨false, [], [], [], []⟩⟩]⟩,
    ⟨(), "south", [], [⟨(), "Crown", .classBody ⟨false, [], [], ["north.Crown"], []⟩⟩]⟩]⟩

/-- Nothing is wrong with the kingdoms and all references lead to types, but the southern crown imports the northern one
under its own name, and extends itself. -/
theorem crown_extends_itself :
    (kingdoms.link.diagnostics true).length = 0 ∧ ∃ crown ∈ kingdoms.link.model.types, crown.name = "Crown" ∧
      ((Settings.mk .standard .default false).source kingdoms.link crown).toOption.join.map
          (fun file => (Text.splitAtFeeds file.text.toList).map String.ofList) =
        some ["package south;", "", "import north.Crown;", "", "public class Crown extends Crown \x7b", "\x7d", ""] ∧
      simpleName "north.Crown" = crown.name ∧
      ¬ (siteOf kingdoms.link crown).IsClear .default (partsOf (markedUnit .default kingdoms.link crown))
        ["north.Crown"] := by
  let crown : LinkedType := kingdoms.link.model.types.get ⟨1, by decide +kernel⟩
  refine ⟨by decide +kernel, crown, List.get_mem .., by decide +kernel, by decide +kernel, by decide +kernel, ?_⟩
  intro clear
  exact clear.ownType "north.Crown" List.mem_cons_self (by decide +kernel)

end ClassDiagram.Java
