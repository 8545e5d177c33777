import ClassDiagram.Generation
import ClassDiagram.Proofs.Document.Keys
import ClassDiagram.Proofs.Fallible
import Mathlib.Data.List.Induction

/-!
# Layers of type profiles

A table that is a mapping (`Table.IsMapping`) is settled by its names, in order, and what it gives them (`Table.ext`).
Laying one mapping over another gives a mapping, of which both are known: a name is looked up in the upper one first
(`Table.get?_update`), and the names of the lower one keep their places (`Table.keys_update`).  So it does not matter
which of three mappings are laid over each other first (`Table.update_assoc`), from which the same follows for any number
of them (`Table.update_overlaid`, `Table.overlaid_append`), and with it for profiles, which are pairs of mappings.
`profiles_are_layered` puts this together with where profiles come from: documents, and the files that a configuration
lists.
-/

set_option autoImplicit false

namespace ClassDiagram

namespace Table

/-! ## Mappings -/

/-- The names of a table, in order. -/
def keys (t : Table) : List Document := t.map Prod.fst

/-- Whether a table has a value for a name. -/
def has (t : Table) (name : Document) : Bool := t.keys.any (·.sameKey name)

/-- Whether a table is a mapping: each name stands in it once. -/
structure IsMapping (t : Table) : Prop where
  rounded : ∀ key ∈ t.keys, key.IsRounded
  distinct : t.keys.Pairwise fun first second => first.sameKey second = false

variable {t u v : Table} {key name value : Document}

/-- The empty table is a mapping. -/
theorem IsMapping.nil : IsMapping [] := ⟨nofun, .nil⟩

/-- A table is a mapping if the rest of it is one that does not have its first name. -/
theorem isMapping_cons {entry : Document × Document} : IsMapping (entry :: t) ↔
    entry.1.IsRounded ∧ (∀ key ∈ t.keys, entry.1.sameKey key = false) ∧ t.IsMapping := by
  constructor
  · rintro ⟨rounded, distinct⟩
    rw [keys, List.map_cons, List.forall_mem_cons] at rounded
    rw [keys, List.map_cons, List.pairwise_cons] at distinct
    exact ⟨rounded.1, distinct.1, rounded.2, distinct.2⟩
  · rintro ⟨rounded, apart, mapping⟩
    exact ⟨List.forall_mem_cons.2 ⟨rounded, mapping.rounded⟩, List.pairwise_cons.2 ⟨apart, mapping.distinct⟩⟩

/-- The first name of a table is that of its first entry. -/
theorem keys_cons (entry : Document × Document) (t : Table) : keys (entry :: t) = entry.1 :: t.keys := rfl

/-- A table has a name if that is the name of its first entry or the rest has it. -/
theorem has_cons (entry : Document × Document) (t : Table) (name : Document) :
    has (entry :: t) name = (entry.1.sameKey name || t.has name) := rfl

/-- A name is looked up in the first entry and then in the rest. -/
theorem get?_cons (entry : Document × Document) (t : Table) (name : Document) :
    Table.get? (entry :: t) name = if entry.1.sameKey name then some entry.2 else t.get? name := rfl

/-- There is no value for a name exactly if the table does not have it. -/
theorem get?_eq_none_iff : t.get? name = none ↔ t.has name = false := by
  induction t with
  | nil => exact ⟨fun _ => rfl, fun _ => rfl⟩
  | cons entry rest ih =>
    rw [get?_cons, has_cons]
    cases entry.1.sameKey name
    · exact ih
    · exact ⟨nofun, nofun⟩

/-- Distinct texts name the entries of a mapping. -/
theorem isMapping_texts (entries : List (String × Document)) (distinct : (entries.map Prod.fst).Nodup) :
    IsMapping (entries.map fun entry => (.text entry.1, entry.2)) := by
  have names : keys (entries.map fun entry => (.text entry.1, entry.2)) = (entries.map Prod.fst).map .text := by
    rw [keys, List.map_map, List.map_map]
    rfl
  refine ⟨?_, ?_⟩
  · rw [names, List.forall_mem_map]
    exact fun _ _ => trivial
  · rw [names, List.pairwise_map]
    apply distinct.imp
    intro first second apart
    rw [← Bool.not_eq_true, Document.sameKey_iff (a := .text first) (b := .text second) trivial trivial]
    simpa [Document.keyValue] using apart

/-- Mappings are the same if they have the same names in the same order, with the same values. -/
theorem ext (mapping : t.IsMapping) (mapping' : u.IsMapping) (names : t.keys = u.keys)
    (values : ∀ key ∈ t.keys, t.get? key = u.get? key) : t = u := by
  induction t generalizing u with
  | nil => exact (List.map_eq_nil_iff.1 names.symm).symm
  | cons entry rest ih =>
    cases u with
    | nil => cases names
    | cons entry' rest' =>
      obtain ⟨rounded, apart, mapping⟩ := isMapping_cons.1 mapping
      obtain ⟨-, -, mapping'⟩ := isMapping_cons.1 mapping'
      obtain ⟨first, others⟩ : entry.1 = entry'.1 ∧ keys rest = keys rest' := List.cons.inj names
      have value := values entry.1 (.head _)
      rw [get?_cons, get?_cons, ← first, Document.sameKey_refl rounded, if_pos rfl, if_pos rfl] at value
      have later : rest = rest' := by
        apply ih mapping mapping' others
        intro key among
        have same := values key (.tail _ among)
        rw [get?_cons, get?_cons, ← first, apart key among] at same
        exact same
      rw [Prod.ext first (Option.some.inj value), later]

/-! ## Setting values -/

/-- A name that a table has keeps its place when it is set, and a new one comes last. -/
theorem keys_insertEntry (key value : Document) (t : Table) :
    keys (Document.insertEntry key value t) = if t.has key then t.keys else t.keys ++ [key] := by
  induction t with
  | nil => rfl
  | cons entry rest ih =>
    rw [Document.insertEntry, has_cons, keys_cons]
    cases same : entry.1.sameKey key with
    | true => rfl
    | false =>
      rw [if_neg Bool.false_ne_true, Bool.false_or, keys_cons, ih]
      split <;> rfl

/-- A mapping in which a name is set is a mapping. -/
theorem IsMapping.insertEntry (mapping : t.IsMapping) (rounded : key.IsRounded) (value : Document) :
    IsMapping (Document.insertEntry key value t) := by
  cases held : t.has key with
  | true =>
    have same : keys (Document.insertEntry key value t) = t.keys := by rw [keys_insertEntry, if_pos held]
    exact ⟨same ▸ mapping.rounded, same ▸ mapping.distinct⟩
  | false =>
    have more : keys (Document.insertEntry key value t) = t.keys ++ [key] := by
      rw [keys_insertEntry, held, if_neg Bool.false_ne_true]
    have fresh : ∀ other ∈ t.keys, other.sameKey key = false := by
      intro other among
      have none := List.any_eq_false.1 held other among
      simpa using none
    refine ⟨?_, ?_⟩
    · rw [more, List.forall_mem_append]
      exact ⟨mapping.rounded, List.forall_mem_singleton.2 rounded⟩
    · rw [more, List.pairwise_append]
      refine ⟨mapping.distinct, List.pairwise_singleton .., ?_⟩
      intro other among last there
      obtain rfl := List.mem_singleton.1 there
      exact fresh other among

/-- A value that is set is found under its name, and under no other. -/
theorem get?_insertEntry (mapping : t.IsMapping) (rounded : key.IsRounded) (rounded' : name.IsRounded)
    (value : Document) :
    Table.get? (Document.insertEntry key value t) name = if key.sameKey name then some value else t.get? name := by
  induction t with
  | nil => rfl
  | cons entry rest ih =>
    obtain ⟨own, -, mapping⟩ := isMapping_cons.1 mapping
    rw [Document.insertEntry]
    cases same : entry.1.sameKey key with
    | true =>
      have alike : entry.1.sameKey name = key.sameKey name := Document.sameKey_congr own rounded same rounded'
      rw [if_pos rfl, get?_cons, get?_cons, alike]
      split <;> rfl
    | false =>
      rw [if_neg Bool.false_ne_true, get?_cons, get?_cons, ih mapping]
      cases found : entry.1.sameKey name with
      | false => rfl
      | true =>
        have apart : key.sameKey name = false := by
          rw [Document.sameKey_comm rounded rounded', ← Document.sameKey_congr own rounded' found rounded, same]
        rw [apart]
        rfl

/-! ## Mappings over mappings -/

/-- One table is laid over another entry by entry, from the first. -/
theorem update_cons (t : Table) (entry : Document × Document) (u : Table) :
    t.update (entry :: u) = Table.update (Document.insertEntry entry.1 entry.2 t) u := rfl

/-- A mapping laid over another is a mapping. -/
theorem IsMapping.update (mapping : t.IsMapping) (mapping' : u.IsMapping) : (t.update u).IsMapping := by
  induction u generalizing t with
  | nil => exact mapping
  | cons entry rest ih =>
    obtain ⟨own, -, later⟩ := isMapping_cons.1 mapping'
    rw [update_cons]
    exact ih (mapping.insertEntry own entry.2) later

/-- A name is looked up in the mapping that is laid over the other one first. -/
theorem get?_update (mapping : t.IsMapping) (mapping' : u.IsMapping) (rounded : name.IsRounded) :
    (t.update u).get? name = (u.get? name).or (t.get? name) := by
  induction u generalizing t with
  | nil => rfl
  | cons entry rest ih =>
    obtain ⟨own, apart, later⟩ := isMapping_cons.1 mapping'
    rw [update_cons, ih (mapping.insertEntry own entry.2) later, get?_insertEntry mapping own rounded, get?_cons]
    cases same : entry.1.sameKey name with
    | false => rfl
    | true =>
      -- The name stands here, so it does not stand in the rest.
      have none : Table.get? rest name = none := by
        rw [get?_eq_none_iff, has, List.any_eq_false]
        intro key among
        have other := apart key among
        rw [Document.sameKey_congr own rounded same (later.rounded key among),
          Document.sameKey_comm rounded (later.rounded key among)] at other
        rw [other]
        exact Bool.false_ne_true
      rw [none]
      rfl

/-- Setting another name does not change whether a table has a name. -/
theorem has_insertEntry (apart : key.sameKey name = false) (value : Document) (t : Table) :
    Table.has (Document.insertEntry key value t) name = t.has name := by
  rw [has, keys_insertEntry]
  split
  · rfl
  · rw [List.any_append, List.any_cons, apart]
    exact Bool.or_false _

/-- The names of the mapping below keep their places, and those that it lacks follow. -/
theorem keys_update (t : Table) (mapping' : u.IsMapping) :
    (t.update u).keys = t.keys ++ u.keys.filter (fun key => !t.has key) := by
  induction u generalizing t with
  | nil => exact (List.append_nil _).symm
  | cons entry rest ih =>
    obtain ⟨own, apart, later⟩ := isMapping_cons.1 mapping'
    have same : (keys rest).filter (fun key => !Table.has (Document.insertEntry entry.1 entry.2 t) key) =
        (keys rest).filter fun key => !t.has key := by
      apply List.filter_congr
      intro key among
      rw [has_insertEntry (apart key among)]
    rw [update_cons, ih _ later, same, keys_insertEntry, keys_cons, List.filter_cons]
    cases t.has entry.1 with
    | true => rfl
    | false => exact List.append_assoc _ _ _

/-- A table laid over another has the names of both. -/
theorem has_update (mapping : t.IsMapping) (mapping' : u.IsMapping) (rounded : name.IsRounded) :
    (t.update u).has name = (u.has name || t.has name) := by
  have either : (t.update u).get? name = none ↔ u.get? name = none ∧ t.get? name = none := by
    rw [get?_update mapping mapping' rounded, Option.or_eq_none_iff]
  rw [get?_eq_none_iff, get?_eq_none_iff, get?_eq_none_iff] at either
  rw [Bool.eq_iff_iff, ← not_iff_not]
  simpa using either

/-- It does not matter whether a mapping is laid over two others one by one or over both at once. -/
theorem update_assoc (mapping : t.IsMapping) (mapping' : u.IsMapping) (mapping'' : v.IsMapping) :
    (t.update u).update v = t.update (u.update v) := by
  have upper := mapping'.update mapping''
  apply ext ((mapping.update mapping').update mapping'') (mapping.update upper)
  · have lacking : v.keys.filter (fun key => !(t.update u).has key) =
        (v.keys.filter fun key => !u.has key).filter fun key => !t.has key := by
      rw [List.filter_filter]
      apply List.filter_congr
      intro key among
      rw [has_update mapping mapping' (mapping''.rounded key among), Bool.not_or, Bool.and_comm]
    rw [keys_update _ mapping'', keys_update _ mapping', keys_update _ upper, keys_update _ mapping'',
      List.filter_append, lacking, List.append_assoc]
  · intro key among
    have rounded := ((mapping.update mapping').update mapping'').rounded key among
    rw [get?_update (mapping.update mapping') mapping'' rounded, get?_update mapping mapping' rounded,
      get?_update mapping upper rounded, get?_update mapping' mapping'' rounded, Option.or_assoc]

/-- Mappings laid over each other, the later ones in front. -/
def overlaid (tables : List Table) : Table := tables.foldl update []

variable {tables : List Table}

/-- The last one of some tables is laid over those before it. -/
theorem overlaid_concat (tables : List Table) (t : Table) : overlaid (tables ++ [t]) = (overlaid tables).update t := by
  rw [overlaid, List.foldl_append]
  rfl

/-- Mappings laid over each other are a mapping. -/
theorem isMapping_overlaid (each : ∀ t ∈ tables, t.IsMapping) : (overlaid tables).IsMapping := by
  induction tables using List.reverseRecOn with
  | nil => exact .nil
  | append_singleton others t ih =>
    rw [List.forall_mem_append, List.forall_mem_singleton] at each
    rw [overlaid_concat]
    exact (ih each.1).update each.2

/-- A name has what the last mapping gives it that knows it. -/
theorem get?_overlaid (each : ∀ t ∈ tables, t.IsMapping) (rounded : name.IsRounded) :
    (overlaid tables).get? name = tables.reverse.findSome? (·.get? name) := by
  induction tables using List.reverseRecOn with
  | nil => rfl
  | append_singleton others t ih =>
    rw [List.forall_mem_append, List.forall_mem_singleton] at each
    rw [overlaid_concat, get?_update (isMapping_overlaid each.1) each.2 rounded, ih each.1, List.reverse_append,
      List.reverse_singleton, List.singleton_append, List.findSome?_cons]
    cases t.get? name <;> rfl

/-- Mappings lie on another one as they do when they are laid over each other first. -/
theorem update_overlaid (mapping : t.IsMapping) (each : ∀ u ∈ tables, u.IsMapping) :
    t.update (overlaid tables) = tables.foldl update t := by
  induction tables using List.reverseRecOn with
  | nil => rfl
  | append_singleton others u ih =>
    rw [List.forall_mem_append, List.forall_mem_singleton] at each
    rw [overlaid_concat, ← update_assoc mapping (isMapping_overlaid each.1) each.2, ih each.1, List.foldl_append]
    rfl

/-- Tables in a row can be laid over each other in two parts. -/
theorem overlaid_append {first second : List Table} (each : ∀ t ∈ first, t.IsMapping)
    (each' : ∀ t ∈ second, t.IsMapping) :
    overlaid (first ++ second) = (overlaid first).update (overlaid second) := by
  rw [update_overlaid (isMapping_overlaid each) each', overlaid, List.foldl_append]
  rfl

end Table

/-! ## Profiles over profiles -/

/-- Whether the tables of a profile are mappings. -/
structure TypeProfile.IsMapping (p : TypeProfile) : Prop where
  aliases : p.aliases.IsMapping
  imports : p.imports.IsMapping

/-- The value that the last of some profiles gives a name that has one for it in a table. -/
def TypeProfile.lastValue? (table : TypeProfile → Table) (profiles : List TypeProfile) (name : Document) :
    Option Document :=
  profiles.reverse.findSome? fun p => (table p).get? name

section

variable {profiles : List TypeProfile}

/-- The names of types in profiles are mappings if the profiles are pairs of mappings. -/
theorem TypeProfile.forall_aliases (each : ∀ p ∈ profiles, p.IsMapping) :
    ∀ t ∈ profiles.map (·.aliases), t.IsMapping :=
  List.forall_mem_map.2 fun p among => (each p among).aliases

/-- The imports in profiles are mappings if the profiles are pairs of mappings. -/
theorem TypeProfile.forall_imports (each : ∀ p ∈ profiles, p.IsMapping) :
    ∀ t ∈ profiles.map (·.imports), t.IsMapping :=
  List.forall_mem_map.2 fun p among => (each p among).imports

/-- The last value that profiles have is the first one from behind. -/
theorem TypeProfile.findSome?_tables (table : TypeProfile → Table) (profiles : List TypeProfile) (name : Document) :
    (profiles.map table).reverse.findSome? (·.get? name) = lastValue? table profiles name := by
  rw [← List.map_reverse, List.findSome?_map]
  rfl

end

namespace TypeTable

/-- Profiles are laid over a type table in each of its tables. -/
theorem foldl_merge (r : TypeTable) (profiles : List TypeProfile) :
    profiles.foldl merge r =
      ⟨(profiles.map (·.aliases)).foldl Table.update r.aliases, (profiles.map (·.imports)).foldl Table.update r.imports⟩ := by
  induction profiles generalizing r with
  | nil => rfl
  | cons p rest ih => exact ih (r.merge p)

/-- Profiles make two tables, each of which is laid out of theirs. -/
theorem ofProfiles_eq (profiles : List TypeProfile) :
    ofProfiles profiles = ⟨.overlaid (profiles.map (·.aliases)), .overlaid (profiles.map (·.imports))⟩ :=
  foldl_merge empty profiles

/-- The names of types that profiles give are a mapping. -/
theorem isMapping_aliases {profiles : List TypeProfile} (each : ∀ p ∈ profiles, p.IsMapping) :
    (ofProfiles profiles).aliases.IsMapping := by
  rw [ofProfiles_eq]
  exact Table.isMapping_overlaid (TypeProfile.forall_aliases each)

/-- The imports that profiles give are a mapping. -/
theorem isMapping_imports {profiles : List TypeProfile} (each : ∀ p ∈ profiles, p.IsMapping) :
    (ofProfiles profiles).imports.IsMapping := by
  rw [ofProfiles_eq]
  exact Table.isMapping_overlaid (TypeProfile.forall_imports each)

/-- Profiles in a row are laid over each other in two parts as they are one by one. -/
theorem ofProfiles_append {first second : List TypeProfile} (each : ∀ p ∈ first, p.IsMapping)
    (each' : ∀ p ∈ second, p.IsMapping) :
    ofProfiles (first ++ second) = (ofProfiles first).update (ofProfiles second) := by
  rw [ofProfiles_eq, ofProfiles_eq, ofProfiles_eq, List.map_append, List.map_append,
    Table.overlaid_append (TypeProfile.forall_aliases each) (TypeProfile.forall_aliases each'),
    Table.overlaid_append (TypeProfile.forall_imports each) (TypeProfile.forall_imports each')]
  rfl

variable {own : Table} {profiles : List TypeProfile} {name : Document}

/-- Over a table of their own, names have what the last profile gives them that knows them. -/
theorem get?_aliases_update (mapping : own.IsMapping) (each : ∀ p ∈ profiles, p.IsMapping) (rounded : name.IsRounded) :
    (update ⟨own, []⟩ (ofProfiles profiles)).aliases.get? name =
      (TypeProfile.lastValue? (·.aliases) profiles name).or (own.get? name) := by
  have aliases := TypeProfile.forall_aliases each
  have both := Table.get?_update mapping (Table.isMapping_overlaid aliases) rounded
  rw [Table.get?_overlaid aliases rounded, TypeProfile.findSome?_tables] at both
  rw [ofProfiles_eq]
  exact both

/-- The import of a name is that of the last profile that has one, since a configuration gives none. -/
theorem get?_imports_update (each : ∀ p ∈ profiles, p.IsMapping) (rounded : name.IsRounded) :
    (update ⟨own, []⟩ (ofProfiles profiles)).imports.get? name = TypeProfile.lastValue? (·.imports) profiles name := by
  have imports := TypeProfile.forall_imports each
  have both := Table.get?_update .nil (Table.isMapping_overlaid imports) rounded
  rw [Table.get?_overlaid imports rounded, TypeProfile.findSome?_tables] at both
  rw [ofProfiles_eq]
  exact both.trans Option.or_none

/-- It does not matter whether profiles are laid over a table one by one or over each other first. -/
theorem update_ofProfiles (mapping : own.IsMapping) (each : ∀ p ∈ profiles, p.IsMapping) :
    update ⟨own, []⟩ (ofProfiles profiles) = profiles.foldl merge ⟨own, []⟩ := by
  rw [foldl_merge, ← Table.update_overlaid mapping (TypeProfile.forall_aliases each),
    ← Table.update_overlaid .nil (TypeProfile.forall_imports each), ofProfiles_eq]
  rfl

end TypeTable

/-! ## Profiles in documents and files -/

namespace TypeProfile

/-- Whether a field of a profile holds a mapping with the entries of a table, or is null or absent and the table is
empty. -/
def HoldsTable (fields : Fields) (key : String) (t : Table) : Prop :=
  match fields.get? key with
  | none | some .null => t = []
  | some value => value.reveal = .map t

/-- Whether a document is a mapping that gives a profile. -/
def IsGivenBy (p : TypeProfile) (d : Document) : Prop :=
  ∃ fields, d.fields? = some fields ∧ HoldsTable fields "aliases" p.aliases ∧ HoldsTable fields "imports" p.imports

/-- A table that a field of a profile holds is read from it. -/
theorem tableIn_eq {fields : Fields} {key : String} {t : Table} (holds : HoldsTable fields key t) :
    tableIn fields key = .ok t := by
  unfold HoldsTable at holds
  unfold tableIn Loading.field
  split at holds
  · next absent =>
    rw [absent, holds]
    rfl
  · next null =>
    rw [null, holds]
    rfl
  · next value other found =>
    rw [found, Option.getD_some]
    have entries : value.asEntries = .ok t := by
      rw [Document.asEntries, holds]
      rfl
    -- An empty mapping does not count as given.
    have nothing : value.isGiven = false → t = [] := by
      intro none
      cases value with
      | map own =>
        obtain rfl : own = t := Document.map.inj holds
        simpa [Document.isGiven] using none
      | knot label body => cases none
      | _ => cases holds
    dsimp only
    split
    · rw [entries]
      rfl
    · next none =>
      rw [nothing (Bool.eq_false_iff.2 none)]
      rfl

/-- A document that gives a profile is read as it. -/
theorem ofDocument_eq {p : TypeProfile} {d : Document} (given : p.IsGivenBy d) : ofDocument d = .ok p := by
  obtain ⟨fields, mapping, aliases, imports⟩ := given
  unfold ofDocument
  rw [mapping]
  dsimp only
  rw [tableIn_eq aliases, tableIn_eq imports]
  rfl

/-- Documents that give profiles are read as these, in order. -/
theorem mapM_ofDocument {profiles : List TypeProfile} {documents : List Document}
    (given : List.Forall₂ IsGivenBy profiles documents) : documents.mapM ofDocument = .ok profiles := by
  have each : ∀ d ∈ documents, ∀ p, ofDocument d = .ok p ↔ ofDocument d = .ok p := fun _ _ _ => Iff.rfl
  rw [mapM_eq_ok each]
  exact given.flip.imp fun _ _ => ofDocument_eq

/-- Whether a file has a document that gives a profile. -/
def IsIn (p : TypeProfile) (files : FileTree) (name : String) : Prop :=
  ∃ d, readFile files name = .ok d ∧ p.IsGivenBy d

end TypeProfile

namespace TypeTable

open TypeProfile (IsGivenBy IsIn)

variable {profiles : List TypeProfile} {files : FileTree} {names : List String}

/-- A list of documents that give profiles is read as the table of these. -/
theorem ofDocument_eq {documents : List Document} (given : List.Forall₂ IsGivenBy profiles documents) :
    ofDocument (.list documents) = .ok (ofProfiles profiles) := by
  unfold ofDocument
  split
  · have parts : orProfileError (Document.list documents).asParts = .ok documents := rfl
    rw [parts]
    change (documents.mapM TypeProfile.ofDocument >>= fun profiles => pure (ofProfiles profiles)) = _
    rw [TypeProfile.mapM_ofDocument given]
    rfl
  · next none =>
    obtain rfl : documents = [] := by simpa [Document.isGiven] using none
    cases given
    rfl

/-- Names that are empty are skipped. -/
theorem filter_names (names : List String) :
    (names.map Document.text).filter (·.isGiven) = (names.filter (! ·.isEmpty)).map Document.text := by
  rw [List.filter_map]
  rfl

/-- Files with profiles in them are read as documents that give these. -/
theorem exists_documents {given : List String}
    (loaded : List.Forall₂ (fun p name => p.IsIn files name) profiles given) :
    ∃ documents, given.mapM (TypeProfile.readFile files) = .ok documents ∧
      List.Forall₂ IsGivenBy profiles documents := by
  induction loaded with
  | nil => exact ⟨[], rfl, .nil⟩
  | cons first _ ih =>
    obtain ⟨d, read, gives⟩ := first
    obtain ⟨documents, others, give⟩ := ih
    refine ⟨d :: documents, ?_, .cons gives give⟩
    rw [List.mapM_cons, read, others]
    rfl

/-- Files are read in the order of their names; empty names are skipped. -/
theorem ofFiles_eq (loaded : List.Forall₂ (fun p name => p.IsIn files name) profiles (names.filter (! ·.isEmpty))) :
    ofFiles files (.list (names.map .text)) = .ok (ofProfiles profiles) := by
  obtain ⟨documents, read, give⟩ := exists_documents loaded
  have parts : orProfileError (Document.list (names.map .text)).asParts = .ok (names.map .text) := rfl
  unfold ofFiles
  rw [parts]
  change (((names.map Document.text).filter (·.isGiven)).mapM _ >>= fun documents =>
    documents.mapM TypeProfile.ofDocument >>= fun profiles => pure (ofProfiles profiles)) = _
  rw [filter_names, List.mapM_map]
  change ((names.filter (! ·.isEmpty)).mapM (TypeProfile.readFile files) >>= _) = _
  rw [read]
  change (documents.mapM TypeProfile.ofDocument >>= _) = _
  rw [TypeProfile.mapM_ofDocument give]
  rfl

end TypeTable

/-! ## The type table of a configuration -/

open TypeProfile (IsGivenBy IsIn lastValue?)
open TypeTable (ofProfiles)

/-- Whether a configuration lists files of profiles with some names; without a list there are none. -/
def Configuration.Lists (c : Configuration) (names : List String) : Prop :=
  c.profiles = .list (names.map .text) ∨ c.profiles = .null ∧ names = []

/-- The type table of a configuration has the profiles that it lists over its own names. -/
theorem Configuration.typeTable_eq {c : Configuration} {files : FileTree} {own : Table} {profiles : List TypeProfile}
    {names : List String} (primitives : c.primitives.reveal = .map own) (lists : c.Lists names)
    (loaded : List.Forall₂ (fun p name => p.IsIn files name) profiles (names.filter (! ·.isEmpty))) :
    c.typeTable files = .ok (TypeTable.update ⟨own, []⟩ (ofProfiles profiles)) := by
  have entries : orProfileError c.primitives.asEntries = .ok own := by
    rw [Document.asEntries, primitives]
    rfl
  unfold typeTable
  rw [entries]
  change (if c.profiles.isGiven then _ else _) = _
  split
  · next given =>
    rcases lists with list | ⟨null, -⟩
    · rw [list, TypeTable.ofFiles_eq loaded]
      rfl
    · rw [null] at given
      cases given
  · next none =>
    have nothing : names = [] := by
      rcases lists with list | ⟨-, nothing⟩
      · rw [list] at none
        simpa [Document.isGiven] using none
      · exact nothing
    subst nothing
    cases loaded
    rfl

/-- In the type table of a configuration a name has what the last profile gives it that knows it, else what the
configuration gives it, else itself; an import is that of the last profile that has one.  Profiles in a row are laid over
each other in two parts as they are one by one, names in their first places, and it does not matter whether this is done
over the names of the configuration or before.  The profiles are those in a list of documents, or in the files that a
configuration lists, in this order and without the empty names. -/
theorem profiles_are_layered {c : Configuration} {own : Table} {profiles : List TypeProfile}
    (primitives : c.primitives.reveal = .map own) (mapping : own.IsMapping) (each : ∀ p ∈ profiles, p.IsMapping) :
    let table := TypeTable.update ⟨own, []⟩ (ofProfiles profiles)
    (∀ name : Document, name.isKey → name.IsRounded →
      table.resolve name = .ok (((lastValue? (·.aliases) profiles name).or (own.get? name)).getD name) ∧
        table.importFor name = lastValue? (·.imports) profiles name) ∧
    table = profiles.foldl TypeTable.merge ⟨own, []⟩ ∧
    (∀ first second, profiles = first ++ second →
      let below := ofProfiles first
      let above := ofProfiles second
      ofProfiles profiles = below.update above ∧
        (ofProfiles profiles).aliases.keys =
          below.aliases.keys ++ above.aliases.keys.filter (fun key => !below.aliases.has key) ∧
        (ofProfiles profiles).imports.keys =
          below.imports.keys ++ above.imports.keys.filter (fun key => !below.imports.has key)) ∧
    (∀ documents, List.Forall₂ IsGivenBy profiles documents →
      TypeTable.ofDocument (.list documents) = .ok (ofProfiles profiles)) ∧
    (∀ files names, c.Lists names →
      List.Forall₂ (fun p name => p.IsIn files name) profiles (names.filter (! ·.isEmpty)) →
      TypeTable.ofFiles files (.list (names.map .text)) = .ok (ofProfiles profiles) ∧
        c.typeTable files = .ok table) := by
  intro table
  refine ⟨?values, TypeTable.update_ofProfiles mapping each, ?parts, ?documents, ?files⟩
  case values =>
    intro name isKey rounded
    have key : name.asKey = .ok name := by
      rw [Document.asKey, Option.isNone_iff_eq_none.1 isKey]
      rfl
    refine ⟨?_, TypeTable.get?_imports_update each rounded⟩
    rw [TypeTable.resolve, key, ← TypeTable.get?_aliases_update mapping each rounded]
    rfl
  case parts =>
    rintro first second rfl below above
    rw [List.forall_mem_append] at each
    have whole : ofProfiles (first ++ second) = below.update above := TypeTable.ofProfiles_append each.1 each.2
    rw [whole]
    exact ⟨rfl, Table.keys_update _ (TypeTable.isMapping_aliases each.2),
      Table.keys_update _ (TypeTable.isMapping_imports each.2)⟩
  case documents =>
    intro documents given
    exact TypeTable.ofDocument_eq given
  case files =>
    intro files names lists loaded
    exact ⟨TypeTable.ofFiles_eq loaded, Configuration.typeTable_eq primitives lists loaded⟩

namespace FileTree

open String.Pos.Raw in
/-- A path of one character that is no slash has one part. -/
theorem parts_of_one {path : String} (some : atEnd path 0 = false) (other : (get path 0 == get "/" 0) = false)
    (last : atEnd path (next path 0) = true) (whole : extract path 0 (next path 0) = path) : parts path = [path] := by
  unfold parts String.splitOn
  have separates : ¬ (("/" == "") = true) := by decide
  rw [if_neg separates, String.splitOnAux, some, if_neg Bool.false_ne_true, other, if_neg Bool.false_ne_true,
    String.splitOnAux]
  have start : unoffsetBy 0 0 = (0 : String.Pos.Raw) := rfl
  rw [start, last, if_pos rfl, whole]
  rfl

/-- A file whose name is one part is found by that name. -/
theorem find_of_one {files : FileTree} {path text : String} (legible : path.toList.any (fun c => c.toNat == 0) = false)
    (short : path.utf8ByteSize ≤ longestName) (one : parts path = [path]) (names : staysInPlace path = false)
    (down : path ≠ "..") (held : files.fileAt? [path] = some text) : files.find path = .ok text := by
  have some : path ≠ "" := by
    rintro rfl
    cases names
  have empty : path.isEmpty = false := by simpa using some
  have bound : ¬ overlongPath ≤ path.utf8ByteSize := by
    rw [overlongPath]
    rw [longestName] at short
    omega
  have walked : walk files [] [path] = .ok text := by
    rw [walk, names, if_neg Bool.false_ne_true, if_neg (by simpa using down), if_neg (Nat.not_lt.2 short)]
    dsimp only [List.nil_append]
    rw [held]
    rfl
  rw [find, empty, legible, one, if_neg Bool.false_ne_true, if_neg Bool.false_ne_true, if_neg bound]
  split
  · next same => exact absurd (List.cons.inj same).1 some
  · exact walked

end FileTree

/-- A profile that renames a type of its own besides one of a configuration. -/
def TypeProfile.amounts : TypeProfile :=
  ⟨[(.text "Money", .text "Amount"), (.text "Decimal", .text "Float")], []⟩

/-- A profile that renames one of these types again and says what this needs. -/
def TypeProfile.exact : TypeProfile :=
  ⟨[(.text "Money", .text "Exact")], [(.text "Exact", .text "shop.Exact")]⟩

/-- Files with these profiles. -/
def FileTree.profiles : FileTree :=
  [("a", "\x7b\"aliases\": \x7b\"Money\": \"Amount\", \"Decimal\": \"Float\"\x7d, \"imports\": null\x7d"),
    ("b", "\x7b\"aliases\": \x7b\"Money\": \"Exact\"\x7d, \"imports\": \x7b\"Exact\": \"shop.Exact\"\x7d\x7d")]

/-- A configuration that lists these files, with an empty name between them. -/
def Configuration.payments : Configuration :=
  { primitives := .map [(.text "Decimal", .text "Double"), (.text "Flag", .text "boolean")]
    profiles := .list (["a", "", "b"].map .text) }

/-- The first file has the first profile in it. -/
theorem TypeProfile.amounts_isIn : amounts.IsIn .profiles "a" := by
  have one : FileTree.parts "a" = ["a"] := FileTree.parts_of_one (by decide) (by decide) (by decide) (by decide)
  have held : FileTree.profiles.fileAt? ["a"] = some FileTree.profiles[0].2 := by
    simp [FileTree.fileAt?, FileTree.profiles, FileTree.namedParts, one, FileTree.staysInPlace]
  have found := FileTree.find_of_one (by decide) (by decide) one (by decide) (by decide) held
  refine ⟨.map [(.text "aliases", .map amounts.aliases), (.text "imports", .null)], ?_, _, rfl, rfl, rfl⟩
  unfold readFile
  rw [found]
  decide +kernel

/-- The second file has the second profile in it. -/
theorem TypeProfile.exact_isIn : exact.IsIn .profiles "b" := by
  have one : FileTree.parts "a" = ["a"] := FileTree.parts_of_one (by decide) (by decide) (by decide) (by decide)
  have one' : FileTree.parts "b" = ["b"] := FileTree.parts_of_one (by decide) (by decide) (by decide) (by decide)
  have held : FileTree.profiles.fileAt? ["b"] = some FileTree.profiles[1].2 := by
    simp [FileTree.fileAt?, FileTree.profiles, FileTree.namedParts, one, one', FileTree.staysInPlace]
  have found := FileTree.find_of_one (by decide) (by decide) one' (by decide) (by decide) held
  refine ⟨.map [(.text "aliases", .map exact.aliases), (.text "imports", .map exact.imports)], ?_, _, rfl, rfl, rfl⟩
  unfold readFile
  rw [found]
  decide +kernel

/-- For two profiles over a configuration that names two primitive types, the later profile wins, then the earlier one
and then the configuration. -/
theorem profiles_are_layered_for_payments :
    ∃ table, Configuration.payments.typeTable .profiles = .ok table ∧
      table.resolve (.text "Money") = .ok (.text "Exact") ∧
      table.resolve (.text "Decimal") = .ok (.text "Float") ∧
      table.resolve (.text "Flag") = .ok (.text "boolean") ∧
      table.resolve (.text "Order") = .ok (.text "Order") ∧
      table.importFor (.text "Exact") = some (.text "shop.Exact") ∧ table.importFor (.text "Order") = none := by
  have own := Table.isMapping_texts [("Decimal", .text "Double"), ("Flag", .text "boolean")] (by decide)
  have amounts : TypeProfile.amounts.IsMapping :=
    ⟨Table.isMapping_texts [("Money", .text "Amount"), ("Decimal", .text "Float")] (by decide), .nil⟩
  have exact_ : TypeProfile.exact.IsMapping :=
    ⟨Table.isMapping_texts [("Money", .text "Exact")] (by decide),
      Table.isMapping_texts [("Exact", .text "shop.Exact")] (by decide)⟩
  have each : ∀ p ∈ [TypeProfile.amounts, .exact], p.IsMapping :=
    List.forall_mem_cons.2 ⟨amounts, List.forall_mem_singleton.2 exact_⟩
  obtain ⟨values, -, -, -, loaded⟩ := profiles_are_layered (c := .payments) rfl own each
  have listed := loaded .profiles ["a", "", "b"] (.inl rfl)
    (.cons TypeProfile.amounts_isIn (.cons TypeProfile.exact_isIn .nil))
  have value := fun name => values (.text name) rfl trivial
  exact ⟨_, listed.2, (value "Money").1, (value "Decimal").1, (value "Flag").1, (value "Order").1, (value "Exact").2,
    (value "Order").2⟩

end ClassDiagram
