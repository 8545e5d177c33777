import ClassDiagram.Proofs.Loading.Format

/-!
# Reading accepts the format

Each reader gives an element exactly if the document declares it: a reader is a sequence of checks, and each check
passes exactly if a part of the declaration holds (`propertyOf_eq_ok`, `typeOf_eq_ok`).  Only where a value is read by its
text must other values be excluded: what they are shown as is no word of the format (`shown_bind_eq_ok`).
-/

set_option autoImplicit false

namespace ClassDiagram

namespace Loading

open Form

variable {path : String} {d : Document}

/-! ## Fields -/

/-- What is refused gives nothing. -/
theorem refuse_ne_ok {α : Type} {problem : LoadProblem} {a : α} : refuse path problem ≠ .ok a := nofun

/-- A value is shown in a message by its text. -/
theorem shown_eq_ok {s : String} : shown d = .ok s ↔ d.display? = some s := by
  unfold shown
  cases d.display? with
  | none => exact ⟨nofun, nofun⟩
  | some text => exact ⟨fun same => congrArg some (Except.ok.inj same), fun same => congrArg Except.ok (Option.some.inj same)⟩

/-- A reference is read exactly if the value gives one. -/
theorem referenceOf_eq_ok {r : Option String} : referenceOf path d = .ok r ↔ Gives some d r := by
  unfold referenceOf
  split
  · rw [gives_null]
    exact ⟨fun same => (Except.ok.inj same).symm, fun none => congrArg Except.ok none.symm⟩
  · next name =>
    have given : Document.text name ≠ .null := nofun
    rw [gives_of_ne_null given]
    constructor
    · intro same
      exact ⟨name, name, rfl, rfl, (Except.ok.inj same).symm⟩
    · rintro ⟨word, other, ⟨⟩, ⟨⟩, rfl⟩
      rfl
  · next notNull notText =>
    rw [gives_of_ne_null notNull]
    exact ⟨fun refused => absurd refused refuse_ne_ok, fun ⟨word, _, same, _⟩ => absurd same (notText word)⟩

/-- A field of the entries of a document is what it holds there. -/
theorem field_entries (d : Document) (key : String) : field (.ofEntries d.entries) key = d.held key := by
  rw [field, Document.get?_entries]
  rfl

/-- A flag of the entries of a document is set if what it holds there counts. -/
theorem flag_entries (d : Document) (key : String) : flag (.ofEntries d.entries) key = (d.held key).isGiven := by
  rw [flag, field_entries]

/-- A name is read exactly if it is a text that is not empty. -/
theorem nameOf_eq_ok {name : String} :
    nameOf path (.ofEntries d.entries) = .ok name ↔ d.held "name" = .text name ∧ name ≠ "" := by
  unfold nameOf
  rw [field_entries]
  split
  · next word named =>
    rw [named]
    split
    · next empty =>
      refine ⟨fun refused => absurd refused refuse_ne_ok, ?_⟩
      rintro ⟨⟨⟩, some⟩
      exact absurd (String.isEmpty_iff.1 empty) some
    · next some =>
      constructor
      · intro read
        obtain rfl := Except.ok.inj read
        exact ⟨rfl, fun empty => some (String.isEmpty_iff.2 empty)⟩
      · rintro ⟨⟨⟩, -⟩
        rfl
  · next notText =>
    exact ⟨fun refused => absurd refused refuse_ne_ok, fun named => absurd named.1 (notText name)⟩

/-- What is read of a mapping that is a JSON document is read of its entries. -/
theorem mapping_bind_eq_ok {α : Type} (json : d.isJson) {read : Fields → Result α} {a : α} :
    (mapping path d >>= read) = .ok a ↔ d.isMapping ∧ read (.ofEntries d.entries) = .ok a := by
  cases d with
  | map entries => exact ⟨fun read => ⟨rfl, read⟩, And.right⟩
  | knot label body => cases json
  | _ => exact ⟨nofun, nofun⟩

/-- Items are read exactly where a list may be, and are those of the list. -/
theorem sequence_eq_ok (json : d.isJson) {key : String} {items : List Document} :
    sequence path (.ofEntries d.entries) key = .ok items ↔ MayList d key ∧ items = d.items key := by
  have entry := Document.isJson_held json key
  unfold sequence MayList Document.items
  rw [field_entries]
  cases value : d.held key with
  | null => exact ⟨fun read => ⟨.inl rfl, (Except.ok.inj read).symm⟩, fun ⟨_, same⟩ => congrArg Except.ok same.symm⟩
  | list listed =>
    exact ⟨fun read => ⟨.inr ⟨listed, rfl⟩, (Except.ok.inj read).symm⟩, fun ⟨_, same⟩ => congrArg Except.ok same.symm⟩
  | knot label body =>
    rw [value] at entry
    cases entry
  | _ =>
    refine ⟨fun refused => absurd refused refuse_ne_ok, ?_⟩
    rintro ⟨none | ⟨_, list⟩, -⟩
    · cases none
    · cases list

section

variable {α β : Type} {key : String} {read : Document → Result α} {R : Document → α → Prop}
  (each : ∀ item ∈ d.items key, ∀ a, read item = .ok a ↔ R item a)
include each

/-- A list is read exactly if its items are, one after another. -/
theorem items_eq_ok (json : d.isJson) {elements : List α} :
    (sequence path (.ofEntries d.entries) key >>= fun items => items.mapM read) = .ok elements ↔
      DeclaresList R d key elements := by
  rw [bind_eq_ok]
  constructor
  · rintro ⟨items, found, reads⟩
    obtain ⟨listed, rfl⟩ := (sequence_eq_ok json).1 found
    exact ⟨listed, (mapM_eq_ok each).1 reads⟩
  · rintro ⟨listed, declared⟩
    exact ⟨d.items key, (sequence_eq_ok json).2 ⟨listed, rfl⟩, (mapM_eq_ok each).2 declared⟩

/-- Elements are read from items exactly if the list declares them. -/
theorem items_bind_eq_ok (json : d.isJson) {build : List α → Result β} {b : β} :
    (sequence path (.ofEntries d.entries) key >>= fun items => items.mapM read >>= build) = .ok b ↔
      ∃ elements, DeclaresList R d key elements ∧ build elements = .ok b := by
  rw [← bind_assoc, bind_eq_ok]
  exact exists_congr fun elements => and_congr_left fun _ => items_eq_ok each json

end

/-! ## Words -/

/-- The words of a vocabulary are plain. -/
def IsVocabulary {α : Type} (ofWord? : String → Option α) : Prop :=
  ∀ word a, ofWord? word = some a → Document.isPlainWord word

/-- A value is read as a word exactly if it is a text that stands for it: other values are shown as no word. -/
theorem shown_bind_eq_ok {α β : Type} {ofWord? : String → Option α} (vocabulary : IsVocabulary ofWord?) (result : α → β)
    (json : d.isJson) (given : d ≠ .null) {read : String → Result β} {b : β}
    (known : ∀ word a, ofWord? (Text.lower word) = some a → read word = .ok (result a))
    (unknown : ∀ word, ofWord? (Text.lower word) = none → read word ≠ .ok b) :
    (shown d >>= read) = .ok b ↔ ∃ word a, d = .text word ∧ ofWord? (Text.lower word) = some a ∧ b = result a := by
  rw [bind_eq_ok]
  constructor
  · rintro ⟨s, isShown, reads⟩
    rw [shown_eq_ok] at isShown
    cases found : ofWord? (Text.lower s) with
    | none => exact absurd reads (unknown s found)
    | some a =>
      rw [known s a found] at reads
      refine ⟨s, a, ?_, found, (Except.ok.inj reads).symm⟩
      by_cases isText : d.isText
      · obtain ⟨word, rfl⟩ := Document.exists_of_isText isText
        exact congrArg Document.text (Option.some.inj isShown)
      · have other : d.isText = false := by simpa using isText
        exact absurd rfl (Document.lower_display_ne json given other isShown (vocabulary _ a found))
  · rintro ⟨word, a, rfl, found, rfl⟩
    exact ⟨word, rfl, known word a found⟩

/-- A visibility is read exactly if the value gives it. -/
theorem visibilityOf_eq_ok (json : d.isJson) {r : Option Visibility} :
    visibilityOf path d = .ok r ↔ Gives visibility? d r := by
  have vocabulary : IsVocabulary Visibility.ofWord? := by
    intro word a found
    obtain rfl : a.word = word := by simpa using List.find?_some found
    cases a <;> decide
  unfold visibilityOf
  split
  · rw [gives_null]
    exact ⟨fun same => (Except.ok.inj same).symm, fun none => congrArg Except.ok none.symm⟩
  · next given =>
    rw [gives_of_ne_null given]
    refine shown_bind_eq_ok vocabulary some json given (fun word a found => ?_) fun word found => ?_
    · rw [found]
      rfl
    · rw [found]
      exact refuse_ne_ok

/-- An aggregation is read exactly if the value gives it, or nothing for a plain one. -/
theorem aggregationOf_eq_ok (json : d.isJson) {a : Aggregation} :
    aggregationOf path d = .ok a ↔ ∃ given, Gives aggregation? d given ∧ a = given.getD .plain := by
  have vocabulary : IsVocabulary Aggregation.ofWord? := by
    intro word a found
    obtain rfl : a.word = word := by simpa using List.find?_some found
    cases a <;> decide
  unfold aggregationOf
  split
  · constructor
    · exact fun same => ⟨none, rfl, (Except.ok.inj same).symm⟩
    · rintro ⟨given, gives, rfl⟩
      obtain rfl := gives_null.1 gives
      rfl
  · next given =>
    rw [shown_bind_eq_ok vocabulary id json given (fun word a found => by rw [found]; rfl)
      (fun word found => by rw [found]; exact refuse_ne_ok)]
    constructor
    · rintro ⟨word, a, rfl, found, rfl⟩
      exact ⟨some a, ⟨word, rfl, found⟩, rfl⟩
    · rintro ⟨named, gives, rfl⟩
      obtain ⟨word, a, rfl, found, rfl⟩ := (gives_of_ne_null given).1 gives
      exact ⟨word, a, rfl, found, rfl⟩

/-- A kind is read exactly if its word is given. -/
theorem kindOf_eq_ok (json : d.isJson) {k : Kind} :
    kindOf path (.ofEntries d.entries) = .ok k ↔ ∃ word, d.held "kind" = .text word ∧ kind? word = some k := by
  have vocabulary : IsVocabulary fun word => List.lookup word kindWords := by
    intro word k found
    have all : (kindWords.all fun entry => Document.isPlainWord entry.1) = true := by decide
    obtain ⟨before, after, split, -⟩ := List.lookup_eq_some_iff.1 found
    exact List.all_eq_true.1 all (word, k) (by simp [split])
  -- the words that null and an absent kind are read as
  have unknown : List.lookup (Text.lower "None") kindWords = none ∧ List.lookup (Text.lower "") kindWords = none := by
    decide +kernel
  have never : (shown (field (.ofEntries d.entries) "kind") >>= fun word => refuse path (.unknownKind word)) ≠ .ok k := by
    intro read
    obtain ⟨_, _, refused⟩ := bind_eq_ok.1 read
    exact refuse_ne_ok refused
  unfold kindOf
  rw [Document.get?_entries]
  cases found : d.entry? "kind" with
  | none =>
    have absent : d.held "kind" = .null := by rw [Document.held, found]; rfl
    rw [absent, Option.getD_none, bind_eq_ok]
    refine ⟨?_, nofun⟩
    rintro ⟨word, ⟨⟩, read⟩
    rw [unknown.2] at read
    exact absurd read never
  | some value =>
    have here : d.held "kind" = value := by rw [Document.held, found]; rfl
    rw [here, Option.getD_some]
    by_cases null : value = .null
    · subst null
      rw [bind_eq_ok]
      refine ⟨?_, nofun⟩
      rintro ⟨word, ⟨⟩, read⟩
      rw [unknown.1] at read
      exact absurd read never
    · have json' : value.isJson := Document.isJson_entry? json found
      rw [shown_bind_eq_ok vocabulary id json' null (fun word a found => by rw [found]; rfl)
        (fun word found => by rw [found]; exact never)]
      constructor
      · rintro ⟨word, a, same, named, rfl⟩
        exact ⟨word, same, named⟩
      · rintro ⟨word, same, named⟩
        exact ⟨word, k, same, named, rfl⟩

/-! ## Bounds -/

/-- A multiplicity is read exactly if the value declares it. -/
theorem multiplicity_eq_ok (json : d.isJson) {n m : Int} :
    multiplicity path d = .ok (n, m) ↔ DeclaresMultiplicity d n m := by
  unfold multiplicity multiplicityOf
  rw [mapError_eq_ok]
  split
  · next k =>
    constructor
    · intro read
      obtain ⟨rfl, rfl⟩ := Prod.mk.inj (Except.ok.inj read)
      exact .number k
    · rintro ⟨⟩
      rfl
  · next noInt =>
    obtain ⟨s, shown⟩ := Document.exists_display json
    rw [shown]
    dsimp only
    rw [readMultiplicity_eq_ok]
    by_cases isText : d.isText
    · obtain ⟨word, rfl⟩ := Document.exists_of_isText isText
      obtain rfl := Option.some.inj shown
      constructor
      · exact .text
      · rintro (_ | written)
        exact written
    · have other : d.isText = false := by simpa using isText
      have never {lower upper : Int} : ¬ WritesMultiplicity s.toList lower upper := fun written => by
        obtain ⟨b, b', bounds⟩ := written.exists_bounds
        exact Document.not_writesBounds json other noInt shown bounds
      refine ⟨fun written => absurd written never, ?_⟩
      intro declared
      cases declared with
      | number n => exact absurd rfl (noInt n)
      | text written => cases other

/-- A bound is read exactly if the value declares it. -/
theorem boundOf?_eq_some {b : Bound} : boundOf? d = some b ↔ DeclaresBound (some d) b := by
  cases d with
  | int n => exact ⟨fun found => Option.some.inj found ▸ .number n, fun | .number _ => rfl⟩
  | bool value => exact ⟨fun found => Option.some.inj found ▸ .flag value, fun | .flag _ => rfl⟩
  | _ => exact ⟨nofun, nofun⟩

/-- A bound that is not given is one. -/
theorem boundOf?_getD {value : Option Document} {b : Bound} :
    boundOf? (value.getD (.int 1)) = some b ↔ DeclaresBound value b := by
  cases value with
  | none => exact ⟨fun found => Option.some.inj found ▸ .absent, fun | .absent => rfl⟩
  | some d => exact boundOf?_eq_some

/-- Two bounds are read exactly if both are there. -/
theorem boundPair_eq_ok {first second : Option Bound} {lower upper : Bound} :
    (match first, second with
      | some lower, some upper => (pure (lower, upper) : Result (Bound × Bound))
      | _, _ => refuse path .boundsNotIntegers) = .ok (lower, upper) ↔ first = some lower ∧ second = some upper := by
  cases first with
  | none => exact ⟨nofun, nofun⟩
  | some a =>
    cases second with
    | none => exact ⟨nofun, nofun⟩
    | some b =>
      constructor
      · intro read
        obtain ⟨rfl, rfl⟩ := Prod.mk.inj (Except.ok.inj read)
        exact ⟨rfl, rfl⟩
      · rintro ⟨⟨⟩, ⟨⟩⟩
        rfl

/-- An upper bound that is no text is declared as any bound is. -/
theorem declaresUpper_of_not_text {value : Option Document} (other : ∀ word, value ≠ some (.text word)) {b : Bound} :
    DeclaresUpper value b ↔ DeclaresBound value b := by
  constructor
  · intro declared
    cases declared with
    | plain declared => exact declared
    | text written => exact absurd rfl (other _)
  · exact .plain

/-- An upper bound that is a text is declared by what is written in it. -/
theorem declaresUpper_text {word : String} {b : Bound} :
    DeclaresUpper (some (.text word)) b ↔ ∃ n, WritesBound (Text.trim word).toList n ∧ b = .number n := by
  constructor
  · intro declared
    cases declared with
    | plain declared => cases declared
    | text written => exact ⟨_, written, rfl⟩
  · rintro ⟨n, written, rfl⟩
    exact .text written

/-- The bounds of an element are read exactly if the document declares them. -/
theorem bounds_eq_ok (json : d.isJson) {lower upper : Bound} :
    bounds path (.ofEntries d.entries) = .ok (lower, upper) ↔ DeclaresBounds d lower upper := by
  unfold bounds DeclaresBounds
  rw [Document.get?_entries, Document.get?_entries, Document.get?_entries]
  cases given : d.entry? "multiplicity" with
  | some value =>
    dsimp only
    rw [bind_eq_ok]
    constructor
    · rintro ⟨⟨n, m⟩, read, same⟩
      obtain ⟨rfl, rfl⟩ := Prod.mk.inj (Except.ok.inj same)
      exact ⟨n, m, (multiplicity_eq_ok (Document.isJson_entry? json given)).1 read, rfl, rfl⟩
    · rintro ⟨n, m, declared, rfl, rfl⟩
      exact ⟨(n, m), (multiplicity_eq_ok (Document.isJson_entry? json given)).2 declared, rfl⟩
  | none =>
    dsimp only
    split
    · next word isText =>
      have found : d.entry? "upper" = some (.text word) := by
        cases upperAt : d.entry? "upper" with
        | none =>
          rw [upperAt] at isText
          cases isText
        | some value =>
          rw [upperAt] at isText
          exact congrArg some isText
      rw [found, declaresUpper_text, bind_eq_ok]
      constructor
      · rintro ⟨n, read, pair⟩
        obtain ⟨first, second⟩ := boundPair_eq_ok.1 pair
        exact ⟨boundOf?_getD.1 first, n, readBound_eq_ok.1 (mapError_eq_ok.1 read), (Option.some.inj second).symm⟩
      · rintro ⟨first, n, written, rfl⟩
        exact ⟨n, mapError_eq_ok.2 (readBound_eq_ok.2 written), boundPair_eq_ok.2 ⟨boundOf?_getD.2 first, rfl⟩⟩
    · next notText =>
      have other : ∀ word, d.entry? "upper" ≠ some (.text word) := by
        intro word found
        exact notText word (by rw [found]; rfl)
      rw [declaresUpper_of_not_text other, ← boundOf?_getD, ← boundOf?_getD]
      exact boundPair_eq_ok

/-! ## Elements -/

/-- A property is read exactly if the document declares it. -/
theorem propertyOf_eq_ok (json : d.isJson) {p : Property Unit String} :
    propertyOf path d = .ok p ↔ DeclaresProperty d p := by
  have part (key : String) : (d.held key).isJson := Document.isJson_held json key
  unfold propertyOf
  rw [mapping_bind_eq_ok json]
  simp only [field_entries, flag_entries]
  constructor
  · rintro ⟨isMapping, read⟩
    obtain ⟨⟨lower, upper⟩, bounded, read⟩ := bind_eq_ok.1 read
    obtain ⟨name, named, read⟩ := bind_eq_ok.1 read
    obtain ⟨type, typed, read⟩ := bind_eq_ok.1 read
    obtain ⟨visibility, visible, read⟩ := bind_eq_ok.1 read
    obtain ⟨aggregation, aggregated, read⟩ := bind_eq_ok.1 read
    obtain rfl := Except.ok.inj read
    exact {
      mapping := isMapping
      name := nameOf_eq_ok.1 named
      type := referenceOf_eq_ok.1 typed
      bounds := (bounds_eq_ok json).1 bounded
      visibility := (visibilityOf_eq_ok (part _)).1 visible
      isStatic := rfl
      aggregation := (aggregationOf_eq_ok (part _)).1 aggregated }
  · intro declared
    refine ⟨declared.mapping, ?_⟩
    refine bind_eq_ok.2 ⟨_, (bounds_eq_ok json).2 declared.bounds, ?_⟩
    refine bind_eq_ok.2 ⟨_, nameOf_eq_ok.2 declared.name, ?_⟩
    refine bind_eq_ok.2 ⟨_, referenceOf_eq_ok.2 declared.type, ?_⟩
    refine bind_eq_ok.2 ⟨_, (visibilityOf_eq_ok (part _)).2 declared.visibility, ?_⟩
    refine bind_eq_ok.2 ⟨_, (aggregationOf_eq_ok (part _)).2 declared.aggregation, ?_⟩
    rw [← declared.isStatic]
    rfl

/-- A parameter is read exactly if the document declares it. -/
theorem parameterOf_eq_ok (json : d.isJson) {r : Parameter Unit String} :
    parameterOf path d = .ok r ↔ DeclaresParameter d r := by
  unfold parameterOf
  rw [mapping_bind_eq_ok json]
  simp only [field_entries]
  constructor
  · rintro ⟨isMapping, read⟩
    obtain ⟨name, named, read⟩ := bind_eq_ok.1 read
    obtain ⟨type, typed, read⟩ := bind_eq_ok.1 read
    obtain rfl := Except.ok.inj read
    exact ⟨isMapping, nameOf_eq_ok.1 named, referenceOf_eq_ok.1 typed, rfl⟩
  · intro declared
    refine ⟨declared.mapping, ?_⟩
    refine bind_eq_ok.2 ⟨_, nameOf_eq_ok.2 declared.name, ?_⟩
    refine bind_eq_ok.2 ⟨_, referenceOf_eq_ok.2 declared.type, ?_⟩
    rw [← declared.upper]
    rfl

/-- An operation is read exactly if the document declares it. -/
theorem operationOf_eq_ok (json : d.isJson) {o : Operation Unit String} :
    operationOf path d = .ok o ↔ DeclaresOperation d o := by
  have part (key : String) : (d.held key).isJson := Document.isJson_held json key
  have parameters {here : String} : ∀ item ∈ d.items "params", ∀ r, parameterOf here item = .ok r ↔
      DeclaresParameter item r := fun _ there _ => parameterOf_eq_ok (Document.isJson_items json there)
  unfold operationOf
  rw [mapping_bind_eq_ok json]
  simp only [field_entries, flag_entries]
  constructor
  · rintro ⟨isMapping, read⟩
    obtain ⟨name, named, read⟩ := bind_eq_ok.1 read
    obtain ⟨⟨lower, upper⟩, bounded, read⟩ := bind_eq_ok.1 read
    obtain ⟨type, typed, read⟩ := bind_eq_ok.1 read
    obtain ⟨rs, listed, read⟩ := (items_bind_eq_ok parameters json).1 read
    obtain ⟨visibility, visible, read⟩ := bind_eq_ok.1 read
    obtain rfl := Except.ok.inj read
    exact {
      mapping := isMapping
      name := nameOf_eq_ok.1 named
      type := referenceOf_eq_ok.1 typed
      bounds := (bounds_eq_ok json).1 bounded
      parameters := listed
      visibility := (visibilityOf_eq_ok (part _)).1 visible
      isStatic := rfl
      isAbstract := rfl
      description := rfl
      content := rfl }
  · intro declared
    refine ⟨declared.mapping, ?_⟩
    refine bind_eq_ok.2 ⟨_, nameOf_eq_ok.2 declared.name, ?_⟩
    refine bind_eq_ok.2 ⟨_, (bounds_eq_ok json).2 declared.bounds, ?_⟩
    refine bind_eq_ok.2 ⟨_, referenceOf_eq_ok.2 declared.type, ?_⟩
    refine (items_bind_eq_ok parameters json).2 ⟨o.parameters, declared.parameters, ?_⟩
    refine bind_eq_ok.2 ⟨_, (visibilityOf_eq_ok (part _)).2 declared.visibility, ?_⟩
    rw [← declared.isStatic, ← declared.isAbstract, ← declared.description, ← declared.content]
    rfl

/-- References to super types are read exactly if the document declares them. -/
theorem referencesOf_eq_ok (json : d.isJson) {key : String} {names : List String} :
    referencesOf path (.ofEntries d.entries) key = .ok names ↔ DeclaresSupers d key names := by
  unfold referencesOf
  refine items_eq_ok (fun item _ name => ?_) json
  rw [bind_eq_ok]
  constructor
  · rintro ⟨given, read, same⟩
    cases given with
    | none => exact absurd same refuse_ne_ok
    | some other =>
      obtain rfl := Except.ok.inj same
      obtain ⟨word, text, named⟩ := referenceOf_eq_ok.1 read
      rw [text, Option.some.inj named]
  · rintro rfl
    exact ⟨some name, rfl, rfl⟩

/-- A body is read exactly if it is of the kind and the document declares it. -/
theorem bodyOf_eq_ok (json : d.isJson) {properties : List (Property Unit String)}
    {operations : List (Operation Unit String)} {kind : Kind} {body : Body Unit String} :
    bodyOf path (.ofEntries d.entries) properties operations kind = .ok body ↔
      body.kind = kind ∧ DeclaresBody d properties operations body := by
  have literals : ∀ item ∈ d.items "literals", ∀ text, shown item = .ok text ↔ item.display? = some text :=
    fun _ _ _ => shown_eq_ok
  have ends : ∀ item ∈ d.items "ends", ∀ e, propertyOf path item = .ok e ↔ DeclaresProperty item e :=
    fun _ there _ => propertyOf_eq_ok (Document.isJson_items json there)
  constructor
  · intro read
    cases kind with
    | classKind =>
      obtain ⟨superClasses, first, read⟩ := bind_eq_ok.1 read
      obtain ⟨superInterfaces, second, read⟩ := bind_eq_ok.1 read
      obtain rfl := Except.ok.inj read
      exact ⟨rfl, flag_entries d _, rfl, rfl, (referencesOf_eq_ok json).1 first, (referencesOf_eq_ok json).1 second⟩
    | interface =>
      obtain ⟨superInterfaces, named, read⟩ := bind_eq_ok.1 read
      obtain rfl := Except.ok.inj read
      exact ⟨rfl, rfl, rfl, (referencesOf_eq_ok json).1 named⟩
    | datatype =>
      obtain rfl := Except.ok.inj read
      exact ⟨rfl, rfl⟩
    | primitive =>
      obtain rfl := Except.ok.inj read
      exact ⟨rfl, trivial⟩
    | enumeration =>
      obtain ⟨texts, listed, read⟩ := (items_bind_eq_ok literals json).1 read
      obtain rfl := Except.ok.inj read
      exact ⟨rfl, listed⟩
    | association =>
      obtain ⟨es, listed, read⟩ := (items_bind_eq_ok ends json).1 read
      obtain rfl := Except.ok.inj read
      exact ⟨rfl, listed⟩
  · rintro ⟨rfl, declared⟩
    cases body with
    | classBody c =>
      obtain ⟨declared, rfl, rfl, first, second⟩ := declared
      refine bind_eq_ok.2 ⟨_, (referencesOf_eq_ok json).2 first, ?_⟩
      refine bind_eq_ok.2 ⟨_, (referencesOf_eq_ok json).2 second, ?_⟩
      rw [flag_entries, ← declared]
      rfl
    | interface c =>
      obtain ⟨rfl, rfl, named⟩ := declared
      exact bind_eq_ok.2 ⟨_, (referencesOf_eq_ok json).2 named, rfl⟩
    | datatype kept =>
      obtain rfl := declared
      rfl
    | primitive => rfl
    | enumeration texts => exact (items_bind_eq_ok literals json).2 ⟨texts, declared, rfl⟩
    | association es => exact (items_bind_eq_ok ends json).2 ⟨es, declared, rfl⟩

/-- A type is read exactly if the document declares it. -/
theorem typeOf_eq_ok (json : d.isJson) {t : Classifier Unit String} : typeOf path d = .ok t ↔ DeclaresType d t := by
  have properties {here : String} : ∀ item ∈ d.items "properties", ∀ p, propertyOf here item = .ok p ↔
      DeclaresProperty item p := fun _ there _ => propertyOf_eq_ok (Document.isJson_items json there)
  have operations {here : String} : ∀ item ∈ d.items "operations", ∀ o, operationOf here item = .ok o ↔
      DeclaresOperation item o := fun _ there _ => operationOf_eq_ok (Document.isJson_items json there)
  unfold typeOf
  rw [mapping_bind_eq_ok json]
  constructor
  · rintro ⟨isMapping, read⟩
    obtain ⟨name, named, read⟩ := bind_eq_ok.1 read
    obtain ⟨kind, kinded, read⟩ := bind_eq_ok.1 read
    obtain ⟨ps, listed, read⟩ := (items_bind_eq_ok properties json).1 read
    obtain ⟨os, listed', read⟩ := (items_bind_eq_ok operations json).1 read
    obtain ⟨body, own, read⟩ := bind_eq_ok.1 read
    obtain rfl := Except.ok.inj read
    obtain ⟨rfl, declared⟩ := (bodyOf_eq_ok json).1 own
    exact ⟨isMapping, nameOf_eq_ok.1 named, (kindOf_eq_ok json).1 kinded, ps, os, listed, listed', declared⟩
  · intro declared
    obtain ⟨ps, os, listed, listed', body⟩ := declared.body
    refine ⟨declared.mapping, ?_⟩
    refine bind_eq_ok.2 ⟨_, nameOf_eq_ok.2 declared.name, ?_⟩
    refine bind_eq_ok.2 ⟨_, (kindOf_eq_ok json).2 declared.kind, ?_⟩
    refine (items_bind_eq_ok properties json).2 ⟨ps, listed, ?_⟩
    refine (items_bind_eq_ok operations json).2 ⟨os, listed', ?_⟩
    exact bind_eq_ok.2 ⟨t.body, (bodyOf_eq_ok json).2 ⟨rfl, body⟩, rfl⟩

/-! ## Packages and models -/

/-- A package is read where it declares one and the packages in it nest at most so many times. -/
theorem packageWithin_eq_ok (json : d.isJson) {n : Nat}
    (inner : ∀ {here ps}, (d.items "packages").mapM (packageWithin n here) = .ok ps ↔
      NestWithin n (d.items "packages") ∧ List.Forall₂ DeclaresPackage (d.items "packages") ps)
    {p : Package Unit String} :
    packageWithin (n + 1) path d = .ok p ↔ NestWithin n (d.items "packages") ∧ DeclaresPackage d p := by
  have types {here : String} : ∀ item ∈ d.items "types", ∀ t, typeOf here item = .ok t ↔ DeclaresType item t :=
    fun _ there _ => typeOf_eq_ok (Document.isJson_items json there)
  unfold packageWithin
  rw [mapping_bind_eq_ok json]
  constructor
  · rintro ⟨isMapping, read⟩
    obtain ⟨name, named, read⟩ := bind_eq_ok.1 read
    obtain ⟨items, found, read⟩ := bind_eq_ok.1 read
    obtain ⟨mayList, rfl⟩ := (sequence_eq_ok json).1 found
    obtain ⟨ps, each, read⟩ := bind_eq_ok.1 read
    obtain ⟨within, declared⟩ := inner.1 each
    obtain ⟨ts, listed, read⟩ := (items_bind_eq_ok types json).1 read
    obtain rfl := Except.ok.inj read
    exact ⟨within, .intro isMapping (nameOf_eq_ok.1 named) mayList declared listed⟩
  · rintro ⟨within, declared⟩
    cases declared with
    | intro isMapping named mayList declared listed =>
      obtain ⟨⟨⟩, name, ps, ts⟩ := p
      refine ⟨isMapping, ?_⟩
      refine bind_eq_ok.2 ⟨_, nameOf_eq_ok.2 named, ?_⟩
      refine bind_eq_ok.2 ⟨_, (sequence_eq_ok json).2 ⟨mayList, rfl⟩, ?_⟩
      refine bind_eq_ok.2 ⟨_, inner.2 ⟨within, declared⟩, ?_⟩
      exact (items_bind_eq_ok types json).2 ⟨ts, listed, rfl⟩

/-- Packages are read exactly if they declare some and nest at most so many times. -/
theorem packages_eq_ok (n : Nat) {ds : List Document} (json : ∀ d ∈ ds, d.isJson) {ps : List (Package Unit String)} :
    ds.mapM (packageWithin n path) = .ok ps ↔ NestWithin n ds ∧ List.Forall₂ DeclaresPackage ds ps := by
  induction n generalizing path ds ps with
  | zero =>
    cases ds with
    | nil =>
      rw [List.mapM_nil, List.forall₂_nil_left_iff]
      exact ⟨fun read => ⟨rfl, (Except.ok.inj read).symm⟩, fun ⟨_, empty⟩ => congrArg Except.ok empty.symm⟩
    | cons d rest => exact ⟨nofun, fun ⟨within, _⟩ => absurd within (List.cons_ne_nil d rest)⟩
  | succ n ih =>
    have each : ∀ d ∈ ds, ∀ p, packageWithin (n + 1) path d = .ok p ↔
        NestWithin n (d.items "packages") ∧ DeclaresPackage d p := fun d there p =>
      packageWithin_eq_ok (json d there) (ih fun _ inside => Document.isJson_items (json d there) inside)
    rw [mapM_eq_ok each, List.forall₂_and_left]
    rfl

/-- What is read of a JSON document is what it declares, if packages nest at most so many times. -/
theorem modelWithin_eq_ok (json : d.isJson) {depth : Nat} {m : Declared} :
    modelWithin depth d = .ok m ↔ NestWithin depth (d.items "packages") ∧ DeclaresModel d m := by
  have inner {ps : List (Package Unit String)} : (d.items "packages").mapM (packageWithin depth "") = .ok ps ↔
      NestWithin depth (d.items "packages") ∧ List.Forall₂ DeclaresPackage (d.items "packages") ps :=
    packages_eq_ok depth fun _ there => Document.isJson_items json there
  unfold modelWithin
  rw [mapping_bind_eq_ok json]
  constructor
  · rintro ⟨isMapping, read⟩
    obtain ⟨items, found, read⟩ := bind_eq_ok.1 read
    obtain ⟨mayList, rfl⟩ := (sequence_eq_ok json).1 found
    obtain ⟨ps, each, read⟩ := bind_eq_ok.1 read
    obtain rfl := Except.ok.inj read
    obtain ⟨within, declared⟩ := inner.1 each
    exact ⟨within, isMapping, mayList, declared⟩
  · rintro ⟨within, declared⟩
    obtain ⟨mayList, each⟩ := declared.packages
    refine ⟨declared.mapping, ?_⟩
    refine bind_eq_ok.2 ⟨_, (sequence_eq_ok json).2 ⟨mayList, rfl⟩, ?_⟩
    exact bind_eq_ok.2 ⟨m.packages, inner.2 ⟨within, each⟩, rfl⟩

/-- A JSON document is read as a model exactly if it is in the format, however deep packages may nest; with a limit it
must keep to the limit.  The model is the one that the document declares. -/
theorem loads_iff_isModel {root : Document} (json : root.isJson) :
    ((∃ depth m, modelWithin depth root = .ok m) ↔ IsModel root) ∧
      ((∃ m, modelOf root = .ok m) ↔ IsModel root ∧ NestWithin deepestPackage (root.items "packages")) ∧
      ∀ depth m, modelWithin depth root = .ok m → DeclaresModel root m := by
  refine ⟨⟨?_, ?_⟩, ⟨?_, ?_⟩, ?_⟩
  · rintro ⟨depth, m, read⟩
    exact (isModel_iff json).2 ⟨m, ((modelWithin_eq_ok json).1 read).2⟩
  · intro form
    obtain ⟨depth, within⟩ := form.exists_depth
    obtain ⟨m, declared⟩ := (isModel_iff json).1 form
    exact ⟨depth, m, (modelWithin_eq_ok json).2 ⟨within, declared⟩⟩
  · rintro ⟨m, read⟩
    obtain ⟨within, declared⟩ := (modelWithin_eq_ok json).1 read
    exact ⟨(isModel_iff json).2 ⟨m, declared⟩, within⟩
  · rintro ⟨form, within⟩
    obtain ⟨m, declared⟩ := (isModel_iff json).1 form
    exact ⟨m, (modelWithin_eq_ok json).2 ⟨within, declared⟩⟩
  · intro depth m read
    exact ((modelWithin_eq_ok json).1 read).2

/-- A library with a type of each kind, some of them in a package of its own. -/
def library : Document :=
  .map [(.text "packages", .list [.map [
    (.text "name", .text "library"),
    (.text "types", .list [
      .map [(.text "kind", .text "Class"), (.text "name", .text "Book"), (.text "superClasses", .list [.text "Work"]),
        (.text "properties", .list [.map [(.text "name", .text "title"), (.text "type", .text "string"),
          (.text "visibility", .text "PRIVATE")]]),
        (.text "operations", .list [.map [(.text "name", .text "lend"), (.text "lower", .bool false),
          (.text "params", .list [.map [(.text "name", .text "reader"), (.text "type", .null)]])]])],
      .map [(.text "kind", .text "dt"), (.text "name", .text "Isbn"), (.text "operations", .null)],
      .map [(.text "kind", .text "association"), (.text "name", .text "holds"), (.text "ends", .list [
        .map [(.text "name", .text "shelf"), (.text "type", .text "Shelf"), (.text "multiplicity", .text " 0 .. 1 "),
          (.text "aggregation", .text "shared")],
        .map [(.text "name", .text "books"), (.text "type", .text "Book"), (.text "multiplicity", .text "*")]])]]),
    (.text "packages", .list [.map [(.text "name", .text "rooms"), (.text "types", .list [
      .map [(.text "kind", .text "interface"), (.text "name", .text "Shelf")],
      .map [(.text "kind", .text "enum"), (.text "name", .text "Floor"),
        (.text "literals", .list [.text "GROUND", .int 1, .null])]])]])]])]

/-- The library is a model and is loaded as what it declares. -/
theorem loads_iff_isModel_of_library :
    library.isJson ∧ ∃ m, modelOf library = .ok m ∧ IsModel library ∧ DeclaresModel library m := by
  have json : library.isJson := by decide +kernel
  have loads : ((modelOf library).toOption).isSome := by decide +kernel
  obtain ⟨m, found⟩ := Option.isSome_iff_exists.1 loads
  have read : modelOf library = .ok m := by
    cases result : modelOf library with
    | error e =>
      rw [result] at found
      cases found
    | ok m' =>
      rw [result] at found
      exact congrArg Except.ok (Option.some.inj found)
  obtain ⟨-, within, declares⟩ := loads_iff_isModel json
  exact ⟨json, m, read, (within.1 ⟨m, read⟩).1, declares _ m read⟩

end Loading

end ClassDiagram
