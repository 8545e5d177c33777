import ClassDiagram.Proofs.Diagram.Structure

/-!
# What the diagram of a package shows

The boxes of a package are written kind by kind, and no kind is passed over or comes twice, so each type has exactly one
(`perm_shownTypes`).  The lines for super types and the edges come from two more passes (`forall₂_edges`).  With these,
the text of a diagram is known line by line (`diagrams_show_packages`).
-/

set_option autoImplicit false

namespace ClassDiagram.Diagram

/-! ## Boxes -/

/-- The types that have boxes: those of each kind in the order in which they are declared. -/
def shownTypes (types : List LinkedType) : List LinkedType :=
  ofKind types .primitive ++ ofKind types .datatype ++ ofKind types .classKind ++ ofKind types .enumeration ++
    ofKind types .interface

/-- The types that are shown come by kind, in the order of the kinds. -/
theorem shownTypes_eq (types : List LinkedType) : shownTypes types = boxOrder.flatMap (ofKind types) := by
  simp [shownTypes, boxOrder]

/-- Items that are grouped by distinct keys are all there, each as often as before. -/
theorem perm_groups {α κ : Type} [DecidableEq κ] (key : α → κ) (items : List α) {keys : List κ} (distinct : keys.Nodup) :
    (keys.flatMap fun k => items.filter (key · == k)).Perm (items.filter fun a => keys.contains (key a)) := by
  induction keys with
  | nil => simp
  | cons k rest ih =>
    obtain ⟨apart, distinct⟩ := List.nodup_cons.1 distinct
    -- The items with a listed key are those with the first one, and those with one of the others.
    have split := List.filter_append_perm (key · == k) (items.filter fun a => (k :: rest).contains (key a))
    have first : (items.filter fun a => (k :: rest).contains (key a)).filter (key · == k) = items.filter (key · == k) := by
      rw [List.filter_filter]
      refine List.filter_congr fun a _ => ?_
      by_cases same : key a = k <;> simp [same]
    have others : (items.filter fun a => (k :: rest).contains (key a)).filter (fun a => !(key a == k)) =
        items.filter fun a => rest.contains (key a) := by
      rw [List.filter_filter]
      refine List.filter_congr fun a _ => ?_
      by_cases same : key a = k
      · simp [same, apart]
      · simp [same]
    rw [first, others] at split
    exact (List.Perm.append_left _ (ih distinct)).trans split

/-- Each type but an association has a box, and has it once. -/
theorem perm_shownTypes (types : List LinkedType) :
    (shownTypes types).Perm (types.filter (·.kind != .association)) := by
  have kinds (kind : Kind) : boxOrder.contains kind = (kind != .association) := by cases kind <;> rfl
  have distinct : boxOrder.Nodup := by decide
  have grouped := perm_groups Classifier.kind types distinct
  simp only [kinds] at grouped
  rw [shownTypes_eq]
  exact grouped

/-- The words before the name of a type in the header of its box. -/
def keyword (t : LinkedType) : String :=
  match t.body with
  | .classBody c => if c.isAbstract then "abstract class " else "class "
  | .enumeration _ => "enum "
  | .interface _ => "interface "
  | _ => "class "

/-- The words after the name of a type in the header of its box. -/
def stereotype (s : Style) (t : LinkedType) : String :=
  match t.body with
  | .primitive => " " ++ s.primitiveStereotype
  | .datatype _ => " " ++ s.datatypeStereotype
  | _ => ""

/-- Whether a box is that of a type: it has the name of the type in its header, and a line for each property, each
operation and each literal. -/
structure IsBoxOf (s : Style) (t : LinkedType) (b : Box) : Prop where
  header : b.header = keyword t ++ t.name ++ stereotype s t
  lines : b.lines = t.properties.map (propertyText s) ++ t.operations.map (operationText s) ++ t.literals

/-- Every type but an association has a box. -/
theorem exists_boxOf (s : Style) {t : LinkedType} (shown : t.kind ≠ .association) :
    ∃ b, boxOf s t = some b ∧ IsBoxOf s t b := by
  obtain ⟨place, name, body⟩ := t
  cases body with
  | association ends => exact absurd rfl shown
  | primitive => exact ⟨_, rfl, by simp [keyword, stereotype, String.append_assoc], rfl⟩
  | datatype properties =>
    exact ⟨_, rfl, by simp [keyword, stereotype, String.append_assoc],
      by simp [Classifier.properties, Classifier.operations, Classifier.literals]⟩
  | enumeration literals => exact ⟨_, rfl, by simp [keyword, stereotype], rfl⟩
  | classBody c => exact ⟨_, rfl, by simp [keyword, stereotype],
      by simp [Classifier.properties, Classifier.operations, Classifier.literals]⟩
  | interface c => exact ⟨_, rfl, by simp [keyword, stereotype],
      by simp [Classifier.properties, Classifier.operations, Classifier.literals]⟩

/-- The boxes that are written are those of the types that have one, in order. -/
theorem forall₂_boxes (s : Style) (types : List LinkedType) :
    List.Forall₂ (IsBoxOf s) (shownTypes types) (boxes s types) := by
  have each {items : List LinkedType} (shown : ∀ t ∈ items, t.kind ≠ .association) :
      List.Forall₂ (IsBoxOf s) items (items.filterMap (boxOf s)) := by
    induction items with
    | nil => exact .nil
    | cons t rest ih =>
      rw [List.forall_mem_cons] at shown
      obtain ⟨b, drawn, isBox⟩ := exists_boxOf s shown.1
      rw [List.filterMap_cons, drawn]
      exact .cons isBox (ih shown.2)
  have all : boxes s types = (shownTypes types).filterMap (boxOf s) := by
    rw [shownTypes_eq, boxes, List.filterMap_flatMap]
  rw [all]
  refine each fun t there => ?_
  have among := (perm_shownTypes types).mem_iff.1 there
  simpa using (List.mem_filter.1 among).2

/-! ## Relations -/

/-- Whether an association has two ends at known types. -/
def joinsTypes (a : LinkedType) : Bool :=
  match a.ends with
  | [first, second] => first.endType.isSome && second.endType.isSome
  | _ => false

/-- An association joins types exactly if it is between two of them. -/
theorem joinsTypes_iff {a : LinkedType} :
    joinsTypes a ↔ ∃ first second source target, IsBetween a first second source target := by
  unfold joinsTypes
  constructor
  · intro joins
    split at joins
    · next first second ends =>
      rw [Bool.and_eq_true, Option.isSome_iff_exists, Option.isSome_iff_exists] at joins
      obtain ⟨⟨source, isFirst⟩, target, isSecond⟩ := joins
      exact ⟨first, second, source, target, ends, isFirst, isSecond⟩
    · cases joins
  · rintro ⟨first, second, source, target, ends, isFirst, isSecond⟩
    rw [ends]
    simp [isFirst, isSecond]

/-- The edges that are written are those of the associations with two ends at known types, in order. -/
theorem forall₂_edges {s : Style} {types : List LinkedType} {edges : List (Option String)}
    (named : ∀ a ∈ types, NamesEnds a) (formed : types.mapM (edgeText s) = .ok edges) :
    List.Forall₂ (IsEdge s) (types.filter joinsTypes) (edges.filterMap id) := by
  have each := (mapM_eq_ok fun a there edge => edgeText_eq_ok (s := s) (named a there)).1 formed
  clear formed named
  induction each with
  | nil => exact .nil
  | @cons a edge rest others first _ ih =>
    rcases first with ⟨apart, rfl⟩ | ⟨line, isEdge, rfl⟩
    · have out : ¬ joinsTypes a = true := by
        rintro joins
        obtain ⟨first, second, source, target, between⟩ := joinsTypes_iff.1 joins
        exact apart first second source target between
      rw [List.filter_cons_of_neg out]
      exact ih
    · have joins : joinsTypes a = true := by
        obtain ⟨first, second, source, target, _, _, between, -⟩ := isEdge
        exact joinsTypes_iff.2 ⟨first, second, source, target, between⟩
      rw [List.filter_cons_of_pos joins]
      exact .cons isEdge ih

/-- Edges are no empty lines. -/
theorem full_of_edges {s : Style} {types : List LinkedType} {edges : List String}
    (joined : List.Forall₂ (IsEdge s) types edges) : full edges = edges := by
  refine full_eq_self fun l there => ?_
  induction joined with
  | nil => cases there
  | cons isEdge _ ih =>
    rcases List.mem_cons.1 there with rfl | there
    · exact isEmpty_of_isEdge isEdge
    · exact ih there

/-! ## The end of a page -/

/-- Whether lines, if there are any, end with one that is not empty. -/
def EndsFull (lines : List String) : Prop := ∀ l ∈ lines.getLast?, l.isEmpty = false

/-- Two texts in a row end with a full line if each of them does. -/
theorem EndsFull.append {first second : List String} (before : EndsFull first) (after : EndsFull second) :
    EndsFull (first ++ second) := by
  intro l last
  rw [List.getLast?_append] at last
  rcases Option.or_eq_some_iff.1 last with last | ⟨-, last⟩
  · exact after l last
  · exact before l last

/-- Lines of which none is empty end with a full one. -/
theorem endsFull_of_full {lines : List String} (same : full lines = lines) : EndsFull lines := by
  intro l last
  have there : l ∈ full lines := same.symm ▸ List.mem_of_getLast? last
  simpa using (List.mem_filter.1 there).2

/-- Nothing is dropped from lines that end with a full one. -/
theorem EndsFull.rdropWhile {lines : List String} (ends : EndsFull lines) : lines.rdropWhile (·.isEmpty) = lines := by
  refine List.rdropWhile_eq_self_iff.2 fun some empty => ?_
  rw [ends _ (List.getLast?_eq_some_getLast some)] at empty
  cases empty

/-- The lines of a box end with its brace. -/
theorem endsFull_allLines {s : Style} {t : LinkedType} {b : Box} (isBox : IsBoxOf s t b) (margin : String) :
    EndsFull (b.allLines margin) := by
  unfold Box.allLines
  split
  · refine endsFull_of_full (full_eq_self (List.forall_mem_singleton.2 ?_))
    have worded : keyword t ≠ "" := by
      unfold keyword
      split
      · split <;> decide
      all_goals decide
    simp [isBox.header, worded]
  · intro l last
    rw [List.getLast?_concat] at last
    obtain rfl := Option.some.inj last
    rfl

/-- A group of full lines ends with a full one. -/
theorem EndsFull.groupAfter {lines texts : List String} (same : full texts = texts) :
    EndsFull (groupAfter lines texts) := by
  unfold Diagram.groupAfter
  split
  · exact nofun
  · next listed =>
    intro l last
    have some : texts ≠ [] := by simpa using listed
    rw [List.getLast?_append_of_ne_nil _ some] at last
    exact endsFull_of_full same l last

/-- A page with a start mark does not end with an empty line. -/
theorem endsFull_pageLines {s : Settings} {types : List LinkedType} {boxes : List Box} {relations hides : List String}
    (marked : s.style.start ≠ "") (drawn : List.Forall₂ (IsBoxOf s.style) types boxes)
    (related : full relations = relations) (hidden : full hides = hides) :
    EndsFull (pageLines s boxes relations hides) := by
  have start : EndsFull [s.style.start] :=
    endsFull_of_full (full_eq_self (List.forall_mem_singleton.2 (by simpa using marked)))
  have all : EndsFull (boxes.flatMap (Box.allLines s.indent.margin)) := by
    clear related hidden
    induction drawn with
    | nil => exact nofun
    | cons isBox _ ih => exact (endsFull_allLines isBox _).append ih
  exact ((start.append all).append (.groupAfter related)).append (.groupAfter hidden)

/-! ## Packages -/

/-- The lines that hide what primitive types and data types do not show, for those of the two that there are. -/
def hidden (s : Style) (types : List LinkedType) : List String :=
  (if types.any (·.kind == .primitive) then
    ["hide " ++ s.primitiveStereotype ++ " members", "hide " ++ s.primitiveStereotype ++ " circle"] else []) ++
  (if types.any (·.kind == .datatype) then ["hide " ++ s.datatypeStereotype ++ " circle"] else [])

/-- The lines that hide something name the kinds of types whose members are not shown. -/
theorem hideLines_eq (s : Style) (types : List LinkedType) : hideLines s types = hidden s types := by
  have none (kind : Kind) : (ofKind types kind).isEmpty = !types.any (·.kind == kind) := by
    rw [Bool.eq_iff_iff]
    simp [ofKind]
  unfold hideLines hidden
  rw [none, none]
  cases types.any (·.kind == .primitive) <;> cases types.any (·.kind == .datatype) <;> rfl

/-- Whether a text shows a package: a box for each type that is no association, a line for each known super type, an edge
for each association with two ends at known types, and what is hidden, between two marks.  All boxes are closed on the page
that has the text. -/
structure ShowsPackage (s : Settings) (p : LinkedPackage) (text : String) : Prop where
  lines : ∃ boxes edges, List.Forall₂ (IsBoxOf s.style) (shownTypes p.types) boxes ∧
    List.Forall₂ (IsEdge s.style) (p.types.filter joinsTypes) edges ∧
    text = textOfLines (pageLines s boxes (p.types.flatMap (superTypeLines s.style) ++ edges) (hidden s.style p.types) ++
      [s.style.finish])
  once : (shownTypes p.types).Perm (p.types.filter (·.kind != .association))
  closed : ∃ w, writeTypes (Page.start s.indent s.style) p.types = .ok w ∧ w.depth = 0 ∧ text = w.text

/-- The diagram that is drawn of a package shows the package. -/
theorem showsPackage {s : Settings} {p : LinkedPackage} {f : DiagramFile} (marked : s.style.start ≠ "")
    (named : ∀ a ∈ p.types, NamesEnds a) (drawn : s.diagram p = .ok (some f)) : ShowsPackage s p f.text := by
  obtain ⟨-, w, written, rfl⟩ := diagram_eq_some.1 drawn
  obtain ⟨style, depth, relations, formed, lines⟩ := lines_of_writeTypes written
  obtain ⟨edges, given, rfl⟩ := relationLines_eq_ok.1 formed
  have boxes := forall₂_boxes s.style p.types
  have joined := forall₂_edges named given
  refine ⟨⟨_, edges.filterMap id, boxes, joined, ?_⟩, perm_shownTypes p.types, w, written, depth, rfl⟩
  have related : full (p.types.flatMap (superTypeLines s.style) ++ edges.filterMap id) =
      p.types.flatMap (superTypeLines s.style) ++ edges.filterMap id := by
    rw [full_append, full_superTypeLines, full_of_edges joined]
  have ends := endsFull_pageLines marked boxes related (full_hideLines s.style p.types)
  change w.text = _
  rw [text_eq, lines, ends.rdropWhile, style, hideLines_eq]

/-! ## Models -/

/-- There is no diagram of a package exactly if it has no types. -/
theorem diagram_eq_none {s : Settings} {p : LinkedPackage} : s.diagram p = .ok none ↔ p.types = [] := by
  rw [Settings.diagram]
  split
  · next empty => exact iff_of_true rfl (List.isEmpty_iff.1 empty)
  · next listed =>
    refine iff_of_false (fun drawn => ?_) (by simpa using listed)
    obtain ⟨w, -, same⟩ := bind_eq_ok.1 drawn
    cases same

/-- The diagrams of a model are those of its packages with types, in the order in which packages come. -/
theorem diagrams_eq_ok {s : Settings} {m : Linked} {files : List DiagramFile} : s.diagrams m = .ok files ↔
    List.Forall₂ (fun p f => s.diagram p = .ok (some f)) (m.model.allPackages.filter (!·.types.isEmpty)) files := by
  have same : s.diagrams m = (m.model.allPackages.mapM s.diagram).map (List.filterMap id) := by
    rw [Settings.diagrams]
    cases m.model.allPackages.mapM s.diagram <;> rfl
  rw [same, map_eq_ok]
  generalize m.model.allPackages = packages
  simp only [mapM_eq_ok fun p _ f => Iff.rfl]
  constructor
  · rintro ⟨drawn, each, rfl⟩
    induction each with
    | nil => exact .nil
    | @cons p f _ _ first _ ih =>
      cases f with
      | none =>
        rw [List.filter_cons_of_neg (by simp [diagram_eq_none.1 first])]
        exact ih
      | some f =>
        rw [List.filter_cons_of_pos (by simpa using (diagram_eq_some.1 first).1)]
        exact .cons first ih
  · intro each
    induction packages generalizing files with
    | nil =>
      cases each
      exact ⟨[], .nil, rfl⟩
    | cons p rest ih =>
      by_cases empty : p.types = []
      · rw [List.filter_cons_of_neg (by simp [empty])] at each
        obtain ⟨drawn, others, same⟩ := ih each
        exact ⟨none :: drawn, .cons (diagram_eq_none.2 empty) others, same⟩
      · rw [List.filter_cons_of_pos (by simpa using empty)] at each
        obtain ⟨f, files, first, later, rfl⟩ := List.forall₂_cons_left_iff.1 each
        obtain ⟨drawn, others, rfl⟩ := ih later
        exact ⟨some f :: drawn, .cons first others, rfl⟩

/-- A package without types has no diagram.  With a text to indent lines, every other package has one if the
multiplicities of its associations can be written, and only then.  It shows all types and relations of the package, each
once.  The diagrams of a model are those of its packages with types, depth first. -/
theorem diagrams_show_packages (s : Settings) (marked : s.style.start ≠ "") :
    (∀ p, p.types = [] → s.diagram p = .ok none) ∧
      (∀ p, p.types ≠ [] → (∀ a ∈ p.types, NamesEnds a) →
        (∀ margin, s.indent = .unit margin →
          ((∃ f, s.diagram p = .ok (some f)) ↔ ∀ a ∈ p.types, HasMultiplicities s.style a)) ∧
        ∀ f, s.diagram p = .ok (some f) → ShowsPackage s p f.text) ∧
      ∀ m files, s.diagrams m = .ok files ↔
        List.Forall₂ (fun p f => s.diagram p = .ok (some f)) (m.model.allPackages.filter (!·.types.isEmpty)) files := by
  refine ⟨fun p empty => diagram_eq_none.2 empty, fun p some named => ⟨fun margin unit => ?_, fun f drawn => ?_⟩,
    fun m files => diagrams_eq_ok⟩
  · rw [exists_diagram_iff unit some, exists_relationLines_iff]
    exact exists_mapM_iff fun a there => exists_edgeText_iff (named a there)
  · exact showsPackage marked named drawn

/-- A harbour with types of all kinds, in no order, with a package that has none around it. -/
def harbour : Declared :=
  ⟨[⟨(), "sea", [⟨(), "harbour", [],
      [⟨(), "Lit", .interface ⟨[], [], []⟩⟩,
        ⟨(), "moors", .association
          [⟨(), "berth", some "Berth", .number 0, .number 1, none, false, .shared⟩,
            ⟨(), "boats", some "Boat", .number 2, .unbounded, none, false, .plain⟩]⟩,
        ⟨(), "haunts", .association
          [⟨(), "ghost", some "Ghost", .number 1, .number 1, none, false, .plain⟩,
            ⟨(), "haunted", some "Boat", .number 1, .number 1, none, false, .plain⟩]⟩,
        ⟨(), "Boat", .classBody ⟨true,
          [⟨(), "side", some "Side", .number 0, .number 1, some .privateAccess, false, .plain⟩],
          [⟨(), "sail", none, .number 1, .number 1, [⟨(), "code", some "Code", .number 1⟩], none, false, true, .text "",
            .text ""⟩], ["Hull"], ["Lit"]⟩⟩,
        ⟨(), "Side", .enumeration ["PORT", "STARBOARD"]⟩,
        ⟨(), "Code", .primitive⟩,
        ⟨(), "Berth", .classBody ⟨false, [], [], [], []⟩⟩]⟩], []⟩]⟩

/-- The lines of the diagram of the harbour. -/
def harbourLines : List String :=
  ["@startuml", "class Code <<primitive>>", "abstract class Boat \x7b", "    - side : Side [0..1]",
    "    ~ \x7babstract\x7d sail(code : Code)", "\x7d", "class Berth", "enum Side \x7b", "    PORT", "    STARBOARD",
    "\x7d", "interface Lit", "", "Lit <|.. Boat", "Berth \"0..1\" --o \"2..*\" Boat : moors >", "",
    "hide <<primitive>> members", "hide <<primitive>> circle", "@enduml"]

/-- The harbour has one diagram, named for its package, whose text is written out in full. -/
theorem diagrams_show_packages_of_harbour :
    Style.standard.start ≠ "" ∧ ∃ p f, p ∈ harbour.link.model.allPackages ∧
      Settings.diagrams ⟨"diagram", .standard, .standard⟩ harbour.link = .ok [f] ∧
      ShowsPackage ⟨"diagram", .standard, .standard⟩ p f.text ∧
      f.name = "diagram_sea.harbour" ∧ f.text = textOfLines harbourLines := by
  have marked : Style.standard.start ≠ "" := by decide
  have given : ((Settings.diagrams ⟨"diagram", .standard, .standard⟩ harbour.link).toOption.map fun files =>
      files.map fun f => (f.name, f.text)) = some [("diagram_sea.harbour", textOfLines harbourLines)] := by decide +kernel
  have named : ∀ p ∈ harbour.link.model.allPackages, ∀ a ∈ p.types, NamesEnds a := by
    have each : ∀ p ∈ harbour.link.model.allPackages, ∀ a ∈ p.types, ∀ e ∈ a.ends,
        e.endType.all (·.name != "") = true := by decide +kernel
    intro p there a inside e among target found
    have name := each p there a inside e among
    rw [found] at name
    simpa using name
  obtain ⟨-, shown, order⟩ := diagrams_show_packages ⟨"diagram", .standard, .standard⟩ marked
  cases drawn : Settings.diagrams ⟨"diagram", .standard, .standard⟩ harbour.link with
  | error e =>
    rw [drawn] at given
    cases given
  | ok files =>
    rw [drawn] at given
    obtain ⟨f, rfl, same⟩ := List.map_eq_singleton_iff.1 (Option.some.inj given)
    obtain ⟨name, text⟩ := Prod.mk.inj same
    obtain ⟨p, others, first, -, packages⟩ := List.forall₂_cons_right_iff.1 ((order _ _).1 drawn)
    have among : p ∈ harbour.link.model.allPackages.filter (!·.types.isEmpty) := packages ▸ List.mem_cons_self
    obtain ⟨there, some⟩ := List.mem_filter.1 among
    exact ⟨marked, p, f, there, rfl, (shown p (by simpa using some) (named p there)).2 f first, name, text⟩

end ClassDiagram.Diagram
