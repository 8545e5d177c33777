import ClassDiagram.Proofs.Diagram.Lines
import ClassDiagram.Proofs.Draft.Plain

/-!
# The diagrams of a draft and of its linked form

The boxes of a draft are drawn one type after another; with words that are texts, and where nothing is given beside the
tree, nothing else can be in the way.  So the diagram of a package is the one that the linked form has
(`IsTyped.gives_diagramOf`), whatever was read before.
-/

set_option autoImplicit false

namespace ClassDiagram

namespace Draft

open Inquiry
open Diagram (Vocabulary Page boxed grouped)

/-! ## Types in all forms -/

/-- The types whose boxes are drawn are those of the linked form, in the order of their kinds. -/
theorem linked_boxedTypes {own : List (Classifier Handle Pointer)} {linked : List LinkedType}
    (kinds : linked.map (·.kind) = own.map (·.kind)) :
    (boxedTypes (TypeForms.ofLists own linked linked)).map (·.linked) =
      Diagram.boxOrder.flatMap (Diagram.ofKind linked) := by
  have one (kind : Kind) : ((TypeForms.ofLists own linked linked).filter (·.own.kind == kind)).map (·.linked) =
      Diagram.ofKind linked kind := by
    induction own generalizing linked with
    | nil =>
      obtain rfl := List.map_eq_nil_iff.1 kinds
      rfl
    | cons t rest ih =>
      cases linked with
      | nil => cases kinds
      | cons l others =>
        rw [List.map_cons, List.map_cons, List.cons.injEq] at kinds
        have later := ih kinds.2
        have pairs : TypeForms.ofLists (t :: rest) (l :: others) (l :: others) =
            ⟨t, l, l⟩ :: TypeForms.ofLists rest others others := rfl
        rw [Diagram.ofKind] at later ⊢
        rw [pairs, List.filter_cons, List.filter_cons, ← later, kinds.1]
        split <;> rfl
  rw [boxedTypes, List.map_flatMap]
  exact List.flatMap_congr fun kind _ => one kind

/-- Types that are read in one form only are the same in both. -/
theorem quiet_eq_linked {own : List (Classifier Handle Pointer)} {linked : List LinkedType} {t : TypeForms}
    (there : t ∈ TypeForms.ofLists own linked linked) : t.own ∈ own ∧ t.quiet = t.linked := by
  obtain ⟨⟨own', linked', quiet'⟩, among, rfl⟩ := List.mem_map.1 there
  have pair := (List.of_mem_zip among).2
  refine ⟨(List.of_mem_zip among).1, ?_⟩
  rw [List.zip_eq_zipWith, List.zipWith_self] at pair
  obtain ⟨l, -, same⟩ := List.mem_map.1 pair
  obtain ⟨rfl, rfl⟩ := Prod.mk.inj same
  rfl

/-- Every type with a box is one of the types. -/
theorem mem_boxedTypes {types : List TypeForms} {t : TypeForms} (there : t ∈ boxedTypes types) : t ∈ types := by
  obtain ⟨kind, -, among⟩ := List.mem_flatMap.1 there
  exact (List.mem_filter.1 among).1

/-! ## Words that are texts -/

variable {style : Diagram.Style}

/-- A member whose name is a text fits in a diagram of a style. -/
theorem memberFits_texts (visibility : Option Visibility) (isStatic isAbstract : Bool) (name : String) :
    (Vocabulary.ofStyle style).memberFits visibility isStatic isAbstract (.text name) = .ok () := by
  have words : ∃ texts : List String,
      (Vocabulary.ofStyle style).memberWords visibility isStatic isAbstract (.text name) = texts.map .text := by
    refine ⟨[Diagram.visibilitySign (visibility.getD style.defaultVisibility)] ++
      (if isAbstract then [style.abstractModifier] else []) ++ (if isStatic then [style.staticModifier] else []) ++
      [name], ?_⟩
    cases isAbstract <;> cases isStatic <;> rfl
  obtain ⟨texts, same⟩ := words
  rw [Vocabulary.memberFits, same, wordTexts_texts]
  rfl

/-- The text of a diagram of a style is one. -/
theorem textFits_texts (w : Page) : (Vocabulary.ofStyle style).textFits w = .ok () := by
  have words : ∃ texts : List String,
      (((Vocabulary.ofStyle style).start :: w.trimmed.lines.inOrder.tail.map .text).take
        w.trimmed.lines.inOrder.length ++ [(Vocabulary.ofStyle style).finish]) = texts.map .text := by
    refine ⟨(style.start :: w.trimmed.lines.inOrder.tail).take w.trimmed.lines.inOrder.length ++ [style.finish], ?_⟩
    rw [List.map_append, List.map_take, List.map_cons]
    rfl
  obtain ⟨texts, same⟩ := words
  rw [Vocabulary.textFits, same, wordTexts_texts]
  rfl

/-- A group of lines is drawn as it is written where the words are texts. -/
theorem gives_drawGroup (w : Page) (texts : List String) :
    (drawGroup (.ofStyle style) w texts).Gives (grouped w texts) := by
  have blank : (Vocabulary.ofStyle style).blankFits w = .ok () := by
    rw [Vocabulary.blankFits]
    exact if_neg (by simp [Vocabulary.ofStyle, Document.isText])
  unfold drawGroup
  rw [blank]
  cases !texts.isEmpty with
  | true => exact (gives_of (.ok ())).then (gives_of (grouped w texts))
  | false => exact gives_of (grouped w texts)

/-! ## Reading -/

variable {d : Draft} (typed : d.IsTyped)
include typed

/-- Reading the name of the type of an element gives a text. -/
theorem IsTyped.gives_readTypeName {e : Element Handle Pointer} (there : e ∈ d.elements) {type : Option Pointer}
    (own : e.references = typeReference type) : ∃ name, (d.readTypeName e.place type).Gives (.ok (.text name)) := by
  obtain ⟨target, reads, other⟩ := typed.gives_readType there own
  cases target with
  | none => exact ⟨"", reads.then (gives_pure _)⟩
  | some holder =>
    cases holder with
    | model => exact absurd rfl other
    | element origin =>
      obtain ⟨name, held⟩ := typed.nameHeld_eq origin
      exact ⟨name, reads.then (held ▸ gives_of _)⟩

/-- Reading a parameter gives its name. -/
theorem IsTyped.gives_readParameter {r : Parameter Handle Pointer} (there : .parameter r ∈ d.elements) :
    (d.readParameter r).Gives (.ok (.text r.name)) := by
  have own : (Element.parameter r).references = typeReference r.type := rfl
  obtain ⟨name, reads⟩ := typed.gives_readTypeName there own
  refine reads.then ?_
  rw [typed.nameGiven_eq]
  split
  · exact gives_pure _
  · exact gives_pure _

variable {t : Classifier Handle Pointer} (there : t ∈ d.model.types)
include there

/-- Reading what is in a box meets nothing in the way. -/
theorem IsTyped.gives_readBox : (d.readBox (.ofStyle style) t).Gives (.ok ()) := by
  have part {e : Element Handle Pointer} (held : e ∈ (Element.classifier t).parts) : e ∈ d.model.elements :=
    Model.mem_elements_of_mem_parts (Model.mem_types_iff.1 there) held
  refine Gives.then (a := ()) (gives_forM fun p among => ?_) (gives_forM fun o among => ?_)
  · have inside : Element.property p ∈ d.elements := mem_elements_of_tree (part (by simp [among]))
    have own : (Element.property p).references = typeReference p.type := rfl
    obtain ⟨name, reads⟩ := typed.gives_readTypeName inside own
    refine reads.discard.then ?_
    rw [typed.nameGiven_eq, memberFits_texts]
    exact gives_of (.ok ())
  · have inside : Element.operation o ∈ d.model.elements := part (by simp [among])
    have parameters : (o.parameters.mapM d.readParameter).Gives (.ok (o.parameters.map fun r => .text r.name)) := by
      have each : (o.parameters.mapM d.readParameter).Gives
          (o.parameters.mapM fun r => (.ok (.text r.name) : Except Misfit Document)) :=
        gives_mapM fun r listed => typed.gives_readParameter
          (mem_elements_of_tree (Model.mem_elements_of_mem_parts inside (by simp [listed])))
      have all : o.parameters.mapM (fun r => (.ok (.text r.name) : Except Misfit Document)) =
          .ok (o.parameters.map fun r => .text r.name) := List.mapM_pure
      rwa [all] at each
    have words : wordTexts 0 (o.parameters.map fun r => Document.text r.name) = .ok (o.parameters.map (·.name)) := by
      rw [← wordTexts_texts 0 (o.parameters.map (·.name)), List.map_map]
      rfl
    have own : (Element.operation o).references = typeReference o.type := rfl
    obtain ⟨name, reads⟩ := typed.gives_readTypeName (mem_elements_of_tree inside) own
    refine parameters.then ?_
    rw [words]
    refine (gives_of (.ok _)).discard.then (reads.discard.then ?_)
    rw [memberFits_texts]
    exact gives_of (.ok ())

/-- The box of a type is drawn as the linked form has it. -/
theorem IsTyped.gives_drawBox (w : Page) (l : LinkedType) :
    (d.drawBox (.ofStyle style) .nothing w ⟨t, l, l⟩).Gives
      ((Diagram.boxOf style l).elim (.ok w) (boxed w)) := by
  have lines : (l.literals.map Document.text).forM literalLine = .ok () := by
    refine forM_eq_ok fun literal among => ?_
    obtain ⟨text, -, rfl⟩ := List.mem_map.1 among
    rfl
  unfold drawBox
  dsimp only
  rw [GivenAt.literals_nothing]
  refine (typed.gives_readBox there).then ((gives_of (.ok _)).then ?_)
  have own : (Vocabulary.ofStyle style).style = style := rfl
  rw [own]
  cases Diagram.boxOf style l with
  | none => exact gives_pure w
  | some b =>
    dsimp only
    rw [lines]
    have drawn : (Inquiry.of (boxed w b) >>= fun w => Inquiry.of (.ok ()) >>= fun _ => pure w).Gives
        (boxed w b >>= fun w => .ok w) :=
      (gives_of (boxed w b)).bind fun w' _ => (gives_of (.ok ())).then (gives_pure w')
    have same : (boxed w b >>= fun w => .ok w) = boxed w b := bind_pure (boxed w b)
    rwa [same] at drawn

/-- Reading the super types of a type meets nothing in the way. -/
theorem IsTyped.gives_readSuperLines : (d.readSuperLines t).Gives (.ok ()) := by
  have inside : Element.classifier t ∈ d.elements := mem_elements_of_tree (Model.mem_types_iff.1 there)
  have name (target : Option Holder) (other : target ≠ some .model) : (d.readSuperName target).Gives (.ok ()) := by
    cases target with
    | none => exact gives_pure ()
    | some holder =>
      cases holder with
      | model => exact absurd rfl other
      | element origin =>
        obtain ⟨name, held⟩ := typed.nameHeld_eq origin
        unfold readSuperName
        dsimp only
        rw [held]
        exact (gives_of (.ok _)).discard
  exact (typed.gives_readEach inside .superClasses name).then (typed.gives_readEach inside .superInterfaces name)

/-- Reading the ends of an association meets nothing in the way. -/
theorem IsTyped.gives_readEdge : (d.readEdge t).Gives (.ok ()) := by
  unfold readEdge
  split
  · refine gives_forM fun e among => ?_
    have inside : Element.property e ∈ d.model.elements :=
      Model.mem_elements_of_mem_parts (Model.mem_types_iff.1 there) (by simp [among])
    have own : (Element.property e).references = typeReference e.type := rfl
    obtain ⟨name, reads⟩ := typed.gives_readTypeName (mem_elements_of_tree inside) own
    exact reads.discard
  · exact gives_pure ()

omit there

/-! ## Diagrams -/

/-- The diagram of a package in a draft in which everything is of its kind is that of the linked form, whatever was
read before. -/
theorem IsTyped.gives_diagramOf (s : Diagram.Settings) {p : Package Handle Pointer}
    (there : p ∈ d.model.allPackages) {linked : LinkedPackage}
    (kinds : linked.types.map (·.kind) = p.types.map (·.kind)) :
    (d.diagramOf s (.ofStyle s.style) .nothing p linked linked).Gives (s.diagram linked) := by
  have known {t : Classifier Handle Pointer} (among : t ∈ p.types) : t ∈ d.model.types :=
    List.mem_flatMap.2 ⟨p, there, among⟩
  have empty : linked.types.isEmpty = p.types.isEmpty := by
    rw [← List.isEmpty_map (f := (·.kind)), kinds, List.isEmpty_map]
  have relations : (d.readRelations p.types).Gives (.ok ()) :=
    Gives.then (a := ()) (gives_forM fun t among => typed.gives_readSuperLines (known among))
      (gives_forM fun t among => typed.gives_readEdge (known among))
  have boxes : ((boxedTypes (TypeForms.ofLists p.types linked.types linked.types)).foldlM
      (d.drawBox (.ofStyle s.style) .nothing) (Page.start s.indent s.style)).Gives
        ((Diagram.boxes s.style linked.types).foldlM boxed (Page.start s.indent s.style)) := by
    rw [Diagram.boxes, ← List.filterMap_flatMap, ← linked_boxedTypes kinds, List.foldlM_filterMap, List.foldlM_map]
    refine gives_foldlM (fun w t among => ?_) _
    obtain ⟨own, same⟩ := quiet_eq_linked (mem_boxedTypes among)
    obtain ⟨t, l, l'⟩ := t
    obtain rfl : l' = l := same
    have drawn : (d.drawBox (.ofStyle s.style) .nothing w ⟨t, l', l'⟩).Gives
        ((Diagram.boxOf s.style l').elim (.ok w) (boxed w)) := typed.gives_drawBox (known own) w l'
    dsimp only
    cases found : Diagram.boxOf s.style l' with
    | none =>
      rw [found] at drawn
      exact drawn
    | some b =>
      rw [found] at drawn
      exact drawn
  rw [Diagram.diagram_eq, empty, diagramOf]
  split
  · exact gives_pure none
  · refine boxes.bind fun w _ => relations.then ?_
    refine (gives_of _).bind fun texts _ => ?_
    refine (gives_drawGroup w texts).bind fun w' _ => ?_
    refine (gives_drawGroup w' _).bind fun w'' _ => ?_
    rw [typed.homeTexts_eq, textFits_texts]
    exact (gives_of (.ok _)).discard.then ((gives_of (.ok ())).then (gives_pure _))

end Draft

end ClassDiagram
