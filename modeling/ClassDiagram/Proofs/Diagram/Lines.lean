import ClassDiagram.Diagram.File
import ClassDiagram.Proofs.Fallible
import ClassDiagram.Proofs.Layout

/-!
# The lines of a diagram

Whatever is written on a page adds its lines and leaves the words, the signs and the depth as they are
(`Page.Adds`).  So the diagram of a package has exactly the lines of its boxes, its relations and what it hides, after a
start mark and with an empty line before each group where one is in order (`lines_of_writeTypes`).  Besides empty lines
its text has these alone, between two marks (`fullLines_of_diagram`).  And with a text to indent lines nothing is in the
way of it but its relations (`exists_diagram_iff`).
-/

set_option autoImplicit false

namespace ClassDiagram.Diagram

variable {w w' v : Page} {header text margin : String} {texts more : List String}

/-- Whether a page has some more lines and is otherwise like another page. -/
structure Page.Adds (w w' : Page) (texts : List String) : Prop where
  indent : w'.indent = w.indent
  style : w'.style = w.style
  depth : w'.depth = w.depth
  lines : w'.lines.inOrder = w.lines.inOrder ++ texts

/-- A page that is left as it is adds nothing. -/
theorem Page.Adds.refl (w : Page) : w.Adds w [] := ⟨rfl, rfl, rfl, (List.append_nil _).symm⟩

/-- What is added in two steps is added one after the other. -/
theorem Page.Adds.trans (first : w.Adds v texts) (second : v.Adds w' more) : w.Adds w' (texts ++ more) where
  indent := second.indent.trans first.indent
  style := second.style.trans first.style
  depth := second.depth.trans first.depth
  lines := by rw [second.lines, first.lines, List.append_assoc]

/-! ## Lines -/

/-- A line is added to a page as it is indented there. -/
theorem line_eq_ok : w.line text = .ok w' ↔
    ∃ l, indentedLine w.indent w.depth.toNat text = .ok l ∧ w' = { w with lines := l :: w.lines } := by
  unfold Page.line
  cases indentedLine w.indent w.depth.toNat text with
  | error e => exact ⟨nofun, fun ⟨_, formed, _⟩ => nomatch formed⟩
  | ok l =>
    constructor
    · rintro ⟨⟩
      exact ⟨l, rfl, rfl⟩
    · rintro ⟨_, ⟨⟩, rfl⟩
      rfl

/-- A line is laid out at the depth of the page. -/
theorem adds_line (written : w.line text = .ok w') : w.Adds w' (laid w.indent.margin w.depth.toNat [text]) := by
  obtain ⟨l, formed, rfl⟩ := line_eq_ok.1 written
  refine ⟨rfl, rfl, rfl, ?_⟩
  rw [← indentedLine_eq_laid formed]
  exact w.lines.inOrder_cons l

/-- A line can be added where the indentation is a text. -/
theorem exists_line (unit : w.indent = .unit margin) (text : String) : ∃ w', w.line text = .ok w' := by
  obtain ⟨l, formed⟩ := exists_indentedLine margin w.depth.toNat text
  exact ⟨_, line_eq_ok.2 ⟨l, unit ▸ formed, rfl⟩⟩

/-- Lines are laid out one after another at the depth of the page. -/
theorem adds_addLines (written : w.addLines texts = .ok w') :
    w.Adds w' (laid w.indent.margin w.depth.toNat texts) := by
  induction texts generalizing w with
  | nil =>
    obtain rfl := Except.ok.inj written
    exact .refl w
  | cons text rest ih =>
    rw [Page.addLines, List.foldlM_cons] at written
    obtain ⟨v, first, later⟩ := bind_eq_ok.1 written
    have here := adds_line first
    have others := ih later
    rw [here.indent, here.depth] at others
    exact here.trans others

/-- Lines can be added where the indentation is a text. -/
theorem exists_addLines (unit : w.indent = .unit margin) (texts : List String) : ∃ w', w.addLines texts = .ok w' := by
  induction texts generalizing w with
  | nil => exact ⟨w, rfl⟩
  | cons text rest ih =>
    obtain ⟨v, first⟩ := exists_line unit text
    obtain ⟨w', later⟩ := ih ((adds_line first).indent.trans unit)
    refine ⟨w', ?_⟩
    rw [Page.addLines, List.foldlM_cons, first]
    exact later

/-! ## Boxes -/

/-- The lines of a box: its header alone, or a block with the lines in it. -/
def Box.allLines (margin : String) (b : Box) : List String :=
  if b.lines.isEmpty then [b.header] else [b.header ++ " \x7b"] ++ laid margin 1 b.lines ++ ["\x7d"]

/-- The lines of a box; empty ones do not count. -/
def Box.fullLines (margin : String) (b : Box) : List String :=
  if b.lines.isEmpty then full [b.header] else [b.header ++ " \x7b"] ++ inside margin 1 b.lines ++ ["\x7d"]

/-- The full lines of a box are those without the gaps in it. -/
theorem Box.full_allLines (margin : String) (b : Box) : full (b.allLines margin) = b.fullLines margin := by
  have head : full [b.header ++ " \x7b"] = [b.header ++ " \x7b"] :=
    full_eq_self (List.forall_mem_singleton.2 (by simp))
  rw [allLines, Box.fullLines]
  split
  · rfl
  · rw [full_append, full_append, head, full_laid]
    rfl

/-- A box is opened by its header and a brace, and what follows is one deeper. -/
theorem openBox_eq_ok : w.openBox header = .ok w' ↔
    ∃ v, w.line (header ++ " \x7b") = .ok v ∧ w' = { v with depth := v.depth + 1 } := by
  rw [Page.openBox, bind_eq_ok]
  refine exists_congr fun v => and_congr_right fun _ => ?_
  exact ⟨fun same => (Except.ok.inj same).symm, fun same => congrArg _ same.symm⟩

/-- A box that is in no other adds its lines. -/
theorem adds_box {b : Box} (outside : w.depth = 0) (written : w.box b.header b.lines = .ok w') :
    w.Adds w' (b.allLines w.indent.margin) := by
  unfold Page.box at written
  unfold Box.allLines
  split at written
  · next empty =>
    have alone := adds_line written
    rw [outside, Int.toNat_zero, laid_zero] at alone
    rwa [if_pos empty]
  · next listed =>
    obtain ⟨opened, first, written⟩ := bind_eq_ok.1 written
    obtain ⟨filled, second, last⟩ := bind_eq_ok.1 written
    obtain ⟨entered, entry, rfl⟩ := openBox_eq_ok.1 first
    have before := adds_line entry
    have among := adds_addLines second
    have after := adds_line (w := { filled with depth := filled.depth - 1 }) last
    -- Inside the box the depth is one, and before and after it the depth is that of the page.
    have depth : filled.depth = 1 := by rw [among.depth, before.depth, outside, Int.zero_add]
    have inner : (entered.depth + 1).toNat = 1 := by rw [before.depth, outside]; rfl
    have outer : (filled.depth - 1).toNat = 0 := by rw [depth]; rfl
    rw [if_neg listed]
    refine ⟨?_, ?_, ?_, ?_⟩
    · exact after.indent.trans (among.indent.trans before.indent)
    · exact after.style.trans (among.style.trans before.style)
    · rw [after.depth, depth, outside, Int.sub_self]
    · have braced := after.lines
      rw [outer, laid_zero] at braced
      rw [braced, among.lines, before.lines, inner, outside, Int.toNat_zero, laid_zero, before.indent]
      simp only [List.append_assoc]

/-- A box can be added where the indentation is a text. -/
theorem exists_box (unit : w.indent = .unit margin) (header : String) (texts : List String) :
    ∃ w', w.box header texts = .ok w' := by
  unfold Page.box
  split
  · exact exists_line unit header
  · obtain ⟨entered, entry⟩ := exists_line unit (header ++ " \x7b")
    have first := (adds_line entry).indent.trans unit
    obtain ⟨filled, second⟩ := exists_addLines (w := { entered with depth := entered.depth + 1 }) first texts
    have within := (adds_addLines second).indent.trans first
    obtain ⟨w', last⟩ := exists_line (w := { filled with depth := filled.depth - 1 }) within "\x7d"
    exact ⟨w', bind_eq_ok.2 ⟨_, openBox_eq_ok.2 ⟨entered, entry, rfl⟩, bind_eq_ok.2 ⟨filled, second, last⟩⟩⟩

/-- What a group of lines adds to those before it: an empty line where one is in order and the group, if there are
lines in it. -/
def groupAfter (lines texts : List String) : List String :=
  if texts.isEmpty then [] else WrittenLines.gapAfter lines ++ texts

/-- The full lines of a group are those that are put in it. -/
theorem full_groupAfter (lines texts : List String) : full (groupAfter lines texts) = full texts := by
  unfold groupAfter
  split
  · next empty => rw [List.isEmpty_iff.1 empty]
  · rw [full_append, WrittenLines.full_gapAfter]
    rfl

/-- A group is set off from the lines before it. -/
theorem adds_addGroup (outside : w.depth = 0) (written : w.addGroup texts = .ok w') :
    w.Adds w' (groupAfter w.lines.inOrder texts) := by
  unfold Page.addGroup at written
  unfold groupAfter
  split at written
  · next empty =>
    obtain rfl := Except.ok.inj written
    rw [if_pos empty]
    exact .refl w
  · next listed =>
    have added := adds_addLines (w := w.blank) written
    have ground : w.blank.depth.toNat = 0 := congrArg Int.toNat outside
    have gap : w.blank.lines.inOrder = w.lines.inOrder ++ WrittenLines.gapAfter w.lines.inOrder := w.lines.inOrder_blank
    refine ⟨added.indent, added.style, added.depth, ?_⟩
    rw [added.lines, ground, laid_zero, gap, if_neg listed, List.append_assoc]

/-- A group can be added where the indentation is a text. -/
theorem exists_addGroup (unit : w.indent = .unit margin) (texts : List String) : ∃ w', w.addGroup texts = .ok w' := by
  unfold Page.addGroup
  split
  · exact ⟨w, rfl⟩
  · exact exists_addLines (w := w.blank) unit texts

/-! ## Writing without the page that was left -/

/-- A page after the box of a type, or what is in the way of it. -/
def boxed (w : Page) (b : Box) : Except Misfit Page := (w.box b.header b.lines).mapError (·.error)

/-- A page after a group of lines, or what is in the way of it. -/
def grouped (w : Page) (texts : List String) : Except Misfit Page := (w.addGroup texts).mapError (·.error)

/-- What was expected on a page fails with the error that it had before. -/
theorem mapError_expect {α : Type} (w : Page) (x : Except Misfit α) : (w.expect x).mapError (·.error) = x := by
  cases x <;> rfl

/-- Boxes are added in order. -/
theorem adds_boxes {boxes : List Box} (outside : w.depth = 0) (written : boxes.foldlM boxed w = .ok w') :
    w.Adds w' (boxes.flatMap (Box.allLines w.indent.margin)) := by
  induction boxes generalizing w with
  | nil =>
    obtain rfl := Except.ok.inj written
    exact .refl w
  | cons b rest ih =>
    rw [List.foldlM_cons] at written
    obtain ⟨v, first, later⟩ := bind_eq_ok.1 written
    have here := adds_box outside (mapError_eq_ok.1 first)
    have others := ih (here.depth.trans outside) later
    rw [here.indent] at others
    rw [List.flatMap_cons]
    exact here.trans others

/-- Boxes can be added where the indentation is a text. -/
theorem exists_boxes (outside : w.depth = 0) (unit : w.indent = .unit margin) (boxes : List Box) :
    ∃ w', boxes.foldlM boxed w = .ok w' := by
  induction boxes generalizing w with
  | nil => exact ⟨w, rfl⟩
  | cons b rest ih =>
    obtain ⟨v, first⟩ := exists_box unit b.header b.lines
    have here := adds_box outside first
    obtain ⟨w', later⟩ := ih (here.depth.trans outside) (here.indent.trans unit)
    refine ⟨w', ?_⟩
    rw [List.foldlM_cons]
    exact bind_eq_ok.2 ⟨v, mapError_eq_ok.2 first, later⟩

/-- The diagram of a package, with the words and signs of the settings throughout. -/
theorem diagram_eq (s : Settings) (p : LinkedPackage) : s.diagram p =
    if p.types.isEmpty then .ok none
    else do
      let w ← (boxes s.style p.types).foldlM boxed (Page.start s.indent s.style)
      let relations ← relationLines s.style p.types
      let w ← grouped w relations
      let w ← grouped w (hideLines s.style p.types)
      return some (s.fileOf p w.text) := by
  rw [Settings.diagram]
  split
  · rfl
  · rw [writeTypes, mapError_bind, mapError_foldlM]
    change ((boxes s.style p.types).foldlM boxed (Page.start s.indent s.style) >>= _) >>= _ = _
    cases drawn : (boxes s.style p.types).foldlM boxed (Page.start s.indent s.style) with
    | error e => rfl
    | ok w =>
      have first := adds_boxes (w := .start s.indent s.style) rfl drawn
      have same : w.style = s.style := first.style
      change Except.mapError _ _ >>= _ = _
      rw [same, mapError_bind, mapError_expect]
      cases relationLines s.style p.types with
      | error e => rfl
      | ok relations =>
        change Except.mapError _ _ >>= _ = grouped w relations >>= _
        rw [mapError_bind]
        change (grouped w relations >>= _) >>= _ = _
        cases related : grouped w relations with
        | error e => rfl
        | ok w' =>
          have same' : w'.style = s.style := (adds_addGroup first.depth (mapError_eq_ok.1 related)).style.trans same
          change grouped w' (hideLines w'.style p.types) >>= _ = _
          rw [same']
          rfl

/-! ## Diagrams -/

variable {s : Settings} {p : LinkedPackage}

/-- The lines of a diagram before its end mark: those of boxes, then a group of relations and a group of what is
hidden. -/
def pageLines (s : Settings) (boxes : List Box) (relations hides : List String) : List String :=
  let boxed := [s.style.start] ++ boxes.flatMap (Box.allLines s.indent.margin)
  let related := boxed ++ groupAfter boxed relations
  related ++ groupAfter related hides

/-- The full lines of a page are its first line, those of the boxes, the relations and what is hidden. -/
theorem full_pageLines (s : Settings) (boxes : List Box) (relations hides : List String) :
    full (pageLines s boxes relations hides) = full [s.style.start] ++
      boxes.flatMap (Box.fullLines s.indent.margin) ++ full relations ++ full hides := by
  have all : full (boxes.flatMap (Box.allLines s.indent.margin)) = boxes.flatMap (Box.fullLines s.indent.margin) := by
    induction boxes with
    | nil => rfl
    | cons b rest ih => rw [List.flatMap_cons, List.flatMap_cons, full_append, ih, b.full_allLines]
  simp only [pageLines, full_append, full_groupAfter, all]

/-- A page on which the contents of a diagram were written has their lines, and no box on it is open. -/
theorem lines_of_writeTypes {types : List LinkedType} (written : writeTypes (Page.start s.indent s.style) types = .ok w) :
    w.style = s.style ∧ w.depth = 0 ∧
      ∃ relations, relationLines s.style types = .ok relations ∧
        w.lines.inOrder = pageLines s (boxes s.style types) relations (hideLines s.style types) := by
  obtain ⟨v, boxes, written⟩ := bind_eq_ok.1 written
  have drawn : (Diagram.boxes s.style types).foldlM boxed (Page.start s.indent s.style) = .ok v := by
    have same := mapError_eq_ok (h := fun e : Failure => e.error).2 boxes
    rwa [mapError_foldlM] at same
  have start : (Page.start s.indent s.style).lines.inOrder = [s.style.start] := rfl
  have first := adds_boxes (w := .start s.indent s.style) rfl drawn
  have style : v.style = s.style := first.style
  obtain ⟨relations, formed, written⟩ := bind_eq_ok.1 written
  obtain ⟨v', second, third⟩ := bind_eq_ok.1 written
  have formed : relationLines s.style types = .ok relations := by
    rw [style] at formed
    rw [← mapError_expect v (relationLines s.style types), formed]
    rfl
  have related := first.trans (adds_addGroup first.depth second)
  have style' : v'.style = s.style := related.style
  rw [style'] at third
  have whole := related.trans (adds_addGroup related.depth third)
  refine ⟨whole.style, whole.depth, relations, formed, ?_⟩
  rw [whole.lines, related.lines, first.lines, start]
  simp only [pageLines, List.append_assoc]
  rfl

/-- The diagram of a package is the text of a page with its contents. -/
theorem diagram_eq_some {f : DiagramFile} : s.diagram p = .ok (some f) ↔
    p.types ≠ [] ∧ ∃ w, writeTypes (Page.start s.indent s.style) p.types = .ok w ∧ f = s.fileOf p w.text := by
  rw [Settings.diagram]
  split
  · next empty => exact ⟨nofun, fun given => absurd (List.isEmpty_iff.1 empty) given.1⟩
  · next listed =>
    rw [bind_eq_ok]
    simp only [mapError_eq_ok]
    constructor
    · rintro ⟨w, written, same⟩
      exact ⟨by simpa using listed, w, written, (Option.some.inj (Except.ok.inj same)).symm⟩
    · rintro ⟨-, w, written, rfl⟩
      exact ⟨w, written, rfl⟩

/-- The text of a page: its lines without empty ones at the end, and the end mark. -/
theorem text_eq (w : Page) : w.text = textOfLines (w.lines.inOrder.rdropWhile (·.isEmpty) ++ [w.style.finish]) := by
  rw [← WrittenLines.inOrder_dropBlanks]
  rfl

/-- The text of a diagram has its first line, its boxes, its relations, what is hidden and its last line. -/
theorem fullLines_of_diagram {f : DiagramFile} (drawn : s.diagram p = .ok (some f)) :
    ∃ lines relations, relationLines s.style p.types = .ok relations ∧ f = s.fileOf p (textOfLines lines) ∧
      full lines = full [s.style.start] ++ (boxes s.style p.types).flatMap (Box.fullLines s.indent.margin) ++
        full relations ++ full (hideLines s.style p.types) ++ full [s.style.finish] := by
  obtain ⟨-, w, written, rfl⟩ := diagram_eq_some.1 drawn
  obtain ⟨style, -, relations, formed, lines⟩ := lines_of_writeTypes written
  refine ⟨_, relations, formed, congrArg _ (text_eq w), ?_⟩
  rw [full_append, full_rdropWhile, lines, style, full_pageLines]

/-- With a text to indent lines, a package with types has a diagram exactly if its relations can be written. -/
theorem exists_diagram_iff (unit : s.indent = .unit margin) (types : p.types ≠ []) :
    (∃ f, s.diagram p = .ok (some f)) ↔ ∃ relations, relationLines s.style p.types = .ok relations := by
  have some : ¬ p.types.isEmpty = true := by simpa using types
  rw [diagram_eq, if_neg some]
  constructor
  · rintro ⟨f, drawn⟩
    obtain ⟨v, _, drawn⟩ := bind_eq_ok.1 drawn
    obtain ⟨relations, related, _⟩ := bind_eq_ok.1 drawn
    exact ⟨relations, related⟩
  · rintro ⟨relations, related⟩
    obtain ⟨v, boxes⟩ := exists_boxes (w := .start s.indent s.style) rfl unit (Diagram.boxes s.style p.types)
    have first := adds_boxes (w := .start s.indent s.style) rfl boxes
    have unit' := first.indent.trans unit
    obtain ⟨v', second⟩ := exists_addGroup unit' relations
    have unit'' := (adds_addGroup first.depth second).indent.trans unit'
    obtain ⟨w, third⟩ := exists_addGroup unit'' (hideLines s.style p.types)
    refine ⟨s.fileOf p w.text, bind_eq_ok.2 ⟨v, boxes, bind_eq_ok.2 ⟨relations, related, ?_⟩⟩⟩
    exact bind_eq_ok.2 ⟨v', mapError_eq_ok.2 second, bind_eq_ok.2 ⟨w, mapError_eq_ok.2 third, rfl⟩⟩

end ClassDiagram.Diagram
