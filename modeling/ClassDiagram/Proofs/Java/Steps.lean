import ClassDiagram.Proofs.Java.Imports
import ClassDiagram.Proofs.Java.Layout
import Mathlib.Data.Finset.Sort

/-!
# Steps of writing

Where lines can be indented, all that is written on a page can be said in four ways: a line, an empty line where one is in
order, and the beginning and the end of a block (`Action`).  Only the end of a block fails, where none is open, and it
leaves the page as it was (`Page.perform_eq`).  The steps that a unit is written with are rows of these actions
(`Step.take_eq`), so what all actions preserve is preserved by all steps, one after the other (`Page.foldl_after`).
-/

set_option autoImplicit false

namespace ClassDiagram.Java

namespace Page

variable {w : Page} {margin : String}

/-! ## Pages on which lines can be indented -/

/-- A page with further lines. -/
def withLines (w : Page) (lines : List String) : Page := { w with lines := lines.reverse ++ w.lines }

/-- Lines that are added leave the open blocks. -/
@[simp] theorem withLines_openBlocks (w : Page) (lines : List String) :
    (w.withLines lines).openBlocks = w.openBlocks := rfl

/-- Lines that are added twice are added in a row. -/
theorem withLines_withLines (w : Page) (first second : List String) :
    (w.withLines first).withLines second = w.withLines (first ++ second) := by
  rw [withLines, withLines, withLines, List.reverse_append, List.append_assoc]

/-- Lines that are added come last. -/
theorem inOrder_withLines (w : Page) (lines : List String) :
    (w.withLines lines).lines.inOrder = w.lines.inOrder ++ lines := by
  rw [withLines, WrittenLines.inOrder, List.reverse_append, List.reverse_reverse]
  rfl

/-- A line is laid out inside the open blocks. -/
theorem line_eq (unit : w.indent = .unit margin) (text : String) :
    w.line text = .ok (w.withLines (laid margin w.openBlocks.length [text])) := by
  obtain ⟨l, formed⟩ := exists_indentedLine margin w.openBlocks.length text
  have own := indentedLine_eq_laid formed
  rw [Indent.margin] at own
  rw [← own, line_eq_ok]
  exact ⟨l, unit ▸ formed, rfl⟩

/-- Lines are laid out inside the open blocks. -/
theorem addLines_eq (unit : w.indent = .unit margin) (texts : List String) :
    w.addLines texts = .ok (w.withLines (laid margin w.openBlocks.length texts)) := by
  induction texts generalizing w with
  | nil => rfl
  | cons text rest ih =>
    have later := ih (w := w.withLines (laid margin w.openBlocks.length [text])) unit
    rw [withLines_withLines] at later
    rw [addLines, List.foldlM_cons, line_eq unit]
    exact later

/-- The beginning of a block is its header with a brace, and one block more is open. -/
theorem openBlock_eq (unit : w.indent = .unit margin) (header : String) :
    w.openBlock header = .ok { w.withLines (laid margin w.openBlocks.length [header ++ " \x7b"]) with
      openBlocks := header :: w.openBlocks } := by
  rw [openBlock, line_eq unit]
  rfl

/-- No block can be closed where none is open. -/
theorem closeBlock_of_nil (closed : w.openBlocks = []) : w.closeBlock = .error ⟨.noOpenBlock, w⟩ := by
  unfold closeBlock
  rw [closed]
  rfl

/-- A page without its innermost block and the empty lines at its end. -/
def outside (w : Page) : Page := { w with openBlocks := w.openBlocks.tail, lines := w.lines.dropBlanks }

/-- The end of a block is a brace under its header. -/
theorem closeBlock_eq {header : String} {outer : List String} (unit : w.indent = .unit margin)
    (opened : w.openBlocks = header :: outer) :
    w.closeBlock = .ok (w.outside.withLines (laid margin outer.length ["\x7d"])) := by
  have brace := line_eq (w := w.outside) unit "\x7d"
  unfold closeBlock
  rw [outside, opened] at brace ⊢
  exact brace

end Page

/-! ## Actions -/

/-- What is done to a page. -/
inductive Action where
  | line (text : String)
  | blank
  | openBlock (header : String)
  | closeBlock
  deriving Repr, DecidableEq

namespace Page

variable {w : Page} {margin : String} {a : Action}

/-- Does something to a page. -/
def perform (w : Page) : Action → Written
  | .line text => w.line text
  | .blank => .ok w.blank
  | .openBlock header => w.openBlock header
  | .closeBlock => w.closeBlock

/-- The page that is there after a piece of writing, also if it failed. -/
def left : Written → Page
  | .ok w => w
  | .error failure => failure.page

/-- The page after something is done to it. -/
def act (w : Page) (a : Action) : Page := left (w.perform a)

/-- Only the end of a block fails, where none is open, and it leaves the page as it was. -/
theorem perform_eq (unit : w.indent = .unit margin) (a : Action) :
    w.perform a = if a = .closeBlock ∧ w.openBlocks = [] then .error ⟨.noOpenBlock, w⟩ else .ok (w.act a) := by
  cases a with
  | line text => rw [act, perform, line_eq unit]; rfl
  | blank => rfl
  | openBlock header => rw [act, perform, openBlock_eq unit]; rfl
  | closeBlock =>
    cases opened : w.openBlocks with
    | nil => rw [perform, closeBlock_of_nil opened]; rfl
    | cons header outer => rw [act, perform, closeBlock_eq unit opened]; rfl

/-- A line that is written is laid out inside the open blocks. -/
theorem act_line (unit : w.indent = .unit margin) (text : String) :
    w.act (.line text) = w.withLines (laid margin w.openBlocks.length [text]) := by
  rw [act, perform, line_eq unit, left]

/-- A block that begins has its header laid out and is open. -/
theorem act_openBlock (unit : w.indent = .unit margin) (header : String) :
    w.act (.openBlock header) = { w.withLines (laid margin w.openBlocks.length [header ++ " \x7b"]) with
      openBlocks := header :: w.openBlocks } := by
  rw [act, perform, openBlock_eq unit, left]

/-- The end of a block leaves a page as it is where none is open. -/
theorem act_closeBlock_of_nil (closed : w.openBlocks = []) : w.act .closeBlock = w := by
  rw [act, perform, closeBlock_of_nil closed, left]

/-- The end of a block lays out its brace outside of it. -/
theorem act_closeBlock {header : String} {outer : List String} (unit : w.indent = .unit margin)
    (opened : w.openBlocks = header :: outer) :
    w.act .closeBlock = w.outside.withLines (laid margin outer.length ["\x7d"]) := by
  rw [act, perform, closeBlock_eq unit opened, left]

/-- Lines that are written one by one are laid out in a row. -/
theorem foldl_lines (unit : w.indent = .unit margin) (texts : List String) :
    (texts.map Action.line).foldl act w = w.withLines (laid margin w.openBlocks.length texts) := by
  induction texts generalizing w with
  | nil => rfl
  | cons text rest ih =>
    have later := ih (w := w.withLines (laid margin w.openBlocks.length [text])) unit
    rw [withLines_withLines] at later
    rw [List.map_cons, List.foldl_cons, act_line unit]
    exact later

/-- Lines are added by writing them one by one. -/
theorem addLines_actions (unit : w.indent = .unit margin) (texts : List String) :
    w.addLines texts = .ok ((texts.map Action.line).foldl act w) := by
  rw [addLines_eq unit, foldl_lines unit]

/-- What is done to a page leaves its indentation. -/
theorem indent_act (unit : w.indent = .unit margin) (a : Action) : (w.act a).indent = .unit margin := by
  cases a with
  | line text => rwa [act_line unit]
  | blank => exact unit
  | openBlock header => rwa [act_openBlock unit]
  | closeBlock =>
    cases opened : w.openBlocks with
    | nil => rwa [act_closeBlock_of_nil opened]
    | cons header outer => rwa [act_closeBlock unit opened]

/-- However much is done to a page, it keeps its indentation. -/
theorem indent_foldl_act (unit : w.indent = .unit margin) (actions : List Action) :
    (actions.foldl act w).indent = .unit margin := by
  induction actions generalizing w with
  | nil => exact unit
  | cons a rest ih => exact ih (indent_act unit a)

end Page

/-! ## Steps -/

/-- A step of writing a unit. -/
inductive Step where
  | line (text : String)
  | blank
  | openBlock (header : String)
  | closeBlock
  | package (name : String)
  | imports (names : List String)
  | comment (description : Option String) (tags : List String)
  | fragment (content : String)
  deriving Repr, DecidableEq

/-- The lines of a description, if there is one. -/
def descriptionTexts (description : Option String) : List String :=
  match description with
  | none => []
  | some text => (Text.linesOf (Text.trimBy Text.isBlank text.toList)).map String.ofList

/-- The lines that import some names: in order, each once. -/
def importLines (names : List String) : List String := (names.toFinset.sort (· ≤ ·)).map importLine

/-- Takes a step on a page. -/
def Step.take (w : Page) : Step → Written
  | line text => w.line text
  | blank => .ok w.blank
  | openBlock header => w.openBlock header
  | closeBlock => w.closeBlock
  | package name => w.package name
  | imports names => w.imports (names.map .text)
  | comment description tags => w.comment (description.elim .null .text) tags
  | fragment content => w.fragment (.text content)

/-- The page after a step, also if it failed. -/
def Page.after (w : Page) (step : Step) : Page := left (step.take w)

/-- What is done in a step. -/
def Step.actions : Step → List Action
  | line text => [.line text]
  | blank => [.blank]
  | openBlock header => [.openBlock header]
  | closeBlock => [.closeBlock]
  | package name => (packageLines name).map .line ++ if name.isEmpty then [] else [.blank]
  | imports names => (importLines names).map .line ++ if names.isEmpty then [] else [.blank]
  | comment description tags => (commentLines (commentBody (descriptionTexts description) tags)).map .line
  | fragment content => (fragmentLines content.toList).map .line

/-- The lines of a description are its texts. -/
theorem descriptionLines_eq (description : Option String) :
    descriptionLines (description.elim .null .text) = .ok (descriptionTexts description) := by
  cases description with
  | none => rfl
  | some text =>
    unfold descriptionLines
    split
    · next none =>
      obtain rfl : text = "" := by simpa [Document.isGiven] using none
      rfl
    · rfl

/-- Names that are texts are put in order, each once. -/
theorem sortedNames_eq (names : List String) :
    sortedNames (names.map .text) = .ok ((names.toFinset.sort (· ≤ ·)).map .text) := by
  obtain ⟨sorted, ordered, inOrder, same⟩ := sortedNames_texts names
  have apart : sorted.Nodup := inOrder.imp ne_of_lt
  have weakly : sorted.Pairwise (· ≤ ·) := inOrder.imp le_of_lt
  have whole : sorted.toFinset = names.toFinset := by
    ext n
    rw [List.mem_toFinset, List.mem_toFinset, same]
  rw [ordered, ← whole, (List.toFinset_sort (· ≤ ·) apart).2 weakly]

namespace Page

variable {w : Page} {margin : String}

/-- The package is a row of actions. -/
theorem package_actions (unit : w.indent = .unit margin) (name : String) :
    w.package name = .ok ((Step.package name).actions.foldl act w) := by
  rw [package, Step.actions.eq_5, packageLines]
  cases name.isEmpty with
  | true => rfl
  | false =>
    rw [if_neg Bool.false_ne_true, if_neg Bool.false_ne_true, if_neg Bool.false_ne_true, List.map_singleton,
      List.singleton_append, List.foldl_cons, act_line unit]
    exact bind_eq_ok.2 ⟨_, line_eq unit _, rfl⟩

/-- The imports are lines one by one. -/
theorem foldlM_importLines (w : Page) (sorted : List String) :
    (sorted.map Document.text).foldlM (fun w name => do w.line s!"import {← w.expect (lineText name)};") w =
      w.addLines (sorted.map importLine) := by
  rw [addLines, List.foldlM_map, List.foldlM_map]
  rfl

/-- The imports are a row of actions. -/
theorem imports_actions (unit : w.indent = .unit margin) (names : List String) :
    w.imports (names.map .text) = .ok ((Step.imports names).actions.foldl act w) := by
  have written : w.addLines (importLines names) = .ok (((importLines names).map Action.line).foldl act w) :=
    addLines_actions unit _
  rw [importLines, ← foldlM_importLines] at written
  refine bind_eq_ok.2 ⟨_, expect_eq_ok.2 (sortedNames_eq names), bind_eq_ok.2 ⟨_, written, ?_⟩⟩
  rw [List.isEmpty_map, Step.actions, List.foldl_append]
  split <;> rfl

/-- A comment is a row of actions. -/
theorem comment_actions (unit : w.indent = .unit margin) (description : Option String) (tags : List String) :
    w.comment (description.elim .null .text) tags = .ok ((Step.comment description tags).actions.foldl act w) := by
  have written := addLines_actions unit (commentLines (commentBody (descriptionTexts description) tags))
  exact bind_eq_ok.2 ⟨_, expect_eq_ok.2 (descriptionLines_eq description), written⟩

/-- A fragment is a row of actions. -/
theorem fragment_actions (unit : w.indent = .unit margin) (content : String) :
    w.fragment (.text content) = .ok ((Step.fragment content).actions.foldl act w) := by
  have formed : contentLines (.text content) = .ok (fragmentLines content.toList) := rfl
  exact bind_eq_ok.2 ⟨_, expect_eq_ok.2 formed, addLines_actions unit _⟩

end Page

/-- A step is a row of actions.  It fails only as the end of a block where none is open, and then leaves the page as it
was. -/
theorem Step.take_eq {w : Page} {margin : String} (unit : w.indent = .unit margin) (step : Step) :
    step.take w =
      if step = .closeBlock ∧ w.openBlocks = [] then .error ⟨.noOpenBlock, w⟩ else .ok (step.actions.foldl Page.act w) := by
  have basic (a : Action) := Page.perform_eq unit a
  cases step with
  | line text => exact basic (.line text)
  | blank => exact basic .blank
  | openBlock header => exact basic (.openBlock header)
  | closeBlock =>
    have closed := basic .closeBlock
    simp only [true_and] at closed ⊢
    exact closed
  | package name => exact Page.package_actions unit name
  | imports names => exact Page.imports_actions unit names
  | comment description tags => exact Page.comment_actions unit description tags
  | fragment content => exact Page.fragment_actions unit content

namespace Page

variable {w : Page} {margin : String}

/-- A step fails exactly if it is the end of a block where none is open. -/
theorem take_eq_error_iff (unit : w.indent = .unit margin) {step : Step} {failure : Failure} :
    step.take w = .error failure ↔ step = .closeBlock ∧ w.openBlocks = [] ∧ failure = ⟨.noOpenBlock, w⟩ := by
  rw [Step.take_eq unit]
  split
  · next fails =>
    constructor
    · rintro ⟨⟩
      exact ⟨fails.1, fails.2, rfl⟩
    · rintro ⟨-, -, rfl⟩
      rfl
  · next goes =>
    constructor
    · nofun
    · rintro ⟨isEnd, none, -⟩
      exact absurd ⟨isEnd, none⟩ goes

/-- The page after a step is that after its actions. -/
theorem after_eq (unit : w.indent = .unit margin) (step : Step) : w.after step = step.actions.foldl act w := by
  rw [after, Step.take_eq unit]
  split
  · next fails =>
    obtain ⟨rfl, none⟩ := fails
    exact (act_closeBlock_of_nil none).symm
  · rfl

/-- The page after steps is that after their actions. -/
theorem foldl_after (unit : w.indent = .unit margin) (steps : List Step) :
    steps.foldl after w = (steps.flatMap Step.actions).foldl act w := by
  induction steps generalizing w with
  | nil => rfl
  | cons step rest ih =>
    rw [List.foldl_cons, List.flatMap_cons, List.foldl_append, after_eq unit]
    exact ih (indent_foldl_act unit step.actions)

end Page

end ClassDiagram.Java
