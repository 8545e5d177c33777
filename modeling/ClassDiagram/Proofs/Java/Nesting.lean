import ClassDiagram.Proofs.Java.LineFeeds
import ClassDiagram.Proofs.Java.Steps

/-!
# Blocks that are nested

What is done to a page is done to the entries that it shows (`Page.Shows.act`): an opened block waits with the entries
before it until it is ended, and is the last entry of the block around it then (`Nest.act`).  The steps look back at the
last line, to put an empty line in or to take some away; what they see there is the last entry (`Nest.gapAfter_lines`,
`Nest.rdropWhile_lines`), and the line that opens a block is never taken away.  Hence after any number of steps braces stand
under the headers of their blocks and not after empty lines (`blocks_are_nested`).
-/

set_option autoImplicit false

namespace ClassDiagram.Java

open WrittenLines (opensBlock gapAfter)

variable {margin : String} {depth : Nat} {entries : List Entry}

/-! ## Lines of entries -/

mutual

/-- The lines of an entry inside a number of blocks; a block has its brace under its header. -/
def Entry.lines (margin : String) (depth : Nat) : Entry → List String
  | .line text => laid margin depth [text]
  | .block header body =>
    laid margin depth [header ++ " \x7b"] ++ bodyLines margin (depth + 1) body ++ laid margin depth ["\x7d"]

/-- The lines of entries. -/
def bodyLines (margin : String) (depth : Nat) : List Entry → List String
  | [] => []
  | e :: rest => e.lines margin depth ++ bodyLines margin depth rest

end

/-- Entries in a row have the lines of the first and then those of the second. -/
theorem bodyLines_append (first second : List Entry) :
    bodyLines margin depth (first ++ second) = bodyLines margin depth first ++ bodyLines margin depth second := by
  induction first with
  | nil => rfl
  | cons e rest ih => rw [List.cons_append, bodyLines, bodyLines, ih, List.append_assoc]

/-- A last entry adds its lines. -/
theorem bodyLines_concat (entries : List Entry) (e : Entry) :
    bodyLines margin depth (entries ++ [e]) = bodyLines margin depth entries ++ e.lines margin depth := by
  rw [bodyLines_append, bodyLines, bodyLines, List.append_nil]

/-- Whether an entry is an empty line. -/
def Entry.isGap : Entry → Bool
  | .line text => text.isEmpty
  | .block _ _ => false

/-- Whether an empty line is in order after an entry: it is not empty itself and looks like no opened block. -/
def Entry.takesGap : Entry → Bool
  | .line text => !(text.isEmpty || opensBlock text)
  | .block _ _ => true

/-- A line that is not empty is laid out with its indentation. -/
theorem laid_of_full {text : String} (full : text.isEmpty = false) :
    laid margin depth [text] = [repeated margin depth ++ text] := by
  rw [laid, List.map_singleton, full, if_neg Bool.false_ne_true]

/-- A line that is not empty is not empty with something in front of it. -/
theorem isEmpty_append_of_full {text : String} (full : text.isEmpty = false) (front : String) :
    (front ++ text).isEmpty = false := by
  rw [Bool.eq_false_iff, Ne, String.isEmpty_iff] at full ⊢
  intro none
  exact full (String.append_eq_empty_iff.1 none).2

/-- What stands in front of a line does not matter to whether it opens a block. -/
theorem opensBlock_append {text : String} (full : text.isEmpty = false) (front : String) :
    opensBlock (front ++ text) = opensBlock text := by
  have some : text.toList ≠ [] := by
    intro none
    rw [String.toList_eq_nil_iff.1 none] at full
    cases full
  rw [opensBlock, opensBlock, String.toList_append, List.getLast?_append_of_ne_nil _ some]

/-- The last line of an entry says whether the entry is an empty line, and whether one is in order after it. -/
theorem Entry.exists_last (margin : String) (depth : Nat) (e : Entry) :
    ∃ before last, e.lines margin depth = before ++ [last] ∧ last.isEmpty = e.isGap ∧
      (last.isEmpty || opensBlock last) = !e.takesGap := by
  cases e with
  | line text =>
    rw [lines, isGap, takesGap, Bool.not_not]
    cases full : text.isEmpty with
    | true =>
      refine ⟨[], "", ?_, rfl, rfl⟩
      rw [laid, List.map_singleton, if_pos full]
      rfl
    | false =>
      refine ⟨[], _, laid_of_full full, isEmpty_append_of_full full _, ?_⟩
      rw [isEmpty_append_of_full full, opensBlock_append full]
  | block header body =>
    have brace : laid margin depth ["\x7d"] = [repeated margin depth ++ "\x7d"] := laid_of_full rfl
    rw [lines, brace, isGap, takesGap]
    refine ⟨_, _, rfl, isEmpty_append_of_full rfl _, ?_⟩
    rw [isEmpty_append_of_full rfl, opensBlock_append rfl]
    decide

/-- Dropping the empty lines at the end of the lines of entries drops the empty lines at the end of the entries, unless
there are such lines before them. -/
theorem rdropWhile_bodyLines {before : List String} (settled : before.rdropWhile (·.isEmpty) = before)
    (entries : List Entry) :
    (before ++ bodyLines margin depth entries).rdropWhile (·.isEmpty) =
      before ++ bodyLines margin depth (entries.rdropWhile Entry.isGap) := by
  induction entries using List.reverseRecOn with
  | nil =>
    rw [List.rdropWhile_nil, bodyLines, List.append_nil]
    exact settled
  | append_singleton rest e ih =>
    obtain ⟨lines, last, whole, empty, -⟩ := e.exists_last margin depth
    rw [bodyLines_concat, whole, ← List.append_assoc, ← List.append_assoc, List.rdropWhile_concat, List.rdropWhile_concat,
      empty]
    split
    · next gap =>
      -- An empty line is all that such an entry has.
      cases e with
      | block header body => cases gap
      | line text =>
        have none : lines = [] := by
          rw [Entry.lines, laid, List.map_singleton] at whole
          have one := congrArg List.length whole
          simpa using one
        rw [none, List.append_nil]
        exact ih
    · rw [bodyLines_concat, whole, List.append_assoc, List.append_assoc]

/-! ## Entries that are being written -/

/-- Entries that are being written: those so far in the innermost open block, and the open blocks. -/
structure Nest where
  entries : List Entry
  blocks : OpenBlocks
  deriving Repr

/-- The entries before a block and the block, which has no empty line at its end. -/
def enclosed (entries : List Entry) (block : String × List Entry) : List Entry :=
  block.2 ++ [.block block.1 (entries.rdropWhile Entry.isGap)]

/-- The lines of open blocks, without those of what is being written in the innermost one. -/
def openLines (margin : String) : OpenBlocks → List String
  | [] => []
  | (header, before) :: around =>
    openLines margin around ++ bodyLines margin around.length before ++
      laid margin around.length [header ++ " \x7b"]

namespace Nest

/-- Entries after something is done: a block that ends is the last entry of the one around it. -/
def act (n : Nest) : Action → Nest
  | .line text => ⟨n.entries ++ [.line text], n.blocks⟩
  | .blank => if n.entries.getLast?.any (·.takesGap) then ⟨n.entries ++ [.line ""], n.blocks⟩ else n
  | .openBlock header => ⟨[], (header, n.entries) :: n.blocks⟩
  | .closeBlock =>
    match n.blocks with
    | [] => n
    | block :: around => ⟨enclosed n.entries block, around⟩

/-- The entries that there are when all open blocks are ended. -/
def closed (n : Nest) : List Entry := n.blocks.foldl enclosed n.entries

/-- The lines of entries that are being written. -/
def lines (margin : String) (n : Nest) : List String :=
  openLines margin n.blocks ++ bodyLines margin n.blocks.length n.entries

variable {n : Nest}

/-- There is a gap after lines unless the last one is empty or opens a block. -/
theorem gapAfter_concat (lines : List String) (last : String) :
    gapAfter (lines ++ [last]) = if last.isEmpty || opensBlock last then [] else [""] := by
  rw [gapAfter, List.getLast?_concat]

/-- The line that opens a block is laid out with its indentation. -/
theorem header_line (header : String) :
    laid margin depth [header ++ " \x7b"] = [repeated margin depth ++ (header ++ " \x7b")] :=
  laid_of_full (isEmpty_header header)

/-- A line with a header and a brace opens a block. -/
theorem opensBlock_header (front header : String) : opensBlock (front ++ (header ++ " \x7b")) = true := by
  rw [opensBlock_append (isEmpty_header header), opensBlock_append rfl]
  decide

/-- An empty line is in order after the last line exactly if it is after the last entry. -/
theorem gapAfter_lines (margin : String) (n : Nest) :
    gapAfter (n.lines margin) = if n.entries.getLast?.any (·.takesGap) then [""] else [] := by
  obtain ⟨entries, blocks⟩ := n
  rcases List.eq_nil_or_concat' entries with rfl | ⟨rest, e, rfl⟩
  · cases blocks with
    | nil => rfl
    | cons block around =>
      rw [lines, openLines, bodyLines, List.append_nil, header_line, gapAfter_concat, opensBlock_header, Bool.or_true]
      rfl
  · obtain ⟨before, last, whole, -, inOrder⟩ := e.exists_last margin blocks.length
    rw [lines, bodyLines_concat, whole, ← List.append_assoc, ← List.append_assoc, gapAfter_concat, inOrder,
      List.getLast?_concat, Option.any_some]
    cases e.takesGap <;> rfl

/-- Where a block is open, only empty lines in it are dropped at the end. -/
theorem rdropWhile_lines (margin header : String) (before entries : List Entry) (around : OpenBlocks) :
    (lines margin ⟨entries, (header, before) :: around⟩).rdropWhile (·.isEmpty) =
      lines margin ⟨entries.rdropWhile Entry.isGap, (header, before) :: around⟩ := by
  apply rdropWhile_bodyLines
  rw [openLines, header_line, List.rdropWhile_concat_neg]
  rw [isEmpty_append_of_full (isEmpty_header header)]
  exact Bool.false_ne_true

/-- An ended block has its brace under its header. -/
theorem lines_enclosed (margin header : String) (before entries : List Entry) (around : OpenBlocks) :
    lines margin ⟨enclosed entries (header, before), around⟩ =
      lines margin ⟨entries.rdropWhile Entry.isGap, (header, before) :: around⟩ ++ laid margin around.length ["\x7d"] := by
  simp only [lines, enclosed, bodyLines_concat, Entry.lines, openLines, List.length_cons, List.append_assoc]

/-- Ending the open blocks one by one ends them all, the innermost first. -/
theorem foldl_closeBlock (n : Nest) : (List.replicate n.blocks.length Action.closeBlock).foldl act n = ⟨n.closed, []⟩ := by
  obtain ⟨entries, blocks⟩ := n
  induction blocks generalizing entries with
  | nil => rfl
  | cons block around ih => exact ih (enclosed entries block)

end Nest

/-! ## Pages that show entries -/

/-- Whether the lines and the open blocks of a page are those of entries that are being written. -/
structure Page.Shows (w : Page) (margin : String) (n : Nest) : Prop where
  unit : w.indent = .unit margin
  openBlocks : w.openBlocks = n.blocks.map Prod.fst
  lines : w.lines.inOrder = n.lines margin

namespace Page

variable {w : Page} {n : Nest}

/-- A page on which nothing was written shows no entries. -/
theorem shows_start (margin : String) : (start (.unit margin)).Shows margin ⟨[], []⟩ := ⟨rfl, rfl, rfl⟩

/-- What is done to a page is done to the entries that it shows. -/
theorem Shows.act (shows : w.Shows margin n) (a : Action) : (w.act a).Shows margin (n.act a) := by
  obtain ⟨unit, openBlocks, lines⟩ := shows
  have height : w.openBlocks.length = n.blocks.length := by rw [openBlocks, List.length_map]
  cases a with
  | line text =>
    rw [act_line unit]
    refine ⟨unit, openBlocks, ?_⟩
    rw [inOrder_withLines, lines, height]
    simp only [Nest.act, Nest.lines, bodyLines_concat, Entry.lines, List.append_assoc]
  | blank =>
    change w.blank.Shows margin _
    rw [Nest.act]
    have blank : w.blank.lines.inOrder = w.lines.inOrder ++ gapAfter w.lines.inOrder := WrittenLines.inOrder_blank _
    rw [lines, Nest.gapAfter_lines] at blank
    split
    · next inOrder =>
      refine ⟨unit, openBlocks, ?_⟩
      rw [blank, if_pos inOrder]
      simp only [Nest.lines, bodyLines_concat, Entry.lines, List.append_assoc]
      rfl
    · next other =>
      refine ⟨unit, openBlocks, ?_⟩
      rw [blank, if_neg other, List.append_nil]
  | openBlock header =>
    rw [act_openBlock unit]
    refine ⟨unit, congrArg (header :: ·) openBlocks, ?_⟩
    change (w.withLines _).lines.inOrder = _
    rw [inOrder_withLines, lines, height]
    simp only [Nest.act, Nest.lines, openLines, bodyLines, List.append_nil]
  | closeBlock =>
    obtain ⟨entries, blocks⟩ := n
    cases blocks with
    | nil =>
      rw [act_closeBlock_of_nil openBlocks]
      exact ⟨unit, openBlocks, lines⟩
    | cons block around =>
      obtain ⟨header, before⟩ := block
      have outer : w.outside.lines.inOrder = w.lines.inOrder.rdropWhile (·.isEmpty) := WrittenLines.inOrder_dropBlanks _
      rw [act_closeBlock unit openBlocks]
      refine ⟨unit, congrArg List.tail openBlocks, ?_⟩
      rw [inOrder_withLines, outer, lines, Nest.rdropWhile_lines, Nest.act, Nest.lines_enclosed, List.length_map]

/-- A page shows what was done to it. -/
theorem Shows.foldl (shows : w.Shows margin n) (actions : List Action) :
    (actions.foldl Page.act w).Shows margin (actions.foldl Nest.act n) := by
  induction actions generalizing w n with
  | nil => exact shows
  | cons a rest ih => exact ih (shows.act a)

/-- Steps are taken by the entries that a page shows as they are by the page. -/
theorem Shows.after (shows : w.Shows margin n) (steps : List Step) :
    (steps.foldl Page.after w).Shows margin ((steps.flatMap Step.actions).foldl Nest.act n) := by
  rw [foldl_after shows.unit]
  exact shows.foldl _

/-! ## Ends of blocks -/

/-- The brace of a block comes right after a line that is not empty, inside the blocks around it. -/
theorem Shows.closeBlock (shows : w.Shows margin n) {header : String} {outer : List String}
    (opened : w.openBlocks = header :: outer) :
    ∃ v earlier last, w.closeBlock = .ok v ∧ v.openBlocks = outer ∧
      w.lines.inOrder.rdropWhile (·.isEmpty) = earlier ++ [last] ∧ last.isEmpty = false ∧
      v.lines.inOrder = earlier ++ [last, repeated margin outer.length ++ "\x7d"] := by
  -- The line that opened the block is still there.
  have some : w.lines.inOrder.rdropWhile (·.isEmpty) ≠ [] := by
    obtain ⟨entries, blocks⟩ := n
    have openBlocks := shows.openBlocks
    rw [opened] at openBlocks
    cases blocks with
    | nil => cases openBlocks
    | cons block around =>
      obtain ⟨own, before⟩ := block
      rw [shows.lines, Nest.rdropWhile_lines, Nest.lines, openLines, Nest.header_line]
      simp
  have full := List.rdropWhile_last_not (·.isEmpty) w.lines.inOrder some
  have whole := List.dropLast_append_getLast some
  have brace : laid margin outer.length ["\x7d"] = [repeated margin outer.length ++ "\x7d"] := laid_of_full rfl
  have dropped : w.outside.lines.inOrder = w.lines.inOrder.rdropWhile (·.isEmpty) := WrittenLines.inOrder_dropBlanks _
  refine ⟨_, _, _, closeBlock_eq shows.unit opened, ?_, whole.symm, Bool.eq_false_iff.2 full, ?_⟩
  · rw [withLines_openBlocks, outside, opened]
    rfl
  · rw [inOrder_withLines, dropped, brace]
    conv_lhs => rw [← whole, List.append_assoc]
    rfl

/-- Closing all open blocks is as many actions. -/
theorem closeBlocks_eq (unit : w.indent = .unit margin) {count : Nat} (opened : w.openBlocks.length = count) :
    closeBlocks count w = .ok ((List.replicate count Action.closeBlock).foldl Page.act w) := by
  induction count generalizing w with
  | zero => rfl
  | succ count ih =>
    obtain ⟨header, outer, openBlocks⟩ := List.exists_cons_of_length_eq_add_one opened
    have height : (w.act .closeBlock).openBlocks.length = count := by
      rw [openBlocks, List.length_cons, Nat.add_right_cancel_iff] at opened
      rw [act_closeBlock unit openBlocks, withLines_openBlocks, outside, openBlocks]
      exact opened
    have closed : w.closeBlock = .ok (w.act .closeBlock) := by
      rw [act_closeBlock unit openBlocks]
      exact closeBlock_eq unit openBlocks
    exact bind_eq_ok.2 ⟨_, closed, ih (indent_act unit _) height⟩

/-- The ends of blocks are actions one for one. -/
theorem actions_ends (count : Nat) :
    (List.replicate count Step.closeBlock).flatMap Step.actions = List.replicate count Action.closeBlock := by
  rw [List.flatMap_replicate]
  exact List.flatten_replicate_singleton

/-- A page is finished by ending the blocks that are open. -/
theorem finish_eq (unit : w.indent = .unit margin) :
    w.finish = .ok ((List.replicate w.openBlocks.length Step.closeBlock).foldl Page.after w) := by
  rw [foldl_after unit, actions_ends]
  exact closeBlocks_eq unit rfl

/-- A page whose open blocks are closed shows its entries with all of them closed. -/
theorem Shows.finished (shows : w.Shows margin n) :
    ((List.replicate w.openBlocks.length Step.closeBlock).foldl Page.after w).Shows margin ⟨n.closed, []⟩ := by
  have ended := shows.after (List.replicate w.openBlocks.length Step.closeBlock)
  rw [actions_ends, shows.openBlocks, List.length_map, Nest.foldl_closeBlock] at ended
  rw [shows.openBlocks, List.length_map]
  exact ended

/-- A page that is finished is left as it is. -/
theorem Shows.finish_eq (shows : w.Shows margin ⟨entries, []⟩) : w.finish = .ok w := by
  rw [finish, shows.openBlocks]
  rfl

end Page

/-! ## Blocks without empty lines at their ends -/

mutual

/-- Whether no block in an entry has an empty line before its brace. -/
def Entry.IsTight : Entry → Prop
  | .line _ => True
  | .block _ body => body.getLast?.any Entry.isGap = false ∧ AreTight body

/-- Whether no block in entries has an empty line before its brace. -/
def AreTight : List Entry → Prop
  | [] => True
  | e :: rest => e.IsTight ∧ AreTight rest

end

/-- Entries are tight if each of them is. -/
theorem areTight_iff : AreTight entries ↔ ∀ e ∈ entries, e.IsTight := by
  induction entries with
  | nil => exact ⟨fun _ => nofun, fun _ => trivial⟩
  | cons e rest ih => rw [AreTight, ih, List.forall_mem_cons]

/-- Entries stay tight with a tight one behind them. -/
theorem areTight_concat {e : Entry} (before : AreTight entries) (last : e.IsTight) : AreTight (entries ++ [e]) := by
  rw [areTight_iff] at before ⊢
  rw [List.forall_mem_append, List.forall_mem_singleton]
  exact ⟨before, last⟩

/-- Entries that are tight stay so when the block around them ends. -/
theorem areTight_enclosed {block : String × List Entry} (inside : AreTight entries) (before : AreTight block.2) :
    AreTight (enclosed entries block) := by
  apply areTight_concat before
  refine ⟨?_, ?_⟩
  · rw [Bool.eq_false_iff, Ne, Option.any_eq_true]
    rintro ⟨e, last, gap⟩
    obtain ⟨some, rfl⟩ := List.mem_getLast?_eq_getLast last
    exact List.rdropWhile_last_not _ _ some gap
  · rw [areTight_iff] at inside ⊢
    intro e among
    exact inside e ((List.rdropWhile_prefix _ _).subset among)

namespace Nest

/-- Whether no block has an empty line before its brace. -/
structure IsTight (n : Nest) : Prop where
  entries : AreTight n.entries
  blocks : ∀ block ∈ n.blocks, AreTight block.2

variable {n : Nest}

/-- A nest without entries is tight. -/
theorem isTight_empty : IsTight ⟨[], []⟩ := ⟨trivial, List.forall_mem_nil _⟩

/-- A nest stays tight whatever is done to it. -/
theorem IsTight.act (tight : n.IsTight) (a : Action) : (n.act a).IsTight := by
  obtain ⟨entries, blocks⟩ := tight
  cases a with
  | line text => exact ⟨areTight_concat entries trivial, blocks⟩
  | blank =>
    rw [Nest.act]
    split
    · exact ⟨areTight_concat entries trivial, blocks⟩
    · exact ⟨entries, blocks⟩
  | openBlock header => exact ⟨trivial, List.forall_mem_cons.2 ⟨entries, blocks⟩⟩
  | closeBlock =>
    obtain ⟨inside, opened⟩ := n
    cases opened with
    | nil => exact ⟨entries, blocks⟩
    | cons block around =>
      rw [List.forall_mem_cons] at blocks
      exact ⟨areTight_enclosed entries blocks.1, blocks.2⟩

/-- A nest stays tight however much is done to it. -/
theorem IsTight.foldl (tight : n.IsTight) (actions : List Action) : (actions.foldl Nest.act n).IsTight := by
  induction actions generalizing n with
  | nil => exact tight
  | cons a rest ih => exact ih (tight.act a)

/-- A tight nest has tight entries when all blocks are closed. -/
theorem IsTight.closed (tight : n.IsTight) : AreTight n.closed := by
  have ended := tight.foldl (List.replicate n.blocks.length .closeBlock)
  rw [foldl_closeBlock] at ended
  exact ended.entries

end Nest

/-! ## What is written, and where -/

namespace Page

variable {w : Page}

/-- The texts that an action writes, each with the number of blocks that are open then. -/
def written (w : Page) : Action → List (Nat × String)
  | .line text => [(w.openBlocks.length, text)]
  | .blank => []
  | .openBlock header => [(w.openBlocks.length, header ++ " \x7b")]
  | .closeBlock =>
    match w.openBlocks with
    | [] => []
    | _ :: outer => [(outer.length, "\x7d")]

/-- The texts that actions write one after the other. -/
def writings (w : Page) : List Action → List (Nat × String)
  | [] => []
  | a :: rest => w.written a ++ (w.act a).writings rest

/-- Texts with an indentation for every block around them; those that are empty are left out. -/
def inPlace (margin : String) (texts : List (Nat × String)) : List String :=
  (texts.filter (! ·.2.isEmpty)).map fun (depth, text) => repeated margin depth ++ text

/-- One line in its place is indented by its depth. -/
theorem inPlace_singleton (margin : String) (depth : Nat) (text : String) :
    inPlace margin [(depth, text)] = inside margin depth [text] := by
  rw [inPlace, inside, full, List.filter_singleton, List.filter_singleton]
  cases text.isEmpty <;> rfl

/-- Lines that are laid out on a page add those of them that are not empty. -/
theorem fullLines_withLines (w : Page) (texts : List String) :
    (w.withLines (laid margin depth texts)).fullLines = w.fullLines ++ inside margin depth texts := by
  rw [← full_laid, fullLines, WrittenLines.fullLines, inOrder_withLines, full_append]
  rfl

/-- What is done to a page adds what it writes, in its place. -/
theorem fullLines_act (unit : w.indent = .unit margin) (a : Action) :
    (w.act a).fullLines = w.fullLines ++ inPlace margin (w.written a) := by
  cases a with
  | line text =>
    rw [act_line unit, fullLines_withLines, written, inPlace_singleton]
  | blank => exact w.lines.fullLines_blank.trans (List.append_nil _).symm
  | openBlock header =>
    rw [act_openBlock unit, written, inPlace_singleton]
    exact fullLines_withLines w _
  | closeBlock =>
    cases opened : w.openBlocks with
    | nil =>
      rw [act_closeBlock_of_nil opened, written, opened]
      exact (List.append_nil _).symm
    | cons header outer =>
      have dropped : w.outside.fullLines = w.fullLines := w.lines.fullLines_dropBlanks
      rw [act_closeBlock unit opened, fullLines_withLines, dropped, written, opened, inPlace_singleton]

/-- The lines of a page that are not empty are the texts that were written. -/
theorem fullLines_foldl (unit : w.indent = .unit margin) (actions : List Action) :
    (actions.foldl act w).fullLines = w.fullLines ++ inPlace margin (w.writings actions) := by
  induction actions generalizing w with
  | nil => exact (List.append_nil _).symm
  | cons a rest ih =>
    rw [List.foldl_cons, ih (indent_act unit a), fullLines_act unit, writings, inPlace, inPlace, inPlace,
      List.filter_append, List.map_append, List.append_assoc]

end Page

/-! ## Texts without line feeds -/

/-- The texts of the lines that an action writes. -/
def Action.texts : Action → List String
  | line text => [text]
  | blank => []
  | openBlock header => [header ++ " \x7b"]
  | closeBlock => ["\x7d"]

/-- The texts that a step is given and that are to stand on one line each. -/
def Step.texts : Step → List String
  | line text => [text]
  | openBlock header => [header]
  | package name => [name]
  | imports names => names
  | comment _ tags => tags
  | _ => []

/-- Lines without line feeds have none when they are laid out. -/
theorem areUnbroken_laid {texts : List String} (apart : '\n' ∉ margin.toList) (unbroken : AreUnbroken texts)
    (depth : Nat) : AreUnbroken (laid margin depth texts) := by
  have front : '\n' ∉ (repeated margin depth).toList := mt (toList_repeated_subset margin depth '\n') apart
  intro l there
  obtain ⟨text, among, rfl⟩ := List.mem_map.1 there
  split
  · decide
  · exact not_mem_append front (unbroken text among)

/-- A page without line feeds in its lines stays so if none are in what is written. -/
theorem areUnbroken_act {w : Page} (unit : w.indent = .unit margin) (apart : '\n' ∉ margin.toList) {a : Action}
    (given : AreUnbroken a.texts) (before : AreUnbroken w.lines.inOrder) : AreUnbroken (w.act a).lines.inOrder := by
  have added (depth : Nat) := areUnbroken_laid apart given depth
  cases a with
  | line text =>
    rw [Page.act_line unit, Page.inOrder_withLines]
    exact areUnbroken_append.2 ⟨before, added _⟩
  | blank =>
    have gap : AreUnbroken (gapAfter w.lines.inOrder) := by
      intro text there
      unfold gapAfter at there
      split at there
      · cases there
      · split at there
        · cases there
        · rw [List.mem_singleton.1 there]
          exact nofun
    change AreUnbroken w.lines.blank.inOrder
    rw [WrittenLines.inOrder_blank]
    exact areUnbroken_append.2 ⟨before, gap⟩
  | openBlock header =>
    rw [Page.act_openBlock unit]
    change AreUnbroken (w.withLines _).lines.inOrder
    rw [Page.inOrder_withLines]
    exact areUnbroken_append.2 ⟨before, added _⟩
  | closeBlock =>
    cases opened : w.openBlocks with
    | nil => rwa [Page.act_closeBlock_of_nil opened]
    | cons header outer =>
      have kept : AreUnbroken w.outside.lines.inOrder := by
        intro text there
        apply before text
        have dropped : text ∈ w.lines.dropBlanks.inOrder := there
        rw [WrittenLines.inOrder_dropBlanks] at dropped
        exact (List.rdropWhile_prefix _ _).subset dropped
      rw [Page.act_closeBlock unit opened, Page.inOrder_withLines]
      exact areUnbroken_append.2 ⟨kept, added _⟩

/-- A page stays without line feeds in its lines however much is written without any. -/
theorem areUnbroken_foldl {w : Page} (unit : w.indent = .unit margin) (apart : '\n' ∉ margin.toList)
    {actions : List Action} (given : ∀ a ∈ actions, AreUnbroken a.texts) (before : AreUnbroken w.lines.inOrder) :
    AreUnbroken (actions.foldl Page.act w).lines.inOrder := by
  induction actions generalizing w with
  | nil => exact before
  | cons a rest ih =>
    rw [List.forall_mem_cons] at given
    exact ih (Page.indent_act unit a) given.2 (areUnbroken_act unit apart given.1 before)

/-- The lines of a description have no line feed. -/
theorem areUnbroken_descriptionTexts (description : Option String) : AreUnbroken (descriptionTexts description) := by
  intro text among
  cases description with
  | none => cases among
  | some whole =>
    obtain ⟨l, there, rfl⟩ := List.mem_map.1 among
    rw [String.toList_ofList]
    exact not_mem_of_linesOf there

/-- Steps whose texts have no line feed write lines that have none; a description and a content may have some. -/
theorem Step.areUnbroken {step : Step} (given : AreUnbroken step.texts) :
    ∀ a ∈ step.actions, AreUnbroken a.texts := by
  have lines {texts : List String} (unbroken : AreUnbroken texts) :
      ∀ a ∈ texts.map Action.line, AreUnbroken a.texts := by
    rw [List.forall_mem_map]
    intro text among
    exact List.forall_mem_singleton.2 (unbroken text among)
  have gap (isEmpty : Bool) : ∀ a ∈ (if isEmpty then [] else [Action.blank]), AreUnbroken a.texts := by
    intro a among
    split at among
    · cases among
    · rw [List.mem_singleton.1 among]
      exact List.forall_mem_nil _
  cases step with
  | line text => exact List.forall_mem_singleton.2 given
  | blank => exact List.forall_mem_singleton.2 (List.forall_mem_nil _)
  | openBlock header =>
    have own : '\n' ∉ (header ++ " \x7b").toList := not_mem_append (given header (.head _)) (by decide)
    exact List.forall_mem_singleton.2 (List.forall_mem_singleton.2 own)
  | closeBlock =>
    have own : '\n' ∉ "\x7d".toList := by decide
    exact List.forall_mem_singleton.2 (List.forall_mem_singleton.2 own)
  | package name =>
    have own : AreUnbroken (packageLines name) := by
      unfold packageLines
      split
      · exact List.forall_mem_nil _
      · exact List.forall_mem_singleton.2
          (not_mem_append (not_mem_append (by decide) (given name (.head _))) (by decide))
    exact List.forall_mem_append.2 ⟨lines own, gap _⟩
  | imports names =>
    have own : AreUnbroken (importLines names) := by
      intro text among
      obtain ⟨name, there, rfl⟩ := List.mem_map.1 among
      rw [Finset.mem_sort, List.mem_toFinset] at there
      exact not_mem_append (not_mem_append (by decide) (given name there)) (by decide)
    exact List.forall_mem_append.2 ⟨lines own, gap _⟩
  | comment description tags =>
    exact lines (areUnbroken_commentLines (areUnbroken_commentBody (areUnbroken_descriptionTexts description) given))
  | fragment content => exact lines (areUnbroken_fragmentLines _)

/-- A page stays without line feeds in its lines after steps whose texts have none. -/
theorem areUnbroken_after {w : Page} (unit : w.indent = .unit margin) (apart : '\n' ∉ margin.toList) {steps : List Step}
    (given : ∀ step ∈ steps, AreUnbroken step.texts) (before : AreUnbroken w.lines.inOrder) :
    AreUnbroken (steps.foldl Page.after w).lines.inOrder := by
  rw [Page.foldl_after unit]
  apply areUnbroken_foldl unit apart _ before
  intro a among
  obtain ⟨step, there, own⟩ := List.mem_flatMap.1 among
  exact Step.areUnbroken (given step there) a own

/-! ## The nesting of blocks -/

/-- Any row of steps, some of which may fail, leaves a page whose lines are those of nested entries, in blocks that have no
empty line before their braces.  Each line that is not empty is a text behind one indentation for every block that was open
when it was written.  A step fails only as the end of a block where none is open, and leaves the page as it was; else the
end of a block puts a brace after the last line that is not empty.  To finish the page is to end the blocks that are open,
once each, and a page that is finished is left as it is; its text has the lines of the page, if the texts given have no line
feeds. -/
theorem blocks_are_nested (margin : String) (steps : List Step) :
    let w := steps.foldl Page.after (Page.start (.unit margin))
    let actions := steps.flatMap Step.actions
    let n := actions.foldl Nest.act ⟨[], []⟩
    w.Shows margin n ∧ n.IsTight ∧
    full w.lines.inOrder = Page.inPlace margin ((Page.start (.unit margin)).writings actions) ∧
    (∀ step failure, Step.take w step = .error failure ↔
      step = .closeBlock ∧ w.openBlocks = [] ∧ failure = ⟨.noOpenBlock, w⟩) ∧
    (∀ header outer, w.openBlocks = header :: outer → ∃ v earlier last, Step.take w .closeBlock = .ok v ∧
      v.openBlocks = outer ∧ w.lines.inOrder.rdropWhile (·.isEmpty) = earlier ++ [last] ∧ last.isEmpty = false ∧
      v.lines.inOrder = earlier ++ [last, repeated margin outer.length ++ "\x7d"]) ∧
    ∃ v, w.finish = .ok v ∧ v = (List.replicate w.openBlocks.length Step.closeBlock).foldl Page.after w ∧
      v.Shows margin ⟨n.closed, []⟩ ∧ AreTight n.closed ∧ v.finish = .ok v ∧
      (v.lines ≠ [] → '\n' ∉ margin.toList → (∀ step ∈ steps, AreUnbroken step.texts) →
        (Text.splitAtFeeds v.text.toList).map String.ofList = v.lines.inOrder ++ [""]) := by
  intro w actions n
  let v := (List.replicate w.openBlocks.length Step.closeBlock).foldl Page.after w
  have start : (Page.start (.unit margin)).indent = .unit margin := rfl
  have shows : w.Shows margin n := (Page.shows_start margin).after steps
  have tight : n.IsTight := Nest.isTight_empty.foldl actions
  have texts : full w.lines.inOrder = Page.inPlace margin ((Page.start (.unit margin)).writings actions) := by
    have run : w = actions.foldl Page.act (Page.start (.unit margin)) := Page.foldl_after start steps
    rw [run]
    exact Page.fullLines_foldl start actions
  have finished : v.Shows margin ⟨n.closed, []⟩ := shows.finished
  refine ⟨shows, tight, texts, ?_, ?_, v, Page.finish_eq shows.unit, rfl, finished, tight.closed, finished.finish_eq, ?_⟩
  · intro step failure
    exact Page.take_eq_error_iff shows.unit
  · intro header outer opened
    exact shows.closeBlock opened
  · intro some apart given
    have before : AreUnbroken w.lines.inOrder := areUnbroken_after start apart given (List.forall_mem_nil _)
    have unbroken : AreUnbroken v.lines.inOrder := by
      apply areUnbroken_after shows.unit apart _ before
      intro step among
      rw [(List.mem_replicate.1 among).2]
      exact List.forall_mem_nil _
    exact splitAtFeeds_textOfLines (mt List.reverse_eq_nil_iff.1 some) unbroken

end ClassDiagram.Java
