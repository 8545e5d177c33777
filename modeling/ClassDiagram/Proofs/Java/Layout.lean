import ClassDiagram.Java.Source
import ClassDiagram.Proofs.Fallible
import ClassDiagram.Proofs.Layout

/-!
# The layout of code

What is written on a page stays there: later pieces of code add lines, and only empty lines are ever taken
back.  A piece of code leaves as many blocks open as there were before it.  So the header of every block
of a unit is a line of the text of the unit, indented by the blocks around it (`line_mem_of_text`).
-/

set_option autoImplicit false

namespace ClassDiagram.Java

namespace Page

variable {w w' v : Page} {text header : String}

/-- Whether a page has the blocks of another one open, and all of its lines that are not empty. -/
structure Continues (w w' : Page) : Prop where
  indent : w'.indent = w.indent
  openBlocks : w'.openBlocks = w.openBlocks
  lines : ∀ l ∈ w.lines, l.isEmpty = false → l ∈ w'.lines

/-- A page continues itself. -/
theorem Continues.refl (w : Page) : w.Continues w := ⟨rfl, rfl, fun _ there _ => there⟩

/-- What continues a page that continues another continues that one. -/
theorem Continues.trans (first : w.Continues v) (second : v.Continues w') : w.Continues w' where
  indent := second.indent.trans first.indent
  openBlocks := second.openBlocks.trans first.openBlocks
  lines l there full := second.lines l (first.lines l there full) full

/-! ## Lines -/

/-- What is expected on a page is given exactly if it is there. -/
theorem expect_eq_ok {α : Type} {x : Except Misfit α} {a : α} : w.expect x = .ok a ↔ x = .ok a := by
  cases x with
  | error e => exact ⟨nofun, nofun⟩
  | ok b =>
    constructor
    · rintro ⟨⟩
      rfl
    · rintro ⟨⟩
      rfl

/-- A line is added as it is indented by the open blocks. -/
theorem line_eq_ok : w.line text = .ok w' ↔
    ∃ l, indentedLine w.indent w.openBlocks.length text = .ok l ∧ w' = { w with lines := l :: w.lines } := by
  simp only [line, bind_eq_ok, expect_eq_ok]
  refine exists_congr fun l => and_congr_right fun _ => ?_
  constructor
  · rintro ⟨⟩
    rfl
  · rintro rfl
    rfl

/-- A line continues the page. -/
theorem continues_line (written : w.line text = .ok w') : w.Continues w' := by
  obtain ⟨l, _, rfl⟩ := line_eq_ok.1 written
  exact ⟨rfl, rfl, fun _ there _ => List.mem_cons_of_mem l there⟩

/-- Steps that each continue the page continue it together. -/
theorem continues_foldlM {w w' : Page} {α : Type} {f : Page → α → Written}
    (step : ∀ w a w', f w a = .ok w' → w.Continues w') (xs : List α)
    (written : xs.foldlM f w = .ok w') : w.Continues w' := by
  induction xs generalizing w with
  | nil =>
    obtain rfl : w = w' := Except.ok.inj written
    exact .refl w
  | cons a rest ih =>
    rw [List.foldlM_cons] at written
    obtain ⟨v, first, later⟩ := bind_eq_ok.1 written
    exact (step w a v first).trans (ih later)

/-- An empty line continues the page. -/
theorem continues_blank (w : Page) : w.Continues w.blank := by
  refine ⟨rfl, rfl, fun l there _ => ?_⟩
  rw [blank, WrittenLines.blank.eq_def]
  cases lines : w.lines with
  | nil => rwa [lines] at there
  | cons last rest =>
    rw [lines] at there
    dsimp only
    split
    · exact there
    · exact List.mem_cons_of_mem _ there

/-! ## Blocks -/

/-- The line that opens a block is written inside the blocks around it. -/
theorem openBlock_eq_ok : w.openBlock header = .ok w' ↔
    ∃ l, indentedLine w.indent w.openBlocks.length (header ++ " \x7b") = .ok l ∧
      w' = { w with lines := l :: w.lines, openBlocks := header :: w.openBlocks } := by
  simp only [openBlock, bind_eq_ok, line_eq_ok]
  constructor
  · rintro ⟨_, ⟨l, formed, rfl⟩, h⟩
    cases h
    exact ⟨l, formed, rfl⟩
  · rintro ⟨l, formed, rfl⟩
    exact ⟨_, ⟨l, formed, rfl⟩, rfl⟩

/-- A line that is not empty is still there without the empty ones at the end. -/
theorem mem_dropBlanks {lines : WrittenLines} {l : String} (there : l ∈ lines) (full : l.isEmpty = false) :
    l ∈ lines.dropBlanks := by
  unfold WrittenLines.dropBlanks
  induction lines with
  | nil => exact there
  | cons first rest ih =>
    rw [List.dropWhile_cons]
    split
    · next empty =>
      rcases List.mem_cons.1 there with rfl | later
      · rw [full] at empty
        cases empty
      · exact ih later
    · exact there

/-- The end of a block leaves one block less open and all lines that are not empty. -/
theorem closeBlock_eq_ok (written : w.closeBlock = .ok w') :
    w'.indent = w.indent ∧ w'.openBlocks = w.openBlocks.tail ∧
      ∀ l ∈ w.lines, l.isEmpty = false → l ∈ w'.lines := by
  unfold closeBlock at written
  split at written
  · cases written
  · next opened =>
    have brace := continues_line written
    refine ⟨brace.indent, ?_, fun l there full => brace.lines l (mem_dropBlanks there full) full⟩
    rw [brace.openBlocks, opened, List.tail_cons]

/-- A block is written as its header, its body inside the block, and its end. -/
theorem write_block {body : List Code} (written : w.write (.block header body) = .ok w') :
    ∃ l v, indentedLine w.indent w.openBlocks.length (header ++ " \x7b") = .ok l ∧
      ({ w with lines := l :: w.lines, openBlocks := header :: w.openBlocks } : Page).writeAll body =
        .ok v ∧ v.closeBlock = .ok w' := by
  rw [write] at written
  obtain ⟨_, opened, written⟩ := bind_eq_ok.1 written
  obtain ⟨v, inside, closed⟩ := bind_eq_ok.1 written
  obtain ⟨l, formed, rfl⟩ := openBlock_eq_ok.1 opened
  exact ⟨l, v, formed, inside, closed⟩

mutual

/-- A piece of code is written after what is there, and closes the blocks that it opens. -/
theorem continues_write {w w' : Page} : (code : Code) → w.write code = .ok w' → w.Continues w'
  | .line text, written => continues_line (by rwa [write] at written)
  | .blank, written => by
    rw [write] at written
    cases written
    exact continues_blank w
  | .block header body, written => by
    obtain ⟨l, v, _, inside, closed⟩ := write_block written
    have within := continues_writeAll body inside
    obtain ⟨indent, openBlocks, lines⟩ := closeBlock_eq_ok closed
    refine ⟨indent.trans within.indent, ?_, fun l' there full => ?_⟩
    · rw [openBlocks, within.openBlocks, List.tail_cons]
    · exact lines l' (within.lines l' (List.mem_cons_of_mem l there) full) full
  | .comment description tags, written => by
    rw [write, comment] at written
    obtain ⟨_, _, written⟩ := bind_eq_ok.1 written
    exact continues_foldlM (fun _ _ _ => continues_line) _ written
  | .fragment content, written => by
    rw [write, fragment] at written
    obtain ⟨_, _, written⟩ := bind_eq_ok.1 written
    exact continues_foldlM (fun _ _ _ => continues_line) _ written
  | .unwritable error, written => by
    rw [write] at written
    cases written

/-- Code that is written continues the page. -/
theorem continues_writeAll {w w' : Page} : (codes : List Code) → w.writeAll codes = .ok w' → w.Continues w'
  | [], written => by
    rw [writeAll] at written
    cases written
    exact .refl w
  | code :: rest, written => by
    rw [writeAll] at written
    obtain ⟨v, first, later⟩ := bind_eq_ok.1 written
    exact (continues_write code first).trans (continues_writeAll rest later)

end

/-- A piece of code among others is written between what is there before and after it. -/
theorem exists_write_of_mem {code : Code} {codes : List Code} (among : code ∈ codes)
    (written : w.writeAll codes = .ok w') :
    ∃ v v', w.Continues v ∧ v.write code = .ok v' ∧ v'.Continues w' := by
  induction codes generalizing w with
  | nil => exact absurd among List.not_mem_nil
  | cons first rest ih =>
    rw [writeAll] at written
    obtain ⟨v, here, later⟩ := bind_eq_ok.1 written
    rcases List.mem_cons.1 among with rfl | among
    · exact ⟨w, v, .refl w, here, continues_writeAll rest later⟩
    · obtain ⟨u, u', before, given, after⟩ := ih among later
      exact ⟨u, u', (continues_write first here).trans before, given, after⟩

end Page

/-! ## Headers of blocks -/

/-- Whether a piece of code has a block with a header, inside a number of other blocks. -/
inductive Code.HasBlock (header : String) : Nat → Code → Prop where
  | here {body : List Code} : HasBlock header 0 (.block header body)
  | inside {depth : Nat} {outer : String} {body : List Code} {code : Code} (among : code ∈ body)
    (within : HasBlock header depth code) : HasBlock header (depth + 1) (.block outer body)

/-- The line that opens a block is not empty. -/
theorem isEmpty_header (header : String) : (header ++ " \x7b").isEmpty = false := by
  simp

namespace Page

variable {w w' : Page} {header : String}

/-- A block in code that is written has its header among the lines, indented by what is around it. -/
theorem line_mem_of_write {depth : Nat} {code : Code} (has : code.HasBlock header depth)
    (written : w.write code = .ok w') :
    ∃ l ∈ w'.lines, indentedLine w.indent (w.openBlocks.length + depth) (header ++ " \x7b") = .ok l := by
  induction has generalizing w w' with
  | @here body =>
    obtain ⟨l, v, formed, inside, closed⟩ := write_block written
    have full := (indentedLine_eq_ok (isEmpty_header header) formed).2
    have within := (continues_writeAll body inside).lines l List.mem_cons_self full
    exact ⟨l, (closeBlock_eq_ok closed).2.2 l within full, formed⟩
  | @inside depth outer body code among has ih =>
    -- The body is written with one more block open, so the depth goes from one count to the other.
    obtain ⟨first, v, _, inside, closed⟩ := write_block written
    obtain ⟨u, u', before, given, after⟩ := exists_write_of_mem among inside
    obtain ⟨l, there, formed⟩ := ih given
    have full := (indentedLine_eq_ok (isEmpty_header header) formed).2
    refine ⟨l, (closeBlock_eq_ok closed).2.2 l (after.lines l there full) full, ?_⟩
    rw [before.indent, before.openBlocks, List.length_cons, Nat.add_right_comm] at formed
    exact formed

/-- The ends of the open blocks leave all lines that are not empty. -/
theorem lines_closeBlocks (n : Nat) (written : closeBlocks n w = .ok w') :
    ∀ l ∈ w.lines, l.isEmpty = false → l ∈ w'.lines := by
  induction n generalizing w with
  | zero =>
    obtain rfl : w = w' := Except.ok.inj written
    exact fun l there _ => there
  | succ n ih =>
    rw [closeBlocks] at written
    obtain ⟨v, closed, later⟩ := bind_eq_ok.1 written
    exact fun l there full => ih later l ((closeBlock_eq_ok closed).2.2 l there full) full

/-- The package continues the page. -/
theorem continues_package {name : String} (written : w.package name = .ok w') : w.Continues w' := by
  unfold package at written
  split at written
  · obtain rfl : w = w' := Except.ok.inj written
    exact .refl w
  · obtain ⟨v, first, later⟩ := bind_eq_ok.1 written
    obtain rfl : v.blank = w' := Except.ok.inj later
    exact (continues_line first).trans (continues_blank v)

/-- The imports continue the page. -/
theorem continues_imports {names : List Document} (written : w.imports names = .ok w') : w.Continues w' := by
  obtain ⟨sorted, _, written⟩ := bind_eq_ok.1 written
  obtain ⟨v, named, later⟩ := bind_eq_ok.1 written
  have first : w.Continues v := by
    refine continues_foldlM (fun w name w' written => ?_) sorted named
    obtain ⟨_, _, written⟩ := bind_eq_ok.1 written
    exact continues_line written
  refine first.trans ?_
  split at later
  · obtain rfl : v = w' := Except.ok.inj later
    exact .refl v
  · obtain rfl : v.blank = w' := Except.ok.inj later
    exact continues_blank v

end Page

/-- The text of a unit is that of its page. -/
theorem CompilationUnit.exists_page_of_text {u : CompilationUnit} {indent : Indent} {text : String}
    (written : u.text indent = .ok text) : ∃ page, u.page indent = .ok page ∧ text = page.text := by
  unfold CompilationUnit.text at written
  cases finished : u.page indent with
  | error e =>
    rw [finished] at written
    cases written
  | ok page =>
    rw [finished] at written
    exact ⟨page, rfl, (Except.ok.inj written).symm⟩

/-- The code of a unit is written outside all blocks. -/
theorem CompilationUnit.exists_writeAll {u : CompilationUnit} {indent : Indent} {page : Page}
    (written : u.write indent = .ok page) :
    ∃ w : Page, w.indent = indent ∧ w.openBlocks = [] ∧ w.writeAll u.code = .ok page := by
  obtain ⟨imports, _, written⟩ := bind_eq_ok.1 written
  obtain ⟨v, named, written⟩ := bind_eq_ok.1 written
  obtain ⟨w, imported, written⟩ := bind_eq_ok.1 written
  have before := (Page.continues_package named).trans (Page.continues_imports imported)
  exact ⟨w, before.indent, before.openBlocks, written⟩

/-- Each piece of the code of a unit was written outside all blocks, and its lines are in the text. -/
theorem CompilationUnit.exists_write_of_text {u : CompilationUnit} {indent : Indent} {text : String}
    {code : Code} (among : code ∈ u.code) (written : u.text indent = .ok text) :
    ∃ (w w' : Page) (lines : List String), w.indent = indent ∧ w.openBlocks = [] ∧ w.write code = .ok w' ∧
      text = textOfLines lines ∧ ∀ l ∈ w'.lines, l.isEmpty = false → l ∈ lines := by
  obtain ⟨page, finished, rfl⟩ := exists_page_of_text written
  obtain ⟨last, started, finished⟩ := bind_eq_ok.1 finished
  obtain ⟨v, indented, outside, started⟩ := exists_writeAll started
  obtain ⟨w, w', first, given, after⟩ := Page.exists_write_of_mem among started
  refine ⟨w, w', page.lines.inOrder, first.indent.trans indented, first.openBlocks.trans outside, given, rfl,
    fun l there full => ?_⟩
  exact List.mem_reverse.2 (Page.lines_closeBlocks _ finished l (after.lines l there full) full)

/-- The header of a block of a unit is a line of its text, indented by the blocks around it. -/
theorem CompilationUnit.line_mem_of_text {u : CompilationUnit} {indent : Indent} {text header : String}
    {depth : Nat} {code : Code} (among : code ∈ u.code) (has : code.HasBlock header depth)
    (written : u.text indent = .ok text) :
    ∃ margin lines, indent = .unit margin ∧ text = textOfLines lines ∧
      repeated margin depth ++ (header ++ " \x7b") ∈ lines := by
  obtain ⟨w, w', lines, rfl, outside, given, same, kept⟩ := exists_write_of_text among written
  obtain ⟨l, there, formed⟩ := Page.line_mem_of_write has given
  obtain ⟨⟨margin, unit, rfl⟩, full⟩ := indentedLine_eq_ok (isEmpty_header header) formed
  refine ⟨margin, lines, unit, same, ?_⟩
  have inside := kept _ there full
  rwa [outside, List.length_nil, Nat.zero_add] at inside

end ClassDiagram.Java
