import ClassDiagram.Proofs.Java.Layout

/-!
# The lines of a text

Besides empty lines, the text of a unit has exactly the lines of its pieces of code, one piece after the other
(`fullLines_of_text`).  These lines are read off the tree: a line stands inside the blocks around it, and a block stands
between its header and a brace (`Code.fullLines`).
-/

set_option autoImplicit false

namespace ClassDiagram.Java

mutual

/-- The lines of a piece of code inside a number of blocks; empty ones do not count. -/
def Code.fullLines (margin : String) (depth : Nat) : Code → List String
  | .line text => inside margin depth [text]
  | .blank => []
  | .block header body =>
    inside margin depth [header ++ " \x7b"] ++ codeLines margin (depth + 1) body ++ inside margin depth ["\x7d"]
  | .comment description tags =>
    match descriptionLines description with
    | .ok lines => inside margin depth (commentLines (commentBody lines tags))
    | .error _ => []
  | .fragment content =>
    match contentLines content with
    | .ok lines => inside margin depth lines
    | .error _ => []
  | .unwritable _ => []

/-- The lines of pieces of code. -/
def codeLines (margin : String) (depth : Nat) : List Code → List String
  | [] => []
  | code :: rest => code.fullLines margin depth ++ codeLines margin depth rest

end

/-- Code in a row has the lines of the first and then those of the second. -/
theorem codeLines_append (margin : String) (depth : Nat) (first second : List Code) :
    codeLines margin depth (first ++ second) = codeLines margin depth first ++ codeLines margin depth second := by
  induction first with
  | nil => rfl
  | cons code rest ih => simp only [List.cons_append, codeLines, ih, List.append_assoc]

namespace Page

variable {w w' : Page} {text header : String}

/-- The lines of a page that are not empty, in order. -/
def fullLines (w : Page) : List String := w.lines.fullLines

/-- A line adds itself, inside the open blocks. -/
theorem fullLines_line (written : w.line text = .ok w') :
    w'.fullLines = w.fullLines ++ inside w.indent.margin w.openBlocks.length [text] := by
  obtain ⟨l, formed, rfl⟩ := line_eq_ok.1 written
  rw [← full_indentedLine formed]
  exact WrittenLines.fullLines_cons l w.lines

/-- Lines add themselves, inside the open blocks. -/
theorem fullLines_addLines {texts : List String} (written : w.addLines texts = .ok w') :
    w'.fullLines = w.fullLines ++ inside w.indent.margin w.openBlocks.length texts := by
  induction texts generalizing w with
  | nil =>
    obtain rfl : w = w' := Except.ok.inj written
    rw [inside_nil, List.append_nil]
  | cons text rest ih =>
    rw [addLines, List.foldlM_cons] at written
    obtain ⟨v, first, later⟩ := bind_eq_ok.1 written
    have same := continues_line first
    rw [ih later, fullLines_line first, same.indent, same.openBlocks, List.append_assoc, ← inside_cons]

/-- The beginning of a block adds its header with a brace. -/
theorem fullLines_openBlock (written : w.openBlock header = .ok w') :
    w'.indent = w.indent ∧ w'.openBlocks = header :: w.openBlocks ∧
      w'.fullLines = w.fullLines ++ inside w.indent.margin w.openBlocks.length [header ++ " \x7b"] := by
  obtain ⟨l, formed, rfl⟩ := openBlock_eq_ok.1 written
  refine ⟨rfl, rfl, ?_⟩
  rw [← full_indentedLine formed]
  exact WrittenLines.fullLines_cons l w.lines

/-- The end of a block adds a brace under its header. -/
theorem fullLines_closeBlock {outer : List String} (opened : w.openBlocks = header :: outer)
    (written : w.closeBlock = .ok w') :
    w'.fullLines = w.fullLines ++ inside w.indent.margin outer.length ["\x7d"] := by
  unfold closeBlock at written
  rw [opened] at written
  have brace := fullLines_line (w := { w with openBlocks := outer, lines := w.lines.dropBlanks }) written
  rw [brace]
  exact congrArg (· ++ _) w.lines.fullLines_dropBlanks

mutual

/-- A piece of code adds its lines. -/
theorem fullLines_write {w w' : Page} : (code : Code) → w.write code = .ok w' →
    w'.fullLines = w.fullLines ++ code.fullLines w.indent.margin w.openBlocks.length
  | .line text, written => fullLines_line (by rwa [write] at written)
  | .blank, written => by
    rw [write] at written
    cases written
    rw [Code.fullLines, List.append_nil]
    exact w.lines.fullLines_blank
  | .block header body, written => by
    rw [write] at written
    obtain ⟨v, opened, written⟩ := bind_eq_ok.1 written
    obtain ⟨v', among, closed⟩ := bind_eq_ok.1 written
    obtain ⟨indent, opens, first⟩ := fullLines_openBlock opened
    have same := continues_writeAll body among
    rw [fullLines_closeBlock (same.openBlocks.trans opens) closed, fullLines_writeAll body among, first,
      same.indent, indent, opens, Code.fullLines]
    simp only [List.append_assoc, List.length_cons]
  | .comment description tags, written => by
    rw [write, comment] at written
    obtain ⟨lines, formed, written⟩ := bind_eq_ok.1 written
    rw [fullLines_addLines written, Code.fullLines, expect_eq_ok.1 formed]
  | .fragment content, written => by
    rw [write, fragment] at written
    obtain ⟨lines, formed, written⟩ := bind_eq_ok.1 written
    rw [fullLines_addLines written, Code.fullLines, expect_eq_ok.1 formed]
  | .unwritable error, written => by
    rw [write] at written
    cases written

/-- Code that is written adds its lines. -/
theorem fullLines_writeAll {w w' : Page} : (codes : List Code) → w.writeAll codes = .ok w' →
    w'.fullLines = w.fullLines ++ codeLines w.indent.margin w.openBlocks.length codes
  | [], written => by
    rw [writeAll] at written
    cases written
    rw [codeLines, List.append_nil]
  | code :: rest, written => by
    rw [writeAll] at written
    obtain ⟨v, first, later⟩ := bind_eq_ok.1 written
    have same := continues_write code first
    rw [fullLines_writeAll rest later, fullLines_write code first, same.indent, same.openBlocks, codeLines,
      List.append_assoc]

end

end Page

/-! ## Units -/

/-- The line that names a package; the root package has no name. -/
def packageLines (name : String) : List String := if name.isEmpty then [] else ["package " ++ name ++ ";"]

/-- The line that imports a name. -/
def importLine (name : String) : String := "import " ++ name ++ ";"

namespace Page

variable {w w' : Page} (outside : w.openBlocks = [])
include outside

/-- A line outside all blocks stands as it is. -/
theorem fullLines_line_outside {text : String} (notEmpty : text.isEmpty = false) (written : w.line text = .ok w') :
    w'.fullLines = w.fullLines ++ [text] := by
  have whole : full [text] = [text] := full_eq_self (List.forall_mem_singleton.2 notEmpty)
  rw [fullLines_line written, outside, List.length_nil, inside_zero, whole]

/-- The package adds its line, if it has a name. -/
theorem fullLines_package {name : String} (written : w.package name = .ok w') :
    w'.fullLines = w.fullLines ++ packageLines name := by
  unfold package at written
  unfold packageLines
  split at written
  · next root =>
    obtain rfl : w = w' := Except.ok.inj written
    rw [if_pos root, List.append_nil]
  · next named =>
    obtain ⟨v, first, later⟩ := bind_eq_ok.1 written
    obtain rfl : v.blank = w' := Except.ok.inj later
    have line : v.fullLines = w.fullLines ++ ["package " ++ name ++ ";"] :=
      fullLines_line_outside outside (by simp) first
    rw [if_neg named, ← line]
    exact v.lines.fullLines_blank

/-- The imports add their lines, in order. -/
theorem fullLines_importLines {names : List Document}
    (written : names.foldlM (fun w name => do w.line s!"import {← w.expect (lineText name)};") w = .ok w') :
    ∃ texts, names.mapM lineText = .ok texts ∧ w'.fullLines = w.fullLines ++ texts.map importLine := by
  induction names generalizing w with
  | nil =>
    obtain rfl : w = w' := Except.ok.inj written
    exact ⟨[], rfl, by simp⟩
  | cons name rest ih =>
    rw [List.foldlM_cons] at written
    obtain ⟨v, here, later⟩ := bind_eq_ok.1 written
    obtain ⟨text, shown, here⟩ := bind_eq_ok.1 here
    obtain ⟨texts, read, others⟩ := ih ((continues_line here).openBlocks.trans outside) later
    have line : v.fullLines = w.fullLines ++ [importLine text] :=
      fullLines_line_outside outside (by simp [importLine]) here
    refine ⟨text :: texts, ?_, by rw [others, line, List.append_assoc, List.map_cons]; rfl⟩
    rw [List.mapM_cons, expect_eq_ok.1 shown, read]
    rfl

/-- Imports stand in order, each on a line. -/
theorem fullLines_imports {names : List Document} (written : w.imports names = .ok w') :
    ∃ sorted texts, sortedNames names = .ok sorted ∧ sorted.mapM lineText = .ok texts ∧
      w'.fullLines = w.fullLines ++ texts.map importLine := by
  obtain ⟨sorted, ordered, written⟩ := bind_eq_ok.1 written
  obtain ⟨v, each, last⟩ := bind_eq_ok.1 written
  obtain ⟨texts, read, same⟩ := fullLines_importLines outside each
  refine ⟨sorted, texts, expect_eq_ok.1 ordered, read, ?_⟩
  split at last
  · obtain rfl : v = w' := Except.ok.inj last
    exact same
  · obtain rfl : v.blank = w' := Except.ok.inj last
    exact v.lines.fullLines_blank.trans same

end Page

/-- The page of a unit has the line of its package, those of its imports in order and those of its code.  No block is
left open on it. -/
theorem CompilationUnit.exists_write {u : CompilationUnit} {indent : Indent} {text : String}
    (written : u.text indent = .ok text) :
    ∃ page names sorted texts, u.write indent = .ok page ∧ page.openBlocks = [] ∧ text = page.text ∧
      u.imports = .ok names ∧ sortedNames names = .ok sorted ∧ sorted.mapM lineText = .ok texts ∧
      page.fullLines = packageLines u.package ++ texts.map importLine ++ codeLines indent.margin 0 u.code := by
  obtain ⟨page, finished, rfl⟩ := exists_page_of_text written
  obtain ⟨last, started, finished⟩ := bind_eq_ok.1 finished
  have whole := started
  obtain ⟨names, given, started⟩ := bind_eq_ok.1 started
  obtain ⟨v, named, started⟩ := bind_eq_ok.1 started
  obtain ⟨v', brought, started⟩ := bind_eq_ok.1 started
  have package := Page.continues_package named
  have before := package.trans (Page.continues_imports brought)
  have closed := before.trans (Page.continues_writeAll _ started)
  have first : v.fullLines = [] ++ packageLines u.package := Page.fullLines_package rfl named
  obtain ⟨sorted, texts, ordered, read, second⟩ := Page.fullLines_imports package.openBlocks brought
  have third := Page.fullLines_writeAll _ started
  -- No block is open any more, so nothing is left to close.
  rw [Page.finish, closed.openBlocks] at finished
  obtain rfl : last = page := Except.ok.inj finished
  refine ⟨last, names, sorted, texts, whole, closed.openBlocks, rfl, Page.expect_eq_ok.1 given, ordered, read, ?_⟩
  rw [third, second, first, before.openBlocks, before.indent]
  rfl

/-- The text of a unit has the line of its package, those of its imports and those of its code. -/
theorem CompilationUnit.fullLines_of_text {u : CompilationUnit} {indent : Indent} {text : String}
    (written : u.text indent = .ok text) :
    ∃ (lines imported : List String), text = textOfLines lines ∧
      full lines = packageLines u.package ++ imported.map ("import " ++ ·) ++ codeLines indent.margin 0 u.code := by
  obtain ⟨page, _, _, texts, _, _, rfl, _, _, _, all⟩ := exists_write written
  have split : texts.map importLine = (texts.map (· ++ ";")).map ("import " ++ ·) := by
    simp [importLine, String.append_assoc]
  exact ⟨page.lines.inOrder, texts.map (· ++ ";"), rfl, split ▸ all⟩

/-- The text of a unit of one block has the header of the block, its code inside and a brace. -/
theorem CompilationUnit.fullLines_of_block {u : CompilationUnit} {indent : Indent} {text : String}
    {header : Except Misfit String} {body : List Code} (code : u.code = [.ofBlock header body])
    (written : u.text indent = .ok text) :
    ∃ margin head lines, ∃ imported : List String, indent = .unit margin ∧ header = .ok head ∧
      text = textOfLines lines ∧ (∃ w w' : Page, w.writeAll body = .ok w') ∧
      full lines = packageLines u.package ++ imported.map ("import " ++ ·) ++ [head ++ " \x7b"] ++
        codeLines margin 1 body ++ ["\x7d"] := by
  have among : .ofBlock header body ∈ u.code := code ▸ List.mem_singleton.2 rfl
  obtain ⟨w, w', _, _, _, given, _⟩ := exists_write_of_text among written
  cases header with
  | error e =>
    rw [Code.ofBlock, Page.write] at given
    cases given
  | ok head =>
    obtain ⟨margin, _, rfl, _⟩ := line_mem_of_text among .here written
    obtain ⟨_, v, _, body, _⟩ := Page.write_block given
    obtain ⟨lines, imported, rfl, all⟩ := fullLines_of_text written
    refine ⟨margin, head, lines, imported, rfl, rfl, rfl, ⟨_, v, body⟩, ?_⟩
    have opens : full [head ++ " \x7b"] = [head ++ " \x7b"] :=
      full_eq_self (List.forall_mem_singleton.2 (isEmpty_header head))
    rw [all, code, codeLines, codeLines, Code.ofBlock, Code.fullLines, inside_zero, inside_zero, opens]
    simp only [List.append_assoc, List.append_nil]
    rfl

/-- A file of a type holds the text of its unit. -/
theorem exists_unit_of_source {s : Settings} {m : Linked} {t : LinkedType} {file : SourceFile}
    (written : s.source m t = .ok (some file)) :
    ∃ u, s.unit? m t = some u ∧ u.text s.indent = .ok file.text ∧ file.package = packageName t.place.home := by
  unfold Settings.source at written
  cases found : s.unit? m t with
  | none =>
    rw [found] at written
    cases written
  | some u =>
    rw [found] at written
    obtain ⟨text, given, same⟩ := bind_eq_ok.1 written
    obtain rfl := Option.some.inj (Except.ok.inj same)
    exact ⟨u, rfl, given, rfl⟩

/-- A file whose package is known is there. -/
theorem exists_source_of_package {x : Except Misfit (Option SourceFile)} {package : String}
    (given : x.toOption.join.map (·.package) = some package) : ∃ file, x = .ok (some file) ∧ file.package = package := by
  cases x with
  | error e => cases given
  | ok found =>
    obtain ⟨file, rfl, same⟩ := Option.map_eq_some_iff.1 given
    exact ⟨file, rfl, same⟩

end ClassDiagram.Java
