import ClassDiagram.Proofs.Java.Comments

/-!
# Code and what stands in its comments

Pages that are the same but for what stands in comments go on being so whatever code is written on them (`Page.Alike`,
`agree_write`).  So the text of a unit is, where comments are removed, that of the unit without its descriptions, if
nothing in its comments has an end of a comment in it (`CompilationUnit.text_plain`).
-/

set_option autoImplicit false

namespace ClassDiagram.Java

/-! ## Lines that are the same but for comments -/

/-- Whether no line of the body of a comment has an end of a comment. -/
def IsHarmless (body : List String) : Prop := ¬ ∃ e ∈ body, EndsComment e.toList

/-- Whether lines, the last one first, are the same but for the bodies of comments. -/
inductive LinesAlike : WrittenLines → WrittenLines → Prop where
  | none : LinesAlike [] []
  | line {lines lines' : WrittenLines} (text : String) (before : LinesAlike lines lines') :
    LinesAlike (text :: lines) (text :: lines')
  | comment {lines lines' : WrittenLines} {margin : String} {body body' : List String}
    (apart : IsApart margin.toList) (harmless : IsHarmless body) (harmless' : IsHarmless body')
    (before : LinesAlike lines lines') :
    LinesAlike ((javadocLines margin body).reverse ++ lines) ((javadocLines margin body').reverse ++ lines')

/-- The last line of a comment is its mark, and not empty. -/
theorem reverse_javadocLines (margin : String) (body : List String) :
    ∃ others, (javadocLines margin body).reverse = (margin ++ " */") :: others := by
  refine ⟨((margin ++ "/**") :: entryLines margin body).reverse, ?_⟩
  simp [javadocLines, commentLines, entryLines]

/-- The characters of a text are those of its lines, each with a line feed. -/
theorem toList_textOfLines {lines : List String} (some : lines ≠ []) :
    (textOfLines lines).toList = charsOf lines := by
  rw [textOfLines, String.toList_append, String.toList_intercalate]
  induction lines with
  | nil => exact absurd rfl some
  | cons first rest ih =>
    cases rest with
    | nil => simp [charsOf]
    | cons second rest =>
      rw [List.map_cons, List.intercalate_cons_of_ne_nil (by simp), List.append_assoc, ih (by simp)]
      simp [charsOf]

namespace LinesAlike

variable {lines lines' : WrittenLines}

/-- Nothing tells alike lines apart where comments are removed. -/
theorem scan_eq (alike : LinesAlike lines lines') (b : Bool) (ys : List Char) :
    scan b (charsOf lines.reverse ++ ys) = scan b (charsOf lines'.reverse ++ ys) := by
  induction alike generalizing ys with
  | none => rfl
  | line text before ih =>
    rw [List.reverse_cons, List.reverse_cons, charsOf_append, charsOf_append, List.append_assoc, List.append_assoc, ih]
  | comment apart harmless harmless' before ih =>
    rw [List.reverse_append, List.reverse_append, List.reverse_reverse, List.reverse_reverse, charsOf_append,
      charsOf_append, List.append_assoc, List.append_assoc, ih]
    refine scan_congr (fun b => ?_) b _
    rw [scan_javadocLines apart harmless, scan_javadocLines apart harmless']

/-- Lines that are alike stay so with an empty line in order. -/
theorem blank (alike : LinesAlike lines lines') :
    LinesAlike (WrittenLines.blank lines) (WrittenLines.blank lines') := by
  have same {last : String} {rest rest' : WrittenLines} (alike : LinesAlike (last :: rest) (last :: rest')) :
      LinesAlike (WrittenLines.blank (last :: rest)) (WrittenLines.blank (last :: rest')) := by
    simp only [WrittenLines.blank]
    split
    · exact alike
    · exact .line "" alike
  cases alike with
  | none => exact .none
  | line text before => exact same (.line text before)
  | @comment lines lines' margin body body' apart harmless harmless' before =>
    have all := LinesAlike.comment apart harmless harmless' before
    obtain ⟨others, first⟩ := reverse_javadocLines margin body
    obtain ⟨others', first'⟩ := reverse_javadocLines margin body'
    rw [first, first', List.cons_append, List.cons_append] at all ⊢
    exact same all

/-- Lines that are alike stay so without the empty ones at the end. -/
theorem dropBlanks (alike : LinesAlike lines lines') :
    LinesAlike (WrittenLines.dropBlanks lines) (WrittenLines.dropBlanks lines') := by
  unfold WrittenLines.dropBlanks
  induction alike with
  | none => exact .none
  | line text before ih =>
    rw [List.dropWhile_cons, List.dropWhile_cons]
    split
    · exact ih
    · exact .line text before
  | @comment lines lines' margin body body' apart harmless harmless' before ih =>
    have all := LinesAlike.comment apart harmless harmless' before
    obtain ⟨others, first⟩ := reverse_javadocLines margin body
    obtain ⟨others', first'⟩ := reverse_javadocLines margin body'
    have full : ¬ (margin ++ " */").isEmpty = true := by simp
    rw [first, first', List.cons_append, List.cons_append] at all ⊢
    rwa [List.dropWhile_cons_of_neg full, List.dropWhile_cons_of_neg full]

/-- Lines that are alike are none at the same time. -/
theorem eq_nil_iff (alike : LinesAlike lines lines') : lines = [] ↔ lines' = [] := by
  cases alike with
  | none => rfl
  | line text before => simp
  | @comment _ _ margin body body' _ _ _ _ =>
    obtain ⟨others, first⟩ := reverse_javadocLines margin body
    obtain ⟨others', first'⟩ := reverse_javadocLines margin body'
    rw [first, first']
    simp

/-- Alike lines are the same text where comments are removed. -/
theorem withoutComments_eq (alike : LinesAlike lines lines') :
    withoutComments (textOfLines (WrittenLines.inOrder lines)).toList =
      withoutComments (textOfLines (WrittenLines.inOrder lines')).toList := by
  by_cases empty : lines = []
  · rw [empty, alike.eq_nil_iff.1 empty]
  · have empty' := alike.eq_nil_iff.not.1 empty
    have same := alike.scan_eq false []
    rw [List.append_nil, List.append_nil] at same
    rw [WrittenLines.inOrder, WrittenLines.inOrder, toList_textOfLines (by simpa using empty),
      toList_textOfLines (by simpa using empty'), withoutComments, same]
    rfl

end LinesAlike

/-! ## Writing on pages that are the same but for comments -/

/-- Whether pages are the same but for the bodies of comments, and their margins have nothing of a mark in them. -/
structure Page.Alike (w w' : Page) : Prop where
  indent : w'.indent = w.indent
  openBlocks : w'.openBlocks = w.openBlocks
  apart : IsApart w.indent.margin.toList
  lines : LinesAlike w.lines w'.lines

/-- Whether writing gives pages that are the same but for comments, or fails with the same error. -/
inductive Agree : Written → Written → Prop where
  | ok {w w' : Page} (alike : w.Alike w') : Agree (.ok w) (.ok w')
  | error {e e' : Failure} (same : e.error = e'.error) : Agree (.error e) (.error e')

variable {w w' : Page}

/-- Steps in a row agree if each of them does. -/
theorem Agree.bind {x y : Written} {f g : Page → Written} (agree : Agree x y)
    (next : ∀ {w w' : Page}, w.Alike w' → Agree (f w) (g w')) : Agree (x >>= f) (y >>= g) := by
  cases agree with
  | ok alike => exact next alike
  | error same => exact .error same

/-- What is expected on pages that are alike agrees if what follows does. -/
theorem Agree.expect {α : Type} {x : Except Misfit α} {f g : α → Written} {w w' : Page}
    (next : ∀ a, x = .ok a → Agree (f a) (g a)) : Agree (w.expect x >>= f) (w'.expect x >>= g) := by
  cases x with
  | error e => exact .error rfl
  | ok a => exact next a rfl

/-- A margin that is apart from comments is so at every depth. -/
theorem isApart_repeated {margin : String} (apart : IsApart margin.toList) (depth : Nat) :
    IsApart (repeated margin depth).toList := by
  induction depth with
  | zero => simp [repeated, IsApart]
  | succ depth ih =>
    intro c there
    rw [repeated, String.toList_append] at there
    rcases List.mem_append.1 there with first | later
    · exact apart c first
    · exact ih c later

/-- A line agrees on pages that are alike. -/
theorem agree_line (alike : w.Alike w') (text : String) : Agree (w.line text) (w'.line text) := by
  rw [Page.line, Page.line, alike.indent, alike.openBlocks]
  exact Agree.expect fun l _ => .ok ⟨rfl, rfl, alike.apart, .line l alike.lines⟩

/-- Pages that are alike stay so with an empty line. -/
theorem alike_blank (alike : w.Alike w') : w.blank.Alike w'.blank :=
  ⟨alike.indent, alike.openBlocks, alike.apart, alike.lines.blank⟩

/-- Steps over items agree on pages that are alike if each of them does. -/
theorem agree_foldlM {α : Type} {f : Page → α → Written} (each : ∀ {w w' : Page}, w.Alike w' → ∀ a, Agree (f w a) (f w' a))
    (alike : w.Alike w') (items : List α) : Agree (items.foldlM f w) (items.foldlM f w') := by
  induction items generalizing w w' with
  | nil => exact .ok alike
  | cons a rest ih =>
    rw [List.foldlM_cons, List.foldlM_cons]
    exact (each alike a).bind ih

/-- A line that is not empty is added where the indentation is a text. -/
theorem line_of_unit {text margin : String} (full : text.isEmpty = false) (unit : w.indent = .unit margin) :
    w.line text = .ok { w with lines := (repeated margin w.openBlocks.length ++ text) :: w.lines } := by
  unfold Page.line indentedLine
  rw [full, if_neg Bool.false_ne_true, unit]
  rfl

/-- A line that is not empty fails where the indentation is broken. -/
theorem line_of_broken {text : String} {error : Misfit} (full : text.isEmpty = false)
    (broken : w.indent = .broken error) : w.line text = .error ⟨error, w⟩ := by
  unfold Page.line indentedLine
  rw [full, if_neg Bool.false_ne_true, broken]
  rfl

/-- Lines that are not empty are written one after another where lines can be indented. -/
theorem addLines_of_unit {texts : List String} (full : ∀ text ∈ texts, text.isEmpty = false) {w : Page}
    {margin : String} (unit : w.indent = .unit margin) : w.addLines texts =
      .ok { w with lines := (texts.map (repeated margin w.openBlocks.length ++ ·)).reverse ++ w.lines } := by
  induction texts generalizing w with
  | nil => rfl
  | cons text rest ih =>
    rw [List.forall_mem_cons] at full
    have later := ih full.2 (w := { w with lines := (repeated margin w.openBlocks.length ++ text) :: w.lines }) unit
    rw [Page.addLines, List.foldlM_cons, line_of_unit full.1 unit]
    refine later.trans ?_
    simp

/-- No line of a comment is empty. -/
theorem full_commentLines (body : List String) : ∀ text ∈ commentLines body, text.isEmpty = false := by
  intro text there
  simp only [commentLines, List.cons_append, List.mem_cons, List.mem_append, List.mem_map] at there
  rcases there with rfl | ⟨entry, _, rfl⟩ | last
  · rfl
  · have star : '*' ∈ (" * " ++ entry).toList.reverse := by simp
    have kept : Text.trimRightBy Text.isBlank (" * " ++ entry).toList ≠ [] := by
      rw [Text.trimRightBy, Ne, List.reverse_eq_nil_iff, List.dropWhile_eq_nil_iff]
      intro blank
      exact absurd (blank '*' star) (by decide)
    rw [Bool.eq_false_iff, Ne, String.isEmpty_iff, ← String.toList_eq_nil_iff, Text.trimRight, String.toList_ofList]
    exact kept
  · rcases last with rfl | none
    · rfl
    · exact absurd none List.not_mem_nil

/-- Where lines cannot be indented, a comment is not begun. -/
theorem addLines_of_broken {error : Misfit} (broken : w.indent = .broken error) (body : List String) :
    w.addLines (commentLines body) = .error ⟨error, w⟩ := by
  rw [commentLines, List.cons_append, Page.addLines, List.foldlM_cons, line_of_broken (by decide) broken]
  rfl

/-- Comments that end where they should agree on pages that are alike. -/
theorem agree_comment (alike : w.Alike w') {body body' : List String} (harmless : IsHarmless body)
    (harmless' : IsHarmless body') : Agree (w.addLines (commentLines body)) (w'.addLines (commentLines body')) := by
  cases indent : w.indent with
  | unit margin =>
    have apart : IsApart margin.toList := by
      have own := alike.apart
      rwa [indent] at own
    rw [addLines_of_unit (full_commentLines body) indent,
      addLines_of_unit (full_commentLines body') (alike.indent.trans indent), alike.openBlocks]
    exact .ok ⟨alike.indent, rfl, alike.apart,
      .comment (isApart_repeated apart _) harmless harmless' alike.lines⟩
  | broken error =>
    rw [addLines_of_broken indent, addLines_of_broken (alike.indent.trans indent)]
    exact .error rfl

/-- The beginning of a block agrees on pages that are alike. -/
theorem agree_openBlock (alike : w.Alike w') (header : String) : Agree (w.openBlock header) (w'.openBlock header) := by
  refine (agree_line alike _).bind fun alike => .ok ?_
  exact ⟨alike.indent, congrArg (header :: ·) alike.openBlocks, alike.apart, alike.lines⟩

/-- The end of a block agrees on pages that are alike. -/
theorem agree_closeBlock (alike : w.Alike w') : Agree w.closeBlock w'.closeBlock := by
  rw [Page.closeBlock.eq_def, Page.closeBlock.eq_def, alike.openBlocks]
  split
  · exact .error rfl
  · next outer _ =>
    have within : Page.Alike { w with openBlocks := outer, lines := w.lines.dropBlanks }
        { w' with openBlocks := outer, lines := w'.lines.dropBlanks } :=
      ⟨alike.indent, rfl, alike.apart, alike.lines.dropBlanks⟩
    exact agree_line within _

/-! ## Code without descriptions -/

mutual

/-- Code without its descriptions. -/
def Code.plain : Code → Code
  | .block header body => .block header (plainCodes body)
  | .comment _ tags => .comment .null tags
  | .line text => .line text
  | .blank => .blank
  | .fragment content => .fragment content
  | .unwritable error => .unwritable error

/-- Pieces of code without their descriptions. -/
def plainCodes : List Code → List Code
  | [] => []
  | code :: rest => code.plain :: plainCodes rest

end

mutual

/-- Whether the descriptions in code are texts, and nothing in its comments has an end of a comment. -/
def Code.IsHarmless : Code → Prop
  | .block _ body => AreHarmless body
  | .comment description tags =>
    (∃ text, description = .text text ∧ ¬ EndsComment text.toList) ∧ Java.IsHarmless tags
  | _ => True

/-- Whether this holds of pieces of code. -/
def AreHarmless : List Code → Prop
  | [] => True
  | code :: rest => code.IsHarmless ∧ AreHarmless rest

end

/-- Pieces of code are plain one by one. -/
theorem plainCodes_eq (codes : List Code) : plainCodes codes = codes.map Code.plain := by
  induction codes with
  | nil => rfl
  | cons code rest ih => rw [plainCodes, ih, List.map_cons]

/-- Pieces of code are harmless if each of them is. -/
theorem areHarmless_iff {codes : List Code} : AreHarmless codes ↔ ∀ code ∈ codes, code.IsHarmless := by
  induction codes with
  | nil => simp [AreHarmless]
  | cons code rest ih => rw [AreHarmless, ih, List.forall_mem_cons]

/-- Where the tags of a comment are harmless, its body is so exactly if its description is. -/
theorem isHarmless_commentBody_iff {description tags : List String} (tagged : IsHarmless tags) :
    IsHarmless (commentBody description tags) ↔ IsHarmless description := by
  constructor
  · rintro harmless ⟨e, own, ends⟩
    exact harmless ⟨e, List.mem_append_left _ (List.mem_append_left _ own), ends⟩
  · rintro harmless ⟨e, there, ends⟩
    unfold commentBody at there
    rw [List.mem_append, List.mem_append] at there
    rcases there with (own | separator) | tag
    · exact harmless ⟨e, own, ends⟩
    · split at separator
      · obtain rfl := List.mem_singleton.1 separator
        exact absurd ends (by decide)
      · exact absurd separator List.not_mem_nil
    · exact tagged ⟨e, tag, ends⟩

/-- A description that is a text has lines. -/
theorem exists_descriptionLines (text : String) : ∃ lines, descriptionLines (.text text) = .ok lines := by
  unfold descriptionLines
  split <;> exact ⟨_, rfl⟩

/-- A comment is written as the lines of its description and its tags. -/
theorem write_comment {description : Document} {lines : List String} (formed : descriptionLines description = .ok lines)
    (w : Page) (tags : List String) :
    w.write (.comment description tags) = w.addLines (commentLines (commentBody lines tags)) := by
  rw [Page.write, Page.comment, formed]
  rfl

mutual

/-- Harmless code is written as it is written without its descriptions, but for what stands in comments. -/
theorem agree_write {w w' : Page} (alike : w.Alike w') : (code : Code) → code.IsHarmless →
    Agree (w.write code) (w'.write code.plain)
  | .line text, _ => by
    rw [Code.plain, Page.write, Page.write]
    exact agree_line alike text
  | .blank, _ => by
    rw [Code.plain, Page.write, Page.write]
    exact .ok (alike_blank alike)
  | .block header body, harmless => by
    rw [Code.plain, Page.write, Page.write]
    refine (agree_openBlock alike header).bind fun opened => ?_
    exact (agree_writeAll opened body harmless).bind fun inside => agree_closeBlock inside
  | .comment description tags, harmless => by
    obtain ⟨⟨text, rfl, one⟩, tagged⟩ := harmless
    obtain ⟨lines, formed⟩ := exists_descriptionLines text
    have absent : descriptionLines .null = .ok [] := rfl
    rw [Code.plain, write_comment formed, write_comment absent]
    refine agree_comment alike ((isHarmless_commentBody_iff tagged).2 ?_) ((isHarmless_commentBody_iff tagged).2 ?_)
    · exact (endsComment_lines formed).not.2 one
    · simp [IsHarmless]
  | .fragment content, _ => by
    rw [Code.plain, Page.write, Page.write, Page.fragment, Page.fragment]
    exact Agree.expect fun lines _ => agree_foldlM agree_line alike lines
  | .unwritable error, _ => by
    rw [Code.plain, Page.write, Page.write]
    exact .error rfl

/-- Harmless code agrees with the code without its descriptions on pages that are alike. -/
theorem agree_writeAll {w w' : Page} (alike : w.Alike w') : (codes : List Code) → AreHarmless codes →
    Agree (w.writeAll codes) (w'.writeAll (plainCodes codes))
  | [], _ => by
    rw [plainCodes, Page.writeAll, Page.writeAll]
    exact .ok alike
  | code :: rest, harmless => by
    rw [plainCodes, Page.writeAll, Page.writeAll]
    exact (agree_write alike code harmless.1).bind fun first => agree_writeAll first rest harmless.2

end

/-! ## Units without descriptions -/

/-- The package agrees on pages that are alike. -/
theorem agree_package (alike : w.Alike w') (name : String) : Agree (w.package name) (w'.package name) := by
  rw [Page.package, Page.package]
  split
  · exact .ok alike
  · exact (agree_line alike _).bind fun named => .ok (alike_blank named)

/-- The imports agree on pages that are alike. -/
theorem agree_imports (alike : w.Alike w') (names : List Document) : Agree (w.imports names) (w'.imports names) := by
  rw [Page.imports, Page.imports]
  refine Agree.expect fun sorted _ => ?_
  have each {w v : Page} (alike : w.Alike v) (name : Document) :
      Agree (do w.line s!"import {← w.expect (lineText name)};") (do v.line s!"import {← v.expect (lineText name)};") :=
    Agree.expect fun _ _ => agree_line alike _
  refine (agree_foldlM (f := fun w name => do w.line s!"import {← w.expect (lineText name)};") each alike sorted).bind ?_
  intro v v' brought
  split
  · exact .ok brought
  · exact .ok (alike_blank brought)

/-- The ends of the open blocks agree on pages that are alike. -/
theorem agree_closeBlocks (alike : w.Alike w') (n : Nat) : Agree (Page.closeBlocks n w) (Page.closeBlocks n w') := by
  induction n generalizing w w' with
  | zero => exact .ok alike
  | succ n ih => exact (agree_closeBlock alike).bind ih

/-- A unit without its descriptions. -/
def CompilationUnit.plain (u : CompilationUnit) : CompilationUnit := { u with code := plainCodes u.code }

/-- The text of a unit of harmless code is, without comments, that of the unit without its descriptions. -/
theorem CompilationUnit.text_plain {u : CompilationUnit} {indent : Indent} (apart : IsApart indent.margin.toList)
    (harmless : AreHarmless u.code) :
    (u.text indent).map (withoutComments ·.toList) = (u.plain.text indent).map (withoutComments ·.toList) := by
  have start : (Page.start indent).Alike (Page.start indent) := ⟨rfl, rfl, apart, .none⟩
  have written : Agree (u.write indent) (u.plain.write indent) := by
    rw [write, write]
    refine Agree.expect fun imports _ => ?_
    refine (agree_package start u.package).bind fun named => ?_
    exact (agree_imports named imports).bind fun brought => agree_writeAll brought u.code harmless
  have pages : Agree (u.page indent) (u.plain.page indent) := by
    rw [page, page]
    refine written.bind fun alike => ?_
    rw [Page.finish, Page.finish, alike.openBlocks]
    exact agree_closeBlocks alike _
  rw [text, text]
  generalize u.page indent = x at pages
  generalize u.plain.page indent = y at pages
  cases pages with
  | ok alike => exact congrArg Except.ok alike.lines.withoutComments_eq
  | error same => exact congrArg Except.error same

end ClassDiagram.Java
