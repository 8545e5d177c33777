import ClassDiagram.Layout
import ClassDiagram.Proofs.Fallible
import ClassDiagram.Text.Lines
import Mathlib.Data.List.DropRight

/-!
# Lines that are not empty

Empty lines are put in and taken back by rules of their own, so what a text says stands in its other lines.  A line
that is formed adds itself to these, indented by what is around it (`full_indentedLine`); an empty line adds nothing,
and dropping empty ones takes nothing away (`WrittenLines.fullLines_blank`, `WrittenLines.fullLines_dropBlanks`).
-/

set_option autoImplicit false

namespace ClassDiagram

/-- The lines that are not empty. -/
def full (lines : List String) : List String := lines.filter (! ·.isEmpty)

/-- Lines inside a number of blocks; empty ones do not count. -/
def inside (margin : String) (depth : Nat) (texts : List String) : List String :=
  (full texts).map (repeated margin depth ++ ·)

/-- Lines as they stand at a depth; empty ones are not indented. -/
def laid (margin : String) (depth : Nat) (texts : List String) : List String :=
  texts.map fun text => if text.isEmpty then "" else repeated margin depth ++ text

variable {depth : Nat} {lines : List String}

/-- No lines have no full ones among them. -/
@[simp] theorem full_nil : full [] = [] := rfl

/-- The full lines of two texts are those of the first and then those of the second. -/
theorem full_append (first second : List String) : full (first ++ second) = full first ++ full second :=
  List.filter_append ..

/-- Lines of which none is empty are all full. -/
theorem full_eq_self (each : ∀ l ∈ lines, l.isEmpty = false) : full lines = lines := by
  refine List.filter_eq_self.2 fun l there => ?_
  rw [each l there]
  rfl

/-- Dropping empty lines at the end takes no other line away. -/
theorem full_rdropWhile (lines : List String) : full (lines.rdropWhile (·.isEmpty)) = full lines := by
  induction lines using List.reverseRecOn with
  | nil => rfl
  | append_singleton rest l ih =>
    rw [List.rdropWhile_concat, full_append]
    split
    · next empty =>
      rw [ih]
      simp [full, empty]
    · exact full_append rest [l]

/-- No lines inside a block are no lines. -/
@[simp] theorem inside_nil (margin : String) (depth : Nat) : inside margin depth [] = [] := rfl

/-- Two pieces inside a block are indented one after the other. -/
theorem inside_append (margin : String) (depth : Nat) (first second : List String) :
    inside margin depth (first ++ second) = inside margin depth first ++ inside margin depth second := by
  rw [inside, full_append, List.map_append]
  rfl

/-- The first line inside a block is indented by itself. -/
theorem inside_cons (margin : String) (depth : Nat) (text : String) (rest : List String) :
    inside margin depth (text :: rest) = inside margin depth [text] ++ inside margin depth rest :=
  inside_append margin depth [text] rest

/-- Outside all blocks lines stand as they are. -/
theorem inside_zero (margin : String) (texts : List String) : inside margin 0 texts = full texts := by
  simp [inside, repeated]

/-- Outside all blocks nothing stands in front of lines. -/
theorem laid_zero (margin : String) (texts : List String) : laid margin 0 texts = texts := by
  refine List.map_id'' (fun text => ?_) texts
  by_cases empty : text = "" <;> simp [empty, repeated]

/-- Of lines that are laid out, the full ones are those that are indented. -/
theorem full_laid (margin : String) (depth : Nat) (texts : List String) :
    full (laid margin depth texts) = inside margin depth texts := by
  induction texts with
  | nil => rfl
  | cons text rest ih =>
    change full ([_] ++ laid margin depth rest) = inside margin depth (text :: rest)
    rw [full_append, ih, inside_cons]
    by_cases empty : text = "" <;> simp [full, inside, empty]

/-- Splitting at line feeds is splitting a list at its occurrences of one. -/
theorem splitAtFeeds_eq (cs : List Char) : Text.splitAtFeeds cs = cs.splitOn '\n' := by
  induction cs with
  | nil => rfl
  | cons c rest ih =>
    rw [Text.splitAtFeeds, ih, List.splitOn_cons_eq_if_modifyHead]
    by_cases feed : c = '\n'
    · rw [if_pos feed, if_pos (beq_iff_eq.2 feed)]
    · rw [if_neg feed, if_neg (mt beq_iff_eq.1 feed)]
      cases parts : rest.splitOn '\n' with
      | nil => exact absurd parts (List.splitOn_ne_nil '\n' rest)
      | cons part others => rfl

/-- A text of lines without line feeds is split into these lines; nothing stands after the last line feed. -/
theorem splitAtFeeds_textOfLines (some : lines ≠ []) (unbroken : ∀ l ∈ lines, '\n' ∉ l.toList) :
    (Text.splitAtFeeds (textOfLines lines).toList).map String.ofList = lines ++ [""] := by
  have joined : textOfLines lines = "\n".intercalate (lines ++ [""]) := by
    rw [String.intercalate_append_of_ne_nil some (List.cons_ne_nil _ _), textOfLines, String.intercalate_singleton,
      String.append_empty]
  have cut : (textOfLines lines).toList.splitOn '\n' = (lines ++ [""]).map String.toList := by
    rw [joined, String.toList_intercalate]
    refine List.splitOn_intercalate '\n' ?_ (by simp)
    rw [List.forall_mem_map, List.forall_mem_append]
    exact ⟨unbroken, by simp⟩
  rw [splitAtFeeds_eq, cut, List.map_map]
  exact List.map_id'' (fun _ => String.ofList_toList) _

/-! ## Indentation -/

/-- What a block adds in front of its lines; nothing where lines cannot be indented. -/
def Indent.margin : Indent → String
  | unit text => text
  | broken _ => ""

/-- The line for a text that is not empty. -/
theorem indentedLine_eq_ok {indent : Indent} {text l : String} (notEmpty : text.isEmpty = false)
    (formed : indentedLine indent depth text = .ok l) :
    (∃ margin, indent = .unit margin ∧ l = repeated margin depth ++ text) ∧ l.isEmpty = false := by
  unfold indentedLine at formed
  rw [notEmpty, if_neg Bool.false_ne_true] at formed
  cases indent with
  | broken error => cases formed
  | unit margin =>
    obtain rfl : repeated margin depth ++ text = l := Except.ok.inj formed
    refine ⟨⟨margin, rfl, rfl⟩, ?_⟩
    simpa using fun _ => by simpa using notEmpty

/-- Every line can be formed with a text to indent it. -/
theorem exists_indentedLine (margin : String) (depth : Nat) (text : String) :
    ∃ l, indentedLine (.unit margin) depth text = .ok l := by
  unfold indentedLine
  split <;> exact ⟨_, rfl⟩

/-- A line that is formed is laid out with the margin of its indentation. -/
theorem indentedLine_eq_laid {indent : Indent} {text l : String} (formed : indentedLine indent depth text = .ok l) :
    [l] = laid indent.margin depth [text] := by
  cases empty : text.isEmpty with
  | true =>
    unfold indentedLine at formed
    rw [if_pos empty] at formed
    obtain rfl := Except.ok.inj formed
    rw [laid, List.map_singleton, if_pos empty]
  | false =>
    obtain ⟨⟨margin, rfl, rfl⟩, -⟩ := indentedLine_eq_ok empty formed
    rw [laid, List.map_singleton, empty, if_neg Bool.false_ne_true]
    rfl

/-- A line that is formed adds itself, indented, to the full lines, or nothing if it is empty. -/
theorem full_indentedLine {indent : Indent} {text l : String} (formed : indentedLine indent depth text = .ok l) :
    full [l] = inside indent.margin depth [text] := by
  rw [indentedLine_eq_laid formed, full_laid]

/-! ## Words -/

/-- Words that are texts can be joined. -/
theorem wordTexts_texts (position : Nat) (words : List String) :
    wordTexts position (words.map .text) = .ok words := by
  induction words generalizing position with
  | nil => rfl
  | cons word rest ih =>
    rw [List.map_cons, wordTexts, ih]
    rfl

/-- Words are texts if they make a line. -/
theorem eq_of_wordTexts {position : Nat} {words : List Document} {texts : List String}
    (given : wordTexts position words = .ok texts) : words = texts.map .text := by
  induction words generalizing position texts with
  | nil =>
    obtain rfl := Except.ok.inj given
    rfl
  | cons word rest ih =>
    cases word with
    | text word =>
      obtain ⟨others, later, rfl⟩ := map_eq_ok.1 given
      rw [ih later, List.map_cons]
    | _ => cases given

/-! ## Lines that are being written -/

namespace WrittenLines

variable {written : WrittenLines}

/-- The lines written so far that are not empty, in order. -/
def fullLines (written : WrittenLines) : List String := full written.inOrder

/-- The line that is written last is the last of the full ones, if it is one of them. -/
theorem fullLines_cons (l : String) (written : WrittenLines) :
    fullLines (l :: written) = written.fullLines ++ full [l] := by
  rw [fullLines, inOrder, List.reverse_cons, full_append]
  rfl

/-- The line that is written last is the last in order. -/
theorem inOrder_cons (l : String) (written : WrittenLines) : inOrder (l :: written) = written.inOrder ++ [l] :=
  List.reverse_cons

/-- The empty line that is in order after some lines, if one is. -/
def gapAfter (lines : List String) : List String :=
  match lines.getLast? with
  | none => []
  | some last => if last.isEmpty || opensBlock last then [] else [""]

/-- An empty line is added where the lines so far leave a gap. -/
theorem inOrder_blank (written : WrittenLines) : written.blank.inOrder = written.inOrder ++ gapAfter written.inOrder := by
  rw [blank.eq_def, gapAfter]
  cases written with
  | nil => rfl
  | cons last rest =>
    have same : (inOrder (last :: rest)).getLast? = some last := by rw [inOrder_cons, List.getLast?_concat]
    rw [same]
    dsimp only
    split
    · exact (List.append_nil _).symm
    · exact inOrder_cons ..

/-- An empty line that is put in does not count. -/
theorem full_gapAfter (lines : List String) : full (gapAfter lines) = [] := by
  unfold gapAfter
  split
  · rfl
  · split <;> rfl

/-- An empty line adds nothing to the full lines. -/
theorem fullLines_blank (written : WrittenLines) : written.blank.fullLines = written.fullLines := by
  rw [fullLines, inOrder_blank, full_append, full_gapAfter, List.append_nil]
  rfl

/-- The empty lines at the end are dropped. -/
theorem inOrder_dropBlanks (written : WrittenLines) :
    written.dropBlanks.inOrder = written.inOrder.rdropWhile (·.isEmpty) := by
  rw [List.rdropWhile, inOrder, inOrder, List.reverse_reverse]
  rfl

/-- Dropping empty lines takes nothing from the full ones. -/
theorem fullLines_dropBlanks (written : WrittenLines) : written.dropBlanks.fullLines = written.fullLines := by
  rw [fullLines, inOrder_dropBlanks, full_rdropWhile]
  rfl

end WrittenLines

end ClassDiagram
