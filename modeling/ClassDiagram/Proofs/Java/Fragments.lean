import ClassDiagram.Proofs.Java.Steps
import ClassDiagram.Proofs.Text.Lines

/-!
# Code that is written by hand

Code that is written by hand is put on a page line by line, without the margin that its lines share (`fragmentLines_eq`).
Moving all lines with text moves the margin with them, and an empty line stays one, so the same lines are written wherever
the code stood (`fragments_are_realigned`).
-/

set_option autoImplicit false

namespace ClassDiagram.Java

open Text

variable {line front : List Char} {lines : List (List Char)}

/-! ## Lines that are kept -/

/-- The lines of a text that are written: those without the empty ones at both ends, and without a last one that has no
text. -/
def keptLines (lines : List (List Char)) : List (List Char) := withoutLast isMarginOnly (inner lines)

/-- The lines that are kept are among the lines. -/
theorem mem_of_mem_keptLines (among : line ∈ keptLines lines) : line ∈ lines := by
  apply mem_of_mem_inner
  unfold keptLines withoutLast at among
  split at among
  · exact List.dropLast_subset _ among
  · exact among

/-- Lines that are moved are kept as they were before. -/
theorem keptLines_shifted (front : List Char) (lines : List (List Char)) :
    keptLines (lines.map (shifted front)) = (keptLines lines).map (shifted front) := by
  rw [keptLines, inner_map (isEmpty_shifted front), withoutLast_map]
  exact congrArg _ (withoutLast_congr fun line _ => isMarginOnly_shifted front line)

/-! ## Lines that are written -/

/-- The line that is written for one of a text: without the margin and the white space at the end. -/
def spliced (margin line : List Char) : String := String.ofList (trimRightBy isBlank (cut margin line))

/-- A fragment has the lines that are kept, without the margin that they share. -/
theorem fragmentLines_eq (unbroken : ∀ line ∈ lines, ∀ c ∈ line, isLineBoundary c = false) :
    fragmentLines (joinWithFeeds lines) = (keptLines lines).map (spliced (sharedMargin lines)) := by
  have noFeed : ∀ line ∈ lines, '\n' ∉ line := by
    intro line among feed
    exact absurd (unbroken line among '\n' feed) (by decide)
  have trimmed : dedent (trimBy (· == '\n') (joinWithFeeds lines)) =
      joinWithFeeds ((inner lines).map (cut (sharedMargin lines))) := by
    rw [trimBy_joinWithFeeds noFeed, dedent_joinWithFeeds fun line among => noFeed line (mem_of_mem_inner among),
      sharedMargin_inner]
  have split : linesOf (joinWithFeeds ((inner lines).map (cut (sharedMargin lines)))) =
      (keptLines lines).map (cut (sharedMargin lines)) := by
    rw [linesOf_joinWithFeeds, withoutLast_map, keptLines]
    · apply congrArg
      apply withoutLast_congr
      intro line among
      exact isEmpty_cut (mem_of_mem_inner among)
    · rw [List.forall_mem_map]
      intro line among c there
      exact unbroken line (mem_of_mem_inner among) c (mem_of_mem_cut there)
  rw [fragmentLines, trimmed, split, List.map_map]
  rfl

/-- Lines that are moved are still without line boundaries. -/
theorem unbroken_shifted (isFront : front.all isMarginChar = true)
    (unbroken : ∀ line ∈ lines, ∀ c ∈ line, isLineBoundary c = false) :
    ∀ line ∈ lines.map (shifted front), ∀ c ∈ line, isLineBoundary c = false := by
  rw [List.forall_mem_map]
  intro line among c there
  unfold shifted at there
  split at there
  · exact unbroken line among c there
  · rcases List.mem_append.1 there with before | own
    · have isMargin := List.all_eq_true.1 isFront c before
      rw [isMarginChar, Bool.or_eq_true, beq_iff_eq, beq_iff_eq] at isMargin
      rcases isMargin with rfl | rfl <;> decide
    · exact unbroken line among c own

/-- A fragment does not depend on how far its lines are moved. -/
theorem fragmentLines_shifted (isFront : front.all isMarginChar = true)
    (unbroken : ∀ line ∈ lines, ∀ c ∈ line, isLineBoundary c = false) :
    fragmentLines (joinWithFeeds (lines.map (shifted front))) = fragmentLines (joinWithFeeds lines) := by
  rw [fragmentLines_eq (unbroken_shifted isFront unbroken), fragmentLines_eq unbroken, keptLines_shifted, List.map_map]
  apply List.map_congr_left
  intro line among
  have rest := cut_sharedMargin_shifted isFront (mem_of_mem_keptLines among)
  rw [Function.comp_apply, spliced, spliced, rest]

/-- A content of some lines. -/
def contentOf (lines : List (List Char)) : Document := .text (String.ofList (joinWithFeeds lines))

/-- The lines of a content are those of the fragment in it. -/
theorem contentLines_contentOf (lines : List (List Char)) :
    contentLines (contentOf lines) = .ok (fragmentLines (joinWithFeeds lines)) := by
  rw [contentOf, contentLines, String.toList_ofList]
  rfl

/-- Code that is written by hand leaves the same lines on any page, whatever spaces and tabs are put before its lines with
text.  They are its lines without the margin that those with text share and without the white space at their ends, inside
the open blocks.  A line without text is empty then; for empty ones at the beginning and the end none is written. -/
theorem fragments_are_realigned (w : Page) (isFront : front.all isMarginChar = true)
    (unbroken : ∀ line ∈ lines, ∀ c ∈ line, isLineBoundary c = false) :
    w.fragment (contentOf (lines.map (shifted front))) = w.fragment (contentOf lines) ∧
    ∃ margin, ((∃ line ∈ lines, isMarginOnly line = false) → IsSharedMargin lines margin) ∧
      ∀ unit, w.indent = .unit unit → w.fragment (contentOf lines) =
        .ok (w.withLines (laid unit w.openBlocks.length ((keptLines lines).map (spliced margin)))) := by
  refine ⟨?_, sharedMargin lines, ?_, ?_⟩
  · rw [Page.fragment, Page.fragment, contentLines_contentOf, contentLines_contentOf,
      fragmentLines_shifted isFront unbroken]
  · rintro ⟨line, among, text⟩
    exact isSharedMargin among text
  · intro unit own
    rw [Page.fragment, contentLines_contentOf, fragmentLines_eq unbroken]
    exact Page.addLines_eq own _

/-- A page on which a class is begun. -/
def shopPage : Page := ⟨.unit "  ", [], ["class Shop"]⟩

/-- A loop with lines that have no text, between its lines and at its end. -/
def shopLoop : List (List Char) := [" for (;;)", "", "\t", " \tserve(); ", " "].map String.toList

/-- A loop is written alike however far it is indented. -/
theorem fragments_are_realigned_for_loop :
    shopPage.fragment (contentOf (shopLoop.map (shifted "\t ".toList))) = shopPage.fragment (contentOf shopLoop) ∧
      shopPage.fragment (contentOf shopLoop) = .ok (shopPage.withLines ["  for (;;)", "", "", "  \tserve();"]) := by
  have unbroken : ∀ line ∈ shopLoop, ∀ c ∈ line, isLineBoundary c = false := by
    have all : shopLoop.all (fun line => line.all fun c => !isLineBoundary c) = true := by decide
    intro line among c there
    exact (Bool.not_eq_true' _).mp (List.all_eq_true.1 (List.all_eq_true.1 all line among) c there)
  have isFront : "\t ".toList.all isMarginChar = true := by decide
  refine ⟨(fragments_are_realigned shopPage isFront unbroken).1, ?_⟩
  rfl

end ClassDiagram.Java
