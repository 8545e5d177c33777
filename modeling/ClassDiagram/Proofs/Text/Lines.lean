import ClassDiagram.Proofs.Layout

/-!
# Lines and margins

Lines that are joined by line feeds are found again by splitting (`linesOf_joinWithFeeds`), apart from an empty one at the
end; feeds that are dropped at the ends of a text are its empty lines there (`trimBy_joinWithFeeds`).  The margin that is
removed is the longest run of spaces and tabs that all lines with text begin with (`isSharedMargin`).  Such a run is the
only one (`IsSharedMargin.eq`), and moving the lines moves it (`IsSharedMargin.shifted`); hence what is left of lines does
not depend on where they stood (`cut_sharedMargin_shifted`).
-/

set_option autoImplicit false

namespace ClassDiagram.Text

variable {line rest front margin : List Char} {lines : List (List Char)}

/-! ## Lines that are joined -/

/-- A line in front of others is followed by a line feed. -/
theorem joinWithFeeds_cons (line : List Char) (some : lines ≠ []) :
    joinWithFeeds (line :: lines) = line ++ '\n' :: joinWithFeeds lines := by
  unfold joinWithFeeds
  rw [List.intercalate_cons_of_ne_nil some, List.append_assoc]
  rfl

/-- A line behind others follows a line feed. -/
theorem joinWithFeeds_concat (some : lines ≠ []) (line : List Char) :
    joinWithFeeds (lines ++ [line]) = joinWithFeeds lines ++ '\n' :: line := by
  induction lines with
  | nil => exact absurd rfl some
  | cons first rest ih =>
    rw [List.cons_append, joinWithFeeds_cons first (List.append_ne_nil_of_right_ne_nil _ (List.cons_ne_nil _ _))]
    by_cases one : rest = []
    · subst one
      simp [joinWithFeeds]
    · rw [ih one, joinWithFeeds_cons first one, List.append_assoc]
      rfl

/-- Feeds at the beginning are empty lines. -/
theorem dropWhile_joinWithFeeds (unbroken : ∀ line ∈ lines, '\n' ∉ line) :
    (joinWithFeeds lines).dropWhile (· == '\n') = joinWithFeeds (lines.dropWhile (·.isEmpty)) := by
  induction lines with
  | nil => rfl
  | cons first rest ih =>
    rw [List.forall_mem_cons] at unbroken
    cases first with
    | nil =>
      rw [List.dropWhile_cons_of_pos rfl, ← ih unbroken.2]
      by_cases one : rest = []
      · subst one
        rfl
      · rw [joinWithFeeds_cons [] one]
        rfl
    | cons c cs =>
      have other : ¬(c == '\n') = true := by
        intro same
        apply unbroken.1
        rw [← beq_iff_eq.1 same]
        exact .head _
      obtain ⟨later, begun⟩ : ∃ later, joinWithFeeds ((c :: cs) :: rest) = c :: later := by
        by_cases one : rest = []
        · exact ⟨cs, by simp [one, joinWithFeeds]⟩
        · exact ⟨_, joinWithFeeds_cons (c :: cs) one⟩
      rw [List.dropWhile_cons_of_neg (by simp), begun]
      exact List.dropWhile_cons_of_neg other

/-- Feeds at the end are empty lines. -/
theorem rdropWhile_joinWithFeeds (unbroken : ∀ line ∈ lines, '\n' ∉ line) :
    (joinWithFeeds lines).rdropWhile (· == '\n') = joinWithFeeds (lines.rdropWhile (·.isEmpty)) := by
  induction lines using List.reverseRecOn with
  | nil => rfl
  | append_singleton before last ih =>
    rw [List.forall_mem_append, List.forall_mem_singleton] at unbroken
    rcases List.eq_nil_or_concat' last with rfl | ⟨cs, c, rfl⟩
    · rw [List.rdropWhile_concat_pos _ _ _ rfl, ← ih unbroken.1]
      by_cases one : before = []
      · subst one
        rfl
      · rw [joinWithFeeds_concat one]
        exact List.rdropWhile_concat_pos _ _ _ rfl
    · have other : ¬(c == '\n') = true := by
        intro same
        apply unbroken.2
        rw [← beq_iff_eq.1 same]
        exact List.mem_concat_self
      obtain ⟨earlier, ended⟩ : ∃ earlier, joinWithFeeds (before ++ [cs ++ [c]]) = earlier ++ [c] := by
        by_cases one : before = []
        · exact ⟨cs, by simp [one, joinWithFeeds]⟩
        · refine ⟨joinWithFeeds before ++ '\n' :: cs, ?_⟩
          rw [joinWithFeeds_concat one, List.append_assoc]
          rfl
      rw [List.rdropWhile_concat_neg _ _ _ (by simp), ended]
      exact List.rdropWhile_concat_neg _ _ _ other

/-- Lines without the empty ones at both ends. -/
def inner (lines : List (List Char)) : List (List Char) := (lines.dropWhile (·.isEmpty)).rdropWhile (·.isEmpty)

/-- The lines that are left without the empty ones around them are among the lines. -/
theorem mem_of_mem_inner (among : line ∈ inner lines) : line ∈ lines :=
  (List.dropWhile_sublist _).subset ((List.rdropWhile_prefix _ _).subset among)

/-- What keeps empty lines empty, and no others, keeps the empty lines around a text apart. -/
theorem inner_map {f : List Char → List Char} (same : ∀ line, (f line).isEmpty = line.isEmpty)
    (lines : List (List Char)) : inner (lines.map f) = (inner lines).map f := by
  have tests : (fun line : List Char => line.isEmpty) ∘ f = fun line => line.isEmpty := funext same
  rw [inner, inner, List.rdropWhile, List.rdropWhile, List.dropWhile_map, tests, ← List.map_reverse, List.dropWhile_map,
    tests, List.map_reverse]

/-- Line feeds around a text are its first and last empty lines. -/
theorem trimBy_joinWithFeeds (unbroken : ∀ line ∈ lines, '\n' ∉ line) :
    trimBy (· == '\n') (joinWithFeeds lines) = joinWithFeeds (inner lines) := by
  rw [trimBy, dropWhile_joinWithFeeds unbroken]
  apply rdropWhile_joinWithFeeds
  intro line among
  exact unbroken line ((List.dropWhile_sublist _).subset among)

/-! ## Lines that are split -/

/-- What is read before a boundary is read into the current line. -/
theorem linesFrom_append (unbroken : ∀ c ∈ line, isLineBoundary c = false) (begun rest : List Char) :
    linesFrom begun (line ++ rest) = linesFrom (line.reverse ++ begun) rest := by
  induction line generalizing begun with
  | nil => rfl
  | cons c cs ih =>
    rw [List.forall_mem_cons] at unbroken
    have noReturn : ∀ later, c = '\r' → cs ++ rest = '\n' :: later → False := by
      rintro later rfl -
      exact absurd unbroken.1 (by decide)
    rw [List.cons_append, linesFrom.eq_3 _ _ _ noReturn, unbroken.1, if_neg Bool.false_ne_true, ih unbroken.2,
      List.reverse_cons, List.append_assoc]
    rfl

/-- A line feed ends the line that has begun. -/
theorem linesFrom_feed (begun rest : List Char) : linesFrom begun ('\n' :: rest) = begun.reverse :: linesFrom [] rest :=
  linesFrom.eq_3 begun '\n' rest fun _ other => absurd other (by decide)

/-- Lines without the last one, if that has some property. -/
def withoutLast (p : List Char → Bool) (lines : List (List Char)) : List (List Char) :=
  if lines.getLast?.any p then lines.dropLast else lines

/-- The last line is that of the rest, if there is a rest. -/
theorem withoutLast_cons (p : List Char → Bool) (line : List Char) (some : lines ≠ []) :
    withoutLast p (line :: lines) = line :: withoutLast p lines := by
  unfold withoutLast
  rw [List.getLast?_cons_of_ne_nil some, List.dropLast_cons_of_ne_nil some]
  split <;> rfl

/-- Conditions that agree on the lines take away the same last line. -/
theorem withoutLast_congr {p q : List Char → Bool} (same : ∀ line ∈ lines, p line = q line) :
    withoutLast p lines = withoutLast q lines := by
  unfold withoutLast
  cases last : lines.getLast? with
  | none => rfl
  | some line =>
    rw [Option.any_some, Option.any_some, same line (List.mem_of_getLast? last)]

/-- A last line is taken away before or after each line is changed. -/
theorem withoutLast_map (p : List Char → Bool) (f : List Char → List Char) (lines : List (List Char)) :
    withoutLast p (lines.map f) = (withoutLast (p ∘ f) lines).map f := by
  rw [withoutLast, withoutLast, List.getLast?_map, Option.any_map, ← List.map_dropLast, apply_ite (List.map f)]
  rfl

/-- Lines that are joined are split again; an empty line at the end is none. -/
theorem linesOf_joinWithFeeds (unbroken : ∀ line ∈ lines, ∀ c ∈ line, isLineBoundary c = false) :
    linesOf (joinWithFeeds lines) = withoutLast (·.isEmpty) lines := by
  induction lines with
  | nil => rfl
  | cons first rest ih =>
    rw [List.forall_mem_cons] at unbroken
    by_cases one : rest = []
    · subst one
      have read := linesFrom_append unbroken.1 [] []
      have whole : joinWithFeeds [first] = first ++ [] := by simp [joinWithFeeds]
      rw [whole, linesOf, read]
      cases first <;> simp [linesFrom, withoutLast]
    · rw [joinWithFeeds_cons first one, withoutLast_cons _ _ one, linesOf, linesFrom_append unbroken.1, linesFrom_feed,
        List.append_nil, List.reverse_reverse]
      exact congrArg _ (ih unbroken.2)

/-! ## Margins -/

/-- What two texts begin with is what their common start begins with. -/
theorem prefix_commonStart_iff {run xs ys : List Char} : run <+: commonStart xs ys ↔ run <+: xs ∧ run <+: ys := by
  induction run generalizing xs ys with
  | nil => simp
  | cons c cs ih =>
    match xs, ys with
    | [], ys => simp [commonStart]
    | x :: xs, [] => simp [commonStart]
    | x :: xs, y :: ys =>
      rw [commonStart]
      split
      · next same =>
        rw [List.cons_prefix_cons, List.cons_prefix_cons, List.cons_prefix_cons, ih, ← same]
        exact and_and_left
      · next other =>
        rw [List.cons_prefix_cons, List.cons_prefix_cons]
        constructor
        · intro none
          exact absurd (List.prefix_nil.1 none) (List.cons_ne_nil _ _)
        · rintro ⟨⟨rfl, -⟩, rfl, -⟩
          exact absurd rfl other

/-- What all margins begin with is what their common start begins with. -/
theorem prefix_foldl_commonStart_iff {run margin : List Char} {margins : List (List Char)} :
    run <+: margins.foldl commonStart margin ↔ ∀ m ∈ margin :: margins, run <+: m := by
  induction margins generalizing margin with
  | nil => rw [List.foldl_nil, List.forall_mem_singleton]
  | cons second others ih =>
    rw [List.foldl_cons, ih]
    simp only [List.forall_mem_cons, prefix_commonStart_iff, and_assoc]

/-- The margin of a line begins with what is white and begins the line. -/
theorem prefix_marginOf_iff {run : List Char} : run <+: marginOf line ↔ run.all isMarginChar = true ∧ run <+: line := by
  induction run generalizing line with
  | nil => simp
  | cons c cs ih =>
    cases line with
    | nil => simp [marginOf]
    | cons x rest =>
      rw [marginOf, List.takeWhile_cons]
      split
      · next isMargin =>
        have within : cs <+: rest.takeWhile isMarginChar ↔ cs.all isMarginChar = true ∧ cs <+: rest := ih
        rw [List.cons_prefix_cons, List.cons_prefix_cons, within, List.all_cons, Bool.and_eq_true]
        constructor
        · rintro ⟨rfl, all, begun⟩
          exact ⟨⟨isMargin, all⟩, rfl, begun⟩
        · rintro ⟨⟨-, all⟩, rfl, begun⟩
          exact ⟨rfl, all, begun⟩
      · next text =>
        rw [List.cons_prefix_cons, List.all_cons, Bool.and_eq_true]
        constructor
        · intro none
          exact absurd (List.prefix_nil.1 none) (List.cons_ne_nil _ _)
        · rintro ⟨⟨isMargin, -⟩, rfl, -⟩
          exact absurd isMargin text

/-- Whether all lines with text begin with a margin, and with no longer one in common. -/
structure IsSharedMargin (lines : List (List Char)) (margin : List Char) : Prop where
  isMargin : margin.all isMarginChar = true
  shared : ∀ line ∈ lines, isMarginOnly line = false → margin <+: line
  longest : ∀ run : List Char, run.all isMarginChar = true →
    (∀ line ∈ lines, isMarginOnly line = false → run <+: line) → run.length ≤ margin.length

/-- The shared margin is known by the runs that it begins with: those that all lines with text begin with. -/
theorem prefix_sharedMargin_iff (among : line ∈ lines) (text : isMarginOnly line = false) {run : List Char} :
    run <+: sharedMargin lines ↔
      run.all isMarginChar = true ∧ ∀ line ∈ lines, isMarginOnly line = false → run <+: line := by
  have folded : run <+: sharedMargin lines ↔ ∀ m ∈ (lines.filter (!isMarginOnly ·)).map marginOf, run <+: m := by
    unfold sharedMargin
    split
    · next none =>
      have there : marginOf line ∈ (lines.filter (!isMarginOnly ·)).map marginOf := by
        apply List.mem_map_of_mem
        rw [List.mem_filter, text]
        exact ⟨among, rfl⟩
      rw [none] at there
      exact absurd there List.not_mem_nil
    · next first others found =>
      rw [found]
      exact prefix_foldl_commonStart_iff
  rw [folded]
  simp only [List.forall_mem_map, List.mem_filter, Bool.not_eq_true', and_imp, prefix_marginOf_iff]
  constructor
  · intro both
    exact ⟨(both line among text).1, fun other there full => (both other there full).2⟩
  · rintro ⟨all, begun⟩ other there full
    exact ⟨all, begun other there full⟩

/-- The margin that is computed for lines is the longest one that all lines with text share. -/
theorem isSharedMargin (among : line ∈ lines) (text : isMarginOnly line = false) :
    IsSharedMargin lines (sharedMargin lines) := by
  obtain ⟨isMargin, shared⟩ := (prefix_sharedMargin_iff among text).1 List.prefix_rfl
  refine ⟨isMargin, shared, ?_⟩
  intro run all begun
  exact ((prefix_sharedMargin_iff among text).2 ⟨all, begun⟩).length_le

/-- Lines with text share one longest margin. -/
theorem IsSharedMargin.eq {other : List Char} (among : line ∈ lines) (text : isMarginOnly line = false)
    (isShared : IsSharedMargin lines margin) (isShared' : IsSharedMargin lines other) : margin = other := by
  have short := isShared'.longest margin isShared.isMargin isShared.shared
  have long := isShared.longest other isShared'.isMargin isShared'.shared
  have begun := List.prefix_of_prefix_length_le (isShared.shared line among text) (isShared'.shared line among text) short
  exact begun.eq_of_length_le long

/-- Dropping at the beginning takes nothing away that is kept by a filter. -/
theorem filter_dropWhile {α : Type} {p q : α → Bool} (apart : ∀ a, p a = true → q a = false) (items : List α) :
    (items.dropWhile p).filter q = items.filter q := by
  have none : (items.takeWhile p).filter q = [] := by
    rw [List.filter_eq_nil_iff]
    intro a there
    rw [apart a (List.mem_takeWhile_imp there)]
    exact Bool.false_ne_true
  conv_rhs => rw [← List.takeWhile_append_dropWhile (p := p) (l := items), List.filter_append, none]
  rfl

/-- Empty lines take no part in the margin. -/
theorem sharedMargin_inner (lines : List (List Char)) : sharedMargin (inner lines) = sharedMargin lines := by
  have apart : ∀ line : List Char, line.isEmpty = true → (!isMarginOnly line) = false := by
    intro line empty
    rw [List.isEmpty_iff.1 empty]
    rfl
  have same : (inner lines).filter (!isMarginOnly ·) = lines.filter (!isMarginOnly ·) := by
    rw [inner, List.rdropWhile, List.filter_reverse, filter_dropWhile apart, List.filter_reverse, List.reverse_reverse,
      filter_dropWhile apart]
  rw [sharedMargin, sharedMargin, same]

/-- A line without a margin; nothing if it has no text. -/
def cut (margin line : List Char) : List Char := if isMarginOnly line then [] else line.drop margin.length

/-- Nothing is in a line without its margin but what is in the line. -/
theorem mem_of_mem_cut {c : Char} (there : c ∈ cut margin line) : c ∈ line := by
  unfold cut at there
  split at there
  · cases there
  · exact List.mem_of_mem_drop there

/-- A text is realigned by cutting the shared margin from each of its lines. -/
theorem dedent_joinWithFeeds (unbroken : ∀ line ∈ lines, '\n' ∉ line) :
    dedent (joinWithFeeds lines) = joinWithFeeds (lines.map (cut (sharedMargin lines))) := by
  by_cases none : lines = []
  · rw [none]
    rfl
  · have parts : splitAtFeeds (joinWithFeeds lines) = lines := by
      rw [splitAtFeeds_eq]
      exact List.splitOn_intercalate '\n' unbroken none
    rw [dedent, parts]
    rfl

/-- What is left of a line is empty only if it has no text. -/
theorem isEmpty_cut (among : line ∈ lines) : (cut (sharedMargin lines) line).isEmpty = isMarginOnly line := by
  cases text : isMarginOnly line with
  | true => rw [cut, text, if_pos rfl, List.isEmpty_nil]
  | false =>
    have isShared := isSharedMargin among text
    obtain ⟨rest, whole⟩ := isShared.shared line among text
    have left : cut (sharedMargin lines) line = rest := by
      rw [cut, text, if_neg Bool.false_ne_true, ← whole]
      exact List.drop_left
    rw [left, ← Bool.not_eq_true, List.isEmpty_iff]
    rintro rfl
    rw [List.append_nil] at whole
    rw [← whole, isMarginOnly, isShared.isMargin] at text
    cases text

/-! ## Lines that are moved -/

/-- A line with something in front, if it has text. -/
def shifted (front line : List Char) : List Char := if isMarginOnly line then line else front ++ line

/-- A line with text is moved by what is put in front of it. -/
theorem shifted_of_text (front : List Char) (text : isMarginOnly line = false) : shifted front line = front ++ line := by
  rw [shifted, text]
  rfl

/-- A line that is moved has text exactly if it had some before. -/
theorem isMarginOnly_shifted (front line : List Char) : isMarginOnly (shifted front line) = isMarginOnly line := by
  unfold shifted
  split
  · rfl
  · next text =>
    have none : line.all isMarginChar = false := Bool.eq_false_iff.2 text
    rw [isMarginOnly, List.all_append, isMarginOnly, none, Bool.and_false]

/-- A line that is moved is empty exactly if it was before. -/
theorem isEmpty_shifted (front line : List Char) : (shifted front line).isEmpty = line.isEmpty := by
  unfold shifted
  split
  · rfl
  · next text =>
    cases line with
    | nil => exact absurd rfl text
    | cons c cs => simp

/-- Lines that are moved share the margin that they shared, moved as they are. -/
theorem IsSharedMargin.shifted (isFront : front.all isMarginChar = true) (among : line ∈ lines)
    (text : isMarginOnly line = false) (isShared : IsSharedMargin lines margin) :
    IsSharedMargin (lines.map (shifted front)) (front ++ margin) := by
  refine ⟨?_, ?_, ?_⟩
  · rw [List.all_append, isFront, isShared.isMargin, Bool.and_self]
  · rw [List.forall_mem_map]
    intro line there full
    rw [isMarginOnly_shifted] at full
    rw [shifted_of_text front full, List.prefix_append_right_inj]
    exact isShared.shared line there full
  · intro run all begun
    rw [List.forall_mem_map] at begun
    have begins : ∀ line ∈ lines, isMarginOnly line = false → run <+: front ++ line := by
      intro line there full
      rw [← shifted_of_text front full]
      apply begun line there
      rw [isMarginOnly_shifted, full]
    rw [List.length_append]
    -- A run ends within the front, or it is the front and a run of the lines as they were.
    rcases List.prefix_or_prefix_of_prefix (begins line among text) (List.prefix_append front line) with short | ⟨tail, rfl⟩
    · have short := short.length_le
      omega
    · rw [List.all_append, Bool.and_eq_true] at all
      have longest := isShared.longest tail all.2 fun line there full =>
        (List.prefix_append_right_inj front).1 (begins line there full)
      rw [List.length_append]
      omega

/-- What is left of lines does not depend on where they stood. -/
theorem cut_sharedMargin_shifted (isFront : front.all isMarginChar = true) (among : line ∈ lines) :
    cut (sharedMargin (lines.map (shifted front))) (shifted front line) = cut (sharedMargin lines) line := by
  cases text : isMarginOnly line with
  | true => rw [cut, cut, isMarginOnly_shifted, text, if_pos rfl, if_pos rfl]
  | false =>
    have moved : shifted front line ∈ lines.map (shifted front) := List.mem_map_of_mem among
    have text' : isMarginOnly (shifted front line) = false := by rw [isMarginOnly_shifted, text]
    have margins : sharedMargin (lines.map (shifted front)) = front ++ sharedMargin lines :=
      (isSharedMargin moved text').eq moved text' ((isSharedMargin among text).shifted isFront among text)
    rw [cut, cut, text', text, margins, shifted_of_text front text, List.length_append]
    exact List.drop_length_add_append _

end ClassDiagram.Text
