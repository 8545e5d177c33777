import ClassDiagram.Proofs.Java.Layout
import Mathlib.Data.List.DropRight
import Mathlib.Data.List.Infix

/-!
# Comments

A comment of Java begins with a slash and an asterisk and goes on to the next asterisk with a slash after it
(`withoutComments`).  The comment of an operation is laid out as one comment exactly if no line of its body has an end
of a comment in it (`isComment_javadoc`); then nothing of it is left where comments are removed (`scan_javadocLines`).  A
description has an end of a comment exactly if one of its lines has (`endsComment_lines`).
-/

set_option autoImplicit false

namespace ClassDiagram.Java

variable {b : Bool} {c : Char} {xs ys p : List Char}

/-! ## Ends of comments -/

/-- Whether there is an end of a comment in a text. -/
def EndsComment (cs : List Char) : Prop := ['*', '/'] <:+: cs

instance : DecidablePred EndsComment := fun cs => inferInstanceAs (Decidable (['*', '/'] <:+: cs))

/-- Whether no character of a text can be part of the beginning or the end of a comment. -/
def IsApart (cs : List Char) : Prop := ∀ c ∈ cs, c ≠ '*' ∧ c ≠ '/'

/-- A text ends a comment at its beginning or further on. -/
theorem endsComment_cons : EndsComment (c :: xs) ↔ (c = '*' ∧ xs.head? = some '/') ∨ EndsComment xs := by
  rw [EndsComment, List.infix_cons_iff]
  refine or_congr ?_ Iff.rfl
  cases xs with
  | nil => simp
  | cons d rest => simp [List.cons_prefix_cons, eq_comm]

/-- No characters end no comment. -/
@[simp] theorem not_endsComment_nil : ¬ EndsComment [] := by decide

/-- What has no character of a mark in it can be left out at the front. -/
theorem endsComment_append_of_apart (apart : IsApart p) : EndsComment (p ++ ys) ↔ EndsComment ys := by
  induction p with
  | nil => rfl
  | cons c rest ih =>
    obtain ⟨here, later⟩ := List.forall_mem_cons.1 apart
    rw [List.cons_append, endsComment_cons, ih later]
    simp [here.1]

/-- A character of neither mark separates the ends of comments before and after it. -/
theorem endsComment_append_cons (here : c ≠ '*' ∧ c ≠ '/') :
    EndsComment (xs ++ c :: ys) ↔ EndsComment xs ∨ EndsComment ys := by
  induction xs with
  | nil => simp [endsComment_cons, here.1]
  | cons x rest ih =>
    rw [List.cons_append, endsComment_cons, endsComment_cons, ih, or_assoc]
    cases rest with
    | nil => simp [here.2]
    | cons d rest => rfl

/-- What has no character of a mark in it can be left out at the end. -/
theorem endsComment_of_apart (apart : IsApart ys) : EndsComment (xs ++ ys) ↔ EndsComment xs := by
  cases ys with
  | nil => rw [List.append_nil]
  | cons c rest =>
    obtain ⟨here, later⟩ := List.forall_mem_cons.1 apart
    have none : ¬ EndsComment rest := by
      have left : EndsComment (rest ++ []) ↔ EndsComment [] := endsComment_append_of_apart later
      rw [List.append_nil] at left
      simpa using left.not
    rw [endsComment_append_cons here, or_iff_left none]

/-- Characters that are neither stars nor slashes are apart from comments. -/
theorem isApart_takeWhile {isIn : Char → Bool} (star : isIn '*' = false) (slash : isIn '/' = false)
    (cs : List Char) : IsApart (cs.takeWhile isIn) := by
  intro c there
  have own := List.mem_takeWhile_imp there
  constructor
  · rintro rfl
    rw [star] at own
    cases own
  · rintro rfl
    rw [slash] at own
    cases own

section

variable {isIn : Char → Bool} (star : isIn '*' = false) (slash : isIn '/' = false)
include star slash

/-- Trimming by a class of characters that are in no mark takes no end of a comment away. -/
theorem endsComment_trimRightBy : EndsComment (Text.trimRightBy isIn xs) ↔ EndsComment xs := by
  have split : Text.trimRightBy isIn xs ++ (xs.reverse.takeWhile isIn).reverse = xs := by
    rw [Text.trimRightBy, ← List.reverse_append, List.takeWhile_append_dropWhile, List.reverse_reverse]
  have apart : IsApart (xs.reverse.takeWhile isIn).reverse := fun c there =>
    isApart_takeWhile star slash _ c (List.mem_reverse.1 there)
  conv_rhs => rw [← split]
  rw [endsComment_of_apart apart]

/-- What is taken from around a text does not end a comment. -/
theorem endsComment_trimBy : EndsComment (Text.trimBy isIn xs) ↔ EndsComment xs := by
  rw [Text.trimBy, endsComment_trimRightBy star slash]
  conv_rhs => rw [← List.takeWhile_append_dropWhile (p := isIn) (l := xs)]
  rw [endsComment_append_of_apart (isApart_takeWhile star slash xs)]

end

/-! ## Lines of a description -/

/-- Splitting a text in lines takes no end of a comment apart. -/
theorem endsComment_linesFrom (line cs : List Char) :
    (∃ l ∈ Text.linesFrom line cs, EndsComment l) ↔ EndsComment (line.reverse ++ cs) := by
  fun_induction Text.linesFrom line cs with
  | case1 line empty => simp_all
  | case2 line some => simp
  | case3 line rest ih =>
    have feed : EndsComment ('\n' :: rest) ↔ EndsComment rest :=
      endsComment_append_of_apart (p := ['\n']) (by simp [IsApart])
    rw [List.exists_mem_cons_iff, ih, endsComment_append_cons (by decide), feed]
    rfl
  | case4 line c rest _ boundary ih =>
    have other : c ≠ '*' ∧ c ≠ '/' := by
      constructor
      · rintro rfl
        exact absurd boundary (by decide)
      · rintro rfl
        exact absurd boundary (by decide)
    rw [List.exists_mem_cons_iff, ih, endsComment_append_cons other]
    rfl
  | case5 line c rest _ _ ih => rw [ih, List.reverse_cons, List.append_assoc, List.singleton_append]

/-- A description has an end of a comment exactly if one of its lines has. -/
theorem endsComment_lines {text : String} {lines : List String} (formed : descriptionLines (.text text) = .ok lines) :
    (∃ l ∈ lines, EndsComment l.toList) ↔ EndsComment text.toList := by
  unfold descriptionLines at formed
  split at formed
  · next absent =>
    obtain rfl := Except.ok.inj formed
    have empty : text = "" := by simpa [Document.isGiven] using absent
    rw [empty]
    simp
  · obtain rfl := Except.ok.inj formed
    have trimmed : EndsComment (Text.trimBy Text.isBlank text.toList) ↔ EndsComment text.toList :=
      endsComment_trimBy (by decide) (by decide)
    rw [← trimmed]
    have split := endsComment_linesFrom [] (Text.trimBy Text.isBlank text.toList)
    rw [List.reverse_nil, List.nil_append] at split
    rw [← split]
    simp [Text.linesOf]

/-! ## Removing comments -/

/-- What is left of a text where comments are removed, given whether it begins inside a comment, and whether it ends
inside one. -/
def scan : Bool → List Char → List Char × Bool
  | inside, [] => ([], inside)
  | inside, [c] => (if inside then [] else [c], inside)
  | true, c :: d :: rest => if c = '*' ∧ d = '/' then scan false rest else scan true (d :: rest)
  | false, c :: d :: rest =>
    if c = '/' ∧ d = '*' then scan true rest
    else (c :: (scan false (d :: rest)).1, (scan false (d :: rest)).2)

/-- Code without its comments. -/
def withoutComments (cs : List Char) : List Char := (scan false cs).1

/-- What has no character of a mark in it is left as it is in front of the rest. -/
theorem scan_apart (apart : IsApart p) (ys : List Char) :
    scan false (p ++ ys) = (p ++ (scan false ys).1, (scan false ys).2) := by
  induction p with
  | nil => rfl
  | cons c rest ih =>
    obtain ⟨here, later⟩ := List.forall_mem_cons.1 apart
    have rest' := ih later
    rw [List.cons_append]
    cases tail : rest ++ ys with
    | nil =>
      obtain ⟨rfl, rfl⟩ := List.append_eq_nil_iff.1 tail
      rfl
    | cons d tail' =>
      rw [scan, if_neg fun mark => here.2 mark.1, ← tail, rest']
      rfl

/-- A comment goes on to its first end. -/
theorem scan_within (inner : ¬ EndsComment (xs ++ ['*'])) : scan true (xs ++ '*' :: '/' :: ys) = scan false ys := by
  induction xs with
  | nil => simp [scan]
  | cons c rest ih =>
    rw [List.cons_append, endsComment_cons, not_or] at inner
    cases rest with
    | nil => simp [scan]
    | cons d rest =>
      have goesOn : ¬ (c = '*' ∧ d = '/') := by simpa using inner.1
      rw [List.cons_append, List.cons_append, scan, if_neg goesOn, ← List.cons_append]
      exact ih inner.2

/-- A line feed is in no mark, so lines are scanned one after another. -/
theorem scan_line (b : Bool) (xs ys : List Char) : scan b (xs ++ '\n' :: ys) =
    ((scan b (xs ++ ['\n'])).1 ++ (scan (scan b (xs ++ ['\n'])).2 ys).1, (scan (scan b (xs ++ ['\n'])).2 ys).2) := by
  have feed (b : Bool) : scan b ('\n' :: ys) = ((scan b ['\n']).1 ++ (scan b ys).1, (scan b ys).2) := by
    cases b with
    | false => exact scan_apart (p := ['\n']) (by simp [IsApart]) ys
    | true => cases ys <;> simp [scan]
  fun_induction scan b xs with
  | case1 b => exact feed b
  | case2 b c =>
    have apart {d : Char} (mark : d ≠ '\n') : ¬ (c = '*' ∧ '\n' = d) ∧ ¬ (c = '/' ∧ '\n' = d) :=
      ⟨fun both => mark both.2.symm, fun both => mark both.2.symm⟩
    rw [List.cons_append, List.nil_append, List.cons_append, List.nil_append]
    cases b with
    | true =>
      rw [scan, scan, if_neg (apart (by decide)).1, if_neg (apart (by decide)).1]
      exact feed true
    | false =>
      rw [scan, scan, if_neg (apart (by decide)).2, if_neg (apart (by decide)).2, feed false]
      rfl
  | case3 c d rest ends ih =>
    simp only [List.cons_append]
    rw [scan, scan, if_pos ends, if_pos ends, ih]
  | case4 c d rest goesOn ih =>
    simp only [List.cons_append] at ih ⊢
    rw [scan, scan, if_neg goesOn, if_neg goesOn, ih]
  | case5 c d rest begins ih =>
    simp only [List.cons_append]
    rw [scan, scan, if_pos begins, if_pos begins, ih]
  | case6 c d rest other ih =>
    simp only [List.cons_append] at ih ⊢
    rw [scan, scan, if_neg other, if_neg other, ih]
    rfl

/-! ## Comments that are laid out -/

/-- The characters of lines, each with its line feed. -/
def charsOf (lines : List String) : List Char := lines.flatMap fun l => l.toList ++ ['\n']

/-- The characters of two texts are those of the first and then those of the second. -/
theorem charsOf_append (first second : List String) : charsOf (first ++ second) = charsOf first ++ charsOf second :=
  List.flatMap_append

/-- Whether a text is one comment: no end of a comment is in it but the one at its end. -/
def IsComment (cs : List Char) : Prop :=
  ∃ inner, cs = '/' :: '*' :: (inner ++ ['*', '/']) ∧ ¬ EndsComment (inner ++ ['*'])

/-- The lines of a comment inside a margin. -/
def javadocLines (margin : String) (body : List String) : List String := (commentLines body).map (margin ++ ·)

/-- The lines of the body of a comment inside a margin. -/
def entryLines (margin : String) (body : List String) : List String :=
  body.map fun entry => margin ++ Text.trimRight (" * " ++ entry)

/-- What a comment has between its marks. -/
def javadocInner (margin : String) (body : List String) : List Char :=
  '*' :: '\n' :: (charsOf (entryLines margin body) ++ (margin.toList ++ [' ']))

/-- A comment as it is laid out, from its first character to its last. -/
def javadoc (margin : String) (body : List String) : List Char :=
  '/' :: '*' :: (javadocInner margin body ++ ['*', '/'])

/-- The characters of a comment are those between its marks, with its margin in front. -/
theorem charsOf_javadocLines (margin : String) (body : List String) :
    charsOf (javadocLines margin body) = margin.toList ++ javadoc margin body ++ ['\n'] := by
  have lines : javadocLines margin body =
      (margin ++ "/**") :: (entryLines margin body ++ [margin ++ " */"]) := by
    simp [javadocLines, commentLines, entryLines]
  rw [lines]
  simp [charsOf, javadoc, javadocInner]

section

variable {margin : String} {body : List String}

/-- The entries of a comment end it exactly if one of them does, or what follows. -/
theorem endsComment_entries (apart : IsApart margin.toList) (ys : List Char) :
    EndsComment (charsOf (entryLines margin body) ++ ys) ↔ (∃ e ∈ body, EndsComment e.toList) ∨ EndsComment ys := by
  induction body with
  | nil => simp [charsOf, entryLines]
  | cons entry rest ih =>
    have first : EndsComment (margin ++ Text.trimRight (" * " ++ entry)).toList ↔ EndsComment entry.toList := by
      have sign : EndsComment ([' ', '*'] ++ ' ' :: entry.toList) ↔ EndsComment entry.toList := by
        rw [endsComment_append_cons (by decide), or_iff_right (by decide)]
      rw [String.toList_append, endsComment_append_of_apart apart, Text.trimRight, String.toList_ofList,
        endsComment_trimRightBy (by decide) (by decide), String.toList_append]
      exact sign
    have chars : charsOf (entryLines margin (entry :: rest)) ++ ys =
        (margin ++ Text.trimRight (" * " ++ entry)).toList ++ '\n' :: (charsOf (entryLines margin rest) ++ ys) := by
      simp [charsOf, entryLines]
    rw [chars, endsComment_append_cons (by decide), first, ih, List.exists_mem_cons_iff, or_assoc]

/-- The body of a comment ends it early exactly where one of its entries has an end of a comment. -/
theorem endsComment_javadocInner (apart : IsApart margin.toList) :
    EndsComment (javadocInner margin body ++ ['*']) ↔ ∃ e ∈ body, EndsComment e.toList := by
  have last : ¬ EndsComment (margin.toList ++ [' '] ++ ['*']) := by
    rw [List.append_assoc, endsComment_append_of_apart apart]
    decide
  rw [javadocInner, List.cons_append, List.cons_append, endsComment_cons, endsComment_cons, List.append_assoc,
    endsComment_entries apart, or_iff_left last]
  simp

/-- A comment is laid out as one comment exactly if no entry of its body has an end of a comment. -/
theorem isComment_javadoc (apart : IsApart margin.toList) :
    IsComment (javadoc margin body) ↔ ¬ ∃ e ∈ body, EndsComment e.toList := by
  rw [← endsComment_javadocInner apart]
  constructor
  · rintro ⟨inner, same, one⟩
    have own : javadocInner margin body = inner := by simpa [javadoc] using same
    rwa [own]
  · intro one
    exact ⟨_, rfl, one⟩

/-- Where comments are removed, nothing but the margin is left of the lines of a comment, whatever its body says. -/
theorem scan_javadocLines (apart : IsApart margin.toList) (one : ¬ ∃ e ∈ body, EndsComment e.toList) (b : Bool)
    (ys : List Char) : scan b (charsOf (javadocLines margin body) ++ ys) =
      ((if b then [] else margin.toList) ++ (scan false ('\n' :: ys)).1, (scan false ('\n' :: ys)).2) := by
  have inner := (endsComment_javadocInner apart).not.2 one
  have chars : charsOf (javadocLines margin body) ++ ys =
      margin.toList ++ '/' :: '*' :: (javadocInner margin body ++ '*' :: '/' :: '\n' :: ys) := by
    simp [charsOf_javadocLines, javadoc]
  rw [chars]
  cases b with
  | false =>
    have ends : scan true (javadocInner margin body ++ '*' :: '/' :: '\n' :: ys) = scan false ('\n' :: ys) :=
      scan_within inner
    rw [scan_apart apart, ← ends]
    simp [scan]
  | true =>
    have within : ¬ EndsComment (margin.toList ++ '/' :: '*' :: javadocInner margin body ++ ['*']) := by
      rw [List.append_assoc, endsComment_append_of_apart apart, List.cons_append, List.cons_append, endsComment_cons,
        endsComment_cons]
      simpa [javadocInner] using inner
    have reordered : margin.toList ++ '/' :: '*' :: (javadocInner margin body ++ '*' :: '/' :: '\n' :: ys) =
        (margin.toList ++ '/' :: '*' :: javadocInner margin body) ++ '*' :: '/' :: '\n' :: ys := by simp
    rw [reordered, scan_within within]
    rfl

end

/-- Scanning lines and what comes after them depends on how the latter is scanned alone. -/
theorem scan_congr {ys ys' : List Char} (same : ∀ b, scan b ys = scan b ys') (b : Bool) (lines : List String) :
    scan b (charsOf lines ++ ys) = scan b (charsOf lines ++ ys') := by
  induction lines generalizing b with
  | nil => exact same b
  | cons l rest ih =>
    have chars (ys : List Char) : charsOf (l :: rest) ++ ys = l.toList ++ '\n' :: (charsOf rest ++ ys) := by
      simp [charsOf]
    rw [chars, chars, scan_line, scan_line b _ (charsOf rest ++ ys'), ih]

end ClassDiagram.Java
