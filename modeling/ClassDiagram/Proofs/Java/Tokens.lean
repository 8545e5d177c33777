import ClassDiagram.Name
import Mathlib.Data.List.SplitBy

/-!
# The tokens of a line

A line of Java as a row of words, signs and marks.  A word goes as far as the characters of names, a sign as far as
those of operators, every other character is a mark of its own, and blanks only keep tokens apart.  The tokens of two
pieces of a line are those of both (`tokens_append`), unless a token goes over from the first one into the second one.

Every name that Java accepts is a word, and the name of an accessor is a word if the name of its member is
(`isWord_method`).
-/

set_option autoImplicit false

namespace ClassDiagram.Java

/-! ## Characters -/

/-- The characters of names: letters, digits, `_`, `$`, and all that are not ASCII. -/
def wordRanges : List Text.CodeRange :=
  [⟨0x24, 0x24⟩, ⟨0x30, 0x39⟩, ⟨0x41, 0x5a⟩, ⟨0x5f, 0x5f⟩, ⟨0x61, 0x7a⟩, ⟨0x80, 0xd7ff⟩, ⟨0xe000, 0x10ffff⟩]

/-- Whether a character may stand in a name. -/
def isWordChar (c : Char) : Bool := Text.inRanges wordRanges c

/-- Whether a character stands in the operators that compare and combine. -/
def isSignChar (c : Char) : Bool := c == '=' || c == '!' || c == '|'

/-- Whether two characters in a row belong to one token. -/
def areTogether (c c' : Char) : Bool := isWordChar c && isWordChar c' || isSignChar c && isSignChar c'

/-! ## Tokens -/

/-- A word, or anything else but a blank. -/
inductive Token where
  | word (text : String)
  | mark (text : String)
  deriving Repr, DecidableEq

/-- The token of a row of characters that belong together. -/
def Token.ofRun (run : List Char) : Token :=
  if run.all isWordChar then .word (String.ofList run) else .mark (String.ofList run)

/-- The tokens of a line. -/
def tokens (line : String) : List Token :=
  ((line.toList.splitBy areTogether).filter (· != [' '])).map Token.ofRun

/-- Whether a text is a word: it is not empty and has only characters of names. -/
def isWord (text : String) : Bool := !text.toList.isEmpty && text.toList.all isWordChar

/-- Whether no token goes over from a text into another one. -/
def AreApart (first second : String) : Prop :=
  ∀ c ∈ first.toList.getLast?, ∀ c' ∈ second.toList.head?, areTogether c c' = false

/-- A blank, a bracket, a period or a semicolon at the end of a text keeps it apart from whatever follows. -/
theorem areApart_of_last (first : String) {c : Char} (last : first.toList.getLast? = some c)
    (loose : (isWordChar c || isSignChar c) = false) (second : String) : AreApart first second := by
  intro c₁ ends c₂ _
  obtain rfl : c = c₁ := Option.some.inj (last.symm.trans ends)
  obtain ⟨word, sign⟩ := Bool.or_eq_false_iff.1 loose
  simp [areTogether, word, sign]

/-- The same character at the beginning of a text keeps it apart from whatever comes before. -/
theorem areApart_of_head (second : String) {c : Char} (head : second.toList.head? = some c)
    (loose : (isWordChar c || isSignChar c) = false) (first : String) : AreApart first second := by
  intro c₁ _ c₂ begins
  obtain rfl : c = c₂ := Option.some.inj (head.symm.trans begins)
  obtain ⟨word, sign⟩ := Bool.or_eq_false_iff.1 loose
  simp [areTogether, word, sign]

/-- The tokens of two texts that are kept apart are those of the first one and then those of the second one. -/
theorem tokens_append {first second : String} (apart : AreApart first second) :
    tokens (first ++ second) = tokens first ++ tokens second := by
  rw [tokens, String.toList_append, List.splitBy_append apart, List.filter_append, List.map_append, tokens, tokens]

/-- A word is one token. -/
theorem tokens_word {text : String} (word : isWord text = true) : tokens text = [.word text] := by
  obtain ⟨some, all⟩ := Bool.and_eq_true_iff.1 word
  have chars : ∀ c ∈ text.toList, isWordChar c = true := List.all_eq_true.1 all
  have chain : text.toList.IsChain fun c c' => areTogether c c' = true := by
    refine (List.pairwise_of_forall_mem_list fun c there c' there' => ?_).isChain
    simp [areTogether, chars c there, chars c' there']
  have visible : (text.toList != [' ']) = true := by
    refine bne_iff_ne.2 fun blank => ?_
    have := chars ' ' (by simp [blank])
    cases this
  rw [tokens, List.splitBy_of_isChain (by simpa using some) chain, List.filter_singleton, visible, cond_true,
    List.map_singleton, Token.ofRun, if_pos all, String.ofList_toList]

/-! ## Names -/

/-- Two words make one word. -/
theorem isWord_append {first second : String} (word : isWord first = true)
    (all : second.toList.all isWordChar = true) : isWord (first ++ second) = true := by
  obtain ⟨some, chars⟩ := Bool.and_eq_true_iff.1 word
  rw [isWord, String.toList_append, List.all_append, chars, all]
  cases listed : first.toList with
  | nil => simp [listed] at some
  | cons c rest => rfl

/-- The character with a code in one of the ranges is a character of names. -/
theorem isWordChar_ofNat {n : Nat} {r : Text.CodeRange} (among : r ∈ wordRanges) (within : r.contains n = true) :
    isWordChar (Char.ofNat n) = true := by
  obtain ⟨low, high⟩ := Bool.and_eq_true_iff.1 within
  rw [decide_eq_true_eq] at low high
  have valid : n.isValidChar := by
    have ranges : ∀ r ∈ wordRanges, r.last < 0xd800 ∨ 0xdfff < r.first ∧ r.last < 0x110000 := by decide
    rcases ranges r among with small | ⟨large, small⟩
    · exact .inl (by omega)
    · exact .inr ⟨by omega, by omega⟩
  have code : (Char.ofNat n).toNat = n := by rw [Char.ofNat, dif_pos valid]; rfl
  rw [isWordChar, Text.inRanges, List.any_eq_true]
  exact ⟨r, among, code.symm ▸ within⟩

/-- Whether the characters that a run leads to are characters of names. -/
def leadsToWords (r : Text.CaseRun) : Bool :=
  wordRanges.any fun w => w.first ≤ r.first + r.shift && r.last + r.shift ≤ w.last

/-- The upper case form of a character is the character, or has only characters of names. -/
theorem upperChar_cases (c : Char) : Text.upperChar c = [c] ∨ (Text.upperChar c).all isWordChar = true := by
  have runs : Text.upperRuns.all leadsToWords = true := by decide +kernel
  have expansions : Text.upperExpansions.all (fun e => e.2.all fun n => wordRanges.any (·.contains n)) = true := by
    decide +kernel
  rw [Text.upperChar, Text.shifted?]
  cases found : Text.upperRuns.find? (·.contains c.toNat) with
  | some r =>
    obtain ⟨w, among, within⟩ := List.any_eq_true.1 (List.all_eq_true.1 runs r (List.mem_of_find?_eq_some found))
    have inside := List.find?_some found
    simp only [Text.CaseRun.contains, Bool.and_eq_true, decide_eq_true_eq] at inside within
    have moved : w.contains (Int.ofNat c.toNat + r.shift).toNat = true := by
      simp only [Text.CodeRange.contains, Bool.and_eq_true, decide_eq_true_eq, Int.ofNat_eq_natCast]
      omega
    exact .inr (List.all_eq_true.2 (List.forall_mem_singleton.2 (isWordChar_ofNat among moved)))
  | none =>
    cases listed : Text.upperExpansions.lookup c.toNat with
    | none => exact .inl rfl
    | some codes =>
      obtain ⟨before, after, split, -⟩ := List.lookup_eq_some_iff.1 listed
      have each := List.all_eq_true.1 expansions (c.toNat, codes) (by simp [split])
      change _ ∨ (codes.map Char.ofNat).all isWordChar = true
      refine .inr (List.all_eq_true.2 (List.forall_mem_map.2 fun n there => ?_))
      obtain ⟨w, among, within⟩ := List.any_eq_true.1 (List.all_eq_true.1 each n there)
      exact isWordChar_ofNat among within

/-- The upper case form of a character of names has only such characters. -/
theorem all_upperChar {c : Char} (word : isWordChar c = true) : (Text.upperChar c).all isWordChar = true := by
  rcases upperChar_cases c with same | all
  · rw [same]
    exact List.all_eq_true.2 (List.forall_mem_singleton.2 word)
  · exact all

/-- The name of an accessor is a word if the name of its member is. -/
theorem isWord_method (kind : AccessorKind) {name : String} (word : isWord name = true) :
    isWord (kind.method name) = true := by
  have verb : isWord kind.verb = true := by cases kind <;> decide
  refine isWord_append verb ?_
  obtain ⟨-, all⟩ := Bool.and_eq_true_iff.1 word
  unfold capitalized
  split
  · rfl
  · next c rest listed =>
    rw [listed, List.all_cons, Bool.and_eq_true] at all
    rw [String.toList_ofList, List.all_append, all_upperChar all.1, all.2]
    rfl

/-- A character that is not one of names stands in the name of an accessor only if it stands in the name of the
member. -/
theorem not_mem_method {c : Char} (other : isWordChar c = false) (kind : AccessorKind) {name : String}
    (absent : c ∉ name.toList) : c ∉ (kind.method name).toList := by
  have apart {cs : List Char} (all : cs.all isWordChar = true) : c ∉ cs := fun there =>
    Bool.false_ne_true (other.symm.trans (List.all_eq_true.1 all c there))
  have verb : kind.verb.toList.all isWordChar = true := by cases kind <;> decide
  rw [AccessorKind.method, String.toList_append, List.mem_append, not_or]
  refine ⟨apart verb, ?_⟩
  unfold capitalized
  split
  · exact nofun
  · next first rest listed =>
    rw [listed, List.mem_cons, not_or] at absent
    rw [String.toList_ofList, List.mem_append, not_or]
    refine ⟨?_, absent.2⟩
    rcases upperChar_cases first with same | all
    · rw [same, List.mem_singleton]
      exact absent.1
    · exact apart all

end ClassDiagram.Java
