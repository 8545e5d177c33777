import ClassDiagram.Document.Display
import ClassDiagram.Document.Json
import ClassDiagram.Proofs.Loading.Multiplicity
import ClassDiagram.Text.Case
import Mathlib.Data.List.TakeWhile

/-!
# Documents that JSON texts write

A JSON document is a tree of null, truth values, numbers, texts, lists and mappings with texts as keys
(`Document.isJson`).  That is all that reading a JSON text can give (`Json.isJson_of_read`); integers have few enough
digits to be written again, so each of these values has a text (`Document.IsJson.exists_display`).
-/

set_option autoImplicit false

namespace ClassDiagram

namespace Document

mutual

/-- Whether a value is one that a JSON text can write. -/
def isJson : Document → Bool
  | null => true
  | bool _ => true
  | int value => (integerText? value).isSome
  | float _ => true
  | text _ => true
  | list items => areJson items
  | map entries => entriesAreJson entries
  | _ => false

/-- Whether values are all such as JSON texts can write. -/
def areJson : List Document → Bool
  | [] => true
  | item :: rest => isJson item && areJson rest

/-- Whether the keys of entries are texts and the values are such as JSON texts can write. -/
def entriesAreJson : List (Document × Document) → Bool
  | [] => true
  | (key, value) :: rest => key.isText && isJson value && entriesAreJson rest

end

/-- A document that is a text is that of a word. -/
theorem exists_of_isText {d : Document} (isText : d.isText) : ∃ word, d = text word := by
  cases d with
  | text word => exact ⟨word, rfl⟩
  | _ => cases isText

/-- Items are JSON documents if each of them is. -/
theorem areJson_iff {items : List Document} : areJson items ↔ ∀ item ∈ items, item.isJson := by
  induction items with
  | nil => simp [areJson]
  | cons item rest ih => rw [areJson, Bool.and_eq_true, ih, List.forall_mem_cons]

/-- Entries are those of a JSON document if their keys are texts and their values are JSON documents. -/
theorem entriesAreJson_iff {entries : List (Document × Document)} :
    entriesAreJson entries ↔ ∀ entry ∈ entries, entry.1.isText ∧ entry.2.isJson := by
  induction entries with
  | nil => simp [entriesAreJson]
  | cons entry rest ih =>
    obtain ⟨key, value⟩ := entry
    rw [entriesAreJson, Bool.and_eq_true, Bool.and_eq_true, ih, List.forall_mem_cons]

/-- A field among the entries of a JSON document is a JSON document. -/
theorem isJson_of_fieldIn? {entries : List (Document × Document)} (json : entriesAreJson entries) {name : String}
    {value : Document} (found : fieldIn? name entries = some value) : value.isJson := by
  rw [entriesAreJson_iff] at json
  induction entries with
  | nil => cases found
  | cons entry rest ih =>
    rw [List.forall_mem_cons] at json
    obtain ⟨key, first⟩ := entry
    obtain ⟨word, rfl⟩ := exists_of_isText json.1.1
    unfold fieldIn? at found
    split at found
    · obtain rfl := Option.some.inj found
      exact json.1.2
    · exact ih json.2 found

/-! ## Every JSON document has a text -/

mutual

/-- A JSON document has a literal. -/
theorem exists_literalIn (around : List (Nat × String)) (d : Document) (json : d.isJson) :
    ∃ s, literalIn? around d = some s := by
  cases d with
  | null => exact ⟨_, rfl⟩
  | bool value => exact ⟨_, rfl⟩
  | int value => exact Option.isSome_iff_exists.1 json
  | float value => exact ⟨_, rfl⟩
  | text value => exact ⟨_, rfl⟩
  | list items =>
    obtain ⟨texts, written⟩ := exists_literalsIn around items (by simpa [isJson] using json)
    exact ⟨_, by rw [literalIn?, written]; rfl⟩
  | map entries =>
    obtain ⟨texts, written⟩ := exists_entryLiteralsIn around entries (by simpa [isJson] using json)
    exact ⟨_, by rw [literalIn?, written]; rfl⟩
  | _ => cases json

/-- Items that are JSON documents have literals. -/
theorem exists_literalsIn (around : List (Nat × String)) (items : List Document) (json : areJson items) :
    ∃ texts, literalsIn? around items = some texts := by
  cases items with
  | nil => exact ⟨_, rfl⟩
  | cons item rest =>
    rw [areJson, Bool.and_eq_true] at json
    obtain ⟨first, written⟩ := exists_literalIn around item json.1
    obtain ⟨others, written'⟩ := exists_literalsIn around rest json.2
    exact ⟨first :: others, by rw [literalsIn?, written, written']; rfl⟩

/-- The entries of a JSON document have literals. -/
theorem exists_entryLiteralsIn (around : List (Nat × String)) (entries : List (Document × Document))
    (json : entriesAreJson entries) : ∃ texts, entryLiteralsIn? around entries = some texts := by
  cases entries with
  | nil => exact ⟨_, rfl⟩
  | cons entry rest =>
    obtain ⟨key, value⟩ := entry
    rw [entriesAreJson, Bool.and_eq_true, Bool.and_eq_true] at json
    obtain ⟨first, written⟩ := exists_literalIn around value json.1.2
    obtain ⟨others, written'⟩ := exists_entryLiteralsIn around rest json.2
    obtain ⟨word, rfl⟩ := exists_of_isText json.1.1
    exact ⟨(Text.quoted word ++ ": " ++ first) :: others, by rw [entryLiteralsIn?, written, written']; rfl⟩

end

/-- A JSON document can be shown. -/
theorem exists_display {d : Document} (json : d.isJson) : ∃ s, d.display? = some s := by
  cases d with
  | text word => exact ⟨word, rfl⟩
  | date value => cases json
  | moment value => cases json
  | _ => exact exists_literalIn [] _ json

end Document

/-! ## What a text can write -/

namespace Json

open Decimal (Binary64)

variable {d : Dialect} {x : Document}

/-- A float that is admitted is a JSON document. -/
theorem isJson_of_admitFloat {y : Binary64} (read : admitFloat d y = .ok x) : x.isJson := by
  unfold admitFloat at read
  split at read
  · split at read
    · obtain rfl := Except.ok.inj read
      rfl
    · cases read
  · obtain rfl := Except.ok.inj read
    rfl

/-- An integer up to two to the sixty-fourth is a JSON document. -/
theorem isJson_of_small {n : Int} (small : n.natAbs ≤ Nat.pow 2 64) : (Document.int n).isJson := by
  have enough : Nat.pow 2 64 < leastUnwritten := by decide +kernel
  change (integerText? n).isSome
  rw [integerText?, if_pos (Nat.lt_of_le_of_lt small enough)]
  rfl

/-- An integer that is read where integers are bounded is a JSON document. -/
theorem isJson_of_integer (bounded : d.boundedIntegers = true) {negative : Bool} {digits : List Char}
    (read : integer d negative digits = .ok x) : x.isJson := by
  unfold integer at read
  split at read
  · extract_lets size n at read
    split at read
    · exact isJson_of_admitFloat read
    · next inside =>
      obtain rfl := Except.ok.inj read
      rw [bounded, Bool.true_and] at inside
      simp only [Bool.or_eq_true, decide_eq_true_eq, not_or, Int.not_lt, Int.not_le] at inside
      have least : Nat.pow 2 63 ≤ Nat.pow 2 64 := by decide
      exact isJson_of_small (by omega)
  · cases read

/-- A number that is read where integers are bounded is a JSON document. -/
theorem isJson_of_unsignedNumber (bounded : d.boundedIntegers = true) {negative : Bool} {cs rest : List Char}
    (read : unsignedNumber d negative cs = .ok (x, rest)) : x.isJson := by
  unfold unsignedNumber at read
  extract_lets run whole at read
  split at read
  · cases read
  · split at read
    · obtain ⟨value, number, same⟩ := bind_eq_ok.1 read
      obtain ⟨rfl, -⟩ := Prod.mk.inj (Except.ok.inj same)
      exact isJson_of_integer bounded number
    · obtain ⟨value, number, same⟩ := bind_eq_ok.1 read
      obtain ⟨rfl, -⟩ := Prod.mk.inj (Except.ok.inj same)
      exact isJson_of_admitFloat number

/-- A number that is read with its sign where integers are bounded is a JSON document. -/
theorem isJson_of_number (bounded : d.boundedIntegers = true) {cs rest : List Char}
    (read : number d cs = .ok (x, rest)) : x.isJson := by
  unfold number at read
  split at read
  · exact isJson_of_unsignedNumber bounded read
  · exact isJson_of_unsignedNumber bounded read

/-- What a word stands for is a JSON document. -/
theorem isJson_of_word? {cs rest : List Char} (read : word? d cs = some (x, rest)) : x.isJson := by
  have words : ∀ entry ∈ wordValues d, entry.2.isJson := by
    unfold wordValues
    split <;> simp [Document.isJson]
  obtain ⟨⟨word, value⟩, among, found⟩ := List.exists_of_findSome?_eq_some read
  obtain ⟨_, -, same⟩ := Option.map_eq_some_iff.1 found
  obtain ⟨rfl, -⟩ := Prod.mk.inj same
  exact words _ among

/-- Another entry with a text and a JSON document leaves the entries those of a JSON document. -/
theorem entriesAreJson_insertEntry {key value : Document} (word : key.isText) (json : value.isJson)
    {entries : List (Document × Document)} (rest : Document.entriesAreJson entries) :
    Document.entriesAreJson (Document.insertEntry key value entries) := by
  induction entries with
  | nil => simp [Document.insertEntry, Document.entriesAreJson, word, json]
  | cons entry others ih =>
    obtain ⟨k, v⟩ := entry
    simp only [Document.entriesAreJson, Bool.and_eq_true] at rest
    unfold Document.insertEntry
    split
    · simp [Document.entriesAreJson, rest, json]
    · simp [Document.entriesAreJson, rest, ih rest.2]

/-- The entries of a JSON document are still such when each key stands once. -/
theorem entriesAreJson_entriesOf {pairs : List (Document × Document)} (json : Document.entriesAreJson pairs) :
    Document.entriesAreJson (Document.entriesOf pairs) := by
  rw [Document.entriesAreJson_iff] at json
  have kept : ∀ entries, Document.entriesAreJson entries → Document.entriesAreJson
      (pairs.foldl (fun entries pair => Document.insertEntry pair.1 pair.2 entries) entries) := by
    induction pairs with
    | nil => exact fun _ known => known
    | cons pair rest ih =>
      intro entries known
      rw [List.forall_mem_cons] at json
      exact ih json.2 _ (entriesAreJson_insertEntry json.1.1 json.1.2 known)
  exact kept [] rfl

/-- Whether all values that are read with some fuel are JSON documents, where what was read before of the collection
around is one. -/
structure ReadsJson (d : Dialect) (fuel : Nat) : Prop where
  ofValue : ∀ {depth cs x rest}, value d depth fuel cs = .ok (x, rest) → x.isJson
  ofItems : ∀ {depth before cs x rest}, Document.areJson before →
    items d depth fuel before cs = .ok (x, rest) → x.isJson
  ofEntries : ∀ {depth before cs x rest}, Document.entriesAreJson before →
    entries d depth fuel before cs = .ok (x, rest) → x.isJson

section

variable {fuel depth : Nat} (inner : ReadsJson d fuel) {cs rest : List Char}
include inner

/-- A value that is read with one step more is a JSON document. -/
theorem ReadsJson.value_succ (bounded : d.boundedIntegers = true)
    (read : value d depth (fuel + 1) cs = .ok (x, rest)) : x.isJson := by
  unfold value at read
  split at read
  · obtain ⟨⟨s, _⟩, -, same⟩ := bind_eq_ok.1 read
    obtain ⟨rfl, -⟩ := Prod.mk.inj (Except.ok.inj same)
    rfl
  · obtain ⟨-, -, read⟩ := bind_eq_ok.1 read
    split at read
    · obtain ⟨rfl, -⟩ := Prod.mk.inj (Except.ok.inj read)
      rfl
    · exact inner.ofItems rfl read
  · obtain ⟨-, -, read⟩ := bind_eq_ok.1 read
    split at read
    · obtain ⟨rfl, -⟩ := Prod.mk.inj (Except.ok.inj read)
      rfl
    · exact inner.ofEntries rfl read
  · split at read
    · next found word =>
      obtain rfl := Except.ok.inj read
      exact isJson_of_word? word
    · exact isJson_of_number bounded read

/-- Items that are read with one step more are JSON documents. -/
theorem ReadsJson.items_succ {before : List Document} (known : Document.areJson before)
    (read : items d depth (fuel + 1) before cs = .ok (x, rest)) : x.isJson := by
  unfold items at read
  obtain ⟨⟨item, tail⟩, first, read⟩ := bind_eq_ok.1 read
  dsimp only at read
  have json := inner.ofValue first
  have more : Document.areJson (item :: before) := by simp [Document.areJson, json, known]
  split at read
  · exact inner.ofItems more read
  · obtain ⟨rfl, -⟩ := Prod.mk.inj (Except.ok.inj read)
    rw [Document.areJson_iff] at more
    exact Document.areJson_iff.2 fun i there => more i (List.mem_reverse.1 there)
  · cases read

/-- Entries that are read with one step more are those of a JSON document. -/
theorem ReadsJson.entries_succ {before : List (Document × Document)} (known : Document.entriesAreJson before)
    (read : entries d depth (fuel + 1) before cs = .ok (x, rest)) : x.isJson := by
  unfold entries at read
  split at read
  · obtain ⟨⟨key, tail⟩, -, read⟩ := bind_eq_ok.1 read
    dsimp only at read
    split at read
    · obtain ⟨⟨value, tail'⟩, first, read⟩ := bind_eq_ok.1 read
      dsimp only at read
      have json := inner.ofValue first
      have more : Document.entriesAreJson ((.text key, value) :: before) := by
        simp [Document.entriesAreJson, Document.isText, json, known]
      split at read
      · exact inner.ofEntries more read
      · obtain ⟨rfl, -⟩ := Prod.mk.inj (Except.ok.inj read)
        rw [Document.entriesAreJson_iff] at more
        exact entriesAreJson_entriesOf
          (Document.entriesAreJson_iff.2 fun e there => more e (List.mem_reverse.1 there))
      · cases read
    · cases read
  · cases read

end

/-- What is read in any number of steps is a JSON document. -/
theorem readsJson (bounded : d.boundedIntegers = true) (fuel : Nat) : ReadsJson d fuel := by
  induction fuel with
  | zero => exact ⟨nofun, fun _ => nofun, fun _ => nofun⟩
  | succ fuel ih => exact ⟨ih.value_succ bounded, ih.items_succ, ih.entries_succ⟩

/-- What a text of a model writes is a JSON document. -/
theorem isJson_of_read (bounded : d.boundedIntegers = true) {s : String} (found : read d s = .ok x) : x.isJson := by
  unfold read at found
  obtain ⟨⟨value, rest⟩, whole, last⟩ := bind_eq_ok.1 found
  dsimp only at last
  split at last
  · obtain rfl := Except.ok.inj last
    exact (readsJson bounded _).ofValue whole
  · cases last

end Json

/-! ## Numbers as text -/

namespace Decimal

/-- The significant digits of a number are digits. -/
theorem isDigit_of_mem_significantDigits {d : Scientific} {c : Char} (there : c ∈ significantDigits d) : c.isDigit := by
  unfold significantDigits at there
  rw [List.mem_reverse] at there
  have whole := List.mem_reverse.1 ((List.dropWhile_sublist _).subset there)
  exact Nat.isDigit_of_mem_toDigits (by decide) (by decide) whole

/-- There is no dot among digits. -/
theorem count_dot_eq_zero {cs : List Char} (digits : ∀ c ∈ cs, c.isDigit) : cs.count '.' = 0 :=
  List.count_eq_zero.2 fun there => absurd (digits '.' there) (by decide)

/-- A decimal is written with one point, or with an exponent and its sign. -/
theorem write_cases (style : DecimalStyle) (d : Scientific) :
    (style.write d).count '.' = 1 ∨ 'e' ∈ style.write d ∧ ('-' ∈ style.write d ∨ '+' ∈ style.write d) := by
  have none := count_dot_eq_zero fun _ there => isDigit_of_mem_significantDigits (d := d) there
  have taken (n : Nat) : ((significantDigits d).take n).count '.' = 0 :=
    List.count_eq_zero.2 fun there => List.count_eq_zero.1 none (List.mem_of_mem_take there)
  have dropped (n : Nat) : ((significantDigits d).drop n).count '.' = 0 :=
    List.count_eq_zero.2 fun there => List.count_eq_zero.1 none (List.mem_of_mem_drop there)
  have zeros (n : Nat) : (List.replicate n '0').count '.' = 0 :=
    List.count_eq_zero.2 fun there => absurd (List.eq_of_mem_replicate there) (by decide)
  unfold DecimalStyle.write
  dsimp only
  split
  · left
    split
    · simp [none, zeros]
    · split
      · simp [taken, zeros]
      · simp [taken, dropped, zeros]
  · right
    constructor
    · simp
    · by_cases below : (Binary64.digitCount d.digits : Int) + d.power - 1 < 0
      · left
        rw [if_pos below]
        simp
      · right
        rw [if_neg below]
        simp

/-- The text of a float is a word, has one dot, or has an exponent with a sign. -/
theorem text_cases (style : DecimalStyle) (x : Binary64) :
    style.text x ∈ [['n', 'a', 'n'], ['i', 'n', 'f'], ['-', 'i', 'n', 'f']] ∨ (style.text x).count '.' = 1 ∨
      'e' ∈ style.text x ∧ ('-' ∈ style.text x ∨ '+' ∈ style.text x) := by
  cases x with
  | notANumber => exact .inl (by simp [DecimalStyle.text])
  | infinite negative => cases negative <;> exact .inl (by simp [DecimalStyle.text])
  | finite negative mantissa exponent =>
    right
    have sign : (if negative then ['-'] else [] : List Char).count '.' = 0 := by cases negative <;> rfl
    rw [DecimalStyle.text]
    by_cases nothing : mantissa = 0
    · left
      rw [if_pos nothing, List.count_append, sign]
      rfl
    · rw [if_neg nothing, List.count_append, sign, Nat.zero_add]
      refine (write_cases style (shortest mantissa exponent)).imp_right ?_
      rintro ⟨letter, signed⟩
      exact ⟨List.mem_append_right _ letter, signed.imp (List.mem_append_right _) (List.mem_append_right _)⟩

end Decimal

/-! ## Values that are no texts -/

/-- Characters that are the same in lower case, and in no word of the format. -/
def steadyChars : List Char :=
  ['0', '1', '2', '3', '4', '5', '6', '7', '8', '9', '-', '+', '.', '[', '\x7b']

/-- Digits are steady. -/
theorem mem_steadyChars_of_isDigit {c : Char} (digit : c.isDigit) : c ∈ steadyChars := by
  have all : ∀ n < 58, 48 ≤ n → Char.ofNat n ∈ steadyChars := by decide
  obtain ⟨least, most⟩ := Char.isDigit_iff_toNat.1 digit
  rw [← Char.ofNat_toNat c]
  exact all c.toNat (Nat.lt_succ_of_le most) least

/-- The text of a natural number has a steady character. -/
theorem exists_steady_of_nat (n : Nat) : ∃ c ∈ (Nat.repr n).toList, c ∈ steadyChars := by
  obtain ⟨c, rest, digits⟩ := List.exists_cons_of_ne_nil (Nat.toDigits_ne_nil (n := n) (b := 10))
  have there : c ∈ Nat.toDigits 10 n := digits ▸ List.mem_cons_self
  refine ⟨c, ?_, mem_steadyChars_of_isDigit (Nat.isDigit_of_mem_toDigits (by decide) (by decide) there)⟩
  rwa [Nat.repr, String.toList_ofList]

/-- The text of an integer has a steady character. -/
theorem exists_steady_of_int (n : Int) : ∃ c ∈ (toString n).toList, c ∈ steadyChars := by
  cases n with
  | ofNat n => exact exists_steady_of_nat n
  | negSucc n =>
    obtain ⟨c, there, steady⟩ := exists_steady_of_nat (n + 1)
    refine ⟨c, ?_, steady⟩
    change c ∈ ("-" ++ Nat.repr (n + 1)).toList
    rw [String.toList_append]
    exact List.mem_append_right _ there

namespace Document

/-- A value that is neither null nor a text is shown as one of a few words, or with a character that is in no word. -/
theorem display_cases {d : Document} (json : d.isJson) (given : d ≠ null) (other : d.isText = false) {s : String}
    (shown : d.display? = some s) :
    s ∈ ["True", "False", "nan", "inf"] ∨ ∃ c ∈ s.toList, c ∈ steadyChars := by
  cases d with
  | null => exact absurd rfl given
  | bool value =>
    obtain rfl := Option.some.inj shown
    cases value <;> simp
  | int value =>
    change integerText? value = some s at shown
    rw [integerText?] at shown
    obtain ⟨-, same⟩ := Option.ite_none_right_eq_some.1 shown
    obtain rfl := Option.some.inj same
    exact .inr (exists_steady_of_int value)
  | float value =>
    obtain rfl := Option.some.inj shown
    rw [String.toList_ofList]
    rcases Decimal.text_cases floatStyle value with words | point | ⟨-, sign⟩
    · simp only [List.mem_cons, List.not_mem_nil, or_false] at words
      rcases words with same | same | same
      · rw [same]
        exact .inl (by decide)
      · rw [same]
        exact .inl (by decide)
      · rw [same]
        exact .inr ⟨'-', List.mem_cons_self, by decide⟩
    · have there : '.' ∈ floatStyle.text value := List.count_pos_iff.1 (by rw [point]; exact Nat.one_pos)
      exact .inr ⟨'.', there, by decide⟩
    · rcases sign with minus | plus
      · exact .inr ⟨'-', minus, by decide⟩
      · exact .inr ⟨'+', plus, by decide⟩
  | text word => cases other
  | list items =>
    obtain ⟨texts, -, rfl⟩ := Option.map_eq_some_iff.1 shown
    exact .inr ⟨'[', by simp [String.toList_append], by decide⟩
  | map entries =>
    obtain ⟨texts, -, rfl⟩ := Option.map_eq_some_iff.1 shown
    exact .inr ⟨'\x7b', by simp [String.toList_append], by decide⟩
  | _ => cases json

/-- A steady character is still there in lower case. -/
theorem mem_lowerCharsAfter {c : Char} (steady : c ∈ steadyChars) {cs : List Char} (there : c ∈ cs)
    (before : List Char) : c ∈ Text.lowerCharsAfter before cs := by
  have all : (steadyChars.all fun c => Text.lowerChar c == [c] && c != 'Σ') = true := by decide +kernel
  have kept : Text.lowerChar c = [c] ∧ c ≠ 'Σ' := by simpa using List.all_eq_true.1 all c steady
  induction cs generalizing before with
  | nil => cases there
  | cons first rest ih =>
    rw [Text.lowerCharsAfter, List.mem_append]
    rcases List.mem_cons.1 there with rfl | later
    · left
      simp [kept]
    · exact .inr (ih later (first :: before))

/-- The words that show truth values and what is no finite number, in lower case. -/
def valueWords : List String := ["true", "false", "nan", "inf"]

/-- Whether a word has no digit or sign in it, and is none of those that show values. -/
def isPlainWord (word : String) : Bool :=
  (word.toList.all fun c => !steadyChars.contains c) && !valueWords.contains word

/-- What is shown of a value that is neither null nor a text is none of the words of the format. -/
theorem lower_display_ne {d : Document} (json : d.isJson) (given : d ≠ null) (other : d.isText = false) {s : String}
    (shown : d.display? = some s) {word : String} (plain : isPlainWord word) : Text.lower s ≠ word := by
  rintro rfl
  simp only [isPlainWord, Bool.and_eq_true, List.all_eq_true, Bool.not_eq_true', List.contains_eq_mem,
    decide_eq_false_iff_not] at plain
  obtain ⟨letters, unlike⟩ := plain
  rcases display_cases json given other shown with named | ⟨c, there, steady⟩
  · have words : ∀ s ∈ ["True", "False", "nan", "inf"], Text.lower s ∈ valueWords := by
      decide +kernel
    exact unlike (words s named)
  · refine letters c ?_ steady
    rw [Text.lower, String.toList_ofList]
    exact mem_lowerCharsAfter steady there []

/-- What is shown of a value that is neither a text nor an integer holds no bounds. -/
theorem not_writesBounds {d : Document} (json : d.isJson) (other : d.isText = false) (noInt : ∀ n, d ≠ int n)
    {s : String} (shown : d.display? = some s) {b : BoundText} {b' : Option BoundText} :
    ¬ WritesBounds s.toList b b' := by
  intro bounds
  have only := bounds.isBoundChar
  have foreign {c : Char} (there : c ∈ s.toList) (kind : Text.isBlank c = false ∧ Text.isDecimalDigit c = false)
      (star : c ≠ '*') (dot : c ≠ '.') : False := by
    rcases only c there with blank | digit | same | same
    · rw [kind.1] at blank
      cases blank
    · rw [kind.2] at digit
      cases digit
    · exact star same
    · exact dot same
  cases d with
  | null =>
    obtain rfl := Option.some.inj shown
    exact foreign (c := 'N') (by decide) (by decide) (by decide) (by decide)
  | bool value =>
    obtain rfl := Option.some.inj shown
    have there : 'e' ∈ (if value then "True" else "False" : String).toList := by cases value <;> decide
    exact foreign there (by decide) (by decide) (by decide)
  | int value => exact noInt value rfl
  | float value =>
    obtain rfl := Option.some.inj shown
    rw [String.toList_ofList] at bounds foreign
    rcases Decimal.text_cases floatStyle value with words | point | ⟨letter, -⟩
    · have there : 'n' ∈ floatStyle.text value := by
        simp only [List.mem_cons, List.not_mem_nil, or_false] at words
        rcases words with same | same | same <;> simp [same]
      exact foreign there (by decide) (by decide) (by decide)
    · exact bounds.count_dot point
    · exact foreign letter (by decide) (by decide) (by decide)
  | text word => cases other
  | list items =>
    obtain ⟨texts, -, rfl⟩ := Option.map_eq_some_iff.1 shown
    exact foreign (c := '[') (by simp [String.toList_append]) (by decide) (by decide) (by decide)
  | map entries =>
    obtain ⟨texts, -, rfl⟩ := Option.map_eq_some_iff.1 shown
    exact foreign (c := '\x7b') (by simp [String.toList_append]) (by decide) (by decide) (by decide)
  | _ => cases json

end Document

end ClassDiagram
