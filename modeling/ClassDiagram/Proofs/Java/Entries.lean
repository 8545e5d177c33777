import ClassDiagram.Proofs.Java.Comments
import ClassDiagram.Proofs.Java.Lines

/-!
# Code that is read back

The lines of a text are read back by their indentation and their braces: a line that ends with a brace opens a block, and
a brace alone under the header closes the innermost one (`readFrom`).  What is read of the lines of some code is the code
again, line by line and block by block (`readFrom_codeLines`), if no line of it looks like the beginning or the end of a
block (`AreReadable`).
-/

set_option autoImplicit false

namespace ClassDiagram.Java

/-! ## Entries -/

/-- What a text has between its braces: lines, and blocks under their headers. -/
inductive Entry where
  | line (text : String)
  | block (header : String) (body : List Entry)
  deriving Repr

/-- The entries of lines; empty lines are none. -/
def lineEntries (texts : List String) : List Entry := (full texts).map .line

mutual

/-- The entries of a piece of code. -/
def Code.entries : Code → List Entry
  | .line text => lineEntries [text]
  | .blank => []
  | .block header body => [.block header (codeEntries body)]
  | .comment description tags =>
    match descriptionLines description with
    | .ok lines => lineEntries (commentLines (commentBody lines tags))
    | .error _ => []
  | .fragment content =>
    match contentLines content with
    | .ok lines => lineEntries lines
    | .error _ => []
  | .unwritable _ => []

/-- The entries of pieces of code. -/
def codeEntries : List Code → List Entry
  | [] => []
  | code :: rest => code.entries ++ codeEntries rest

end

/-- The entries of pieces of code are those of each of them, in order. -/
theorem codeEntries_eq (codes : List Code) : codeEntries codes = codes.flatMap Code.entries := by
  induction codes with
  | nil => rfl
  | cons code rest ih => rw [codeEntries, ih, List.flatMap_cons]

/-! ## Reading -/

/-- The blocks that are open: the header of each and the entries before it, the innermost first. -/
abbrev OpenBlocks := List (String × List Entry)

/-- A line without the indentation of a number of blocks, if it has that. -/
def unindented? (margin : String) (depth : Nat) (line : String) : Option String :=
  let front := (repeated margin depth).toList
  if front <+: line.toList then some (String.ofList (line.toList.drop front.length)) else none

/-- The header of the block that a line opens, if it opens one. -/
def openedHeader? (text : String) : Option String :=
  match text.toList.reverse with
  | '\x7b' :: ' ' :: header => some (String.ofList header.reverse)
  | _ => none

/-- The block that a line closes, with the entries before it and the blocks around it. -/
def closedBlock? (margin line : String) : OpenBlocks → Option (String × List Entry × OpenBlocks)
  | [] => none
  | (header, before) :: around =>
    if line = repeated margin around.length ++ "\x7d" then some (header, before, around) else none

/-- The entries in lines, given the blocks that are open and the entries so far in the innermost one.  There are none
where a line has too little indentation or a block is left open. -/
def readFrom (margin : String) (blocks : OpenBlocks) (entries : List Entry) : List String → Option (List Entry)
  | [] => if blocks.isEmpty then some entries else none
  | line :: rest =>
    match closedBlock? margin line blocks with
    | some (header, before, around) => readFrom margin around (before ++ [.block header entries]) rest
    | none =>
      match unindented? margin blocks.length line with
      | none => none
      | some text =>
        match openedHeader? text with
        | some header => readFrom margin ((header, entries) :: blocks) [] rest
        | none => readFrom margin blocks (entries ++ [.line text]) rest

/-- The entries in the lines of a text; empty lines do not count. -/
def readEntries (margin : String) (lines : List String) : Option (List Entry) := readFrom margin [] [] (full lines)

/-! ## Lines that are read -/

/-- Whether a line is neither the beginning nor the end of a block. -/
def IsReadable (text : String) : Prop := WrittenLines.opensBlock text = false ∧ text ≠ "\x7d"

/-- Whether a character is no brace. -/
def IsNoBrace (c : Char) : Prop := c ≠ '\x7b' ∧ c ≠ '\x7d'

instance (c : Char) : Decidable (IsNoBrace c) := inferInstanceAs (Decidable (c ≠ '\x7b' ∧ c ≠ '\x7d'))

/-- A line that ends with another character than a brace is no part of a block. -/
theorem isReadable_of_last {text : String} {c : Char} (last : text.toList.getLast? = some c) (other : IsNoBrace c) :
    IsReadable text := by
  constructor
  · rw [WrittenLines.opensBlock, last, beq_eq_false_iff_ne]
    exact fun same => other.1 (Option.some.inj same)
  · rintro rfl
    exact other.2 (Option.some.inj last).symm

/-- A line without braces is no part of a block. -/
theorem isReadable_of_braceless {text : String} (none : ∀ c ∈ text.toList, IsNoBrace c) : IsReadable text := by
  constructor
  · rw [WrittenLines.opensBlock, beq_eq_false_iff_ne]
    intro ends
    exact (none _ (List.mem_of_getLast? ends)).1 rfl
  · rintro rfl
    exact (none '\x7d' (by simp)).2 rfl

/-- A line with a brace behind a header opens a block with this header. -/
theorem openedHeader?_brace (header : String) : openedHeader? (header ++ " \x7b") = some header := by
  simp [openedHeader?]

/-- A line that is no part of a block opens none. -/
theorem IsReadable.openedHeader? {text : String} (readable : IsReadable text) : openedHeader? text = none := by
  unfold Java.openedHeader?
  split
  · next header ends =>
    have last : text.toList.getLast? = some '\x7b' := by rw [List.getLast?_eq_head?_reverse, ends]; rfl
    have opens := readable.1
    rw [WrittenLines.opensBlock, last] at opens
    cases opens
  · rfl

/-- An indented line is read without its margin. -/
theorem unindented?_append (margin : String) (depth : Nat) (text : String) :
    unindented? margin depth (repeated margin depth ++ text) = some text := by
  simp [unindented?]

/-- One depth more is one margin more at the end. -/
theorem repeated_succ (margin : String) (depth : Nat) : repeated margin (depth + 1) = repeated margin depth ++ margin := by
  induction depth with
  | zero => simp [repeated]
  | succ depth ih =>
    rw [repeated, ih, ← String.append_assoc, ← repeated, ih]

/-- A line inside a block is not the end of the block, unless it is a brace alone. -/
theorem closedBlock?_inside {text : String} (some : text.isEmpty = false) (other : text ≠ "\x7d") (margin : String)
    (blocks : OpenBlocks) : closedBlock? margin (repeated margin blocks.length ++ text) blocks = none := by
  unfold closedBlock?
  split
  · rfl
  · next header before around =>
    refine if_neg fun same => ?_
    rw [List.length_cons, repeated_succ, String.append_assoc, String.append_right_inj] at same
    have chars := congrArg String.toList same
    rw [String.toList_append] at chars
    rcases List.append_eq_singleton_iff.1 chars with ⟨-, brace⟩ | ⟨-, none⟩
    · exact other (String.toList_inj.1 brace)
    · rw [String.toList_eq_nil_iff.1 none] at some
      cases some

section

variable {margin text header : String} {blocks : OpenBlocks} {entries : List Entry} {rest : List String}

/-- A line is read as an entry of the innermost block. -/
theorem readFrom_line (some : text.isEmpty = false) (readable : IsReadable text) :
    readFrom margin blocks entries ((repeated margin blocks.length ++ text) :: rest) =
      readFrom margin blocks (entries ++ [.line text]) rest := by
  rw [readFrom, closedBlock?_inside some readable.2, unindented?_append]
  dsimp only
  rw [readable.openedHeader?]

/-- Lines that are no parts of blocks are read as entries of the block around them. -/
theorem readFrom_lines {texts : List String} (readable : ∀ text ∈ texts, IsReadable text) :
    readFrom margin blocks entries (inside margin blocks.length texts ++ rest) =
      readFrom margin blocks (entries ++ lineEntries texts) rest := by
  induction texts generalizing entries with
  | nil => simp [lineEntries]
  | cons text others ih =>
    rw [List.forall_mem_cons] at readable
    have later (entries : List Entry) : readFrom margin blocks entries (inside margin blocks.length others ++ rest) =
        readFrom margin blocks (entries ++ lineEntries others) rest := ih readable.2
    rw [inside_cons, List.append_assoc]
    cases empty : text.isEmpty with
    | true =>
      have none : full [text] = [] := by simp [full, empty]
      have same : lineEntries (text :: others) = lineEntries others := by simp [lineEntries, full, empty]
      rw [same, ← later, inside, none]
      rfl
    | false =>
      have alone : full [text] = [text] := full_eq_self (List.forall_mem_singleton.2 empty)
      have same : lineEntries (text :: others) = [.line text] ++ lineEntries others := by simp [lineEntries, full, empty]
      calc readFrom margin blocks entries (inside margin blocks.length [text] ++ (inside margin blocks.length others ++ rest))
          = readFrom margin blocks (entries ++ [.line text]) (inside margin blocks.length others ++ rest) := by
            rw [inside, alone]
            exact readFrom_line empty readable.1
        _ = readFrom margin blocks (entries ++ [.line text] ++ lineEntries others) rest := later _
        _ = readFrom margin blocks (entries ++ lineEntries (text :: others)) rest := by rw [same, List.append_assoc]

/-- The header of a block opens it. -/
theorem readFrom_header : readFrom margin blocks entries (inside margin blocks.length [header ++ " \x7b"] ++ rest) =
    readFrom margin ((header, entries) :: blocks) [] rest := by
  have some : (header ++ " \x7b").isEmpty = false := isEmpty_header header
  have other : header ++ " \x7b" ≠ "\x7d" := by
    intro same
    have ends := congrArg (·.toList.getLast?) same
    simp at ends
  have alone : full [header ++ " \x7b"] = [header ++ " \x7b"] := full_eq_self (List.forall_mem_singleton.2 some)
  rw [inside, alone, List.map_singleton, List.singleton_append, readFrom, closedBlock?_inside some other,
    unindented?_append]
  dsimp only
  rw [openedHeader?_brace]

/-- A brace under its header closes a block. -/
theorem readFrom_brace {body : List Entry} :
    readFrom margin ((header, entries) :: blocks) body (inside margin blocks.length ["\x7d"] ++ rest) =
      readFrom margin blocks (entries ++ [.block header body]) rest := by
  have closes : closedBlock? margin (repeated margin blocks.length ++ "\x7d") ((header, entries) :: blocks) =
      some (header, entries, blocks) := if_pos rfl
  have alone : full ["\x7d"] = ["\x7d"] := rfl
  rw [inside, alone, List.map_singleton, List.singleton_append, readFrom, closes]

end

/-! ## Code that is read -/

mutual

/-- Whether no line of a piece of code looks like the beginning or the end of a block. -/
def Code.IsReadable : Code → Prop
  | .line text => Java.IsReadable text
  | .blank => True
  | .block _ body => AreReadable body
  | .comment description tags =>
    ∀ lines, descriptionLines description = .ok lines → ∀ l ∈ commentLines (commentBody lines tags), Java.IsReadable l
  | .fragment content => ∀ lines, contentLines content = .ok lines → ∀ l ∈ lines, Java.IsReadable l
  | .unwritable _ => True

/-- Whether this holds of pieces of code. -/
def AreReadable : List Code → Prop
  | [] => True
  | code :: rest => code.IsReadable ∧ AreReadable rest

end

/-- Pieces of code can be read if each of them can. -/
theorem areReadable_iff {codes : List Code} : AreReadable codes ↔ ∀ code ∈ codes, code.IsReadable := by
  induction codes with
  | nil => simp [AreReadable]
  | cons code rest ih => rw [AreReadable, ih, List.forall_mem_cons]

mutual

/-- The lines of a piece of code are read as its entries. -/
theorem readFrom_code {margin : String} {blocks : OpenBlocks} {entries : List Entry} {rest : List String} :
    (code : Code) → code.IsReadable →
      readFrom margin blocks entries (code.fullLines margin blocks.length ++ rest) =
        readFrom margin blocks (entries ++ code.entries) rest
  | .line text, readable => by
    rw [Code.fullLines, Code.entries]
    exact readFrom_lines (List.forall_mem_singleton.2 readable)
  | .blank, _ => by simp [Code.fullLines, Code.entries]
  | .block header body, readable => by
    have within : readFrom margin ((header, entries) :: blocks) []
        (codeLines margin (blocks.length + 1) body ++ (inside margin blocks.length ["\x7d"] ++ rest)) =
          readFrom margin ((header, entries) :: blocks) (codeEntries body) (inside margin blocks.length ["\x7d"] ++ rest) :=
      readFrom_codeLines body readable
    rw [Code.fullLines, Code.entries, List.append_assoc, List.append_assoc, readFrom_header, within, readFrom_brace]
  | .comment description tags, readable => by
    rw [Code.fullLines, Code.entries]
    cases formed : descriptionLines description with
    | error e => simp
    | ok lines => exact readFrom_lines (readable lines formed)
  | .fragment content, readable => by
    rw [Code.fullLines, Code.entries]
    cases formed : contentLines content with
    | error e => simp
    | ok lines => exact readFrom_lines (readable lines formed)
  | .unwritable error, _ => by simp [Code.fullLines, Code.entries]

/-- The lines of code that can be read are read as its entries. -/
theorem readFrom_codeLines {margin : String} {blocks : OpenBlocks} {entries : List Entry} {rest : List String} :
    (codes : List Code) → AreReadable codes →
      readFrom margin blocks entries (codeLines margin blocks.length codes ++ rest) =
        readFrom margin blocks (entries ++ codeEntries codes) rest
  | [], _ => by simp [codeLines, codeEntries]
  | code :: others, readable => by
    rw [codeLines, codeEntries, List.append_assoc, readFrom_code code readable.1, readFrom_codeLines others readable.2,
      List.append_assoc]

end

/-- Lines outside all blocks and the lines of code are read as entries, one after another. -/
theorem readEntries_eq {margin : String} {lines texts : List String} {codes : List Code}
    (same : full lines = full texts ++ codeLines margin 0 codes) (outside : ∀ text ∈ texts, IsReadable text)
    (readable : AreReadable codes) : readEntries margin lines = some (lineEntries texts ++ codeEntries codes) := by
  have front : readFrom margin [] [] (inside margin 0 texts ++ codeLines margin 0 codes) =
      readFrom margin [] (lineEntries texts) (codeLines margin 0 codes) := readFrom_lines outside
  have code : readFrom margin [] (lineEntries texts) (codeLines margin 0 codes ++ []) =
      readFrom margin [] (lineEntries texts ++ codeEntries codes) [] := readFrom_codeLines codes readable
  rw [inside_zero] at front
  rw [List.append_nil] at code
  rw [readEntries, same, front, code]
  rfl

/-! ## Code that is generated -/

/-- A line that ends with a semicolon is no part of a block. -/
theorem isReadable_statement (front : String) {last : String} (ends : last.toList.getLast? = some ';') :
    IsReadable (front ++ last) := by
  refine isReadable_of_last (c := ';') ?_ ⟨by decide, by decide⟩
  rw [String.toList_append, List.getLast?_append, ends]
  rfl

mutual

/-- The code of a statement can be read. -/
theorem isReadable_statementCode (field : String) : (s : Statement) → (s.code field).IsReadable
  | .leave => ⟨by decide, by decide⟩
  | .returnField => isReadable_statement _ rfl
  | .returnView => isReadable_statement _ rfl
  | .returnSize => isReadable_statement _ rfl
  | .keepOld _ => isReadable_statement _ rfl
  | .assign _ => isReadable_statement _ rfl
  | .add => isReadable_statement _ rfl
  | .remove => isReadable_statement _ rfl
  | .call _ _ => isReadable_statement _ rfl
  | .when _ body => areReadable_statementCodes field body

/-- The code of statements can be read. -/
theorem areReadable_statementCodes (field : String) : (body : List Statement) → AreReadable (statementCodes field body)
  | [] => trivial
  | s :: rest => ⟨isReadable_statementCode field s, areReadable_statementCodes field rest⟩

end

/-- Code in a row can be read if all of it can. -/
theorem areReadable_append {first second : List Code} :
    AreReadable (first ++ second) ↔ AreReadable first ∧ AreReadable second := by
  simp only [areReadable_iff, List.forall_mem_append]

/-- Code in a row has the entries of the first and then those of the second. -/
theorem codeEntries_append (first second : List Code) :
    codeEntries (first ++ second) = codeEntries first ++ codeEntries second := by
  simp only [codeEntries_eq, List.flatMap_append]

/-! ## What is written by hand -/

/-- Whether there are no braces in a value, if it is a text. -/
def IsBraceless (d : Document) : Prop := ∀ text, d = .text text → ∀ c ∈ text.toList, IsNoBrace c

instance (d : Document) : Decidable (IsBraceless d) :=
  match d with
  | .text text => decidable_of_iff (text.toList.all fun c => decide (IsNoBrace c))
      ⟨fun all _ same c there => of_decide_eq_true (List.all_eq_true.1 all c (Document.text.inj same ▸ there)),
        fun each => List.all_eq_true.2 fun c there => decide_eq_true (each text rfl c there)⟩
  | .null | .bool _ | .int _ | .float _ | .bytes _ | .date _ | .moment _ | .pair _ _ | .list _ | .set _ | .map _
  | .knot _ _ | .again _ =>
    isTrue nofun

/-- Nothing is in a trimmed text that is not in the text. -/
theorem mem_of_mem_trimRightBy {p : Char → Bool} {cs : List Char} {c : Char} (there : c ∈ Text.trimRightBy p cs) :
    c ∈ cs :=
  List.mem_reverse.1 ((List.dropWhile_sublist p).mem (List.mem_reverse.1 there))

/-- Nothing is in a text trimmed on both sides that is not in the text. -/
theorem mem_of_mem_trimBy {p : Char → Bool} {cs : List Char} {c : Char} (there : c ∈ Text.trimBy p cs) : c ∈ cs :=
  (List.dropWhile_sublist p).mem (mem_of_mem_trimRightBy there)

/-- The lines of a text have no other characters than the text. -/
theorem mem_of_mem_linesFrom {line cs l : List Char} {c : Char} (there : l ∈ Text.linesFrom line cs) (inside : c ∈ l) :
    c ∈ line ∨ c ∈ cs := by
  fun_induction Text.linesFrom line cs with
  | case1 line empty => cases there
  | case2 line some =>
    obtain rfl := List.mem_singleton.1 there
    exact .inl (List.mem_reverse.1 inside)
  | case3 line rest ih =>
    rcases List.mem_cons.1 there with rfl | there
    · exact .inl (List.mem_reverse.1 inside)
    · rcases ih there with none | later
      · cases none
      · exact .inr (.tail _ (.tail _ later))
  | case4 line c' rest _ boundary ih =>
    rcases List.mem_cons.1 there with rfl | there
    · exact .inl (List.mem_reverse.1 inside)
    · rcases ih there with none | later
      · cases none
      · exact .inr (.tail _ later)
  | case5 line c' rest _ _ ih =>
    rcases ih there with before | later
    · rcases List.mem_cons.1 before with rfl | before
      · exact .inr (.head _)
      · exact .inl before
    · exact .inr (.tail _ later)

/-- Nothing is in the parts of a text that is not in the text. -/
theorem mem_of_mem_splitAtFeeds {cs part : List Char} {c : Char} (there : part ∈ Text.splitAtFeeds cs)
    (inside : c ∈ part) : c ∈ cs := by
  fun_induction Text.splitAtFeeds cs generalizing part with
  | case1 =>
    obtain rfl := List.mem_singleton.1 there
    cases inside
  | case2 rest ih =>
    rcases List.mem_cons.1 there with rfl | there
    · cases inside
    · exact .tail _ (ih there inside)
  | case3 c' rest _ none ih =>
    obtain rfl := List.mem_singleton.1 there
    exact List.mem_singleton.1 inside ▸ .head _
  | case4 c' rest _ part' parts some ih =>
    rw [some] at ih
    rcases List.mem_cons.1 there with rfl | there
    · rcases List.mem_cons.1 inside with rfl | inside
      · exact .head _
      · exact .tail _ (ih (.head _) inside)
    · exact .tail _ (ih (.tail _ there) inside)

/-- In lines that are joined is nothing but line feeds and what is in the lines. -/
theorem mem_of_mem_joinWithFeeds {lines : List (List Char)} {c : Char} (there : c ∈ Text.joinWithFeeds lines) :
    c = '\n' ∨ ∃ l ∈ lines, c ∈ l := by
  unfold Text.joinWithFeeds at there
  induction lines with
  | nil => cases there
  | cons l rest ih =>
    cases rest with
    | nil =>
      rw [List.intercalate_singleton] at there
      exact .inr ⟨l, .head _, there⟩
    | cons l' rest =>
      rw [List.intercalate_cons_of_ne_nil (by simp), List.mem_append, List.mem_append, List.mem_singleton] at there
      rcases there with (first | feed) | later
      · exact .inr ⟨l, .head _, first⟩
      · exact .inl feed
      · exact (ih later).imp id fun ⟨l', among, inside⟩ => ⟨l', .tail _ among, inside⟩

/-- A text without its margin has no other characters than line feeds and those of the text. -/
theorem mem_of_mem_dedent {cs : List Char} {c : Char} (there : c ∈ Text.dedent cs) : c = '\n' ∨ c ∈ cs := by
  rcases mem_of_mem_joinWithFeeds there with feed | ⟨l, among, inside⟩
  · exact .inl feed
  · obtain ⟨line, own, rfl⟩ := List.mem_map.1 among
    split at inside
    · cases inside
    · exact .inr (mem_of_mem_splitAtFeeds own (List.mem_of_mem_drop inside))

/-- The lines of a content without braces are no parts of blocks. -/
theorem isReadable_fragment {content : Document} (braceless : IsBraceless content) :
    (Code.fragment content).IsReadable := by
  intro lines formed l there
  cases content with
  | text text =>
    obtain rfl : fragmentLines text.toList = lines := Except.ok.inj formed
    obtain ⟨line, among, rfl⟩ := List.mem_map.1 there
    refine isReadable_of_braceless fun c inside => ?_
    rw [String.toList_ofList] at inside
    rcases mem_of_mem_linesFrom among (mem_of_mem_trimRightBy inside) with none | own
    · cases none
    · rcases mem_of_mem_dedent own with rfl | own
      · exact ⟨by decide, by decide⟩
      · exact braceless text rfl c (mem_of_mem_trimBy own)
  | _ => cases formed

/-- A line of a comment is no part of a block if its entry ends so or has no braces. -/
theorem isReadable_entry {entry : String} (braceless : ∀ c ∈ entry.toList, IsNoBrace c) :
    IsReadable (Text.trimRight (" * " ++ entry)) := by
  refine isReadable_of_braceless fun c inside => ?_
  rw [Text.trimRight, String.toList_ofList] at inside
  have among := mem_of_mem_trimRightBy inside
  rw [String.toList_append, List.mem_append] at among
  rcases among with sign | own
  · have signs : ∀ c ∈ " * ".toList, IsNoBrace c := by simp [IsNoBrace]
    exact signs c sign
  · exact braceless c own

/-- Octets in a comment end with a quote. -/
theorem isReadable_octets (octets : List Nat) : IsReadable (Text.trimRight (" * " ++ octetsText octets)) := by
  obtain ⟨quote, front, same, isQuote⟩ : ∃ quote front, (" * " ++ octetsText octets).toList = front ++ [quote] ∧
      (quote = Text.singleQuote ∨ quote = Text.doubleQuote) := by
    let quote := Text.quoteFor (octets.map Char.ofNat)
    refine ⟨quote, " * ".toList ++ 'b' :: quote :: octets.flatMap (quotedOctet quote), by simp [octetsText, quote], ?_⟩
    unfold quote Text.quoteFor
    split
    · exact .inr rfl
    · exact .inl rfl
  have visible : Text.isBlank quote = false := by rcases isQuote with rfl | rfl <;> decide
  have kept : Text.trimRightBy Text.isBlank (front ++ [quote]) = front ++ [quote] := by
    rw [Text.trimRightBy, List.reverse_append, List.reverse_singleton, List.singleton_append,
      List.dropWhile_cons_of_neg (by simp [visible])]
    simp
  have last : (Text.trimRight (" * " ++ octetsText octets)).toList.getLast? = some quote := by
    rw [Text.trimRight, String.toList_ofList, same, kept, List.getLast?_concat]
  refine isReadable_of_last last ?_
  rcases isQuote with rfl | rfl <;> exact ⟨by decide, by decide⟩

/-- The lines of a comment are no parts of blocks if there are no braces in its description and its tags. -/
theorem isReadable_comment {description : Document} {tags : List String} (braceless : IsBraceless description)
    (tagged : ∀ tag ∈ tags, ∀ c ∈ tag.toList, IsNoBrace c) : (Code.comment description tags).IsReadable := by
  intro lines formed
  have entries : ∀ e ∈ lines, IsReadable (Text.trimRight (" * " ++ e)) := by
    intro e there
    unfold descriptionLines at formed
    split at formed
    · obtain rfl := Except.ok.inj formed
      cases there
    · split at formed
      · next text _ =>
        obtain rfl := Except.ok.inj formed
        obtain ⟨line, among, rfl⟩ := List.mem_map.1 there
        refine isReadable_entry fun c inside => ?_
        rw [String.toList_ofList] at inside
        rcases mem_of_mem_linesFrom among inside with none | own
        · cases none
        · exact braceless text rfl c (mem_of_mem_trimBy own)
      · obtain rfl := Except.ok.inj formed
        obtain ⟨octets, -, rfl⟩ := List.mem_map.1 there
        exact isReadable_octets octets
      · cases formed
  intro l there
  rw [commentLines, List.cons_append, List.mem_cons, List.mem_append, List.mem_map, List.mem_singleton] at there
  rcases there with rfl | ⟨e, among, rfl⟩ | rfl
  · exact ⟨by decide, by decide⟩
  · rw [commentBody, List.mem_append, List.mem_append] at among
    rcases among with (own | gap) | tag
    · exact entries e own
    · split at gap
      · obtain rfl := List.mem_singleton.1 gap
        exact isReadable_entry (by simp)
      · cases gap
    · exact isReadable_entry (tagged e tag)
  · exact ⟨by decide, by decide⟩

end ClassDiagram.Java
