import ClassDiagram.Proofs.Java.Entries

/-!
# Lines without line feeds

A text is split into its lines again where no line has a line feed (`splitAtFeeds_textOfLines`).  What a piece of code
gives for one line must have none for this; descriptions and contents may have some, since they are split into lines
before they are written (`areUnbroken_codeLines`).
-/

set_option autoImplicit false

namespace ClassDiagram.Java

variable {margin : String}

/-- Whether texts have no line feed. -/
def AreUnbroken (texts : List String) : Prop := ∀ text ∈ texts, '\n' ∉ text.toList

instance (texts : List String) : Decidable (AreUnbroken texts) :=
  decidable_of_iff (texts.all fun text => !text.toList.contains '\n') (by simp [AreUnbroken])

/-- Texts in a row have no line feed if none of either part has one. -/
theorem areUnbroken_append {first second : List String} :
    AreUnbroken (first ++ second) ↔ AreUnbroken first ∧ AreUnbroken second := List.forall_mem_append

/-- A character that is in neither of two texts is not in them put together. -/
theorem not_mem_append {c : Char} {a b : String} (first : c ∉ a.toList) (second : c ∉ b.toList) :
    c ∉ (a ++ b).toList := by
  rw [String.toList_append, List.mem_append]
  exact not_or_intro first second

/-- Lines have no line feed if those that are not empty have none. -/
theorem areUnbroken_of_full {lines : List String} (unbroken : AreUnbroken (full lines)) : AreUnbroken lines := by
  intro l there
  cases empty : l.isEmpty with
  | true =>
    rw [String.isEmpty_iff.1 empty]
    exact nofun
  | false => exact unbroken l (List.mem_filter.2 ⟨there, by rw [empty]; rfl⟩)

/-- A character of texts with something between them stands in one of the texts or between them. -/
theorem not_mem_intercalate {c : Char} {separator : String} {texts : List String} (apart : c ∉ separator.toList)
    (each : ∀ text ∈ texts, c ∉ text.toList) : c ∉ (separator.intercalate texts).toList := by
  rw [String.toList_intercalate]
  induction texts with
  | nil => exact nofun
  | cons first rest ih =>
    rw [List.forall_mem_cons] at each
    cases rest with
    | nil => simpa using each.1
    | cons second rest =>
      rw [List.map_cons, List.map_cons, List.intercalate_cons_of_ne_nil (List.cons_ne_nil _ _), ← List.map_cons]
      simp only [List.mem_append, not_or]
      exact ⟨⟨each.1, apart⟩, ih each.2⟩

/-! ## Indentation -/

/-- Nothing is in an indentation that is not in its margin. -/
theorem toList_repeated_subset (margin : String) (depth : Nat) :
    ∀ c ∈ (repeated margin depth).toList, c ∈ margin.toList := by
  induction depth with
  | zero => exact nofun
  | succ depth ih =>
    intro c there
    rw [repeated, String.toList_append, List.mem_append] at there
    exact there.elim id (ih c)

/-- Lines without line feeds have none inside blocks. -/
theorem areUnbroken_inside (apart : '\n' ∉ margin.toList) {texts : List String} (unbroken : AreUnbroken texts)
    (depth : Nat) : AreUnbroken (inside margin depth texts) := by
  intro l there
  obtain ⟨text, among, rfl⟩ := List.mem_map.1 there
  exact not_mem_append (mt (toList_repeated_subset margin depth '\n') apart)
    (unbroken text (List.mem_filter.1 among).1)

/-! ## Descriptions and contents -/

/-- The lines of a text have no line boundary in them. -/
theorem unbroken_linesFrom {begun cs l : List Char} (unbroken : ∀ c ∈ begun, Text.isLineBoundary c = false)
    (there : l ∈ Text.linesFrom begun cs) : ∀ c ∈ l, Text.isLineBoundary c = false := by
  have whole : ∀ {line : List Char}, (∀ c ∈ line, Text.isLineBoundary c = false) →
      ∀ c ∈ line.reverse, Text.isLineBoundary c = false := fun unbroken c among => unbroken c (List.mem_reverse.1 among)
  fun_induction Text.linesFrom begun cs with
  | case1 begun none => cases there
  | case2 begun some =>
    rw [List.mem_singleton.1 there]
    exact whole unbroken
  | case3 begun rest ih =>
    rcases List.mem_cons.1 there with rfl | later
    · exact whole unbroken
    · exact ih (List.forall_mem_nil _) later
  | case4 begun c rest _ boundary ih =>
    rcases List.mem_cons.1 there with rfl | later
    · exact whole unbroken
    · exact ih (List.forall_mem_nil _) later
  | case5 begun c rest _ other ih =>
    refine ih ?_ there
    rw [List.forall_mem_cons]
    exact ⟨Bool.eq_false_iff.2 other, unbroken⟩

/-- The lines of a text have no line feed. -/
theorem not_mem_of_linesOf {cs l : List Char} (there : l ∈ Text.linesOf cs) : '\n' ∉ l := by
  intro feed
  exact absurd (unbroken_linesFrom (List.forall_mem_nil _) there '\n' feed) (by decide)

/-- The lines of a text written by hand have no line feed. -/
theorem areUnbroken_fragmentLines (content : List Char) : AreUnbroken (fragmentLines content) := by
  intro text among feed
  obtain ⟨l, there, rfl⟩ := List.mem_map.1 among
  rw [String.toList_ofList] at feed
  exact not_mem_of_linesOf there (mem_of_mem_trimRightBy feed)

/-- The lines of a comment have no line feed if its entries have none. -/
theorem areUnbroken_commentLines {body : List String} (unbroken : AreUnbroken body) :
    AreUnbroken (commentLines body) := by
  intro text among
  rw [commentLines, List.mem_append, List.mem_cons, List.mem_map, List.mem_singleton] at among
  rcases among with (rfl | ⟨entry, there, rfl⟩) | rfl
  · decide
  · rw [Text.trimRight, String.toList_ofList]
    exact mt mem_of_mem_trimRightBy (not_mem_append (by decide) (unbroken entry there))
  · decide

/-- The entries of a comment have no line feed if its description and its tags have none. -/
theorem areUnbroken_commentBody {description tags : List String} (unbroken : AreUnbroken description)
    (unbroken' : AreUnbroken tags) : AreUnbroken (commentBody description tags) := by
  unfold commentBody
  rw [areUnbroken_append, areUnbroken_append]
  refine ⟨⟨unbroken, ?_⟩, unbroken'⟩
  split
  · exact List.forall_mem_singleton.2 nofun
  · exact nofun

/-- Hexadecimal digits are no line feeds. -/
theorem not_mem_hexDigits (width n : Nat) : '\n' ∉ Text.hexDigits width n := by
  induction width generalizing n with
  | zero => exact nofun
  | succ width ih =>
    have digits : ∀ d : Fin 16, '\n' ≠ Text.hexDigit d := by decide
    rw [Text.hexDigits, List.mem_append, List.mem_singleton]
    exact not_or_intro (ih _) (digits ⟨n % 16, Nat.mod_lt n (by decide)⟩)

/-- A quoted character is no line feed: that one is escaped. -/
theorem not_mem_quotedChar {quote : Char} (visible : '\n' ≠ quote) (c : Char) : '\n' ∉ Text.quotedChar quote c := by
  unfold Text.quotedChar
  split_ifs with special feed
  · have own : '\n' ≠ c := by
      rintro rfl
      simp [visible] at special
    simp [own]
  · simp
  · simp
  · simp
  · simp [Ne.symm feed]
  · simp only [Text.codeEscape]
    split_ifs <;> simp [not_mem_hexDigits]

/-- A quoted octet is no line feed: that one is escaped. -/
theorem not_mem_quotedOctet {quote : Char} (visible : '\n' ≠ quote) (n : Nat) : '\n' ∉ quotedOctet quote n := by
  unfold quotedOctet
  split
  · exact not_mem_quotedChar visible _
  · simp [not_mem_hexDigits]

/-- Octets are written without line feeds. -/
theorem not_mem_octetsText (octets : List Nat) : '\n' ∉ (octetsText octets).toList := by
  have visible : '\n' ≠ Text.quoteFor (octets.map Char.ofNat) := by
    unfold Text.quoteFor
    split <;> decide
  simp [octetsText, visible, not_mem_quotedOctet visible]

/-- The lines of a description have no line feed. -/
theorem areUnbroken_descriptionLines {description : Document} {lines : List String}
    (given : descriptionLines description = .ok lines) : AreUnbroken lines := by
  unfold descriptionLines at given
  split at given
  · obtain rfl := Except.ok.inj given
    exact List.forall_mem_nil _
  · split at given
    · obtain rfl := Except.ok.inj given
      intro text among
      obtain ⟨l, there, rfl⟩ := List.mem_map.1 among
      rw [String.toList_ofList]
      exact not_mem_of_linesOf there
    · obtain rfl := Except.ok.inj given
      exact List.forall_mem_map.2 fun octets _ => not_mem_octetsText octets
    · cases given

/-! ## Code -/

mutual

/-- Whether what a piece of code gives for one line has no line feed. -/
def Code.IsUnbroken : Code → Prop
  | .line text => '\n' ∉ text.toList
  | .block header body => '\n' ∉ header.toList ∧ AreCodesUnbroken body
  | .comment _ tags => AreUnbroken tags
  | .blank | .fragment _ | .unwritable _ => True

/-- Whether this holds of pieces of code. -/
def AreCodesUnbroken : List Code → Prop
  | [] => True
  | code :: rest => code.IsUnbroken ∧ AreCodesUnbroken rest

end

/-- Pieces of code have no line feeds if each of them has none. -/
theorem areCodesUnbroken_iff {codes : List Code} : AreCodesUnbroken codes ↔ ∀ code ∈ codes, code.IsUnbroken := by
  induction codes with
  | nil => simp [AreCodesUnbroken]
  | cons code rest ih => rw [AreCodesUnbroken, ih, List.forall_mem_cons]

/-- Code in a row has no line feeds if neither part has one. -/
theorem areCodesUnbroken_append {first second : List Code} :
    AreCodesUnbroken (first ++ second) ↔ AreCodesUnbroken first ∧ AreCodesUnbroken second := by
  simp only [areCodesUnbroken_iff, List.forall_mem_append]

/-- Code for items has no line feeds if that of each item has none. -/
theorem areCodesUnbroken_flatMap {α : Type} {items : List α} {code : α → List Code} :
    AreCodesUnbroken (items.flatMap code) ↔ ∀ a ∈ items, AreCodesUnbroken (code a) := by
  simp only [areCodesUnbroken_iff, List.mem_flatMap]
  exact ⟨fun each a there x among => each x ⟨a, there, among⟩, fun each x ⟨a, there, among⟩ => each a there x among⟩

mutual

/-- The lines of a piece of code have no line feeds. -/
theorem areUnbroken_code (apart : '\n' ∉ margin.toList) (depth : Nat) :
    (code : Code) → code.IsUnbroken → AreUnbroken (code.fullLines margin depth)
  | .line text, unbroken => areUnbroken_inside apart (List.forall_mem_singleton.2 unbroken) depth
  | .blank, _ => List.forall_mem_nil _
  | .block header body, unbroken => by
    have opens : '\n' ∉ (header ++ " \x7b").toList := not_mem_append unbroken.1 (by decide)
    have closes : '\n' ∉ "\x7d".toList := by decide
    rw [Code.fullLines, areUnbroken_append, areUnbroken_append]
    exact ⟨⟨areUnbroken_inside apart (List.forall_mem_singleton.2 opens) depth,
      areUnbroken_codeLines apart (depth + 1) body unbroken.2⟩,
      areUnbroken_inside apart (List.forall_mem_singleton.2 closes) depth⟩
  | .comment description tags, unbroken => by
    rw [Code.fullLines]
    split
    · next lines given =>
      exact areUnbroken_inside apart (areUnbroken_commentLines
        (areUnbroken_commentBody (areUnbroken_descriptionLines given) unbroken)) depth
    · exact List.forall_mem_nil _
  | .fragment content, _ => by
    rw [Code.fullLines]
    split
    · next lines given =>
      refine areUnbroken_inside apart ?_ depth
      cases content with
      | text text =>
        obtain rfl : fragmentLines text.toList = lines := Except.ok.inj given
        exact areUnbroken_fragmentLines _
      | _ => cases given
    · exact List.forall_mem_nil _
  | .unwritable _, _ => List.forall_mem_nil _

/-- The lines of pieces of code have no line feeds. -/
theorem areUnbroken_codeLines (apart : '\n' ∉ margin.toList) (depth : Nat) :
    (codes : List Code) → AreCodesUnbroken codes → AreUnbroken (codeLines margin depth codes)
  | [], _ => List.forall_mem_nil _
  | code :: rest, unbroken => by
    rw [codeLines, areUnbroken_append]
    exact ⟨areUnbroken_code apart depth code unbroken.1, areUnbroken_codeLines apart depth rest unbroken.2⟩

end

end ClassDiagram.Java
