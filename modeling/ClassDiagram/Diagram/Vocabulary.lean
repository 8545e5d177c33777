import ClassDiagram.Diagram.Page
import ClassDiagram.Document.Mapping

/-!
# Given words of a diagram

The words and signs of a diagram as a document gives them.  Where one is no text, its display stands in a
line, but it cannot be one of the words or lines that are joined.
-/

set_option autoImplicit false

namespace ClassDiagram.Diagram

/-- The words and signs of a diagram, with those that need not be texts as they are given. -/
structure Vocabulary where
  style : Style
  start : Document
  finish : Document
  abstractModifier : Document
  staticModifier : Document
  unbounded : Document
  deriving Repr

namespace Vocabulary

/-- Words that are all texts. -/
def ofStyle (s : Style) : Vocabulary :=
  ⟨s, .text s.start, .text s.finish, .text s.abstractModifier, .text s.staticModifier,
    .text s.unbounded⟩

/-- The words unless others are given. -/
def standard : Vocabulary := ofStyle .standard

/-- Whether all words are texts. -/
def areTexts (v : Vocabulary) : Bool :=
  [v.start, v.finish, v.abstractModifier, v.staticModifier, v.unbounded].all (·.isText)

/-! ## Reading -/

/-- The visibility with a word of a document. -/
def visibilityOf (word : Document) : Except Misfit Visibility :=
  match word with
  | .text w =>
    match Visibility.ofWord? w with
    | some v => return v
    | none => throw (.notWord (word.literal?.getD "") "Visibility")
  | _ => throw (.notWord (word.literal?.getD "") "Visibility")

/-- The aggregation with a word of a document. -/
def aggregationOf (word : Document) : Except Misfit Aggregation :=
  match word with
  | .text w =>
    match Aggregation.ofWord? w with
    | some a => return a
    | none => throw (.notWord (word.literal?.getD "") "AggregationType")
  | _ => throw (.notWord (word.literal?.getD "") "AggregationType")

/-- Sets the word that a field of a document names. -/
def setWord (v : Vocabulary) (field : String) (word : Document) : Except Misfit Vocabulary := do
  let text := word.display?.getD ""
  let style := v.style
  match field with
  | "start" => return { v with start := word, style := { style with start := text } }
  | "end" => return { v with finish := word, style := { style with finish := text } }
  | "primitive_stereotype" => return { v with style := { style with primitiveStereotype := text } }
  | "datatype_stereotype" => return { v with style := { style with datatypeStereotype := text } }
  | "abstract_modifier" =>
    return { v with abstractModifier := word, style := { style with abstractModifier := text } }
  | "static_modifier" =>
    return { v with staticModifier := word, style := { style with staticModifier := text } }
  | "line" => return { v with style := { style with line := text } }
  | "generalization_arrow" => return { v with style := { style with generalizationArrow := text } }
  | "realization_arrow" => return { v with style := { style with realizationArrow := text } }
  | "label_direction" => return { v with style := { style with labelDirection := text } }
  | "unbounded" => return { v with unbounded := word, style := { style with unbounded := text } }
  | "default_visibility" =>
    return { v with style := { style with defaultVisibility := ← visibilityOf word } }
  | "file_extension" => return v
  | other => throw (.unexpected "PlantUmlMetaModel.__init__" other)

/-- The words that the fields of a document give.  The visibility is looked at before the fields. -/
def ofFields (fields : List (Document × Document)) : Except Misfit Vocabulary := do
  if let some word := Document.fieldIn? "default_visibility" fields then discard (visibilityOf word)
  fields.foldlM (fun v (field, word) => v.setWord (field.display?.getD "") word) standard

/-! ## Pieces of lines -/

/-- A bound; the absence of one has a word of its own. -/
def bound (v : Vocabulary) (value : Document) : Except Misfit Document :=
  if value.isEqual (.int (-1)) then return v.unbounded else (lineText value).map .text

/-- Two bounds with dots between them, or one bound when both are equal. -/
def multiplicity (v : Vocabulary) (lower upper : Document) : Except Misfit Document := do
  if lower.isEqual upper then v.bound lower
  else
    let low ← lineText (← v.bound lower)
    let high ← lineText (← v.bound upper)
    return .text (low ++ ".." ++ high)

/-- The words in front of the type of a member. -/
def memberWords (v : Vocabulary) (visibility : Option Visibility) (isStatic isAbstract : Bool)
    (name : Document) : List Document :=
  [.text (visibilitySign (visibility.getD v.style.defaultVisibility))] ++
    (if isAbstract then [v.abstractModifier] else []) ++
    (if isStatic then [v.staticModifier] else []) ++ [name]

/-- Whether the words in front of the type of a member are texts. -/
def memberFits (v : Vocabulary) (visibility : Option Visibility) (isStatic isAbstract : Bool)
    (name : Document) : Except Misfit Unit :=
  discard (wordTexts 0 (v.memberWords visibility isStatic isAbstract name))

/-! ## Pages -/

/-- Whether it can be seen if an empty line is in order: not right after a start mark that is no text. -/
def blankFits (v : Vocabulary) (w : Page) : Except Misfit Unit :=
  if w.lines.length == 1 && !v.start.isText then throw (.noField v.start.fullKindName "endswith")
  else return

/-- Whether the lines of a page and its end mark are texts. -/
def textFits (v : Vocabulary) (w : Page) : Except Misfit Unit :=
  let lines := w.trimmed.lines.inOrder
  let shown := (v.start :: lines.tail.map .text).take lines.length
  discard (wordTexts 0 (shown ++ [v.finish]))

/-- The lines of a page, with the start mark as it was given. -/
def linesOf (v : Vocabulary) (w : Page) : List Document :=
  let lines := w.lines.inOrder
  (v.start :: lines.tail.map .text).take lines.length

end Vocabulary

end ClassDiagram.Diagram
