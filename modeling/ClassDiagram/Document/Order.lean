import ClassDiagram.Document.Misfit

/-!
# Values in order

Sorting values of a document.  Values of different kinds have no order, so a comparison may fail, and which
one fails first is seen in the error: the values in front that are in order already are looked at first, and
each one after them is put in its place by halving.
-/

set_option autoImplicit false

namespace ClassDiagram

namespace Document

/-- Whether a value is below another one. -/
def isBelow (a b : Document) : Except Misfit Bool :=
  match a.isBelow? b with
  | some below => return below
  | none => throw (.noOrder a.fullKindName b.fullKindName)

end Document

namespace Sorting

variable {α : Type} (below : α → α → Except Misfit Bool)

/-- The items in front that do not go down, where `run` holds those before, the last one first. -/
def risingFrom (last : α) (run : List α) : List α → Except Misfit (List α × List α)
  | [] => return ((last :: run).reverse, [])
  | item :: rest => do
    if ← below item last then return ((last :: run).reverse, item :: rest)
    else risingFrom item (last :: run) rest

/-- The items in front that go down, the least one first, where `run` holds those before in this order. -/
def fallingFrom (last : α) (run : List α) : List α → Except Misfit (List α × List α)
  | [] => return (last :: run, [])
  | item :: rest => do
    if ← below item last then fallingFrom item (last :: run) rest
    else return (last :: run, item :: rest)

/-- The items in front that are in order or in the opposite order, put in order, and the rest. -/
def firstRun : List α → Except Misfit (List α × List α)
  | [] => return ([], [])
  | [item] => return ([item], [])
  | first :: second :: rest => do
    if ← below second first then fallingFrom below second [first] rest
    else risingFrom below second [first] rest

/-- The place of an item among items in order, between two places. -/
def placeBetween (item : α) (sorted : Array α) (low high : Nat) : Except Misfit Nat :=
  if _h : low < high then do
    let middle := low + (high - low) / 2
    match sorted[middle]? with
    | none => return low
    | some other =>
      if ← below item other then placeBetween item sorted low middle
      else placeBetween item sorted (middle + 1) high
  else return low
termination_by high - low

/-- Puts an item in its place among items in order, behind those that are equal to it. -/
def place (sorted : List α) (item : α) : Except Misfit (List α) := do
  let i ← placeBetween below item sorted.toArray 0 sorted.length
  return sorted.insertIdx i item

/-- The items in order. -/
def sort (items : List α) : Except Misfit (List α) := do
  let (run, rest) ← firstRun below items
  rest.foldlM (place below) run

end Sorting

end ClassDiagram
