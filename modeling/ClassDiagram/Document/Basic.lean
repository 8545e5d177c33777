import ClassDiagram.Decimal.Binary64
import ClassDiagram.Document.Calendar

/-!
# Documents

The values that a JSON or YAML text writes.  A mapping keeps its entries in the order of first
appearance of their keys; two keys are the same when they are equal as values, so the number one, the
float one and true are one key.

A YAML collection may contain itself.  Such a collection is a `knot`: a body in which `again`, with the
label of the knot, stands for the collection itself.  `Document.reveal` undoes one layer of it.
-/

set_option autoImplicit false

namespace ClassDiagram

open Decimal (Binary64)

/-- A value of a document. -/
inductive Document where
  | null
  | bool (value : Bool)
  | int (value : Int)
  | float (value : Binary64)
  | text (value : String)
  | bytes (octets : List Nat)
  | date (value : Date)
  | moment (value : Moment)
  /-- Two values side by side. -/
  | pair (first second : Document)
  | list (items : List Document)
  | set (items : List Document)
  | map (entries : List (Document × Document))
  /-- A collection that contains itself. -/
  | knot (label : Nat) (body : Document)
  /-- The collection around this place that has the label. -/
  | again (label : Nat)
  deriving Repr, Inhabited

namespace Document

mutual

/-- Whether two values are built from the same parts in the same way. -/
def isAlike (a b : Document) : Bool :=
  match a, b with
  | null, null => true
  | bool x, bool y => x == y
  | int x, int y => x == y
  | float x, float y => x == y
  | text x, text y => x == y
  | bytes x, bytes y => x == y
  | date x, date y => x == y
  | moment x, moment y => x == y
  | pair x x', pair y y' => isAlike x y && isAlike x' y'
  | list xs, list ys => areAlike xs ys
  | set xs, set ys => areAlike xs ys
  | map xs, map ys => entriesAlike xs ys
  | knot l x, knot m y => l == m && isAlike x y
  | again l, again m => l == m
  | _, _ => false

/-- Whether values are alike in turn. -/
def areAlike (xs ys : List Document) : Bool :=
  match xs, ys with
  | [], [] => true
  | x :: xs, y :: ys => isAlike x y && areAlike xs ys
  | _, _ => false

/-- Whether entries are alike in turn. -/
def entriesAlike (xs ys : List (Document × Document)) : Bool :=
  match xs, ys with
  | [], [] => true
  | (k, x) :: xs, (l, y) :: ys => isAlike k l && isAlike x y && entriesAlike xs ys
  | _, _ => false

end

instance : BEq Document := ⟨isAlike⟩

/-- The name of a value's kind, as messages call it. -/
def kindName : Document → String
  | null => "NoneType"
  | bool _ => "bool"
  | int _ => "int"
  | float _ => "float"
  | text _ => "str"
  | bytes _ => "bytes"
  | date _ => "date"
  | moment _ => "datetime"
  | pair _ _ => "tuple"
  | list _ => "list"
  | set _ => "set"
  | map _ => "dict"
  | knot _ body => body.kindName
  | again _ => "list"

/-- The name of a value's kind with the module that the kind is from. -/
def fullKindName : Document → String
  | date _ => "datetime.date"
  | moment _ => "datetime.datetime"
  | other => other.kindName

/-- Whether a value counts as given: all do but null, false, the zeros and what is empty. -/
def isGiven : Document → Bool
  | null => false
  | bool value => value
  | int value => value != 0
  | float value => !value.isZero
  | text value => !value.isEmpty
  | bytes octets => !octets.isEmpty
  | list items => !items.isEmpty
  | set items => !items.isEmpty
  | map entries => !entries.isEmpty
  | _ => true

/-- Whether a value is a text. -/
def isText : Document → Bool
  | text _ => true
  | _ => false

/-- The whole number of an integer; true and false are one and zero. -/
def asInt? : Document → Option Int
  | bool value => some (if value then 1 else 0)
  | int value => some value
  | _ => none

/-! ## Collections that contain themselves -/

mutual

/-- A value in which `whole` stands for a label. -/
def fill (label : Nat) (whole : Document) : Document → Document
  | again l => if l = label then whole else again l
  | knot l body => if l = label then knot l body else knot l (fill label whole body)
  | pair a b => pair (fill label whole a) (fill label whole b)
  | list items => list (fillItems label whole items)
  | map entries => map (fillEntries label whole entries)
  | other => other

/-- Values in which `whole` stands for a label. -/
def fillItems (label : Nat) (whole : Document) : List Document → List Document
  | [] => []
  | item :: rest => fill label whole item :: fillItems label whole rest

/-- Entries in the values of which `whole` stands for a label; a key never is a collection. -/
def fillEntries (label : Nat) (whole : Document) :
    List (Document × Document) → List (Document × Document)
  | [] => []
  | (key, value) :: rest => (key, fill label whole value) :: fillEntries label whole rest

end

/-- A value as the collection that it is: a knot as its body, with the knot itself where the body
refers to it. -/
def reveal : Document → Document
  | knot label body => fill label (knot label body) body
  | other => other

/-- The values that a value holds when it is gone through: the items of a collection, the keys of a mapping,
the characters of a text or the octets of a row. -/
def parts? (d : Document) : Option (List Document) :=
  match d.reveal with
  | text value => some (value.toList.map fun c => text c.toString)
  | bytes octets => some (octets.map fun n => int (n : Nat))
  | pair a b => some [a, b]
  | list items => some items
  | set items => some items
  | map entries => some (entries.map Prod.fst)
  | _ => none

/-! ## Keys -/

/-- The kind of collection that keeps a value from being a key, if there is one. -/
def keyObstacle? : Document → Option String
  | pair a b => a.keyObstacle? <|> b.keyObstacle?
  | list _ => some "list"
  | set _ => some "set"
  | map _ => some "dict"
  | knot _ body => body.kindName
  | again _ => some "list"
  | _ => none

/-- Whether a value can be a key: all can but the collections. -/
def isKey (d : Document) : Bool := d.keyObstacle?.isNone

/-- Whether two keys are equal as values.  What is no number is one key, although it is not equal to
itself as a number. -/
def sameKey (a b : Document) : Bool :=
  match a, b with
  | float .notANumber, float .notANumber => true
  | float x, float y => x.sameNumber y
  | float x, _ => (b.asInt?.map x.equalsInt).getD false
  | _, float y => (a.asInt?.map y.equalsInt).getD false
  | moment x, moment y => x.isSame y
  | _, _ =>
    match a.asInt?, b.asInt? with
    | some m, some n => m == n
    | none, none => a == b
    | _, _ => false

/-- The value of a number. -/
def asNumber? : Document → Option Binary64
  | float value => some value
  | other => other.asInt?.map Binary64.exactly

/-- Whether a value is below another one; only texts, numbers, rows of octets and days have an order, each
among themselves. -/
def isBelow? (a b : Document) : Option Bool :=
  match a, b with
  | text x, text y => some (decide (x < y))
  | bytes x, bytes y => some (decide (x < y))
  | date x, date y => some (decide (x.number < y.number))
  | _, _ => do
    let x ← a.asNumber?
    let y ← b.asNumber?
    return x.isBelow y

/-- Sets the value at a key: in the place of the same key if there is one, else at the end. -/
def insertEntry (key value : Document) :
    List (Document × Document) → List (Document × Document)
  | [] => [(key, value)]
  | (k, v) :: rest =>
    if k.sameKey key then (k, value) :: rest else (k, v) :: insertEntry key value rest

/-- The entries of a mapping that is written as the given pairs: the last value of a key counts. -/
def entriesOf (pairs : List (Document × Document)) : List (Document × Document) :=
  pairs.foldl (fun entries (k, v) => insertEntry k v entries) []

/-- The value at a key. -/
def valueAt? (key : Document) : List (Document × Document) → Option Document
  | [] => none
  | (k, value) :: rest => if k.sameKey key then some value else valueAt? key rest

/-! ## Equality -/

/-- Whether two values that are no collections are equal; what is no number is not equal to itself. -/
def isSameValue (a b : Document) : Bool :=
  match a, b with
  | float x, float y => x.sameNumber y
  | _, _ => a.sameKey b

mutual

/-- Whether two values are equal: lists item by item, mappings key by key in any order. -/
def isEqual (a b : Document) : Bool :=
  match a with
  | list xs =>
    match b with
    | list ys => areEqual xs ys
    | _ => false
  | map xs =>
    match b with
    | map ys => xs.length == ys.length && haveEqual xs ys
    | _ => false
  | other => other.isSameValue b

/-- Whether values are equal in turn. -/
def areEqual (xs ys : List Document) : Bool :=
  match xs with
  | [] => ys.isEmpty
  | x :: rest =>
    match ys with
    | [] => false
    | y :: others => isEqual x y && areEqual rest others

/-- Whether each key of some entries has an equal value in others. -/
def haveEqual (xs ys : List (Document × Document)) : Bool :=
  match xs with
  | [] => true
  | (key, value) :: rest =>
    (match valueAt? key ys with
      | some other => isEqual value other
      | none => false) && haveEqual rest ys

end

/-- The value of a field in the entries of a mapping. -/
def fieldIn? (name : String) : List (Document × Document) → Option Document
  | [] => none
  | (text key, value) :: rest => if key = name then some value else fieldIn? name rest
  | _ :: rest => fieldIn? name rest

end Document

/-- The fields of a mapping: its entries and, if it contains itself, its label and the mapping as a whole.
Only the value of a field that is asked for is filled. -/
structure Fields where
  entries : List (Document × Document)
  whole : Option (Nat × Document)
  deriving Repr

namespace Fields

/-- The fields of a mapping with these entries, which does not contain itself. -/
def ofEntries (entries : List (Document × Document)) : Fields := ⟨entries, none⟩

/-- The value of a field. -/
def get? (f : Fields) (name : String) : Option Document :=
  match f.whole with
  | none => Document.fieldIn? name f.entries
  | some (label, whole) => (Document.fieldIn? name f.entries).map (Document.fill label whole)

end Fields

/-- The fields of a mapping. -/
def Document.fields? : Document → Option Fields
  | map entries => some (.ofEntries entries)
  | knot label (map entries) => some ⟨entries, some (label, knot label (map entries))⟩
  | _ => none

end ClassDiagram
