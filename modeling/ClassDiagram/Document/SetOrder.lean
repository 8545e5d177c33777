import ClassDiagram.Document.Basic

/-!
# The order of a set

A set of numbers gives its items in the order of the slots of a table.  The table has twice as many slots as
there are items or more, a power of two.  An item goes to the slot that its hash names; if that is taken, to one
of the next slots, and then on over slots that depend on the higher bits of the hash.  Numbers that are equal have
one hash.  Sets of other values keep the order in which they are written.
-/

set_option autoImplicit false

namespace ClassDiagram.Document

open Decimal (Binary64)

/-- The prime that hashes of numbers are remainders by. -/
def hashPrime : Nat := Nat.pow 2 61 - 1

/-- A hash with its sign; one value is taken, and its neighbour stands for it. -/
def signedHash (negative : Bool) (size : Nat) : Int :=
  let hash : Int := if negative then -(size : Int) else size
  if hash = -1 then -2 else hash

/-- The hash of a float.  A power of two counts by its exponent up to the 61 of the prime. -/
def floatHash? : Binary64 → Option Int
  | .finite negative mantissa exponent =>
    some (signedHash negative (mantissa % hashPrime * Nat.pow 2 (Int.fmod exponent 61).toNat % hashPrime))
  | .infinite negative => some (if negative then -314159 else 314159)
  | .notANumber => none

/-- The hash of a number. -/
def hash? : Document → Option Int
  | float value => floatHash? value
  | other => other.asInt?.map fun n => signedHash (decide (n < 0)) (n.natAbs % hashPrime)

/-- A table of slots. -/
abbrev Slots := Array (Option Document)

/-- How many slots after the first are looked at before going on elsewhere. -/
def nearSlots : Nat := 9

/-- The first free slot among some from a place on. -/
def freeAmong? (slots : Slots) (place : Nat) : Nat → Option Nat
  | 0 => none
  | count + 1 =>
    if (slots.getD place none).isNone then some place else freeAmong? slots (place + 1) count

/-- The free slot for an item, from a place on; `bits` are what is left of the hash.  When they are used up
the places go through the whole table, so the fuel is that many steps and a few more. -/
def freeSlot? (slots : Slots) : Nat → Nat → Nat → Option Nat
  | 0, _, _ => none
  | fuel + 1, place, bits =>
    let count := if place + nearSlots < slots.size then nearSlots + 1 else 1
    match freeAmong? slots place count with
    | some free => some free
    | none =>
      let bits := bits / 32
      freeSlot? slots fuel ((place * 5 + 1 + bits) % slots.size) bits

/-- Puts an item with a hash in its slot. -/
def place (slots : Slots) (item : Document) (hash : Int) : Slots :=
  let bits := (Int.fmod hash (Nat.pow 2 64)).toNat
  match freeSlot? slots (slots.size + 16) (bits % slots.size) bits with
  | some free => slots.setIfInBounds free (some item)
  | none => slots

/-- The least power of two from `size` on that is greater than `least`. -/
def sizeAbove (least : Nat) : Nat → Nat → Nat
  | 0, size => size
  | fuel + 1, size => if size ≤ least then sizeAbove least fuel (2 * size) else size

/-- The number of slots for some items. -/
def slotCount (count : Nat) : Nat := if 5 * count < 21 then 8 else sizeAbove (2 * count) count 8

/-- The items of a set in the order in which the set gives them. -/
def setOrder (items : List Document) : List Document :=
  match items.mapM fun item => item.hash?.map (item, ·) with
  | none => items
  | some hashed =>
    let empty : Slots := .replicate (slotCount items.length) none
    let slots := hashed.foldl (fun slots (item, hash) => place slots item hash) empty
    slots.toList.filterMap id

end ClassDiagram.Document
