import ClassDiagram.Document.Display
import ClassDiagram.Text.Integer

/-!
# Values that do not fit their use

A document may hold any value at any place, and an edit may put any value into an attribute.  What a value
is used for may then fail: a number has no parts, a list is no key, two kinds of values have no order.
A `Misfit` is such a cause; the kinds of values are named as messages call them.
-/

set_option autoImplicit false

namespace ClassDiagram

/-- The wording for digits that are no decimal number.  At most two hundred characters of the quoted
text are shown. -/
def notIntegerMessage (base : Nat) (text : String) : String :=
  s!"invalid literal for int() with base {base}: " ++
    String.ofList ((Text.quotedChars text.toList).take 200)

/-- The wording for a number with too many digits. -/
def tooManyDigitsMessage (count : Nat) : String :=
  s!"Exceeds the limit ({Text.mostDigitsRead} digits) for integer string conversion: value has {count}" ++
    " digits; use sys.set_int_max_str_digits() to increase the limit"

/-- Names in quotes, as a list in words. -/
def listInWords : List String → String
  | [] => ""
  | [one] => s!"'{one}'"
  | [one, two] => s!"'{one}' and '{two}'"
  | several => ", ".intercalate (several.dropLast.map fun one => s!"'{one}'") ++
      ", and " ++ (several.getLast?.elim "" fun last => s!"'{last}'")

/-- Why something cannot be used in some way. -/
inductive Misfit where
  /-- What is of a sort has no field of this name. -/
  | noField (sort field : String)
  /-- A field of what is of a sort follows from others, so it cannot be set. -/
  | notSettable (sort field : String)
  /-- The name of a field is no text. -/
  | notFieldName (sort : String)
  /-- What is of a sort has no parts to go through. -/
  | noParts (sort : String)
  /-- What is of a sort has no places to look at. -/
  | noPlaces (sort : String)
  /-- What is of a sort has no places to put something. -/
  | noPlacesToSet (sort : String)
  /-- The place in a list is no number. -/
  | notPlace (sort : String)
  /-- The place in a text is no number. -/
  | notTextPlace (sort : String)
  /-- The place to put something in a list is no number. -/
  | notPosition (sort : String)
  /-- What is of a sort cannot be a key. -/
  | notKey (sort : String)
  /-- Things of two sorts have no sum. -/
  | noSum (first second : String)
  /-- Things of two sorts have no product. -/
  | noProduct (first second : String)
  /-- Only things of the first sort can follow one of that sort. -/
  | notAppended (first second : String)
  /-- Things of two sorts have no order. -/
  | noOrder (first second : String)
  /-- A word at a position is no text. -/
  | wordNotText (position : Nat) (sort : String)
  /-- What is of a sort is no text to search in. -/
  | notSearched (sort : String)
  /-- A row of octets is given where a text is needed. -/
  | octets
  /-- A list has no item at a place. -/
  | noItem
  /-- A list has nothing to replace at a place. -/
  | noItemToReplace
  /-- A text has no character at a place. -/
  | noCharacter
  /-- The number of a place is too large for any list. -/
  | hugePlace
  /-- The number of a place to put something in a list is too large for any list. -/
  | hugePosition
  /-- A block is to be closed and none is open. -/
  | noOpenBlock
  /-- An action has no argument of a name. -/
  | unexpected (action argument : String)
  /-- An action is given the argument of a name twice, once by its name if `isNamed`. -/
  | repeated (action argument : String) (isNamed : Bool)
  /-- An action lacks arguments. -/
  | lacking (action : String) (arguments : List String)
  /-- An action is given more arguments than it takes. -/
  | tooMany (action : String) (least most given : Nat)
  /-- There is no entry for a key. -/
  | noEntry (key : String)
  /-- An item of what is to be a mapping has parts, but not a key and a value. -/
  | notPair (position length : Nat)
  /-- An item of what is to be a mapping has no parts. -/
  | notSequence (position : Nat)
  /-- A value, given as it is shown, is no word of a vocabulary. -/
  | notWord (value vocabulary : String)
  /-- A text writes no integer to a base. -/
  | notInteger (base : Nat) (text : String)
  /-- A number in a text has too many digits to be read. -/
  | tooManyDigits (count : Nat)
  /-- A number has too many digits to be written. -/
  | unwritten
  deriving Repr, DecidableEq

namespace Misfit

/-- The wording of a misfit. -/
def message : Misfit → String
  | noField sort field => s!"'{sort}' object has no attribute '{field}'"
  | notSettable sort field => s!"property '{field}' of '{sort}' object has no setter"
  | notFieldName sort => s!"attribute name must be string, not '{sort}'"
  | noParts sort => s!"'{sort}' object is not iterable"
  | noPlaces sort => s!"'{sort}' object is not subscriptable"
  | noPlacesToSet sort => s!"'{sort}' object does not support item assignment"
  | notPlace sort => "list indices must be integers or slices, not " ++ sort
  | notTextPlace sort => s!"string indices must be integers, not '{sort}'"
  | notPosition sort => s!"'{sort}' object cannot be interpreted as an integer"
  | notKey sort => s!"unhashable type: '{sort}'"
  | noSum first second => s!"unsupported operand type(s) for +: '{first}' and '{second}'"
  | noProduct first second => s!"unsupported operand type(s) for *: '{first}' and '{second}'"
  | notAppended first second => s!"can only concatenate {first} (not \"{second}\") to {first}"
  | noOrder first second => s!"'<' not supported between instances of '{first}' and '{second}'"
  | wordNotText position sort => s!"sequence item {position}: expected str instance, {sort} found"
  | notSearched sort => s!"expected string or bytes-like object, got '{sort}'"
  | octets => "a bytes-like object is required, not 'str'"
  | noItem => "list index out of range"
  | noItemToReplace => "list assignment index out of range"
  | noCharacter => "string index out of range"
  | hugePlace => "cannot fit 'int' into an index-sized integer"
  | hugePosition => "Python int too large to convert to C ssize_t"
  | noOpenBlock => "pop from empty list"
  | unexpected action argument => s!"{action}() got an unexpected keyword argument '{argument}'"
  | repeated action argument true =>
    s!"{action}() got multiple values for keyword argument '{argument}'"
  | repeated action argument false => s!"{action}() got multiple values for argument '{argument}'"
  | lacking action arguments =>
    let noun := if arguments.length == 1 then "argument" else "arguments"
    s!"{action}() missing {arguments.length} required positional {noun}: " ++ listInWords arguments
  | tooMany action least most given =>
    let span := if least == most then toString most else s!"from {least} to {most}"
    let noun := if most == 1 then "argument" else "arguments"
    s!"{action}() takes {span} positional {noun} but {given} were given"
  | noEntry key => key
  | notPair position length =>
    s!"dictionary update sequence element #{position} has length {length}; 2 is required"
  | notSequence position =>
    s!"cannot convert dictionary update sequence element #{position} to a sequence"
  | notWord value vocabulary => s!"{value} is not a valid {vocabulary}"
  | notInteger base text => notIntegerMessage base text
  | tooManyDigits count => tooManyDigitsMessage count
  | unwritten => unwrittenMessage

/-- The misfit of a text that is read as a decimal number. -/
def ofIntegerFault (text : String) : Text.IntegerFault → Misfit
  | .notInteger => notInteger 10 text
  | .tooManyDigits count => tooManyDigits count

/-- What misfits are about. -/
inductive Category where
  | field
  | operand
  | place
  | key
  | value
  | size
  deriving Repr, DecidableEq

/-- What a misfit is about. -/
def category : Misfit → Category
  | noField _ _ | notSettable _ _ => .field
  | noItem | noItemToReplace | noCharacter | noOpenBlock | hugePlace => .place
  | hugePosition => .size
  | noEntry _ => .key
  | notPair _ _ | notWord _ _ | notInteger _ _ | tooManyDigits _ | unwritten => .value
  | _ => .operand

end Misfit

end ClassDiagram
