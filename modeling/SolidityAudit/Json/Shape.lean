/-
This file takes JSON values apart and says how a value fails to have the shape asked for.
-/

import SolidityAudit.Json.Display
import SolidityAudit.Json.Reader
import SolidityAudit.Text.Numeral

namespace SolidityAudit.Json

open Text (Wording)

/-- Each cause keeps the name of the kind of value that was found. -/
inductive ShapeFault where
  | lacksOperation (found operation : String)
  | notIterable (found : String)
  | notIndexable (found : String)
  | notSized (found : String)
  | missingKey (key : Value)
  | badIndex
  | missingIndex
  | notNumeric (found : String)
  | badNumeral (text : Wording)
  | oversizedNumeral (limit digitCount : Nat)
  | undefinedNumber
  | infiniteNumber
  | itemNotText (position : Nat) (found : String)
  | textExpected (found : String)
  | unshown (obstacle : Obstacle)
  deriving BEq, Repr

def ShapeFault.message : ShapeFault → String
  | .lacksOperation found operation =>
      "'" ++ found ++ "' object has no attribute '" ++ operation ++ "'"
  | .notIterable found => "'" ++ found ++ "' object is not iterable"
  | .notIndexable found => "'" ++ found ++ "' object is not subscriptable"
  | .notSized found => "object of type '" ++ found ++ "' has no len()"
  | .missingKey key => String.ofList key.nested
  | .badIndex => "list indices must be integers or slices"
  | .missingIndex => "list index out of range"
  | .notNumeric found =>
      "int() argument must be a string, a bytes-like object or a real number, not '" ++
        found ++ "'"
  | .badNumeral text => "invalid literal for int() with base 10: " ++ String.ofList text.quoted
  | .oversizedNumeral limit digitCount =>
      "Exceeds the limit (" ++ toString limit ++
        " digits) for integer string conversion: value has " ++ toString digitCount ++
        " digits; use sys.set_int_max_str_digits() to increase the limit"
  | .undefinedNumber => "cannot convert float NaN to integer"
  | .infiniteNumber => "cannot convert float infinity to integer"
  | .itemNotText position found =>
      "sequence item " ++ toString position ++ ": expected str instance, " ++ found ++ " found"
  | .textExpected found => "expected string or bytes-like object, got '" ++ found ++ "'"
  | .unshown obstacle => obstacle.message

/-- The form of a value in a message, unless it is refused. -/
def Value.shown [Host] (value : Value) : Except ShapeFault Wording :=
  match value.refusal? with
  | some obstacle => .error (.unshown obstacle)
  | none => .ok value.display

/-- The members of an object, which alone can be asked for a member by name. -/
def Value.members : Value → Except ShapeFault (List (Wording × Value))
  | .object members => .ok members
  | value => .error (.lacksOperation value.kindName "get")

/-- A member that is not there is null. -/
def Value.member (value : Value) (name : Wording) : Except ShapeFault Value :=
  value.members.map fun members => (findMember? name members).getD .null

def Value.memberOr (value : Value) (name : Wording) (default : Value) : Except ShapeFault Value :=
  value.members.map fun members => (findMember? name members).getD default

/-- A list gives its items, an object the names of its members and a text its symbols. -/
def Value.elements : Value → Except ShapeFault (List Value)
  | .array items => .ok items
  | .object members => .ok (members.map fun entry => .text entry.1)
  | .text value => .ok (value.symbols.map fun symbol => .text (Wording.ofSymbols [symbol]))
  | value => .error (.notIterable value.kindName)

/-- The number of elements of a value that has any. -/
def Value.count (value : Value) : Except ShapeFault Nat :=
  match value.elements with
  | .ok items => .ok items.length
  | .error _ => .error (.notSized value.kindName)

/-- The element at the front, where an object is asked for the key zero and has none. -/
def Value.front (value : Value) : Except ShapeFault Value :=
  match value with
  | .object _ => .error (.missingKey (.integer 0))
  | .array (item :: _) => .ok item
  | .array [] => .error .missingIndex
  | .text content => match content.symbols with
      | symbol :: _ => .ok (.text (Wording.ofSymbols [symbol]))
      | [] => .error .missingIndex
  | value => .error (.notIndexable value.kindName)

/-- Whole numbers are read from numerals, and other numbers are cut toward zero. -/
def Value.toInteger [Host] : Value → Except ShapeFault Int
  | .bool value => .ok (if value then 1 else 0)
  | .integer value => .ok value
  | .real (.finite negative mantissa exponent) =>
      .ok (Binary64.truncated negative mantissa exponent)
  | .real (.infinite _) => .error .infiniteNumber
  | .real .notANumber => .error .undefinedNumber
  | .text value => match Text.readInteger value.masked.toList with
      | .ok number => .ok number
      | .error (.malformed _) => .error (.badNumeral value)
      | .error (.oversized limit digitCount) => .error (.oversizedNumeral limit digitCount)
  | value => .error (.notNumeric value.kindName)

/-- The text itself, for an operation that only texts have. -/
def Value.wording (operation : String) : Value → Except ShapeFault Wording
  | .text value => .ok value
  | value => .error (.lacksOperation value.kindName operation)

end SolidityAudit.Json
