/-
This file defines JSON values, whose objects keep the order of their members.
-/

import SolidityAudit.Number.Binary64
import SolidityAudit.Text.Wording

namespace SolidityAudit.Json

open Text (Wording)

inductive Value where
  | null
  | bool (value : Bool)
  | integer (value : Int)
  | real (value : Binary64)
  | text (value : Wording)
  | array (items : List Value)
  | object (members : List (Wording × Value))
  deriving Repr, Inhabited

mutual

/-- Values are equal when they are built alike, with the members of objects in one order. -/
def Value.beq : Value → Value → Bool
  | .null, .null => true
  | .bool value, .bool other => value == other
  | .integer value, .integer other => value == other
  | .real value, .real other => value == other
  | .text value, .text other => value == other
  | .array items, .array others => Value.beqItems items others
  | .object members, .object others => Value.beqMembers members others
  | _, _ => false

def Value.beqItems : List Value → List Value → Bool
  | [], [] => true
  | item :: rest, other :: others => Value.beq item other && Value.beqItems rest others
  | _, _ => false

def Value.beqMembers : List (Wording × Value) → List (Wording × Value) → Bool
  | [], [] => true
  | (name, value) :: rest, (otherName, other) :: others =>
      name == otherName && Value.beq value other && Value.beqMembers rest others
  | _, _ => false

end

instance : BEq Value := ⟨Value.beq⟩

/-- A repeated name keeps its first place and takes the last value. -/
def putMember (name : Wording) (value : Value) : List (Wording × Value) → List (Wording × Value)
  | [] => [(name, value)]
  | (other, current) :: rest =>
      if other == name then (other, value) :: rest
      else (other, current) :: putMember name value rest

def findMember? (name : Wording) (members : List (Wording × Value)) : Option Value :=
  members.lookup name

/-- Null, false, zero and whatever is empty count as absent. -/
def Value.isPresent : Value → Bool
  | .null => false
  | .bool value => value
  | .integer value => value != 0
  | .real value => !value.isZero
  | .text value => value != ""
  | .array items => !items.isEmpty
  | .object members => !members.isEmpty

/-- The value itself if it is present, and the default otherwise. -/
def Value.orElse (value default : Value) : Value := if value.isPresent then value else default

/-- The name of the kind of value, as messages give it. -/
def Value.kindName : Value → String
  | .null => "NoneType"
  | .bool _ => "bool"
  | .integer _ => "int"
  | .real _ => "float"
  | .text _ => "str"
  | .array _ => "list"
  | .object _ => "dict"

/-- A missing text is null. -/
def Value.ofText? (content : Option Wording) : Value := (content.map Value.text).getD .null

def Value.ofTexts (texts : List String) : Value :=
  .array (texts.map fun text : String => .text text)

end SolidityAudit.Json
