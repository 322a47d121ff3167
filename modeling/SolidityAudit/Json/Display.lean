/-
This file shows JSON values inside messages.
-/

import SolidityAudit.Json.Printer

namespace SolidityAudit.Json

open Text (Wording)

mutual

/-- The form of a value inside a container, where texts are quoted. -/
def Value.nested : Value → List Char
  | .null => "None".toList
  | .bool true => "True".toList
  | .bool false => "False".toList
  | .integer value => writtenInteger value
  | .real value => value.written "inf".toList "nan".toList
  | .text value => value.quoted
  | .array [] => ['[', ']']
  | .array (item :: rest) => '[' :: item.nested ++ nestedItems rest ++ [']']
  | .object [] => ['\x7b', '\x7d']
  | .object ((name, value) :: rest) =>
      '\x7b' :: name.quoted ++ [':', ' '] ++ value.nested ++ nestedMembers rest ++ ['\x7d']

def nestedItems : List Value → List Char
  | [] => []
  | item :: rest => ',' :: ' ' :: item.nested ++ nestedItems rest

def nestedMembers : List (Wording × Value) → List Char
  | [] => []
  | (name, value) :: rest =>
      ',' :: ' ' :: name.quoted ++ [':', ' '] ++ value.nested ++ nestedMembers rest

end

/-- A text on its own stands without quotes. A value that is refused has no such form, and
nothing that was read is refused. -/
def Value.display : Value → Wording
  | .text value => value
  | value => String.ofList value.nested

end SolidityAudit.Json
