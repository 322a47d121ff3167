/-
This file reads interface entries from the JSON form that compilers write.
-/

import SolidityAudit.Interface.Entry
import SolidityAudit.Json.Shape

namespace SolidityAudit.Interface

open Json (Value ShapeFault)

def parameterOfJson (keepIndexed : Bool) (item : Value) : Except ShapeFault Parameter := do
  let type ← item.memberOr "type" (.text "")
  let name ← item.memberOr "name" (.text "")
  let internalType ← item.member "internalType"
  let indexed ← item.member "indexed"
  return { type := type, name := name, internalType := internalType
           indexed := if keepIndexed then indexed else .null }

def parametersOfJson (keepIndexed : Bool) (items : Value) : Except ShapeFault (List Parameter) := do
  let items ← (items.orElse (.array [])).elements
  items.mapM (parameterOfJson keepIndexed)

/-- Entries other than functions and events are passed over. -/
def entryOfJson? (item : Value) : Except ShapeFault (Option Entry) := do
  match ← item.member "type" with
  | .text "function" =>
      let name ← item.memberOr "name" (.text "")
      let inputs ← parametersOfJson false (← item.member "inputs")
      let outputs ← parametersOfJson false (← item.member "outputs")
      let mutability ← item.memberOr "stateMutability" (.text "nonpayable")
      return some (Entry.function name inputs outputs mutability)
  | .text "event" =>
      let name ← item.memberOr "name" (.text "")
      let inputs ← parametersOfJson true (← item.member "inputs")
      let anonymous ← item.memberOr "anonymous" (.bool false)
      return some (Entry.event name inputs anonymous.isPresent)
  | _ => return none

/-- One entry that cannot be read refuses the whole interface. -/
def ofJson (interface : Value) : Except ShapeFault (List Entry) := do
  let items ← interface.elements
  let entries ← items.mapM entryOfJson?
  return entries.filterMap id

end SolidityAudit.Interface
