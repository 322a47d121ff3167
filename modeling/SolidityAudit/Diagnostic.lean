/-
This file defines the diagnostics that detectors report.
-/

import SolidityAudit.Json.Value

namespace SolidityAudit

open Json (Value)

inductive DetectorCategory where
  | security
  | style
  deriving DecidableEq, Repr

/-- The fields that come from a tool's report keep the values written there. -/
structure Diagnostic where
  source : String
  category : DetectorCategory
  name : Value
  description : Value
  severity : Value
  confidence : Value := .null
  line : Value := .integer 1
  column : Value := .null
  function : Value := .text "N/A"
  file : Value := .text "contract.sol"
  deriving BEq, Repr

def Diagnostic.toJson (diagnostic : Diagnostic) : Value :=
  match diagnostic.category with
  | .style =>
      .object [("rule", diagnostic.name), ("severity", diagnostic.severity),
        ("message", diagnostic.description), ("line", diagnostic.line),
        ("column", diagnostic.column), ("source", .text diagnostic.source)]
  | .security =>
      .object [("name", diagnostic.name), ("description", diagnostic.description),
        ("severity", diagnostic.severity), ("confidence", diagnostic.confidence),
        ("line", diagnostic.line), ("function", diagnostic.function),
        ("file", diagnostic.file), ("source", .text diagnostic.source)]

end SolidityAudit
