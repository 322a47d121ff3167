/-
This file words the request for a narrative summary.
-/

import SolidityAudit.Diagnostic
import SolidityAudit.Json.Shape

namespace SolidityAudit.Summary

open Json (Value ShapeFault)
open Text (Wording)

/-- The start of an excerpt. Nothing is shown of an absent one, and a list is cut by its
items. -/
def excerptStart [Host] (limit : Int) (excerpt : Value) : Except ShapeFault Wording :=
  match excerpt with
  | .text content => .ok (content.limited limit)
  | .array (item :: rest) => (Value.array (Text.limited limit (item :: rest))).shown
  | value => if value.isPresent then .error (.notIndexable value.kindName) else .ok ""

def listed (entries : List Wording) : Wording :=
  if entries.isEmpty then "- none" else Wording.joined "\n" entries

def styleLine [Host] (diagnostic : Diagnostic) : Except ShapeFault Wording := do
  let name ← diagnostic.name.shown
  let description ← diagnostic.description.shown
  return "- " ++ name ++ ": " ++ description

def securityLine [Host] (diagnostic : Diagnostic) : Except ShapeFault Wording := do
  let line ← styleLine diagnostic
  let severity ← diagnostic.severity.shown
  return line ++ " (" ++ severity ++ ")"

/-- The prompt shows the start of the source and every finding. -/
def promptFor (start : Wording) (security style : List Wording) : Wording :=
  "\nAnalyze this Solidity smart contract and provide a comprehensive summary:\n\n" ++
    "Contract Code:\n" ++ start ++ "...\n\n" ++
    "Security Issues Found:\n" ++ listed security ++ "\n\n" ++
    "Linting Issues:\n" ++ listed style ++ "\n\n" ++
    "Please provide:\n" ++
    "1. A brief overview of what this contract does\n" ++
    "2. Key security concerns and their implications\n" ++
    "3. Recommendations for improvement\n" ++
    "4. Overall risk assessment\n\n" ++
    "Keep the response concise and technical but accessible.\n"

def prompt [Host] (limit : Int) (excerpt : Value) (security style : List Diagnostic) :
    Except ShapeFault Wording := do
  let security ← security.mapM securityLine
  let style ← style.mapM styleLine
  let start ← excerptStart limit excerpt
  return promptFor start security style

end SolidityAudit.Summary
