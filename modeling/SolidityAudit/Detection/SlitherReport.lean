/-
This file reads the report of the security detector.
-/

import SolidityAudit.Detection.Label
import SolidityAudit.Diagnostic
import SolidityAudit.Json.Shape

namespace SolidityAudit.Detection.Slither

open Json (Value ShapeFault)
open Text (Wording)

def toolName : String := "slither"

/-- The first line of the source mapping counts before a line of the element itself. -/
def elementLine [Host] (element : Value) : Except ShapeFault Int := do
  let mapping := (← element.member "source_mapping").orElse (.object [])
  let lines ← mapping.member "lines"
  if lines.isPresent then
    let line ← lines.front
    line.toInteger
  else
    match ← element.member "line" with
    | .null => return 1
    | line => line.toInteger

/-- An element that describes a function and has a name gives that name. -/
def functionName? (element : Value) : Except ShapeFault (Option Value) := do
  let type ← element.member "type"
  let name ← element.member "name"
  return if type == .text "function" && name.isPresent then some name else none

/-- The function is named by the element, is the element, or is its parent. -/
def elementFunction (element : Value) : Except ShapeFault Value := do
  let name ← element.member "function_name"
  if name.isPresent then return name
  match ← functionName? element with
  | some name => return name
  | none =>
      let fields := (← element.member "type_specific_fields").orElse (.object [])
      let parent := (← fields.member "parent").orElse (.object [])
      return (← functionName? parent).getD (.text "N/A")

def elementFile (element : Value) : Except ShapeFault Value := do
  let mapping := (← element.member "source_mapping").orElse (.object [])
  let short ← mapping.member "filename_short"
  let long ← element.member "filename"
  return (short.orElse long).orElse (.text "contract.sol")

def trimmedDescription (detector : Value) : Except ShapeFault Wording := do
  let description ← detector.member "description"
  let text ← (description.orElse (.text "")).wording "strip"
  return text.trim

/-- One finding of a detector at one element. -/
def diagnosticOf [Host] (detector element : Value) : Except ShapeFault Diagnostic := do
  let name ← detector.memberOr "check" (.text "unknown")
  let description ← trimmedDescription detector
  let impact ← detector.member "impact"
  let confidence ← detector.member "confidence"
  let line ← elementLine element
  let function ← elementFunction element
  let file ← elementFile element
  return { source := toolName
           category := .security
           name := name
           description := .text description
           severity := .text (impactLabel impact)
           confidence := confidence
           line := .integer line
           function := function
           file := file }

def detectorDiagnostics [Host] (detector : Value) : Except ShapeFault (List Diagnostic) := do
  let elements ← ((← detector.member "elements").orElse (.array [])).elements
  elements.mapM (diagnosticOf detector)

def detectorsOf (report : Value) : Except ShapeFault (List Value) := do
  let results := (← report.member "results").orElse (.object [])
  ((← results.member "detectors").orElse (.array [])).elements

/-- Every pair of a detector and one of its elements gives a diagnostic. -/
def reportDiagnostics [Host] (report : Value) : Except ShapeFault (List Diagnostic) := do
  let detectors ← detectorsOf report
  let groups ← detectors.mapM detectorDiagnostics
  return groups.flatten

/-- A report is usable, or says why it gives no diagnostics. -/
inductive Reading where
  | unusable (reason : Wording)
  | usable (diagnostics : Except ShapeFault (List Diagnostic))

def read [Host] (report : Value) : Reading :=
  match report with
  | .object members =>
      match Json.findMember? "success" members with
      | some (.bool false) =>
          .unusable ("Slither reported a failure: " ++
            ((Json.findMember? "error" members).getD .null).display)
      | _ => .usable (reportDiagnostics report)
  | _ => .unusable "Slither report is not a JSON object"

end SolidityAudit.Detection.Slither
