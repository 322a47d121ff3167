/-
This file grades a contract by its score and the names of its findings.
-/

import SolidityAudit.Risk.Score

namespace SolidityAudit.Risk

open Json (Value ShapeFault)
open Text (Wording)

inductive Grade where
  | a
  | b
  | c
  deriving DecidableEq, Repr

def Grade.label : Grade → String
  | .a => "A"
  | .b => "B"
  | .c => "C"

def Grade.ofLabel? : String → Option Grade
  | "A" => some .a
  | "B" => some .b
  | "C" => some .c
  | _ => none

/-- Names of findings that force the worst grade contain one of these. -/
def escalationMarkers : List String :=
  ["proxy", "upgradeable", "mint", "unrestricted", "suicide", "selfdestruct"]

def loweredName (diagnostic : Diagnostic) : Except ShapeFault Wording :=
  ((diagnostic.name.orElse (.text "")).wording "lower").map Wording.lower

/-- The search for a marker stops at the first name that has one. -/
def hasMarker (markers : List String) : List Diagnostic → Except ShapeFault Bool
  | [] => .ok false
  | diagnostic :: rest => do
      let name ← loweredName diagnostic
      if markers.any name.mentions then return true
      else hasMarker markers rest

def worstGradeAbove : Int := 70

def bestGradeUpTo : Int := 40

/-- Names matter only where the score alone does not force the worst grade. -/
def grade (score : Int) (security : List Diagnostic) : Except ShapeFault Grade := do
  if score > worstGradeAbove then return .c
  else if ← hasMarker escalationMarkers security then return .c
  else if score > bestGradeUpTo then return .b
  else return .a

/-- Names of critical findings contain one of these. -/
def criticalMarkers : List String := ["reentrancy", "overflow", "access-control"]

def highCount (security : List Diagnostic) : Except ShapeFault Nat :=
  (severityCounts security).map fun counts => (counts.lookup (Wording.plain "high")).getD 0

/-- Warnings before deployment tell the number of severe findings and whether one of them is
critical by name. -/
def deploymentWarnings (security : List Diagnostic) : Except ShapeFault (List String) := do
  let high ← highCount security
  let critical ← hasMarker criticalMarkers security
  return (if high > 0 then ["⚠️ " ++ toString high ++ " high severity issues found"] else []) ++
    (if critical then ["🚨 Critical security vulnerabilities detected"] else [])

end SolidityAudit.Risk
