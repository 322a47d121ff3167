/-
This file weighs diagnostics by their severity.
-/

import SolidityAudit.Diagnostic
import SolidityAudit.Json.Shape

namespace SolidityAudit.Risk

open Json (Value ShapeFault)
open Text (Wording)

def securityWeights : List (Wording × Nat) :=
  [("high", 25), ("medium", 15), ("low", 5), ("informational", 1)]

def styleWeights : List (Wording × Nat) := [("error", 3), ("warning", 1)]

def maximalScore : Nat := 100

/-- White space around a label and the case of its letters do not matter. -/
def labelWeight (weights : List (Wording × Nat)) (label : Wording) : Nat :=
  (weights.lookup label.trim.lower).getD 0

/-- An absent severity weighs nothing. -/
def severityWeight (weights : List (Wording × Nat)) (severity : Value) : Except ShapeFault Nat :=
  ((severity.orElse (.text "")).wording "strip").map (labelWeight weights)

def totalWeight (weights : List (Wording × Nat)) (diagnostics : List Diagnostic) :
    Except ShapeFault Nat := do
  let parts ← diagnostics.mapM fun diagnostic => severityWeight weights diagnostic.severity
  return parts.foldr Nat.add 0

/-- The score is the sum of all weights and stops at its maximum. -/
def score (security style : List Diagnostic) : Except ShapeFault Nat := do
  let securityWeight ← totalWeight securityWeights security
  let styleWeight ← totalWeight styleWeights style
  return min maximalScore (securityWeight + styleWeight)

/-- One more occurrence of a label, where new labels go to the end. -/
def countLabel (label : Wording) : List (Wording × Nat) → List (Wording × Nat)
  | [] => [(label, 1)]
  | (other, count) :: rest =>
      if other == label then (other, count + 1) :: rest
      else (other, count) :: countLabel label rest

def severityKey (severity : Value) : Except ShapeFault Wording :=
  ((severity.orElse (.text "unknown")).wording "lower").map Wording.lower

/-- The number of diagnostics of each severity, in the order of first appearance. -/
def severityCounts (diagnostics : List Diagnostic) : Except ShapeFault (List (Wording × Nat)) := do
  let keys ← diagnostics.mapM fun diagnostic => severityKey diagnostic.severity
  return keys.foldl (fun counts key => countLabel key counts) []

end SolidityAudit.Risk
