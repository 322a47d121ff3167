/-
This file brings the severity labels of tools to one spelling.
-/

import SolidityAudit.Json.Display

namespace SolidityAudit.Detection

open Json (Value)
open Text (Wording)

/-- The words for an impact and their spelling in diagnostics. -/
def impactLabels : List (Wording × Wording) := [
  ("high", "High"),
  ("medium", "Medium"),
  ("low", "Low"),
  ("informational", "Informational"),
  ("optimization", "Optimization")]

/-- An unknown impact keeps its own words without the white space around them. -/
def impactLabel (impact : Value) : Wording :=
  match impact with
  | .null => ""
  | impact =>
      let text := impact.display.trim
      (impactLabels.lookup text.lower).getD text

/-- The words for a severity and their spelling in diagnostics. -/
def severityLabels : List (Wording × Wording) := [("error", "Error"), ("warning", "Warning")]

/-- Severities are given by number or by word. -/
def severityLabel (severity : Value) : Wording :=
  match severity with
  | .null => ""
  | .integer 2 => "Error"
  | .integer 1 => "Warning"
  | severity =>
      let text := severity.display.trim
      (severityLabels.lookup text.lower).getD text

end SolidityAudit.Detection
