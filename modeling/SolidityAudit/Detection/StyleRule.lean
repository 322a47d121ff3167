/-
This file judges the lines of a source text.
-/

import SolidityAudit.Diagnostic
import SolidityAudit.Journal.Entry
import SolidityAudit.Text.Piece

namespace SolidityAudit.Detection

open Text

inductive StyleRule where
  | missingLicense
  | longLine
  | consecutiveBlankLines
  | trailingBlank
  deriving DecidableEq, Repr

def maximalLineLength : Nat := 120

def StyleRule.label : StyleRule → String
  | .missingLicense => "spdx-license-identifier"
  | .longLine => "max-line-length"
  | .consecutiveBlankLines => "no-consecutive-blank-lines"
  | .trailingBlank => "no-trailing-whitespace"

def StyleRule.message : StyleRule → String
  | .missingLicense => "Missing SPDX license identifier"
  | .longLine => "Line too long (max " ++ toString maximalLineLength ++ " characters)"
  | .consecutiveBlankLines => "Multiple consecutive blank lines"
  | .trailingBlank => "Trailing whitespace"

/-- Lines and columns count from one. -/
structure StyleIssue where
  rule : StyleRule
  line : Nat
  column : Nat
  deriving DecidableEq, Repr

def namesLicense (line : List Char) : Bool :=
  occursIn "SPDX-License-Identifier".toList (trim line)

def isLong (line : List Char) : Bool := maximalLineLength < (trim line).length

def isBlankLine (line : List Char) : Bool := (trim line).isEmpty

def endsBlank (line : List Char) : Bool :=
  line.getLast? == some ' ' || line.getLast? == some '\t'

/-- The issues of one line, in the order of the rules. The license belongs on the first line,
and a blank line is an issue when the next one is blank too. -/
def lineIssues (number : Nat) (line : List Char) (next : Option (List Char)) : List StyleIssue :=
  (if number == 1 && !namesLicense line then [⟨.missingLicense, number, 1⟩] else []) ++
  (if isLong line then [⟨.longLine, number, 1⟩] else []) ++
  (if isBlankLine line && next.any isBlankLine then [⟨.consecutiveBlankLines, number, 1⟩]
    else []) ++
  (if endsBlank line then [⟨.trailingBlank, number, line.length⟩] else [])

def issuesFrom (number : Nat) : List (List Char) → List StyleIssue
  | [] => []
  | line :: rest => lineIssues number line rest.head? ++ issuesFrom (number + 1) rest

def styleIssues (source : String) : List StyleIssue := issuesFrom 1 (lines source.toList)

def styleRuleSource : String := "heuristic-style"

def StyleIssue.toDiagnostic (issue : StyleIssue) : Diagnostic where
  source := styleRuleSource
  category := .style
  name := .text issue.rule.label
  description := .text issue.rule.message
  severity := .text "Warning"
  line := .integer issue.line
  column := .integer issue.column

def styleScan (source : String) : List Diagnostic :=
  (styleIssues source).map StyleIssue.toDiagnostic

def styleScanNote (diagnostics : List Diagnostic) : Journal.Entry :=
  ⟨.info, Journal.channelNamed "analyzer.HeuristicStyleAnalyzer",
    "Heuristic style scan produced " ++ toString diagnostics.length ++ " issues"⟩

end SolidityAudit.Detection
