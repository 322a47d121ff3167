/-
This file reads the report of the style linter.
-/

import SolidityAudit.Detection.Label
import SolidityAudit.Diagnostic
import SolidityAudit.Json.Shape

namespace SolidityAudit.Detection.Solhint

open Json (Value ShapeFault)

def toolName : String := "solhint"

def diagnosticOf [Host] (message : Value) : Except ShapeFault Diagnostic := do
  let column ← message.member "column"
  let rule ← message.member "ruleId"
  let description ← message.memberOr "message" (.text "")
  let severity ← message.member "severity"
  let line ← ((← message.member "line").orElse (.integer 1)).toInteger
  let column ← match column with
    | .null => pure Value.null
    | column => column.toInteger.map Value.integer
  return { source := toolName
           category := .style
           name := rule.orElse (.text "unknown")
           description := description
           severity := .text (severityLabel severity)
           line := .integer line
           column := column }

/-- An item is a file with its messages or a message by itself. Other items are passed over. -/
def messagesOf (item : Value) : Except ShapeFault (List Value) :=
  match item with
  | .object members =>
      match Json.findMember? "messages" members with
      | some messages => (messages.orElse (.array [])).elements
      | none => .ok (if (Json.findMember? "ruleId" members).isSome then [item] else [])
  | _ => .ok []

def itemDiagnostics [Host] (item : Value) : Except ShapeFault (List Diagnostic) := do
  let messages ← messagesOf item
  messages.mapM diagnosticOf

/-- A single object stands for a list of one. -/
def itemsOf (report : Value) : Except ShapeFault (List Value) :=
  match report with
  | .object _ => .ok [report]
  | report => report.elements

def reportDiagnostics [Host] (report : Value) : Except ShapeFault (List Diagnostic) := do
  let items ← itemsOf report
  let groups ← items.mapM itemDiagnostics
  return groups.flatten

end SolidityAudit.Detection.Solhint
