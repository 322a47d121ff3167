import SolidityAudit.Detection.SolhintReport
import SolidityAudit.Proofs.Outcome

namespace SolidityAudit.Detection.Solhint

open Json (Value ShapeFault)
open Text (Wording)

/-- A message that can stand by itself: it names its rule and lists no other messages. -/
structure Message where
  members : List (Wording × Value)
  ruled : (Json.findMember? "ruleId" members).isSome = true
  single : Json.findMember? "messages" members = none

/-- A message as a value. -/
def Message.value (message : Message) : Value := .object message.members

/-- A file with its messages. -/
structure FileReport where
  members : List (Wording × Value)
  messages : List Message
  listed : Json.findMember? "messages" members = some (.array (messages.map Message.value))

/-- A file as a value. -/
def FileReport.value (file : FileReport) : Value := .object file.members

/-- A message by itself is its own list. -/
theorem Message.messagesOf_eq (message : Message) :
    messagesOf message.value = .ok [message.value] := by
  simp only [messagesOf, value, message.single, message.ruled, if_true]

/-- A file has the messages that it lists. -/
theorem FileReport.messagesOf_eq (file : FileReport) :
    messagesOf file.value = .ok (file.messages.map Message.value) := by
  simp only [messagesOf, value, file.listed]
  cases file.messages with
  | nil => rfl
  | cons first others => rfl

variable [Host]

/-- Where the messages of every item are known, a report gives the diagnostics of all of them. -/
theorem reportDiagnostics_items {α : Type} {item : α → Value} {messages : α → List Value}
    (known : ∀ entry, messagesOf (item entry) = .ok (messages entry)) (entries : List α) :
    reportDiagnostics (.array (entries.map item)) =
      (entries.flatMap messages).mapM diagnosticOf := by
  have each (entry : α) : itemDiagnostics (item entry) = (messages entry).mapM diagnosticOf := by
    rw [itemDiagnostics, known]
    rfl
  rw [← mapM_parts fun entry _ => each entry, ← Function.comp_def, ← List.mapM_map]
  rfl

/-- However messages are grouped into files, the report gives what the list of all messages gives.
-/
theorem reportDiagnostics_regrouped (files : List FileReport) :
    reportDiagnostics (.array (files.map FileReport.value)) =
        reportDiagnostics (.array ((files.flatMap FileReport.messages).map Message.value)) ∧
      reportDiagnostics (.array (files.map FileReport.value)) =
        ((files.flatMap FileReport.messages).map Message.value).mapM diagnosticOf := by
  have grouped : reportDiagnostics (.array (files.map FileReport.value)) =
      ((files.flatMap FileReport.messages).map Message.value).mapM diagnosticOf := by
    rw [reportDiagnostics_items FileReport.messagesOf_eq, List.map_flatMap]
  have flat : reportDiagnostics (.array ((files.flatMap FileReport.messages).map Message.value)) =
      ((files.flatMap FileReport.messages).map Message.value).mapM diagnosticOf := by
    rw [reportDiagnostics_items Message.messagesOf_eq, ← List.map_eq_flatMap]
  exact ⟨grouped.trans flat.symm, grouped⟩

example : reportDiagnostics (.array [
    .object [("messages", .array [.object [("ruleId", .text "quotes")]])],
    .object [("messages", .array [.object [("ruleId", .null), ("line", .text "x")]])]]) =
      .error (.badNumeral "x") := rfl

end SolidityAudit.Detection.Solhint
