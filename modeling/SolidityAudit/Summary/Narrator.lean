/-
This file asks a chat model for a narrative summary. The faults of such optional work become
journal entries.
-/

import SolidityAudit.Fault
import SolidityAudit.Journal.Entry
import SolidityAudit.Number.Shortest
import SolidityAudit.Settings
import SolidityAudit.Summary.Prompt

namespace SolidityAudit

open Journal (Entry)

def guardChannel : String := "contractlens.utils.error_handling"

/-- No families, or none listed, means that every fault is handled. -/
def isHandled (families : Option (List FaultKind)) (kind : FaultKind) : Bool :=
  match families with
  | none => true
  | some [] => true
  | some listed => listed.any kind.belongsTo

/-- A handled fault is noted under the task's name and replaced by the default. -/
def guarded {α : Type} (task : String) (families : Option (List FaultKind)) (default : α) :
    Except Fault α → Except Fault α × List Entry
  | .ok value => (.ok value, [])
  | .error fault =>
      if isHandled families fault.kind then
        (.ok default, [⟨.error, guardChannel, "Error in " ++ task ++ ": " ++ fault.message⟩])
      else (.error fault, [])

namespace Summary

open Json (Value)
open Text (Wording)

/-- The model fails or offers choices, each with or without content. -/
inductive ChatOutcome where
  | failed (fault : Fault)
  | answered (choices : List (Option Wording))

structure ChatRequest where
  model : String
  prompt : Wording
  maximalTokens : Int
  temperature : Quantity
  deriving DecidableEq, Repr

structure Narrator where
  key : String
  model : String := "gpt-3.5-turbo"
  maximalTokens : Int := 500
  temperature : Quantity := .fractional (Binary64.ofDecimal false 3 1 (-1))
  excerptLimit : Int := 2000
  deriving DecidableEq, Repr

/-- Without a key there is no narrator. -/
def Narrator.ofSettings? (settings : Settings) : Option Narrator :=
  match settings.chatKey with
  | none | some "" => none
  | some key => some
      { key := key, model := settings.chatModel, excerptLimit := settings.excerptLimit }

/-- The summary, the requests made for it and the notes. -/
structure Narration where
  result : Except Fault (Option Wording)
  requests : List ChatRequest := []
  journal : List Entry := []

def narratorChannel : String := Journal.channelNamed "summarizer"

/-- The first choice counts, and empty content is no summary. -/
def firstContent : List (Option Wording) → Except Fault (Option Wording)
  | [] => .error (.plain .missingIndex "list index out of range")
  | none :: _ => .ok none
  | some content :: _ =>
      .ok (if content == "" then none else some content.trim)

def answeredContent : ChatOutcome → Except Fault (Option Wording)
  | .failed fault => .error fault
  | .answered choices => firstContent choices

def emptyAnswerNotes : Except Fault (Option Wording) → List Entry
  | .ok none => [⟨.warning, narratorChannel, "Summarizer returned an empty response"⟩]
  | _ => []

/-- The request for a summary, unless the excerpt cannot be shown. -/
def Narrator.request [Host] (narrator : Narrator) (excerpt : Value)
    (security style : List Diagnostic) : Except Fault ChatRequest := do
  let prompt ← (prompt narrator.excerptLimit excerpt security style).mapError Fault.shape
  return { model := narrator.model
           prompt := prompt
           maximalTokens := narrator.maximalTokens
           temperature := narrator.temperature }

/-- A failure on the way to a summary is noted and gives none. -/
def Narrator.narrate [Host] (narrator : Narrator) (outcome : ChatOutcome) (excerpt : Value)
    (security style : List Diagnostic) : Narration :=
  let request := narrator.request excerpt security style
  let content := request.bind fun _ => answeredContent outcome
  let (result, notes) := guarded "summarize" none none content
  { result := result
    requests := request.toOption.toList
    journal := emptyAnswerNotes content ++ notes }

end Summary

end SolidityAudit
