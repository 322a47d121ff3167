/-
This file asks the explorer and repeats requests that fail.
-/

import SolidityAudit.Fault
import SolidityAudit.Journal.Entry
import SolidityAudit.Number.Shortest
import SolidityAudit.Settings

namespace SolidityAudit.Explorer

open Journal (Entry)
open Json (Value)
open Text (Wording)

/-- A request fails on the way or is answered. -/
inductive HttpOutcome where
  | failed (fault : Fault)
  | answered (status : Int) (reason body : String)

structure Request where
  url : String
  parameters : List (Wording × Value)
  timeout : Int
  deriving BEq, Repr

structure Client where
  url : String
  key : Option String := none
  timeout : Int := 30
  attempts : Int := 3
  baseDelay : Quantity := .fractional (Binary64.ofDecimal false 1 1 0)
  deriving DecidableEq, Repr

def Client.ofSettings (settings : Settings) : Client where
  url := settings.explorerUrl
  key := settings.explorerKey
  timeout := settings.explorerTimeout

def explorerChannel : String := Journal.channelNamed "explorer"

def explorerNote (level : Journal.Level) (message : Wording) : Entry :=
  ⟨level, explorerChannel, message⟩

def explorerFault (reason : String) : Fault := .explorer reason .medium []

/-- What was sent, waited and noted. -/
structure Traffic where
  requests : List Request := []
  delays : List Quantity := []
  journal : List Entry := []

def Traffic.append (first second : Traffic) : Traffic where
  requests := first.requests ++ second.requests
  delays := first.delays ++ second.delays
  journal := first.journal ++ second.journal

/-- The result of an exchange and the outcomes left for later requests. -/
structure Exchange (α : Type) where
  result : Except Fault α
  traffic : Traffic
  outcomes : List HttpOutcome

/-- The last outcome stays for all later requests. -/
def nextOutcome : List HttpOutcome → HttpOutcome × List HttpOutcome
  | [] => (.failed (.plain .connection "no response scripted"), [])
  | [outcome] => (outcome, [outcome])
  | outcome :: rest => (outcome, rest)

/-- The statuses from 400 to 599 refuse the request. -/
def HttpOutcome.body (url : String) : HttpOutcome → Except Fault String
  | .failed fault => .error fault
  | .answered status reason body =>
      let refusal (kind : String) : Fault :=
        .plain .request (toString status ++ " " ++ kind ++ " Error: " ++ reason ++
          " for url: " ++ url)
      if 400 ≤ status && status < 500 then .error (refusal "Client")
      else if 500 ≤ status && status < 600 then .error (refusal "Server")
      else .ok body

def Client.query (client : Client) (parameters : List (Wording × Value)) :
    List (Wording × Value) :=
  match client.key with
  | none | some "" => parameters
  | some key => Json.putMember "apikey" (.text key) parameters

def retryNote (client : Client) (attempt : Nat) (delay : Quantity) (fault : Fault) : Entry :=
  explorerNote .warning ("Explorer request failed (attempt " ++ toString (attempt + 1) ++ "/" ++
    toString client.attempts ++ "), retrying in " ++ delay.display ++ "s: " ++ fault.message)

/-- The delay after an attempt doubles each time. It has to be within its range and short
enough to be written. -/
def Client.delayAfter [Host] (client : Client) (attempt : Nat) : Except Fault Quantity :=
  match client.baseDelay.timesPowerOfTwo? attempt with
  | none => .error (.plain .outOfRange "int too large to convert to float")
  | some delay => match delay.unwritable? with
      | some limit => .error (.ofObstacle (.oversized limit))
      | none => .ok delay

def endlessPause : Quantity → Fault
  | .whole _ => .plain .outOfRange "timestamp too large to convert to C _PyTime_t"
  | .fractional _ => .plain .outOfRange "timestamp out of range for platform time_t"

/-- Why a host refuses to wait. -/
def pauseFault? [Host] (delay : Quantity) : Option Fault :=
  match Host.longestPause with
  | none => none
  | some limit =>
      if delay = .fractional .notANumber then
        some (.plain .badValue "Invalid value NaN (not a number)")
      else if delay.reaches limit then some (endlessPause delay)
      else if delay.isNegative then some (.plain .badValue "sleep length must be non-negative")
      else none

/-- Each attempt after the first waits twice as long as the one before. Only failures of
requests are repeated, and the note of one stands before the pause. -/
def Client.attemptFrom [Host] (client : Client) (request : Request) :
    (remaining attempt : Nat) → List HttpOutcome → Exchange String
  | 0, _, outcomes => ⟨.error (explorerFault "Explorer request was not attempted"), {}, outcomes⟩
  | remaining + 1, attempt, outcomes =>
      let (outcome, outcomes) := nextOutcome outcomes
      let sent : Traffic := { requests := [request] }
      match outcome.body client.url with
      | .ok body => ⟨.ok body, sent, outcomes⟩
      | .error fault =>
          if !fault.kind.belongsTo .request then ⟨.error fault, sent, outcomes⟩
          else if remaining == 0 then
            ⟨.error (explorerFault ("Network error after " ++ toString client.attempts ++
              " attempts: " ++ fault.message)), sent, outcomes⟩
          else match client.delayAfter attempt with
            | .error fault => ⟨.error fault, sent, outcomes⟩
            | .ok delay =>
                let noted : Traffic :=
                  { sent with journal := [retryNote client attempt delay fault] }
                match pauseFault? delay with
                | some fault => ⟨.error fault, noted, outcomes⟩
                | none =>
                    let exchange := client.attemptFrom request remaining (attempt + 1) outcomes
                    let waited : Traffic := { noted with delays := [delay] }
                    { exchange with traffic := waited.append exchange.traffic }

/-- The explorer answers with a JSON object. -/
def decodeAnswer [Host] (body : String) : Except Fault (List (Wording × Value)) :=
  match Json.readString body with
  | .error (.tooDeep container) => .error (.tooDeep container)
  | .error fault => .error (explorerFault ("Explorer returned invalid JSON: " ++
      (Fault.ofReading fault).message))
  | .ok (.object members) => .ok members
  | .ok value => .error (explorerFault ("Explorer returned an unexpected payload: " ++
      value.kindName))

def Client.request [Host] (client : Client) (parameters : List (Wording × Value))
    (outcomes : List HttpOutcome) : Exchange (List (Wording × Value)) :=
  let request : Request := ⟨client.url, client.query parameters, client.timeout⟩
  let exchange := client.attemptFrom request client.attempts.toNat 0 outcomes
  ⟨exchange.result.bind decodeAnswer, exchange.traffic, exchange.outcomes⟩

end SolidityAudit.Explorer
