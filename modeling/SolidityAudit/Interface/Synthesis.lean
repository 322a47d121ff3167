/-
This file takes the interface from the compiler's output, or from the source text when the
output gives none.
-/

import SolidityAudit.Fault
import SolidityAudit.Interface.Decoding
import SolidityAudit.Interface.Signature
import SolidityAudit.Journal.Entry

namespace SolidityAudit.Interface

open Json (Value ShapeFault)
open Text (Wording)

/-- The compiler either fails or returns a JSON value. -/
inductive CompilerOutcome where
  | failed (fault : Fault)
  | returned (output : Value)

def sourceName : String := "contract.sol"

/-- The request asks for the interface of every contract in the one source file. -/
def compilerInput (source : Option String) : Value :=
  .object [
    ("language", .text "Solidity"),
    ("sources", .object [(sourceName, .object [("content",
      Value.ofText? (source.map Wording.plain))])]),
    ("settings", .object [("outputSelection", .object [("*", .object [("*",
      Value.ofTexts ["abi", "evm.bytecode"])])])])]

/-- The compiler's own messages are noted one by one, and reading stops at the first item
that is no message. -/
def messagesOf [Host] : List Value → List Wording × Option ShapeFault
  | [] => ([], none)
  | item :: rest =>
      let message := do
        let short ← item.memberOr "message" (.text "")
        let message ← item.memberOr "formattedMessage" short
        message.shown
      match message with
      | .error fault => ([], some fault)
      | .ok message =>
          let (others, fault?) := messagesOf rest
          (message :: others, fault?)

/-- The item at a signed position, where a negative one counts from the end. -/
def itemAt (items : List Value) (index : Int) : Except ShapeFault Value :=
  let position := if index < 0 then index + items.length else index
  if position < 0 then .error .missingIndex
  else match items[position.toNat]? with
    | some item => .ok item
    | none => .error .missingIndex

/-- The contract under the first key. A list is indexed by its own first item. -/
def firstContract : Value → Except ShapeFault Value
  | .object ((_, contract) :: _) => .ok contract
  | .array (.integer index :: rest) => itemAt (.integer index :: rest) index
  | .array (.bool index :: rest) => itemAt (.bool index :: rest) (if index then 1 else 0)
  | .object [] | .array [] => .error .missingIndex
  | .array _ | .text _ => .error .badIndex
  | value => .error (.notIterable value.kindName)

/-- The interface of the first contract, or nothing when there is no contract. -/
def contractInterface? (output : Value) : Except ShapeFault (Option Value) := do
  let units ← output.member "contracts"
  let contracts ← (units.orElse (.object [])).member sourceName
  if contracts.isPresent then
    let contract ← firstContract contracts
    let interface ← contract.member "abi"
    return some (interface.orElse (.array []))
  else return none

/-- The request to the compiler, which may name the version to use. -/
structure CompilerRequest where
  input : Value
  version : Option String
  deriving BEq, Repr

/-- What the compiler's output yields, with the messages seen on the way. -/
structure Compilation where
  messages : List Wording
  interface? : Except Fault (Option Value)

def compilationOf [Host] : CompilerOutcome → Compilation
  | .failed fault => ⟨[], .error fault⟩
  | .returned output =>
      let items := do
        let errors ← output.member "errors"
        (errors.orElse (.array [])).elements
      match items with
      | .error fault => ⟨[], .error (.shape fault)⟩
      | .ok items => match messagesOf items with
          | (messages, some fault) => ⟨messages, .error (.shape fault)⟩
          | (messages, none) => ⟨messages, (contractInterface? output).mapError Fault.shape⟩

structure Synthesis where
  request : CompilerRequest
  entries : List Entry
  journal : List Journal.Entry

def synthesisChannel : String := Journal.channelNamed "abi_builder"

def synthesisNote (level : Journal.Level) (message : Wording) : Journal.Entry :=
  ⟨level, synthesisChannel, message⟩

def scannedSynthesis (request : CompilerRequest) (source : Option String)
    (journal : List Journal.Entry) : Synthesis :=
  let entries := ofSource (source.getD "")
  { request := request
    entries := entries
    journal := journal ++ [synthesisNote .info
      ("Manual ABI generated with " ++ toString entries.length ++ " items")] }

def fallbackNotes (fault : Fault) : List Journal.Entry :=
  [synthesisNote .warning ("ABI generation failed with solc: " ++ fault.message),
    synthesisNote .info "Falling back to manual ABI generation..."]

/-- The result is the compiler's whole interface or the scan of the source, never a part of
the one or a mixture of both. -/
def synthesise [Host] (version source : Option String) (outcome : CompilerOutcome) : Synthesis :=
  let request : CompilerRequest := ⟨compilerInput source, version⟩
  let compilation := compilationOf outcome
  let journal := compilation.messages.map fun message =>
    synthesisNote .debug ("Compilation message: " ++ message)
  match compilation.interface? with
  | .error fault => scannedSynthesis request source (journal ++ fallbackNotes fault)
  | .ok none => scannedSynthesis request source (journal ++ [synthesisNote .warning
      "No contracts found in compilation output, using manual ABI generation..."])
  | .ok (some interface) => match interface.count with
      | .error fault => scannedSynthesis request source (journal ++ fallbackNotes (.shape fault))
      | .ok count =>
          let journal := journal ++ [synthesisNote .info
            ("ABI generated successfully with " ++ toString count ++ " entries")]
          match ofJson interface with
          | .error fault =>
              scannedSynthesis request source (journal ++ fallbackNotes (.shape fault))
          | .ok entries => ⟨request, entries, journal⟩

end SolidityAudit.Interface
