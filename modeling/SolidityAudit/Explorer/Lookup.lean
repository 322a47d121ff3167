/-
This file recognises contract addresses and looks up what the explorer knows about them.
-/

import SolidityAudit.Explorer.Bundle
import SolidityAudit.Explorer.Exchange

namespace SolidityAudit.Explorer

open Journal (Entry)
open Json (Value ShapeFault)
open Text (Wording)

def isHexDigit (character : Char) : Bool :=
  character.isDigit || ('a' ≤ character && character ≤ 'f') ||
    ('A' ≤ character && character ≤ 'F')

def addressDigitCount : Nat := 40

/-- The prefix is followed by forty hexadecimal digits, and one line feed may end the text. -/
def isAddressText : List Char → Bool
  | '0' :: 'x' :: rest =>
      let digits := rest.take addressDigitCount
      let ending := rest.drop addressDigitCount
      digits.length == addressDigitCount && digits.all isHexDigit &&
        (ending.isEmpty || ending == ['\n'])
  | _ => false

/-- An absent value is no address, and only texts can be judged otherwise. -/
def isAddress (value : Value) : Except ShapeFault Bool :=
  if !value.isPresent then .ok false
  else match value with
    | .text (.plain content) => .ok (isAddressText content.toList)
    | .text (.broken _) => .ok false
    | value => .error (.textExpected value.kindName)

abbrev Members := List (Wording × Value)

def memberOf (name : Wording) (members : Members) : Value :=
  (Json.findMember? name members).getD .null

def succeeded (answer : Members) : Bool := (memberOf "status" answer).display == "1"

/-- The first result of an answer that announces success and holds any. -/
def firstResult (answer : Members) : Value :=
  match memberOf "result" answer with
  | .array (result :: _) => if succeeded answer then result else .null
  | _ => .null

def contractQuery (module action : String) (address : Wording) : Members :=
  [("module", .text module), ("action", .text action), ("address", .text address)]

/-- A fault of the explorer ends a lookup without a value, others are passed on. -/
def settled {α β : Type} (subject : String) (missing : β) (exchange : Exchange α)
    (evaluate : α → Except Fault β × List Entry) : Exchange β :=
  match exchange.result with
  | .error fault =>
      if fault.kind.belongsTo .explorer then
        { exchange with
          result := .ok missing
          traffic := exchange.traffic.append
            { journal := [explorerNote .error ("Error fetching contract " ++ subject ++ ": " ++
              fault.message)] } }
      else { exchange with result := .error fault }
  | .ok answer =>
      let (result, entries) := evaluate answer
      { exchange with
        result := result
        traffic := exchange.traffic.append { journal := entries } }

/-- The source of a contract that is known and verified. -/
def verifiedSource [Host] (contract : Value) : Except Fault (Option Wording) × List Entry :=
  if !contract.isPresent then
    (.ok none, [explorerNote .info "Contract not found on explorer"])
  else match contract.member "SourceCode" with
    | .error fault => (.error (.shape fault), [])
    | .ok source =>
        if !source.isPresent then
          (.ok none, [explorerNote .info "Contract not verified or no source code available"])
        else ((flattenValue source).map some, [])

def Client.fetchSource [Host] (client : Client) (address : Wording)
    (outcomes : List HttpOutcome) : Exchange (Option Wording) :=
  let exchange := client.request (contractQuery "contract" "getsourcecode" address) outcomes
  let opening : Traffic :=
    { journal := [explorerNote .info ("Fetching contract source for " ++ address)] }
  settled "source" none { exchange with traffic := opening.append exchange.traffic }
    fun answer => verifiedSource (firstResult answer)

/-- The facts about a contract, with a word for those that are not known. -/
def contractFacts (contract : Value) : Except ShapeFault Value := do
  let members ← contract.members
  let fact (name default : String) : Value := (memberOf name members).orElse (.text default)
  return .object [
    ("contract_name", fact "ContractName" "Unknown"),
    ("compiler_version", fact "CompilerVersion" "Unknown"),
    ("optimization_used", fact "OptimizationUsed" "Unknown"),
    ("runs", fact "Runs" "Unknown"),
    ("constructor_arguments", fact "ConstructorArguments" ""),
    ("evm_version", fact "EVMVersion" "Unknown"),
    ("license_type", fact "LicenseType" "Unknown"),
    ("proxy", .bool (memberOf "Proxy" members == .text "1")),
    ("implementation", fact "Implementation" "")]

def Client.fetchFacts [Host] (client : Client) (address : Wording)
    (outcomes : List HttpOutcome) : Exchange (Option Value) :=
  let exchange := client.request (contractQuery "contract" "getsourcecode" address) outcomes
  settled "info" none exchange fun answer =>
    let contract := firstResult answer
    if !contract.isPresent then (.ok none, [])
    else ((contractFacts contract).mapError Fault.shape |>.map some, [])

/-- The interface is published as a JSON text inside the answer. -/
def publishedInterface [Host] (answer : Members) : Except Fault (Option Value) × List Entry :=
  let result := memberOf "result" answer
  if !succeeded answer || !result.isPresent then (.ok none, [])
  else
    let unreadable := [explorerNote .warning ("Explorer ABI is not valid JSON: " ++
      Fault.malformedDocument.message)]
    match result with
    | .text content => match Json.readString content with
        | .ok interface => (.ok (some interface), [])
        | .error .malformed => (.ok none, unreadable)
        | .error fault => (.error (Fault.ofReading fault), [])
    | _ => (.ok none, unreadable)

def Client.fetchInterface [Host] (client : Client) (address : Wording)
    (outcomes : List HttpOutcome) : Exchange (Option Value) :=
  let exchange := client.request (contractQuery "contract" "getabi" address) outcomes
  settled "ABI" none exchange publishedInterface

def bytecodeOf (answer : Members) : Option Wording :=
  match memberOf "result" answer with
  | .text content => if content == "" then none else some content
  | _ => none

def Client.fetchBytecode [Host] (client : Client) (address : Wording)
    (outcomes : List HttpOutcome) : Exchange (Option Wording) :=
  let query := (contractQuery "proxy" "eth_getCode" address).concat ("tag", .text "latest")
  settled "bytecode" none (client.request query outcomes) fun answer =>
    (.ok (bytecodeOf answer), [])

/-- A contract exists where there is code beyond the bare prefix. -/
def Client.confirmExistence [Host] (client : Client) (address : Wording)
    (outcomes : List HttpOutcome) : Exchange Bool :=
  let exchange := client.fetchBytecode address outcomes
  { exchange with
    result := exchange.result.map fun code => code.any fun code : Wording => code != "0x" }

end SolidityAudit.Explorer
