/-
This file defines the entries of a contract's interface and their JSON form.
-/

import SolidityAudit.Json.Value

namespace SolidityAudit.Interface

open Json (Value)
open Text (Wording)

/-- The fields hold what the compiler wrote, which need not be text. A null internal type or
indexed mark is absent. -/
structure Parameter where
  type : Value
  name : Value := .text ""
  internalType : Value := .null
  indexed : Value := .null
  deriving BEq, Repr

def Parameter.toJson (parameter : Parameter) : Value :=
  let common : List (Wording × Value) :=
    [("type", parameter.type), ("name", parameter.name),
      ("internalType", parameter.internalType.orElse parameter.type)]
  match parameter.indexed with
  | .null => .object common
  | indexed => .object (common.concat ("indexed", indexed))

def Parameter.unindexed (parameter : Parameter) : Parameter := { parameter with indexed := .null }

inductive EntryKind where
  | function
  | event
  | other (label : String)
  deriving DecidableEq, Repr

structure Entry where
  kind : EntryKind
  name : Value
  inputs : List Parameter := []
  outputs : List Parameter := []
  mutability : Value := .null
  anonymous : Bool := false
  deriving BEq, Repr

def Entry.isFunction (entry : Entry) : Bool := entry.kind == .function

def Entry.isEvent (entry : Entry) : Bool := entry.kind == .event

def Entry.function (name : Value) (inputs outputs : List Parameter) (mutability : Value) : Entry :=
  { kind := .function, name := name, inputs := inputs, outputs := outputs
    mutability := mutability }

def Entry.event (name : Value) (inputs : List Parameter) (anonymous : Bool) : Entry :=
  { kind := .event, name := name, inputs := inputs, anonymous := anonymous }

/-- Whatever is no event is written as a function. -/
def Entry.toJson (entry : Entry) : Value :=
  if entry.isEvent then
    .object [("type", .text "event"), ("name", entry.name),
      ("inputs", .array (entry.inputs.map Parameter.toJson)),
      ("anonymous", .bool entry.anonymous)]
  else
    .object [("type", .text "function"), ("name", entry.name),
      ("inputs", .array (entry.inputs.map Parameter.toJson)),
      ("outputs", .array (entry.outputs.map Parameter.toJson)),
      ("stateMutability", entry.mutability)]

end SolidityAudit.Interface
