/-
This file lists the declarations of a source text.
-/

import SolidityAudit.Json.Value
import SolidityAudit.Source.Anchor

namespace SolidityAudit.Source

open Json (Value)

structure FunctionDeclaration where
  name : String
  visibility : String := "internal"
  mutability : String := "non-payable"
  deriving DecidableEq, Repr

structure VariableDeclaration where
  name : String
  type : String := "unknown"
  deriving DecidableEq, Repr

/-- The declarations of each kind stand in the order of the text. -/
structure Inventory where
  functions : List FunctionDeclaration := []
  modifiers : List String := []
  stateVariables : List VariableDeclaration := []
  events : List String := []
  imports : List String := []
  deriving DecidableEq, Repr

def Inventory.isEmpty (inventory : Inventory) : Bool :=
  inventory.functions.isEmpty && inventory.modifiers.isEmpty && inventory.stateVariables.isEmpty &&
    inventory.events.isEmpty && inventory.imports.isEmpty

def functionsOf (text : List Char) : List FunctionDeclaration :=
  (functionAnchor.spans text).map fun span =>
    { name := String.ofList span.value.name
      visibility := visibilityAt span.start text
      mutability := mutabilityAt span.start text }

def modifiersOf (text : List Char) : List String :=
  (modifierAnchor.spans text).map fun span => String.ofList span.value

def variablesOf (text : List Char) : List VariableDeclaration :=
  (variableAnchor.spans text).map fun span =>
    { name := String.ofList span.value.name
      type := String.ofList span.value.type }

def eventsOf (text : List Char) : List String :=
  (eventAnchor.spans text).map fun span => String.ofList span.value.1

def importsOf (text : List Char) : List String :=
  (importAnchor.spans text).map fun span => String.ofList span.value

def Inventory.ofSource (source : String) : Inventory where
  functions := functionsOf source.toList
  modifiers := modifiersOf source.toList
  stateVariables := variablesOf source.toList
  events := eventsOf source.toList
  imports := importsOf source.toList

def FunctionDeclaration.toJson (declaration : FunctionDeclaration) : Value :=
  .object [("name", .text declaration.name), ("visibility", .text declaration.visibility),
    ("type", .text declaration.mutability)]

def VariableDeclaration.toJson (declaration : VariableDeclaration) : Value :=
  .object [("name", .text declaration.name), ("type", .text declaration.type)]

def namedJson (name : String) : Value := .object [("name", .text name)]

def Inventory.toJson (inventory : Inventory) : Value :=
  .object [
    ("functions", .array (inventory.functions.map FunctionDeclaration.toJson)),
    ("modifiers", .array (inventory.modifiers.map namedJson)),
    ("stateVariables", .array (inventory.stateVariables.map VariableDeclaration.toJson)),
    ("events", .array (inventory.events.map namedJson)),
    ("imports", Value.ofTexts inventory.imports)]

end SolidityAudit.Source
