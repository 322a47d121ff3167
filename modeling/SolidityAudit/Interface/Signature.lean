/-
This file rebuilds an interface from the source text alone.
-/

import SolidityAudit.Interface.Entry
import SolidityAudit.Source.Anchor
import SolidityAudit.Text.Piece

namespace SolidityAudit.Interface

open Json (Value)
open Source Text

/-- The bare integer types stand for their widest forms. -/
def canonicalType (type : String) : String :=
  if type == "uint" then "uint256" else if type == "int" then "int256" else type

def dataLocations : List String := ["memory", "calldata", "storage"]

/-- The words that are neither type nor name of a parameter. -/
def isQualifier (word : String) : Bool := word == "indexed" || dataLocations.contains word

/-- The first word that is no qualifier is the type and the second the name. A part with no
such word is no parameter. -/
def parameterOf? (part : List Char) : Option Parameter :=
  let parts := (words part).map String.ofList
  match parts.filter fun word => !isQualifier word with
  | [] => none
  | type :: others =>
      let type : Value := .text (canonicalType type)
      some { type := type
             name := .text (others.head?.getD "")
             internalType := type
             indexed := .bool (parts.contains "indexed") }

/-- Every comma divides two parameters. -/
def parametersOf (text : List Char) : List Parameter :=
  (splitAtEach (· == ',') text).filterMap parameterOf?

def unindexedParametersOf (text : List Char) : List Parameter :=
  (parametersOf text).map Parameter.unindexed

/-- The constructor and what follows the word `internal` closely are no part of the
interface. -/
def isExposed (text : List Char) (span : Span FunctionHead) : Bool :=
  String.ofList span.value.name != "constructor" &&
    !occursIn "internal".toList (precedingWindow attributeWindow span.start text)

def functionEntry (text : List Char) (span : Span FunctionHead) : Entry :=
  Entry.function (.text (String.ofList span.value.name))
    (unindexedParametersOf span.value.parameters)
    (unindexedParametersOf (span.value.results.getD []))
    (.text (firstKeyword ["pure", "view", "payable"] "nonpayable"
      (precedingWindow mutabilityWindow span.start text)))

def functionEntries (text : List Char) : List Entry :=
  ((signatureAnchor.spans text).filter (isExposed text)).map (functionEntry text)

def eventEntries (text : List Char) : List Entry :=
  (eventAnchor.spans text).map fun span =>
    Entry.event (.text (String.ofList span.value.1)) (parametersOf span.value.2) false

/-- A public variable can be read by a function without parameters. -/
def accessorEntry (head : VariableHead) : Entry :=
  let type : Value := .text (canonicalType (String.ofList head.type))
  Entry.function (.text (String.ofList head.name)) []
    [{ type := type, internalType := type }] (.text "view")

def accessorEntries (text : List Char) : List Entry :=
  (publicVariableAnchor.spans text).map fun span => accessorEntry span.value

/-- Functions come first, then events, then the accessors of public variables. -/
def ofSource (source : String) : List Entry :=
  functionEntries source.toList ++ eventEntries source.toList ++ accessorEntries source.toList

end SolidityAudit.Interface
