/-
This file flattens sources that were published as a bundle of files.
-/

import SolidityAudit.Fault

namespace SolidityAudit.Explorer

open Json (Value ShapeFault)
open Text

/-- A bundle is a JSON object, sometimes within a second pair of braces. -/
def bundleText? (source : List Symbol) : Option (List Symbol) :=
  match trimBy Symbol.isBlank source with
  | .scalar '\x7b' :: .scalar '\x7b' :: rest =>
      some (slice 1 (-1) (.scalar '\x7b' :: .scalar '\x7b' :: rest))
  | .scalar '\x7b' :: rest => some (.scalar '\x7b' :: rest)
  | _ => none

/-- The contents of the entries that are objects, in order, where a missing one is empty. -/
def entryContents (sources : List (Wording × Value)) : List Value :=
  sources.filterMap fun entry => match entry.2 with
    | .object members => some ((Json.findMember? "content" members).getD (.text ""))
    | _ => none

/-- Every content has to be text. -/
def contentTexts (position : Nat) : List Value → Except ShapeFault (List Wording)
  | [] => .ok []
  | .text content :: rest =>
      (contentTexts (position + 1) rest).map fun others => content :: others
  | value :: _ => .error (.itemNotText position value.kindName)

/-- The files of a bundle that lists sources. -/
def bundleSources? : Value → Option (List (Wording × Value))
  | .object members => match Json.findMember? "sources" members with
      | some (.object sources) => some sources
      | _ => none
  | _ => none

def joinedContents (sources : List (Wording × Value)) : Except ShapeFault Wording :=
  (contentTexts 0 (entryContents sources)).map (Wording.joined "\n")

/-- A source that is no bundle stays as it is. -/
def flatten [Host] (source : Wording) : Except Fault Wording :=
  match bundleText? source.symbols with
  | none => .ok source
  | some text => match Json.read text with
      | .error .malformed => .ok source
      | .error fault => .error (Fault.ofReading fault)
      | .ok value => match bundleSources? value with
          | none => .ok source
          | some sources => (joinedContents sources).mapError Fault.shape

/-- Only a text can be flattened. -/
def flattenValue [Host] (source : Value) : Except Fault Wording :=
  match source with
  | .text content => flatten content
  | value => .error (.shape (.lacksOperation value.kindName "strip"))

end SolidityAudit.Explorer
