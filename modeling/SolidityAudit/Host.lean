/-
This file lists what differs between the machines and interpreters that the program runs on.
-/

import SolidityAudit.Text.Wording

namespace SolidityAudit

/-- The containers of a report that stand inside each other. -/
def reportLevels : Nat := 5

/-- Every result about the program holds on all hosts. A limit that is not set never applies. -/
class Host where
  /-- Figures that a whole number may have where it is read or written. -/
  figureLimit : Option Nat
  /-- Containers that may be open at once while a text is read. -/
  openContainers : Nat
  /-- Containers that may stand inside each other where a value is shown. -/
  shownContainers : Nat
  /-- Directories inside each other that can be asked for at once. -/
  nestedDirectories : Nat
  temporaryDirectory : String
  /-- Nanoseconds that are too long for a pause. -/
  longestPause : Option Nat
  /-- Symbols that the output takes. -/
  outputs : Text.Symbol → Bool
  /-- The words for work that goes too deep. -/
  exhaustion : String
  /-- The words for a text that the output does not take. -/
  refusedOutput : String
  /-- What the error stream shows of an entry that a file of the journal does not take. -/
  complaint : String
  reportLevels_le : reportLevels ≤ openContainers
  openContainers_le : openContainers ≤ shownContainers

/-- A host as they are set up by default. -/
@[reducible] def Host.standard : Host where
  figureLimit := some 4300
  openContainers := 987
  shownContainers := 990
  nestedDirectories := 980
  temporaryDirectory := "/tmp"
  longestPause := some (Nat.pow 2 63)
  outputs symbol := !symbol.isLone
  exhaustion := "maximum recursion depth exceeded"
  refusedOutput := "surrogates not allowed"
  complaint := "--- Logging error ---\n"
  reportLevels_le := by decide
  openContainers_le := by decide

/-- The limit that a whole number with so many figures goes beyond. -/
def exceededLimit? [Host] (figures : Nat) : Option Nat :=
  Host.figureLimit.filter fun limit => limit < figures

def figureCount (value : Int) : Nat := (Nat.toDigits 10 value.natAbs).length

end SolidityAudit
