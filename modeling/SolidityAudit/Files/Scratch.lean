/-
This file keeps a source text in a directory of its own while it is worked on.
-/

import SolidityAudit.Files.Disk

namespace SolidityAudit.Files

open Text (Wording)

/-- Injected failures of the three steps, with their words. -/
structure ScratchFaults where
  creation : Option String := none
  writing : Option String := none
  removal : Option String := none
  deriving DecidableEq, Repr

def scratchPrefix : String := "contractlens-"

def contractFile : String := "contract.sol"

/-- The first numbered name that is free in a directory. -/
def freeName (disk : Disk) (directory : String) : (bound number : Nat) → String
  | 0, number => scratchPrefix ++ toString number
  | bound + 1, number =>
      let name := scratchPrefix ++ toString number
      if (disk.nodeAt? (joinPath directory name)).isNone then name
      else freeName disk directory bound (number + 1)

/-- Where a scratch directory goes. No directory is made below a broken name. -/
def scratchParent [Host] (place : Option Wording) : String :=
  (place.map Wording.masked).getD Host.temporaryDirectory

/-- The path of a new scratch directory at a place. -/
def scratchPath [Host] (disk : Disk) (place : Option Wording) : String :=
  joinPath (scratchParent place)
    (freeName disk (scratchParent place) (disk.entries.length + 1) 0)

def injected (text : String) : Fault := .plain .system text

/-- The place is created first, unless it is unset or the current directory. -/
def preparePlace [Host] (disk : Disk) : (place : Option Wording) → Disk × Except Fault Unit
  | none | some "" => (disk, .ok ())
  | some path => disk.makeDirectories path

/-- A failure leaves what was created so far. -/
def createScratch [Host] (disk : Disk) (place : Option Wording) (faults : ScratchFaults) :
    Disk × Except Fault String :=
  match preparePlace disk place with
  | (disk, .error fault) => (disk, .error fault)
  | (disk, .ok ()) => match faults.creation with
      | some text => (disk, .error (injected text))
      | none =>
          let path := scratchPath disk place
          match disk.makeDirectory path with
          | .error fault => (disk, .error fault)
          | .ok disk => (disk, .ok path)

def writeScratch (disk : Disk) (path : String) (source : Wording) (faults : ScratchFaults) :
    Disk × Except Fault Unit :=
  match faults.writing with
  | some text => (disk, .error (injected text))
  | none => disk.writeText path source

/-- A removal that fails is reported only after the directory is gone. -/
def removeScratch (disk : Disk) (path : String) (faults : ScratchFaults) :
    Disk × Except Fault Unit :=
  match disk.locate path with
  | .error cause => (disk, .error (.refused cause path))
  | .ok location =>
      let disk := disk.removeTree location
      match faults.removal with
      | some text => (disk, .error (injected text))
      | none => (disk, .ok ())

/-- System failures are reported as trouble with a resource, others as they are. -/
def resourceFault (reason : String) (fault : Fault) : Fault :=
  if fault.kind.belongsTo .system then
    .resource (reason ++ ": " ++ fault.message) (some fault.detailed)
  else fault

/-- The end of work in a scratch directory. What the body gave is kept even where a later
step fails. -/
structure ScratchRun (α : Type) where
  disk : Disk
  worked : Option α
  outcome : Except Fault α

/-- The body runs with the path of a file that holds the source. -/
def workInside {α : Type} (disk : Disk) (path : String) (source : Wording)
    (faults : ScratchFaults) (body : Disk → String → Disk × α) : ScratchRun α :=
  match writeScratch disk path source faults with
  | (disk, .error fault) =>
      ⟨disk, none, .error (resourceFault "Could not write temporary source file" fault)⟩
  | (disk, .ok ()) =>
      let (disk, value) := body disk path
      ⟨disk, some value, .ok value⟩

/-- The directory is removed however the work inside it ends, and a failed removal hides
every earlier failure but that of the creation. -/
def withScratch [Host] {α : Type} (disk : Disk) (source : Wording) (place : Option Wording)
    (faults : ScratchFaults) (body : Disk → String → Disk × α) : ScratchRun α :=
  match createScratch disk place faults with
  | (disk, .error fault) =>
      ⟨disk, none, .error (resourceFault "Could not create temporary directory" fault)⟩
  | (disk, .ok directory) =>
      let path := ((PlainPath.ofString directory).child contractFile).display
      let run := workInside disk path source faults body
      match removeScratch run.disk directory faults with
      | (disk, .ok ()) => { run with disk := disk }
      | (disk, .error fault) =>
          { disk := disk
            worked := run.worked
            outcome := .error
              (resourceFault ("Could not remove temporary directory " ++ directory) fault) }

end SolidityAudit.Files
