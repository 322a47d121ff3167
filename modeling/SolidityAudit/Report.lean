/-
This file writes reports to files and loads them again.
-/

import SolidityAudit.Files.Disk
import SolidityAudit.Record

namespace SolidityAudit

open Files (Disk)
open Json (Value)
open Text (Wording)

/-- A report goes to a file when a path is given, and the directories of the path are
created. -/
def writeReport [Host] (disk : Disk) (path : String) (text : Wording) :
    Disk × Except Fault Unit :=
  if path == "" then (disk, .ok ())
  else
    let directory := Files.directoryPart path
    let (disk, prepared) :=
      if directory == "" then (disk, .ok ()) else disk.makeDirectories directory
    match prepared with
    | .error fault => (disk, .error fault)
    | .ok () => disk.writeText path text

/-- The text of the report of a record, also written to a file where one is asked for. A value
that cannot be written is found before any file is touched. -/
def publishReport [Host] (disk : Disk) (record : Record) (path : Option String) :
    Disk × Except Fault Wording :=
  match record.toJson.refusal? with
  | some obstacle => (disk, .error (.ofObstacle obstacle))
  | none =>
      let text := record.report
      match writeReport disk (path.getD "") text with
      | (disk, .ok ()) => (disk, .ok text)
      | (disk, .error fault) => (disk, .error fault)

def loadReport [Host] (disk : Disk) (path : String) : Except Fault Value := do
  let text ← disk.readText path
  (Json.readString text).mapError Fault.ofReading

end SolidityAudit
