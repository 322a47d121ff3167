/-
This file is the command line program. It starts no other program and opens no connection, so
detectors, compiler, explorer and chat model count as missing.
-/

import SolidityAudit.CommandLine.Session
import Std.Time.Zoned

namespace SolidityAudit.CommandLine

open Files (Disk Location Node)

local instance : Host := Host.standard

def missing (program : String) : Fault := .plain .missingFile (program ++ " is not available")

/-- The world as far as this program reaches it. -/
def isolatedWorld (clock : Timestamp) : World where
  tools :=
    { slither := .notStarted (missing "slither"), solhint := .notStarted (missing "solhint") }
  compiler := .failed (missing "solc")
  chat := .failed (.plain .connection "the chat model is not available")
  responses := [.failed (.plain .connection "the explorer is not available")]
  clock := clock
  scratchFaults := {}

def readClock : IO Timestamp := do
  let now ← Std.Time.PlainDateTime.now
  return { year := now.year.toInt.toNat
           month := now.month.val.toNat
           day := now.day.val.toNat
           hour := now.hour.val.toNat
           minute := now.minute.val.toNat
           second := now.second.val.toNat
           microsecond := now.nanosecond.val.toNat / 1000 }

def readEnvironment : IO Environment :=
  Settings.variableNames.filterMapM fun name => do
    return (← IO.getEnv name).map fun value => (name, value)

def absoluteName (location : Location) : String := "/" ++ String.intercalate "/" location

def readNode? (location : Location) : IO (Option Node) := do
  try
    let place ← IO.FS.realPath (absoluteName location)
    if ← place.isDir then return some .directory
    return some (.file (.bytes (← IO.FS.readBinFile place).toList))
  catch _ => return none

/-- Adds a place and all places above it to the model, as far as they are there. -/
def loadPlace (disk : Disk) (location : Location) : IO Disk :=
  (List.range location.length).foldlM (fun disk count => do
    let place := location.take (count + 1)
    return match ← readNode? place with
      | some node => disk.put place node
      | none => disk) disk

/-- The paths that a session may touch. -/
def touchedPaths (arguments : List String) (environment : Environment) : List String :=
  let settings := Settings.ofEnvironment environment
  let named := match readInvocation arguments with
    | .error _ => []
    | .ok invocation => match invocation.subject with
        | .file path => path :: invocation.output.toList
        | .contract _ => invocation.output.toList
  Files.scratchParent settings.scratchPlace :: settings.logFile.toList ++ named

def loadDisk (paths : List String) : IO Disk := do
  let home ← IO.currentDir
  let start : Disk := ⟨[], (Files.PlainPath.ofString home.toString).names⟩
  let disk ← loadPlace start start.current
  paths.foldlM (fun disk path => loadPlace disk (disk.absoluteNames path)) disk

/-- Writes what a session added or changed. -/
def storeChanges (before after : Disk) : IO Unit :=
  after.entries.forM fun (location, node) => do
    if before.node? location != some node then
      match node with
      | .directory => IO.FS.createDirAll (absoluteName location)
      | .file (.text value) => IO.FS.writeFile (absoluteName location) value
      | .file (.bytes value) => IO.FS.writeBinFile (absoluteName location) ⟨value.toArray⟩

def finish (before : Disk) : Session → IO UInt32
  | .halted cause => do
      match cause.message with
      | some message => IO.eprintln message
      | none => IO.println ("usage: " ++ programName ++ " [-h] [--log-level LEVEL] \x7b" ++
          analyzeCommand ++ "," ++ addressCommand ++ "\x7d ...")
      return cause.exitCode.toUInt32
  | .broken fault => do
      IO.eprintln fault.message
      return failureCode.toUInt32
  | .completed completion => do
      storeChanges before completion.registry.disk
      IO.eprint completion.registry.stream
      IO.eprint (completion.errorReport.map Text.Wording.masked |>.getD "")
      IO.print completion.output.masked
      return completion.exitCode.toUInt32
  | .unprinted fault completion => do
      storeChanges before completion.registry.disk
      IO.eprint completion.registry.stream
      IO.eprintln fault.message
      return failureCode.toUInt32

/-- A whole session on the files and the environment at hand. -/
def execute (arguments : List String) : IO UInt32 := do
  let environment ← readEnvironment
  let disk ← loadDisk (touchedPaths arguments environment)
  let world := isolatedWorld (← readClock)
  finish disk (run arguments environment world disk)

end SolidityAudit.CommandLine

def main (arguments : List String) : IO UInt32 := SolidityAudit.CommandLine.execute arguments
