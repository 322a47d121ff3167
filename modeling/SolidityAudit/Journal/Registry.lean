/-
This file keeps the channels of the journal and writes entries where they belong. Lines are
kept without the time that stands before them.
-/

import SolidityAudit.Files.Disk
import SolidityAudit.Journal.Entry
import SolidityAudit.Text.LetterCase

namespace SolidityAudit.Journal

open Files (Disk Location)
open Json (Value)
open Text (Wording)

/-- Lines go to the error stream or to a file. -/
inductive Sink where
  | stream
  | file (location : Location)
  deriving DecidableEq, Repr

/-- A channel without a rank takes that of the nearest channel above it that has one. What it
decided about a rank stays until a rank is set somewhere. -/
structure Channel where
  name : String
  parent : Option String := none
  rank : Option Nat := none
  sinks : List Sink := []
  decisions : List (Int × Bool) := []
  deriving DecidableEq, Repr

def topName : String := "root"

/-- The channel above all others. -/
def topChannel : Channel := { name := topName, rank := some Level.warning.rank }

/-- The channels in use, the text on the error stream so far and the files. -/
structure Registry where
  channels : List Channel := [topChannel]
  stream : String := ""
  disk : Disk
  deriving DecidableEq, Repr

/-- The empty name stands for the channel above all others. -/
def fullName (name : String) : String := if name == "" then topName else name

def Registry.channel? (registry : Registry) (name : String) : Option Channel :=
  registry.channels.find? fun channel => channel.name == fullName name

def putChannel (channel : Channel) : List Channel → List Channel
  | [] => [channel]
  | other :: rest =>
      if other.name == channel.name then channel :: rest else other :: putChannel channel rest

def Registry.put (registry : Registry) (channel : Channel) : Registry :=
  { registry with channels := putChannel channel registry.channels }

/-- The parts of a name before its dots, where the name is given backwards. A dot directly
before another one only belongs to the part that it ends. -/
def namesBefore : List Char → List String
  | [] => []
  | '.' :: last :: rest => String.ofList (last :: rest).reverse :: namesBefore rest
  | _ :: rest => namesBefore rest

/-- The names above a name, from near to far. -/
def namesAbove (name : String) : List String := namesBefore name.toList.reverse

/-- A channel below a new name moves under it unless the name of its parent starts with the new
one. Nearer parents do, and so does the top where the new name is a beginning of its own. -/
def Channel.adoptedBy (name : String) (channel : Channel) : Channel :=
  let parentName := channel.parent.getD topName
  if (namesAbove channel.name).contains name && !name.toList.isPrefixOf parentName.toList then
    { channel with parent := some name }
  else channel

/-- The nearest name above a name that is in use. -/
def Registry.parentOf (registry : Registry) (name : String) : String :=
  ((namesAbove name).find? fun above => (registry.channel? above).isSome).getD topName

/-- The channel of a name, which starts below the nearest channel above it. -/
def Registry.channel (registry : Registry) (name : String) : Channel :=
  (registry.channel? name).getD { name := name, parent := some (registry.parentOf name) }

/-- A channel is in use from the first time it is named. -/
def Registry.use (registry : Registry) (name : String) : Registry :=
  if (registry.channel? name).isSome then registry
  else { registry with
    channels := registry.channels.map (Channel.adoptedBy name) ++ [registry.channel name] }

/-- A channel and those above it. The bound counts the channels. -/
def Registry.chainWithin (registry : Registry) : (bound : Nat) → Channel → List Channel
  | 0, _ => []
  | bound + 1, channel =>
      channel :: match channel.parent with
        | none => []
        | some parent => registry.chainWithin bound (registry.channel parent)

def Registry.chain (registry : Registry) (name : String) : List Channel :=
  registry.chainWithin (registry.channels.length + 1) (registry.channel name)

def Registry.effectiveRank (registry : Registry) (name : String) : Nat :=
  ((registry.chain name).findSome? Channel.rank).getD 0

def Registry.isEnabled (registry : Registry) (name : String) (rank : Int) : Bool :=
  0 < rank && registry.effectiveRank name ≤ rank

/-- Decides whether entries of a rank are written, unless that is decided already. -/
def Registry.decide (registry : Registry) (name : String) (rank : Int) : Registry × Bool :=
  let channel := registry.channel name
  match channel.decisions.lookup rank with
  | some decision => (registry, decision)
  | none =>
      let decision := registry.isEnabled name rank
      (registry.put { channel with decisions := (rank, decision) :: channel.decisions }, decision)

def Registry.forgetDecisions (registry : Registry) : Registry :=
  { registry with
    channels := registry.channels.map fun channel => { channel with decisions := [] } }

/-- The name of a rank in a line. -/
def rankLabel (rank : Int) : String :=
  match [Level.debug, .info, .warning, .error, .critical].find? fun level => level.rank == rank with
  | some level => level.label
  | none => if rank == 0 then "NOTSET" else "Level " ++ toString rank

def line (name : String) (rank : Int) (message : Wording) : Wording :=
  name ++ " - " ++ rankLabel rank ++ " - " ++ message ++ "\n"

/-- The stream shows surrogates by escapes. A file does not take a line with any, which is
complained of on the stream. -/
def Registry.emit [Host] (registry : Registry) (text : Wording) : Sink → Registry
  | .stream => { registry with stream := registry.stream ++ text.escaped }
  | .file location => match text with
      | .plain text => { registry with disk := registry.disk.append location text }
      | .broken _ => { registry with stream := registry.stream ++ Host.complaint }

/-- An entry goes to the sinks of its channel and of all channels above it. -/
def Registry.log [Host] (registry : Registry) (name : String) (rank : Int) (message : Wording) :
    Registry :=
  match (registry.use name).decide name rank with
  | (registry, true) =>
      ((registry.chain name).flatMap Channel.sinks).foldl
        (fun registry sink => registry.emit (line (fullName name) rank message) sink) registry
  | (registry, false) => registry

def Registry.record [Host] (registry : Registry) (entry : Entry) : Registry :=
  registry.log entry.channel entry.level.rank entry.message

def Registry.recordAll [Host] (registry : Registry) (entries : List Entry) : Registry :=
  entries.foldl Registry.record registry

/-- The words for ranks. -/
def rankNames : List (String × Nat) := [
  ("NOTSET", 0), ("DEBUG", 10), ("INFO", 20), ("WARN", 30), ("WARNING", 30), ("ERROR", 40),
  ("CRITICAL", 50), ("FATAL", 50)]

/-- Words for the format of lines are no ranks, and unknown words stand for the usual rank. -/
def rankNamed (name : String) : Except Fault Nat :=
  let name := String.ofList (Text.upper name.toList)
  if name == "BASIC_FORMAT" then .error (.plain .badValue "Unknown level")
  else if name == "_STYLES" then .error (.plain .badType "Level not an integer or a valid string")
  else .ok ((rankNames.lookup name).getD Level.info.rank)

/-- The rank zero unsets the rank of a channel. -/
def assignedRank (rank : Nat) : Option Nat := if rank == 0 then none else some rank

/-- The file of a sink is opened at once, and its directory is created. -/
def openSink [Host] (disk : Disk) (path : String) : Disk × Except Fault Sink :=
  let target := disk.absolutePath path
  match disk.makeDirectories (Files.directoryPart target) with
  | (disk, .error fault) => (disk, .error fault)
  | (disk, .ok ()) => match disk.openForAppending target with
      | .ok (disk, location) => (disk, .ok (.file location))
      | .error fault => (disk, .error fault)

/-- Sets the rank of a channel, and its sinks if it has none yet. A file that cannot be
opened leaves the stream in place. -/
def Registry.setUp [Host] (registry : Registry) (name rankName : String) (file : Option String) :
    Registry × Except Fault Unit :=
  let registry := registry.use name
  match rankNamed rankName with
  | .error fault => (registry, .error fault)
  | .ok rank =>
      let registry := registry.forgetDecisions
      let channel := { registry.channel name with rank := assignedRank rank }
      if !channel.sinks.isEmpty then (registry.put channel, .ok ())
      else
        let channel := { channel with sinks := [.stream] }
        match file with
        | none | some "" => (registry.put channel, .ok ())
        | some path => match openSink registry.disk path with
            | (disk, .error fault) => ({ registry with disk := disk }.put channel, .error fault)
            | (disk, .ok sink) =>
                ({ registry with disk := disk }.put { channel with sinks := [.stream, sink] },
                  .ok ())

end SolidityAudit.Journal
