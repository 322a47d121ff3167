/-
This file models a tree of files and the operations on it that can be refused.
-/

import SolidityAudit.Fault
import SolidityAudit.Files.Path

namespace SolidityAudit.Files

open Text (Symbol Wording)

/-- The names from the root down to a place in the tree. -/
abbrev Location := List String

/-- A file holds text, or bytes that may be no text. -/
inductive Content where
  | text (value : String)
  | bytes (value : List UInt8)
  deriving DecidableEq, Repr

inductive Node where
  | directory
  | file (content : Content)
  deriving DecidableEq, Repr

/-- The root is a directory without an entry. Relative paths start at the current directory. -/
structure Disk where
  entries : List (Location × Node)
  current : Location
  deriving DecidableEq, Repr

namespace Disk

def node? (disk : Disk) (location : Location) : Option Node :=
  if location.isEmpty then some .directory else disk.entries.lookup location

def putEntry (location : Location) (node : Node) :
    List (Location × Node) → List (Location × Node)
  | [] => [(location, node)]
  | (other, present) :: rest =>
      if other == location then (location, node) :: rest
      else (other, present) :: putEntry location node rest

def put (disk : Disk) (location : Location) (node : Node) : Disk :=
  { disk with entries := putEntry location node disk.entries }

/-- Removes a place with all that is below it. -/
def removeTree (disk : Disk) (location : Location) : Disk :=
  { disk with entries := disk.entries.filter fun entry => !location.isPrefixOf entry.1 }

/-- The place lies below another one. -/
def liesBelow (location place : Location) : Bool := location.isPrefixOf place && place != location

/-- What lies below a place, by the names from there. -/
def below (disk : Disk) (location : Location) : List (Location × Node) :=
  disk.entries.filterMap fun entry =>
    if liesBelow location entry.1 then some (entry.1.drop location.length, entry.2) else none

/-- Changes what lies below a place and nothing else. -/
def rearrangeBelow (disk : Disk) (location : Location)
    (change : List (Location × Node) → List (Location × Node)) : Disk :=
  let others := disk.entries.filter fun entry => !liesBelow location entry.1
  let changed := (change (disk.below location)).filter fun entry => !entry.1.isEmpty
  { disk with entries := others ++ changed.map fun entry => (location ++ entry.1, entry.2) }

/-- Bytes that one name may take. -/
def maximalNameSize : Nat := 255

/-- Bytes that a whole path may take. -/
def maximalPathSize : Nat := 4095

/-- Each step of a path starts from a directory. Two dots lead up and one dot stays. -/
def walk (disk : Disk) (location : Location) : List String → Except SystemCause Location
  | [] => .ok location
  | name :: rest =>
      match disk.node? location with
      | none => .error .missing
      | some (.file _) => .error .notDirectory
      | some .directory =>
          if name == "" || name == "." then disk.walk location rest
          else if name == ".." then disk.walk location.dropLast rest
          else if name.utf8ByteSize > maximalNameSize then .error .nameTooLong
          else disk.walk (location ++ [name]) rest

def startOf (disk : Disk) (path : String) : Location :=
  if path.toList.head? == some '/' then [] else disk.current

/-- The place a path leads to, whether or not something is there. -/
def locate (disk : Disk) (path : String) : Except SystemCause Location :=
  if path == "" then .error .missing
  else if path.utf8ByteSize > maximalPathSize then .error .nameTooLong
  else disk.walk (disk.startOf path) (components path.toList)

def nodeAt? (disk : Disk) (path : String) : Option Node :=
  match disk.locate path with
  | .ok location => disk.node? location
  | .error _ => none

def isDirectory (disk : Disk) (path : String) : Bool := disk.nodeAt? path == some .directory

/-- A path with a null character is no path at all. -/
def hasNull (path : String) : Bool := path.toList.contains (Char.ofNat 0)

def nullFault : Fault := .plain .badValue "embedded null byte"

def checkedPath (path : String) : Except Fault Unit :=
  if hasNull path then .error nullFault else .ok ()

def refusing {α : Type} (path : String) (outcome : Except SystemCause α) : Except Fault α :=
  outcome.mapError fun cause => .refused cause path

/-- The content of the file at a path. -/
def read (disk : Disk) (path : String) : Except Fault Content := do
  checkedPath path
  let location ← refusing path (disk.locate path)
  match disk.node? location with
  | none => .error (.refused .missing path)
  | some .directory => .error (.refused .isDirectory path)
  | some (.file content) => return content

/-- Text files are read as UTF-8, with every kind of line end as a line feed. -/
def textOf : Content → Except Fault String
  | .text value => .ok (String.ofList (Text.unifyNewlines value.toList))
  | .bytes value => match Text.decodeUtf8 value with
      | .ok text => .ok (String.ofList (Text.unifyNewlines text))
      | .error cause => .error (.undecodable cause)

def readText (disk : Disk) (path : String) : Except Fault String := do
  textOf (← disk.read path)

/-- The text of a file by the plain form of its path. -/
def readPlainText (disk : Disk) (path : String) : Except Fault String :=
  disk.readText (PlainPath.ofString path).display

/-- The names of a path without the last one, which is given apart. -/
def parentAndName (path : String) : List String × String :=
  let names := components path.toList
  (names.dropLast, names.getLast?.getD "")

/-- The place where a new file can be written. A path that ends in a slash or in dots can
only lead to a directory. -/
def writableLocation (disk : Disk) (path : String) : Except SystemCause Location :=
  let (parents, name) := parentAndName path
  if path == "" then .error .missing
  else if path.utf8ByteSize > maximalPathSize then .error .nameTooLong
  else if name == "" then do
    let named := (parents.reverse.dropWhile (· == "")).reverse
    let _ ← disk.walk (disk.startOf path) (named.dropLast ++ [""])
    .error .isDirectory
  else if name == "." || name == ".." then do
    let _ ← disk.walk (disk.startOf path) (parents ++ [""])
    .error .isDirectory
  else do
    let location ← disk.walk (disk.startOf path) (parents ++ [name])
    match disk.node? location with
    | some .directory => .error .isDirectory
    | _ => return location

def write (disk : Disk) (path content : String) : Except Fault Disk := do
  checkedPath path
  let location ← refusing path (disk.writableLocation path)
  return disk.put location (.file (.text content))

/-- What a file takes of a text, which is nothing where it has no encoding. -/
def stored : Wording → String × Except Fault Unit
  | .plain text => (text, .ok ())
  | .broken text => ("", .error (.unencodable text.encodingFault))

/-- A file is empty from its opening on until its text is written. -/
def writeText (disk : Disk) (path : String) (content : Wording) : Disk × Except Fault Unit :=
  match disk.write path (stored content).1 with
  | .ok disk => (disk, (stored content).2)
  | .error fault => (disk, .error fault)

/-- What a file at a place holds as text, with a mark for bytes that are none. -/
def textAt (disk : Disk) (location : Location) : String :=
  match disk.node? location with
  | some (.file (.text value)) => value
  | some (.file (.bytes value)) => String.ofList (Text.decodeUtf8Leniently value)
  | _ => ""

/-- Puts a node at a place, with the directories above it that are missing. -/
def plant (disk : Disk) (location : Location) (node : Node) : Disk :=
  let above := (List.range (location.length - 1)).map fun count => location.take (count + 1)
  (above.foldl (fun disk place =>
    if (disk.node? place).isNone then disk.put place .directory else disk) disk).put location node

/-- What lies below a place in the order of the paths from there. A directory is marked by a
slash and has no text. -/
def listing (disk : Disk) (location : Location) : List (String × Option String) :=
  let rows := disk.entries.filterMap fun (place, node) =>
    if liesBelow location place then
      let path := String.intercalate "/" (place.drop location.length)
      match node with
      | .directory => some (path ++ "/", none)
      | .file _ => some (path, some (disk.textAt place))
    else none
  rows.mergeSort fun first second => !(second.1 < first.1)

/-- Opens a file for additions, which creates it if it is not there. -/
def openForAppending (disk : Disk) (path : String) : Except Fault (Disk × Location) := do
  checkedPath path
  let location ← refusing path (disk.writableLocation path)
  match disk.node? location with
  | some _ => return (disk, location)
  | none => return (disk.put location (.file (.text "")), location)

/-- Bytes that are in a file stay as they are. -/
def append (disk : Disk) (location : Location) (addition : String) : Disk :=
  match disk.node? location with
  | some (.file (.bytes value)) =>
      disk.put location (.file (.bytes (value ++ addition.toUTF8.toList)))
  | _ => disk.put location (.file (.text (disk.textAt location ++ addition)))

/-- The path of a directory without the slashes at its end. -/
def withoutTrailingSlashes (path : String) : String :=
  let text := path.toList
  let shortened := (text.reverse.dropWhile isSlash).reverse
  if shortened.isEmpty && !text.isEmpty then "/" else String.ofList shortened

/-- Creates one directory inside a directory that is there. -/
def makeDirectory (disk : Disk) (path : String) : Except Fault Disk := do
  checkedPath path
  let location ← refusing path (disk.locate (withoutTrailingSlashes path))
  match disk.node? location with
  | some _ => .error (.refused .exists path)
  | none => return disk.put location .directory

/-- A directory that is there already needs not be created, and none has a broken name. -/
def ensureDirectory (disk : Disk) : Wording → Disk × Except Fault Unit
  | .broken text => (disk, .error (.unencodable text.encodingFault))
  | .plain path => match disk.makeDirectory path with
      | .ok created => (created, .ok ())
      | .error fault =>
          if fault.kind.belongsTo .system && disk.isDirectory path then (disk, .ok ())
          else (disk, .error fault)

/-- Nothing is found under a broken name. -/
def isMissing (disk : Disk) : Wording → Bool
  | .plain path => (disk.nodeAt? path).isNone
  | .broken _ => true

/-- The directory above a path is missing. -/
def lacksAbove (disk : Disk) (path : List Symbol) : Bool :=
  !(pathParts path).1.isEmpty && !(pathParts path).2.isEmpty &&
    disk.isMissing (.ofSymbols (pathParts path).1)

/-- Creates a directory with those above it, as far as they are missing. A failure leaves
the directories that were created before it. The bound counts the directories that can be
asked for inside each other. -/
def makeDirectoriesWithin [Host] : (bound : Nat) → Disk → List Symbol → Disk × Except Fault Unit
  | 0, disk, _ => (disk, .error .exhausted)
  | bound + 1, disk, path =>
      if disk.lacksAbove path then
        match makeDirectoriesWithin bound disk (pathParts path).1 with
        | (disk, .ok ()) =>
            if (pathParts path).2 == [.scalar '.'] then (disk, .ok ())
            else disk.ensureDirectory (.ofSymbols path)
        | (disk, .error fault) =>
            if fault.kind != .alreadyExists then (disk, .error fault)
            else if (pathParts path).2 == [.scalar '.'] then (disk, .ok ())
            else disk.ensureDirectory (.ofSymbols path)
      else disk.ensureDirectory (.ofSymbols path)

def makeDirectories [Host] (disk : Disk) (path : Wording) : Disk × Except Fault Unit :=
  makeDirectoriesWithin Host.nestedDirectories disk path.symbols

/-- The names of a path from the root, with the dots resolved by the names alone. -/
def absoluteNames (disk : Disk) (path : String) : Location :=
  (components path.toList).foldl (fun names name =>
    if name == "" || name == "." then names
    else if name == ".." then names.dropLast
    else names ++ [name]) (disk.startOf path)

def absolutePath (disk : Disk) (path : String) : String :=
  "/" ++ String.intercalate "/" (disk.absoluteNames path)

end Disk

end SolidityAudit.Files
