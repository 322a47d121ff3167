/-
This file takes paths apart.
-/

import SolidityAudit.Text.Wording

namespace SolidityAudit.Files

open Text

def isSlash (character : Char) : Bool := character == '/'

/-- The names between the slashes, where an empty name stands for a slash too many. -/
def components (path : List Char) : List String := (splitAtEach isSlash path).map String.ofList

/-- Two slashes at the start are kept, any other number counts as one. -/
def rootOf (path : List Char) : String :=
  match path with
  | '/' :: '/' :: '/' :: _ => "/"
  | '/' :: '/' :: _ => "//"
  | '/' :: _ => "/"
  | _ => ""

/-- A path without empty names and single dots. -/
structure PlainPath where
  root : String
  names : List String
  deriving DecidableEq, Repr

def PlainPath.ofString (path : String) : PlainPath where
  root := rootOf path.toList
  names := (components path.toList).filter fun name => name != "" && name != "."

/-- The empty relative path is the current directory. -/
def PlainPath.display (path : PlainPath) : String :=
  if path.root == "" && path.names.isEmpty then "."
  else path.root ++ String.intercalate "/" path.names

def PlainPath.parent (path : PlainPath) : PlainPath := { path with names := path.names.dropLast }

def PlainPath.child (path : PlainPath) (name : String) : PlainPath :=
  { path with names := path.names ++ [name] }

def isSlashSymbol (symbol : Symbol) : Bool := symbol == '/'

/-- The part of a path up to its last slash, without the slashes at its end unless it has
nothing else, and the part after it. -/
def splitPath {α : Type} (slash : α → Bool) (path : List α) : List α × List α :=
  let tail := (path.reverse.takeWhile fun symbol => !slash symbol).reverse
  let head := path.take (path.length - tail.length)
  if head.all slash then (head, tail)
  else (trimRightBy slash head, tail)

/-- The part of a path before its last name and that name, where a slash at the end does not
count. -/
def pathParts (path : List Symbol) : List Symbol × List Symbol :=
  let (head, tail) := splitPath isSlashSymbol path
  if tail.isEmpty then splitPath isSlashSymbol head else (head, tail)

def directoryPart (path : String) : String := String.ofList (splitPath isSlash path.toList).1

/-- A name is put below a directory. -/
def joinPath (directory name : String) : String :=
  if directory == "" || directory.toList.getLast? == some '/' then directory ++ name
  else directory ++ "/" ++ name

end SolidityAudit.Files
