/-
This file reads the arguments of the command line.
-/

import SolidityAudit.Text.CharacterClass
import SolidityAudit.Text.Quoted

namespace SolidityAudit.CommandLine

/-- What an option does: it asks for help, sets a flag or takes a value. -/
inductive OptionKind where
  | help
  | flag
  | value
  deriving DecidableEq, Repr

structure OptionSpec where
  spellings : List String
  kind : OptionKind
  deriving DecidableEq, Repr

def OptionSpec.title (option : OptionSpec) : String := String.intercalate "/" option.spellings

/-- Reading stops early for help or for a problem, which names the program that found it. -/
inductive Halt where
  | help
  | problem (program text : String)
  deriving DecidableEq, Repr

def Halt.message : Halt → Option String
  | .help => none
  | .problem program text => some (program ++ ": error: " ++ text)

def Halt.exitCode : Halt → Nat
  | .help => 0
  | .problem _ _ => 2

/-- A parser knows its options and takes one positional argument, which may be a command
that takes all the rest. -/
structure Parser where
  program : String
  options : List OptionSpec
  positional : String
  takesRest : Bool

/-- How an argument is read before any is used. A value may be joined to its option, after an
equals sign or directly. -/
inductive Item where
  | argument (text : String)
  | separator
  | unknownOption (text : String)
  | option (spec : OptionSpec) (spelling text : String) (attachment : Option (List Char))
  deriving DecidableEq, Repr

def Item.text : Item → String
  | .argument text => text
  | .separator => "--"
  | .unknownOption text => text
  | .option _ _ text _ => text

def Item.isOption : Item → Bool
  | .unknownOption _ => true
  | .option _ _ _ _ => true
  | _ => false

/-- Every spelling of every option, in order. -/
def Parser.spellings (parser : Parser) : List (String × OptionSpec) :=
  parser.options.flatMap fun option => option.spellings.map fun spelling => (spelling, option)

/-- The text before the first equals sign and the text after it. -/
def splitAtEquals (text : List Char) : List Char × Option (List Char) :=
  let name := text.takeWhile (· != '=')
  match text.drop name.length with
  | _ :: value => (name, some value)
  | [] => (name, none)

structure Candidate where
  spelling : String
  option : OptionSpec
  attachment : Option (List Char)

/-- A long option may be shortened. A short option may carry its value or further options. -/
def Parser.candidates (parser : Parser) (text : List Char) : List Candidate :=
  match text with
  | '-' :: '-' :: _ =>
      let (name, value) := splitAtEquals text
      (parser.spellings.filter fun entry => name.isPrefixOf entry.1.toList).map fun entry =>
        ⟨entry.1, entry.2, value⟩
  | _ =>
      parser.spellings.filterMap fun entry =>
        if entry.1.toList == text.take 2 then
          some ⟨entry.1, entry.2, some (text.drop 2)⟩
        else if text.isPrefixOf entry.1.toList then some ⟨entry.1, entry.2, none⟩
        else none

/-- Digits after a minus sign, with at most one point that digits follow, and perhaps a
line feed at the end. -/
def isNegativeNumber (text : List Char) : Bool :=
  match text with
  | '-' :: rest =>
      let rest := if rest.getLast? == some '\n' then rest.dropLast else rest
      let whole := rest.takeWhile Text.isDecimalDigit
      match rest.drop whole.length with
      | [] => !whole.isEmpty
      | '.' :: fraction => !fraction.isEmpty && fraction.all Text.isDecimalDigit
      | _ => false
  | _ => false

/-- An argument that starts with a dash is an option unless it is a lone dash, a negative
number or holds a space. -/
def Parser.classify (parser : Parser) (argument : String) : Except Halt Item :=
  let text := argument.toList
  match text with
  | '-' :: _ =>
      match parser.spellings.lookup argument with
      | some option => .ok (.option option argument argument none)
      | none =>
          if text.length == 1 then .ok (.argument argument)
          else
            let (name, value) := splitAtEquals text
            match value, parser.spellings.lookup (String.ofList name) with
            | some value, some option =>
                .ok (.option option (String.ofList name) argument (some value))
            | _, _ => match parser.candidates text with
                | [] =>
                    if isNegativeNumber text || text.contains ' ' then .ok (.argument argument)
                    else .ok (.unknownOption argument)
                | [candidate] =>
                    .ok (.option candidate.option candidate.spelling argument
                      candidate.attachment)
                | several =>
                    .error (.problem parser.program ("ambiguous option: " ++ argument ++
                      " could match " ++ String.intercalate ", "
                        (several.map Candidate.spelling)))
  | _ => .ok (.argument argument)

/-- After a separator everything is an argument. -/
def Parser.items (parser : Parser) : List String → Except Halt (List Item)
  | [] => .ok []
  | "--" :: rest => .ok (.separator :: rest.map Item.argument)
  | argument :: rest => do
      let item ← parser.classify argument
      let others ← parser.items rest
      return item :: others

/-- What has been read so far. -/
structure Reading where
  values : List (String × String) := []
  flags : List String := []
  positional : Option (List String) := none
  extras : List String := []
  deriving DecidableEq, Repr

def Parser.optionProblem (parser : Parser) (option : OptionSpec) (text : String) : Halt :=
  .problem parser.program ("argument " ++ option.title ++ ": " ++ text)

def Parser.ignoredValue (parser : Parser) (option : OptionSpec) (value : List Char) : Halt :=
  parser.optionProblem option ("ignored explicit argument " ++
    String.ofList (Text.quoted value))

/-- Short options without a value may stand together, and help is the only one of them. -/
def Parser.cluster (parser : Parser) (option : OptionSpec) : List Char → Halt
  | [] => parser.ignoredValue option []
  | first :: rest =>
      if !option.spellings.contains (String.ofList ['-', first]) then
        parser.ignoredValue option (first :: rest)
      else if rest.isEmpty then .help
      else parser.cluster option rest

/-- A separator is no value, so an option that is joined to one is left empty. -/
def attachedValue (attachment : List Char) : String :=
  if attachment == ['-', '-'] then "" else String.ofList attachment

/-- Uses one option and leaves the items after it and its value. -/
def Parser.useOption (parser : Parser) (option : OptionSpec) (spelling : String)
    (attachment : Option (List Char)) (reading : Reading) (rest : List Item) :
    Except Halt (Reading × List Item) :=
  match option.kind, attachment with
  | .value, some attachment =>
      .ok ({ reading with values := (option.title, attachedValue attachment) ::
        reading.values }, rest)
  | .value, none => match rest with
      | .argument value :: rest =>
          .ok ({ reading with values := (option.title, value) :: reading.values }, rest)
      | _ => .error (parser.optionProblem option "expected one argument")
  | .flag, none => .ok ({ reading with flags := option.title :: reading.flags }, rest)
  | .help, none => .error .help
  | _, some attachment =>
      if spelling.toList.take 2 == ['-', '-'] then
        .error (parser.ignoredValue option attachment)
      else .error (parser.cluster option attachment)

/-- The positional argument at the front of the items with what is left after it. A
separator next to a single argument goes with it. -/
def Parser.takePositional? (parser : Parser) (items : List Item) :
    Option (List String × List Item) :=
  if parser.takesRest then
    match items with
    | .argument _ :: _ => some (items.map Item.text, [])
    | .separator :: .argument _ :: _ => some (items.map Item.text, [])
    | _ => none
  else
    match items with
    | .separator :: .argument text :: rest => some ([text], rest)
    | .argument text :: .separator :: rest => some ([text], rest)
    | .argument text :: rest => some ([text], rest)
    | _ => none

/-- Once no option is left, the positional argument is taken if it is still missing and the
rest is not recognised. -/
def Parser.finish (parser : Parser) (reading : Reading) (items : List Item) : Reading :=
  match reading.positional, parser.takePositional? items with
  | none, some (texts, rest) =>
      { reading with
        positional := some texts
        extras := reading.extras ++ rest.map Item.text }
  | _, _ => { reading with extras := reading.extras ++ items.map Item.text }

/-- Options and the positional argument are used in turn. The bound counts the items. -/
def Parser.consume (parser : Parser) :
    (bound : Nat) → Reading → List Item → Except Halt Reading
  | 0, reading, items => .ok (parser.finish reading items)
  | bound + 1, reading, items =>
      if !items.any Item.isOption then .ok (parser.finish reading items)
      else match items with
        | [] => .ok reading
        | .unknownOption text :: rest =>
            parser.consume bound { reading with extras := reading.extras ++ [text] } rest
        | .option option spelling _ attachment :: rest => do
            let (reading, rest) ← parser.useOption option spelling attachment reading rest
            parser.consume bound reading rest
        | item :: rest => match reading.positional, parser.takePositional? (item :: rest) with
            | none, some (texts, rest) =>
                parser.consume bound { reading with positional := some texts } rest
            | _, _ =>
                parser.consume bound { reading with extras := reading.extras ++ [item.text] } rest

/-- The positional argument is required, and what is not recognised is left to the caller. -/
def Parser.read (parser : Parser) (arguments : List String) : Except Halt Reading := do
  let items ← parser.items arguments
  let reading ← parser.consume items.length {} items
  match reading.positional with
  | none => .error (.problem parser.program
      ("the following arguments are required: " ++ parser.positional))
  | some _ => return reading

def Reading.value? (reading : Reading) (title : String) : Option String :=
  reading.values.lookup title

/-- What to analyse. -/
inductive Subject where
  | file (path : String)
  | contract (address : String)
  deriving DecidableEq, Repr

structure Invocation where
  logLevel : Option String
  subject : Subject
  summary : Bool
  output : Option String
  deriving DecidableEq, Repr

def programName : String := "contractlens"

def helpOption : OptionSpec := ⟨["-h", "--help"], .help⟩

def mainParser : Parser where
  program := programName
  options := [helpOption, ⟨["--log-level"], .value⟩]
  positional := "command"
  takesRest := true

def commandParser (command positional : String) : Parser where
  program := programName ++ " " ++ command
  options := [helpOption, ⟨["--summary"], .flag⟩, ⟨["--output"], .value⟩]
  positional := positional
  takesRest := false

def analyzeCommand : String := "analyze"

def addressCommand : String := "address"

def unknownCommand (command : String) : Halt :=
  .problem programName ("argument command: invalid choice: " ++ Text.quote command ++
    " (choose from " ++ Text.quote analyzeCommand ++ ", " ++ Text.quote addressCommand ++ ")")

/-- The subject of a command, the reading of its own arguments included. -/
def readCommand (command : String) (arguments : List String) :
    Except Halt (Subject × Reading) := do
  if command == analyzeCommand then
    let reading ← (commandParser analyzeCommand "path").read arguments
    return (.file ((reading.positional.getD []).headD ""), reading)
  else if command == addressCommand then
    let reading ← (commandParser addressCommand "address").read arguments
    return (.contract ((reading.positional.getD []).headD ""), reading)
  else .error (unknownCommand command)

/-- Arguments that no parser recognises are a problem of the whole command line. -/
def readInvocation (arguments : List String) : Except Halt Invocation := do
  let reading ← mainParser.read arguments
  let texts := reading.positional.getD []
  let (subject, inner) ← readCommand (texts.headD "") texts.tail
  match reading.extras ++ inner.extras with
  | [] => return {
      logLevel := reading.value? "--log-level"
      subject := subject
      summary := inner.flags.contains "--summary"
      output := inner.value? "--output" }
  | extras => .error (.problem programName
      ("unrecognized arguments: " ++ String.intercalate " " extras))

end SolidityAudit.CommandLine
