/-
This file runs the external detectors and keeps what they report.
-/

import SolidityAudit.Detection.SlitherReport
import SolidityAudit.Detection.SolhintReport
import SolidityAudit.Fault
import SolidityAudit.Files.Path
import SolidityAudit.Journal.Entry

namespace SolidityAudit.Detection

open Journal (Entry Level)
open Json (Value ShapeFault)

/-- A process does not start, or ends with its output, its complaints and a code. -/
inductive ProcessOutcome where
  | notStarted (fault : Fault)
  | completed (output complaints : Option String) (code : Int)

inductive Tool where
  | slither
  | solhint
  deriving DecidableEq, Repr

def Tool.name : Tool → String
  | .slither => Slither.toolName
  | .solhint => Solhint.toolName

def Tool.channel : Tool → String
  | .slither => Journal.channelNamed "analyzer.SlitherAnalyzer"
  | .solhint => Journal.channelNamed "analyzer.SolhintAnalyzer"

/-- Seconds that a tool may take. -/
def Tool.defaultTimeout : Tool → Int
  | .slither => 30
  | .solhint => 15

def Tool.arguments : Tool → List String
  | .slither => ["--json", "-"]
  | .solhint => ["--formatter", "json"]

/-- How a tool is called. -/
structure ToolCall where
  command : List String
  timeout : Int
  directory : String
  deriving DecidableEq, Repr

def Tool.call (tool : Tool) (executable : String) (timeout : Int) (path : String) : ToolCall where
  command := executable :: path :: tool.arguments
  timeout := timeout
  directory := (Files.PlainPath.ofString path).parent.display

def Tool.note (tool : Tool) (level : Level) (message : Text.Wording) : Entry :=
  ⟨level, tool.channel, message⟩

/-- The diagnostics of a report, with the notes made while reading it. -/
def Tool.readReport [Host] (tool : Tool) (report : Value) :
    Except ShapeFault (List Diagnostic) × List Entry :=
  match tool with
  | .slither => match Slither.read report with
      | .unusable reason => (.ok [], [tool.note .warning reason])
      | .usable diagnostics => (diagnostics, [])
  | .solhint => (Solhint.reportDiagnostics report, [])

/-- Reports of an unexpected shape count as empty, except that a number beyond every bound
is not expected at all. -/
def isUnexpectedShape (fault : ShapeFault) : Bool :=
  let kind := shapeKind fault
  kind.belongsTo .missingAttribute || kind.belongsTo .missingKey || kind.belongsTo .badType ||
    kind.belongsTo .badValue

structure ToolRun where
  diagnostics : Except Fault (List Diagnostic)
  journal : List Entry

def rawOutputLimit : Nat := 2000

def complaintsLimit : Nat := 500

/-- What a decoded report amounts to. -/
def Tool.reportRun [Host] (tool : Tool) (report : Value) : ToolRun :=
  match tool.readReport report with
  | (.ok diagnostics, journal) =>
      ⟨.ok diagnostics, journal ++ [tool.note .info
        (tool.name ++ " found " ++ toString diagnostics.length ++ " issues")]⟩
  | (.error fault, journal) =>
      if isUnexpectedShape fault then
        ⟨.ok [], journal ++ [tool.note .warning
          ("Unexpected " ++ tool.name ++ " report structure: " ++ fault.message)]⟩
      else ⟨.error (.shape fault), journal⟩

/-- What the text of a report amounts to. -/
def Tool.outputRun [Host] (tool : Tool) (output : String) : ToolRun :=
  if Text.isBlankText output.toList then
    ⟨.ok [], [tool.note .warning (tool.name ++ " returned empty output")]⟩
  else match Json.readString output with
    | .ok report => tool.reportRun report
    | .error .malformed =>
        ⟨.ok [], [
          tool.note .warning ("Failed to parse " ++ tool.name ++ " JSON output: " ++
            Fault.malformedDocument.message),
          tool.note .debug ("Raw " ++ tool.name ++ " output: " ++
            String.ofList (output.toList.take rawOutputLimit))]⟩
    | .error fault => ⟨.error (Fault.ofReading fault), []⟩

/-- A code other than zero is only noted, because tools use it to announce findings. -/
def Tool.exitNotes (tool : Tool) (complaints : Option String) (code : Int) : List Entry :=
  if code == 0 then []
  else [tool.note .warning (tool.name ++ " exited with code " ++ toString code ++ ": " ++
    String.ofList ((Text.trim (complaints.getD "").toList).take complaintsLimit))]

/-- Trouble with starting a tool counts as an empty report where the system is its cause. -/
def Tool.startRun (tool : Tool) (executable : String) (timeout : Int) (fault : Fault) : ToolRun :=
  if fault.kind == .processTimeout then
    ⟨.ok [], [tool.note .warning (tool.name ++ " analysis timed out after " ++
      toString timeout ++ " seconds")]⟩
  else if fault.kind == .missingFile then
    ⟨.ok [], [tool.note .warning (tool.name ++ " not found in PATH. Ensure " ++ executable ++
      " is installed.")]⟩
  else if fault.kind.belongsTo .system then
    ⟨.ok [], [tool.note .error ("Could not start " ++ tool.name ++ ": " ++ fault.message)]⟩
  else ⟨.error fault, []⟩

def Tool.run [Host] (tool : Tool) (executable : String) (timeout : Int) (path : String)
    (outcome : ProcessOutcome) : ToolRun :=
  let opening := tool.note .info ("Running " ++ tool.name ++ " analysis on " ++ path)
  match outcome with
  | .notStarted fault =>
      let run := tool.startRun executable timeout fault
      ⟨run.diagnostics, opening :: run.journal⟩
  | .completed output complaints code =>
      let run := tool.outputRun (output.getD "")
      ⟨run.diagnostics, opening :: tool.exitNotes complaints code ++ run.journal⟩

end SolidityAudit.Detection
