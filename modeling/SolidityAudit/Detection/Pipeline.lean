/-
This file runs the detectors on a source text and falls back on the rules where they find
nothing. The rules also apply to the text of a file.
-/

import SolidityAudit.Detection.SecurityRule
import SolidityAudit.Detection.StyleRule
import SolidityAudit.Detection.Tool
import SolidityAudit.Files.Scratch
import SolidityAudit.Settings

namespace SolidityAudit.Detection

open Files (Disk Location Node ScratchFaults withScratch)
open Journal (Entry)
open Text (Wording)

def securityScanOfFile (disk : Disk) (path : String) : Except Fault (List Diagnostic) :=
  (disk.readPlainText path).map securityScan

def styleScanOfFile (disk : Disk) (path : String) : Except Fault (List Diagnostic) :=
  (disk.readPlainText path).map styleScan

/-- The diagnostics of both categories. -/
structure Findings where
  security : List Diagnostic
  style : List Diagnostic

/-- What running each tool would do, and what both would make of the files below the directory
that they work in. -/
structure ToolOutcomes where
  slither : ProcessOutcome
  solhint : ProcessOutcome
  rework : List (Location × Node) → List (Location × Node) := id

def pipelineChannel : String := Journal.channelNamed "pipeline"

/-- A detector that fails counts as one that found nothing. -/
def tolerated (tool : Tool) (run : ToolRun) : List Diagnostic × List Entry :=
  match run.diagnostics with
  | .ok diagnostics => (diagnostics, run.journal)
  | .error fault => ([], run.journal ++ [⟨.error, pipelineChannel,
      "Backend " ++ tool.name ++ " failed unexpectedly: " ++ fault.message⟩])

def configuredRun [Host] (settings : Settings) (outcomes : ToolOutcomes) (path : String) :
    Tool → ToolRun
  | .slither => Tool.slither.run settings.slitherExecutable settings.slitherTimeout path
      outcomes.slither
  | .solhint => Tool.solhint.run settings.solhintExecutable settings.solhintTimeout path
      outcomes.solhint

def configuredCalls (settings : Settings) (path : String) : List ToolCall :=
  [Tool.slither.call settings.slitherExecutable settings.slitherTimeout path,
    Tool.solhint.call settings.solhintExecutable settings.solhintTimeout path]

/-- What both tools report on the file, with the calls made. -/
structure Detected where
  findings : Findings
  calls : List ToolCall
  journal : List Entry

def detect [Host] (settings : Settings) (outcomes : ToolOutcomes) (path : String) : Detected :=
  let (security, securityJournal) :=
    tolerated .slither (configuredRun settings outcomes path .slither)
  let (style, styleJournal) :=
    tolerated .solhint (configuredRun settings outcomes path .solhint)
  ⟨⟨security, style⟩, configuredCalls settings path, securityJournal ++ styleJournal⟩

def fallbackNote (tool : Tool) (substitute : String) : Entry :=
  ⟨.info, pipelineChannel, tool.name ++ " returned no results, using " ++ substitute ++ "..."⟩

/-- The rules replace an empty list and never add to another. -/
def securityOrRules (source : String) (security : List Diagnostic) :
    List Diagnostic × List Entry :=
  if security.isEmpty then
    let diagnostics := securityScan source
    (diagnostics, [fallbackNote .slither "heuristic vulnerability detection",
      securityScanNote diagnostics])
  else (security, [])

def styleOrRules (source : String) (style : List Diagnostic) : List Diagnostic × List Entry :=
  if style.isEmpty then
    let diagnostics := styleScan source
    (diagnostics, [fallbackNote .solhint "basic linting checks", styleScanNote diagnostics])
  else (style, [])

/-- The end of a run: the tree of files, the findings or a fault, the calls and the notes. -/
structure PipelineRun where
  disk : Disk
  findings : Except Fault Findings
  calls : List ToolCall
  journal : List Entry

/-- The files around the one that the tools work on, as they leave them. -/
def ToolOutcomes.leave (outcomes : ToolOutcomes) (disk : Disk) (path : String) : Disk :=
  match disk.locate path with
  | .ok place => disk.rearrangeBelow place.dropLast outcomes.rework
  | .error _ => disk

/-- The detectors work on a copy of the source. Their calls and notes are kept even where the
copy cannot be removed afterwards. No copy is made of a broken text. -/
def runPipeline [Host] (settings : Settings) (disk : Disk) (faults : ScratchFaults)
    (outcomes : ToolOutcomes) (source : Wording) : PipelineRun :=
  let run := withScratch disk source settings.scratchPlace faults
    fun disk path => (outcomes.leave disk path, detect settings outcomes path)
  match run.outcome with
  | .error fault =>
      { disk := run.disk
        findings := .error fault
        calls := (run.worked.map Detected.calls).getD []
        journal := (run.worked.map Detected.journal).getD [] }
  | .ok detected =>
      let (security, securityNotes) := securityOrRules source.masked detected.findings.security
      let (style, styleNotes) := styleOrRules source.masked detected.findings.style
      { disk := run.disk
        findings := .ok ⟨security, style⟩
        calls := detected.calls
        journal := detected.journal ++ securityNotes ++ styleNotes }

end SolidityAudit.Detection
