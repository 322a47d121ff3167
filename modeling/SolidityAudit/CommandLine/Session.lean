/-
This file runs the program from its arguments to its exit.
-/

import SolidityAudit.Analysis
import SolidityAudit.CommandLine.Arguments
import SolidityAudit.Journal.Registry
import SolidityAudit.Report

namespace SolidityAudit.CommandLine

open Explorer (Traffic)
open Files (Disk)
open Journal (Entry Registry)
open Json (Value)
open Summary (ChatRequest)
open Text (Wording)

/-- All that can be seen of a session that came to its end. -/
structure Completion where
  exitCode : Nat
  output : Wording
  errorReport : Option Wording
  journal : List Entry
  registry : Registry
  prompts : List ChatRequest
  traffic : Traffic

/-- A session ends at its arguments, breaks off while the journal is set up, completes, or
fails at its last step, where the output does not take the report. -/
inductive Session where
  | halted (cause : Halt)
  | broken (fault : Fault)
  | completed (completion : Completion)
  | unprinted (fault : Fault) (completion : Completion)

/-- A file that cannot be read is an invalid input. -/
def readSource (disk : Disk) (path : String) : Except Fault String :=
  match disk.readPlainText path with
  | .ok text => .ok text
  | .error fault =>
      if fault.kind.belongsTo .system then
        .error (.rejected ("Cannot read source file: " ++ fault.message) (some "path")
          (.text path))
      else .error fault

def narratorFor [Host] (settings : Settings) (world : World) (wanted : Bool) : Option Summariser :=
  if wanted then
    (Summary.Narrator.ofSettings? settings).map world.summariser
  else none

def analyseSubject [Host] (settings : Settings) (world : World) (disk : Disk)
    (invocation : Invocation) : AnalysisRun :=
  let summariser := narratorFor settings world invocation.summary
  match invocation.subject with
  | .file path => match readSource disk path with
      | .error fault => { disk := disk, result := .error fault }
      | .ok source =>
          analyse settings world summariser disk (.text source) invocation.summary
  | .contract address =>
      analyseAddress settings world summariser (Explorer.Client.ofSettings settings) disk
        (.text address) invocation.summary

def invalidInputCode : Nat := 2

def failureCode : Nat := 1

def exitCodeFor (fault : Fault) : Nat :=
  if fault.kind == .validation then invalidInputCode else failureCode

def failureNote (fault : Fault) : Entry :=
  let opening := match fault.kind with
    | .validation => "Invalid input: "
    | .resource => "Analysis aborted: "
    | _ => "Analysis failed: "
  ⟨.error, programName, opening ++ fault.message⟩

/-- Faults are reported as one JSON object in ASCII. -/
def errorReport (fault : Fault) : Wording :=
  (Value.object [("error", fault.payload)]).render .ascii ++ "\n"

/-- The report of an analysis is published only when there is a record. -/
def publish [Host] (disk : Disk) (result : Except Fault Record) (output : Option String) :
    Disk × Except Fault Wording :=
  match result with
  | .error fault => (disk, .error fault)
  | .ok record => publishReport disk record output

/-- The entries of the analysis go to the sinks before the report is published, and the note
of a failure after that. -/
def complete [Host] (registry : Registry) (run : AnalysisRun) (output : Option String) :
    Completion :=
  let registry := { registry with disk := run.disk }.recordAll run.journal
  match publish registry.disk run.result output with
  | (disk, .ok text) =>
      { exitCode := 0
        output := text ++ "\n"
        errorReport := none
        journal := run.journal
        registry := { registry with disk := disk }
        prompts := run.prompts
        traffic := run.traffic }
  | (disk, .error fault) =>
      { exitCode := exitCodeFor fault
        output := ""
        errorReport := some (errorReport fault)
        journal := run.journal ++ [failureNote fault]
        registry := { registry with disk := disk }.record (failureNote fault)
        prompts := run.prompts
        traffic := run.traffic }

/-- The output takes all of a text or nothing. -/
def Completion.concluded [Host] (completion : Completion) : Session :=
  if completion.output.symbols.all Host.outputs then .completed completion
  else .unprinted (.plain .badText Host.refusedOutput) { completion with output := "" }

/-- The entries that the channel of the program itself lets pass. -/
def Completion.programEntries (completion : Completion) : List Entry :=
  completion.journal.filter fun entry =>
    entry.channel == programName &&
      completion.registry.isEnabled entry.channel entry.level.rank

def chosenLevel (invocation : Invocation) (settings : Settings) : String :=
  match invocation.logLevel with
  | none | some "" => settings.logLevel
  | some level => level

def run [Host] (arguments : List String) (environment : Environment) (world : World) (disk : Disk) :
    Session :=
  match readInvocation arguments with
  | .error cause => .halted cause
  | .ok invocation =>
      let settings := Settings.ofEnvironment environment
      let registry : Registry := { disk := disk }
      match registry.setUp programName (chosenLevel invocation settings) settings.logFile with
      | (_, .error fault) => .broken fault
      | (registry, .ok ()) =>
          let run := analyseSubject settings world registry.disk invocation
          (complete registry run invocation.output).concluded

end SolidityAudit.CommandLine
