/-
This file composes the parts of an analysis into one record.
-/

import SolidityAudit.Detection.Pipeline
import SolidityAudit.Explorer.Lookup
import SolidityAudit.Interface.Synthesis
import SolidityAudit.Record
import SolidityAudit.Summary.Narrator

namespace SolidityAudit

open Explorer (Traffic)
open Files (Disk ScratchFaults)
open Journal (Entry)
open Json (Value)
open Summary (ChatRequest Narration)
open Text (Wording)

/-- What the world outside would do during an analysis. -/
structure World where
  tools : Detection.ToolOutcomes
  compiler : Interface.CompilerOutcome
  chat : Summary.ChatOutcome
  responses : List Explorer.HttpOutcome
  clock : Timestamp
  scratchFaults : ScratchFaults

/-- Tells a summary from an excerpt of the source and the findings. -/
abbrev Summariser := String → List Diagnostic → List Diagnostic → Narration

def World.summariser [Host] (world : World) (narrator : Summary.Narrator) : Summariser :=
  fun excerpt => narrator.narrate world.chat (.text excerpt)

/-- The end of an analysis with everything that was done on the way. -/
structure AnalysisRun where
  disk : Disk
  result : Except Fault Record
  calls : List Detection.ToolCall := []
  prompts : List ChatRequest := []
  traffic : Traffic := {}
  journal : List Entry := []

def analysisChannel : String := Journal.channelNamed "analyzer"

def analysisNote (level : Journal.Level) (message : String) : Entry :=
  ⟨level, analysisChannel, message⟩

/-- The source has to be a text with something else than white space in it. -/
def sourceText? : Value → Option Wording
  | .text content => if content.isBlank then none else some content
  | _ => none

def missingSource [Host] (value : Value) : Fault :=
  .rejecting "Source code is required" (some "source_code") value

/-- A summary that fails is noted and left out. -/
def requestSummary (settings : Settings) (summariser : Option Summariser) (source : String)
    (findings : Detection.Findings) : Option Wording × List ChatRequest × List Entry :=
  match summariser with
  | none => (none, [], [analysisNote .info
      "Narrative summary requested but no summarizer is configured"])
  | some summarise =>
      let excerpt := String.ofList (Text.limited settings.excerptLimit source.toList)
      let narration := summarise excerpt findings.security findings.style
      match narration.result with
      | .ok summary => (summary, narration.requests, narration.journal)
      | .error fault => (none, narration.requests, narration.journal ++
          [analysisNote .warning ("Summary generation failed: " ++ fault.message)])

/-- What follows from the findings alone. -/
structure Verdict where
  score : Nat
  grade : Risk.Grade

def verdictOn (findings : Detection.Findings) : Except Fault Verdict := do
  let score ← (Risk.score findings.security findings.style).mapError Fault.shape
  let grade ← (Risk.grade score findings.security).mapError Fault.shape
  return ⟨score, grade⟩

def verdictNote (verdict : Verdict) : Entry :=
  analysisNote .info ("Risk score " ++ toString verdict.score ++ ", grade " ++
    verdict.grade.label)

/-- The record of a source from its findings, its interface and its summary. -/
def assembleRecord (source : String) (findings : Detection.Findings) (verdict : Verdict)
    (interface : List Interface.Entry) (summary : Option Wording) (time : Timestamp) :
    Except Fault Record := do
  let warnings ← (Risk.deploymentWarnings findings.security).mapError Fault.shape
  return { riskScore := verdict.score
           grade := verdict.grade
           category := Source.categoryOf source
           security := findings.security
           style := findings.style
           inventory := Source.Inventory.ofSource source
           interface := interface
           unsafeConstructs := Source.unsafeConstructs source
           warnings := warnings
           summary := summary
           generatedAt := time }

/-- Findings, interface and inventory do not depend on each other. The summary is asked for
after the verdict and before the record is put together. A broken text gets no findings, so that
a mark can stand for each surrogate in the other parts. -/
def analyseText [Host] (settings : Settings) (world : World) (summariser : Option Summariser)
    (disk : Disk) (source : Wording) (wantSummary : Bool) : AnalysisRun :=
  let opening := analysisNote .info "Starting comprehensive contract analysis..."
  let pipeline :=
    Detection.runPipeline settings disk world.scratchFaults world.tools source
  let synthesis := Interface.synthesise settings.compilerVersion (some source.masked) world.compiler
  let journal := opening :: pipeline.journal ++ synthesis.journal
  let stopped (fault : Fault) : AnalysisRun :=
    { disk := pipeline.disk
      result := .error fault
      calls := pipeline.calls
      journal := journal }
  match pipeline.findings with
  | .error fault => stopped fault
  | .ok findings => match verdictOn findings with
      | .error fault => stopped fault
      | .ok verdict =>
          let (summary, prompts, summaryNotes) :=
            if wantSummary then requestSummary settings summariser source.masked findings
            else (none, [], [])
          { disk := pipeline.disk
            result := assembleRecord source.masked findings verdict synthesis.entries summary
              world.clock
            calls := pipeline.calls
            prompts := prompts
            journal := journal ++ verdictNote verdict :: summaryNotes }

def analyse [Host] (settings : Settings) (world : World) (summariser : Option Summariser)
    (disk : Disk) (source : Value) (wantSummary : Bool) : AnalysisRun :=
  match sourceText? source with
  | none => { disk := disk, result := .error (missingSource source) }
  | some text => analyseText settings world summariser disk text wantSummary

def badAddress (address : Value) : Fault :=
  .rejected "Invalid address format. Must start with '0x' and be 42 characters long."
    (some "address") address

def unknownContract (address : Value) : Fault :=
  .rejected "Contract not found or not verified" (some "address") address

/-- The address as a text, where it is a valid one. -/
def validAddress (address : Value) : Except Fault Wording := do
  let valid ← (Explorer.isAddress address).mapError Fault.shape
  match valid, address with
  | true, .text content => return content
  | _, _ => .error (badAddress address)

/-- The verified source of an address is fetched and analysed. -/
def analyseAddress [Host] (settings : Settings) (world : World) (summariser : Option Summariser)
    (client : Explorer.Client) (disk : Disk) (address : Value) (wantSummary : Bool) :
    AnalysisRun :=
  match validAddress address with
  | .error fault => { disk := disk, result := .error fault }
  | .ok text =>
      let exchange := client.fetchSource text world.responses
      match exchange.result with
      | .error fault =>
          { disk := disk, result := .error fault
            traffic := exchange.traffic, journal := exchange.traffic.journal }
      | .ok source =>
          if source.getD "" == "" then
            { disk := disk, result := .error (unknownContract address)
              traffic := exchange.traffic, journal := exchange.traffic.journal }
          else
            let run := analyse settings world summariser disk (Value.ofText? source) wantSummary
            { run with
              traffic := exchange.traffic
              journal := exchange.traffic.journal ++ run.journal }

end SolidityAudit
