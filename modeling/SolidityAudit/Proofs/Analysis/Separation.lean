import SolidityAudit.Analysis

namespace SolidityAudit

open Detection (Findings runPipeline)
open Files (Disk)
open Json (Value)
open Text (Wording)

/-- All that a record takes from the findings. -/
structure Judgement where
  findings : Findings
  verdict : Verdict
  warnings : List String

/-- Tools and rules settle this part alone. -/
def judge (findings : Except Fault Findings) : Except Fault Judgement := do
  let findings ← findings
  let verdict ← verdictOn findings
  let warnings ← (Risk.deploymentWarnings findings.security).mapError Fault.shape
  return ⟨findings, verdict, warnings⟩

/-- The other fields come from the source, the interface, the summary and the clock. -/
def Judgement.record (judgement : Judgement) (source : String)
    (interface : List Interface.Entry) (summary : Option Wording) (time : Timestamp) : Record where
  riskScore := judgement.verdict.score
  grade := judgement.verdict.grade
  category := Source.categoryOf source
  security := judgement.findings.security
  style := judgement.findings.style
  inventory := Source.Inventory.ofSource source
  interface := interface
  unsafeConstructs := Source.unsafeConstructs source
  warnings := judgement.warnings
  summary := summary
  generatedAt := time

/-- The summary, where one is wanted and told. -/
def summaryOf (settings : Settings) (summariser : Option Summariser) (source : String)
    (wantSummary : Bool) (findings : Findings) : Option Wording :=
  if wantSummary then (requestSummary settings summariser source findings).1 else none

section Analyses

variable [Host]

/-- The interface that the compiler or the source gives. -/
def interfaceOf (settings : Settings) (world : World) (source : String) : List Interface.Entry :=
  (Interface.synthesise settings.compilerVersion (some source) world.compiler).entries

/-- Only the findings decide whether there is a record. -/
theorem analyseText_judged (settings : Settings) (world : World) (summariser : Option Summariser)
    (disk : Disk) (source : Wording) (wantSummary : Bool) :
    (analyseText settings world summariser disk source wantSummary).result =
      (judge (runPipeline settings disk world.scratchFaults world.tools source).findings).map
        fun judgement => judgement.record source.masked (interfaceOf settings world source.masked)
          (summaryOf settings summariser source.masked wantSummary judgement.findings)
          world.clock := by
  cases found : (runPipeline settings disk world.scratchFaults world.tools source).findings with
  | error fault =>
      simp only [analyseText, found]
      rfl
  | ok findings =>
      cases given : verdictOn findings with
      | error fault =>
          simp only [analyseText, found, judge, given, bind, Except.bind, Except.map]
      | ok verdict =>
          simp only [analyseText, found, judge, given, bind, Except.bind, assembleRecord]
          cases (Risk.deploymentWarnings findings.security).mapError Fault.shape with
          | error fault => rfl
          | ok warnings => cases wantSummary <;> rfl

/-- Both analyses stop with one and the same fault, or both end in records that are related. -/
inductive EndsAlike (related : Record → Record → Prop) :
    Except Fault Record → Except Fault Record → Prop where
  | fault (fault : Fault) : EndsAlike related (.error fault) (.error fault)
  | record {first second : Record} (alike : related first second) :
      EndsAlike related (.ok first) (.ok second)

/-- With the same tools both runs come to one judgement, so that what relates its records relates
their ends. -/
theorem analyse_endsAlike {related : Record → Record → Prop} {settings : Settings}
    {first second : World} {firstSummariser secondSummariser : Option Summariser} {disk : Disk}
    {source : Value} {firstWanted secondWanted : Bool} (tools : second.tools = first.tools)
    (scratch : second.scratchFaults = first.scratchFaults)
    (alike : ∀ (text : String) (judgement : Judgement), related
      (judgement.record text (interfaceOf settings first text)
        (summaryOf settings firstSummariser text firstWanted judgement.findings) first.clock)
      (judgement.record text (interfaceOf settings second text)
        (summaryOf settings secondSummariser text secondWanted judgement.findings)
        second.clock)) :
    EndsAlike related (analyse settings first firstSummariser disk source firstWanted).result
      (analyse settings second secondSummariser disk source secondWanted).result := by
  unfold analyse
  cases sourceText? source with
  | none => exact .fault (missingSource source)
  | some text =>
      simp only [analyseText_judged, tools, scratch]
      cases judge (runPipeline settings disk first.scratchFaults first.tools text).findings with
      | error fault => exact .fault fault
      | ok judgement => exact .record (alike text.masked judgement)

/-- A record is put together from the text that was analysed and a judgement on it. -/
theorem analyse_record {settings : Settings} {world : World} {summariser : Option Summariser}
    {disk : Disk} {source : Value} {wantSummary : Bool} {record : Record}
    (ended : (analyse settings world summariser disk source wantSummary).result = .ok record) :
    ∃ text judgement, sourceText? source = some text ∧
      judge (runPipeline settings disk world.scratchFaults world.tools text).findings =
        .ok judgement ∧
      record = judgement.record text.masked (interfaceOf settings world text.masked)
        (summaryOf settings summariser text.masked wantSummary judgement.findings)
        world.clock := by
  unfold analyse at ended
  cases given : sourceText? source with
  | none =>
      rw [given] at ended
      cases ended
  | some text =>
      simp only [given, analyseText_judged] at ended
      cases judged : judge (runPipeline settings disk world.scratchFaults world.tools
        text).findings with
      | error fault =>
          rw [judged] at ended
          cases ended
      | ok judgement =>
          rw [judged] at ended
          cases ended
          exact ⟨text, judgement, rfl, judged, rfl⟩

end Analyses

/-- Who tells the summary decides about the summary alone, and the compiler about the interface
alone. -/
theorem analyse_separates [Host] (settings : Settings) (world : World) (disk : Disk)
    (source : Value) :
    (∀ chat firstSummariser secondSummariser firstWanted secondWanted,
      EndsAlike (fun first second => second = { first with summary := second.summary })
        (analyse settings world firstSummariser disk source firstWanted).result
        (analyse settings { world with chat := chat } secondSummariser disk source
          secondWanted).result) ∧
    (∀ compiler summariser wantSummary,
      EndsAlike (fun first second => second = { first with interface := second.interface })
        (analyse settings world summariser disk source wantSummary).result
        (analyse settings { world with compiler := compiler } summariser disk source
          wantSummary).result) ∧
    ∀ otherSettings otherWorld otherDisk firstSummariser secondSummariser firstWanted
      secondWanted first second,
      (analyse settings world firstSummariser disk source firstWanted).result = .ok first →
      (analyse otherSettings otherWorld secondSummariser otherDisk source secondWanted).result =
        .ok second →
      second.inventory = first.inventory ∧ second.category = first.category ∧
        second.unsafeConstructs = first.unsafeConstructs := by
  refine ⟨?_, ?_, ?_⟩
  · intro chat firstSummariser secondSummariser firstWanted secondWanted
    exact analyse_endsAlike rfl rfl fun text judgement => rfl
  · intro compiler summariser wantSummary
    exact analyse_endsAlike rfl rfl fun text judgement => rfl
  · intro otherSettings otherWorld otherDisk firstSummariser secondSummariser firstWanted
      secondWanted first second firstEnded secondEnded
    obtain ⟨firstText, firstJudgement, firstGiven, -, rfl⟩ := analyse_record firstEnded
    obtain ⟨secondText, secondJudgement, secondGiven, -, rfl⟩ := analyse_record secondEnded
    cases firstGiven.symm.trans secondGiven
    exact ⟨rfl, rfl, rfl⟩

end SolidityAudit
