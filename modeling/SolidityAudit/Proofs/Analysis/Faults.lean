import SolidityAudit.Analysis
import SolidityAudit.Proofs.Detection.Severities
import SolidityAudit.Proofs.Risk.Names

namespace SolidityAudit

open Detection (Findings IsCopyFault runPipeline copySteps workDirectory)
open Files (Disk IsBrokenPlace IsPathName StepEnd scratchParent)
open Json (Value)
open Risk (HasWordedSeverity obscured)
open Text (Wording)

/-- All severities of both categories are in words. -/
def AllWorded (findings : Findings) : Prop :=
  (∀ diagnostic ∈ findings.security, HasWordedSeverity diagnostic) ∧
    ∀ diagnostic ∈ findings.style, HasWordedSeverity diagnostic

/-- Tools and rules alike give their severities in words. -/
theorem detect_worded [Host] (settings : Settings) (outcomes : Detection.ToolOutcomes)
    (path source : String) :
    AllWorded ((Detection.detect settings outcomes path).findings.orRules source) := by
  obtain ⟨security, style⟩ := Detection.detect_trimmed settings outcomes path source
  constructor
  · intro diagnostic listed
    obtain ⟨words, worded, -⟩ := security diagnostic listed
    exact ⟨words, worded⟩
  · intro diagnostic listed
    obtain ⟨words, worded, -⟩ := style diagnostic listed
    exact ⟨words, worded⟩

/-- A name that cannot be read is reached in grading or in warning. -/
def namesStop (findings : Findings) : Bool :=
  (match Risk.score findings.security findings.style with
    | .ok score => decide ((score : Int) ≤ Risk.worstGradeAbove) &&
        obscured Risk.escalationMarkers findings.security
    | .error _ => false) ||
  obscured Risk.criticalMarkers findings.security

/-- Grading fails only on a name that is reached. -/
theorem verdictOn_cases {findings : Findings} (worded : AllWorded findings) :
    ∃ score, Risk.score findings.security findings.style = .ok score ∧
      if (score : Int) ≤ Risk.worstGradeAbove ∧
          obscured Risk.escalationMarkers findings.security = true then
        ∃ diagnostic, verdictOn findings = .error (.shape (Risk.unreadableName diagnostic))
      else ∃ grade, verdictOn findings = .ok ⟨score, grade⟩ := by
  obtain ⟨score, scored⟩ := Risk.score_total worded.1 worded.2
  refine ⟨score, scored, ?_⟩
  have graded := Risk.grade_cases score findings.security
  unfold verdictOn
  rw [scored]
  split at graded
  · next stops =>
    obtain ⟨diagnostic, failed⟩ := graded
    rw [if_pos stops]
    exact ⟨diagnostic, by simp only [failed, Except.mapError, bind, Except.bind]⟩
  · next goesOn =>
    obtain ⟨grade, given⟩ := graded
    rw [if_neg goesOn]
    exact ⟨grade, by simp only [given, Except.mapError, bind, Except.bind, pure, Except.pure]⟩

/-- Warning fails only on a name that is reached. -/
theorem assembleRecord_cases {findings : Findings} (worded : AllWorded findings)
    (source : String) (verdict : Verdict) (interface : List Interface.Entry)
    (summary : Option Wording) (time : Timestamp) :
    if obscured Risk.criticalMarkers findings.security = true then
      ∃ diagnostic, assembleRecord source findings verdict interface summary time =
        .error (.shape (Risk.unreadableName diagnostic))
    else ∃ record, assembleRecord source findings verdict interface summary time = .ok record := by
  have warned := Risk.deploymentWarnings_cases worded.1
  unfold assembleRecord
  split at warned
  · next stops =>
    obtain ⟨diagnostic, failed⟩ := warned
    rw [if_pos stops]
    exact ⟨diagnostic, by simp only [failed, Except.mapError, bind, Except.bind]⟩
  · next goesOn =>
    obtain ⟨warnings, given⟩ := warned
    rw [if_neg goesOn, given]
    exact ⟨_, rfl⟩

/-- Once there are findings, only a name that cannot be read keeps the record from being made. -/
theorem analyseText_result [Host] {settings : Settings} {world : World} {disk : Disk}
    {source : Wording} {findings : Findings} (summariser : Option Summariser) (wantSummary : Bool)
    (found : (runPipeline settings disk world.scratchFaults world.tools source).findings =
      .ok findings) (worded : AllWorded findings) :
    if namesStop findings = true then
      ∃ diagnostic, (analyseText settings world summariser disk source wantSummary).result =
        .error (.shape (Risk.unreadableName diagnostic))
    else ∃ record, (analyseText settings world summariser disk source wantSummary).result =
      .ok record := by
  obtain ⟨score, scored, verdict⟩ := verdictOn_cases worded
  have stops : namesStop findings =
      (decide ((score : Int) ≤ Risk.worstGradeAbove) &&
        obscured Risk.escalationMarkers findings.security ||
          obscured Risk.criticalMarkers findings.security) := by
    simp [namesStop, scored]
  split at verdict
  · next graded =>
    obtain ⟨diagnostic, failed⟩ := verdict
    rw [if_pos (by simp [stops, graded.1, graded.2])]
    exact ⟨diagnostic, by simp only [analyseText, found, failed]⟩
  · next leftOpen =>
    obtain ⟨grade, given⟩ := verdict
    have same : namesStop findings = obscured Risk.criticalMarkers findings.security := by
      rw [stops]
      simp only [not_and, Bool.not_eq_true] at leftOpen
      by_cases low : (score : Int) ≤ Risk.worstGradeAbove
      · simp [leftOpen low]
      · simp [low]
    rw [same]
    simp only [analyseText, found, given]
    exact assembleRecord_cases worded _ _ _ _ _

/-- The source is no text, or one of white space alone. -/
def IsMissing (source : Value) : Prop :=
  ∀ text, source = .text text → text.isBlank = true

/-- A missing source is not analysed. -/
theorem sourceText?_missing {source : Value} (missing : IsMissing source) :
    sourceText? source = none := by
  cases source with
  | text content => simp [sourceText?, missing content rfl]
  | _ => rfl

/-- A step with the copy of the source failed. -/
def copyFailed [Host] (settings : Settings) (world : World) (disk : Disk) (text : Wording) : Prop :=
  let steps := copySteps settings disk world.scratchFaults text
  ∃ step ∈ [steps.creation, steps.writing, steps.removal], ∃ fault, step = StepEnd.failed fault

section Analyse

variable [Host] {settings : Settings} {world : World} {disk : Disk} {text : Wording}
  (summariser : Option Summariser) (wantSummary : Bool)

/-- A missing source is refused at once. -/
theorem analyse_missing {source : Value} (missing : IsMissing source) :
    analyse settings world summariser disk source wantSummary =
      { disk := disk, result := .error (missingSource source) } := by
  simp only [analyse, sourceText?_missing missing]

/-- A source is rejected where it can be shown. -/
theorem missingSource_rejects {source : Value} :
    (missingSource source).kind = .validation ↔ source.isWritable = true := by
  unfold missingSource Fault.rejecting Value.isWritable
  cases source.refusal? with
  | none => exact iff_of_true rfl rfl
  | some obstacle => cases obstacle <;> exact iff_of_false nofun (by simp)

/-- A source that is there is analysed. -/
theorem analyse_inked (inked : text.isBlank = false) :
    analyse settings world summariser disk (.text text) wantSummary =
      analyseText settings world summariser disk text wantSummary := by
  simp only [analyse, sourceText?, inked, Bool.false_eq_true, if_false]

/-- A failed step ends the analysis with what is reported of it. -/
theorem analyseText_reported {fault : Fault}
    (told : (copySteps settings disk world.scratchFaults text).reported
      (workDirectory settings disk) = some fault) :
    (analyseText settings world summariser disk text wantSummary).result = .error fault := by
  have findings := Detection.runPipeline_findings settings disk world.scratchFaults world.tools text
  rw [(Files.ScratchSteps.outcome_error_iff _ _ _ fault).mpr told] at findings
  simp only [analyseText, findings]

/-- Without a failed step there are findings, and only their names can stop the analysis. -/
theorem analyseText_copyFine (fine : ¬ copyFailed settings world disk text) :
    ∃ findings, (runPipeline settings disk world.scratchFaults world.tools text).findings =
        .ok findings ∧
      if namesStop findings = true then
        ∃ diagnostic, (analyseText settings world summariser disk text wantSummary).result =
          .error (.shape (Risk.unreadableName diagnostic))
      else ∃ record, (analyseText settings world summariser disk text wantSummary).result =
        .ok record := by
  have quiet : (copySteps settings disk world.scratchFaults text).reported
      (workDirectory settings disk) = none := by
    by_contra loud
    obtain ⟨fault, reported⟩ := Option.ne_none_iff_exists'.mp loud
    exact fine ((Files.ScratchSteps.reported_iff_failed _ _).mp ⟨fault, reported⟩)
  have findings := Detection.runPipeline_findings settings disk world.scratchFaults world.tools text
  rw [Files.ScratchSteps.outcome, quiet] at findings
  exact ⟨_, findings, analyseText_result summariser wantSummary findings
    (detect_worded settings world.tools _ text.masked)⟩

/-- A fault without a failed step is about the shape of a name. -/
theorem analyseText_copyFine_kind (fine : ¬ copyFailed settings world disk text) {fault : Fault}
    (ended : (analyseText settings world summariser disk text wantSummary).result =
      .error fault) : fault.kind = .missingAttribute := by
  obtain ⟨findings, -, result⟩ := analyseText_copyFine summariser wantSummary fine
  split at result
  · obtain ⟨diagnostic, stopped⟩ := result
    cases stopped.symm.trans ended
    rfl
  · obtain ⟨record, made⟩ := result
    cases made.symm.trans ended

/-- A step fails exactly where the analysis ends with a fault of the steps. -/
theorem analyseText_copyFailed
    (plain : Disk.hasNull (scratchParent settings.scratchPlace) = false) :
    copyFailed settings world disk text ↔
      ∃ fault, (analyseText settings world summariser disk text wantSummary).result =
        .error fault ∧ IsCopyFault settings disk text fault := by
  constructor
  · intro failed
    obtain ⟨fault, told⟩ :=
      (Files.ScratchSteps.reported_iff_failed _ (workDirectory settings disk)).mpr failed
    exact ⟨fault, analyseText_reported summariser wantSummary told,
      Detection.copySteps_kinds plain told⟩
  · rintro ⟨fault, ended, kinds⟩
    by_contra fine
    have shape := analyseText_copyFine_kind summariser wantSummary fine ended
    simp [IsCopyFault, shape] at kinds

/-- No source that is there is rejected. -/
theorem analyseText_accepts (plain : Disk.hasNull (scratchParent settings.scratchPlace) = false)
    {fault : Fault}
    (ended : (analyseText settings world summariser disk text wantSummary).result =
      .error fault) : fault.kind ≠ .validation := by
  intro validation
  by_cases failed : copyFailed settings world disk text
  · obtain ⟨other, stopped, kinds⟩ :=
      (analyseText_copyFailed summariser wantSummary plain).mp failed
    cases stopped.symm.trans ended
    simp [IsCopyFault, validation] at kinds
  · have shape := analyseText_copyFine_kind summariser wantSummary failed ended
    cases shape.symm.trans validation

end Analyse

/-- A missing source ends the analysis before anything is done. Any other ends in a fault of its
copy exactly when a step with it failed. Otherwise there is a record, unless a name without lower
case is reached. -/
theorem analyse_faults [Host] (settings : Settings) (world : World)
    (summariser : Option Summariser) (disk : Disk) (source : Value) (wantSummary : Bool)
    (place : IsPathName settings.scratchPlace) :
    let run := analyse settings world summariser disk source wantSummary
    ((∃ fault, run.result = .error fault ∧ fault.kind = .validation) ↔
      IsMissing source ∧ source.isWritable = true) ∧
    (IsMissing source → run.disk = disk ∧ run.calls = [] ∧ run.prompts = [] ∧
      ∀ obstacle, source.refusal? = some obstacle → run.result = .error (.ofObstacle obstacle)) ∧
    ∀ text, source = .text text → text.isBlank = false →
      (copyFailed settings world disk text ↔
        ∃ fault, run.result = .error fault ∧ IsCopyFault settings disk text fault) ∧
      (text.isPlain = false → copyFailed settings world disk text) ∧
      (IsBrokenPlace settings.scratchPlace → copyFailed settings world disk text) ∧
      (disk.IsTooDeep settings.scratchPlace → run.result = .error .exhausted) ∧
      (¬ copyFailed settings world disk text → ∃ findings,
        (runPipeline settings disk world.scratchFaults world.tools text).findings =
          .ok findings ∧
        (namesStop findings = false → ∃ record, run.result = .ok record) ∧
        (namesStop findings = true → ∃ kind,
          run.result = .error (.shape (.lacksOperation kind "lower")))) := by
  intro run
  by_cases missing : IsMissing source
  · have refused : run = { disk := disk, result := .error (missingSource source) } :=
      analyse_missing summariser wantSummary missing
    rw [refused]
    refine ⟨?_, fun _ => ⟨rfl, rfl, rfl, ?_⟩, ?_⟩
    · simpa [missing] using missingSource_rejects
    · intro obstacle met
      rw [missingSource, Fault.rejecting, met]
    · intro text isText inked
      rw [missing text isText] at inked
      cases inked
  · obtain ⟨text, rfl, inked⟩ : ∃ text, source = .text text ∧ text.isBlank = false := by
      simpa [IsMissing] using missing
    have analysed : run = analyseText settings world summariser disk text wantSummary :=
      analyse_inked summariser wantSummary inked
    rw [analysed]
    refine ⟨⟨?_, fun absent => absurd absent.1 missing⟩, fun absent => absurd absent missing, ?_⟩
    · rintro ⟨fault, ended, validation⟩
      exact absurd validation (analyseText_accepts summariser wantSummary place.plain ended)
    rintro other ⟨⟩ -
    refine ⟨analyseText_copyFailed summariser wantSummary place.plain, ?_, ?_, ?_, ?_⟩
    · intro broken
      exact (Files.ScratchSteps.reported_iff_failed _ _).mp
        (Detection.copySteps_unencodable broken)
    · intro broken
      exact (Files.ScratchSteps.reported_iff_failed _ _).mp (Detection.copySteps_broken _ broken)
    · intro deep
      refine analyseText_reported summariser wantSummary ?_
      rw [Detection.copySteps_tooDeep _ deep]
      rfl
    · intro fine
      obtain ⟨findings, found, result⟩ := analyseText_copyFine summariser wantSummary fine
      refine ⟨findings, found, ?_, ?_⟩
      · intro clear
        rwa [if_neg (by simp [clear])] at result
      · intro blocked
        rw [if_pos blocked] at result
        obtain ⟨diagnostic, stopped⟩ := result
        exact ⟨_, stopped⟩

section Standard

attribute [local instance] Host.standard

/-- A world in which the security tool reports one finding and nothing else is at hand. -/
def worldReporting (name : String) : World where
  tools :=
    { slither := .completed ("\x7b\"results\":\x7b\"detectors\":[\x7b\"check\":" ++ name ++
        ",\"elements\":[\x7b\x7d]\x7d]\x7d\x7d") none 0
      solhint := .notStarted (.plain .missingFile "solhint") }
  compiler := .failed (.plain .general "no compiler")
  chat := .answered []
  responses := []
  clock := { year := 2024, month := 1, day := 2 }
  scratchFaults := {}

/-- A finding whose name is a text ends in a record. -/
theorem analyse_faults_named :
    IsPathName none ∧ ¬ copyFailed {} (worldReporting "\"proxy\"")
        ⟨[(["tmp"], .directory)], []⟩ "contract A" ∧
      ∃ record, (analyse {} (worldReporting "\"proxy\"") none ⟨[(["tmp"], .directory)], []⟩
        (.text "contract A") false).result = .ok record := by
  have place : IsPathName none := ⟨by decide, nofun⟩
  obtain ⟨-, -, inked⟩ := analyse_faults {} (worldReporting "\"proxy\"") none
    ⟨[(["tmp"], .directory)], []⟩ (.text "contract A") false place
  obtain ⟨-, -, -, -, afterCopy⟩ := inked "contract A" rfl (by decide)
  have fine : ¬ copyFailed {} (worldReporting "\"proxy\"") ⟨[(["tmp"], .directory)], []⟩
      "contract A" := by
    intro failed
    obtain ⟨fault, reported⟩ := (Files.ScratchSteps.reported_iff_failed _ "").mpr failed
    have quiet : ((copySteps {} ⟨[(["tmp"], .directory)], []⟩ {} "contract A").reported
        "").isSome = false := by decide +kernel
    have told : (copySteps {} ⟨[(["tmp"], .directory)], []⟩ {} "contract A").reported "" =
        some fault := reported
    rw [told] at quiet
    cases quiet
  obtain ⟨findings, found, clear, -⟩ := afterCopy fine
  refine ⟨place, fine, clear ?_⟩
  have names : (runPipeline {} ⟨[(["tmp"], .directory)], []⟩ {}
      (worldReporting "\"proxy\"").tools "contract A").findings.toOption.map namesStop =
        some false := by decide +kernel
  have told : (runPipeline {} ⟨[(["tmp"], .directory)], []⟩ {}
      (worldReporting "\"proxy\"").tools "contract A").findings = .ok findings := found
  rw [told] at names
  exact Option.some.inj names

/-- A finding whose name is a number ends in a fault of neither documented kind. -/
theorem analyse_numbered_name :
    (Wording.plain "contract A").isBlank = false ∧
      (copySteps {} ⟨[(["tmp"], .directory)], []⟩ {} "contract A").succeeded = true ∧
      (match (analyse {} (worldReporting "5") none ⟨[(["tmp"], .directory)], []⟩
          (.text "contract A") false).result with
        | .error fault => fault.kind == .missingAttribute
        | .ok _ => false) = true := by
  decide +kernel

end Standard

end SolidityAudit
