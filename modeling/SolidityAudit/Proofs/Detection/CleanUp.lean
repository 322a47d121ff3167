import SolidityAudit.Detection.Pipeline
import SolidityAudit.Proofs.Files.ScratchSteps

namespace SolidityAudit.Detection

open Files
open Text (Wording)

/-- The directory in which a run keeps its copy of the source. -/
def workDirectory [Host] (settings : Settings) (disk : Disk) : String :=
  scratchPath (disk.withPlace settings.scratchPlace) settings.scratchPlace

/-- The steps by which a run keeps its copy of the source. -/
def copySteps [Host] (settings : Settings) (disk : Disk) (faults : ScratchFaults)
    (source : Wording) : ScratchSteps :=
  scratchSteps disk source settings.scratchPlace faults

/-- Both categories with the rules in place of empty lists. -/
def Findings.orRules (findings : Findings) (source : String) : Findings :=
  ⟨(securityOrRules source findings.security).1, (styleOrRules source findings.style).1⟩

/-- The tools keep to the directory that they work in. -/
theorem ToolOutcomes.keepsOutside (outcomes : ToolOutcomes) : KeepsOutside outcomes.leave := by
  intro disk path place located
  exact ⟨outcomes.rework, by rw [leave, located]⟩

section Run

variable [Host] (settings : Settings) (disk : Disk) (faults : ScratchFaults)
  (outcomes : ToolOutcomes) (source : Wording)

/-- In a tree a run leaves only the prepared place behind. -/
theorem runPipeline_disk (tree : disk.IsTree) :
    (runPipeline settings disk faults outcomes source).disk =
      disk.withPlace settings.scratchPlace := by
  have left := tree.withScratch_disk settings.scratchPlace source faults outcomes.keepsOutside
    (detect settings outcomes)
  unfold runPipeline
  simp only
  split <;> exact left

/-- A run ends with the failure that its steps report, or else with what was detected. -/
theorem runPipeline_findings :
    (runPipeline settings disk faults outcomes source).findings =
      (copySteps settings disk faults source).outcome (workDirectory settings disk)
        ((detect settings outcomes (scratchFile (workDirectory settings disk))).findings.orRules
          source.masked) := by
  obtain ⟨-, outcome⟩ := withScratch_eq disk source settings.scratchPlace faults
    outcomes.keepsOutside (detect settings outcomes)
  unfold runPipeline
  simp only [outcome, ScratchSteps.outcome, copySteps, workDirectory]
  cases (scratchSteps disk source settings.scratchPlace faults).reported
    (scratchPath (disk.withPlace settings.scratchPlace) settings.scratchPlace) <;> rfl

/-- The tools are called on the file once it is written, and not before. -/
theorem runPipeline_calls :
    (runPipeline settings disk faults outcomes source).calls =
      if (copySteps settings disk faults source).writing.hasSucceeded then
        configuredCalls settings (scratchFile (workDirectory settings disk))
      else [] := by
  obtain ⟨worked, outcome⟩ := withScratch_eq disk source settings.scratchPlace faults
    outcomes.keepsOutside (detect settings outcomes)
  unfold runPipeline
  simp only [worked, outcome, copySteps, workDirectory]
  rcases scratchSteps_cases disk source settings.scratchPlace faults with
    ⟨fault, -, steps⟩ | ⟨-, -, -, ⟨fault, -, -, steps⟩ | ⟨-, steps⟩⟩
  · simp only [steps]
    rfl
  · simp only [steps]
    cases faults.removalEnd <;> rfl
  · simp only [steps]
    cases (Disk.stored source).2 <;> cases faults.removalEnd <;> rfl

end Run

section CleanUp

variable [Host] {settings : Settings} {disk : Disk} {faults : ScratchFaults}

/-- Trouble with a resource, unless the place is too deep or a text is broken. -/
def IsCopyFault (settings : Settings) (disk : Disk) (source : Wording) (fault : Fault) : Prop :=
  fault.kind = .resource ∨ (fault.kind = .tooDeep ∧ disk.IsTooDeep settings.scratchPlace) ∨
    fault.kind = .badText ∧ (IsBrokenPlace settings.scratchPlace ∨ source.isPlain = false)

omit [Host] in
/-- A removal that fails on demand is trouble with a resource. -/
theorem removalEnd_resource {reason : String} {cause : Fault}
    (ended : faults.removalEnd = .error cause) : (resourceFault reason cause).kind = .resource := by
  unfold ScratchFaults.removalEnd at ended
  cases removal : faults.removal with
  | none =>
      rw [removal] at ended
      cases ended
  | some text =>
      rw [removal] at ended
      cases ended
      rfl

/-- What is reported is a fault of the steps with the copy. -/
theorem copySteps_kinds {source : Wording} {fault : Fault}
    (plain : Disk.hasNull (scratchParent settings.scratchPlace) = false)
    (told : (copySteps settings disk faults source).reported (workDirectory settings disk) =
      some fault) : IsCopyFault settings disk source fault := by
  rcases scratchSteps_cases disk source settings.scratchPlace faults with
    ⟨cause, kinds, steps⟩ | ⟨-, -, -, ⟨cause, system, -, steps⟩ | ⟨-, steps⟩⟩
  · rw [copySteps, steps] at told
    cases told
    rcases kinds plain with system | ⟨broken, kind⟩ | ⟨deep, kind⟩
    · exact .inl (resourceFault_system _ system)
    · rw [resourceFault_other _ (by rw [kind]; rfl)]
      exact .inr (.inr ⟨kind, .inl broken⟩)
    · rw [resourceFault_other _ (by rw [kind]; rfl)]
      exact .inr (.inl ⟨kind, deep⟩)
  · rw [copySteps, steps] at told
    cases ended : faults.removalEnd with
    | ok value =>
        rw [ended] at told
        cases told
        exact .inl (resourceFault_system _ system)
    | error removal =>
        rw [ended] at told
        cases told
        exact .inl (removalEnd_resource ended)
  · rw [copySteps, steps] at told
    cases ended : faults.removalEnd with
    | ok value =>
        rw [ended] at told
        cases source with
        | plain source => cases told
        | broken source =>
            cases told
            exact .inr (.inr ⟨rfl, .inr rfl⟩)
    | error removal =>
        rw [ended] at told
        cases told
        exact .inl (removalEnd_resource ended)

/-- A broken source stops a step. -/
theorem copySteps_unencodable {source : Wording} (broken : source.isPlain = false) :
    ∃ fault, (copySteps settings disk faults source).reported (workDirectory settings disk) =
      some fault := by
  cases source with
  | plain source => cases broken
  | broken source =>
      rw [ScratchSteps.reported_iff_failed]
      rcases scratchSteps_cases disk (.broken source) settings.scratchPlace faults with
        ⟨cause, -, steps⟩ | ⟨-, -, -, ⟨cause, -, -, steps⟩ | ⟨-, steps⟩⟩
      · exact ⟨_, by simp [copySteps, steps], cause, rfl⟩
      · exact ⟨.failed cause, by simp [copySteps, steps], cause, rfl⟩
      · exact ⟨.failed (.unencodable source.encodingFault),
          by simp [copySteps, steps, Disk.stored, StepEnd.of], _, rfl⟩

/-- A place that is too deep stops the creation. -/
theorem copySteps_tooDeep (source : Wording) (deep : disk.IsTooDeep settings.scratchPlace) :
    copySteps settings disk faults source = ⟨.failed .exhausted, .notReached, .notReached⟩ := by
  rw [copySteps, scratchSteps, createScratch, preparePlace_tooDeep deep]

/-- Nothing is done where the place is too deep. -/
theorem runPipeline_tooDeep (outcomes : ToolOutcomes) (source : Wording) (tree : disk.IsTree)
    (deep : disk.IsTooDeep settings.scratchPlace) :
    let run := runPipeline settings disk faults outcomes source
    run.findings = .error .exhausted ∧ run.disk = disk ∧ run.calls = [] := by
  refine ⟨?_, ?_, ?_⟩
  · rw [runPipeline_findings, copySteps_tooDeep _ deep]
    rfl
  · rw [runPipeline_disk _ _ _ _ _ tree, Disk.withPlace, preparePlace_tooDeep deep]
  · rw [runPipeline_calls, copySteps_tooDeep _ deep]
    rfl

/-- A broken place stops the creation. -/
theorem copySteps_broken (source : Wording) (broken : IsBrokenPlace settings.scratchPlace) :
    ∃ fault, (copySteps settings disk faults source).reported (workDirectory settings disk) =
      some fault := by
  obtain ⟨fault, failed⟩ := preparePlace_broken disk broken
  rcases result : preparePlace disk settings.scratchPlace with ⟨middle, outcome⟩
  rw [result] at failed
  cases failed
  rw [copySteps, scratchSteps, createScratch, result]
  exact ⟨_, rfl⟩

end CleanUp

section Standard

attribute [local instance] Host.standard

end Standard

end SolidityAudit.Detection
