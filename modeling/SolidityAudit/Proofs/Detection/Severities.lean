import SolidityAudit.Proofs.Detection.Substitution

namespace SolidityAudit.Detection

open Files

/-- All severities of both categories are trimmed. -/
def AllTrimmed (findings : Findings) : Prop :=
  (∀ diagnostic ∈ findings.security, HasTrimmedSeverity diagnostic) ∧
    ∀ diagnostic ∈ findings.style, HasTrimmedSeverity diagnostic

/-- The security rules give trimmed severities. -/
theorem securityScan_trimmed (source : String) :
    ∀ diagnostic ∈ securityScan source, HasTrimmedSeverity diagnostic := by
  have trimmed : ∀ rule ∈ securityRules,
      (Text.Wording.plain rule.severity).trim = rule.severity := by decide
  intro diagnostic listed
  obtain ⟨rule, fired, rfl⟩ := List.mem_map.mp listed
  unfold firingRules at fired
  exact ⟨rule.severity, rfl, trimmed rule (List.mem_of_mem_filter fired)⟩

/-- The style rules give trimmed severities. -/
theorem styleScan_trimmed (source : String) :
    ∀ diagnostic ∈ styleScan source, HasTrimmedSeverity diagnostic := by
  intro diagnostic listed
  obtain ⟨issue, -, rfl⟩ := List.mem_map.mp listed
  exact ⟨"Warning", rfl, by decide⟩

/-- What is substituted has trimmed severities. -/
theorem substituted_trimmed {tool : Tool} {external : Except Fault (List Diagnostic)}
    {rules : List Diagnostic} (fromTool : Ensures (AllFromTool tool) external)
    (trimmed : ∀ diagnostic ∈ rules, HasTrimmedSeverity diagnostic) :
    ∀ diagnostic ∈ substituted external rules, HasTrimmedSeverity diagnostic := by
  unfold substituted
  split
  · exact fun diagnostic listed => (fromTool _ rfl diagnostic listed).2.2
  · exact trimmed

variable [Host]

/-- Tools and rules alike give trimmed severities. -/
theorem detect_trimmed (settings : Settings) (outcomes : ToolOutcomes) (path source : String) :
    AllTrimmed ((detect settings outcomes path).findings.orRules source) := by
  obtain ⟨security, style⟩ := configuredRun_diagnostics settings outcomes path
  rw [detect_orRules, security, style]
  constructor
  · exact substituted_trimmed (Tool.slither.diagnosticsOf_fromTool _) (securityScan_trimmed source)
  · exact substituted_trimmed (Tool.solhint.diagnosticsOf_fromTool _) (styleScan_trimmed source)

/-- Findings that a run ends with were detected on some copy of the source. -/
theorem runPipeline_detected {settings : Settings} {disk : Disk} {faults : ScratchFaults}
    {outcomes : ToolOutcomes} {source : Text.Wording} {findings : Findings}
    (returned : (runPipeline settings disk faults outcomes source).findings = .ok findings) :
    ∃ path, findings = (detect settings outcomes path).findings.orRules source.masked := by
  unfold runPipeline at returned
  simp only at returned
  split at returned
  · cases returned
  · next detected worked =>
    obtain ⟨path, rfl⟩ := withScratch_worked outcomes.keepsOutside worked
    cases returned
    exact ⟨path, rfl⟩

/-- The findings of a run have trimmed severities. -/
theorem runPipeline_trimmed {settings : Settings} {disk : Disk} {faults : ScratchFaults}
    {outcomes : ToolOutcomes} {source : Text.Wording} {findings : Findings}
    (returned : (runPipeline settings disk faults outcomes source).findings = .ok findings) :
    AllTrimmed findings := by
  obtain ⟨path, rfl⟩ := runPipeline_detected returned
  exact detect_trimmed settings outcomes path source.masked

end SolidityAudit.Detection
