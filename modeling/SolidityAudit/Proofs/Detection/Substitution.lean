import SolidityAudit.Proofs.Detection.CleanUp
import SolidityAudit.Proofs.Detection.Reports

namespace SolidityAudit.Detection

open Files

/-- The diagnostics of a tool if it gave some, and those of the rules otherwise. -/
def substituted (external : Except Fault (List Diagnostic)) (rules : List Diagnostic) :
    List Diagnostic :=
  match external with
  | .ok (first :: rest) => first :: rest
  | _ => rules

/-- A tool that fails found nothing. -/
theorem tolerated_diagnostics (tool : Tool) (run : ToolRun) :
    (tolerated tool run).1 = run.diagnostics.toOption.getD [] := by
  unfold tolerated
  cases run.diagnostics <;> rfl

/-- The security rules stand in for an empty list. -/
theorem securityOrRules_substitutes (source : String) (external : Except Fault (List Diagnostic)) :
    (securityOrRules source (external.toOption.getD [])).1 =
      substituted external (securityScan source) := by
  rcases external with fault | (_ | ⟨first, rest⟩) <;> rfl

/-- The style rules stand in for an empty list. -/
theorem styleOrRules_substitutes (source : String) (external : Except Fault (List Diagnostic)) :
    (styleOrRules source (external.toOption.getD [])).1 =
      substituted external (styleScan source) := by
  rcases external with fault | (_ | ⟨first, rest⟩) <;> rfl

section Run

variable [Host]

/-- Each category is substituted by itself. -/
theorem detect_orRules (settings : Settings) (outcomes : ToolOutcomes) (path source : String) :
    (detect settings outcomes path).findings.orRules source =
      ⟨substituted (configuredRun settings outcomes path .slither).diagnostics
          (securityScan source),
        substituted (configuredRun settings outcomes path .solhint).diagnostics
          (styleScan source)⟩ := by
  have security : (detect settings outcomes path).findings.security =
      (configuredRun settings outcomes path .slither).diagnostics.toOption.getD [] :=
    tolerated_diagnostics .slither _
  have style : (detect settings outcomes path).findings.style =
      (configuredRun settings outcomes path .solhint).diagnostics.toOption.getD [] :=
    tolerated_diagnostics .solhint _
  rw [Findings.orRules, security, style, securityOrRules_substitutes, styleOrRules_substitutes]

omit [Host] in
/-- Steps that succeed report nothing. -/
theorem reported_succeeded {steps : ScratchSteps} (succeeded : steps.succeeded = true)
    (directory : String) : steps.reported directory = none := by
  rcases steps with ⟨_ | _ | _, _ | _ | _, _ | _ | _⟩ <;> first | rfl | cases succeeded

/-- When the copy of the source causes no trouble, a run ends with what was detected. -/
theorem runPipeline_succeeded {settings : Settings} {disk : Disk} {faults : ScratchFaults}
    {source : String} (succeeded : (copySteps settings disk faults source).succeeded = true)
    (outcomes : ToolOutcomes) :
    (runPipeline settings disk faults outcomes source).findings =
      .ok ((detect settings outcomes (scratchFile (workDirectory settings disk))).findings.orRules
        source) := by
  rw [runPipeline_findings, ScratchSteps.outcome, reported_succeeded succeeded]
  rfl

omit [Host] in
/-- What is substituted has one source: that of the tool, or that of the rules. -/
theorem substituted_source (tool : Tool) {external : Except Fault (List Diagnostic)}
    {rules : List Diagnostic} {label : String} (fromTool : Ensures (AllFromTool tool) external)
    (fromRules : ∀ diagnostic ∈ rules, diagnostic.source = label) :
    (∀ diagnostic ∈ substituted external rules, diagnostic.source = tool.name) ∨
      ∀ diagnostic ∈ substituted external rules, diagnostic.source = label := by
  unfold substituted
  split
  · next first rest =>
    exact .inl fun diagnostic listed => (fromTool _ rfl diagnostic listed).1
  · exact .inr fromRules

omit [Host] in
/-- The security rules sign their findings. -/
theorem securityScan_source (source : String) (diagnostic : Diagnostic)
    (listed : diagnostic ∈ securityScan source) : diagnostic.source = securityRuleSource := by
  obtain ⟨rule, -, rfl⟩ := List.mem_map.mp listed
  rfl

omit [Host] in
/-- The style rules sign their issues. -/
theorem styleScan_source (source : String) (diagnostic : Diagnostic)
    (listed : diagnostic ∈ styleScan source) : diagnostic.source = styleRuleSource := by
  obtain ⟨issue, -, rfl⟩ := List.mem_map.mp listed
  rfl

/-- The diagnostics of both tools follow from their reports. -/
theorem configuredRun_diagnostics (settings : Settings) (outcomes : ToolOutcomes)
    (path : String) :
    (configuredRun settings outcomes path .slither).diagnostics =
        Tool.slither.diagnosticsOf outcomes.slither.report ∧
      (configuredRun settings outcomes path .solhint).diagnostics =
        Tool.solhint.diagnosticsOf outcomes.solhint.report :=
  ⟨Tool.run_diagnostics _ _ _ _ _, Tool.run_diagnostics _ _ _ _ _⟩

/-- Each category of the findings is the whole list of its tool or, where that is empty, exactly
what the rules say of the source. Neither the other tool nor codes and complaints can change it. -/
theorem runPipeline_substitutes (settings : Settings) (disk : Disk) (faults : ScratchFaults)
    (outcomes : ToolOutcomes) (source : String)
    (succeeded : (copySteps settings disk faults source).succeeded = true) :
    let path := scratchFile (workDirectory settings disk)
    ∃ findings, (runPipeline settings disk faults outcomes source).findings = .ok findings ∧
      findings.security = substituted
        (configuredRun settings outcomes path .slither).diagnostics (securityScan source) ∧
      findings.style = substituted
        (configuredRun settings outcomes path .solhint).diagnostics (styleScan source) ∧
      ((∀ diagnostic ∈ findings.security, diagnostic.source = "slither") ∨
        ∀ diagnostic ∈ findings.security, diagnostic.source = "heuristic-security") ∧
      ((∀ diagnostic ∈ findings.style, diagnostic.source = "solhint") ∨
        ∀ diagnostic ∈ findings.style, diagnostic.source = "heuristic-style") ∧
      ∀ other : ToolOutcomes, ∃ changed,
        (runPipeline settings disk faults other source).findings = .ok changed ∧
          (other.slither.report = outcomes.slither.report →
            changed.security = findings.security) ∧
          (other.solhint.report = outcomes.solhint.report → changed.style = findings.style) := by
  intro path
  obtain ⟨security, style⟩ := configuredRun_diagnostics settings outcomes path
  refine ⟨_, runPipeline_succeeded succeeded outcomes, ?_⟩
  rw [detect_orRules]
  refine ⟨rfl, rfl, ?_, ?_, ?_⟩
  · have fromTool := Tool.slither.diagnosticsOf_fromTool outcomes.slither.report
    rw [← security] at fromTool
    exact substituted_source .slither fromTool (securityScan_source source)
  · have fromTool := Tool.solhint.diagnosticsOf_fromTool outcomes.solhint.report
    rw [← style] at fromTool
    exact substituted_source .solhint fromTool (styleScan_source source)
  · intro other
    obtain ⟨otherSecurity, otherStyle⟩ := configuredRun_diagnostics settings other path
    refine ⟨_, runPipeline_succeeded succeeded other, ?_⟩
    rw [detect_orRules]
    constructor
    · intro same
      rw [security, otherSecurity, same]
    · intro same
      rw [style, otherStyle, same]

end Run

section Standard

attribute [local instance] Host.standard

/-- With the security tool missing and the linter silent, the rules speak for both. -/
theorem runPipeline_substitutes_rules :
    (copySteps {} ⟨[(["tmp"], .directory)], []⟩ {} "suicide").succeeded = true ∧
      ∃ findings, (runPipeline {} ⟨[(["tmp"], .directory)], []⟩ {}
          { slither := .notStarted (.plain .missingFile "slither"),
            solhint := .completed none (some "stopped") 1 }
          "suicide").findings = .ok findings ∧
        findings.security = securityScan "suicide" ∧ findings.style = styleScan "suicide" := by
  have succeeded :
      (copySteps {} ⟨[(["tmp"], .directory)], []⟩ {} "suicide").succeeded = true := by
    decide +kernel
  obtain ⟨findings, ended, security, style, -⟩ := runPipeline_substitutes {}
    ⟨[(["tmp"], .directory)], []⟩ {}
    { slither := .notStarted (.plain .missingFile "slither"),
      solhint := .completed none (some "stopped") 1 }
    "suicide" succeeded
  exact ⟨succeeded, findings, ended, security, style⟩

end Standard

end SolidityAudit.Detection
