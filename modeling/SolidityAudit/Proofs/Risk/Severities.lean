import Mathlib.Tactic.Ring
import SolidityAudit.Proofs.Detection.Severities
import SolidityAudit.Proofs.Risk.Names
import SolidityAudit.Proofs.Text.Split

namespace SolidityAudit.Risk

open Detection (HasTrimmedSeverity)
open Json (Value ShapeFault)
open Text

/-- The sum of weights over a table of counts, where every label is looked up as it stands. -/
def countedWeight (weights : List (Wording × Nat)) (counts : List (Wording × Nat)) : Nat :=
  (counts.map fun entry => (weights.lookup entry.1).getD 0 * entry.2).sum

/-- A label that stands first is counted there. -/
theorem countLabel_same (label : Wording) (count : Nat) (rest : List (Wording × Nat)) :
    countLabel label ((label, count) :: rest) = (label, count + 1) :: rest := by
  simp [countLabel]

/-- Another label is counted later. -/
theorem countLabel_other {label other : Wording} (apart : other ≠ label) (count : Nat)
    (rest : List (Wording × Nat)) :
    countLabel label ((other, count) :: rest) = (other, count) :: countLabel label rest := by
  simp [countLabel, apart]

/-- One more label adds its weight. -/
theorem countedWeight_countLabel (weights : List (Wording × Nat)) (label : Wording)
    (counts : List (Wording × Nat)) :
    countedWeight weights (countLabel label counts) =
      (weights.lookup label).getD 0 + countedWeight weights counts := by
  induction counts with
  | nil => simp [countedWeight, countLabel]
  | cons entry rest ih =>
      obtain ⟨other, count⟩ := entry
      unfold countedWeight at ih ⊢
      by_cases same : other = label
      · subst same
        rw [countLabel_same, List.map_cons, List.sum_cons, List.map_cons, List.sum_cons]
        ring
      · rw [countLabel_other same, List.map_cons, List.sum_cons, ih, List.map_cons,
          List.sum_cons]
        ring

/-- One more label is counted once. -/
theorem lookup_countLabel (wanted label : Wording) (counts : List (Wording × Nat)) :
    ((countLabel label counts).lookup wanted).getD 0 =
      (counts.lookup wanted).getD 0 + if label = wanted then 1 else 0 := by
  induction counts with
  | nil =>
      by_cases same : label = wanted
      · simp [countLabel, same]
      · have apart : (wanted == label) = false := by simpa using Ne.symm same
        simp [countLabel, List.lookup_cons, apart, same]
  | cons entry rest ih =>
      obtain ⟨other, count⟩ := entry
      by_cases found : other = wanted
      · subst found
        by_cases counted : other = label
        · subst counted
          simp [countLabel_same]
        · simp [countLabel_other counted, Ne.symm counted]
      · have apart : (wanted == other) = false := by simpa using Ne.symm found
        by_cases counted : other = label
        · subst counted
          simp [countLabel_same, List.lookup_cons, apart, found]
        · rw [countLabel_other counted, List.lookup_cons, apart, List.lookup_cons, apart]
          exact ih

/-- Counting labels one by one keeps the sum of their weights. -/
theorem countedWeight_foldl (weights : List (Wording × Nat)) (keys : List Wording)
    (counts : List (Wording × Nat)) :
    countedWeight weights (keys.foldl (fun counts key => countLabel key counts) counts) =
      countedWeight weights counts + (keys.map fun key => (weights.lookup key).getD 0).sum := by
  induction keys generalizing counts with
  | nil => simp
  | cons key rest ih =>
      rw [List.foldl_cons, ih, countedWeight_countLabel, List.map_cons, List.sum_cons]
      ring

/-- All labels are counted. -/
theorem lookup_foldl_countLabel (wanted : Wording) (keys : List Wording)
    (counts : List (Wording × Nat)) :
    ((keys.foldl (fun counts key => countLabel key counts) counts).lookup wanted).getD 0 =
      (counts.lookup wanted).getD 0 + keys.count wanted := by
  induction keys generalizing counts with
  | nil => simp
  | cons key rest ih =>
      rw [List.foldl_cons, ih, lookup_countLabel, List.count_cons]
      simp only [beq_iff_eq]
      ring

/-- The label under which a diagnostic is counted. -/
def keyOf (diagnostic : Diagnostic) : Wording :=
  (severityKey diagnostic.severity).toOption.getD ""

/-- A table of weights that leaves out both the empty label and the one that stands for it. -/
def LacksUnknown (weights : List (Wording × Nat)) : Prop :=
  weights.lookup (Wording.plain "") = none ∧ weights.lookup (Wording.plain "unknown") = none

/-- A trimmed severity is weighed by the label under which it is counted. -/
theorem HasTrimmedSeverity.weighed {diagnostic : Diagnostic}
    (trimmed : HasTrimmedSeverity diagnostic) :
    severityKey diagnostic.severity = .ok (keyOf diagnostic) ∧
      ∀ weights, LacksUnknown weights →
        severityWeight weights diagnostic.severity =
          .ok ((weights.lookup (keyOf diagnostic)).getD 0) := by
  obtain ⟨words, severity, trimmed⟩ := trimmed
  by_cases empty : words = .plain ""
  · subst empty
    have unknown : severityKey diagnostic.severity = .ok (.plain "unknown") := by
      rw [severity]
      exact congrArg Except.ok (show (Wording.plain "unknown").lower = "unknown" by decide)
    have key : keyOf diagnostic = .plain "unknown" := by rw [keyOf, unknown]; rfl
    refine ⟨by rw [unknown, key], ?_⟩
    intro weights lacks
    rw [severity, key, lacks.2]
    have nothing : severityWeight weights (.text "") =
        .ok ((weights.lookup (Wording.plain "")).getD 0) := rfl
    rw [nothing, lacks.1]
  · have present (default : Value) : (Value.text words).orElse default = .text words := by
      simp [Value.orElse, Value.isPresent, empty]
    have counted : severityKey diagnostic.severity = .ok words.lower := by
      rw [severity, severityKey, present]
      rfl
    have key : keyOf diagnostic = words.lower := by
      rw [keyOf, counted]
      rfl
    refine ⟨by rw [counted, key], ?_⟩
    intro weights _
    rw [severity, severityWeight, present, key]
    simp only [Value.wording, Except.map, labelWeight, trimmed]

section Trimmed

variable {diagnostics : List Diagnostic}
  (trimmed : ∀ diagnostic ∈ diagnostics, HasTrimmedSeverity diagnostic)

include trimmed

/-- Trimmed severities are counted under their labels. -/
theorem severityCounts_trimmed :
    severityCounts diagnostics =
      .ok ((diagnostics.map keyOf).foldl (fun counts key => countLabel key counts) []) := by
  have keys : diagnostics.mapM (fun diagnostic => severityKey diagnostic.severity) =
      .ok (diagnostics.map keyOf) :=
    mapM_eq_map fun diagnostic listed =>
      (HasTrimmedSeverity.weighed (trimmed diagnostic listed)).1
  rw [severityCounts, keys]
  rfl

/-- The total weight can be read off the table of counts. -/
theorem totalWeight_counted {weights : List (Wording × Nat)} (lacks : LacksUnknown weights) :
    ∃ counts, severityCounts diagnostics = .ok counts ∧
      totalWeight weights diagnostics = .ok (countedWeight weights counts) := by
  refine ⟨_, severityCounts_trimmed trimmed, ?_⟩
  have parts : diagnostics.mapM (fun diagnostic => severityWeight weights diagnostic.severity) =
      .ok (diagnostics.map fun diagnostic => (weights.lookup (keyOf diagnostic)).getD 0) :=
    mapM_eq_map fun diagnostic listed =>
      (HasTrimmedSeverity.weighed (trimmed diagnostic listed)).2 weights lacks
  rw [totalWeight, parts, countedWeight_foldl, List.map_map]
  simp only [countedWeight, List.map_nil, List.sum_nil, Nat.zero_add]
  rfl

end Trimmed

/-- The weights of impacts leave out both labels. -/
theorem lacksUnknown_security : LacksUnknown securityWeights := ⟨by decide, by decide⟩

/-- The weights of severities leave out both labels. -/
theorem lacksUnknown_style : LacksUnknown styleWeights := ⟨by decide, by decide⟩

/-- A security finding adds the given weight to the score. -/
def contributes (weight : Nat) (diagnostic : Diagnostic) : Bool :=
  (severityWeight securityWeights diagnostic.severity).toOption == some weight

/-- Of all labels, only that of high severities weighs as much as it does. -/
theorem contributes_high {diagnostic : Diagnostic} (trimmed : HasTrimmedSeverity diagnostic) :
    contributes 25 diagnostic = (keyOf diagnostic == Wording.plain "high") := by
  have weighed := (HasTrimmedSeverity.weighed trimmed).2 securityWeights lacksUnknown_security
  rw [contributes, weighed]
  simp only [securityWeights, List.lookup_cons, List.lookup_nil]
  cases keyOf diagnostic == Wording.plain "high" with
  | true => rfl
  | false =>
      cases keyOf diagnostic == Wording.plain "medium" <;>
        cases keyOf diagnostic == Wording.plain "low" <;>
          cases keyOf diagnostic == Wording.plain "informational" <;> rfl

/-- As many are high as weigh so. -/
theorem highCount_contributing {security : List Diagnostic}
    (trimmed : ∀ diagnostic ∈ security, HasTrimmedSeverity diagnostic) :
    highCount security = .ok (security.countP (contributes 25)) := by
  rw [highCount, severityCounts_trimmed trimmed]
  simp only [Except.map, lookup_foldl_countLabel, List.lookup_nil, Option.getD_none, Nat.zero_add]
  rw [List.count, List.countP_map]
  refine congrArg Except.ok (List.countP_congr fun diagnostic listed => ?_)
  rw [contributes_high (trimmed diagnostic listed)]
  rfl

/-- Where all names can be read, none hides whether another carries a marker. -/
theorem obscured_readable {security : List Diagnostic}
    (named : ∀ diagnostic ∈ security, hasReadableName diagnostic = true) (markers : List String) :
    obscured markers security = false := by
  unfold obscured
  cases told : firstTelling? markers security with
  | none => rfl
  | some diagnostic =>
      have readable := named diagnostic (List.mem_of_find?_eq_some told)
      simp [readable]

/-- The warning of so many issues. -/
def highWarning (count : Nat) : String :=
  "⚠️ " ++ toString count ++ " high severity issues found"

/-- A warning that speaks of issues of high severity. -/
def speaksOfHigh (warning : String) : Bool :=
  occursIn "high severity issues".toList warning.toList

/-- The warning speaks of high severity. -/
theorem speaksOfHigh_highWarning (count : Nat) : speaksOfHigh (highWarning count) = true := by
  refine occursIn_iff.mpr ⟨("⚠️ " ++ toString count ++ " ").toList, " found".toList, ?_⟩
  simp [highWarning]

/-- Issues of high severity are announced once and by their number, if there are any. -/
theorem deploymentWarnings_high {security : List Diagnostic}
    (trimmed : ∀ diagnostic ∈ security, HasTrimmedSeverity diagnostic)
    (named : ∀ diagnostic ∈ security, hasReadableName diagnostic = true) :
    ∃ warnings, deploymentWarnings security = .ok warnings ∧
      warnings.filter speaksOfHigh =
        if security.countP (contributes 25) = 0 then []
        else [highWarning (security.countP (contributes 25))] := by
  obtain ⟨critical, told⟩ := hasMarker_total (obscured_readable named criticalMarkers)
  have silent : speaksOfHigh "🚨 Critical security vulnerabilities detected" = false := by decide
  refine ⟨_, by rw [deploymentWarnings, highCount_contributing trimmed, told]; rfl, ?_⟩
  generalize security.countP (contributes 25) = count
  rw [List.filter_append]
  have criticalSilent : (if critical = true then
      ["🚨 Critical security vulnerabilities detected"] else []).filter speaksOfHigh = [] := by
    cases critical <;> simp [silent]
  rw [criticalSilent, List.append_nil]
  by_cases none : count = 0
  · simp [none]
  · rw [if_pos (Nat.pos_of_ne_zero none), if_neg none]
    exact List.filter_cons_of_pos (speaksOfHigh_highWarning count)

/-- The score is the sum over the tables of counts, and as many issues of high severity are
announced as findings have the weight of a high one. -/
theorem runPipeline_severities [Host] (settings : Settings) (disk : Files.Disk)
    (faults : Files.ScratchFaults) (outcomes : Detection.ToolOutcomes) (source : Wording)
    (findings : Detection.Findings)
    (returned : (Detection.runPipeline settings disk faults outcomes source).findings =
      .ok findings)
    (named : ∀ diagnostic ∈ findings.security, hasReadableName diagnostic = true) :
    let high := findings.security.countP (contributes 25)
    ∃ securityCounts styleCounts warnings,
      severityCounts findings.security = .ok securityCounts ∧
      severityCounts findings.style = .ok styleCounts ∧
      score findings.security findings.style =
        .ok (min 100 (countedWeight securityWeights securityCounts +
          countedWeight styleWeights styleCounts)) ∧
      deploymentWarnings findings.security = .ok warnings ∧
      warnings.filter speaksOfHigh =
        if high = 0 then [] else ["⚠️ " ++ toString high ++ " high severity issues found"] := by
  intro high
  obtain ⟨security, style⟩ := Detection.runPipeline_trimmed returned
  obtain ⟨securityCounts, countedSecurity, securityTotal⟩ :=
    totalWeight_counted security lacksUnknown_security
  obtain ⟨styleCounts, countedStyle, styleTotal⟩ := totalWeight_counted style lacksUnknown_style
  obtain ⟨warnings, warned, told⟩ := deploymentWarnings_high security named
  refine ⟨securityCounts, styleCounts, warnings, countedSecurity, countedStyle, ?_, warned, told⟩
  rw [score, securityTotal, styleTotal]
  rfl

/-- Reports whose severities are written in several ways, with one name left out. -/
def variedReports : Detection.ToolOutcomes where
  slither := .completed (some ("\x7b\"results\":\x7b\"detectors\":[" ++
    "\x7b\"impact\":\" HIGH\",\"elements\":[\x7b\x7d,\x7b\x7d]\x7d," ++
    "\x7b\"check\":\"tx-origin\",\"impact\":7,\"elements\":[\x7b\x7d]\x7d]\x7d\x7d")) none 255
  solhint := .completed (some "[\x7b\"ruleId\":3,\"severity\":2\x7d,\x7b\"ruleId\":4\x7d]") none 0

section Standard

attribute [local instance] Host.standard

/-- Two findings of high severity and one error of style are counted and weighed alike. -/
theorem runPipeline_severities_varied :
    ∃ findings, (Detection.runPipeline {} ⟨[(["tmp"], .directory)], []⟩ {} variedReports
        "contract A").findings = .ok findings ∧
      (∀ diagnostic ∈ findings.security, hasReadableName diagnostic = true) ∧
      findings.security.countP (contributes 25) = 2 ∧
      ∃ warnings, deploymentWarnings findings.security = .ok warnings ∧
        warnings.filter speaksOfHigh = ["⚠️ 2 high severity issues found"] := by
  have judged : ((Detection.runPipeline {} ⟨[(["tmp"], .directory)], []⟩ {} variedReports
      "contract A").findings.toOption.map fun findings =>
        (findings.security.all hasReadableName, findings.security.countP (contributes 25))) =
      some (true, 2) := by decide +kernel
  cases returned : (Detection.runPipeline {} ⟨[(["tmp"], .directory)], []⟩ {} variedReports
      "contract A").findings with
  | error fault =>
      rw [returned] at judged
      cases judged
  | ok findings =>
      rw [returned] at judged
      simp only [Except.toOption, Option.map_some, Option.some.injEq, Prod.mk.injEq,
        List.all_eq_true] at judged
      obtain ⟨-, -, warnings, -, -, -, warned, told⟩ := runPipeline_severities {}
        ⟨[(["tmp"], .directory)], []⟩ {} variedReports "contract A" findings returned judged.1
      refine ⟨findings, rfl, judged.1, judged.2, warnings, warned, ?_⟩
      rw [told, judged.2]
      rfl

end Standard

end SolidityAudit.Risk
