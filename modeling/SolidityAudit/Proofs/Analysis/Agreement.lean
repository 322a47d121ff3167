import Mathlib.Data.List.Nodup
import SolidityAudit.Proofs.Analysis.Separation
import SolidityAudit.Proofs.Detection.Severities
import SolidityAudit.Proofs.Risk.Names

namespace SolidityAudit

open Detection (SecurityRule securityRules securityScan firingRules killSwitchRule
  delegatecallRule originRule timestampRule)
open Json (Value)
open Risk (carriesMarker escalationMarkers hasReadableName)
open Source (unsafeConstructs unsafeMarkers mentionsAny)
open Text (Wording)

/-- The names that the scan of a source reports, those of the rules that fire. -/
def firedNames (source : String) : List Value := (securityScan source).map Diagnostic.name

section Tables

/-- The reported names are those of the rules that fire. -/
theorem firedNames_eq (source : String) :
    firedNames source = (firingRules source).map fun rule => .text rule.name := by
  unfold firedNames securityScan
  rw [List.map_map]
  rfl

/-- The names keep the order of the table. -/
theorem firedNames_sublist (source : String) :
    (firedNames source).Sublist (securityRules.map fun rule => .text rule.name) := by
  rw [firedNames_eq]
  exact List.filter_sublist.map _

/-- No two rules share a name. -/
theorem ruleNames_nodup : (securityRules.map SecurityRule.name).Nodup := by decide

/-- No name is reported twice. -/
theorem firedNames_nodup (source : String) : (firedNames source).Nodup := by
  have distinct : ((securityRules.map SecurityRule.name).map
      fun name => Value.text (.plain name)).Nodup :=
    ruleNames_nodup.map fun _ _ same => Wording.plain.inj (Value.text.inj same)
  rw [List.map_map] at distinct
  exact distinct.sublist (firedNames_sublist source)

/-- A name tells which rule fired. -/
theorem mem_firedNames {rule : SecurityRule} (listed : rule ∈ securityRules) (source : String) :
    .text rule.name ∈ firedNames source ↔ rule.fires (Text.lower source.toList) = true := by
  rw [firedNames_eq, List.mem_map]
  constructor
  · rintro ⟨other, fired, named⟩
    obtain ⟨otherListed, fires⟩ := List.mem_filter.mp fired
    have same : other = rule :=
      List.inj_on_of_nodup_map ruleNames_nodup otherListed listed
        (Wording.plain.inj (Value.text.inj named))
    rwa [← same]
  · intro fires
    exact ⟨rule, List.mem_filter.mpr ⟨listed, fires⟩, rfl⟩

/-- No two constructs share a label. -/
theorem mem_unsafeConstructs {words : List String} {label : String}
    (listed : (words, label) ∈ unsafeMarkers) (source : String) :
    label ∈ unsafeConstructs source ↔ mentionsAny (Text.lower source.toList) words = true := by
  have distinct : (unsafeMarkers.map Prod.snd).Nodup := by decide
  unfold unsafeConstructs
  rw [List.mem_map]
  constructor
  · rintro ⟨other, kept, labelled⟩
    obtain ⟨otherListed, mentioned⟩ := List.mem_filter.mp kept
    have same : other = (words, label) :=
      List.inj_on_of_nodup_map distinct otherListed listed labelled
    rwa [same] at mentioned
  · intro mentioned
    exact ⟨(words, label), List.mem_filter.mpr ⟨listed, mentioned⟩, rfl⟩

/-- A rule for the words of a construct fires exactly when it is listed. -/
theorem label_listed_iff (rule : SecurityRule) (listed : rule ∈ securityRules)
    {words : List String} (required : rule.required = [words]) (excluded : rule.excluded = [])
    {label : String} (construct : (words, label) ∈ unsafeMarkers) (source : String) :
    label ∈ unsafeConstructs source ↔ .text rule.name ∈ firedNames source := by
  have fires (lowered : List Char) : rule.fires lowered = mentionsAny lowered words := by
    simp only [SecurityRule.fires, required, excluded, List.all_cons, List.all_nil, Bool.and_true]
    rfl
  rw [mem_unsafeConstructs construct, mem_firedNames listed, fires]

end Tables

section Grades

/-- The names of the rules can be searched. -/
theorem securityScan_readable (source : String) :
    ∀ diagnostic ∈ securityScan source, hasReadableName diagnostic = true := by
  intro diagnostic listed
  obtain ⟨rule, -, rfl⟩ := List.mem_map.mp listed
  rfl

/-- Among all rules only the one about kill switches has a name that forces the worst grade. -/
theorem carriesMarker_rule :
    ∀ rule ∈ securityRules, carriesMarker escalationMarkers rule.toDiagnostic =
      decide (rule.name = killSwitchRule.name) := by
  decide +kernel

/-- The kill switch alone forces the worst grade. -/
theorem securityScan_escalates (source : String) :
    (securityScan source).any (carriesMarker escalationMarkers) = true ↔
      .text killSwitchRule.name ∈ firedNames source := by
  rw [firedNames_eq]
  simp only [securityScan, List.any_map, List.any_eq_true, List.mem_map, Function.comp_apply]
  refine exists_congr fun rule => and_congr_right fun fired => ?_
  rw [carriesMarker_rule rule (List.mem_filter.mp fired).1, decide_eq_true_iff]
  exact ⟨fun same => congrArg (fun name : String => Value.text name) same,
    fun same => Wording.plain.inj (Value.text.inj same)⟩

/-- A severity can be weighed when it is a text or counts as absent. -/
def hasReadableSeverity (diagnostic : Diagnostic) : Bool :=
  match diagnostic.severity with
  | .text _ => true
  | severity => !severity.isPresent

/-- The readable severities are those that have a weight. -/
theorem severityWeight_returns (weights : List (Wording × Nat)) (diagnostic : Diagnostic) :
    Returns (Risk.severityWeight weights diagnostic.severity) ↔
      hasReadableSeverity diagnostic = true := by
  unfold Risk.severityWeight hasReadableSeverity
  rw [returns_map]
  cases diagnostic.severity with
  | text words =>
      obtain ⟨kept, given⟩ := Risk.orElse_text words ""
      rw [given]
      exact iff_of_true (returns_ok _) rfl
  | _ =>
      unfold Value.orElse
      simp only
      split
      · next present => simp [present, Value.wording]
      · next absent => simp [absent, Value.wording]

/-- The weights add up where all severities are readable. -/
theorem totalWeight_returns (weights : List (Wording × Nat)) (diagnostics : List Diagnostic) :
    Returns (Risk.totalWeight weights diagnostics) ↔
      ∀ diagnostic ∈ diagnostics, hasReadableSeverity diagnostic = true := by
  have each : Returns (diagnostics.mapM fun diagnostic =>
      Risk.severityWeight weights diagnostic.severity) ↔
        ∀ diagnostic ∈ diagnostics, hasReadableSeverity diagnostic = true := by
    rw [returns_mapM]
    exact forall₂_congr fun diagnostic _ => severityWeight_returns weights diagnostic
  rw [← each, Risk.totalWeight, returns_bind]
  exact exists_congr fun _ => and_iff_left (returns_ok _)

/-- The severities of the rules are readable. -/
theorem securityScan_weighed (source : String) :
    ∀ diagnostic ∈ securityScan source, hasReadableSeverity diagnostic = true := by
  intro diagnostic listed
  obtain ⟨rule, -, rfl⟩ := List.mem_map.mp listed
  rfl

/-- A scan has a score where the style findings can be weighed. -/
theorem score_returns (source : String) (style : List Diagnostic) :
    Returns (Risk.score (securityScan source) style) ↔
      ∀ diagnostic ∈ style, hasReadableSeverity diagnostic = true := by
  obtain ⟨security, weighed⟩ :=
    (totalWeight_returns Risk.securityWeights _).mpr (securityScan_weighed source)
  rw [← totalWeight_returns Risk.styleWeights style, Risk.score, weighed]
  change Returns (Risk.totalWeight Risk.styleWeights style >>= _) ↔ _
  rw [returns_bind]
  exact exists_congr fun _ => and_iff_left (returns_ok _)

/-- A scored scan gets a grade. -/
theorem verdictOn_scan {source : String} {style : List Diagnostic} {score : Nat}
    (scored : Risk.score (securityScan source) style = .ok score) :
    ∃ grade, verdictOn ⟨securityScan source, style⟩ = .ok ⟨score, grade⟩ ∧
      (grade = .c ↔ .text killSwitchRule.name ∈ firedNames source ∨ 70 < score) := by
  obtain ⟨grade, given, worst⟩ := Risk.grade_readable score (securityScan_readable source)
  refine ⟨grade, ?_, ?_⟩
  · unfold verdictOn
    simp only [scored, given, Except.mapError, bind, Except.bind, pure, Except.pure]
  · rw [worst, securityScan_escalates]
    exact or_congr_right (by unfold Risk.worstGradeAbove; omega)

/-- On the findings of the rules a score is all it takes for a verdict. -/
theorem verdictOn_returns (source : String) (style : List Diagnostic) :
    Returns (verdictOn ⟨securityScan source, style⟩) ↔
      Returns (Risk.score (securityScan source) style) := by
  constructor
  · rintro ⟨verdict, given⟩
    obtain ⟨score, scored, -⟩ := bind_eq_ok.mp given
    exact ⟨score, mapError_eq_ok.mp scored⟩
  · rintro ⟨score, scored⟩
    obtain ⟨grade, given, -⟩ := verdictOn_scan scored
    exact ⟨_, given⟩

/-- The worst grade is for a kill switch or a score above the limit. -/
theorem verdictOn_worst {source : String} {style : List Diagnostic} {verdict : Verdict}
    (given : verdictOn ⟨securityScan source, style⟩ = .ok verdict) :
    verdict.grade = .c ↔
      .text killSwitchRule.name ∈ firedNames source ∨ 70 < verdict.score := by
  obtain ⟨score, scored⟩ := (verdictOn_returns source style).mp ⟨verdict, given⟩
  obtain ⟨grade, same, worst⟩ := verdictOn_scan scored
  cases same.symm.trans given
  exact worst

end Grades

/-- A text that is analysed is the one that was given. -/
theorem sourceText?_text {source text : Wording} (given : sourceText? (.text source) = some text) :
    text = source := by
  change (if source.isBlank then none else some source) = some text at given
  split at given
  · cases given
  · exact (Option.some.inj given).symm

/-- Diagnostics that all come from the rules are those of the scan. -/
theorem judge_fromRules [Host] {settings : Settings} {world : World} {disk : Files.Disk}
    {source : Wording} {judgement : Judgement}
    (judged : judge (Detection.runPipeline settings disk world.scratchFaults world.tools
      source).findings = .ok judgement)
    (fromRules : ∀ diagnostic ∈ judgement.findings.security,
      diagnostic.source = Detection.securityRuleSource) :
    judgement.findings.security = securityScan source.masked ∧
      verdictOn judgement.findings = .ok judgement.verdict := by
  obtain ⟨findings, returned, judged⟩ := bind_eq_ok.mp judged
  obtain ⟨verdict, given, judged⟩ := bind_eq_ok.mp judged
  obtain ⟨warnings, -, judged⟩ := bind_eq_ok.mp judged
  cases judged
  refine ⟨?_, given⟩
  obtain ⟨path, rfl⟩ := Detection.runPipeline_detected returned
  obtain ⟨reported, -⟩ := Detection.configuredRun_diagnostics settings world.tools path
  rw [Detection.detect_orRules] at fromRules ⊢
  have fromTool := Detection.Tool.slither.diagnosticsOf_fromTool world.tools.slither.report
  rw [← reported] at fromTool
  cases tool : (Detection.configuredRun settings world.tools path .slither).diagnostics with
  | error fault => rfl
  | ok diagnostics =>
      cases diagnostics with
      | nil => rfl
      | cons first rest =>
          have named := (fromTool _ tool first List.mem_cons_self).1
          have ruled := fromRules first (by rw [tool]; exact List.mem_cons_self)
          rw [named] at ruled
          exact absurd ruled (by decide)

/-- The three judgements by words agree on every source: labels are listed exactly when the rules of
the same words fire, and the grade is the worst one exactly for a kill switch or a score above the
limit. -/
theorem judgements_agree [Host] (source : String) :
    ("Kill Switch - Contract can be destroyed" ∈ unsafeConstructs source ↔
      .text "selfdestruct" ∈ firedNames source) ∧
    ("Delegate Call - Potential for code injection" ∈ unsafeConstructs source ↔
      .text "dangerous-delegatecall" ∈ firedNames source) ∧
    ("tx.origin Usage - Potential phishing vulnerability" ∈ unsafeConstructs source ↔
      .text "tx-origin-usage" ∈ firedNames source) ∧
    ("Block Timestamp - Time manipulation risk" ∈ unsafeConstructs source ↔
      .text "timestamp-dependency" ∈ firedNames source) ∧
    (firedNames source).Sublist (securityRules.map fun rule => .text rule.name) ∧
    (firedNames source).Nodup ∧
    (∀ style,
      (Returns (verdictOn ⟨securityScan source, style⟩) ↔
        ∀ diagnostic ∈ style, hasReadableSeverity diagnostic = true) ∧
      ∀ verdict, verdictOn ⟨securityScan source, style⟩ = .ok verdict →
        (verdict.grade = .c ↔ .text "selfdestruct" ∈ firedNames source ∨ 70 < verdict.score) ∧
        ("Kill Switch - Contract can be destroyed" ∈ unsafeConstructs source →
          verdict.grade = .c)) ∧
    ∀ settings world summariser disk wantSummary record,
      (analyse settings world summariser disk (.text source) wantSummary).result = .ok record →
      (∀ diagnostic ∈ record.security, diagnostic.source = "heuristic-security") →
      record.security = securityScan source ∧ record.unsafeConstructs = unsafeConstructs source ∧
        (record.grade = .c ↔
          .text "selfdestruct" ∈ firedNames source ∨ 70 < record.riskScore) := by
  have killSwitch : "Kill Switch - Contract can be destroyed" ∈ unsafeConstructs source ↔
      .text "selfdestruct" ∈ firedNames source :=
    label_listed_iff killSwitchRule (by simp [securityRules]) rfl rfl (by decide) source
  refine ⟨killSwitch,
    label_listed_iff delegatecallRule (by simp [securityRules]) rfl rfl (by decide) source,
    label_listed_iff originRule (by simp [securityRules]) rfl rfl (by decide) source,
    label_listed_iff timestampRule (by simp [securityRules]) rfl rfl (by decide) source,
    firedNames_sublist source, firedNames_nodup source, ?_, ?_⟩
  · intro style
    refine ⟨?_, ?_⟩
    · rw [← score_returns source style]
      exact verdictOn_returns source style
    · intro verdict given
      have worst := verdictOn_worst given
      exact ⟨worst, fun listed => worst.mpr (.inl (killSwitch.mp listed))⟩
  · intro settings world summariser disk wantSummary record ended fromRules
    obtain ⟨text, judgement, isText, judged, rfl⟩ := analyse_record ended
    cases sourceText?_text isText
    obtain ⟨scanned, given⟩ := judge_fromRules judged fromRules
    rw [Wording.masked] at scanned
    refine ⟨scanned, rfl, ?_⟩
    have worst : judgement.verdict.grade = .c ↔
        .text killSwitchRule.name ∈ firedNames source ∨ 70 < judgement.verdict.score :=
      verdictOn_worst (by rw [← scanned]; exact given)
    change judgement.verdict.grade = .c ↔ _ ∨ 70 < (judgement.verdict.score : Int)
    rw [worst]
    exact or_congr_right (by omega)

end SolidityAudit
