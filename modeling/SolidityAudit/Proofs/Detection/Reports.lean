import SolidityAudit.Detection.Tool
import SolidityAudit.Proofs.Outcome
import SolidityAudit.Proofs.Text.Wording

namespace SolidityAudit.Detection

open Text (Wording)

/-- The category of a tool's findings. -/
def Tool.category : Tool → DetectorCategory
  | .slither => .security
  | .solhint => .style

/-- A severity in words without white space around them. -/
def HasTrimmedSeverity (diagnostic : Diagnostic) : Prop :=
  ∃ words : Wording, diagnostic.severity = .text words ∧ words.trim = words

/-- A diagnostic as a tool reports it: under the tool's name, in its category and with a
trimmed severity. -/
def FromTool (tool : Tool) (diagnostic : Diagnostic) : Prop :=
  diagnostic.source = tool.name ∧ diagnostic.category = tool.category ∧
    HasTrimmedSeverity diagnostic

/-- All diagnostics are a tool's. -/
def AllFromTool (tool : Tool) (diagnostics : List Diagnostic) : Prop :=
  ∀ diagnostic ∈ diagnostics, FromTool tool diagnostic

/-- The spelling of a known word is used, and an unknown text is only trimmed. -/
theorem knownLabel_trimmed {labels : List (Wording × Wording)}
    (trimmed : ∀ entry ∈ labels, entry.2.trim = entry.2) (text : Wording) :
    let label := (labels.lookup text.trim.lower).getD text.trim
    label.trim = label := by
  intro label
  unfold label
  cases found : labels.lookup text.trim.lower with
  | none => exact text.trim_trim
  | some spelling =>
      obtain ⟨before, after, split, -⟩ := List.lookup_eq_some_iff.mp found
      exact trimmed (text.trim.lower, spelling) (by rw [split]; simp)

/-- The spellings of impacts are trimmed. -/
theorem impactLabels_trimmed : ∀ entry ∈ impactLabels, entry.2.trim = entry.2 := by
  decide

/-- An impact is labelled without white space around. -/
theorem impactLabel_trimmed (impact : Json.Value) :
    (impactLabel impact).trim = impactLabel impact := by
  unfold impactLabel
  split
  · rfl
  · exact knownLabel_trimmed impactLabels_trimmed _

/-- A severity is labelled without white space around. -/
theorem severityLabel_trimmed (severity : Json.Value) :
    (severityLabel severity).trim = severityLabel severity := by
  unfold severityLabel
  split
  · rfl
  · decide
  · decide
  · exact knownLabel_trimmed (by decide) _

variable [Host]

/-- A finding of the security tool is in its name. -/
theorem Slither.diagnosticOf_fromTool (detector element : Json.Value) :
    Ensures (FromTool .slither) (diagnosticOf detector element) := by
  unfold diagnosticOf
  iterate 7 refine ensures_bind fun _ => ?_
  exact ensures_ok ⟨rfl, rfl, _, rfl, impactLabel_trimmed _⟩

/-- All findings of the security tool are in its name. -/
theorem Slither.reportDiagnostics_fromTool (report : Json.Value) :
    Ensures (AllFromTool .slither) (reportDiagnostics report) := by
  refine ensures_bind fun detectors => ensures_groups fun detector => ?_
  refine ensures_bind fun elements => ensures_bind fun _ => ?_
  exact ensures_mapM fun element => diagnosticOf_fromTool detector element

/-- An issue of the linter is in its name. -/
theorem Solhint.diagnosticOf_fromTool (message : Json.Value) :
    Ensures (FromTool .solhint) (diagnosticOf message) := by
  unfold diagnosticOf
  iterate 6 refine ensures_bind fun _ => ?_
  split
  · exact ensures_bind fun column => ensures_ok ⟨rfl, rfl, _, rfl, severityLabel_trimmed _⟩
  · exact ensures_bind fun column => ensures_ok ⟨rfl, rfl, _, rfl, severityLabel_trimmed _⟩

/-- All issues of the linter are in its name. -/
theorem Solhint.reportDiagnostics_fromTool (report : Json.Value) :
    Ensures (AllFromTool .solhint) (reportDiagnostics report) := by
  refine ensures_bind fun items => ensures_groups fun item => ?_
  exact ensures_bind fun messages => ensures_mapM fun message => diagnosticOf_fromTool message

/-- A usable report gives diagnostics of its tool. -/
theorem Tool.readReport_fromTool (tool : Tool) (report : Json.Value) :
    Ensures (AllFromTool tool) (tool.readReport report).1 := by
  cases tool with
  | solhint => exact Solhint.reportDiagnostics_fromTool report
  | slither =>
      have nothing : Ensures (AllFromTool .slither) (.ok [] : Except Json.ShapeFault _) :=
        ensures_ok (by simp [AllFromTool])
      cases report with
      | object members =>
          cases success : Json.findMember? "success" members with
          | none =>
              simp only [readReport, Slither.read, success]
              exact Slither.reportDiagnostics_fromTool _
          | some flag =>
              simp only [readReport, Slither.read, success]
              by_cases failed : flag = .bool false
              · subst failed
                exact nothing
              · have usable := Slither.reportDiagnostics_fromTool (.object members)
                cases flag with
                | bool value =>
                    cases value with
                    | false => exact absurd rfl failed
                    | true => exact usable
                | _ => exact usable
      | _ => exact nothing

/-- Whatever a tool's text is, all that is read from it comes from the tool. -/
theorem Tool.outputRun_fromTool (tool : Tool) (output : String) :
    Ensures (AllFromTool tool) (tool.outputRun output).diagnostics := by
  have nothing : Ensures (AllFromTool tool) (.ok [] : Except Fault _) :=
    ensures_ok (by simp [AllFromTool])
  unfold outputRun
  split
  · exact nothing
  · split
    · next report _ =>
      have fromTool := tool.readReport_fromTool report
      unfold reportRun
      generalize tool.readReport report = reading at fromTool ⊢
      rcases reading with ⟨outcome, journal⟩
      cases outcome with
      | ok diagnostics => exact ensures_ok (fromTool diagnostics rfl)
      | error fault =>
          simp only
          split
          · exact nothing
          · exact ensures_error
    · exact nothing
    · exact ensures_error

/-- What a process gives to read: its output, or the fault that kept it from starting. -/
def ProcessOutcome.report : ProcessOutcome → Except Fault String
  | .notStarted fault => .error fault
  | .completed output _ _ => .ok (output.getD "")

/-- The diagnostics that a tool's report amounts to. -/
def Tool.diagnosticsOf (tool : Tool) (report : Except Fault String) :
    Except Fault (List Diagnostic) :=
  match report with
  | .error fault =>
      if fault.kind = .processTimeout ∨ fault.kind.belongsTo .system then .ok [] else .error fault
  | .ok output => (tool.outputRun output).diagnostics

/-- The code of a process, its complaints and the way it was called leave no trace in the
diagnostics. -/
theorem Tool.run_diagnostics (tool : Tool) (executable : String) (timeout : Int) (path : String)
    (outcome : ProcessOutcome) :
    (tool.run executable timeout path outcome).diagnostics =
      tool.diagnosticsOf outcome.report := by
  cases outcome with
  | completed output complaints code => rfl
  | notStarted fault =>
      simp only [run, startRun, ProcessOutcome.report, diagnosticsOf, beq_iff_eq]
      by_cases late : fault.kind = .processTimeout
      · simp [late]
      · by_cases missing : fault.kind = .missingFile
        · simp [missing, FaultKind.belongsTo, FaultKind.ancestors]
        · by_cases system : fault.kind.belongsTo .system = true
          · simp [late, missing, system]
          · simp [late, missing, system]

/-- Whatever a process gives, the diagnostics are the tool's. -/
theorem Tool.diagnosticsOf_fromTool (tool : Tool) (report : Except Fault String) :
    Ensures (AllFromTool tool) (tool.diagnosticsOf report) := by
  cases report with
  | ok output => exact tool.outputRun_fromTool output
  | error fault =>
      unfold diagnosticsOf
      simp only
      split
      · exact ensures_ok (by simp [AllFromTool])
      · exact ensures_error

end SolidityAudit.Detection
