import SolidityAudit.Proofs.Detection.Reports
import SolidityAudit.Proofs.Json.Shapes
import SolidityAudit.Proofs.Json.Tokens

namespace SolidityAudit.Detection

open Json (Value ShapeFault)
open Text (Wording)

/-- The outcome is a fault that is not taken for an unexpected shape of a report. -/
def Escapes {α : Type} (outcome : Except ShapeFault α) : Prop :=
  FailsAmong (fun fault => isUnexpectedShape fault = false) outcome

section Escapes

variable {α β : Type}

/-- A value does not escape. -/
theorem not_escapes_ok (value : α) : ¬ Escapes (.ok value) := failsAmong_ok

/-- One of two parts escapes. -/
theorem escapes_bind {first : Except ShapeFault α} {next : α → Except ShapeFault β} :
    Escapes (first >>= next) ↔ Escapes first ∨ ∃ value, first = .ok value ∧ Escapes (next value) :=
  failsAmong_bind

/-- Where the first part cannot escape, the second part does. -/
theorem escapes_bind_later {first : Except ShapeFault α} {next : α → Except ShapeFault β}
    (before : ¬ Escapes first) :
    Escapes (first >>= next) ↔ ∃ value, first = .ok value ∧ Escapes (next value) := by
  rw [escapes_bind, or_iff_right before]

/-- Where the second part cannot escape, the first part does. -/
theorem escapes_bind_earlier {first : Except ShapeFault α} {next : α → Except ShapeFault β}
    (after : ∀ value, ¬ Escapes (next value)) : Escapes (first >>= next) ↔ Escapes first := by
  rw [escapes_bind, or_iff_left]
  rintro ⟨value, -, escaped⟩
  exact after value escaped

/-- Parts that do not escape make a whole that does not. -/
theorem not_escapes_bind {first : Except ShapeFault α} {next : α → Except ShapeFault β}
    (before : ¬ Escapes first) (after : ∀ value, ¬ Escapes (next value)) :
    ¬ Escapes (first >>= next) := by
  rwa [escapes_bind_earlier after]

/-- A pass over a list escapes at the first item where its step does. -/
theorem escapes_mapM {step : α → Except ShapeFault β} {holds : α → Prop}
    (each : ∀ item, Escapes (step item) ↔ holds item) {items : List α} :
    Escapes (items.mapM step) ↔ StopsAt step holds items := by
  have same : (fun item => Escapes (step item)) = holds := funext fun item => propext (each item)
  rw [← same]
  exact failsAmong_mapM

/-- A pass over groups escapes as one over a list does. -/
theorem escapes_groups {step : α → Except ShapeFault (List β)} {holds : α → Prop}
    (each : ∀ item, Escapes (step item) ↔ holds item) {items : List α} :
    Escapes (do let groups ← items.mapM step; return groups.flatten) ↔
      StopsAt step holds items := by
  exact (escapes_bind_earlier fun groups => not_escapes_ok _).trans (escapes_mapM each)

/-- A fault that is taken for an unexpected shape does not escape. -/
theorem not_escapes_error {fault : ShapeFault} (expected : isUnexpectedShape fault = true) :
    ¬ Escapes (.error fault : Except ShapeFault α) := by
  simp [Escapes, expected]

/-- A member does not escape. -/
theorem not_escapes_memberOr (value : Value) (name : Wording) (default : Value) :
    ¬ Escapes (value.memberOr name default) := by
  cases value with
  | object fields => exact not_escapes_ok _
  | _ => exact not_escapes_error rfl

/-- A member does not escape. -/
theorem not_escapes_member (value : Value) (name : Wording) : ¬ Escapes (value.member name) :=
  not_escapes_memberOr value name .null

/-- The elements of a value do not escape. -/
theorem not_escapes_elements (value : Value) : ¬ Escapes value.elements := by
  cases value with
  | array items => exact not_escapes_ok _
  | object fields => exact not_escapes_ok _
  | text content => exact not_escapes_ok _
  | _ => exact not_escapes_error rfl

/-- The wording of a value does not escape. -/
theorem not_escapes_wording (operation : String) (value : Value) :
    ¬ Escapes (value.wording operation) := by
  cases value with
  | text content => exact not_escapes_ok _
  | _ => exact not_escapes_error rfl

/-- A list or text that is present has a front. -/
theorem not_escapes_front {value : Value} (present : value.isPresent = true) :
    ¬ Escapes value.front := by
  cases value with
  | array items =>
      cases items with
      | nil => cases present
      | cons item rest => exact not_escapes_ok item
  | text content =>
      cases symbols : content.symbols with
      | nil =>
          have empty := Wording.symbols_eq_nil_iff.mp symbols
          simp [Value.isPresent, empty] at present
      | cons symbol rest =>
          rw [Value.front, symbols]
          exact not_escapes_ok _
  | _ => exact not_escapes_error rfl

variable [Host]

/-- Of all values only infinite numbers are refused for good. -/
theorem escapes_toInteger {value : Value} : Escapes value.toInteger ↔ value.IsInfinite := by
  cases value with
  | real number =>
      cases number with
      | infinite negative => exact iff_of_true ⟨_, rfl, rfl⟩ ⟨negative, rfl⟩
      | finite negative mantissa exponent =>
          exact iff_of_false (not_escapes_ok _) (by simp [Value.IsInfinite])
      | notANumber => exact iff_of_false (not_escapes_error rfl) (by simp [Value.IsInfinite])
  | text content =>
      refine iff_of_false ?_ (by simp [Value.IsInfinite])
      rw [Value.toInteger]
      split
      · exact not_escapes_ok _
      · exact not_escapes_error rfl
      · exact not_escapes_error rfl
  | bool flag => exact iff_of_false (not_escapes_ok _) (by simp [Value.IsInfinite])
  | integer number => exact iff_of_false (not_escapes_ok _) (by simp [Value.IsInfinite])
  | _ => exact iff_of_false (not_escapes_error rfl) (by simp [Value.IsInfinite])

end Escapes

namespace Slither

/-- The value that the line of an element is read from. -/
def lineSource (element : Value) : Except ShapeFault Value := do
  let mapping := (← element.member "source_mapping").orElse (.object [])
  let lines ← mapping.member "lines"
  if lines.isPresent then lines.front
  else
    match ← element.member "line" with
    | .null => return .integer 1
    | line => return line

/-- The line of an element is a number where it comes from. -/
theorem elementLine_eq [Host] (element : Value) :
    elementLine element = lineSource element >>= Value.toInteger := by
  rw [elementLine, lineSource, bind_assoc]
  refine bind_congr fun mapping => ?_
  rw [bind_assoc]
  refine bind_congr fun lines => ?_
  by_cases present : lines.isPresent = true
  · rw [if_pos present, if_pos present]
  · rw [if_neg present, if_neg present, bind_assoc]
    refine bind_congr fun line => ?_
    cases line <;> rfl

/-- The place of a line does not escape. -/
theorem not_escapes_lineSource (element : Value) : ¬ Escapes (lineSource element) := by
  refine not_escapes_bind (not_escapes_member _ _) fun mapping => ?_
  refine not_escapes_bind (not_escapes_member _ _) fun lines => ?_
  split
  · next present => exact not_escapes_front present
  · refine not_escapes_bind (not_escapes_member _ _) fun line => ?_
    split <;> exact not_escapes_ok _

/-- The line of an element is looked for and is an infinite number. -/
def HasInfiniteLine (element : Value) : Prop :=
  ∃ source, lineSource element = .ok source ∧ source.IsInfinite

/-- A line escapes exactly when it is infinite. -/
theorem escapes_elementLine [Host] {element : Value} :
    Escapes (elementLine element) ↔ HasInfiniteLine element := by
  rw [elementLine_eq, escapes_bind_later (not_escapes_lineSource element)]
  simp only [escapes_toInteger, HasInfiniteLine]

/-- The name of a function does not escape. -/
theorem not_escapes_functionName? (element : Value) : ¬ Escapes (functionName? element) := by
  refine not_escapes_bind (not_escapes_member _ _) fun type => ?_
  exact not_escapes_bind (not_escapes_member _ _) fun name => not_escapes_ok _

/-- The function of an element does not escape. -/
theorem not_escapes_elementFunction (element : Value) : ¬ Escapes (elementFunction element) := by
  refine not_escapes_bind (not_escapes_member _ _) fun name => ?_
  split
  · exact not_escapes_ok name
  · refine not_escapes_bind (not_escapes_functionName? element) fun name => ?_
    split
    · exact not_escapes_ok _
    · refine not_escapes_bind (not_escapes_member _ _) fun fields => ?_
      refine not_escapes_bind (not_escapes_member _ _) fun parent => ?_
      exact not_escapes_bind (not_escapes_functionName? _) fun name => not_escapes_ok _

/-- The file of an element does not escape. -/
theorem not_escapes_elementFile (element : Value) : ¬ Escapes (elementFile element) := by
  refine not_escapes_bind (not_escapes_member _ _) fun mapping => ?_
  refine not_escapes_bind (not_escapes_member _ _) fun short => ?_
  exact not_escapes_bind (not_escapes_member _ _) fun long => not_escapes_ok _

/-- The description of a detector does not escape. -/
theorem not_escapes_trimmedDescription (detector : Value) :
    ¬ Escapes (trimmedDescription detector) := by
  refine not_escapes_bind (not_escapes_member _ _) fun description => ?_
  exact not_escapes_bind (not_escapes_wording _ _) fun text => not_escapes_ok _

/-- A detector that has a description has all its other members too, some of them null. -/
theorem trimmedDescription_object {detector : Value} {description : Wording}
    (described : trimmedDescription detector = .ok description) :
    ∃ members, detector = .object members := by
  obtain ⟨value, given, -⟩ := bind_eq_ok.mp described
  obtain ⟨members, same, -⟩ := Value.member_eq_ok.mp given
  exact ⟨members, same⟩

/-- The description of a detector is read before the line of an element. -/
def StopsElement (detector element : Value) : Prop :=
  (∃ description, trimmedDescription detector = .ok description) ∧ HasInfiniteLine element

variable [Host]

/-- A finding escapes exactly with the line of its element. -/
theorem escapes_diagnosticOf {detector element : Value} :
    Escapes (diagnosticOf detector element) ↔ StopsElement detector element := by
  have afterLine (build : Value → Value → Diagnostic) : ¬ Escapes (do
      let function ← elementFunction element
      let file ← elementFile element
      return build function file) := by
    refine not_escapes_bind (not_escapes_elementFunction element) fun function => ?_
    exact not_escapes_bind (not_escapes_elementFile element) fun file => not_escapes_ok _
  unfold diagnosticOf
  constructor
  · intro escaped
    obtain ⟨name, -, escaped⟩ := (escapes_bind_later (not_escapes_memberOr _ _ _)).mp escaped
    obtain ⟨description, described, escaped⟩ :=
      (escapes_bind_later (not_escapes_trimmedDescription _)).mp escaped
    obtain ⟨impact, -, escaped⟩ := (escapes_bind_later (not_escapes_member _ _)).mp escaped
    obtain ⟨confidence, -, escaped⟩ := (escapes_bind_later (not_escapes_member _ _)).mp escaped
    have escaped := (escapes_bind_earlier fun line => afterLine _).mp escaped
    exact ⟨⟨description, described⟩, escapes_elementLine.mp escaped⟩
  · rintro ⟨⟨description, described⟩, infinite⟩
    obtain ⟨members, rfl⟩ := trimmedDescription_object described
    refine escapes_bind.mpr (.inr ⟨_, rfl, escapes_bind.mpr (.inr ⟨description, described, ?_⟩)⟩)
    refine escapes_bind.mpr (.inr ⟨_, rfl, escapes_bind.mpr (.inr ⟨_, rfl, ?_⟩)⟩)
    exact escapes_bind.mpr (.inl (escapes_elementLine.mpr infinite))

/-- The elements that a detector is asked for. -/
def elementsOf (detector : Value) : Except ShapeFault (List Value) := do
  ((← detector.member "elements").orElse (.array [])).elements

omit [Host] in
/-- The elements of a detector do not escape. -/
theorem not_escapes_elementsOf (detector : Value) : ¬ Escapes (elementsOf detector) :=
  not_escapes_bind (not_escapes_member _ _) fun _ => not_escapes_elements _

omit [Host] in
/-- The detectors of a report do not escape. -/
theorem not_escapes_detectorsOf (report : Value) : ¬ Escapes (detectorsOf report) := by
  refine not_escapes_bind (not_escapes_member _ _) fun results => ?_
  exact not_escapes_bind (not_escapes_member _ _) fun detectors => not_escapes_elements _

/-- A detector has one finding for each element. -/
theorem detectorDiagnostics_eq (detector : Value) : detectorDiagnostics detector =
    elementsOf detector >>= fun elements => elements.mapM (diagnosticOf detector) :=
  (bind_assoc _ _ _).symm

/-- The elements of a detector are read up to one with an infinite line. -/
def StopsDetector (detector : Value) : Prop :=
  ∃ elements, elementsOf detector = .ok elements ∧
    StopsAt (diagnosticOf detector) (StopsElement detector) elements

/-- A detector escapes exactly with one of its elements. -/
theorem escapes_detectorDiagnostics {detector : Value} :
    Escapes (detectorDiagnostics detector) ↔ StopsDetector detector := by
  rw [detectorDiagnostics_eq, escapes_bind_later (not_escapes_elementsOf detector)]
  simp only [escapes_mapM fun element => escapes_diagnosticOf, StopsDetector]

/-- The detectors of a report are read up to one that has such an element. -/
def StopsReport (report : Value) : Prop :=
  ∃ detectors, detectorsOf report = .ok detectors ∧
    StopsAt detectorDiagnostics StopsDetector detectors

/-- A report escapes exactly with one of its detectors. -/
theorem escapes_reportDiagnostics {report : Value} :
    Escapes (reportDiagnostics report) ↔ StopsReport report := by
  rw [reportDiagnostics, escapes_bind_later (not_escapes_detectorsOf report)]
  simp only [escapes_groups fun detector => escapes_detectorDiagnostics, StopsReport]

end Slither

namespace Solhint

/-- The line of a message is infinite, or it is a number and the column is infinite. -/
def StopsMessage [Host] (message : Value) : Prop :=
  ∃ line column, message.member "line" = .ok line ∧ message.member "column" = .ok column ∧
    (line.IsInfinite ∨
      (∃ number, (line.orElse (.integer 1)).toInteger = .ok number) ∧ column.IsInfinite)

/-- A bounded default brings no infinite number in. -/
theorem isInfinite_orElse {value default : Value} (bounded : ¬ default.IsInfinite) :
    (value.orElse default).IsInfinite ↔ value.IsInfinite := by
  unfold Value.orElse
  split
  · rfl
  · next absent =>
      refine iff_of_false bounded ?_
      rintro ⟨negative, rfl⟩
      exact absent rfl

variable [Host]

/-- A column that is there is read, whatever is built from it afterwards. -/
theorem escapes_column {column : Value} (build : Value → Diagnostic) :
    Escapes (match column with
      | .null => do
          let column ← pure Value.null
          pure (build column)
      | column => do
          let column ← column.toInteger.map Value.integer
          pure (build column)) ↔ column.IsInfinite := by
  split
  · exact iff_of_false (not_escapes_ok _) (by simp [Value.IsInfinite])
  · refine (escapes_bind_earlier fun column => not_escapes_ok _).trans ?_
    rw [Escapes, failsAmong_map]
    exact escapes_toInteger

/-- An issue escapes exactly with its line or column. -/
theorem escapes_diagnosticOf {message : Value} :
    Escapes (diagnosticOf message) ↔ StopsMessage message := by
  have lineRead {line : Value} :
      Escapes (line.orElse (.integer 1)).toInteger ↔ line.IsInfinite := by
    rw [escapes_toInteger, isInfinite_orElse]
    simp [Value.IsInfinite]
  unfold diagnosticOf
  constructor
  · intro escaped
    obtain ⟨column, columnGiven, escaped⟩ :=
      (escapes_bind_later (not_escapes_member _ _)).mp escaped
    obtain ⟨rule, -, escaped⟩ := (escapes_bind_later (not_escapes_member _ _)).mp escaped
    obtain ⟨description, -, escaped⟩ := (escapes_bind_later (not_escapes_memberOr _ _ _)).mp escaped
    obtain ⟨severity, -, escaped⟩ := (escapes_bind_later (not_escapes_member _ _)).mp escaped
    obtain ⟨line, lineGiven, escaped⟩ := (escapes_bind_later (not_escapes_member _ _)).mp escaped
    refine ⟨line, column, lineGiven, columnGiven, ?_⟩
    rcases escapes_bind.mp escaped with early | ⟨number, numbered, late⟩
    · exact .inl (lineRead.mp early)
    · exact .inr ⟨⟨number, numbered⟩, (escapes_column _).mp late⟩
  · rintro ⟨line, column, lineGiven, columnGiven, stopped⟩
    obtain ⟨members, rfl, -⟩ := Value.member_eq_ok.mp lineGiven
    refine escapes_bind.mpr (.inr ⟨column, columnGiven, escapes_bind.mpr (.inr ⟨_, rfl, ?_⟩)⟩)
    refine escapes_bind.mpr (.inr ⟨_, rfl, escapes_bind.mpr (.inr ⟨_, rfl, ?_⟩)⟩)
    refine escapes_bind.mpr (.inr ⟨line, lineGiven, ?_⟩)
    rcases stopped with infinite | ⟨⟨number, numbered⟩, infinite⟩
    · exact escapes_bind.mpr (.inl (lineRead.mpr infinite))
    · exact escapes_bind.mpr (.inr ⟨number, numbered, (escapes_column _).mpr infinite⟩)

omit [Host] in
/-- The messages of an item do not escape. -/
theorem not_escapes_messagesOf (item : Value) : ¬ Escapes (messagesOf item) := by
  unfold messagesOf
  split
  · split
    · exact not_escapes_elements _
    · exact not_escapes_ok _
  · exact not_escapes_ok _

omit [Host] in
/-- The items of a report do not escape. -/
theorem not_escapes_itemsOf (report : Value) : ¬ Escapes (itemsOf report) := by
  unfold itemsOf
  split
  · exact not_escapes_ok _
  · exact not_escapes_elements _

/-- The messages of an item are read up to one with an infinite line or column. -/
def StopsItem (item : Value) : Prop :=
  ∃ messages, messagesOf item = .ok messages ∧ StopsAt diagnosticOf StopsMessage messages

/-- An item escapes exactly with one of its messages. -/
theorem escapes_itemDiagnostics {item : Value} :
    Escapes (itemDiagnostics item) ↔ StopsItem item := by
  rw [itemDiagnostics, escapes_bind_later (not_escapes_messagesOf item)]
  simp only [escapes_mapM fun message => escapes_diagnosticOf, StopsItem]

/-- The items of a report are read up to one that has such a message. -/
def StopsReport (report : Value) : Prop :=
  ∃ items, itemsOf report = .ok items ∧ StopsAt itemDiagnostics StopsItem items

/-- A report escapes exactly with one of its items. -/
theorem escapes_reportDiagnostics {report : Value} :
    Escapes (reportDiagnostics report) ↔ StopsReport report := by
  rw [reportDiagnostics, escapes_bind_later (not_escapes_itemsOf report)]
  simp only [escapes_groups fun item => escapes_itemDiagnostics, StopsReport]

end Solhint

/-- A report that is an object and announces no failure. -/
def Slither.IsUsable (report : Value) : Prop :=
  ∃ members, report = .object members ∧ Json.findMember? "success" members ≠ some (.bool false)

section Runs

variable [Host]

/-- A usable report is read. -/
theorem Slither.read_usable {report : Value} (usable : IsUsable report) :
    read report = .usable (reportDiagnostics report) := by
  obtain ⟨members, rfl, announced⟩ := usable
  rw [read]
  split
  · next failure => exact absurd failure announced
  · rfl

/-- Any other report is refused with a reason. -/
theorem Slither.read_unusable {report : Value} (unusable : ¬ IsUsable report) :
    ∃ reason, read report = .unusable reason := by
  cases report with
  | object members =>
      have failure : Json.findMember? "success" members = some (.bool false) := by
        by_contra announced
        exact unusable ⟨members, rfl, announced⟩
      simp only [read, failure]
      exact ⟨_, rfl⟩
  | _ => exact ⟨_, rfl⟩

/-- The reading of a report meets an infinite number where a line or column is due. -/
def Tool.StopsReport (tool : Tool) (report : Value) : Prop :=
  match tool with
  | .slither => Slither.IsUsable report ∧ Slither.StopsReport report
  | .solhint => Solhint.StopsReport report

/-- A report escapes exactly where its reading stops. -/
theorem Tool.escapes_readReport {tool : Tool} {report : Value} :
    Escapes (tool.readReport report).1 ↔ tool.StopsReport report := by
  cases tool with
  | solhint => exact Solhint.escapes_reportDiagnostics
  | slither =>
      by_cases usable : Slither.IsUsable report
      · simp only [readReport, Slither.read_usable usable, StopsReport, usable, true_and]
        exact Slither.escapes_reportDiagnostics
      · obtain ⟨reason, unread⟩ := Slither.read_unusable usable
        simp only [readReport, unread, StopsReport, usable, false_and, iff_false]
        exact not_escapes_ok _

/-- What a report can be too much for: its text exceeds what is read, or one of its lines or
columns is infinite. -/
def Tool.Overruns (tool : Tool) (text : String) : Prop :=
  Json.Exceeds (Wording.plain text).symbols ∨
    ∃ report, Json.readString text = .ok report ∧ tool.StopsReport report

/-- A run fails exactly where its report stops. -/
theorem Tool.reportRun_fails {tool : Tool} {report : Value} :
    Fails (tool.reportRun report).diagnostics ↔ tool.StopsReport report := by
  rw [← escapes_readReport, reportRun]
  generalize tool.readReport report = reading
  rcases reading with ⟨outcome, journal⟩
  cases outcome with
  | ok diagnostics => exact iff_of_false failsAmong_ok (not_escapes_ok _)
  | error fault => cases expected : isUnexpectedShape fault <;> simp [Escapes, Fails, expected]

/-- A blank text counts as any other text that is malformed. -/
theorem Tool.outputRun_diagnostics (tool : Tool) (text : String) :
    (tool.outputRun text).diagnostics = match Json.readString text with
      | .ok report => (tool.reportRun report).diagnostics
      | .error .malformed => .ok []
      | .error fault => .error (Fault.ofReading fault) := by
  by_cases blank : Text.isBlankText text.toList = true
  · have malformed : Json.readString text = .error .malformed := Json.readString_blank blank
    rw [malformed, outputRun, if_pos blank]
  · rw [outputRun, if_neg blank]
    cases Json.readString text with
    | ok report => rfl
    | error fault => cases fault <;> rfl

/-- A run fails exactly where its text overruns. -/
theorem Tool.outputRun_fails {tool : Tool} {text : String} :
    Fails (tool.outputRun text).diagnostics ↔ tool.Overruns text := by
  rw [outputRun_diagnostics, Overruns, Json.Exceeds, ← Json.readString]
  cases Json.readString text with
  | ok report => simp [reportRun_fails]
  | error fault =>
      cases fault with
      | malformed => exact iff_of_false failsAmong_ok (by simp)
      | oversized digitCount => exact iff_of_true (fails_error _) (by simp)
      | tooDeep container => exact iff_of_true (fails_error _) (by simp)

/-- A tool gives its diagnostics unless its report overruns what can be read. -/
theorem Tool.run_returns (tool : Tool) (executable : String) (timeout : Int) (path : String)
    (outcome : ProcessOutcome)
    (foreseen : ∀ fault, outcome = .notStarted fault →
      fault.kind = .processTimeout ∨ fault.kind.belongsTo .system = true) :
    Returns (tool.run executable timeout path outcome).diagnostics ↔
      ∀ text, outcome.report = .ok text → ¬ tool.Overruns text := by
  rw [run_diagnostics]
  cases outcome with
  | notStarted fault =>
      refine iff_of_true ⟨[], ?_⟩ (by simp [ProcessOutcome.report])
      rw [ProcessOutcome.report, diagnosticsOf, if_pos (foreseen fault rfl)]
  | completed output complaints code =>
      rw [returns_iff]
      refine (not_congr outputRun_fails).trans ⟨?_, fun within => within _ rfl⟩
      rintro within text ⟨⟩
      exact within

end Runs

section Standard

attribute [local instance] Host.standard

/-- A missing executable gives an empty list. -/
theorem Tool.run_returns_missing :
    (Fault.refused .missing "solhint").kind.belongsTo .system = true ∧
      Returns (Tool.solhint.run "solhint" 15 "a.sol"
        (.notStarted (.refused .missing "solhint"))).diagnostics := by
  have system : (Fault.refused .missing "solhint").kind.belongsTo .system = true := by decide
  refine ⟨system, (run_returns .solhint "solhint" 15 "a.sol" _ ?_).mpr ?_⟩
  · rintro fault ⟨⟩
    exact .inr system
  · rintro text ⟨⟩

/-- A line without bounds in a report that is well formed otherwise is not tolerated. -/
theorem Tool.run_infinite_line :
    let report := "\x7b\"results\": \x7b\"detectors\": " ++
      "[\x7b\"elements\": [\x7b\"line\": 1e999\x7d]\x7d]\x7d\x7d"
    ¬ Returns (Tool.slither.run "slither" 30 "/tmp/work/contract.sol"
      (.completed (some report) none 0)).diagnostics := by
  decide +kernel

end Standard

end SolidityAudit.Detection
