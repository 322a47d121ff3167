import Mathlib.Data.List.Forall2
import SolidityAudit.Proofs.Detection.Returns

namespace SolidityAudit

/-- A pass over a list gives the results of its steps one by one and in order. -/
theorem mapM_eq_ok {ε α β : Type} {step : α → Except ε β} {items : List α} {results : List β} :
    items.mapM step = .ok results ↔
      List.Forall₂ (fun item result => step item = .ok result) items results := by
  constructor
  · intro passed
    induction items generalizing results with
    | nil =>
        cases passed
        exact .nil
    | cons head tail ih =>
        rw [List.mapM_cons] at passed
        obtain ⟨first, given, passed⟩ := bind_eq_ok.mp passed
        obtain ⟨rest, others, same⟩ := bind_eq_ok.mp passed
        cases same
        exact .cons given (ih others)
  · intro each
    induction each with
    | nil => rfl
    | cons given others ih =>
        rw [List.mapM_cons, given, ih]
        rfl

namespace Detection

open Json (Value valueAt)
open Text (Wording)

namespace Slither

/-- The members of the object under a name. What counts as absent stands for an object without
members. -/
def ObjectAt (name : Wording) (members inner : List (Wording × Value)) : Prop :=
  (valueAt name members).orElse (.object []) = .object inner

/-- The first line of the source mapping of an element, else its own, else one. -/
inductive HasLine [Host] (element : List (Wording × Value)) : Int → Prop where
  | mapped {mapping : List (Wording × Value)} {first : Value} {line : Int}
      (given : ObjectAt "source_mapping" element mapping)
      (present : (valueAt "lines" mapping).isPresent = true)
      (front : (valueAt "lines" mapping).front = .ok first) (read : first.toInteger = .ok line) :
      HasLine element line
  | own {mapping : List (Wording × Value)} {line : Int}
      (given : ObjectAt "source_mapping" element mapping)
      (absent : (valueAt "lines" mapping).isPresent = false)
      (some : valueAt "line" element ≠ .null)
      (read : (valueAt "line" element).toInteger = .ok line) : HasLine element line
  | default {mapping : List (Wording × Value)}
      (given : ObjectAt "source_mapping" element mapping)
      (absent : (valueAt "lines" mapping).isPresent = false)
      (none : valueAt "line" element = .null) : HasLine element 1

/-- The members describe a function and name it. -/
def IsFunction (members : List (Wording × Value)) : Prop :=
  valueAt "type" members = .text "function" ∧ (valueAt "name" members).isPresent = true

/-- The function of an element: the one that it names, else itself, else its parent. -/
inductive HasFunction (element : List (Wording × Value)) : Value → Prop where
  | named (present : (valueAt "function_name" element).isPresent = true) :
      HasFunction element (valueAt "function_name" element)
  | itself (absent : (valueAt "function_name" element).isPresent = false)
      (function : IsFunction element) : HasFunction element (valueAt "name" element)
  | parent {fields parent : List (Wording × Value)}
      (absent : (valueAt "function_name" element).isPresent = false)
      (other : ¬ IsFunction element) (given : ObjectAt "type_specific_fields" element fields)
      (above : ObjectAt "parent" fields parent) (function : IsFunction parent) :
      HasFunction element (valueAt "name" parent)
  | unknown {fields parent : List (Wording × Value)}
      (absent : (valueAt "function_name" element).isPresent = false)
      (other : ¬ IsFunction element) (given : ObjectAt "type_specific_fields" element fields)
      (above : ObjectAt "parent" fields parent) (otherAbove : ¬ IsFunction parent) :
      HasFunction element (.text "N/A")

/-- The file of an element: the one of its source mapping, else its own, else a common name. -/
def HasFile (element : List (Wording × Value)) (file : Value) : Prop :=
  ∃ mapping, ObjectAt "source_mapping" element mapping ∧
    file = ((valueAt "filename_short" mapping).orElse (valueAt "filename" element)).orElse
      (.text "contract.sol")

/-- The description of a detector without the white space around it. -/
def HasDescription (detector : List (Wording × Value)) (description : Value) : Prop :=
  ∃ words : Wording, (valueAt "description" detector).orElse (.text "") = .text words ∧
    description = .text words.trim

/-- What a diagnostic takes from a detector and what it takes from one of its elements. -/
structure Reported [Host] (detector element : List (Wording × Value)) (diagnostic : Diagnostic) :
    Prop where
  source : diagnostic.source = "slither"
  category : diagnostic.category = .security
  name : diagnostic.name = (Json.findMember? "check" detector).getD (.text "unknown")
  description : HasDescription detector diagnostic.description
  severity : diagnostic.severity = .text (impactLabel (valueAt "impact" detector))
  confidence : diagnostic.confidence = valueAt "confidence" detector
  line : ∃ line, HasLine element line ∧ diagnostic.line = .integer line
  column : diagnostic.column = .null
  function : HasFunction element diagnostic.function
  file : HasFile element diagnostic.file

/-- The diagnostic conveys a finding, which is an element and the detector that lists it. -/
def Conveys [Host] (finding : Value × Value) (diagnostic : Diagnostic) : Prop :=
  ∃ detector element, finding = (.object detector, .object element) ∧
    Reported detector element diagnostic

section Elements

variable {element : List (Wording × Value)}

/-- The line of an element is read as it should be. -/
theorem elementLine_eq_ok [Host] {line : Int} :
    elementLine (.object element) = .ok line ↔ HasLine element line := by
  unfold elementLine
  rw [Value.member_object, ok_bind]
  constructor
  · intro read
    obtain ⟨lines, given, read⟩ := bind_eq_ok.mp read
    obtain ⟨mapping, mapped, rfl⟩ := Value.member_eq_ok.mp given
    split at read
    · next present =>
      obtain ⟨first, front, number⟩ := bind_eq_ok.mp read
      exact .mapped mapped present front number
    · next absent =>
      rw [Bool.not_eq_true] at absent
      rw [Value.member_object, ok_bind] at read
      split at read
      · next none =>
        cases read
        exact .default mapped absent none
      · next some => exact .own mapped absent some read
  · intro has
    cases has with
    | mapped given present front read =>
        rw [ObjectAt] at given
        simp only [given, Value.member_object, ok_bind, present, if_true, front, read]
    | own given absent some read =>
        rw [ObjectAt] at given
        simp only [given, Value.member_object, ok_bind, absent, Bool.false_eq_true, if_false]
        exact read
    | default given absent none =>
        rw [ObjectAt] at given
        simp only [given, Value.member_object, ok_bind, absent, Bool.false_eq_true, if_false, none]
        rfl

/-- A function is named. -/
theorem functionName?_function {members : List (Wording × Value)} (function : IsFunction members) :
    functionName? (.object members) = .ok (some (valueAt "name" members)) := by
  unfold functionName?
  simp only [Value.member_object, ok_bind, function.1, function.2]
  rfl

/-- Nothing else is named. -/
theorem functionName?_other {members : List (Wording × Value)} (other : ¬ IsFunction members) :
    functionName? (.object members) = .ok none := by
  have failed : ¬ (valueAt "type" members == .text "function" &&
      (valueAt "name" members).isPresent) = true := by
    rw [Bool.and_eq_true, Value.beq_text]
    exact other
  unfold functionName?
  rw [Value.member_object, ok_bind, Value.member_object, ok_bind, if_neg failed]
  rfl

/-- Only an object is asked for a name. -/
theorem functionName?_object {value : Value} {found : Option Value}
    (named : functionName? value = .ok found) : ∃ members, value = .object members := by
  obtain ⟨type, given, -⟩ := bind_eq_ok.mp named
  obtain ⟨members, same, -⟩ := Value.member_eq_ok.mp given
  exact ⟨members, same⟩

/-- The function of an element is read as it should be. -/
theorem elementFunction_eq_ok {function : Value} :
    elementFunction (.object element) = .ok function ↔ HasFunction element function := by
  unfold elementFunction
  rw [Value.member_object, ok_bind]
  constructor
  · intro read
    split at read
    · next present =>
      cases read
      exact .named present
    · next absent =>
      rw [Bool.not_eq_true] at absent
      by_cases isFunction : IsFunction element
      · rw [functionName?_function isFunction] at read
        cases read
        exact .itself absent isFunction
      · rw [functionName?_other isFunction, ok_bind, Value.member_object, ok_bind] at read
        obtain ⟨value, given, read⟩ := bind_eq_ok.mp read
        obtain ⟨fields, fielded, rfl⟩ := Value.member_eq_ok.mp given
        obtain ⟨found, named, read⟩ := bind_eq_ok.mp read
        obtain ⟨parent, above⟩ := functionName?_object named
        rw [above] at named
        by_cases isParent : IsFunction parent
        · rw [functionName?_function isParent] at named
          cases named
          cases read
          exact .parent absent isFunction fielded above isParent
        · rw [functionName?_other isParent] at named
          cases named
          cases read
          exact .unknown absent isFunction fielded above isParent
  · intro has
    cases has with
    | named present => simp only [present, if_true]; rfl
    | itself absent isFunction =>
        simp only [absent, Bool.false_eq_true, if_false, functionName?_function isFunction, ok_bind]
        rfl
    | parent absent other given above isFunction =>
        rw [ObjectAt] at given above
        simp only [absent, Bool.false_eq_true, if_false, functionName?_other other, ok_bind,
          Value.member_object, given, above, functionName?_function isFunction]
        rfl
    | unknown absent other given above otherAbove =>
        rw [ObjectAt] at given above
        simp only [absent, Bool.false_eq_true, if_false, functionName?_other other, ok_bind,
          Value.member_object, given, above, functionName?_other otherAbove]
        rfl

/-- The file of an element is read as it should be. -/
theorem elementFile_eq_ok {file : Value} :
    elementFile (.object element) = .ok file ↔ HasFile element file := by
  unfold elementFile
  rw [Value.member_object, ok_bind]
  constructor
  · intro read
    obtain ⟨short, given, read⟩ := bind_eq_ok.mp read
    obtain ⟨mapping, mapped, rfl⟩ := Value.member_eq_ok.mp given
    rw [Value.member_object, ok_bind] at read
    cases read
    exact ⟨mapping, mapped, rfl⟩
  · rintro ⟨mapping, mapped, rfl⟩
    rw [ObjectAt] at mapped
    simp only [mapped, Value.member_object, ok_bind]
    rfl

end Elements

/-- The description of a detector is read as it should be. -/
theorem trimmedDescription_eq_ok {detector : List (Wording × Value)} {description : Wording} :
    trimmedDescription (.object detector) = .ok description ↔
      HasDescription detector (.text description) := by
  unfold trimmedDescription HasDescription
  rw [Value.member_object, ok_bind]
  constructor
  · intro read
    obtain ⟨words, given, read⟩ := bind_eq_ok.mp read
    cases read
    exact ⟨words, Value.wording_eq_ok.mp given, rfl⟩
  · rintro ⟨words, given, same⟩
    cases same
    rw [given]
    rfl

variable [Host]

/-- Only an object has a line. -/
theorem elementLine_object {element : Value} {line : Int} (read : elementLine element = .ok line) :
    ∃ members, element = .object members := by
  obtain ⟨mapping, given, -⟩ := bind_eq_ok.mp read
  obtain ⟨members, same, -⟩ := Value.member_eq_ok.mp given
  exact ⟨members, same⟩

/-- A finding gives the diagnostic that conveys it, and no other. -/
theorem diagnosticOf_eq_ok {detector element : Value} {diagnostic : Diagnostic} :
    diagnosticOf detector element = .ok diagnostic ↔ Conveys (detector, element) diagnostic := by
  unfold diagnosticOf
  constructor
  · intro read
    obtain ⟨name, named, read⟩ := bind_eq_ok.mp read
    obtain ⟨description, described, read⟩ := bind_eq_ok.mp read
    obtain ⟨detector, rfl⟩ := trimmedDescription_object described
    rw [Value.member_object, ok_bind, Value.member_object, ok_bind] at read
    obtain ⟨line, lined, read⟩ := bind_eq_ok.mp read
    obtain ⟨element, rfl⟩ := elementLine_object lined
    obtain ⟨function, functioned, read⟩ := bind_eq_ok.mp read
    obtain ⟨file, filed, read⟩ := bind_eq_ok.mp read
    cases named
    cases read
    exact ⟨detector, element, rfl, rfl, rfl, rfl, trimmedDescription_eq_ok.mp described, rfl, rfl,
      ⟨line, elementLine_eq_ok.mp lined, rfl⟩, rfl, elementFunction_eq_ok.mp functioned,
      elementFile_eq_ok.mp filed⟩
  · rintro ⟨detector, element, same, reported⟩
    cases same
    obtain ⟨source, category, name, description, severity, confidence, line, column, function,
      file⟩ := diagnostic
    obtain ⟨rfl, rfl, rfl, described, rfl, rfl, ⟨number, hasLine, rfl⟩, rfl, hasFunction,
      hasFile⟩ := reported
    obtain ⟨words, given, rfl⟩ := described
    rw [trimmedDescription_eq_ok.mpr ⟨words, given, rfl⟩, elementLine_eq_ok.mpr hasLine,
      elementFunction_eq_ok.mpr hasFunction, elementFile_eq_ok.mpr hasFile]
    rfl

section Reports

/-- The detectors that a report lists among its results. -/
def listedDetectors (report : Value) : List Value :=
  ((report.memberOf "results").memberOf "detectors").listItems

/-- Every element of a detector of the report, with the detector and in the order of the report. -/
def findingsOf (report : Value) : List (Value × Value) :=
  (listedDetectors report).flatMap fun detector =>
    (detector.memberOf "elements").listItems.map fun element => (detector, element)

/-- The containers of a report are what they should be, where they are not absent. -/
structure IsRegular (report : Value) : Prop where
  results : (report.memberOf "results").IsOptionalObject
  detectors : ((report.memberOf "results").memberOf "detectors").IsOptionalList
  objects : ∀ detector ∈ listedDetectors report, detector.IsObject
  elements : ∀ detector ∈ listedDetectors report, (detector.memberOf "elements").IsOptionalList

omit [Host] in
/-- The detectors of a regular report are those it lists. -/
theorem detectorsOf_regular {report : Value} (object : report.IsObject)
    (regular : IsRegular report) : detectorsOf report = .ok (listedDetectors report) := by
  obtain ⟨members, rfl⟩ := object
  have results := Value.member_orElse regular.results "detectors"
  rw [Value.memberOf] at results
  simp only [detectorsOf, Value.member_object, ok_bind, results]
  exact Value.elements_orElse regular.detectors

omit [Host] in
/-- The elements of a detector are those it lists. -/
theorem elementsOf_regular {detector : Value} (object : detector.IsObject)
    (list : (detector.memberOf "elements").IsOptionalList) :
    elementsOf detector = .ok (detector.memberOf "elements").listItems := by
  obtain ⟨members, rfl⟩ := object
  exact Value.elements_orElse list

/-- A regular report is read in one pass over its findings. -/
theorem reportDiagnostics_regular {report : Value} (object : report.IsObject)
    (regular : IsRegular report) :
    reportDiagnostics report =
      (findingsOf report).mapM fun finding => diagnosticOf finding.1 finding.2 := by
  rw [reportDiagnostics, detectorsOf_regular object regular, ok_bind, findingsOf]
  refine mapM_parts fun detector listed => ?_
  rw [detectorDiagnostics_eq, elementsOf_regular (regular.objects detector listed)
    (regular.elements detector listed), ok_bind, List.mapM_map]
  rfl

/-- Only an object with a list of elements is read to its end. -/
theorem detectorDiagnostics_returns {detector : Value}
    (returned : Returns (detectorDiagnostics detector)) :
    detector.IsObject ∧ (detector.memberOf "elements").IsOptionalList := by
  rw [detectorDiagnostics_eq] at returned
  obtain ⟨elements, listed, returned⟩ := returns_bind.mp returned
  obtain ⟨value, given, listed⟩ := bind_eq_ok.mp listed
  obtain ⟨members, rfl, rfl⟩ := Value.member_eq_ok.mp given
  refine ⟨⟨members, rfl⟩, Value.isOptionalList_of_elements listed ?_⟩
  intro element inside
  obtain ⟨diagnostic, read⟩ := returns_mapM.mp returned element inside
  obtain ⟨_, inner, same, -⟩ := diagnosticOf_eq_ok.mp read
  exact ⟨inner, (Prod.mk.inj same).2⟩

/-- Only a regular report is read to its end. -/
theorem reportDiagnostics_returns {report : Value} (returned : Returns (reportDiagnostics report)) :
    IsRegular report := by
  obtain ⟨detectors, listed, returned⟩ := returns_bind.mp returned
  obtain ⟨groups, grouped, -⟩ := returns_bind.mp returned
  have each (detector : Value) (inside : detector ∈ detectors) :=
    detectorDiagnostics_returns (returns_mapM.mp ⟨groups, grouped⟩ detector inside)
  obtain ⟨results, given, listed⟩ := bind_eq_ok.mp listed
  obtain ⟨members, rfl, rfl⟩ := Value.member_eq_ok.mp given
  obtain ⟨value, given, listed⟩ := bind_eq_ok.mp listed
  have object : (valueAt "results" members).IsOptionalObject := by
    intro present
    obtain ⟨inner, same, -⟩ := Value.member_eq_ok.mp given
    exact ⟨inner, (Value.orElse_present present).symm.trans same⟩
  obtain rfl : (valueAt "results" members).memberOf "detectors" = value :=
    Except.ok.inj ((Value.member_orElse object "detectors").symm.trans given)
  have list := Value.isOptionalList_of_elements listed fun detector inside =>
    (each detector inside).1
  have same : listedDetectors (.object members) = detectors :=
    Except.ok.inj ((Value.elements_orElse list).symm.trans listed)
  refine ⟨object, list, ?_, ?_⟩
  · rw [same]
    exact fun detector inside => (each detector inside).1
  · rw [same]
    exact fun detector inside => (each detector inside).2

/-- The diagnostics of a report convey its findings one by one and in order, or there are none. -/
theorem reportDiagnostics_eq_ok {report : Value} (object : report.IsObject)
    {diagnostics : List Diagnostic} :
    reportDiagnostics report = .ok diagnostics ↔
      IsRegular report ∧ List.Forall₂ Conveys (findingsOf report) diagnostics := by
  have each : (fun finding diagnostic =>
      diagnosticOf finding.1 finding.2 = .ok diagnostic) = Conveys :=
    funext fun finding => funext fun diagnostic => propext diagnosticOf_eq_ok
  constructor
  · intro read
    have regular := reportDiagnostics_returns ⟨diagnostics, read⟩
    rw [reportDiagnostics_regular object regular, mapM_eq_ok, each] at read
    exact ⟨regular, read⟩
  · rintro ⟨regular, conveyed⟩
    rw [reportDiagnostics_regular object regular, mapM_eq_ok, each]
    exact conveyed

/-- Every finding of a report that is conveyed has a diagnostic. -/
theorem exists_conveyed {findings : List (Value × Value)} {diagnostics : List Diagnostic}
    (conveyed : List.Forall₂ Conveys findings diagnostics) {finding : Value × Value}
    (listed : finding ∈ findings) : ∃ diagnostic, Conveys finding diagnostic := by
  obtain ⟨index, within, rfl⟩ := List.getElem_of_mem listed
  exact ⟨_, conveyed.get within (conveyed.length_eq ▸ within)⟩

end Reports

end Slither

section Runs

variable [Host]

/-- A report that can be used gives some diagnostics only if they are read from it. -/
theorem Tool.reportRun_usable {report : Value} (usable : Slither.IsUsable report)
    {diagnostics : List Diagnostic} (nonempty : diagnostics ≠ []) :
    (Tool.slither.reportRun report).diagnostics = .ok diagnostics ↔
      Slither.reportDiagnostics report = .ok diagnostics := by
  have reading : Tool.slither.readReport report = (Slither.reportDiagnostics report, []) := by
    simp only [readReport, Slither.read_usable usable]
  unfold reportRun
  rw [reading]
  cases Slither.reportDiagnostics report with
  | ok found =>
      constructor
      · intro same
        cases same
        rfl
      · intro same
        cases same
        rfl
  | error fault =>
      constructor
      · simp only
        split
        · intro same
          cases same
          exact absurd rfl nonempty
        · intro same
          cases same
      · intro same
        cases same

/-- A report that can be used is conveyed finding by finding, or not at all. -/
theorem Tool.run_conveys (executable : String) (timeout : Int) (path output : String)
    (complaints : Option String) (code : Int) (report : Value)
    (decoded : Json.readString output = .ok report) (usable : Slither.IsUsable report) :
    (∀ diagnostics, diagnostics ≠ [] →
      ((Tool.slither.run executable timeout path
        (.completed (some output) complaints code)).diagnostics = .ok diagnostics ↔
        Slither.IsRegular report ∧
          List.Forall₂ Slither.Conveys (Slither.findingsOf report) diagnostics)) ∧
    ((∃ finding ∈ Slither.findingsOf report, ∀ diagnostic, ¬ Slither.Conveys finding diagnostic) →
      Ensures (fun diagnostics => diagnostics = []) (Tool.slither.run executable timeout path
        (.completed (some output) complaints code)).diagnostics) := by
  have whole : (Tool.slither.run executable timeout path
      (.completed (some output) complaints code)).diagnostics =
        (Tool.slither.reportRun report).diagnostics := by
    rw [run_diagnostics]
    refine (outputRun_diagnostics .slither output).trans ?_
    rw [decoded]
  have object : report.IsObject := by
    obtain ⟨members, same, -⟩ := usable
    exact ⟨members, same⟩
  have conveys (diagnostics : List Diagnostic) (nonempty : diagnostics ≠ []) :
      (Tool.slither.reportRun report).diagnostics = .ok diagnostics ↔ Slither.IsRegular report ∧
        List.Forall₂ Slither.Conveys (Slither.findingsOf report) diagnostics :=
    (reportRun_usable usable nonempty).trans (Slither.reportDiagnostics_eq_ok object)
  rw [whole]
  refine ⟨conveys, ?_⟩
  rintro ⟨finding, listed, unfit⟩ diagnostics returned
  by_contra nonempty
  obtain ⟨-, conveyed⟩ := (conveys diagnostics nonempty).mp returned
  obtain ⟨diagnostic, fit⟩ := Slither.exists_conveyed conveyed listed
  exact unfit diagnostic fit

end Runs

/-- A report of one detector with two elements, of which the second has the given line. -/
def Slither.pairText (line : String) : String :=
  "\x7b\"results\":\x7b\"detectors\":[\x7b\"impact\":\"HIGH \",\"elements\":" ++
    "[\x7b\x7d,\x7b\"line\":" ++ line ++ "\x7d]\x7d]\x7d\x7d"

/-- The same report once it is read. -/
def Slither.pairReport (line : Value) : Value :=
  .object [("results", .object [("detectors", .array [.object [("impact", .text "HIGH "),
    ("elements", .array [.object [], .object [("line", line)]])]])])]

/-- What is reported of one of the elements. -/
def Slither.pairDiagnostic (line : Int) : Diagnostic where
  source := "slither"
  category := .security
  name := .text "unknown"
  description := .text ""
  severity := .text "High"
  line := .integer line

section Standard

attribute [local instance] Host.standard

/-- Both elements are reported, or neither is where the line of one cannot be read. -/
theorem Tool.run_conveys_pair :
    Json.readString (Slither.pairText "7") = .ok (Slither.pairReport (.integer 7)) ∧
      Slither.IsUsable (Slither.pairReport (.integer 7)) ∧
      (Tool.slither.run "slither" 30 "a.sol" (.completed (some (Slither.pairText "7")) none
        255)).diagnostics = .ok [Slither.pairDiagnostic 1, Slither.pairDiagnostic 7] ∧
      Json.readString (Slither.pairText "\"x\"") = .ok (Slither.pairReport (.text "x")) ∧
      Slither.IsUsable (Slither.pairReport (.text "x")) ∧
      Ensures (fun diagnostics => diagnostics = []) (Tool.slither.run "slither" 30 "a.sol"
        (.completed (some (Slither.pairText "\"x\"")) none 255)).diagnostics := by
  have decoded : Json.readString (Slither.pairText "7") =
      .ok (Slither.pairReport (.integer 7)) := by
    rfl
  have spoiled : Json.readString (Slither.pairText "\"x\"") =
      .ok (Slither.pairReport (.text "x")) := by
    rfl
  have usable (line : Value) : Slither.IsUsable (Slither.pairReport line) := ⟨_, rfl, nofun⟩
  refine ⟨decoded, usable _, ?_, spoiled, usable _, ?_⟩
  · refine ((run_conveys "slither" 30 "a.sol" _ none 255 _ decoded (usable _)).1 _
      (List.cons_ne_nil _ _)).mpr ⟨?_, ?_⟩
    · exact Slither.reportDiagnostics_returns
        ⟨[Slither.pairDiagnostic 1, Slither.pairDiagnostic 7], rfl⟩
    · exact .cons (Slither.diagnosticOf_eq_ok.mp rfl)
        (.cons (Slither.diagnosticOf_eq_ok.mp rfl) .nil)
  · refine (run_conveys "slither" 30 "a.sol" _ none 255 _ spoiled (usable _)).2 ?_
    refine ⟨_, List.mem_cons_of_mem _ List.mem_cons_self, fun diagnostic conveyed => ?_⟩
    cases Slither.diagnosticOf_eq_ok.mpr conveyed

end Standard

end Detection

end SolidityAudit
