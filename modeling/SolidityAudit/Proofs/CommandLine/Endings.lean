import SolidityAudit.Proofs.CommandLine.Subjects
import SolidityAudit.Proofs.Journal.Sinks
import SolidityAudit.Proofs.Report.Publication

namespace SolidityAudit

open Files (Disk Location)
open Journal (Registry logPlaces)
open Text (Wording)

namespace Files

/-- The disk with the directories above a file made. -/
def Disk.withFolder [Host] (disk : Disk) (path : String) : Disk :=
  if directoryPart path == "" then disk else (disk.makeDirectories (directoryPart path)).1

/-- The files stay as they were outside the given places, but for one that is emptied. -/
def Disk.KeptBut (places : List Location) (emptied : Option Location) (disk after : Disk) : Prop :=
  ∀ location, location ∉ places → after.fileAt? location =
    if emptied = some location then some (.text "") else disk.fileAt? location

section Kept

variable {places wider : List Location} {emptied : Option Location} {disk middle after : Disk}

/-- Files that are the same are kept. -/
theorem Disk.SameFiles.kept (same : disk.SameFiles places after) :
    disk.KeptBut places none after := by
  intro location outside
  rw [same location outside, if_neg nofun]

/-- Files that are kept elsewhere are kept outside more places. -/
theorem Disk.KeptBut.mono (kept : disk.KeptBut places emptied after) (within : places ⊆ wider) :
    disk.KeptBut wider emptied after :=
  fun location outside => kept location fun listed => outside (within listed)

/-- What was the same before is kept. -/
theorem Disk.SameFiles.trans_kept (same : disk.SameFiles places middle)
    (kept : middle.KeptBut places emptied after) : disk.KeptBut places emptied after := by
  intro location outside
  rw [kept location outside, same location outside]

/-- What is the same afterwards is kept. -/
theorem Disk.KeptBut.trans_same (kept : disk.KeptBut places emptied middle)
    (same : middle.SameFiles places after) : disk.KeptBut places emptied after := by
  intro location outside
  rw [same location outside, kept location outside]

/-- An empty file that is put somewhere is the only change. -/
theorem Disk.keptBut_put {location : Location} (free : disk.node? location ≠ some .directory) :
    disk.KeptBut [] (some location) (disk.put location (.file (.text ""))) := by
  intro place _
  by_cases here : location = place
  · subst here
    rw [if_pos rfl, fileAt?, node?_putFile _ free]
  · rw [if_neg (by simpa using here)]
    exact disk.sameFiles_put location _ place (by simpa using Ne.symm here)

end Kept

end Files

section Publishing

variable [Host] {disk after : Disk}

/-- The directories above a report are made without touching a file. -/
theorem folder_prepared {middle : Disk} {path : String} {outcome : Except Fault Unit}
    (prepared : (if Files.directoryPart path == "" then (disk, .ok ())
      else disk.makeDirectories (Files.directoryPart path)) = (middle, outcome)) :
    disk.withFolder path = middle ∧ disk.SameFiles [] middle ∧ TroubleOnly outcome := by
  unfold Disk.withFolder
  split at prepared
  · next none =>
    cases prepared
    exact ⟨if_pos none, Disk.sameFiles_self _ _, failsOnly_ok⟩
  · next some =>
    rw [if_neg some]
    have files := Disk.sameFiles_makeDirectoriesWithin Host.nestedDirectories disk
      (Wording.plain (Files.directoryPart path)).symbols
    have trouble := Files.troubleOnly_makeDirectoriesWithin disk Host.nestedDirectories
      (Wording.plain (Files.directoryPart path)).symbols
    unfold Disk.makeDirectories at prepared ⊢
    rw [prepared] at files trouble ⊢
    exact ⟨rfl, files, trouble⟩

/-- A report that is not written leaves every file, but may empty the one asked for. -/
theorem writeReport_failed {path : String} {text : Wording} {fault : Fault}
    (failed : writeReport disk path text = (after, .error fault)) :
    fault.isTrouble = true ∧ ∃ emptied, disk.KeptBut [] emptied after ∧
      ∀ location, emptied = some location →
        text.isPlain = false ∧ path ≠ "" ∧ (disk.withFolder path).locate path = .ok location := by
  unfold writeReport at failed
  split at failed
  · cases failed
  · next named =>
    simp only at failed
    generalize made : (if Files.directoryPart path == "" then (disk, .ok ())
      else disk.makeDirectories (Files.directoryPart path)) = prepared at failed
    rcases prepared with ⟨middle, outcome⟩
    obtain ⟨folder, files, trouble⟩ := folder_prepared made
    cases outcome with
    | error cause =>
        cases failed
        exact ⟨trouble fault rfl, none, files.kept, nofun⟩
    | ok value =>
        have writing := Files.troubleOnly_writeText middle path text
        simp only [Disk.writeText] at failed writing
        cases attempt : middle.write path (Disk.stored text).1 with
        | error cause =>
            rw [attempt] at failed writing
            cases failed
            exact ⟨writing fault rfl, none, files.kept, nofun⟩
        | ok last =>
            rw [attempt] at failed writing
            cases text with
            | plain text => cases failed
            | broken text =>
                cases failed
                obtain ⟨-, location, located, free, rfl⟩ := Disk.write_ok attempt
                refine ⟨writing _ rfl, some location, files.trans_kept (Disk.keptBut_put free), ?_⟩
                rintro place ⟨⟩
                exact ⟨rfl, by simpa using named, by rw [folder]; exact located⟩

/-- A report is given out as its text, which is also in the file that was asked for. -/
theorem publishReport_done {record : Record} {output : Option String} {text : Wording}
    (published : publishReport disk record output = (after, .ok text)) :
    text = record.report ∧ ∀ path, output = some path → path ≠ "" →
      ∃ content, record.report = .plain content ∧ after.read path = .ok (.text content) := by
  obtain ⟨-, rfl, written⟩ := publishReport_eq_ok.mp published
  refine ⟨rfl, fun path given named => ?_⟩
  rw [given, Option.getD_some] at written
  exact writeReport_read named written

/-- A report that is not published is trouble, and at most empties the file asked for. -/
theorem publishReport_failed {record : Record} {output : Option String} {fault : Fault}
    (published : publishReport disk record output = (after, .error fault)) :
    fault.isTrouble = true ∧ ∃ emptied, disk.KeptBut [] emptied after ∧
      ∀ location, emptied = some location → record.report.isPlain = false ∧
        ∃ path, output = some path ∧ path ≠ "" ∧
          (disk.withFolder path).locate path = .ok location := by
  unfold publishReport at published
  split at published
  · cases published
    exact ⟨isTrouble_shape _, none, (Disk.sameFiles_self _ _).kept, nofun⟩
  · simp only at published
    split at published
    · cases published
    · next last cause failed =>
      cases published
      obtain ⟨trouble, emptied, kept, opened⟩ := writeReport_failed failed
      refine ⟨trouble, emptied, kept, fun location same => ?_⟩
      obtain ⟨broken, named, located⟩ := opened location same
      cases output with
      | none => exact absurd rfl named
      | some path => exact ⟨broken, path, rfl, named, located⟩

end Publishing

namespace CommandLine

section Endings

variable [Host]

/-- The fault ended the analysis, or the writing of its report to a disk. -/
def Raised (analysis : AnalysisRun) (disk : Disk) (output : Option String) (fault : Fault) : Prop :=
  analysis.result = .error fault ∨
    ∃ record, analysis.result = .ok record ∧
      (publishReport disk record output).2 = .error fault

/-- The place of the file asked for, where the report of the analysis has no encoding. -/
def OpensInVain (disk : Disk) (analysis : AnalysisRun) (output : Option String)
    (location : Location) : Prop :=
  ∃ record path, analysis.result = .ok record ∧ record.report.isPlain = false ∧
    output = some path ∧ path ≠ "" ∧ (disk.withFolder path).locate path = .ok location

/-- The file that was asked for holds the report of the record. -/
def HoldsReport (disk : Disk) (record : Record) (output : Option String) : Prop :=
  ∀ path, output = some path → path ≠ "" →
    ∃ content, record.report = .plain content ∧ disk.read path = .ok (.text content)

/-- The output takes the report of the record and a line break. -/
def IsPrintable (record : Record) : Prop :=
  (record.report ++ Wording.plain "\n").symbols.all Host.outputs = true

/-- What keeps a session from publishing is raised, and the files are kept. -/
theorem publish_failed {disk after : Disk} {analysis : AnalysisRun} {output : Option String}
    {fault : Fault} (published : publish disk analysis.result output = (after, .error fault)) :
    Raised analysis disk output fault ∧ ∃ emptied, disk.KeptBut [] emptied after ∧
      ∀ location, emptied = some location → OpensInVain disk analysis output location := by
  cases ended : analysis.result with
  | error cause =>
      rw [ended] at published
      cases published
      exact ⟨.inl ended, none, (Disk.sameFiles_self _ _).kept, nofun⟩
  | ok record =>
      rw [ended] at published
      have failed : publishReport disk record output = (after, .error fault) := published
      obtain ⟨-, emptied, kept, opened⟩ := publishReport_failed failed
      refine ⟨.inr ⟨record, ended, by rw [failed]⟩, emptied, kept, fun location same => ?_⟩
      obtain ⟨broken, path, given, named, located⟩ := opened location same
      exact ⟨record, path, ended, broken, given, named, located⟩

/-- A session publishes the report of the record. -/
theorem publish_done {disk after : Disk} {analysis : AnalysisRun} {output : Option String}
    {text : Wording} (published : publish disk analysis.result output = (after, .ok text)) :
    ∃ record, analysis.result = .ok record ∧ text = record.report ∧
      HoldsReport after record output := by
  cases ended : analysis.result with
  | error cause =>
      rw [ended] at published
      cases published
  | ok record =>
      rw [ended] at published
      exact ⟨record, rfl, publishReport_done published⟩

/-- All that is raised rejects an invalid input, is trouble or comes from outside. -/
theorem Raised.origin {settings : Settings} {world : World} {disk later : Disk}
    {invocation : Invocation} {output : Option String} {fault : Fault}
    (raised : Raised (analyseSubject settings world disk invocation) later output fault) :
    (InvalidInput settings world disk invocation.subject ∧
      ∃ reason field, ∃ text : String, fault = .rejected reason field (.text text)) ∨
    (¬ InvalidInput settings world disk invocation.subject ∧
      Explorer.IsPassedOn world.responses fault) := by
  rcases analyseSubject_rejectsExactly settings world disk invocation with
    ⟨invalid, reason, field, text, rejected⟩ | ⟨valid, only⟩
  · rcases raised with ended | ⟨record, ended, -⟩
    · cases rejected.symm.trans ended
      exact .inl ⟨invalid, reason, field, text, rfl⟩
    · cases rejected.symm.trans ended
  · refine .inr ⟨valid, ?_⟩
    rcases raised with ended | ⟨record, -, failed⟩
    · exact only fault ended
    · have published : publishReport later record output =
          ((publishReport later record output).1, .error fault) := by rw [← failed]
      exact .inl (publishReport_failed published).1

/-- What is raised can be reported, if what comes from outside can be. -/
theorem Raised.isReportable {settings : Settings} {world : World} {disk later : Disk}
    {invocation : Invocation} {output : Option String} {fault : Fault}
    (raised : Raised (analyseSubject settings world disk invocation) later output fault)
    (outside : ∀ other, .failed other ∈ world.responses → other.IsReportable) :
    fault.IsReportable := by
  rcases raised.origin with ⟨-, reason, field, text, rfl⟩ | ⟨-, trouble | listed⟩
  · exact isReportable_rejected reason field text
  · exact Fault.isReportable_trouble trouble
  · exact outside fault listed

/-- What is raised rejects exactly the invalid inputs, unless the outside rejects some. -/
theorem Raised.rejects_iff {settings : Settings} {world : World} {disk later : Disk}
    {invocation : Invocation} {output : Option String} {fault : Fault}
    (raised : Raised (analyseSubject settings world disk invocation) later output fault)
    (outside : ∀ other, .failed other ∈ world.responses → other.kind ≠ .validation) :
    fault.kind = .validation ↔ InvalidInput settings world disk invocation.subject := by
  rcases raised.origin with ⟨invalid, reason, field, text, rfl⟩ | ⟨valid, passed⟩
  · exact iff_of_true rfl invalid
  · exact iff_of_false (passed.elim Fault.isTrouble_kind (outside fault)) valid

/-- No record comes of an invalid input. -/
theorem not_invalidInput {settings : Settings} {world : World} {disk : Disk}
    {invocation : Invocation} {record : Record}
    (ended : (analyseSubject settings world disk invocation).result = .ok record) :
    ¬ InvalidInput settings world disk invocation.subject := by
  intro invalid
  obtain ⟨reason, field, text, rejected⟩ := analyseSubject_rejected invalid
  cases rejected.symm.trans ended

/-- The journal with all entries of an analysis, before its report is published. -/
def journalled (registry : Registry) (analysis : AnalysisRun) : Registry :=
  { registry with disk := analysis.disk }.recordAll analysis.journal

/-- A published report is shown, and the files stay as they were published. -/
theorem complete_done {registry : Registry} {analysis : AnalysisRun} {output : Option String}
    {after : Disk} {text : Wording}
    (published : publish (journalled registry analysis).disk analysis.result output =
      (after, .ok text)) :
    (complete registry analysis output).exitCode = 0 ∧
      (complete registry analysis output).output = text ++ Wording.plain "\n" ∧
      (complete registry analysis output).errorReport = none ∧
      (complete registry analysis output).registry.disk = after := by
  unfold journalled at published
  unfold complete
  simp only [published, and_self]

/-- A fault is reported and noted. -/
theorem complete_failed {registry : Registry} {analysis : AnalysisRun} {output : Option String}
    {after : Disk} {fault : Fault}
    (published : publish (journalled registry analysis).disk analysis.result output =
      (after, .error fault)) :
    (complete registry analysis output).exitCode = (if fault.kind = .validation then 2 else 1) ∧
      (complete registry analysis output).output = .plain "" ∧
      (complete registry analysis output).errorReport = some (errorReport fault) ∧
      (complete registry analysis output).registry =
        { journalled registry analysis with disk := after }.record (failureNote fault) := by
  unfold journalled at published ⊢
  unfold complete
  simp [published, exitCodeFor, invalidInputCode, failureCode]

/-- A session that fails touches no file but the one for its lines, and perhaps the one asked
for. -/
theorem complete_failed_files {places : List Location} {registry : Registry}
    (writes : registry.WritesTo places) {analysis : AnalysisRun}
    (files : registry.disk.SameFiles [] analysis.disk) {output : Option String} {after : Disk}
    {fault : Fault}
    (published : publish (journalled registry analysis).disk analysis.result output =
      (after, .error fault)) :
    ∃ emptied, registry.disk.KeptBut places emptied
        (complete registry analysis output).registry.disk ∧
      ∀ location, emptied = some location →
        OpensInVain (journalled registry analysis).disk analysis output location := by
  have within : [] ⊆ places := List.nil_subset places
  have analysed : Registry.WritesTo places { registry with disk := analysis.disk } := writes
  have noted : Registry.LogsTo places { registry with disk := analysis.disk }
    (journalled registry analysis) := analysed.recordAll analysis.journal
  obtain ⟨-, emptied, kept, opened⟩ := publish_failed published
  have last : Registry.WritesTo places { journalled registry analysis with disk := after } :=
    noted.writes
  have told := last.record (failureNote fault)
  refine ⟨emptied, ?_, opened⟩
  rw [(complete_failed published).2.2.2]
  have before := (files.mono within).trans noted.files
  exact (before.trans_kept (kept.mono within)).trans_same told.files

/-- A session with accepted arguments comes to its end once its journal is set up. -/
theorem run_concludes {arguments : List String} {environment : Environment} {disk : Disk}
    {invocation : Invocation} {registry : Registry}
    (accepted : readInvocation arguments = .ok invocation)
    (ready : Registry.setUp { disk := disk } programName
      (chosenLevel invocation (Settings.ofEnvironment environment))
      (Settings.ofEnvironment environment).logFile = (registry, .ok ())) (world : World) :
    run arguments environment world disk = (complete registry
      (analyseSubject (Settings.ofEnvironment environment) world registry.disk invocation)
      invocation.output).concluded := by
  unfold run
  simp only [accepted, ready]

section Conclusions

variable {completion : Completion} {record : Record}

/-- A session with a printable report is completed. -/
theorem concluded_printable (shown : completion.output = record.report ++ Wording.plain "\n")
    (printable : IsPrintable record) : completion.concluded = .completed completion := by
  rw [Completion.concluded, shown]
  exact if_pos printable

/-- A session with any other report is not. -/
theorem concluded_unprintable (shown : completion.output = record.report ++ Wording.plain "\n")
    (unprintable : ¬ IsPrintable record) :
    completion.concluded =
      .unprinted (.plain .badText Host.refusedOutput) { completion with output := "" } := by
  rw [Completion.concluded, shown]
  exact if_neg unprintable

/-- A session that shows nothing is completed. -/
theorem concluded_silent (silent : completion.output = .plain "") :
    completion.concluded = .completed completion := by
  rw [Completion.concluded, silent]
  rfl

omit [Host] in
/-- A completed session ends with one code. -/
theorem completed_code_iff {session : Session} (completed : session = .completed completion)
    (code : Nat) : (∃ other, session = .completed other ∧ other.exitCode = code) ↔
      completion.exitCode = code := by
  constructor
  · rintro ⟨other, same, exitCode⟩
    cases completed.symm.trans same
    exact exitCode
  · intro exitCode
    exact ⟨completion, completed, exitCode⟩

end Conclusions

end Endings

section Standard

attribute [local instance] Host.standard

end Standard

end CommandLine

end SolidityAudit
