import SolidityAudit.CommandLine.Session
import SolidityAudit.Proofs.Analysis.Addresses
import SolidityAudit.Proofs.Analysis.Faults
import SolidityAudit.Proofs.Analysis.Separation
import SolidityAudit.Proofs.Explorer.Refusals
import SolidityAudit.Proofs.Files.Contents
import SolidityAudit.Proofs.Files.Refusals

namespace SolidityAudit

open Detection (runPipeline)
open Files (Disk)
open Json (Value)
open Text (Wording)

section Analysis

variable [Host] (settings : Settings) (world : World) (summariser : Option Summariser)
  (disk : Disk) (source : Wording) (wantSummary : Bool)

/-- The detectors raise trouble alone. -/
theorem troubleOnly_runPipeline (faults : Files.ScratchFaults)
    (outcomes : Detection.ToolOutcomes) :
    TroubleOnly (runPipeline settings disk faults outcomes source).findings := by
  have worked := Files.troubleOnly_withScratch disk settings.scratchPlace faults source
    fun disk path => (outcomes.leave disk path, Detection.detect settings outcomes path)
  unfold runPipeline
  simp only
  split
  · next fault failed => exact failsOnly_error (worked fault failed)
  · exact failsOnly_ok

/-- A text is analysed without rejecting it. -/
theorem troubleOnly_analyseText :
    TroubleOnly (analyseText settings world summariser disk source wantSummary).result := by
  rw [analyseText_judged]
  apply failsOnly_map
  refine failsOnly_bind (troubleOnly_runPipeline _ _ _ _ _) fun findings => ?_
  refine failsOnly_bind ?_ fun verdict => ?_
  · refine failsOnly_bind (troubleOnly_shape _) fun score => ?_
    exact failsOnly_bind (troubleOnly_shape _) fun grade => failsOnly_ok
  · exact failsOnly_bind (troubleOnly_shape _) fun warnings => failsOnly_ok

/-- An analysis leaves the files as the detectors do. -/
theorem analyseText_disk :
    (analyseText settings world summariser disk source wantSummary).disk =
      (runPipeline settings disk world.scratchFaults world.tools source).disk := by
  unfold analyseText
  simp only
  split
  · rfl
  · split <;> rfl

variable {disk} (tree : disk.IsTree)

include tree

/-- The copy of the source is gone after the analysis, and no other file was touched. -/
theorem analyseText_files :
    disk.SameFiles []
      (analyseText settings world summariser disk source wantSummary).disk := by
  rw [analyseText_disk, Detection.runPipeline_disk _ _ _ _ _ tree]
  exact disk.sameFiles_withPlace settings.scratchPlace

/-- No analysis touches another file. -/
theorem analyse_files (value : Value) :
    disk.SameFiles [] (analyse settings world summariser disk value wantSummary).disk := by
  unfold analyse
  split
  · exact Disk.sameFiles_self _ _
  · exact analyseText_files settings world summariser _ wantSummary tree

end Analysis

/-- A text of white space is rejected, and any other one is analysed. -/
theorem analyse_text [Host] (settings : Settings) (world : World) (summariser : Option Summariser)
    (disk : Disk) (text : Wording) (wantSummary : Bool) :
    analyse settings world summariser disk (.text text) wantSummary =
      if text.isBlank then
        { disk := disk
          result := .error (.rejected "Source code is required" (some "source_code") (.text text)) }
      else analyseText settings world summariser disk text wantSummary := by
  cases blank : text.isBlank with
  | true =>
      refine analyse_missing summariser wantSummary fun other same => ?_
      cases same
      exact blank
  | false => exact analyse_inked summariser wantSummary blank

namespace CommandLine

/-- The inputs that are not valid. -/
inductive InvalidInput [Host] (settings : Settings) (world : World) (disk : Disk) :
    Subject → Prop where
  | unreadableFile {path : String} {fault : Fault}
      (refused : disk.readPlainText path = .error fault)
      (system : fault.kind.belongsTo .system = true) : InvalidInput settings world disk (.file path)
  | blankFile {path text : String} (read : disk.readPlainText path = .ok text)
      (blank : Text.isBlankText text.toList = true) : InvalidInput settings world disk (.file path)
  | malformedAddress {address : String}
      (malformed : Explorer.isAddressText address.toList = false) :
      InvalidInput settings world disk (.contract address)
  | unavailableSource {address : String} {source : Option Wording}
      (fetched : ((Explorer.Client.ofSettings settings).fetchSource address
        world.responses).result = .ok source)
      (absent : source.getD "" = .plain "") : InvalidInput settings world disk (.contract address)
  | blankSource {address : String} {source : Wording}
      (fetched : ((Explorer.Client.ofSettings settings).fetchSource address
        world.responses).result = .ok (some source))
      (blank : source.isBlank = true) :
      InvalidInput settings world disk (.contract address)

section Validity

variable [Host] {settings : Settings} {world : World} {disk : Disk}

/-- A file that was read is invalid if it is blank. -/
theorem invalidInput_read {path text : String} (read : disk.readPlainText path = .ok text) :
    InvalidInput settings world disk (.file path) ↔ Text.isBlankText text.toList = true := by
  constructor
  · intro invalid
    cases invalid with
    | unreadableFile refused system => cases read.symm.trans refused
    | blankFile given blank =>
        cases read.symm.trans given
        exact blank
  · exact .blankFile read

/-- A file that the system refuses is invalid. -/
theorem invalidInput_refused {path : String} {fault : Fault}
    (refused : disk.readPlainText path = .error fault) :
    InvalidInput settings world disk (.file path) ↔ fault.kind.belongsTo .system = true := by
  constructor
  · intro invalid
    cases invalid with
    | unreadableFile other system =>
        cases refused.symm.trans other
        exact system
    | blankFile given blank => cases refused.symm.trans given
  · exact .unreadableFile refused

variable {address : String} (formed : Explorer.isAddressText address.toList = true)

include formed

/-- The source of a well-formed address is valid unless it is missing or blank. -/
theorem invalidInput_fetched {source : Option Wording}
    (fetched : ((Explorer.Client.ofSettings settings).fetchSource address
      world.responses).result = .ok source) :
    InvalidInput settings world disk (.contract address) ↔
      source.getD "" = .plain "" ∨ ∃ text, source = some text ∧ text.isBlank = true := by
  constructor
  · intro invalid
    cases invalid with
    | malformedAddress malformed => cases formed.symm.trans malformed
    | unavailableSource given absent =>
        cases fetched.symm.trans given
        exact .inl absent
    | blankSource given blank =>
        cases fetched.symm.trans given
        exact .inr ⟨_, rfl, blank⟩
  · rintro (absent | ⟨text, rfl, blank⟩)
    · exact .unavailableSource fetched absent
    · exact .blankSource fetched blank

/-- An address whose lookup fails is valid. -/
theorem validInput_unfetched {fault : Fault}
    (failed : ((Explorer.Client.ofSettings settings).fetchSource address
      world.responses).result = .error fault) :
    ¬ InvalidInput settings world disk (.contract address) := by
  intro invalid
  cases invalid with
  | malformedAddress malformed => cases formed.symm.trans malformed
  | unavailableSource given absent => cases failed.symm.trans given
  | blankSource given blank => cases failed.symm.trans given

end Validity

section Reading

variable {disk : Disk} {path : String}

/-- A file that can be read is the source. -/
theorem readSource_read {text : String} (read : disk.readPlainText path = .ok text) :
    readSource disk path = .ok text := by
  unfold readSource
  rw [read]

/-- A file that the system refuses is rejected. -/
theorem readSource_refused {fault : Fault} (refused : disk.readPlainText path = .error fault)
    (system : fault.kind.belongsTo .system = true) :
    readSource disk path = .error (.rejected ("Cannot read source file: " ++ fault.message)
      (some "path") (.text path)) := by
  unfold readSource
  rw [refused]
  exact if_pos system

/-- Other failures are passed on. -/
theorem readSource_failed {fault : Fault} (failed : disk.readPlainText path = .error fault)
    (other : fault.kind.belongsTo .system = false) : readSource disk path = .error fault := by
  unfold readSource
  rw [failed]
  exact if_neg (by simp [other])

end Reading

/-- Invalid inputs are rejected, and nothing else is raised but trouble and faults from
outside. -/
def RejectsExactly (invalid : Prop) (outcomes : List Explorer.HttpOutcome)
    (result : Except Fault Record) : Prop :=
  (invalid ∧ ∃ reason field, ∃ text : String,
      result = .error (.rejected reason field (.text text))) ∨
    (¬ invalid ∧ FailsOnly (Explorer.IsPassedOn outcomes) result)

section Subjects

variable [Host] (settings : Settings) (world : World) (summariser : Option Summariser)
  (disk : Disk) (wantSummary : Bool)

/-- A text is rejected exactly when it is blank. -/
theorem rejectsExactly_text {invalid : Prop} {text : Wording}
    (judged : invalid ↔ text.isBlank = true) :
    RejectsExactly invalid world.responses
      (analyse settings world summariser disk (.text text) wantSummary).result := by
  rw [analyse_text]
  cases blank : text.isBlank with
  | true =>
      cases text with
      | plain text => exact .inl ⟨judged.mpr blank, _, _, text, rfl⟩
      | broken text => cases blank
  | false =>
      have analysed := troubleOnly_analyseText settings world summariser disk text wantSummary
      refine .inr ⟨?_, analysed.mono fun _ trouble => .inl trouble⟩
      rw [judged, blank]
      exact Bool.false_ne_true

/-- A file is rejected exactly when it is invalid. -/
theorem rejectsExactly_file (path : String) :
    RejectsExactly (InvalidInput settings world disk (.file path)) world.responses
      (match readSource disk path with
        | .error fault => { disk := disk, result := .error fault : AnalysisRun }
        | .ok source =>
            analyse settings world summariser disk (.text source) wantSummary).result := by
  cases read : disk.readPlainText path with
  | ok text =>
      rw [readSource_read read]
      exact rejectsExactly_text settings world summariser disk wantSummary (invalidInput_read read)
  | error fault =>
      rw [invalidInput_refused read]
      cases system : fault.kind.belongsTo .system with
      | true =>
          rw [readSource_refused read system]
          exact .inl ⟨rfl, _, _, _, rfl⟩
      | false =>
          rw [readSource_failed read system]
          have trouble := Files.troubleOnly_readPlainText disk path fault read
          exact .inr ⟨Bool.false_ne_true, failsOnly_error (.inl trouble)⟩

/-- An address is rejected exactly when it is invalid. -/
theorem rejectsExactly_contract (address : String) :
    RejectsExactly (InvalidInput settings world disk (.contract address)) world.responses
      (analyseAddress settings world summariser (Explorer.Client.ofSettings settings) disk
        (.text address) wantSummary).result := by
  unfold analyseAddress
  rw [validAddress_text]
  cases formed : Explorer.isAddressText address.toList with
  | false => exact .inl ⟨.malformedAddress formed, _, _, _, rfl⟩
  | true =>
      have raised := Explorer.failsOnly_fetchSource (Explorer.Client.ofSettings settings) address
        world.responses
      simp only [if_true]
      cases fetched : ((Explorer.Client.ofSettings settings).fetchSource address
        world.responses).result with
      | error fault =>
          exact .inr ⟨validInput_unfetched formed fetched, failsOnly_error (raised fault fetched)⟩
      | ok source =>
          have judged : InvalidInput settings world disk (.contract address) ↔ _ :=
            invalidInput_fetched formed fetched
          simp only
          split
          · next absent =>
            exact .inl ⟨judged.mpr (.inl (by simpa using absent)), _, _, _, rfl⟩
          · next present =>
            cases source with
            | none => exact absurd rfl present
            | some text =>
                have nonempty : text ≠ .plain "" := by simpa using present
                refine rejectsExactly_text settings world summariser disk wantSummary ?_
                simpa [nonempty] using judged

end Subjects

/-- Whatever is analysed is rejected exactly when it is invalid. -/
theorem analyseSubject_rejectsExactly [Host] (settings : Settings) (world : World) (disk : Disk)
    (invocation : Invocation) :
    RejectsExactly (InvalidInput settings world disk invocation.subject) world.responses
      (analyseSubject settings world disk invocation).result := by
  unfold analyseSubject
  cases invocation.subject with
  | file path => exact rejectsExactly_file settings world _ disk invocation.summary path
  | contract address => exact rejectsExactly_contract settings world _ disk _ address

/-- Invalid inputs are rejected. -/
theorem analyseSubject_rejected [Host] {settings : Settings} {world : World} {disk : Disk}
    {invocation : Invocation} (invalid : InvalidInput settings world disk invocation.subject) :
    ∃ reason field, ∃ text : String, (analyseSubject settings world disk invocation).result =
      .error (.rejected reason field (.text text)) := by
  rcases analyseSubject_rejectsExactly settings world disk invocation with
    ⟨-, rejected⟩ | ⟨valid, -⟩
  · exact rejected
  · exact absurd invalid valid

/-- No analysis leaves another file behind or changes one. -/
theorem analyseSubject_files [Host] (settings : Settings) (world : World) {disk : Disk}
    (tree : disk.IsTree) (invocation : Invocation) :
    disk.SameFiles [] (analyseSubject settings world disk invocation).disk := by
  unfold analyseSubject
  split
  · split
    · exact Disk.sameFiles_self _ _
    · exact analyse_files settings world _ _ tree _
  · unfold analyseAddress
    split
    · exact Disk.sameFiles_self _ _
    · simp only
      split
      · exact Disk.sameFiles_self _ _
      · split
        · exact Disk.sameFiles_self _ _
        · exact analyse_files settings world _ _ tree _

end CommandLine

end SolidityAudit
