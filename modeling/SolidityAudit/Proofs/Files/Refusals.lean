import SolidityAudit.Files.Scratch
import SolidityAudit.Proofs.Fault
import SolidityAudit.Proofs.Files.Directories

namespace SolidityAudit.Files

open Text (Symbol Wording)

section Disk

/-- A null character in a path is trouble. -/
theorem troubleOnly_checkedPath (path : String) : TroubleOnly (Disk.checkedPath path) := by
  unfold Disk.checkedPath
  split
  · exact failsOnly_error rfl
  · exact failsOnly_ok

/-- What the system refuses is trouble. -/
theorem troubleOnly_refusing {α : Type} (path : String) (outcome : Except SystemCause α) :
    TroubleOnly (Disk.refusing path outcome) :=
  failsOnly_mapError fun cause => isTrouble_refused cause path

variable (disk : Disk) (path : String)

/-- Reading a file raises trouble alone. -/
theorem troubleOnly_read : TroubleOnly (disk.read path) := by
  refine failsOnly_bind (troubleOnly_checkedPath path) fun _ => ?_
  refine failsOnly_bind (troubleOnly_refusing path _) fun location => ?_
  split
  · exact failsOnly_error (isTrouble_refused _ _)
  · exact failsOnly_error (isTrouble_refused _ _)
  · exact failsOnly_ok

/-- Bytes that are no text are trouble. -/
theorem troubleOnly_textOf (content : Content) : TroubleOnly (Disk.textOf content) := by
  cases content with
  | text value => exact failsOnly_ok
  | bytes value =>
      simp only [Disk.textOf]
      split
      · exact failsOnly_ok
      · exact failsOnly_error rfl

/-- Reading a text raises trouble alone. -/
theorem troubleOnly_readPlainText : TroubleOnly (disk.readPlainText path) :=
  failsOnly_bind (troubleOnly_read disk _) troubleOnly_textOf

/-- Writing a string raises trouble alone. -/
theorem troubleOnly_write (content : String) : TroubleOnly (disk.write path content) := by
  refine failsOnly_bind (troubleOnly_checkedPath path) fun _ => ?_
  exact failsOnly_bind (troubleOnly_refusing path _) fun location => failsOnly_ok

/-- Writing a text raises trouble alone, be it broken or not. -/
theorem troubleOnly_writeText (content : Wording) :
    TroubleOnly (disk.writeText path content).2 := by
  unfold Disk.writeText
  cases attempt : disk.write path (Disk.stored content).1 with
  | error fault => exact failsOnly_error (troubleOnly_write disk path _ fault attempt)
  | ok after =>
      cases content with
      | plain text => exact failsOnly_ok
      | broken text => exact failsOnly_error rfl

/-- Making a directory raises trouble alone. -/
theorem troubleOnly_makeDirectory : TroubleOnly (disk.makeDirectory path) := by
  refine failsOnly_bind (troubleOnly_checkedPath path) fun _ => ?_
  refine failsOnly_bind (troubleOnly_refusing path _) fun location => ?_
  split
  · exact failsOnly_error (isTrouble_refused _ _)
  · exact failsOnly_ok

/-- Asking for a directory raises trouble alone. -/
theorem troubleOnly_ensureDirectory (name : Wording) :
    TroubleOnly (disk.ensureDirectory name).2 := by
  cases name with
  | broken text => exact failsOnly_error rfl
  | plain path =>
      have made := troubleOnly_makeDirectory disk path
      simp only [Disk.ensureDirectory]
      cases attempt : disk.makeDirectory path with
      | ok created => exact failsOnly_ok
      | error fault =>
          simp only
          split
          · exact failsOnly_ok
          · exact failsOnly_error (made fault attempt)

/-- Making a directory with those above it raises trouble alone. -/
theorem troubleOnly_makeDirectoriesWithin [Host] (bound : Nat) (names : List Symbol) :
    TroubleOnly (Disk.makeDirectoriesWithin bound disk names).2 := by
  induction bound generalizing disk names with
  | zero => exact failsOnly_error rfl
  | succ bound ih =>
      rcases Disk.makeDirectoriesWithin_cases bound disk names with
        ⟨-, alone⟩ | ⟨-, middle, outcome, made, ⟨fault, rfl, -, passed⟩ | ⟨-, next⟩⟩
      · rw [alone]
        exact troubleOnly_ensureDirectory disk _
      · have above := ih disk (pathParts names).1
        rw [made] at above
        rw [passed]
        exact above
      · rw [next]
        split
        · exact failsOnly_ok
        · exact troubleOnly_ensureDirectory middle _

end Disk

section Scratch

/-- Trouble that is reported as trouble with a resource is trouble still. -/
theorem isTrouble_resourceFault {fault : Fault} (reason : String)
    (trouble : fault.isTrouble = true) : (resourceFault reason fault).isTrouble = true := by
  unfold resourceFault
  split
  · rfl
  · exact trouble

/-- Writing the copy raises trouble alone. -/
theorem troubleOnly_writeScratch (disk : Disk) (path : String) (source : Wording)
    (faults : ScratchFaults) : TroubleOnly (writeScratch disk path source faults).2 := by
  unfold writeScratch
  split
  · exact failsOnly_error rfl
  · exact troubleOnly_writeText disk path source

/-- Removing the directory raises trouble alone. -/
theorem troubleOnly_removeScratch (disk : Disk) (path : String) (faults : ScratchFaults) :
    TroubleOnly (removeScratch disk path faults).2 := by
  unfold removeScratch
  split
  · exact failsOnly_error (isTrouble_refused _ _)
  · simp only
    split
    · exact failsOnly_error rfl
    · exact failsOnly_ok

/-- Working on the copy raises trouble alone. -/
theorem troubleOnly_workInside {α : Type} (disk : Disk) (path : String) (source : Wording)
    (faults : ScratchFaults) (body : Disk → String → Disk × α) :
    TroubleOnly (workInside disk path source faults body).outcome := by
  have written := troubleOnly_writeScratch disk path source faults
  unfold workInside
  rcases attempt : writeScratch disk path source faults with ⟨after, outcome⟩
  rw [attempt] at written
  cases outcome with
  | error fault => exact failsOnly_error (isTrouble_resourceFault _ (written fault rfl))
  | ok value => exact failsOnly_ok

variable [Host] (disk : Disk) (place : Option Wording) (faults : ScratchFaults)

/-- Preparing the place raises trouble alone. -/
theorem troubleOnly_preparePlace : TroubleOnly (preparePlace disk place).2 := by
  unfold preparePlace
  split
  · exact failsOnly_ok
  · exact failsOnly_ok
  · exact troubleOnly_makeDirectoriesWithin _ _ _

/-- Creating the directory raises trouble alone. -/
theorem troubleOnly_createScratch : TroubleOnly (createScratch disk place faults).2 := by
  have prepared := troubleOnly_preparePlace disk place
  unfold createScratch
  rcases ended : preparePlace disk place with ⟨middle, outcome⟩
  rw [ended] at prepared
  cases outcome with
  | error fault => exact failsOnly_error (prepared fault rfl)
  | ok value =>
      cases faults.creation with
      | some text => exact failsOnly_error rfl
      | none =>
          have made := troubleOnly_makeDirectory middle (scratchPath middle place)
          simp only
          cases attempt : middle.makeDirectory (scratchPath middle place) with
          | error fault => exact failsOnly_error (made fault attempt)
          | ok after => exact failsOnly_ok

/-- Work in a scratch directory raises nothing but trouble, whatever the step that fails. -/
theorem troubleOnly_withScratch {α : Type} (source : Wording) (body : Disk → String → Disk × α) :
    TroubleOnly (withScratch disk source place faults body).outcome := by
  have made := troubleOnly_createScratch disk place faults
  unfold withScratch
  rcases created : createScratch disk place faults with ⟨middle, outcome⟩
  rw [created] at made
  cases outcome with
  | error fault => exact failsOnly_error (isTrouble_resourceFault _ (made fault rfl))
  | ok directory =>
      simp only
      generalize ((PlainPath.ofString directory).child contractFile).display = path
      have worked := troubleOnly_workInside middle path source faults body
      have removed := troubleOnly_removeScratch
        (workInside middle path source faults body).disk directory faults
      rcases ended : removeScratch (workInside middle path source faults body).disk directory
        faults with ⟨last, ending⟩
      rw [ended] at removed
      cases ending with
      | ok value => exact worked
      | error fault => exact failsOnly_error (isTrouble_resourceFault _ (removed fault rfl))

end Scratch

end SolidityAudit.Files
