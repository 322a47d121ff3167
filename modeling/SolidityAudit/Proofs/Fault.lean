import SolidityAudit.Fault
import SolidityAudit.Proofs.Json.RoundTrip
import SolidityAudit.Proofs.Outcome

namespace SolidityAudit

open Json (Value)

/-- A fault that neither rejects an input nor is an error with details of its own. -/
def Fault.isTrouble (fault : Fault) : Bool :=
  match fault.kind with
  | .validation | .audit | .explorer => false
  | _ => true

/-- All that is raised is trouble. -/
abbrev TroubleOnly {α : Type} (outcome : Except Fault α) : Prop :=
  FailsOnly (fun fault => fault.isTrouble = true) outcome

/-- Values of the wrong shape are trouble. -/
theorem isTrouble_shape (cause : Json.ShapeFault) : (Fault.shape cause).isTrouble = true := by
  cases cause with
  | unshown obstacle => cases obstacle <;> rfl
  | _ => rfl

/-- Refusals of the file system are trouble. -/
theorem isTrouble_refused (cause : SystemCause) (path : String) :
    (Fault.refused cause path).isTrouble = true := by
  cases cause <;> rfl

/-- Texts that cannot be read are trouble. -/
theorem isTrouble_ofReading (fault : Json.ReadFault) :
    (Fault.ofReading fault).isTrouble = true := by
  cases fault <;> rfl

/-- All that is said of shapes is trouble. -/
theorem troubleOnly_shape {α : Type} (outcome : Except Json.ShapeFault α) :
    TroubleOnly (outcome.mapError Fault.shape) :=
  failsOnly_mapError isTrouble_shape

/-- Trouble rejects no input. -/
theorem Fault.isTrouble_kind {fault : Fault} (trouble : fault.isTrouble = true) :
    fault.kind ≠ .validation := by
  intro rejected
  rw [isTrouble, rejected] at trouble
  cases trouble

/-- The object that reports a fault. -/
def Fault.report (fault : Fault) : Value := .object [("error", fault.payload)]

/-- The report of a fault can be written and read back. -/
def Fault.IsReportable [Host] (fault : Fault) : Prop :=
  fault.report.isPlain Host.openContainers = true ∧ fault.report.isWritable = true

/-- A preview of a plain text is plain. -/
theorem isPlain_preview (text : String) : (preview (.text text)).isPlain = true := by
  unfold preview
  simp only
  split
  · rfl
  · rfl

section Reports

variable [Host] {fault : Fault}

/-- Three containers inside each other are neither too many to read nor to write. -/
theorem Fault.isReportable_of
    (plain : ∀ room, fault.report.isPlain (room + 3) = true)
    (free : ∀ room, fault.report.obstacle? (room + 3) = none) :
    fault.IsReportable := by
  have read : 3 ≤ Host.openContainers := le_trans (by decide) Host.reportLevels_le
  obtain ⟨room, readable⟩ := Nat.exists_eq_add_of_le' read
  obtain ⟨space, writable⟩ := Nat.exists_eq_add_of_le' (read.trans Host.openContainers_le)
  refine ⟨?_, ?_⟩
  · rw [readable]
    exact plain room
  · rw [Value.isWritable, Value.refusal?, writable, free space]
    rfl

/-- The refusal of a plain text can be reported. -/
theorem isReportable_rejected (reason : String) (field : Option String) (text : String) :
    (Fault.rejected reason field (.text text)).IsReportable := by
  have shown := isPlain_preview text
  refine Fault.isReportable_of (fun room => ?_) (fun room => ?_)
  · cases field <;>
      simp [Fault.report, Fault.payload, Value.isPlain, Value.havePlain, Value.ofText?, shown]
  · cases field <;> rfl

/-- Trouble can be reported. -/
theorem Fault.isReportable_trouble (trouble : fault.isTrouble = true) : fault.IsReportable := by
  cases fault with
  | rejected reason field value => cases trouble
  | audit reason severity details => cases trouble
  | explorer reason severity details => cases trouble
  | resource reason cause =>
      refine isReportable_of (fun room => ?_) (fun room => ?_)
      · cases cause <;>
          simp [Fault.report, Fault.payload, Fault.details, Value.isPlain, Value.havePlain]
      · cases cause <;> rfl
  | _ =>
      refine isReportable_of (fun room => ?_) (fun _ => rfl)
      simp [Fault.report, Fault.payload, Value.isPlain, Value.havePlain,
        apply_ite Text.Wording.isPlain]

end Reports

end SolidityAudit
