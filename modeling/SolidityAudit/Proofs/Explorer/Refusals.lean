import SolidityAudit.Explorer.Lookup
import SolidityAudit.Proofs.Explorer.Attempts
import SolidityAudit.Proofs.Fault

namespace SolidityAudit.Explorer

open Json (Value)
open Text (Wording)

variable [Host]

/-- Sources that cannot be flattened are trouble. -/
theorem troubleOnly_flattenValue (source : Value) : TroubleOnly (flattenValue source) := by
  unfold flattenValue
  split
  · unfold flatten
    split
    · exact failsOnly_ok
    · split
      · exact failsOnly_ok
      · exact failsOnly_error (isTrouble_ofReading _)
      · split
        · exact failsOnly_ok
        · exact troubleOnly_shape _
  · exact failsOnly_error (isTrouble_shape _)

/-- Contracts that give no source are trouble. -/
theorem troubleOnly_verifiedSource (contract : Value) :
    TroubleOnly (verifiedSource contract).1 := by
  unfold verifiedSource
  split
  · exact failsOnly_ok
  · split
    · exact failsOnly_error (isTrouble_shape _)
    · split
      · exact failsOnly_ok
      · exact failsOnly_map (troubleOnly_flattenValue _)

/-- A fault that a lookup passes on is trouble or comes from outside. -/
def IsPassedOn (outcomes : List HttpOutcome) (fault : Fault) : Prop :=
  fault.isTrouble = true ∨ HttpOutcome.failed fault ∈ outcomes

/-- The explorer's own faults are settled in a lookup, and all others are passed on. -/
def IsRaised (outcomes : List HttpOutcome) (fault : Fault) : Prop :=
  fault.kind.belongsTo .explorer = true ∨ IsPassedOn outcomes fault

omit [Host] in
/-- Numbers that are unfit are trouble. -/
theorem isTrouble_unfit {fault : Fault} (kind : fault.kind ∈ [.outOfRange, .badValue]) :
    fault.isTrouble = true := by
  simp only [List.mem_cons, List.not_mem_nil, or_false] at kind
  rcases kind with kind | kind <;> simp [Fault.isTrouble, kind]

/-- Attempts fail with faults of the explorer, of numbers and of the outside. -/
theorem failsOnly_attemptFrom (client : Client) (request : Request) (remaining attempt : Nat)
    (outcomes : List HttpOutcome) :
    FailsOnly (IsRaised outcomes)
      (client.attemptFrom request remaining attempt outcomes).result := by
  induction remaining generalizing attempt outcomes with
  | zero => exact failsOnly_error (.inl rfl)
  | succ remaining ih =>
      have origin (fault : Fault) := @nextOutcome_error outcomes client.url fault
      have later := nextOutcome_subset outcomes
      rcases next : nextOutcome outcomes with ⟨outcome, rest⟩
      rw [next] at origin later
      simp only [Client.attemptFrom, next]
      cases refused : outcome.body client.url with
      | ok body => exact failsOnly_ok
      | error fault =>
          simp only
          split
          · next other =>
            rcases origin fault refused with listed | failed
            · exact failsOnly_error (.inr (.inr listed))
            · simp [failed] at other
          · split
            · exact failsOnly_error (.inl rfl)
            · cases measured : client.delayAfter attempt with
              | error overlong =>
                  have unfit := Client.failsOnly_delayAfter overlong measured
                  exact failsOnly_error (.inr (.inl (isTrouble_unfit unfit)))
              | ok delay =>
                  simp only
                  cases paused : pauseFault? delay with
                  | some endless =>
                      have unfit := pauseFault?_kind paused
                      exact failsOnly_error (.inr (.inl (isTrouble_unfit unfit)))
                  | none =>
                      refine (ih (attempt + 1) rest).mono fun fault raised => ?_
                      exact raised.imp_right fun passed =>
                        passed.imp_right fun listed => later listed

/-- Answers fail with faults of the explorer or are nested too deep. -/
theorem failsOnly_decodeAnswer (outcomes : List HttpOutcome) (body : String) :
    FailsOnly (IsRaised outcomes) (decodeAnswer body) := by
  unfold decodeAnswer
  split
  · exact failsOnly_error (.inr (.inl rfl))
  · exact failsOnly_error (.inl rfl)
  · exact failsOnly_ok
  · exact failsOnly_error (.inl rfl)

/-- A lookup of a source settles the faults of the explorer. -/
theorem failsOnly_fetchSource (client : Client) (address : Wording) (outcomes : List HttpOutcome) :
    FailsOnly (IsPassedOn outcomes) (client.fetchSource address outcomes).result := by
  have requested : FailsOnly (IsRaised outcomes) (client.request
      (contractQuery "contract" "getsourcecode" address) outcomes).result :=
    failsOnly_bind (failsOnly_attemptFrom _ _ _ _ _) (failsOnly_decodeAnswer outcomes)
  unfold Client.fetchSource settled
  simp only
  split
  · next fault failed =>
    split
    · exact failsOnly_ok
    · next unsettled =>
      rcases requested fault failed with own | passed
      · exact absurd own unsettled
      · exact failsOnly_error passed
  · next answer _ =>
    exact (troubleOnly_verifiedSource (firstResult answer)).mono fun _ trouble => .inl trouble

end SolidityAudit.Explorer
