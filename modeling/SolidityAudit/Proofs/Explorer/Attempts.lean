import SolidityAudit.Explorer.Exchange
import SolidityAudit.Proofs.Json.Shapes
import SolidityAudit.Proofs.Json.Showable
import SolidityAudit.Proofs.Number.Doubling

namespace SolidityAudit

namespace Quantity

/-- The number that an amount stands for, if it stands for one. -/
def value? : Quantity → Option ℚ
  | .whole value => some value
  | .fractional number => number.value?

/-- The host waits for so many seconds: they are not negative and stay below its limit. -/
def IsWaitable [Host] (delay : Quantity) : Prop :=
  ∀ limit, Host.longestPause = some limit →
    ∃ seconds, delay.value? = some seconds ∧ 0 ≤ seconds ∧ seconds * 10 ^ 9 < limit

section Numbers

variable {delay : Quantity} {seconds : ℚ} (value : delay.value? = some seconds)

include value

/-- Nanoseconds are counted without rounding. -/
theorem reaches_iff (limit : Nat) :
    delay.reaches limit = true ↔ (limit : ℚ) ≤ |seconds| * 10 ^ 9 := by
  rcases delay with number | ⟨negative, mantissa, exponent⟩ | negative | _
  · cases value
    have size : ((number.natAbs * Nat.pow 10 9 : Nat) : ℚ) = |(number : ℚ)| * 10 ^ 9 := by
      rw [Nat.cast_mul, Nat.cast_natAbs, Int.cast_abs]
      norm_num
    rw [reaches, decide_eq_true_eq, ← size, Nat.cast_le]
  · cases value
    obtain ⟨positive, scaled⟩ :=
      Binary64.isScaled_product (mantissa * Nat.pow 10 9) exponent
    have size : |(if negative then -1 else 1 : ℚ) * (mantissa * 2 ^ exponent)| =
        mantissa * 2 ^ exponent := by
      rw [abs_mul, abs_of_nonneg (by positivity : (0 : ℚ) ≤ mantissa * 2 ^ exponent)]
      cases negative <;> simp
    rw [size]
    change decide (limit * (Binary64.product _ exponent).2 ≤ (Binary64.product _ exponent).1) =
      true ↔ _
    rw [decide_eq_true_eq, ← Nat.cast_le (α := ℚ), scaled, Nat.cast_mul,
      mul_le_mul_iff_left₀ (by exact_mod_cast positive)]
    push_cast [Nat.pow_eq]
    rw [mul_right_comm]
    norm_num
  · cases value
  · cases value

/-- The sign of an amount is that of its number. -/
theorem isNegative_iff : delay.isNegative = true ↔ seconds < 0 := by
  rcases delay with number | ⟨negative, mantissa, exponent⟩ | negative | _
  · cases value
    simp [isNegative]
  · cases value
    have scale : (0 : ℚ) < 2 ^ exponent := by positivity
    cases negative with
    | false =>
        refine iff_of_false (by simp [isNegative]) ?_
        simp only [Bool.false_eq_true, if_false, one_mul, not_lt]
        positivity
    | true =>
        simp only [isNegative, Bool.true_and, bne_iff_ne, if_true, neg_mul, one_mul,
          Left.neg_neg_iff, mul_pos_iff_of_pos_right scale, Nat.cast_pos, Nat.pos_iff_ne_zero]
  · cases value
  · cases value

end Numbers

end Quantity

end SolidityAudit

namespace SolidityAudit.Explorer

/-- A host refuses exactly the pauses that it does not wait for. -/
theorem pauseFault?_none [Host] {delay : Quantity} :
    pauseFault? delay = none ↔ delay.IsWaitable := by
  unfold pauseFault? Quantity.IsWaitable
  cases Host.longestPause with
  | none => simp
  | some limit =>
      simp only [Option.some.injEq, forall_eq']
      cases value : delay.value? with
      | none =>
          refine iff_of_false ?_ (by simp)
          rcases delay with number | ⟨negative, mantissa, exponent⟩ | negative | _
          · cases value
          · cases value
          · simp [Quantity.reaches]
          · simp
      | some seconds =>
          have number : delay ≠ .fractional .notANumber := by
            rintro rfl
            cases value
          have reaches := Quantity.reaches_iff value limit
          have negative := Quantity.isNegative_iff value
          rw [if_neg number]
          simp only [Option.some.injEq, exists_eq_left']
          by_cases long : delay.reaches limit = true
          · rw [if_pos long]
            refine iff_of_false (by simp) ?_
            rintro ⟨below, short⟩
            have past := reaches.mp long
            rw [abs_of_nonneg below] at past
            exact absurd short (not_lt.mpr past)
          · rw [if_neg long]
            by_cases under : delay.isNegative = true
            · rw [if_pos under]
              refine iff_of_false (by simp) fun within => ?_
              exact absurd (negative.mp under) (not_lt.mpr within.1)
            · rw [if_neg under]
              have above : 0 ≤ seconds := not_lt.mp (negative.not.mp under)
              have short := not_le.mp (reaches.not.mp long)
              rw [abs_of_nonneg above] at short
              exact iff_of_true rfl ⟨above, short⟩

/-- What a request meets when nothing is scripted. -/
def unscripted : HttpOutcome := .failed (.plain .connection "no response scripted")

/-- The outcome of a request by its place in the script, whose last outcome is repeated. -/
def outcomeAt (outcomes : List HttpOutcome) (index : Nat) : HttpOutcome :=
  outcomes.getD (min index (outcomes.length - 1)) unscripted

/-- The next outcome is the first of the script. -/
theorem nextOutcome_first (outcomes : List HttpOutcome) :
    (nextOutcome outcomes).1 = outcomeAt outcomes 0 := by
  match outcomes with
  | [] => rfl
  | [outcome] => rfl
  | outcome :: other :: rest => rfl

/-- Later outcomes move up by one. -/
theorem outcomeAt_next (outcomes : List HttpOutcome) (index : Nat) :
    outcomeAt (nextOutcome outcomes).2 index = outcomeAt outcomes (index + 1) := by
  match outcomes with
  | [] => simp [nextOutcome, outcomeAt]
  | [outcome] => simp [nextOutcome, outcomeAt]
  | outcome :: other :: rest =>
      have place : min (index + 1) (rest.length + 1) = min index rest.length + 1 := by omega
      simp only [nextOutcome, outcomeAt, List.length_cons, Nat.add_sub_cancel, place,
        List.getD_cons_succ]

/-- What is left of a script is part of it. -/
theorem nextOutcome_subset (outcomes : List HttpOutcome) :
    (nextOutcome outcomes).2 ⊆ outcomes := by
  intro outcome listed
  match outcomes with
  | [] => exact listed
  | [_] => exact listed
  | first :: other :: rest => exact List.mem_cons_of_mem first listed

/-- The next outcome stands in the script, unless there is none. -/
theorem nextOutcome_origin (outcomes : List HttpOutcome) :
    (nextOutcome outcomes).1 ∈ outcomes ∨ (nextOutcome outcomes).1 = unscripted := by
  match outcomes with
  | [] => exact .inr rfl
  | [outcome] => exact .inl List.mem_cons_self
  | outcome :: other :: rest => exact .inl List.mem_cons_self

/-- A request fails by itself or is refused by its status. -/
theorem HttpOutcome.body_error {outcome : HttpOutcome} {url : String} {fault : Fault}
    (refused : outcome.body url = .error fault) :
    outcome = .failed fault ∨ fault.kind.belongsTo .request = true := by
  cases outcome with
  | failed cause =>
      cases refused
      exact .inl rfl
  | answered status reason body =>
      simp only [HttpOutcome.body] at refused
      split at refused
      · cases refused
        exact .inr rfl
      · split at refused
        · cases refused
          exact .inr rfl
        · cases refused

/-- A fault that is no failure of a request stands in the script. -/
theorem nextOutcome_error {outcomes : List HttpOutcome} {url : String} {fault : Fault}
    (refused : (nextOutcome outcomes).1.body url = .error fault) :
    HttpOutcome.failed fault ∈ outcomes ∨ fault.kind.belongsTo .request = true := by
  rcases HttpOutcome.body_error refused with failed | request
  · rcases nextOutcome_origin outcomes with listed | absent
    · rw [failed] at listed
      exact .inl listed
    · cases failed.symm.trans absent
      exact .inr (by decide)
  · exact .inr request

/-- All failures in the script are failures of requests. -/
def RequestsOnly (outcomes : List HttpOutcome) : Prop :=
  ∀ fault, HttpOutcome.failed fault ∈ outcomes → fault.kind.belongsTo .request = true

/-- What is left of such a script is one. -/
theorem RequestsOnly.next {outcomes : List HttpOutcome} (expected : RequestsOnly outcomes) :
    RequestsOnly (nextOutcome outcomes).2 :=
  fun fault listed => expected fault (nextOutcome_subset outcomes listed)

/-- The next failure of such a script is one of a request. -/
theorem RequestsOnly.first {outcomes : List HttpOutcome} (expected : RequestsOnly outcomes)
    {url : String} {fault : Fault} (refused : (nextOutcome outcomes).1.body url = .error fault) :
    fault.kind.belongsTo .request = true :=
  (nextOutcome_error refused).elim (expected fault) id

/-- The faults that a lookup passes on to its caller. -/
def IsUnsettled (fault : Fault) : Prop := fault.kind.belongsTo .explorer = false

/-- The faults of the explorer are not passed on. -/
theorem not_isUnsettled_explorerFault (reason : String) : ¬ IsUnsettled (explorerFault reason) := by
  simp [IsUnsettled, explorerFault, Fault.kind, FaultKind.belongsTo]

section Pauses

variable [Host] {client : Client} {attempt : Nat}

/-- The pause after an attempt, where it can be measured, written and waited for. -/
def Client.pauseAfter (client : Client) (attempt : Nat) : Except Fault Quantity := do
  let delay ← client.delayAfter attempt
  match pauseFault? delay with
  | some fault => .error fault
  | none => return delay

/-- The delay after the attempt cannot be computed, written or waited for. -/
def Client.LacksPause (client : Client) (attempt : Nat) : Prop :=
  match client.baseDelay with
  | .fractional number =>
      1024 ≤ attempt ∨ ¬ (Quantity.fractional (number.timesPowerOfTwo attempt)).IsWaitable
  | .whole value =>
      (∃ limit, Host.figureLimit = some limit ∧ limit < figureCount (value * 2 ^ attempt)) ∨
        ¬ (Quantity.whole (value * 2 ^ attempt)).IsWaitable

/-- Pauses are the measured delays that are waited for. -/
theorem Client.pauseAfter_eq_ok {delay : Quantity} :
    client.pauseAfter attempt = .ok delay ↔
      client.delayAfter attempt = .ok delay ∧ delay.IsWaitable := by
  rw [pauseAfter, bind_eq_ok]
  constructor
  · rintro ⟨measured, given, waited⟩
    cases refused : pauseFault? measured with
    | none =>
        rw [refused] at waited
        cases waited
        exact ⟨given, pauseFault?_none.mp refused⟩
    | some fault =>
        rw [refused] at waited
        cases waited
  · rintro ⟨given, waitable⟩
    exact ⟨delay, given, by rw [pauseFault?_none.mpr waitable]; rfl⟩

/-- A pause fails exactly where there is none. -/
theorem Client.pauseAfter_fails :
    Fails (client.pauseAfter attempt) ↔ client.LacksPause attempt := by
  have waited {delay : Quantity} (measured : client.delayAfter attempt = .ok delay) :
      Fails (client.pauseAfter attempt) ↔ ¬ delay.IsWaitable := by
    rw [← not_iff_not, ← returns_iff, not_not]
    simp [Returns, pauseAfter_eq_ok, measured]
  have failed {fault : Fault} (unmeasured : client.delayAfter attempt = .error fault) :
      Fails (client.pauseAfter attempt) := by
    rw [pauseAfter, unmeasured]
    exact fails_error fault
  unfold LacksPause
  cases base : client.baseDelay with
  | fractional number =>
      by_cases early : attempt < 1024
      · have measured : client.delayAfter attempt =
            .ok (.fractional (number.timesPowerOfTwo attempt)) := by
          simp only [delayAfter, base, Quantity.timesPowerOfTwo?, early, if_true,
            Quantity.unwritable?]
        simp only [waited measured, Nat.not_le.mpr early, false_or]
      · have unmeasured : client.delayAfter attempt =
            .error (.plain .outOfRange "int too large to convert to float") := by
          simp only [delayAfter, base, Quantity.timesPowerOfTwo?, early, if_false]
        exact iff_of_true (failed unmeasured) (.inl (Nat.not_lt.mp early))
  | whole value =>
      have product : client.baseDelay.timesPowerOfTwo? attempt =
          some (.whole (value * 2 ^ attempt)) := by
        rw [base]
        rfl
      cases exceeded : exceededLimit? (figureCount (value * 2 ^ attempt)) with
      | none =>
          have measured : client.delayAfter attempt = .ok (.whole (value * 2 ^ attempt)) := by
            simp only [delayAfter, product, Quantity.unwritable?, exceeded]
          have fits : ¬ ∃ limit, Host.figureLimit = some limit ∧
              limit < figureCount (value * 2 ^ attempt) := by
            rintro ⟨limit, given, beyond⟩
            exact absurd (exceededLimit?_eq_none.mp exceeded limit given) (Nat.not_le.mpr beyond)
          simp only [waited measured, fits, false_or]
      | some limit =>
          have unmeasured : client.delayAfter attempt =
              .error (.ofObstacle (.oversized limit)) := by
            simp only [delayAfter, product, Quantity.unwritable?, exceeded]
          exact iff_of_true (failed unmeasured) (.inl ⟨limit, exceededLimit?_eq_some.mp exceeded⟩)

/-- A pause is given exactly where one can follow. -/
theorem Client.pauseAfter_returns :
    (∃ delay, client.pauseAfter attempt = .ok delay) ↔ ¬ client.LacksPause attempt :=
  returns_iff.trans (not_congr pauseAfter_fails)

/-- Delays fail for their range or their figures. -/
theorem Client.failsOnly_delayAfter :
    FailsOnly (fun fault => fault.kind ∈ [.outOfRange, .badValue]) (client.delayAfter attempt) := by
  unfold delayAfter
  cases client.baseDelay.timesPowerOfTwo? attempt with
  | none => exact failsOnly_error (by simp [Fault.kind])
  | some delay =>
      simp only
      cases delay.unwritable? with
      | some limit => exact failsOnly_error (by simp [Fault.ofObstacle, Fault.kind, shapeKind])
      | none => exact failsOnly_ok

/-- Refused pauses have the kinds of unfit numbers. -/
theorem pauseFault?_kind {delay : Quantity} {fault : Fault}
    (refused : pauseFault? delay = some fault) : fault.kind ∈ [.outOfRange, .badValue] := by
  unfold pauseFault? at refused
  split at refused
  · cases refused
  · split_ifs at refused with undefined long negative
    · cases refused
      simp [Fault.kind]
    · cases refused
      cases delay <;> simp [endlessPause, Fault.kind]
    · cases refused
      simp [Fault.kind]

/-- Pauses fail as numbers that are unfit. -/
theorem Client.failsOnly_pauseAfter :
    FailsOnly (fun fault => fault.kind ∈ [.outOfRange, .badValue]) (client.pauseAfter attempt) := by
  refine failsOnly_bind failsOnly_delayAfter fun delay => ?_
  cases refused : pauseFault? delay with
  | none => exact failsOnly_ok
  | some fault => exact failsOnly_error (pauseFault?_kind refused)

/-- All faults of pauses are passed on. -/
theorem Client.pauseAfter_unsettled :
    FailsAmong IsUnsettled (client.pauseAfter attempt) ↔ client.LacksPause attempt := by
  rw [← pauseAfter_fails]
  constructor
  · rintro ⟨fault, failed, -⟩
    exact ⟨fault, failed, trivial⟩
  · rintro ⟨fault, failed, -⟩
    refine ⟨fault, failed, ?_⟩
    have kind := failsOnly_pauseAfter fault failed
    simp only [List.mem_cons, List.not_mem_nil, or_false] at kind
    rcases kind with kind | kind <;>
      simp [IsUnsettled, kind, FaultKind.belongsTo, FaultKind.ancestors]

end Pauses

section Attempts

variable [Host] (client : Client)

/-- The outcome at this place is no answer. -/
def Client.IsRefused (outcomes : List HttpOutcome) (index : Nat) : Prop :=
  Fails ((outcomeAt outcomes index).body client.url)

/-- The attempts before this place are refused, and a pause follows each. The first of them is
counted as given. -/
def Client.Reaches (start : Nat) (outcomes : List HttpOutcome) (index : Nat) : Prop :=
  ∀ earlier < index, client.IsRefused outcomes earlier ∧
    ¬ client.LacksPause (start + earlier)

/-- One of so many attempts is answered with the text. -/
def Client.ReceivesWithin (count start : Nat) (outcomes : List HttpOutcome) (body : String) :
    Prop :=
  ∃ index < count, client.Reaches start outcomes index ∧
    (outcomeAt outcomes index).body client.url = .ok body

/-- One of so many attempts is refused, is not the last and has no pause after it. -/
def Client.OverwaitsWithin (count start : Nat) (outcomes : List HttpOutcome) : Prop :=
  ∃ index, index + 1 < count ∧ client.Reaches start outcomes index ∧
    client.IsRefused outcomes index ∧ client.LacksPause (start + index)

variable {client}

omit [Host] in
/-- Later refusals move up by one. -/
theorem Client.isRefused_next {outcomes : List HttpOutcome} {index : Nat} :
    client.IsRefused (nextOutcome outcomes).2 index ↔ client.IsRefused outcomes (index + 1) := by
  rw [IsRefused, outcomeAt_next, IsRefused]

/-- The first attempt is always made. -/
theorem Client.reaches_zero {start : Nat} {outcomes : List HttpOutcome} :
    client.Reaches start outcomes 0 := by
  intro earlier before
  omega

/-- A later attempt is made after the first one and its pause. -/
theorem Client.reaches_succ {start index : Nat} {outcomes : List HttpOutcome} :
    client.Reaches start outcomes (index + 1) ↔
      (client.IsRefused outcomes 0 ∧ ¬ client.LacksPause start) ∧
        client.Reaches (start + 1) (nextOutcome outcomes).2 index := by
  constructor
  · intro reached
    refine ⟨reached 0 (by omega), ?_⟩
    intro earlier before
    rw [isRefused_next, show start + 1 + earlier = start + (earlier + 1) by omega]
    exact reached (earlier + 1) (by omega)
  · rintro ⟨first, reached⟩ earlier before
    cases earlier with
    | zero => exact first
    | succ earlier =>
        have later := reached earlier (by omega)
        rwa [isRefused_next, show start + 1 + earlier = start + (earlier + 1) by omega] at later

/-- The answer comes at once or after the first pause. -/
theorem Client.receivesWithin_succ {count start : Nat} {outcomes : List HttpOutcome}
    {body : String} :
    client.ReceivesWithin (count + 1) start outcomes body ↔
      (outcomeAt outcomes 0).body client.url = .ok body ∨
        (client.IsRefused outcomes 0 ∧ ¬ client.LacksPause start) ∧
          client.ReceivesWithin count (start + 1) (nextOutcome outcomes).2 body := by
  constructor
  · rintro ⟨index, within, reached, answered⟩
    cases index with
    | zero => exact .inl answered
    | succ index =>
        obtain ⟨first, later⟩ := reaches_succ.mp reached
        rw [← outcomeAt_next] at answered
        exact .inr ⟨first, index, by omega, later, answered⟩
  · rintro (answered | ⟨first, index, within, later, answered⟩)
    · exact ⟨0, by omega, reaches_zero, answered⟩
    · rw [outcomeAt_next] at answered
      exact ⟨index + 1, by omega, reaches_succ.mpr ⟨first, later⟩, answered⟩

/-- A pause is lacking at once or after the first one. -/
theorem Client.overwaitsWithin_succ {count start : Nat} {outcomes : List HttpOutcome} :
    client.OverwaitsWithin (count + 1) start outcomes ↔
      0 < count ∧ client.IsRefused outcomes 0 ∧
        (client.LacksPause start ∨ ¬ client.LacksPause start ∧
          client.OverwaitsWithin count (start + 1) (nextOutcome outcomes).2) := by
  constructor
  · rintro ⟨index, within, reached, refused, delayed⟩
    cases index with
    | zero => exact ⟨by omega, refused, .inl delayed⟩
    | succ index =>
        obtain ⟨⟨first, waited⟩, later⟩ := reaches_succ.mp reached
        rw [← isRefused_next] at refused
        rw [show start + (index + 1) = start + 1 + index by omega] at delayed
        exact ⟨by omega, first, .inr ⟨waited, index, by omega, later, refused, delayed⟩⟩
  · rintro ⟨more, first, delayed | ⟨waited, index, within, later, refused, delayed⟩⟩
    · exact ⟨0, by omega, reaches_zero, first, delayed⟩
    · rw [isRefused_next] at refused
      rw [show start + 1 + index = start + (index + 1) by omega] at delayed
      exact ⟨index + 1, by omega, reaches_succ.mpr ⟨⟨first, waited⟩, later⟩, refused, delayed⟩

/-- An answer ends the attempts. -/
theorem Client.attemptFrom_answered (request : Request) {remaining start : Nat}
    {outcomes : List HttpOutcome} {body : String}
    (answered : (outcomeAt outcomes 0).body client.url = .ok body) :
    (client.attemptFrom request (remaining + 1) start outcomes).result = .ok body := by
  rw [← nextOutcome_first] at answered
  simp only [attemptFrom, answered]

/-- After a refusal comes a pause and the next attempt, unless this attempt was the last. -/
theorem Client.attemptFrom_refused (request : Request) (remaining start : Nat)
    {outcomes : List HttpOutcome} (expected : RequestsOnly outcomes)
    (refused : client.IsRefused outcomes 0) :
    ∃ reason, (client.attemptFrom request (remaining + 1) start outcomes).result =
      if remaining = 0 then .error (explorerFault reason)
      else client.pauseAfter start >>= fun _ =>
        (client.attemptFrom request remaining (start + 1) (nextOutcome outcomes).2).result := by
  obtain ⟨fault, failed, -⟩ := refused
  rw [← nextOutcome_first] at failed
  have repeatable := expected.first failed
  by_cases last : remaining = 0
  · subst last
    simp only [attemptFrom, failed, repeatable, if_true]
    exact ⟨_, rfl⟩
  · refine ⟨"", ?_⟩
    cases delayed : client.delayAfter start with
    | error overlong => simp [attemptFrom, pauseAfter, failed, repeatable, last, delayed, bind,
        Except.bind]
    | ok delay =>
        cases paused : pauseFault? delay <;>
          simp [attemptFrom, pauseAfter, failed, repeatable, last, delayed, paused, bind,
            Except.bind, pure, Except.pure]

omit [Host] in
/-- An attempt is answered or refused. -/
theorem Client.answered_or_refused (outcomes : List HttpOutcome) (index : Nat) :
    (∃ body, (outcomeAt outcomes index).body client.url = .ok body) ∨
      client.IsRefused outcomes index := by
  by_cases refused : client.IsRefused outcomes index
  · exact .inr refused
  · exact .inl (returns_iff.mpr refused)

omit [Host] in
/-- What is refused is not answered. -/
theorem Client.IsRefused.unanswered {outcomes : List HttpOutcome} {index : Nat}
    (refused : client.IsRefused outcomes index) (body : String) :
    (outcomeAt outcomes index).body client.url ≠ .ok body := by
  intro answered
  exact returns_iff.mp ⟨body, answered⟩ refused

/-- The attempts end with a text exactly where one of them is answered with it. -/
theorem Client.attemptFrom_ok (request : Request) {remaining start : Nat}
    {outcomes : List HttpOutcome} (expected : RequestsOnly outcomes) {body : String} :
    (client.attemptFrom request remaining start outcomes).result = .ok body ↔
      client.ReceivesWithin remaining start outcomes body := by
  induction remaining generalizing start outcomes with
  | zero => simp [attemptFrom, ReceivesWithin]
  | succ remaining ih =>
      rw [receivesWithin_succ]
      rcases answered_or_refused outcomes 0 with ⟨given, answered⟩ | refused
      · have notRefused : ¬ client.IsRefused outcomes 0 := fun refused =>
          refused.unanswered given answered
        simp [attemptFrom_answered request answered, answered, notRefused]
      · obtain ⟨reason, continued⟩ := attemptFrom_refused request remaining start expected refused
        rw [continued, or_iff_right (refused.unanswered body)]
        cases remaining with
        | zero => simp [ReceivesWithin]
        | succ remaining =>
            simp only [Nat.add_one_ne_zero, if_false, bind_eq_ok, ih expected.next,
              exists_and_right, pauseAfter_returns, refused, true_and]

/-- The attempts end in a fault that is passed on exactly where a pause is lacking. -/
theorem Client.attemptFrom_unsettled (request : Request) {remaining start : Nat}
    {outcomes : List HttpOutcome} (expected : RequestsOnly outcomes) :
    FailsAmong IsUnsettled (client.attemptFrom request remaining start outcomes).result ↔
      client.OverwaitsWithin remaining start outcomes := by
  induction remaining generalizing start outcomes with
  | zero => simp [attemptFrom, OverwaitsWithin, not_isUnsettled_explorerFault]
  | succ remaining ih =>
      rw [overwaitsWithin_succ]
      rcases answered_or_refused outcomes 0 with ⟨given, answered⟩ | refused
      · have notRefused : ¬ client.IsRefused outcomes 0 := fun refused =>
          refused.unanswered given answered
        simp [attemptFrom_answered request answered, notRefused]
      · obtain ⟨reason, continued⟩ := attemptFrom_refused request remaining start expected refused
        rw [continued]
        cases remaining with
        | zero => simp [not_isUnsettled_explorerFault]
        | succ remaining =>
            simp only [Nat.add_one_ne_zero, if_false, failsAmong_bind, ih expected.next,
              exists_and_right, pauseAfter_returns, pauseAfter_unsettled, refused, true_and,
              Nat.zero_lt_succ]

end Attempts

end SolidityAudit.Explorer
