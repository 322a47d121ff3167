import SolidityAudit.Proofs.Explorer.Lookups
import SolidityAudit.Proofs.Json.Documents

namespace SolidityAudit

/-- The amount is the number, without rounding. -/
def Quantity.Represents (quantity : Quantity) (amount : ℚ) : Prop :=
  quantity.value? = some amount ∧
    match quantity with
    | .whole _ => True
    | .fractional number => number.IsRegular

end SolidityAudit

namespace SolidityAudit.Explorer

open Json (Value)

/-- The request fails on the way, or a status from 400 to 599 refuses it. -/
def HttpOutcome.IsFailure : HttpOutcome → Prop
  | .failed _ => True
  | .answered status _ _ => 400 ≤ status ∧ status ≤ 599

/-- The request is answered with the body. -/
def HttpOutcome.Brings (outcome : HttpOutcome) (body : String) : Prop :=
  ¬ outcome.IsFailure ∧ ∃ status reason, outcome = .answered status reason body

/-- An outcome is a failure or brings a body. -/
theorem HttpOutcome.body_cases (outcome : HttpOutcome) (url : String) :
    (outcome.IsFailure ∧ Fails (outcome.body url)) ∨
      ∃ body, outcome.Brings body ∧ outcome.body url = .ok body := by
  cases outcome with
  | failed fault => exact .inl ⟨trivial, fails_error fault⟩
  | answered status reason body =>
      by_cases client : 400 ≤ status ∧ status < 500
      · refine .inl ⟨⟨client.1, by omega⟩, ?_⟩
        simp [HttpOutcome.body, client]
      · by_cases server : 500 ≤ status ∧ status < 600
        · refine .inl ⟨⟨by omega, by omega⟩, ?_⟩
          have later : ¬ status < 500 := by omega
          simp [HttpOutcome.body, server, later]
        · refine .inr ⟨body, ⟨?_, status, reason, rfl⟩, ?_⟩
          · rintro ⟨low, high⟩
            omega
          · simp only [HttpOutcome.body, Bool.and_eq_true, decide_eq_true_eq, client, server,
              if_false]

/-- A response brings one body. -/
theorem HttpOutcome.Brings.unique {outcome : HttpOutcome} {body other : String}
    (first : outcome.Brings body) (second : outcome.Brings other) : body = other := by
  obtain ⟨-, status, reason, rfl⟩ := first
  obtain ⟨-, _, _, same⟩ := second
  cases same
  rfl

/-- Failures are the outcomes without a body. -/
theorem HttpOutcome.body_fails {outcome : HttpOutcome} {url : String} :
    Fails (outcome.body url) ↔ outcome.IsFailure := by
  rcases outcome.body_cases url with ⟨failure, fails⟩ | ⟨body, ⟨answered, -⟩, given⟩
  · exact iff_of_true fails failure
  · rw [given]
    exact iff_of_false failsAmong_ok answered

/-- The body that is brought is the one that is taken. -/
theorem HttpOutcome.Brings.body {outcome : HttpOutcome} {body : String}
    (brings : outcome.Brings body) (url : String) : outcome.body url = .ok body := by
  rcases outcome.body_cases url with ⟨failure, -⟩ | ⟨other, given, same⟩
  · exact absurd failure brings.1
  · rw [same, given.unique brings]

section Delays

variable [Host] {client : Client} {amount : ℚ} {attempt : Nat}

/-- The delay after the attempt is the base delay times a power of two, without rounding. -/
def Client.IsMeasured (client : Client) (amount : ℚ) (attempt : Nat) : Prop :=
  match client.baseDelay with
  | .whole value =>
      ∀ limit, Host.figureLimit = some limit → figureCount (value * 2 ^ attempt) ≤ limit
  | .fractional _ => attempt < 1024 ∧ |amount| * 2 ^ attempt < 2 ^ 1024

/-- The delay after the attempt is measured, and the host waits for it. -/
def Client.Pauses (client : Client) (amount : ℚ) (attempt : Nat) : Prop :=
  client.IsMeasured amount attempt ∧ ∀ limit, Host.longestPause = some limit →
    0 ≤ amount * 2 ^ attempt ∧ amount * 2 ^ attempt * 10 ^ 9 < limit

/-- Delays are measured exactly where they are computed without rounding. -/
theorem Client.isMeasured_iff (exact : client.baseDelay.Represents amount) :
    client.IsMeasured amount attempt ↔ ∃ delay, client.delayAfter attempt = .ok delay ∧
      delay.value? = some (amount * 2 ^ attempt) := by
  unfold IsMeasured delayAfter
  generalize client.baseDelay = base at exact
  obtain ⟨value, regular⟩ := exact
  cases base with
  | whole base =>
      cases value
      have product : (Quantity.whole base).timesPowerOfTwo? attempt =
        some (.whole (base * 2 ^ attempt)) := rfl
      simp only [← exceededLimit?_eq_none, product, Quantity.unwritable?]
      cases exceededLimit? (figureCount (base * 2 ^ attempt)) with
      | none => exact iff_of_true rfl ⟨_, rfl, by simp [Quantity.value?]⟩
      | some limit => simp
  | fractional number =>
      have doubled := Binary64.timesPowerOfTwo_value regular value attempt
      simp only [Quantity.timesPowerOfTwo?]
      by_cases early : attempt < 1024
      · simp only [early, if_true, true_and, Quantity.unwritable?, Except.ok.injEq,
          exists_eq_left', Quantity.value?, doubled]
        split
        · next within => exact iff_of_true within rfl
        · next beyond => exact iff_of_false beyond (by simp)
      · simp [early]

/-- The pauses that are exact are those that the host waits for. -/
theorem Client.pauses_iff (exact : client.baseDelay.Represents amount) :
    client.Pauses amount attempt ↔ ∃ delay, client.pauseAfter attempt = .ok delay ∧
      delay.value? = some (amount * 2 ^ attempt) := by
  rw [Pauses, isMeasured_iff exact]
  constructor
  · rintro ⟨⟨delay, measured, value⟩, waited⟩
    refine ⟨delay, pauseAfter_eq_ok.mpr ⟨measured, fun limit given => ?_⟩, value⟩
    exact ⟨_, value, waited limit given⟩
  · rintro ⟨delay, paused, value⟩
    obtain ⟨measured, waitable⟩ := pauseAfter_eq_ok.mp paused
    refine ⟨⟨delay, measured, value⟩, fun limit given => ?_⟩
    obtain ⟨seconds, same, waited⟩ := waitable limit given
    rw [value] at same
    cases same
    exact waited

/-- An exact pause is not lacking. -/
theorem Client.Pauses.not_lacking (exact : client.baseDelay.Represents amount)
    (paused : client.Pauses amount attempt) : ¬ client.LacksPause attempt := by
  obtain ⟨delay, given, -⟩ := (pauses_iff exact).mp paused
  exact pauseAfter_returns.mp ⟨delay, given⟩

end Delays

section Course

variable [Host] {client : Client} (request : Request)

/-- The delays of a run are the pauses after its attempts, in order. -/
theorem Client.attemptFrom_delays (remaining start : Nat) (outcomes : List HttpOutcome) :
    (client.attemptFrom request remaining start outcomes).traffic.delays.map Except.ok =
      (List.range' start
        (client.attemptFrom request remaining start outcomes).traffic.delays.length).map
          client.pauseAfter := by
  induction remaining generalizing start outcomes with
  | zero => rfl
  | succ remaining ih =>
      rw [attemptFrom]
      dsimp only
      cases (nextOutcome outcomes).1.body client.url with
      | ok body => rfl
      | error fault =>
          dsimp only
          split
          · rfl
          · split
            · rfl
            · cases delayed : client.delayAfter start with
              | error overlong => rfl
              | ok delay =>
                  dsimp only
                  cases refused : pauseFault? delay with
                  | some fault => rfl
                  | none =>
                      have paused : client.pauseAfter start = .ok delay :=
                        pauseAfter_eq_ok.mpr ⟨delayed, pauseFault?_none.mp refused⟩
                      have later := ih (start + 1) (nextOutcome outcomes).2
                      simp only [Traffic.append, List.singleton_append, List.map_cons,
                        List.length_cons, List.range'_succ, paused, later]

/-- An answer ends the attempts, and no delay follows. -/
theorem Client.attemptFrom_answer {remaining start : Nat} {outcomes : List HttpOutcome}
    {body : String} (answered : (outcomeAt outcomes 0).body client.url = .ok body) :
    client.attemptFrom request (remaining + 1) start outcomes =
      ⟨.ok body, { requests := [request] }, (nextOutcome outcomes).2⟩ := by
  rw [← nextOutcome_first] at answered
  simp only [attemptFrom, answered]

/-- A refusal of the last attempt ends in a fault of the explorer. -/
theorem Client.attemptFrom_last {start : Nat} {outcomes : List HttpOutcome}
    (expected : RequestsOnly outcomes) (refused : client.IsRefused outcomes 0) :
    ∃ reason, client.attemptFrom request 1 start outcomes =
      ⟨.error (explorerFault reason), { requests := [request] }, (nextOutcome outcomes).2⟩ := by
  obtain ⟨fault, failed, -⟩ := refused
  rw [← nextOutcome_first] at failed
  have repeatable := expected.first failed
  simp only [attemptFrom, failed, repeatable, Bool.not_true, Bool.false_eq_true, if_false,
    beq_self_eq_true, if_true]
  exact ⟨_, rfl⟩

/-- Any other refusal is followed by a pause and the next attempt. -/
theorem Client.attemptFrom_next {remaining start : Nat} {outcomes : List HttpOutcome}
    (expected : RequestsOnly outcomes) (refused : client.IsRefused outcomes 0)
    (waited : ¬ client.LacksPause start) :
    ∃ delay journal, client.attemptFrom request (remaining + 2) start outcomes =
      let rest := client.attemptFrom request (remaining + 1) (start + 1) (nextOutcome outcomes).2
      { rest with traffic := Traffic.append ⟨[request], [delay], journal⟩ rest.traffic } := by
  obtain ⟨fault, failed, -⟩ := refused
  rw [← nextOutcome_first] at failed
  have repeatable := expected.first failed
  obtain ⟨delay, paused⟩ := pauseAfter_returns.mpr waited
  obtain ⟨delayed, waitable⟩ := pauseAfter_eq_ok.mp paused
  refine ⟨delay, [retryNote client start delay fault], ?_⟩
  rw [attemptFrom]
  simp only [failed, repeatable, delayed, pauseFault?_none.mpr waitable, Bool.not_true,
    Bool.false_eq_true, if_false, beq_iff_eq, Nat.add_one_ne_zero]

/-- After so many refusals, each with its pause, the attempts go on. -/
theorem Client.attemptFrom_reaches (remaining : Nat) {index start : Nat}
    {outcomes : List HttpOutcome} (expected : RequestsOnly outcomes)
    (reached : client.Reaches start outcomes index) :
    ∃ later, RequestsOnly later ∧ outcomeAt later 0 = outcomeAt outcomes index ∧
      let exchange := client.attemptFrom request (index + remaining + 1) start outcomes
      let rest := client.attemptFrom request (remaining + 1) (start + index) later
      exchange.result = rest.result ∧
        exchange.traffic.requests = List.replicate index request ++ rest.traffic.requests ∧
        exchange.traffic.delays.length = index + rest.traffic.delays.length := by
  induction index generalizing start outcomes with
  | zero => exact ⟨outcomes, expected, rfl, by simp⟩
  | succ index ih =>
      obtain ⟨⟨refused, waited⟩, reached⟩ := reaches_succ.mp reached
      obtain ⟨later, expectedLater, first, result, requests, delays⟩ := ih expected.next reached
      obtain ⟨delay, journal, continued⟩ :=
        @attemptFrom_next _ client request (index + remaining) start outcomes expected refused
          waited
      rw [show start + 1 + index = start + (index + 1) by omega] at result requests delays
      rw [show index + 1 + remaining + 1 = index + remaining + 2 by omega, continued]
      refine ⟨later, expectedLater, first.trans (outcomeAt_next outcomes index), result, ?_, ?_⟩
      · simp only [Traffic.append, requests, List.replicate_succ, List.cons_append,
          List.nil_append]
      · simp only [Traffic.append, List.singleton_append, List.length_cons, delays]
        omega

/-- An answer after so many refusals ends the attempts. -/
theorem Client.attemptFrom_answered_after {index remaining start : Nat}
    {outcomes : List HttpOutcome} {body : String} (expected : RequestsOnly outcomes)
    (within : index < remaining) (reached : client.Reaches start outcomes index)
    (answered : (outcomeAt outcomes index).body client.url = .ok body) :
    let exchange := client.attemptFrom request remaining start outcomes
    exchange.result = .ok body ∧ exchange.traffic.requests = List.replicate (index + 1) request ∧
      exchange.traffic.delays.length = index := by
  obtain ⟨later, -, first, result, requests, delays⟩ :=
    attemptFrom_reaches request (remaining - index - 1) expected reached
  rw [show index + (remaining - index - 1) + 1 = remaining by omega] at result requests delays
  rw [← first] at answered
  rw [attemptFrom_answer request answered] at result requests delays
  exact ⟨result, by rw [requests, List.replicate_succ'], delays⟩

/-- If all attempts are refused, they end in a fault of the explorer. -/
theorem Client.attemptFrom_refused_throughout {index start : Nat} {outcomes : List HttpOutcome}
    (expected : RequestsOnly outcomes) (reached : client.Reaches start outcomes index)
    (refused : client.IsRefused outcomes index) :
    let exchange := client.attemptFrom request (index + 1) start outcomes
    (∃ reason, exchange.result = .error (explorerFault reason)) ∧
      exchange.traffic.requests = List.replicate (index + 1) request ∧
      exchange.traffic.delays.length = index := by
  obtain ⟨later, expectedLater, first, result, requests, delays⟩ :=
    attemptFrom_reaches request 0 expected reached
  rw [IsRefused, ← first] at refused
  obtain ⟨reason, ended⟩ :=
    @attemptFrom_last _ client request (start + index) later expectedLater refused
  rw [Nat.zero_add, ended] at result requests delays
  exact ⟨⟨reason, result⟩, by rw [List.replicate_succ']; exact requests, delays⟩

end Course

section Policy

variable [Host] {client : Client} {amount : ℚ} {parameters : Members} {outcomes : List HttpOutcome}

/-- What is sent in every attempt. -/
def Client.requestFor (client : Client) (parameters : Members) : Request :=
  ⟨client.url, client.query parameters, client.timeout⟩

/-- The answer of the attempts is decoded. -/
theorem Client.request_result : (client.request parameters outcomes).result =
    (client.attemptFrom (client.requestFor parameters) client.attempts.toNat 0 outcomes).result >>=
      decodeAnswer :=
  rfl

/-- A request sends and waits as its attempts do. -/
theorem Client.request_traffic : (client.request parameters outcomes).traffic =
    (client.attemptFrom (client.requestFor parameters) client.attempts.toNat 0 outcomes).traffic :=
  rfl

/-- The call ends in a fault of the explorer. -/
def IsRefusal {α : Type} (result : Except Fault α) : Prop :=
  ∃ fault, result = .error fault ∧ fault.kind = .explorer

/-- The body is decoded: an object is returned, and all else is refused. -/
def Decodes (body : String) (result : Except Fault Members) : Prop :=
  (∀ members, Json.readString body = .ok (.object members) → result = .ok members) ∧
    ((∀ members, Json.readString body ≠ .ok (.object members)) → IsRefusal result)

/-- The containers of the body are nested too deep to be read. -/
def IsNestedTooDeep (body : String) : Prop :=
  ∃ container, Json.readString body = .error (.tooDeep container)

/-- The request is sent so many times, with delays that double. -/
def Client.Sends (client : Client) (parameters : Members) (amount : ℚ) (traffic : Traffic)
    (requests delays : Nat) : Prop :=
  traffic.requests = List.replicate requests (client.requestFor parameters) ∧
    traffic.delays.map Quantity.value? =
      (List.range delays).map fun attempt => some (amount * 2 ^ attempt)

/-- All bodies are decoded but those that are nested too deep. -/
theorem decodes_decodeAnswer {body : String} :
    Decodes body (decodeAnswer body) ↔ ¬ IsNestedTooDeep body := by
  unfold Decodes IsNestedTooDeep decodeAnswer
  cases reading : Json.readString body with
  | ok value =>
      cases value with
      | object members => simp
      | _ => simp [IsRefusal, explorerFault, Fault.kind]
  | error fault =>
      cases fault <;> simp [IsRefusal, explorerFault, Fault.kind]

/-- An answer to the first attempt is decoded. -/
theorem Client.request_answer {body : String} (some : 0 < client.attempts)
    (answered : (outcomeAt outcomes 0).Brings body) :
    (client.request parameters outcomes).result = decodeAnswer body := by
  have count : client.attempts.toNat = client.attempts.toNat - 1 + 1 := by omega
  rw [request_result, count, attemptFrom_answer _ (answered.body client.url)]
  rfl

/-- Where the delays of a run are exact, each was waited for. -/
theorem Client.Sends.paused (exact : client.baseDelay.Represents amount)
    {requests delays : Nat}
    (sends : client.Sends parameters amount (client.request parameters outcomes).traffic requests
      delays) : ∀ attempt < delays, client.Pauses amount attempt := by
  intro attempt before
  have values := sends.2
  have given := client.attemptFrom_delays (client.requestFor parameters) client.attempts.toNat 0
    outcomes
  rw [← request_traffic] at given
  generalize (client.request parameters outcomes).traffic.delays = waited at values given
  have length : waited.length = delays := by simpa using congrArg List.length values
  have inside : attempt < waited.length := by omega
  refine (pauses_iff exact).mpr ⟨waited[attempt], ?_, ?_⟩
  · have there := congrArg (·[attempt]?) given
    simpa [inside] using there.symm
  · have there := congrArg (·[attempt]?) values
    simpa [inside, before] using there

/-- Where the delays after the attempts are waited for, they are exact. -/
theorem Client.sends_of_paused (exact : client.baseDelay.Represents amount)
    {requests delays : Nat}
    (sent : (client.request parameters outcomes).traffic.requests =
      List.replicate requests (client.requestFor parameters))
    (count : (client.request parameters outcomes).traffic.delays.length = delays)
    (paused : ∀ attempt < delays, client.Pauses amount attempt) :
    client.Sends parameters amount (client.request parameters outcomes).traffic requests
      delays := by
  refine ⟨sent, ?_⟩
  have given := client.attemptFrom_delays (client.requestFor parameters) client.attempts.toNat 0
    outcomes
  rw [← request_traffic] at given
  generalize (client.request parameters outcomes).traffic.delays = waited at given count
  subst count
  apply List.ext_getElem
  · simp
  · intro attempt inside _
    rw [List.length_map] at inside
    obtain ⟨delay, delayed, value⟩ := (pauses_iff exact).mp (paused attempt inside)
    have there := congrArg (·[attempt]?) given
    have same : waited[attempt] = delay := by
      simpa [inside, delayed] using there
    simp [same, value]

end Policy

section Standard

attribute [local instance] Host.standard

end Standard

end SolidityAudit.Explorer
