import SolidityAudit.Explorer.Lookup
import SolidityAudit.Proofs.Explorer.Attempts

namespace SolidityAudit.Explorer

open Json (Value ShapeFault)
open Text (Wording)

section Requests

variable [Host] {client : Client} {outcomes : List HttpOutcome}

/-- One of the attempts is answered with an object. -/
def Client.Answers (client : Client) (outcomes : List HttpOutcome) (answer : Members) : Prop :=
  ∃ body, client.ReceivesWithin client.attempts.toNat 0 outcomes body ∧
    Json.readString body = .ok (.object answer)

/-- A pause between the attempts is lacking, or an answer is nested too deep. -/
def Client.IsOvertaxed (client : Client) (outcomes : List HttpOutcome) : Prop :=
  client.OverwaitsWithin client.attempts.toNat 0 outcomes ∨
    ∃ body, client.ReceivesWithin client.attempts.toNat 0 outcomes body ∧
      ∃ container, Json.readString body = .error (.tooDeep container)

/-- Answers are the objects that are read. -/
theorem decodeAnswer_ok {body : String} {answer : Members} :
    decodeAnswer body = .ok answer ↔ Json.readString body = .ok (.object answer) := by
  unfold decodeAnswer
  split <;> simp_all

/-- Only answers that are nested too deep are passed on. -/
theorem decodeAnswer_unsettled {body : String} :
    FailsAmong IsUnsettled (decodeAnswer body) ↔
      ∃ container, Json.readString body = .error (.tooDeep container) := by
  unfold decodeAnswer
  split
  · next container deep =>
      simp [deep, IsUnsettled, Fault.kind, FaultKind.belongsTo, FaultKind.ancestors]
  · next fault other refused =>
      simp only [failsAmong_error, not_isUnsettled_explorerFault, refused, false_iff]
      rintro ⟨container, same⟩
      exact other container (Except.error.inj same)
  · next answer read => simp [read]
  · next value _ read => simp [read, not_isUnsettled_explorerFault]

/-- A request gives the answer of its attempts. -/
theorem Client.request_ok (parameters : Members) (expected : RequestsOnly outcomes)
    {answer : Members} :
    (client.request parameters outcomes).result = .ok answer ↔ client.Answers outcomes answer := by
  refine bind_eq_ok.trans ?_
  simp only [attemptFrom_ok _ expected, decodeAnswer_ok, Answers]

/-- A request passes on what overtaxes it. -/
theorem Client.request_unsettled (parameters : Members) (expected : RequestsOnly outcomes) :
    FailsAmong IsUnsettled (client.request parameters outcomes).result ↔
      client.IsOvertaxed outcomes := by
  refine failsAmong_bind.trans ?_
  simp only [attemptFrom_unsettled _ expected, attemptFrom_ok _ expected, decodeAnswer_unsettled,
    IsOvertaxed]

omit [Host] in
/-- A lookup fails on an unsettled fault or an answer that cannot be evaluated. -/
theorem settled_returns {α β : Type} (subject : String) (missing : β) (exchange : Exchange α)
    (evaluate : α → Except Fault β × List Journal.Entry) :
    Returns (settled subject missing exchange evaluate).result ↔
      ¬ FailsAmong IsUnsettled exchange.result ∧
        ∀ answer, exchange.result = .ok answer → Returns (evaluate answer).1 := by
  unfold settled
  cases exchange.result with
  | error fault => cases known : fault.kind.belongsTo .explorer <;> simp [IsUnsettled, known]
  | ok answer => simp

/-- A lookup returns where its request is not overtaxed and its answer is evaluated. -/
theorem Client.lookup_returns {β : Type} (subject : String) (missing : β) (parameters : Members)
    (expected : RequestsOnly outcomes)
    (evaluate : Members → Except Fault β × List Journal.Entry) :
    Returns (settled subject missing (client.request parameters outcomes) evaluate).result ↔
      ¬ client.IsOvertaxed outcomes ∧
        ∀ answer, client.Answers outcomes answer → Returns (evaluate answer).1 := by
  simp only [settled_returns, request_unsettled parameters expected, request_ok parameters expected]

end Requests

section Evaluation

variable [Host]

omit [Host] in
/-- Contents are taken where all of them are texts. -/
theorem contentTexts_returns {position : Nat} {contents : List Value} :
    Returns (contentTexts position contents) ↔
      ∀ content ∈ contents, ∃ words, content = .text words := by
  induction contents generalizing position with
  | nil => simp [contentTexts]
  | cons content rest ih =>
      cases content with
      | text words => simp [contentTexts, ih]
      | _ => simp [contentTexts]

/-- If a source is a bundle, it can be read and all the contents of its files are texts. -/
def IsFlattenable (source : Wording) : Prop :=
  ∀ text, bundleText? source.symbols = some text → ¬ Json.Exceeds text ∧
    ∀ value, Json.read text = .ok value → ∀ sources, bundleSources? value = some sources →
      ∀ content ∈ entryContents sources, ∃ words, content = .text words

/-- Flattening returns exactly where a source can be flattened. -/
theorem flatten_returns {source : Wording} : Returns (flatten source) ↔ IsFlattenable source := by
  unfold flatten IsFlattenable
  cases bundleText? source.symbols with
  | none => simp
  | some text =>
      simp only [Option.some.injEq, forall_eq']
      cases reading : Json.read text with
      | error fault => cases fault <;> simp [Json.Exceeds, reading]
      | ok value =>
          cases listed : bundleSources? value with
          | none => simp [Json.Exceeds, reading, listed]
          | some sources =>
              simp [Json.Exceeds, reading, listed, joinedContents, contentTexts_returns]

/-- Texts that can be flattened are the values that can be. -/
theorem flattenValue_returns {value : Value} :
    Returns (flattenValue value) ↔ ∃ source, value = .text source ∧ IsFlattenable source := by
  cases value with
  | text source => simp [flattenValue, flatten_returns]
  | _ => simp [flattenValue]

/-- A contract that is there is an object, and its source, if there is one, can be flattened. -/
def GivesSource (contract : Value) : Prop :=
  contract.isPresent = true → ∃ members, contract = .object members ∧
    ((memberOf "SourceCode" members).isPresent = true →
      ∃ source, memberOf "SourceCode" members = .text source ∧ IsFlattenable source)

/-- A source is returned where the contract gives one. -/
theorem verifiedSource_returns {contract : Value} :
    Returns (verifiedSource contract).1 ↔ GivesSource contract := by
  unfold verifiedSource GivesSource
  cases present : contract.isPresent with
  | false => simp
  | true =>
      cases contract with
      | object members =>
          have read : (Value.object members).member "SourceCode" =
            .ok (memberOf "SourceCode" members) := rfl
          simp only [read]
          cases given : (memberOf "SourceCode" members).isPresent with
          | false => simp [given]
          | true => simp [given, flattenValue_returns]
      | _ => simp [Value.member, Value.members, Except.map]

/-- A contract that is there is an object. -/
def GivesFacts (contract : Value) : Prop :=
  contract.isPresent = true → ∃ members, contract = .object members

omit [Host] in
/-- Facts are taken from objects. -/
theorem contractFacts_returns {contract : Value} :
    Returns (contractFacts contract) ↔ ∃ members, contract = .object members := by
  cases contract with
  | object members => exact iff_of_true ⟨_, rfl⟩ ⟨members, rfl⟩
  | _ => exact iff_of_false (not_returns_error _) (by simp)

/-- The text of an interface that is published does not exceed what is read. -/
def GivesInterface (answer : Members) : Prop :=
  succeeded answer = true →
    ∀ content, memberOf "result" answer = .text content → ¬ Json.Exceeds content.symbols

/-- An interface is returned where the answer gives one. -/
theorem publishedInterface_returns {answer : Members} :
    Returns (publishedInterface answer).1 ↔ GivesInterface answer := by
  unfold publishedInterface GivesInterface
  cases told : succeeded answer with
  | false => simp
  | true =>
      cases result : memberOf "result" answer with
      | text content =>
          simp only [Value.text.injEq, forall_eq', Json.Exceeds]
          by_cases empty : content = .plain ""
          · subst empty
            refine iff_of_true (returns_ok none) fun _ => ?_
            rw [show Json.read (Wording.plain "").symbols = .error .malformed from rfl]
            simp
          · rw [← Json.readString]
            cases Json.readString content with
            | ok value => simp [Value.isPresent, empty]
            | error fault => cases fault <;> simp [Value.isPresent, empty]
      | _ =>
          refine iff_of_true ?_ (by simp)
          dsimp only
          split <;> exact returns_ok none

end Evaluation

section Standard

attribute [local instance] Host.standard

end Standard

end SolidityAudit.Explorer
