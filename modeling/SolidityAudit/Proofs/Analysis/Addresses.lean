import Mathlib.Data.List.Basic
import SolidityAudit.Analysis
import SolidityAudit.Proofs.Outcome

namespace SolidityAudit.Explorer

open Json (Value)
open Text (Wording)

section Texts

/-- The text has the prefix, forty hexadecimal digits in ASCII and nothing else. -/
def IsExactAddress (text : String) : Prop :=
  ∃ digits : List Char, text.toList = '0' :: 'x' :: digits ∧ digits.length = 40 ∧
    ∀ digit ∈ digits, digit ∈ "0123456789abcdefABCDEF".toList

/-- The text is an address with a line feed after it. -/
def IsAddressLine (text : String) : Prop :=
  ∃ address, IsExactAddress address ∧ text = address ++ "\n"

/-- An address has 42 characters. -/
theorem IsExactAddress.length {text : String} (exact : IsExactAddress text) : text.length = 42 := by
  obtain ⟨digits, spelled, count, -⟩ := exact
  rw [← String.length_toList, spelled, List.length_cons, List.length_cons, count]

/-- An address with a line feed has 43 characters. -/
theorem IsAddressLine.length {text : String} (line : IsAddressLine text) : text.length = 43 := by
  obtain ⟨address, exact, rfl⟩ := line
  rw [String.length_append, exact.length]
  rfl

/-- The two kinds of texts have different lengths. -/
theorem IsAddressLine.not_exact {text : String} (line : IsAddressLine text) :
    ¬ IsExactAddress text := by
  intro exact
  have length := exact.length
  rw [line.length] at length
  cases length

/-- The digits are those of base sixteen in ASCII. -/
theorem isHexDigit_iff {character : Char} :
    isHexDigit character = true ↔ character ∈ "0123456789abcdefABCDEF".toList := by
  constructor
  · intro digit
    have small : character.toNat < 128 := by
      simp only [isHexDigit, Char.isDigit, Bool.or_eq_true, Bool.and_eq_true, decide_eq_true_eq,
        Char.le_def, ge_iff_le, UInt32.le_iff_toNat_le] at digit
      rcases digit with (⟨-, upper⟩ | ⟨-, upper⟩) | ⟨-, upper⟩ <;>
        exact Nat.lt_of_le_of_lt upper (by decide)
    have table : ∀ code < 128, isHexDigit (Char.ofNat code) = true →
        Char.ofNat code ∈ "0123456789abcdefABCDEF".toList := by decide
    have listed := table character.toNat small
    rw [character.ofNat_toNat] at listed
    exact listed digit
  · intro listed
    have digits : "0123456789abcdefABCDEF".toList.all isHexDigit = true := by decide
    exact List.all_eq_true.mp digits character listed

/-- Forty digits and perhaps a line feed follow the prefix. -/
theorem isAddressText_prefixed {rest : List Char} :
    isAddressText ('0' :: 'x' :: rest) = true ↔ ∃ digits ending, rest = digits ++ ending ∧
      digits.length = 40 ∧ (∀ digit ∈ digits, digit ∈ "0123456789abcdefABCDEF".toList) ∧
        (ending = [] ∨ ending = ['\n']) := by
  simp only [isAddressText, addressDigitCount, Bool.and_eq_true, Bool.or_eq_true, beq_iff_eq,
    List.isEmpty_iff, List.all_eq_true, isHexDigit_iff]
  constructor
  · rintro ⟨⟨count, digits⟩, ending⟩
    exact ⟨_, _, (List.take_append_drop 40 rest).symm, count, digits, ending⟩
  · rintro ⟨digits, ending, rfl, count, members, ended⟩
    rw [List.take_left' count, List.drop_left' count]
    exact ⟨⟨count, members⟩, ended⟩

/-- Accepted texts start with the prefix. -/
theorem isAddressText_start {text : List Char} (accepted : isAddressText text = true) :
    ∃ rest, text = '0' :: 'x' :: rest := by
  unfold isAddressText at accepted
  split at accepted
  · exact ⟨_, rfl⟩
  · cases accepted

/-- Besides addresses, their lines are accepted, and nothing else. -/
theorem isAddressText_iff {text : String} :
    isAddressText text.toList = true ↔ IsExactAddress text ∨ IsAddressLine text := by
  constructor
  · intro accepted
    obtain ⟨rest, start⟩ := isAddressText_start accepted
    rw [start] at accepted
    obtain ⟨digits, ending, rfl, count, members, ended⟩ := isAddressText_prefixed.mp accepted
    rcases ended with rfl | rfl
    · exact .inl ⟨digits, by rw [start, List.append_nil], count, members⟩
    · refine .inr ⟨String.ofList ('0' :: 'x' :: digits),
        ⟨digits, String.toList_ofList, count, members⟩, ?_⟩
      rw [← String.toList_inj, start, String.toList_append, String.toList_ofList]
      rfl
  · rintro (⟨digits, start, count, members⟩ | ⟨address, ⟨digits, start, count, members⟩, rfl⟩)
    · rw [start]
      exact isAddressText_prefixed.mpr ⟨digits, [], by simp, count, members, .inl rfl⟩
    · rw [String.toList_append, start]
      exact isAddressText_prefixed.mpr ⟨digits, ['\n'], rfl, count, members, .inr rfl⟩

/-- A text of characters is judged as it is. -/
theorem isAddress_text (text : String) :
    isAddress (.text text) = .ok (isAddressText text.toList) := by
  by_cases empty : text = ""
  · subst empty
    rfl
  · simp [isAddress, Value.isPresent, empty]

end Texts

section Requests

variable [Host] (client : Client)

/-- All attempts send the same request, and only without attempts nothing is sent. -/
theorem Client.attemptFrom_requests (request : Request) (remaining start : Nat)
    (outcomes : List HttpOutcome) :
    ∃ count, (client.attemptFrom request remaining start outcomes).traffic.requests =
      List.replicate count request ∧ (count = 0 ↔ remaining = 0) := by
  induction remaining generalizing start outcomes with
  | zero => exact ⟨0, rfl, by simp⟩
  | succ remaining ih =>
      have once : ∃ count, [request] = List.replicate count request ∧
        (count = 0 ↔ remaining + 1 = 0) := ⟨1, rfl, by simp⟩
      rw [attemptFrom]
      dsimp only
      cases (nextOutcome outcomes).1.body client.url with
      | ok body => exact once
      | error fault =>
          dsimp only
          split
          · exact once
          · split
            · exact once
            · cases client.delayAfter start with
              | error overlong => exact once
              | ok delay =>
                  dsimp only
                  cases pauseFault? delay with
                  | some endless => exact once
                  | none =>
                      obtain ⟨count, sent, -⟩ := ih (start + 1) (nextOutcome outcomes).2
                      refine ⟨count + 1, ?_, by simp⟩
                      rw [List.replicate_succ, ← sent]
                      rfl

/-- The request for the source of an address. -/
def Client.sourceRequest (address : Wording) : Request :=
  ⟨client.url, client.query (contractQuery "contract" "getsourcecode" address), client.timeout⟩

omit [Host] in
/-- The request carries the address as it is. -/
theorem Client.sourceRequest_address (address : Wording) :
    memberOf "address" (client.sourceRequest address).parameters = .text address := by
  unfold sourceRequest query
  split
  · rfl
  · rfl
  · rfl

/-- The lookup of a source sends its request and no other. -/
theorem Client.fetchSource_requests (address : Wording) (outcomes : List HttpOutcome) :
    ∃ count, (client.fetchSource address outcomes).traffic.requests =
      List.replicate count (client.sourceRequest address) ∧ (count = 0 ↔ client.attempts ≤ 0) := by
  obtain ⟨count, sent, none⟩ := client.attemptFrom_requests (client.sourceRequest address)
    client.attempts.toNat 0 outcomes
  refine ⟨count, ?_, by omega⟩
  have kept : (client.fetchSource address outcomes).traffic.requests =
      (client.request (contractQuery "contract" "getsourcecode" address)
        outcomes).traffic.requests := by
    unfold fetchSource settled
    dsimp only
    split
    · split <;> simp [Traffic.append]
    · simp [Traffic.append]
  rw [kept, ← sent]
  rfl

end Requests

end SolidityAudit.Explorer

namespace SolidityAudit

open Explorer
open Files (Disk)
open Json (Value)
open Text (Wording)

/-- A text of characters is valid if it is accepted. -/
theorem validAddress_text (address : String) :
    validAddress (.text address) =
      if isAddressText address.toList then .ok address
      else .error (badAddress (.text address)) := by
  unfold validAddress
  rw [isAddress_text]
  cases isAddressText address.toList <;> rfl

/-- A valid address is an accepted text of characters. -/
theorem validAddress_ok {address : Value} {text : Wording}
    (valid : validAddress address = .ok text) :
    ∃ sent : String, text = .plain sent ∧ address = .text sent ∧
      isAddressText sent.toList = true := by
  obtain ⟨accepted, judged, given⟩ := bind_eq_ok.mp valid
  split at given
  · cases given
    rw [mapError_eq_ok] at judged
    cases text with
    | plain sent =>
        rw [isAddress_text] at judged
        exact ⟨sent, rfl, rfl, Except.ok.inj judged⟩
    | broken text => cases judged
  · cases given

section Sending

variable [Host] (settings : Settings) (world : World) (summariser : Option Summariser)
  (client : Client) (disk : Disk) (wantSummary : Bool)

/-- Nothing is sent for an address that is refused. -/
theorem analyseAddress_refused {address : Value} {fault : Fault}
    (refused : validAddress address = .error fault) :
    (analyseAddress settings world summariser client disk address wantSummary).traffic = {} := by
  unfold analyseAddress
  rw [refused]

/-- What is sent for a valid address is sent by the lookup of its source. -/
theorem analyseAddress_traffic {address : Value} {text : Wording}
    (valid : validAddress address = .ok text) :
    (analyseAddress settings world summariser client disk address wantSummary).traffic =
      (client.fetchSource text world.responses).traffic := by
  unfold analyseAddress
  rw [valid]
  dsimp only
  split
  · rfl
  · split <;> rfl

/-- A request is sent exactly for a valid address, and if there are attempts at all. -/
theorem mem_analyseAddress_requests {address : Value} {request : Request} :
    request ∈ (analyseAddress settings world summariser client disk address
        wantSummary).traffic.requests ↔
      ∃ text : String, address = .text text ∧ isAddressText text.toList = true ∧
        0 < client.attempts ∧ request = client.sourceRequest text := by
  cases valid : validAddress address with
  | error fault =>
      rw [analyseAddress_refused _ _ _ _ _ _ valid]
      apply iff_of_false List.not_mem_nil
      rintro ⟨text, rfl, accepted, -⟩
      rw [validAddress_text, if_pos accepted] at valid
      cases valid
  | ok text =>
      obtain ⟨text, rfl, rfl, accepted⟩ := validAddress_ok valid
      obtain ⟨count, sent, none⟩ := client.fetchSource_requests text world.responses
      rw [analyseAddress_traffic _ _ _ _ _ _ valid, sent, List.mem_replicate]
      constructor
      · rintro ⟨some, rfl⟩
        exact ⟨text, rfl, accepted, by omega, rfl⟩
      · rintro ⟨other, same, -, attempted, rfl⟩
        cases same
        exact ⟨by omega, rfl⟩

/-- All that is sent has the length of an address, unless a line is given and there are
attempts. -/
theorem analyseAddress_lengths (text : String) :
    (∀ request ∈ (analyseAddress settings world summariser client disk (.text text)
        wantSummary).traffic.requests,
      ∀ sent : String, memberOf "address" request.parameters = .text sent → sent.length = 42) ↔
        (IsAddressLine text → client.attempts ≤ 0) := by
  have sending (request : Request) := @mem_analyseAddress_requests _ settings world summariser
    client disk wantSummary (.text text) request
  constructor
  · intro short line
    by_contra attempted
    have listed := (sending _).mpr
      ⟨text, rfl, isAddressText_iff.mpr (.inr line), by omega, rfl⟩
    have length := short _ listed text (client.sourceRequest_address text)
    rw [line.length] at length
    cases length
  · intro unattempted request listed sent carried
    obtain ⟨_, same, valid, attempted, rfl⟩ := (sending request).mp listed
    cases same
    rw [client.sourceRequest_address] at carried
    cases carried
    rcases isAddressText_iff.mp valid with exact | line
    · exact exact.length
    · have none := unattempted line
      omega

/-- Requests are sent for accepted texts alone and carry them as they are. Accepted are addresses
and, beyond them, their lines. -/
theorem analyseAddress_sends (text : String) :
    ((isAddress (.text text) = .ok true ↔ IsExactAddress text ∨ IsAddressLine text) ∧
      (isAddress (.text text) = .ok false ↔ ¬ (IsExactAddress text ∨ IsAddressLine text))) ∧
    ((isAddress (.text text) = .ok true ↔ IsExactAddress text) ↔ ¬ IsAddressLine text) ∧
    (∀ address, ∀ request ∈ (analyseAddress settings world summariser client disk address
        wantSummary).traffic.requests,
      ∃ sent : String, address = .text sent ∧ memberOf "address" request.parameters = .text sent ∧
        (IsExactAddress sent ∨ IsAddressLine sent)) ∧
    ((∀ request ∈ (analyseAddress settings world summariser client disk (.text text)
        wantSummary).traffic.requests,
      ∀ sent : String, memberOf "address" request.parameters = .text sent → sent.length = 42) ↔
        (IsAddressLine text → client.attempts ≤ 0)) := by
  have accepted : isAddress (.text text) = .ok true ↔ IsExactAddress text ∨ IsAddressLine text := by
    rw [isAddress_text, Except.ok.injEq, isAddressText_iff]
  have rejected : isAddress (.text text) = .ok false ↔
      ¬ (IsExactAddress text ∨ IsAddressLine text) := by
    rw [isAddress_text, Except.ok.injEq, ← isAddressText_iff, Bool.not_eq_true]
  refine ⟨⟨accepted, rejected⟩, ?_, ?_, analyseAddress_lengths settings world summariser client disk
    wantSummary text⟩
  · rw [accepted]
    constructor
    · intro exactly line
      exact line.not_exact (exactly.mp (.inr line))
    · intro noLine
      exact or_iff_left noLine
  · intro address request listed
    obtain ⟨sent, rfl, valid, -, rfl⟩ :=
      (mem_analyseAddress_requests settings world summariser client disk wantSummary).mp listed
    exact ⟨sent, rfl, client.sourceRequest_address sent, isAddressText_iff.mp valid⟩

end Sending

section Standard

attribute [local instance] Host.standard

/-- A world in which no tool is at hand and nothing answers. -/
def silentWorld : World where
  tools :=
    { slither := .notStarted (.plain .missingFile "slither")
      solhint := .notStarted (.plain .missingFile "solhint") }
  compiler := .failed (.plain .general "no compiler")
  chat := .answered []
  responses := []
  clock := { year := 2024, month := 1, day := 2 }
  scratchFaults := {}

/-- Large and small letters may stand together. -/
theorem isExactAddress_mixed : IsExactAddress "0xAbCdEf0123AbCdEf0123AbCdEf0123AbCdEf0123" := by
  have digits : "AbCdEf0123AbCdEf0123AbCdEf0123AbCdEf0123".toList.all isHexDigit = true := by decide
  refine ⟨"AbCdEf0123AbCdEf0123AbCdEf0123AbCdEf0123".toList, by decide, by decide, ?_⟩
  intro digit inside
  exact isHexDigit_iff.mp (List.all_eq_true.mp digits digit inside)

/-- An address is sent with its own length. -/
theorem analyseAddress_sends_mixed :
    let client : Client := { url := "https://x.test/api" }
    let address := "0xAbCdEf0123AbCdEf0123AbCdEf0123AbCdEf0123"
    let run := analyseAddress {} silentWorld none client ⟨[], []⟩ (.text address) false
    isAddress (.text address) = .ok true ∧
      client.sourceRequest address ∈ run.traffic.requests ∧
      ∀ request ∈ run.traffic.requests,
        ∀ sent : String, memberOf "address" request.parameters = .text sent → sent.length = 42 := by
  intro client address run
  obtain ⟨⟨accepted, -⟩, -, -, lengths⟩ :=
    analyseAddress_sends {} silentWorld none client ⟨[], []⟩ false address
  have valid : isAddressText address.toList = true := by decide
  refine ⟨accepted.mpr (.inl isExactAddress_mixed), ?_, lengths.mpr fun line => ?_⟩
  · exact (mem_analyseAddress_requests {} silentWorld none client ⟨[], []⟩ false).mpr
      ⟨address, rfl, valid, by decide, rfl⟩
  · exact absurd isExactAddress_mixed line.not_exact

/-- An address with a line feed after it is accepted and sent, with 43 characters. -/
theorem analyseAddress_lineFeed :
    let client : Client := { url := "https://x.test/api" }
    let line := "0x1f1f1f1f1f1f1f1f1f1f1f1f1f1f1f1f1f1f1f1f\n"
    let run := analyseAddress {} silentWorld none client ⟨[], []⟩ (.text line) false
    isAddress (.text line) = .ok true ∧ ¬ IsExactAddress line ∧
      ∃ request ∈ run.traffic.requests,
        memberOf "address" request.parameters = .text line ∧ line.length = 43 := by
  intro client line run
  have valid : isAddressText line.toList = true := by decide
  have length : line.length = 43 := by decide
  refine ⟨by rw [isAddress_text, valid], ?_, client.sourceRequest line, ?_,
    client.sourceRequest_address line, length⟩
  · intro exact
    have short := exact.length
    rw [length] at short
    cases short
  · exact (mem_analyseAddress_requests {} silentWorld none client ⟨[], []⟩ false).mpr
      ⟨line, rfl, valid, by decide, rfl⟩

end Standard

end SolidityAudit
