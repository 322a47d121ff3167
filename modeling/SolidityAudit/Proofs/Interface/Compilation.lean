import SolidityAudit.Interface.Synthesis
import SolidityAudit.Proofs.Json.Shapes

namespace SolidityAudit.Interface

open Json (Value ShapeFault)
open Text (Wording)

/-- The whole number that a value counts as when it is used as a position. -/
def position? : Value → Option Int
  | .integer index => some index
  | .bool index => some (if index then 1 else 0)
  | _ => none

/-- The contract under the first key, where a list is indexed by its first item. -/
inductive FirstListed : Value → Value → Prop where
  | named {name : Wording} {contract : Value} {others : List (Wording × Value)} :
      FirstListed (.object ((name, contract) :: others)) contract
  | counted {first contract : Value} {rest : List Value} {index : Nat}
      (position : position? first = some (.ofNat index))
      (found : (first :: rest)[index]? = some contract) :
      FirstListed (.array (first :: rest)) contract
  | countedBack {first contract : Value} {rest : List Value} {back : Nat}
      (position : position? first = some (.negSucc back))
      (found : (first :: rest).reverse[back]? = some contract) :
      FirstListed (.array (first :: rest)) contract

/-- A position counts from the front. -/
theorem itemAt_forward {items : List Value} {index : Nat} {item : Value} :
    itemAt items index = .ok item ↔ items[index]? = some item := by
  have forward : ¬ (index : Int) < 0 := by omega
  simp only [itemAt, forward, if_false, Int.toNat_natCast]
  cases items[index]? <;> simp

/-- A negative position counts from the end. -/
theorem itemAt_backward {items : List Value} {back : Nat} {item : Value} :
    itemAt items (.negSucc back) = .ok item ↔ items.reverse[back]? = some item := by
  have backward : Int.negSucc back < 0 := by omega
  simp only [itemAt, backward, if_true]
  by_cases inside : back < items.length
  · have place : ¬ Int.negSucc back + items.length < 0 := by omega
    have same : (Int.negSucc back + items.length).toNat = items.length - 1 - back := by omega
    rw [if_neg place, same, List.getElem?_reverse inside]
    cases items[items.length - 1 - back]? <;> simp
  · have place : Int.negSucc back + items.length < 0 := by omega
    rw [if_pos place, List.getElem?_eq_none (by simpa using inside)]
    simp

/-- A list is indexed by its own first item. -/
theorem firstContract_counted {first : Value} {rest : List Value} {index : Int}
    (position : position? first = some index) :
    firstContract (.array (first :: rest)) = itemAt (first :: rest) index := by
  cases first with
  | integer number =>
      cases position
      rfl
  | bool flag =>
      cases position
      rfl
  | _ => cases position

/-- The first contract is found as it is listed. -/
theorem firstContract_ok {contracts contract : Value} :
    firstContract contracts = .ok contract ↔ FirstListed contracts contract := by
  constructor
  · intro given
    cases contracts with
    | object members =>
        cases members with
        | nil => cases given
        | cons entry others =>
            cases given
            exact .named
    | array items =>
        cases items with
        | nil => cases given
        | cons first rest =>
            cases position : position? first with
            | none =>
                cases first with
                | integer number => cases position
                | bool flag => cases position
                | _ => cases given
            | some index =>
                rw [firstContract_counted position] at given
                cases index with
                | ofNat index => exact .counted position (itemAt_forward.mp given)
                | negSucc back => exact .countedBack position (itemAt_backward.mp given)
    | _ => cases given
  · intro listed
    cases listed with
    | named => rfl
    | counted position found =>
        exact (firstContract_counted position).trans (itemAt_forward.mpr found)
    | countedBack position found =>
        exact (firstContract_counted position).trans (itemAt_backward.mpr found)

/-- Where a contract is listed, some are. -/
theorem FirstListed.isPresent {contracts contract : Value}
    (listed : FirstListed contracts contract) : contracts.isPresent = true := by
  cases listed <;> rfl

/-- The words of a message: the formatted ones, else the short ones, else none. -/
def messageWords (fields : List (Wording × Value)) : Value :=
  (Json.findMember? "formattedMessage" fields).getD
    ((Json.findMember? "message" fields).getD (.text ""))

/-- An object whose words can be shown. -/
def IsMessage [Host] (item : Value) : Prop :=
  ∃ fields, item = .object fields ∧ (messageWords fields).isWritable = true

/-- The compiler's messages are all read exactly where each of them can be shown. -/
theorem messagesOf_readable [Host] {items : List Value} :
    (messagesOf items).2 = none ↔ ∀ item ∈ items, IsMessage item := by
  induction items with
  | nil => simp [messagesOf]
  | cons item rest ih =>
      rw [List.forall_mem_cons, ← ih]
      cases item with
      | object fields =>
          have shownOnly : (messagesOf (.object fields :: rest)).2 = none ↔
              Returns (messageWords fields).shown ∧ (messagesOf rest).2 = none := by
            have message : (do
                let short ← (Value.object fields).memberOr "message" (.text "")
                let message ← (Value.object fields).memberOr "formattedMessage" short
                message.shown) = (messageWords fields).shown := rfl
            rw [messagesOf, message]
            cases (messageWords fields).shown <;> simp
          have isMessage : IsMessage (.object fields) ↔
              (messageWords fields).isWritable = true := by
            simp [IsMessage]
          rw [shownOnly, isMessage, Value.shown, Value.isWritable]
          cases (messageWords fields).refusal? <;> simp
      | _ =>
          simp [messagesOf, Value.memberOr, Value.members, Except.map, bind, Except.bind,
            IsMessage]

/-- The messages of the compiler can all be shown, or there are none. -/
def HasReadableMessages [Host] (output : Value) : Prop :=
  ∃ errors items, output.member "errors" = .ok errors ∧
    (errors.orElse (.array [])).elements = .ok items ∧ ∀ item ∈ items, IsMessage item

/-- The interface of the first contract that is listed for the source, or an empty one. -/
def ListsInterface (output interface : Value) : Prop :=
  ∃ units contracts contract abi, output.member "contracts" = .ok units ∧
    (units.orElse (.object [])).member sourceName = .ok contracts ∧
      FirstListed contracts contract ∧ contract.member "abi" = .ok abi ∧
        abi.orElse (.array []) = interface

/-- The compiler's output is read without a fault, and its first interface is converted from
the first entry to the last. -/
def Compiles [Host] (outcome : CompilerOutcome) (entries : List Entry) : Prop :=
  ∃ output interface, outcome = .returned output ∧ HasReadableMessages output ∧
    ListsInterface output interface ∧ ofJson interface = .ok entries

/-- The interface is read as it is listed. -/
theorem contractInterface?_some {output interface : Value} :
    contractInterface? output = .ok (some interface) ↔ ListsInterface output interface := by
  unfold contractInterface?
  constructor
  · intro given
    obtain ⟨units, unitsGiven, given⟩ := bind_eq_ok.mp given
    obtain ⟨contracts, contractsGiven, given⟩ := bind_eq_ok.mp given
    split at given
    · obtain ⟨contract, listed, given⟩ := bind_eq_ok.mp given
      obtain ⟨abi, abiGiven, given⟩ := bind_eq_ok.mp given
      cases given
      exact ⟨units, contracts, contract, abi, unitsGiven, contractsGiven,
        firstContract_ok.mp listed, abiGiven, rfl⟩
    · cases given
  · rintro ⟨units, contracts, contract, abi, unitsGiven, contractsGiven, listed, abiGiven, rfl⟩
    refine bind_eq_ok.mpr ⟨units, unitsGiven, bind_eq_ok.mpr ⟨contracts, contractsGiven, ?_⟩⟩
    rw [if_pos listed.isPresent]
    exact bind_eq_ok.mpr ⟨contract, firstContract_ok.mpr listed,
      bind_eq_ok.mpr ⟨abi, abiGiven, rfl⟩⟩

section Synthesis

variable [Host]

/-- The messages are all read exactly where they can be. -/
theorem hasReadableMessages_iff {output : Value} :
    HasReadableMessages output ↔ ∃ items, (do
      let errors ← output.member "errors"
      (errors.orElse (.array [])).elements) = .ok items ∧ (messagesOf items).2 = none := by
  simp only [HasReadableMessages, bind_eq_ok, messagesOf_readable]
  constructor
  · rintro ⟨errors, items, given, listed, readable⟩
    exact ⟨items, ⟨errors, given, listed⟩, readable⟩
  · rintro ⟨items, ⟨errors, given, listed⟩, readable⟩
    exact ⟨errors, items, given, listed, readable⟩

/-- A compilation yields the interface that is listed. -/
theorem compilationOf_some {output interface : Value} :
    (compilationOf (.returned output)).interface? = .ok (some interface) ↔
      HasReadableMessages output ∧ ListsInterface output interface := by
  rw [← contractInterface?_some, hasReadableMessages_iff, compilationOf]
  generalize (do
    let errors ← output.member "errors"
    (errors.orElse (.array [])).elements : Except ShapeFault (List Value)) = gathered
  cases gathered with
  | error fault => simp
  | ok items =>
      rcases messages : messagesOf items with ⟨texts, fault?⟩
      cases fault? with
      | some fault => simp [messages]
      | none => simp [messages, mapError_eq_ok]

omit [Host] in
/-- Only what can be taken apart is converted, so its entries can be counted. -/
theorem ofJson_counted {interface : Value} {entries : List Entry}
    (converted : ofJson interface = .ok entries) : ∃ count, interface.count = .ok count := by
  obtain ⟨items, listed, -⟩ := bind_eq_ok.mp converted
  exact ⟨items.length, by rw [Value.count, listed]⟩

/-- A converted interface is taken as it is. -/
theorem synthesise_compiled {version source : Option String} {outcome : CompilerOutcome}
    {entries : List Entry} (compiled : Compiles outcome entries) :
    (synthesise version source outcome).entries = entries := by
  obtain ⟨output, interface, rfl, readable, listed, converted⟩ := compiled
  have given := compilationOf_some.mpr ⟨readable, listed⟩
  obtain ⟨count, counted⟩ := ofJson_counted converted
  simp only [synthesise, given, counted, converted]

/-- Without one the source is scanned. -/
theorem synthesise_scanned {version source : Option String} {outcome : CompilerOutcome}
    (uncompiled : ¬ ∃ entries, Compiles outcome entries) :
    (synthesise version source outcome).entries = ofSource (source.getD "") := by
  unfold synthesise
  dsimp only
  split
  · rfl
  · rfl
  · next interface given =>
      split
      · rfl
      · next count counted =>
          split
          · rfl
          · next entries converted =>
              refine absurd ⟨entries, ?_⟩ uncompiled
              cases outcome with
              | failed fault => cases given
              | returned output =>
                  obtain ⟨readable, listed⟩ := compilationOf_some.mp given
                  exact ⟨output, interface, rfl, readable, listed, converted⟩

/-- The entries are all those that the compiler lists first, or those that the source declares. -/
theorem synthesise_wholly (version source : Option String) (outcome : CompilerOutcome) :
    Compiles outcome (synthesise version source outcome).entries ∨
      (¬ ∃ entries, Compiles outcome entries) ∧
        (synthesise version source outcome).entries = ofSource (source.getD "") := by
  by_cases compiled : ∃ entries, Compiles outcome entries
  · obtain ⟨entries, compiled⟩ := compiled
    rw [synthesise_compiled compiled]
    exact .inl compiled
  · exact .inr ⟨compiled, synthesise_scanned compiled⟩

end Synthesis

section Standard

attribute [local instance] Host.standard

/-- A list of contracts is indexed by its first item, which may pass over one. -/
theorem synthesise_self_indexed_list :
    let event : Value := .object [("type", .text "event"), ("name", .text "E")]
    let contracts : Value := .array [.integer 2, .object [("abi", .array [])],
      .object [("abi", .array [event])]]
    let outcome : CompilerOutcome :=
      .returned (.object [("contracts", .object [(sourceName, contracts)])])
    (synthesise none (some "") outcome).entries = [Entry.event (.text "E") [] false] ∧
      ofSource "" = [] :=
  ⟨rfl, rfl⟩

end Standard

end SolidityAudit.Interface
