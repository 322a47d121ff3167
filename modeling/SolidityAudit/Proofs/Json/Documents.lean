import SolidityAudit.Proofs.Json.Members
import SolidityAudit.Proofs.Outcome

namespace SolidityAudit.Json

open Text (Symbol Wording scalars)

mutual

/-- A document is a value whose objects may repeat names. What is read from it has each name
once. -/
def Value.settled : Value → Value
  | .array items => .array (Value.settledItems items)
  | .object members => .object (mergeMembers (Value.settledMembers members))
  | simple => simple

/-- The items of a document as they are read. -/
def Value.settledItems : List Value → List Value
  | [] => []
  | item :: rest => item.settled :: Value.settledItems rest

/-- The members of a document with their values as they are read. -/
def Value.settledMembers : List (Wording × Value) → List (Wording × Value)
  | [] => []
  | (name, value) :: rest => (name, value.settled) :: Value.settledMembers rest

end

/-- Items are read one by one. -/
theorem settledItems_eq (items : List Value) :
    Value.settledItems items = items.map Value.settled := by
  induction items with
  | nil => rfl
  | cons item rest ih => rw [Value.settledItems, ih, List.map_cons]

/-- The values of members are read one by one. -/
theorem settledMembers_eq (members : List (Wording × Value)) :
    Value.settledMembers members = members.map fun member => (member.1, member.2.settled) := by
  induction members with
  | nil => rfl
  | cons member rest ih => rw [Value.settledMembers, ih, List.map_cons]

/-- Only a text is read as a text. -/
theorem Value.settled_eq_text {value : Value} {text : Wording} :
    value.settled = .text text ↔ value = .text text := by
  cases value <;> simp [Value.settled]

/-- The members that are read from an object. -/
def readMembers (members : List (Wording × Value)) : List (Wording × Value) :=
  mergeMembers (Value.settledMembers members)

/-- An object is read with its members merged. -/
theorem Value.settled_object (members : List (Wording × Value)) :
    (Value.object members).settled = .object (readMembers members) := rfl

/-- Only an object is read as an object. -/
theorem Value.settled_eq_object {value : Value} {members : List (Wording × Value)} :
    value.settled = .object members ↔
      ∃ written, value = .object written ∧ readMembers written = members := by
  cases value <;> simp [Value.settled, readMembers]

/-- The last member is put last. -/
@[simp]
theorem readMembers_concat (members : List (Wording × Value)) (name : Wording) (value : Value) :
    readMembers (members ++ [(name, value)]) =
      putMember name value.settled (readMembers members) := by
  simp [readMembers, settledMembers_eq]

/-- The last member of a name is the one that is read. -/
theorem findMember?_readMembers (members : List (Wording × Value)) (name : Wording) :
    findMember? name (readMembers members) =
      (findMember? name members.reverse).map Value.settled := by
  rw [readMembers, settledMembers_eq, findMember?_mergeMembers, ← List.map_reverse,
    findMember?_map]

/-- The names are read in the order in which they come first. -/
theorem names_readMembers (members : List (Wording × Value)) :
    (readMembers members).map Prod.fst = (members.map Prod.fst).eraseDups := by
  rw [readMembers, settledMembers_eq, names_mergeMembers, List.map_map]
  rfl

section Course

/-! The containers that are open hold parts of the document. They are frames of the reader whose
members are kept as they are written. -/

/-- An open container as the reader holds it. -/
def Frame.settled : Frame → Frame
  | .array items => .array (Value.settledItems items)
  | .object members name => .object (readMembers members) name

/-- What is due, as the reader holds it. -/
def Expectation.settled : Expectation → Expectation
  | .nameOrCloseObject members => .nameOrCloseObject (readMembers members)
  | .name members => .name (readMembers members)
  | .colon members last => .colon (readMembers members) last
  | .afterValue whole => .afterValue whole.settled
  | expectation => expectation

/-- A state as the reader holds it. -/
def State.settled (state : State) : State :=
  ⟨state.expectation.settled, state.frames.map Frame.settled⟩

/-- The items before the last, each with its comma. -/
def earlierItems (items : List Value) : List Token :=
  items.flatMap fun item => valueTokens item ++ [.comma]

/-- The members before the last, each with its comma. -/
def earlierMembers (members : List (Wording × Value)) : List Token :=
  members.flatMap fun member => .text member.1 :: .colon :: valueTokens member.2 ++ [.comma]

/-- The tokens of an open container. -/
def Frame.tokens : Frame → List Token
  | .array items => .openArray :: earlierItems items.reverse
  | .object members name => .openObject :: earlierMembers members ++ [.text name, .colon]

/-- The tokens of what is not yet in a container. -/
def Expectation.tokens : Expectation → List Token
  | .value => []
  | .valueOrCloseArray => []
  | .nameOrCloseObject members => .openObject :: earlierMembers members
  | .name members => .openObject :: earlierMembers members
  | .colon members last => .openObject :: earlierMembers members ++ [.text last]
  | .afterValue whole => valueTokens whole

/-- The tokens that lead to the state. -/
def State.tokens (state : State) : List Token :=
  state.frames.reverse.flatMap Frame.tokens ++ state.expectation.tokens

/-- A container that may be closed at once is empty. -/
def State.IsFormed : State → Prop
  | ⟨.valueOrCloseArray, frames⟩ => ∃ outer, frames = .array [] :: outer
  | ⟨.nameOrCloseObject members, _⟩ => members = []
  | _ => True

/-- The tokens of the beginning of a document lead to the state. -/
def State.IsAfter (state : State) (taken : List Token) : Prop :=
  ∃ written : State, written.IsFormed ∧ written.settled = state ∧ written.tokens = taken

/-- The value has no parts and is no text. -/
def Value.isSimple : Value → Bool
  | .text _ | .array _ | .object _ => false
  | _ => true

/-- A token of a value stands for one without parts. -/
def Token.IsFormed (token : Token) : Prop :=
  ∀ value, token = .scalar value → value.isSimple = true

variable {token : Token} {next : State}

/-- The tokens of items end with those of the last one. -/
theorem itemTokens_concat (items : List Value) (last : Value) :
    itemTokens (items ++ [last]) = .comma :: earlierItems items ++ valueTokens last := by
  induction items with
  | nil => simp [itemTokens, earlierItems]
  | cons item rest ih =>
      simp only [earlierItems] at ih ⊢
      simp [itemTokens, ih]

/-- The tokens of members end with those of the last one. -/
theorem memberTokens_concat (members : List (Wording × Value)) (name : Wording) (last : Value) :
    memberTokens (members ++ [(name, last)]) =
      .comma :: earlierMembers members ++ .text name :: .colon :: valueTokens last := by
  induction members with
  | nil => simp [memberTokens, earlierMembers]
  | cons member rest ih =>
      simp only [earlierMembers] at ih ⊢
      simp [memberTokens, ih]

/-- An array is written by its earlier items and the last one. -/
theorem valueTokens_array (items : List Value) (last : Value) :
    valueTokens (.array (items ++ [last])) =
      .openArray :: earlierItems items ++ valueTokens last ++ [.closeArray] := by
  cases items with
  | nil => simp [valueTokens, itemTokens, earlierItems]
  | cons item rest => simp [valueTokens, itemTokens_concat, earlierItems]

/-- An object is written by its earlier members and the last one. -/
theorem valueTokens_object (members : List (Wording × Value)) (name : Wording) (last : Value) :
    valueTokens (.object (members ++ [(name, last)])) =
      .openObject :: earlierMembers members ++ .text name :: .colon :: valueTokens last ++
        [.closeObject] := by
  cases members with
  | nil => simp [valueTokens, memberTokens, earlierMembers]
  | cons member rest => simp [valueTokens, memberTokens_concat, earlierMembers]

/-- A value without parts is one token. -/
theorem valueTokens_simple {value : Value} (simple : value.isSimple = true) :
    valueTokens value = [.scalar value] ∧ value.settled = value := by
  cases value <;> first | exact ⟨rfl, rfl⟩ | cases simple

/-- A token where a value is due continues the document. -/
theorem startValue_written [Host] {frames : List Frame} (formed : token.IsFormed)
    (stepped : State.startValue (frames.map Frame.settled) token = .ok next) :
    next.IsAfter (frames.reverse.flatMap Frame.tokens ++ [token]) := by
  cases token with
  | scalar value =>
      obtain ⟨written, settled⟩ := valueTokens_simple (formed value rfl)
      cases stepped
      refine ⟨⟨.afterValue value, frames⟩, trivial, ?_, ?_⟩
      · simp [State.settled, Expectation.settled, settled]
      · simp [State.tokens, Expectation.tokens, written]
  | text value =>
      cases stepped
      refine ⟨⟨.afterValue (.text value), frames⟩, trivial, rfl, ?_⟩
      simp [State.tokens, Expectation.tokens, valueTokens]
  | openArray =>
      obtain ⟨-, -, opened⟩ := bind_eq_ok.mp stepped
      cases opened
      refine ⟨⟨.valueOrCloseArray, .array [] :: frames⟩, ⟨frames, rfl⟩, ?_, ?_⟩
      · simp [State.settled, Expectation.settled, Frame.settled, Value.settledItems]
      · simp [State.tokens, Expectation.tokens, Frame.tokens, earlierItems]
  | openObject =>
      obtain ⟨-, -, opened⟩ := bind_eq_ok.mp stepped
      cases opened
      refine ⟨⟨.nameOrCloseObject [], frames⟩, rfl, rfl, ?_⟩
      simp [State.tokens, Expectation.tokens, earlierMembers]
  | _ => cases stepped

/-- A token where a name is due continues the document. -/
theorem startName_written {members : List (Wording × Value)} {frames : List Frame}
    (stepped : State.startName (readMembers members) (frames.map Frame.settled) token = .ok next) :
    next.IsAfter (frames.reverse.flatMap Frame.tokens ++ .openObject :: earlierMembers members ++
      [token]) := by
  cases token with
  | text name =>
      cases stepped
      refine ⟨⟨.colon members name, frames⟩, trivial, rfl, ?_⟩
      simp [State.tokens, Expectation.tokens]
  | _ => cases stepped

/-- A token after a value continues the document. -/
theorem afterSeparator_written {value : Value} {frames : List Frame}
    (stepped : State.afterSeparator value.settled (frames.map Frame.settled) token = .ok next) :
    next.IsAfter (frames.reverse.flatMap Frame.tokens ++ valueTokens value ++ [token]) := by
  rcases frames with _ | ⟨⟨items⟩ | ⟨members, name⟩, outer⟩
  · cases token <;> cases stepped
  · cases token with
    | comma =>
        cases stepped
        refine ⟨⟨.value, .array (value :: items) :: outer⟩, trivial, rfl, ?_⟩
        simp [State.tokens, Expectation.tokens, Frame.tokens, earlierItems]
    | closeArray =>
        cases stepped
        refine ⟨⟨.afterValue (.array (items.reverse ++ [value])), outer⟩, trivial, ?_, ?_⟩
        · simp [State.settled, Expectation.settled, Value.settled, settledItems_eq]
        · simp [State.tokens, Expectation.tokens, Frame.tokens, valueTokens_array]
    | _ => cases stepped
  · cases token with
    | comma =>
        cases stepped
        refine ⟨⟨.name (members ++ [(name, value)]), outer⟩, trivial, ?_, ?_⟩
        · simp [State.settled, Expectation.settled]
        · simp [State.tokens, Expectation.tokens, Frame.tokens, earlierMembers]
    | closeObject =>
        cases stepped
        refine ⟨⟨.afterValue (.object (members ++ [(name, value)])), outer⟩, trivial, ?_, ?_⟩
        · simp [State.settled, Expectation.settled, Value.settled_object]
        · simp [State.tokens, Expectation.tokens, Frame.tokens, valueTokens_object]
    | _ => cases stepped

/-- A step of the reader takes one more token of the document. -/
theorem State.IsAfter.step [Host] {state : State} {taken : List Token} (after : state.IsAfter taken)
    (simple : token.IsFormed) (stepped : state.step token = .ok next) :
    next.IsAfter (taken ++ [token]) := by
  obtain ⟨⟨expectation, frames⟩, formed, rfl, rfl⟩ := after
  cases expectation with
  | value =>
      rw [State.tokens, Expectation.tokens, List.append_nil]
      exact startValue_written simple stepped
  | valueOrCloseArray =>
      obtain ⟨outer, rfl⟩ := formed
      cases token with
      | closeArray =>
          cases stepped
          refine ⟨⟨.afterValue (.array []), outer⟩, trivial, rfl, ?_⟩
          simp [State.tokens, Expectation.tokens, Frame.tokens, earlierItems, valueTokens]
      | _ =>
          rw [State.tokens, Expectation.tokens, List.append_nil]
          exact @startValue_written _ _ _ (.array [] :: outer) simple stepped
  | nameOrCloseObject members =>
      cases token with
      | closeObject =>
          cases formed
          cases stepped
          refine ⟨⟨.afterValue (.object []), frames⟩, trivial, rfl, ?_⟩
          simp [State.tokens, Expectation.tokens, earlierMembers, valueTokens]
      | _ => exact @startName_written _ _ members frames stepped
  | name members => exact startName_written stepped
  | colon members name =>
      cases token with
      | colon =>
          cases stepped
          refine ⟨⟨.value, .object members name :: frames⟩, trivial, rfl, ?_⟩
          simp [State.tokens, Expectation.tokens, Frame.tokens]
      | _ => cases stepped
  | afterValue value => exact afterSeparator_written stepped

/-- A run of the reader takes its tokens of the document. -/
theorem State.IsAfter.run [Host] {state last : State} {taken more : List Token}
    (after : state.IsAfter taken) (simple : ∀ token ∈ more, token.IsFormed)
    (ran : state.run more = .ok last) : last.IsAfter (taken ++ more) := by
  induction more generalizing state taken with
  | nil =>
      cases ran
      rwa [List.append_nil]
  | cons token rest ih =>
      obtain ⟨next, stepped, ran⟩ := bind_eq_ok.mp ran
      have first := after.step (simple token (by simp)) stepped
      have others := ih first (fun other listed => simple other (by simp [listed])) ran
      rwa [List.append_assoc] at others

end Course

section Scalars

variable [Host] {text rest : List Symbol} {value : Value}

/-- A value that is named by a word or read as a number. -/
def Value.IsLexed (value : Value) : Prop :=
  (∃ entry ∈ namedScalars, entry.2 = value) ∨
    ∃ negative text rest, readNumber? negative text = some (.scalar value, rest)

/-- A token stands for a value only as a word or a number. -/
theorem readToken?_lexed (first : readToken? text = some (.scalar value, rest)) :
    value.IsLexed := by
  revert first
  rw [readToken?.eq_def]
  split <;> intro first
  case h_8 =>
    simp only [readText?, Option.bind_eq_bind, Option.bind_eq_some_iff] at first
    obtain ⟨⟨fragments, after⟩, -, first⟩ := first
    cases first
  case h_9 | h_10 =>
    rcases Option.or_eq_some_iff.mp first with named | ⟨-, number⟩
    · simp only [readNamed?, Option.map_eq_some_iff] at named
      obtain ⟨entry, found, same⟩ := named
      cases same
      exact .inl ⟨entry, List.mem_of_find?_eq_some found, rfl⟩
    · exact .inr ⟨_, _, _, number⟩
  all_goals cases first

/-- So does each token of a text. -/
theorem tokensFrom_lexed {skip : Nat} (listed : .scalar value ∈ tokensFrom skip text) :
    value.IsLexed := by
  fun_induction tokensFrom skip text with
  | case1 => cases listed
  | case2 skip symbol rest ih => exact ih listed
  | case3 symbol rest blank ih => exact ih listed
  | case4 symbol rest visible unread => cases List.mem_singleton.mp listed
  | case5 symbol rest visible first remaining found ih =>
      rcases List.mem_cons.mp listed with rfl | later
      · exact readToken?_lexed found
      · exact ih later

/-- Words and numbers have no parts. -/
theorem Value.IsLexed.isSimple (lexed : value.IsLexed) : value.isSimple = true := by
  rcases lexed with ⟨entry, listed, rfl⟩ | ⟨negative, text, rest, number⟩
  · have simple : ∀ entry ∈ namedScalars, entry.2.isSimple = true := by
      simp [namedScalars, Value.isSimple]
    exact simple entry listed
  · simp only [readNumber?, Option.bind_eq_bind, Option.bind_eq_some_iff] at number
    obtain ⟨⟨whole, after⟩, -, number⟩ := number
    simp only at number
    split at number
    · split at number
      · cases number
      · cases number
        rfl
    · cases number
      rfl

/-- All tokens of a text are formed. -/
theorem tokensFrom_formed (skip : Nat) (text : List Symbol) :
    ∀ token ∈ tokensFrom skip text, token.IsFormed := by
  rintro token listed value rfl
  exact (tokensFrom_lexed listed).isSimple

end Scalars

section Unambiguity

/-- The first token of a value tells what kind of value it is. -/
def Value.firstToken : Value → Token
  | .text words => .text words
  | .array _ => .openArray
  | .object _ => .openObject
  | simple => .scalar simple

/-- The tokens of a value start with its first token. -/
theorem valueTokens_first (value : Value) :
    ∃ later, valueTokens value = value.firstToken :: later := by
  cases value with
  | array items => cases items <;> exact ⟨_, rfl⟩
  | object members => rcases members with _ | ⟨⟨name, value⟩, rest⟩ <;> exact ⟨_, rfl⟩
  | _ => exact ⟨_, rfl⟩

/-- Values with the same tokens have the same first token. -/
theorem firstToken_eq {value other : Value} {more rest : List Token}
    (same : valueTokens value ++ more = valueTokens other ++ rest) :
    value.firstToken = other.firstToken := by
  obtain ⟨later, first⟩ := valueTokens_first value
  obtain ⟨others, second⟩ := valueTokens_first other
  rw [first, second] at same
  exact (List.cons.inj same).1

/-- No value starts with the end of an array. -/
theorem valueTokens_ne_close (value : Value) {more rest : List Token} :
    valueTokens value ++ more ≠ .closeArray :: rest := by
  obtain ⟨later, first⟩ := valueTokens_first value
  rw [first]
  intro same
  have closed := (List.cons.inj same).1
  cases value <;> cases closed

mutual

/-- No two values begin with the same tokens. -/
theorem valueTokens_cancel : (value other : Value) → (more rest : List Token) →
    valueTokens value ++ more = valueTokens other ++ rest → value = other ∧ more = rest
  | .array [], other, more, rest, same => by
      have kind := firstToken_eq same
      cases other with
      | array others =>
          cases others with
          | nil => exact ⟨rfl, List.append_cancel_left same⟩
          | cons next others =>
              simp only [valueTokens, List.cons_append, List.append_assoc, List.cons.injEq,
                true_and] at same
              exact absurd same.symm (valueTokens_ne_close next)
      | _ => cases kind
  | .array (item :: items), other, more, rest, same => by
      have kind := firstToken_eq same
      cases other with
      | array others =>
          cases others with
          | nil =>
              simp only [valueTokens, List.cons_append, List.append_assoc, List.cons.injEq,
                true_and] at same
              exact absurd same (valueTokens_ne_close item)
          | cons next others =>
              simp only [valueTokens, List.cons_append, List.append_assoc, List.cons.injEq,
                true_and, List.nil_append] at same
              obtain ⟨rfl, after⟩ := valueTokens_cancel item next _ _ same
              obtain ⟨rfl, closed⟩ := itemTokens_cancel items others _ _ after
              exact ⟨rfl, closed⟩
      | _ => cases kind
  | .object [], other, more, rest, same => by
      have kind := firstToken_eq same
      cases other with
      | object others =>
          rcases others with _ | ⟨⟨name, next⟩, others⟩
          · exact ⟨rfl, List.append_cancel_left same⟩
          · cases (List.cons.inj (List.cons.inj same).2).1
      | _ => cases kind
  | .object ((name, value) :: members), other, more, rest, same => by
      have kind := firstToken_eq same
      cases other with
      | object others =>
          rcases others with _ | ⟨⟨otherName, next⟩, others⟩
          · cases (List.cons.inj (List.cons.inj same).2).1
          · simp only [valueTokens, List.cons_append, List.append_assoc, List.cons.injEq,
              true_and, List.nil_append, Token.text.injEq] at same
            obtain ⟨rfl, within⟩ := same
            obtain ⟨rfl, after⟩ := valueTokens_cancel value next _ _ within
            obtain ⟨rfl, closed⟩ := memberTokens_cancel members others _ _ after
            exact ⟨rfl, closed⟩
      | _ => cases kind
  | .text _, other, _, _, same | .null, other, _, _, same | .bool _, other, _, _, same
  | .integer _, other, _, _, same | .real _, other, _, _, same => by
      have kind := firstToken_eq same
      cases other <;> cases kind
      exact ⟨rfl, List.append_cancel_left same⟩

/-- No two lists of items have the same tokens. -/
theorem itemTokens_cancel : (items others : List Value) → (more rest : List Token) →
    itemTokens items ++ .closeArray :: more = itemTokens others ++ .closeArray :: rest →
      items = others ∧ more = rest
  | [], [], _, _, same => ⟨rfl, (List.cons.inj same).2⟩
  | [], _ :: _, _, _, same => by cases (List.cons.inj same).1
  | _ :: _, [], _, _, same => by cases (List.cons.inj same).1
  | item :: items, next :: others, more, rest, same => by
      simp only [itemTokens, List.cons_append, List.append_assoc, List.cons.injEq,
        true_and] at same
      obtain ⟨rfl, after⟩ := valueTokens_cancel item next _ _ same
      obtain ⟨rfl, closed⟩ := itemTokens_cancel items others _ _ after
      exact ⟨rfl, closed⟩

/-- No two lists of members have the same tokens. -/
theorem memberTokens_cancel : (members others : List (Wording × Value)) →
    (more rest : List Token) →
      memberTokens members ++ .closeObject :: more = memberTokens others ++ .closeObject :: rest →
        members = others ∧ more = rest
  | [], [], _, _, same => ⟨rfl, (List.cons.inj same).2⟩
  | [], _ :: _, _, _, same => by cases (List.cons.inj same).1
  | _ :: _, [], _, _, same => by cases (List.cons.inj same).1
  | (name, value) :: members, (otherName, next) :: others, more, rest, same => by
      simp only [memberTokens, List.cons_append, List.append_assoc, List.cons.injEq, true_and,
        Token.text.injEq] at same
      obtain ⟨rfl, within⟩ := same
      obtain ⟨rfl, after⟩ := valueTokens_cancel value next _ _ within
      obtain ⟨rfl, closed⟩ := memberTokens_cancel members others _ _ after
      exact ⟨rfl, closed⟩

end

/-- The text has just the tokens of the document. -/
def Writes [Host] (text : List Symbol) (document : Value) : Prop :=
  tokens text = valueTokens document

/-- A text writes one document. -/
theorem Writes.unique [Host] {text : List Symbol} {document other : Value}
    (first : Writes text document) (second : Writes text other) : document = other := by
  have same := first.symm.trans second
  rw [← List.append_nil (valueTokens document), ← List.append_nil (valueTokens other)] at same
  exact (valueTokens_cancel document other [] [] same).1

end Unambiguity

/-- What is read is the value of the document that the text writes. -/
theorem read_written [Host] {text : List Symbol} {value : Value} (reading : read text = .ok value) :
    ∃ document, Writes text document ∧ document.settled = value := by
  obtain ⟨last, ran, ended⟩ := bind_eq_ok.mp reading
  have start : State.IsAfter ⟨.value, []⟩ [] := ⟨⟨.value, []⟩, trivial, rfl, rfl⟩
  obtain ⟨⟨expectation, frames⟩, -, rfl, taken⟩ := start.run (tokensFrom_formed 0 text) ran
  rw [List.nil_append] at taken
  cases expectation with
  | afterValue document =>
      cases frames with
      | nil =>
          cases ended
          exact ⟨document, taken.symm, rfl⟩
      | cons => cases ended
  | _ => cases ended

section Nesting

variable [Host]

/-- Brackets are tokens by themselves. -/
theorem tokens_openArrays (count : Nat) (rest : List Symbol) :
    tokens (scalars (List.replicate count '[') ++ rest) =
      List.replicate count .openArray ++ tokens rest := by
  induction count with
  | zero => rfl
  | succ count ih =>
      rw [List.replicate_succ, Text.scalars_cons, List.cons_append, tokens_openArray, ih]
      rfl

/-- Opening arrays fails where there is no room. -/
theorem run_openArrays {frames : List Frame} (count : Nat) (more : List Token)
    (fits : frames.length ≤ Host.openContainers)
    (deep : Host.openContainers < frames.length + count) :
    State.run ⟨.valueOrCloseArray, frames⟩ (List.replicate count .openArray ++ more) =
      .error (.tooDeep .array) := by
  induction count generalizing frames with
  | zero => omega
  | succ count ih =>
      rw [List.replicate_succ, List.cons_append]
      by_cases room : frames.length < Host.openContainers
      · have opened : State.step ⟨.valueOrCloseArray, frames⟩ .openArray =
            .ok ⟨.valueOrCloseArray, .array [] :: frames⟩ := step_openArray room
        rw [run_step _ opened]
        exact ih (Nat.succ_le_of_lt room) (by rw [List.length_cons]; omega)
      · have refused : State.step ⟨.valueOrCloseArray, frames⟩ .openArray =
            .error (.tooDeep .array) := by
          change (checkNesting frames .array >>= fun _ => _) = _
          rw [checkNesting, if_neg room]
          rfl
        rw [State.run, refused]
        rfl

/-- Arrays within each other are not read once there are more of them than may be open. -/
theorem read_openArrays {count : Nat} (deep : Host.openContainers < count) (rest : List Symbol) :
    read (scalars (List.replicate count '[') ++ rest) = .error (.tooDeep .array) := by
  have ran := @run_openArrays _ [] count (tokens rest) (by simp) (by simpa using deep)
  obtain ⟨fewer, rfl⟩ : ∃ fewer, count = fewer + 1 := ⟨count - 1, by omega⟩
  rw [read, tokens_openArrays]
  exact congrArg (· >>= State.result) ran

end Nesting

end SolidityAudit.Json
