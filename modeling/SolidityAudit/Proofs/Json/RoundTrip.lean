import SolidityAudit.Proofs.Json.Tokens

namespace SolidityAudit.Json

open Text (Symbol Wording scalars)

/-- A new name goes to the end. -/
theorem putMember_new {name : Wording} (value : Value) {members : List (Wording × Value)}
    (new : name ∉ members.map Prod.fst) :
    putMember name value members = members ++ [(name, value)] := by
  induction members with
  | nil => rfl
  | cons member rest ih =>
      rcases member with ⟨other, current⟩
      simp only [List.map_cons, List.mem_cons, not_or] at new
      have different : (other == name) = false := beq_eq_false_iff_ne.mpr (Ne.symm new.1)
      simp [putMember, different, ih new.2]

variable [Host]

/-- A token that is taken leads to the rest. -/
theorem run_step {state next : State} {token : Token} (rest : List Token)
    (stepped : state.step token = .ok next) :
    state.run (token :: rest) = next.run rest := by
  rw [State.run, stepped]
  rfl

/-- A container may be opened while there is room. -/
theorem checkNesting_room {frames : List Frame} (container : Container)
    (room : frames.length < Host.openContainers) : checkNesting frames container = .ok () := by
  rw [checkNesting, if_pos room]

/-- An array is opened where a value is due. -/
theorem step_openArray {frames : List Frame} (room : frames.length < Host.openContainers) :
    State.step ⟨.value, frames⟩ .openArray = .ok ⟨.valueOrCloseArray, .array [] :: frames⟩ := by
  simp only [State.step, State.startValue, checkNesting_room .array room]
  rfl

/-- An object is opened where a value is due. -/
theorem step_openObject {frames : List Frame} (room : frames.length < Host.openContainers) :
    State.step ⟨.value, frames⟩ .openObject = .ok ⟨.nameOrCloseObject [], frames⟩ := by
  simp only [State.step, State.startValue, checkNesting_room .object room]
  rfl

/-- The first token of a value is taken in the same way after an opened array. -/
theorem valueTokens_head (value : Value) :
    ∃ token rest, valueTokens value = token :: rest ∧
      ∀ frames, State.step ⟨.valueOrCloseArray, frames⟩ token =
        State.step ⟨.value, frames⟩ token := by
  cases value with
  | array items => cases items <;> exact ⟨_, _, rfl, fun _ => rfl⟩
  | object members =>
      rcases members with _ | ⟨⟨name, value⟩, rest⟩ <;> exact ⟨_, _, rfl, fun _ => rfl⟩
  | _ => exact ⟨_, _, rfl, fun _ => rfl⟩

/-- The first item of an array is read like any other value. -/
theorem run_firstItem (value : Value) (frames : List Frame) (more : List Token) :
    State.run ⟨.valueOrCloseArray, frames⟩ (valueTokens value ++ more) =
      State.run ⟨.value, frames⟩ (valueTokens value ++ more) := by
  obtain ⟨token, rest, head, same⟩ := valueTokens_head value
  rw [head, List.cons_append, State.run, State.run, same]

omit [Host] in
/-- A name that stands once stands nowhere before. -/
theorem notBefore {name : Wording} {before after : List Wording}
    (distinct : (before ++ name :: after).Nodup) : name ∉ before := by
  rw [List.nodup_append] at distinct
  intro listed
  exact distinct.2.2 name listed name (by simp) rfl

mutual

/-- Where a value is due, its tokens complete it. -/
theorem run_value : (value : Value) → (room : Nat) → (frames : List Frame) →
    (more : List Token) → value.isPlain room = true → frames.length + room ≤ Host.openContainers →
      State.run ⟨.value, frames⟩ (valueTokens value ++ more) =
        State.run ⟨.afterValue value, frames⟩ more
  | .null, _, _, more, _, _ => run_step more rfl
  | .bool _, _, _, more, _, _ => run_step more rfl
  | .integer _, _, _, more, _, _ => run_step more rfl
  | .text _, _, _, more, _, _ => run_step more rfl
  | .array [], room, frames, more, plain, fits => by
      simp only [Value.isPlain, Bool.and_eq_true, decide_eq_true_eq] at plain
      rw [valueTokens, List.cons_append, run_step _ (step_openArray (by omega))]
      exact run_step more rfl
  | .array (item :: rest), room, frames, more, plain, fits => by
      simp only [Value.isPlain, Value.arePlain, Bool.and_eq_true, decide_eq_true_eq] at plain
      have deeper : (Frame.array [] :: frames).length + (room - 1) ≤ Host.openContainers := by
        rw [List.length_cons]
        omega
      simp only [valueTokens, List.cons_append, List.append_assoc, List.nil_append]
      rw [run_step _ (step_openArray (by omega)), run_firstItem,
        run_value item (room - 1) _ _ plain.2.1 deeper]
      exact run_items rest (room - 1) [] item frames more plain.2.2 deeper
  | .object [], room, frames, more, plain, fits => by
      simp only [Value.isPlain, Bool.and_eq_true, decide_eq_true_eq] at plain
      rw [valueTokens, List.cons_append, run_step _ (step_openObject (by omega))]
      exact run_step more rfl
  | .object ((name, value) :: rest), room, frames, more, plain, fits => by
      simp only [Value.isPlain, Value.havePlain, Bool.and_eq_true, decide_eq_true_eq] at plain
      have deeper : (Frame.object [] name :: frames).length + (room - 1) ≤ Host.openContainers := by
        rw [List.length_cons]
        omega
      simp only [valueTokens, List.cons_append, List.append_assoc, List.nil_append]
      rw [run_step _ (step_openObject (by omega)), run_step _ rfl, run_step _ rfl,
        run_value value (room - 1) _ _ plain.2.1.2 deeper]
      exact run_members rest (room - 1) [] name value frames more plain.2.2 plain.1.2 deeper

/-- The items after the first go to the array in order. -/
theorem run_items : (items : List Value) → (room : Nat) → (done : List Value) → (item : Value) →
    (frames : List Frame) → (more : List Token) → Value.arePlain room items = true →
      (Frame.array done :: frames).length + room ≤ Host.openContainers →
        State.run ⟨.afterValue item, .array done :: frames⟩
            (itemTokens items ++ .closeArray :: more) =
          State.run ⟨.afterValue (.array (done.reverse ++ item :: items)), frames⟩ more
  | [], _, done, item, frames, more, _, _ => by
      rw [itemTokens, List.nil_append, run_step more rfl, List.reverse_cons]
  | next :: rest, room, done, item, frames, more, plain, fits => by
      simp only [Value.arePlain, Bool.and_eq_true] at plain
      have same : (Frame.array (item :: done) :: frames).length + room ≤ Host.openContainers := fits
      have first := run_value next room (.array (item :: done) :: frames)
        (itemTokens rest ++ .closeArray :: more) plain.1 same
      have after := run_items rest room (item :: done) next frames more plain.2 same
      simp only [itemTokens, List.cons_append, List.append_assoc]
      rw [run_step _ rfl, first, after, List.reverse_cons, List.append_assoc]
      rfl

/-- The members after the first go to the object in order, as long as their names are new. -/
theorem run_members : (members : List (Wording × Value)) → (room : Nat) →
    (done : List (Wording × Value)) → (name : Wording) → (value : Value) → (frames : List Frame) →
      (more : List Token) → Value.havePlain room members = true →
        (done.map Prod.fst ++ name :: members.map Prod.fst).Nodup →
          (Frame.object done name :: frames).length + room ≤ Host.openContainers →
            State.run ⟨.afterValue value, .object done name :: frames⟩
                (memberTokens members ++ .closeObject :: more) =
              State.run ⟨.afterValue (.object (done ++ (name, value) :: members)), frames⟩ more
  | [], _, done, name, value, frames, more, _, distinct, _ => by
      have new := notBefore distinct
      rw [memberTokens, List.nil_append, run_step more rfl, putMember_new value new]
  | (nextName, next) :: rest, room, done, name, value, frames, more, plain, distinct, fits => by
      simp only [Value.havePlain, Bool.and_eq_true] at plain
      have new := notBefore distinct
      have same : (Frame.object (done ++ [(name, value)]) nextName :: frames).length + room ≤
        Host.openContainers := fits
      have first := run_value next room (.object (done ++ [(name, value)]) nextName :: frames)
        (memberTokens rest ++ .closeObject :: more) plain.1.2 same
      have after := run_members rest room (done ++ [(name, value)]) nextName next frames more
        plain.2 (by simpa using distinct) same
      simp only [memberTokens, List.cons_append, List.append_assoc]
      rw [run_step _ rfl, putMember_new value new, run_step _ rfl, run_step _ rfl]
      simp only
      rw [first, after, List.append_assoc]
      rfl

end

/-- Reading undoes writing, also where blanks follow. -/
theorem read_writtenValue (charset : Charset) {value : Value}
    (plain : value.isPlain Host.openContainers = true) (writable : value.isWritable = true)
    {rest : List Symbol} (ends : EndsNumber rest) (blank : tokens rest = []) :
    read (writtenValue charset 0 value ++ rest) = .ok value := by
  have fits : value.obstacle? Host.shownContainers = none := Option.isNone_iff_eq_none.mp writable
  have lexed := tokens_value charset 0 Host.openContainers _ value rest plain fits ends
  have parsed := run_value value Host.openContainers [] [] plain (by simp)
  rw [List.append_nil] at parsed
  rw [read, lexed, blank, List.append_nil, parsed]
  rfl

/-- A rendered value is read back. -/
theorem readString_render {charset : Charset} {value : Value}
    (plain : value.isPlain Host.openContainers = true) (writable : value.isWritable = true) :
    readString (value.render charset) = .ok value := by
  have whole := read_writtenValue charset plain writable endsNumber_nil rfl
  rw [List.append_nil] at whole
  rwa [readString, Value.render, Wording.symbols_ofSymbols]

/-- A line break at the end does not matter. -/
theorem readString_renderedLine {charset : Charset} {value : Value}
    (plain : value.isPlain Host.openContainers = true) (writable : value.isWritable = true) :
    readString (value.render charset ++ Wording.plain "\n") = .ok value := by
  have ends : EndsNumber (scalars ['\n']) := endsNumber_cons [] (by decide)
  rw [readString, Value.render, Wording.symbols_append, Wording.symbols_ofSymbols]
  exact read_writtenValue charset plain writable ends rfl

end SolidityAudit.Json
