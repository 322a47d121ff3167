import Mathlib.Data.Nat.Digits.Defs
import SolidityAudit.Json.Shape
import SolidityAudit.Proofs.Json.Documents

namespace SolidityAudit

section Figures

variable [Host] {figures : Nat}

/-- A limit is kept where the figures are within it. -/
theorem exceededLimit?_eq_none :
    exceededLimit? figures = none ↔ ∀ limit, Host.figureLimit = some limit → figures ≤ limit := by
  simp [exceededLimit?, Option.filter_eq_none_iff]

/-- A limit is exceeded where there are more figures. -/
theorem exceededLimit?_eq_some {limit : Nat} :
    exceededLimit? figures = some limit ↔ Host.figureLimit = some limit ∧ limit < figures := by
  simp [exceededLimit?, Option.filter_eq_some_iff]

end Figures

namespace Json

open Text (Symbol Wording)

section Integers

mutual

/-- The whole numbers in a value. -/
def Value.integers : Value → List Int
  | .integer number => [number]
  | .array items => integersAmong items
  | .object members => integersWithin members
  | _ => []

/-- The whole numbers in the items of an array. -/
def integersAmong : List Value → List Int
  | [] => []
  | item :: rest => item.integers ++ integersAmong rest

/-- The whole numbers in the members of an object. -/
def integersWithin : List (Wording × Value) → List Int
  | [] => []
  | (_, value) :: rest => value.integers ++ integersWithin rest

end

/-- The host reads and writes whole numbers with so many figures. -/
def AreReadable [Host] (numbers : List Int) : Prop :=
  ∀ limit, Host.figureLimit = some limit → ∀ number ∈ numbers, figureCount number ≤ limit

variable [Host]

/-- Numbers are readable together if they are apart. -/
theorem areReadable_append {first second : List Int} :
    AreReadable (first ++ second) ↔ AreReadable first ∧ AreReadable second := by
  simp only [AreReadable, List.mem_append, or_imp, forall_and]

mutual

/-- Numbers are all that keeps a plain value from being written. -/
theorem obstacle?_plain {room bound : Nat} (within : room ≤ bound) : (value : Value) →
    value.isPlain room = true → (value.obstacle? bound = none ↔ AreReadable value.integers)
  | .array items, plain => by
      simp only [Value.isPlain, Bool.and_eq_true, decide_eq_true_eq] at plain
      have inside := obstacleAmong?_plain (Nat.sub_le_sub_right within 1) items plain.2
      rw [obstacle?_array, inside, Value.integers, and_iff_right (by omega)]
  | .object members, plain => by
      simp only [Value.isPlain, Bool.and_eq_true, decide_eq_true_eq] at plain
      have inside := obstacleWithin?_plain (Nat.sub_le_sub_right within 1) members plain.2
      rw [obstacle?_object, inside, Value.integers, and_iff_right (by omega)]
  | .integer number, _ => by
      rw [obstacle?_integer, exceededLimit?_eq_none]
      simp [AreReadable, Value.integers]
  | .null, _ | .bool _, _ | .text _, _ => iff_of_true rfl (by simp [AreReadable, Value.integers])

/-- Numbers are all that keeps plain items from being written. -/
theorem obstacleAmong?_plain {room bound : Nat} (within : room ≤ bound) : (items : List Value) →
    Value.arePlain room items = true →
      (obstacleAmong? bound items = none ↔ AreReadable (integersAmong items))
  | [], _ => iff_of_true rfl (by simp [AreReadable, integersAmong])
  | item :: rest, plain => by
      simp only [Value.arePlain, Bool.and_eq_true] at plain
      rw [obstacleAmong?_cons, obstacle?_plain within item plain.1,
        obstacleAmong?_plain within rest plain.2, integersAmong, areReadable_append]

/-- Numbers are all that keeps plain members from being written. -/
theorem obstacleWithin?_plain {room bound : Nat} (within : room ≤ bound) :
    (members : List (Wording × Value)) → Value.havePlain room members = true →
      (obstacleWithin? bound members = none ↔ AreReadable (integersWithin members))
  | [], _ => iff_of_true rfl (by simp [AreReadable, integersWithin])
  | (_, value) :: rest, plain => by
      simp only [Value.havePlain, Bool.and_eq_true] at plain
      rw [obstacleWithin?_cons, obstacle?_plain within value plain.1.2,
        obstacleWithin?_plain within rest plain.2, integersWithin, areReadable_append]

end

end Integers

variable [Host]

mutual

/-- What is no obstacle with little room is none with more. -/
theorem obstacle?_mono {small large : Nat} (more : small ≤ large) : (value : Value) →
    value.obstacle? small = none → value.obstacle? large = none
  | .array items, fits => by
      obtain ⟨room, fits⟩ := obstacle?_array.mp fits
      exact obstacle?_array.mpr ⟨by omega, obstacleAmong?_mono (by omega) items fits⟩
  | .object members, fits => by
      obtain ⟨room, fits⟩ := obstacle?_object.mp fits
      exact obstacle?_object.mpr ⟨by omega, obstacleWithin?_mono (by omega) members fits⟩
  | .integer _, fits => obstacle?_integer.mpr (obstacle?_integer.mp fits)
  | .null, _ | .bool _, _ | .real _, _ | .text _, _ => rfl

/-- Items that are no obstacle with little room are none with more. -/
theorem obstacleAmong?_mono {small large : Nat} (more : small ≤ large) : (items : List Value) →
    obstacleAmong? small items = none → obstacleAmong? large items = none
  | [], _ => rfl
  | item :: rest, fits => by
      obtain ⟨first, others⟩ := obstacleAmong?_cons.mp fits
      exact obstacleAmong?_cons.mpr
        ⟨obstacle?_mono more item first, obstacleAmong?_mono more rest others⟩

/-- Members that are no obstacle with little room are none with more. -/
theorem obstacleWithin?_mono {small large : Nat} (more : small ≤ large) :
    (members : List (Wording × Value)) →
      obstacleWithin? small members = none → obstacleWithin? large members = none
  | [], _ => rfl
  | (_, value) :: rest, fits => by
      obtain ⟨first, others⟩ := obstacleWithin?_cons.mp fits
      exact obstacleWithin?_cons.mpr
        ⟨obstacle?_mono more value first, obstacleWithin?_mono more rest others⟩

end

/-- The order of items does not matter. -/
theorem obstacleAmong?_reverse {room : Nat} {items : List Value}
    (fits : obstacleAmong? room items = none) : obstacleAmong? room items.reverse = none := by
  have each (values : List Value) :
      obstacleAmong? room values = none ↔ ∀ item ∈ values, item.obstacle? room = none := by
    induction values with
    | nil => simp [obstacleAmong?]
    | cons item rest ih => rw [obstacleAmong?_cons, ih, List.forall_mem_cons]
  rw [each] at fits ⊢
  exact fun item listed => fits item (List.mem_reverse.mp listed)

/-- A member that is put is no obstacle if its value is none. -/
theorem obstacleWithin?_putMember {room : Nat} {name : Wording} {value : Value}
    {members : List (Wording × Value)} (fits : obstacleWithin? room members = none)
    (valueFits : value.obstacle? room = none) :
    obstacleWithin? room (putMember name value members) = none := by
  induction members with
  | nil => exact obstacleWithin?_cons.mpr ⟨valueFits, rfl⟩
  | cons member rest ih =>
      obtain ⟨first, others⟩ := obstacleWithin?_cons.mp fits
      rw [putMember]
      split
      · exact obstacleWithin?_cons.mpr ⟨valueFits, others⟩
      · exact obstacleWithin?_cons.mpr ⟨first, ih others⟩

section Numbers

variable {text rest : List Symbol}

/-- Fewer figures are within the limit as well. -/
theorem exceededLimit?_mono {fewer more : Nat} (fits : exceededLimit? more = none)
    (least : fewer ≤ more) : exceededLimit? fewer = none := by
  rw [exceededLimit?_eq_none] at fits ⊢
  exact fun limit set => least.trans (fits limit set)

omit [Host] in
/-- So many figures give less than the power of ten. -/
theorem digitsValue_lt {digits : List Char} (every : ∀ digit ∈ digits, digit.isDigit = true) :
    Text.digitsValue (digitValues digits) < 10 ^ digits.length := by
  induction digits using List.reverseRecOn with
  | nil => decide
  | append_singleton front last ih =>
      have before := ih fun digit listed => every digit (by simp [listed])
      have high : last.toNat ≤ 57 := by
        have figure := every last (by simp)
        simp only [Char.isDigit, Bool.and_eq_true, decide_eq_true_eq] at figure
        exact figure.2
      have zero : '0'.toNat = 48 := rfl
      simp only [Text.digitsValue, digitValues, List.map_append, List.map_cons, List.map_nil,
        List.foldl_append, List.foldl_cons, List.foldl_nil, List.length_append,
        List.length_cons, List.length_nil, Nat.zero_add, pow_succ, zero] at before ⊢
      omega

omit [Host] in
/-- The number read from figures needs no more of them. -/
theorem figureCount_le {digits : List Char} (every : ∀ digit ∈ digits, digit.isDigit = true)
    (nonempty : digits ≠ []) {value : Int}
    (magnitude : value.natAbs = Text.digitsValue (digitValues digits)) :
    figureCount value ≤ digits.length := by
  rw [figureCount, magnitude]
  exact Nat.toDigits_length 10 _ _ (List.length_pos_iff.mpr nonempty) (digitsValue_lt every)

omit [Host] in
/-- The figures before the point are figures, at least one. -/
theorem readWholeDigits?_digits {digits : List Char}
    (found : readWholeDigits? text = some (digits, rest)) :
    (∀ digit ∈ digits, digit.isDigit = true) ∧ digits ≠ [] := by
  revert found
  rw [readWholeDigits?.eq_def]
  split
  · rintro ⟨⟩
    decide
  · dsimp only
    split
    · rintro ⟨⟩
    · next some =>
      rintro ⟨⟩
      refine ⟨?_, by simpa using some⟩
      intro digit listed
      obtain ⟨symbol, taken, same⟩ := List.mem_filterMap.mp listed
      have figure := List.mem_takeWhile_imp taken
      rwa [isFigure, same] at figure

/-- A token for a value is no obstacle. -/
def Token.IsShowable (token : Token) : Prop :=
  ∀ value, token = .scalar value → value.obstacle? 0 = none

/-- A number with too many figures is no token for a value. -/
theorem readNumber?_showable {negative : Bool} {value : Value}
    (number : readNumber? negative text = some (.scalar value, rest)) :
    value.obstacle? 0 = none := by
  simp only [readNumber?, Option.bind_eq_bind, Option.bind_eq_some_iff] at number
  obtain ⟨⟨whole, after⟩, found, number⟩ := number
  obtain ⟨every, nonempty⟩ := readWholeDigits?_digits found
  simp only at number
  split at number
  · split at number
    · cases number
    · next within =>
      cases number
      refine obstacle?_integer.mpr (exceededLimit?_mono within (figureCount_le every nonempty ?_))
      cases negative <;> simp
  · cases number
    rfl

/-- Words and numbers can be shown. -/
theorem Value.IsLexed.showable {value : Value} (lexed : value.IsLexed) :
    value.obstacle? 0 = none := by
  rcases lexed with ⟨entry, listed, rfl⟩ | ⟨negative, text, rest, number⟩
  · have each : ∀ entry ∈ namedScalars, entry.2.obstacle? 0 = none := by
      simp [namedScalars, Value.obstacle?]
    exact each entry listed
  · exact readNumber?_showable number

/-- All tokens of a text that stand for values can be shown. -/
theorem tokensFrom_showable (skip : Nat) (text : List Symbol) :
    ∀ token ∈ tokensFrom skip text, token.IsShowable := by
  rintro token listed value rfl
  exact (tokensFrom_lexed listed).showable

end Numbers

section Course

/-- The room that is left inside so many open containers. -/
def roomInside (count : Nat) : Nat := Host.openContainers - count

/-- What an open container holds is no obstacle in the room inside it. -/
def Frame.IsBounded (depth : Nat) : Frame → Prop
  | .array items => obstacleAmong? (roomInside depth) items = none
  | .object members _ => obstacleWithin? (roomInside depth) members = none

/-- There is room for each open container and what it holds. -/
def AreBounded : List Frame → Prop
  | [] => True
  | frame :: outer => outer.length < Host.openContainers ∧
      frame.IsBounded (outer.length + 1) ∧ AreBounded outer

/-- What is not yet in a container is no obstacle in the room for it. -/
def Expectation.IsBounded (depth : Nat) : Expectation → Prop
  | .value | .valueOrCloseArray => True
  | .nameOrCloseObject members | .name members | .colon members _ =>
      depth < Host.openContainers ∧ obstacleWithin? (roomInside (depth + 1)) members = none
  | .afterValue whole => whole.obstacle? (roomInside depth) = none

/-- No obstacle was read so far. -/
def State.IsBounded (state : State) : Prop :=
  AreBounded state.frames ∧ state.expectation.IsBounded state.frames.length

variable {token : Token} {next : State} {frames : List Frame}

/-- One container more leaves room for one container less. -/
theorem roomInside_succ {depth : Nat} : roomInside depth - 1 = roomInside (depth + 1) := by
  unfold roomInside
  omega

/-- There is room where a container may be opened. -/
theorem roomInside_pos {depth : Nat} (room : depth < Host.openContainers) :
    0 < roomInside depth := by
  unfold roomInside
  omega

/-- A container is opened only if there is room. -/
theorem checkNesting_eq_ok {container : Container} {opened : Unit}
    (checked : checkNesting frames container = .ok opened) :
    frames.length < Host.openContainers := by
  unfold checkNesting at checked
  split at checked
  · assumption
  · cases checked

/-- A token where a value is due brings no obstacle. -/
theorem startValue_bounded (bounded : AreBounded frames) (showable : token.IsShowable)
    (stepped : State.startValue frames token = .ok next) : next.IsBounded := by
  cases token with
  | scalar value =>
      cases stepped
      exact ⟨bounded, obstacle?_mono (Nat.zero_le _) value (showable value rfl)⟩
  | text value =>
      cases stepped
      exact ⟨bounded, rfl⟩
  | openArray =>
      obtain ⟨_, checked, opened⟩ := bind_eq_ok.mp stepped
      cases opened
      exact ⟨⟨checkNesting_eq_ok checked, rfl, bounded⟩, trivial⟩
  | openObject =>
      obtain ⟨_, checked, opened⟩ := bind_eq_ok.mp stepped
      cases opened
      exact ⟨bounded, checkNesting_eq_ok checked, rfl⟩
  | _ => cases stepped

/-- A finished value brings no obstacle to the container around it. -/
theorem afterSeparator_bounded {value : Value} (bounded : AreBounded frames)
    (fits : value.obstacle? (roomInside frames.length) = none)
    (stepped : State.afterSeparator value frames token = .ok next) : next.IsBounded := by
  rcases frames with _ | ⟨⟨items⟩ | ⟨members, name⟩, outer⟩
  · cases token <;> cases stepped
  · obtain ⟨room, within, bounded⟩ := bounded
    have whole : obstacleAmong? (roomInside (outer.length + 1)) (value :: items) = none :=
      obstacleAmong?_cons.mpr ⟨fits, within⟩
    cases token with
    | comma =>
        cases stepped
        exact ⟨⟨room, whole, bounded⟩, trivial⟩
    | closeArray =>
        cases stepped
        refine ⟨bounded, obstacle?_array.mpr ⟨roomInside_pos room, ?_⟩⟩
        rw [roomInside_succ]
        exact obstacleAmong?_reverse whole
    | _ => cases stepped
  · obtain ⟨room, within, bounded⟩ := bounded
    have whole : obstacleWithin? (roomInside (outer.length + 1)) (putMember name value members) =
      none := obstacleWithin?_putMember within fits
    cases token with
    | comma =>
        cases stepped
        exact ⟨bounded, room, whole⟩
    | closeObject =>
        cases stepped
        refine ⟨bounded, obstacle?_object.mpr ⟨roomInside_pos room, ?_⟩⟩
        rw [roomInside_succ]
        exact whole
    | _ => cases stepped

/-- A step of the reader brings no obstacle. -/
theorem State.IsBounded.step {state : State} (bounded : state.IsBounded)
    (showable : token.IsShowable) (stepped : state.step token = .ok next) : next.IsBounded := by
  obtain ⟨expectation, frames⟩ := state
  obtain ⟨framesFit, fits⟩ := bounded
  cases expectation with
  | value => exact startValue_bounded framesFit showable stepped
  | valueOrCloseArray =>
      cases token with
      | closeArray =>
          rcases frames with _ | ⟨⟨items⟩ | ⟨members, name⟩, outer⟩
          · cases stepped
          · cases stepped
            obtain ⟨room, -, outerFit⟩ := framesFit
            exact ⟨outerFit, obstacle?_array.mpr ⟨roomInside_pos room, rfl⟩⟩
          · cases stepped
      | _ => exact startValue_bounded framesFit showable stepped
  | nameOrCloseObject members =>
      cases token with
      | closeObject =>
          cases stepped
          refine ⟨framesFit, obstacle?_object.mpr ⟨roomInside_pos fits.1, ?_⟩⟩
          rw [roomInside_succ]
          exact fits.2
      | text name =>
          cases stepped
          exact ⟨framesFit, fits⟩
      | _ => cases stepped
  | name members =>
      cases token with
      | text name =>
          cases stepped
          exact ⟨framesFit, fits⟩
      | _ => cases stepped
  | colon members name =>
      cases token with
      | colon =>
          cases stepped
          exact ⟨⟨fits.1, fits.2, framesFit⟩, trivial⟩
      | _ => cases stepped
  | afterValue value => exact afterSeparator_bounded framesFit fits stepped

/-- A run of the reader brings no obstacle. -/
theorem State.IsBounded.run {state last : State} {more : List Token}
    (bounded : state.IsBounded) (showable : ∀ token ∈ more, token.IsShowable)
    (ran : state.run more = .ok last) : last.IsBounded := by
  induction more generalizing state with
  | nil =>
      cases ran
      exact bounded
  | cons token rest ih =>
      obtain ⟨next, stepped, ran⟩ := bind_eq_ok.mp ran
      have first := bounded.step (showable token (by simp)) stepped
      exact ih first (fun other listed => showable other (by simp [listed])) ran

end Course

/-- Whatever was read from a text can be written and shown again. -/
theorem read_isWritable {text : List Symbol} {value : Value} (reading : read text = .ok value) :
    value.isWritable = true := by
  obtain ⟨last, ran, ended⟩ := bind_eq_ok.mp reading
  have start : State.IsBounded ⟨.value, []⟩ := ⟨trivial, trivial⟩
  have bounded := start.run (tokensFrom_showable 0 text) ran
  obtain ⟨expectation, frames⟩ := last
  cases expectation with
  | afterValue whole =>
      cases frames with
      | nil =>
          cases ended
          have fits : value.obstacle? Host.openContainers = none := bounded.2
          exact Option.isNone_iff_eq_none.mpr (obstacle?_mono Host.openContainers_le value fits)
      | cons => cases ended
  | _ => cases ended

/-- A value that was read is shown as it is, so that reports need no check. -/
theorem shown_read {text : Wording} {value : Value} (reading : readString text = .ok value) :
    value.shown = .ok value.display := by
  have writable : value.refusal? = none := Option.isNone_iff_eq_none.mp (read_isWritable reading)
  rw [Value.shown, writable]

end Json

end SolidityAudit
