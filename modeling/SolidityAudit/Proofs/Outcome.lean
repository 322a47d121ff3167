namespace SolidityAudit

section Outcomes

variable {ε α β : Type} {grave : ε → Prop}

theorem ok_bind (value : α) (next : α → Except ε β) : (Except.ok value >>= next) = next value := rfl

/-- A chain succeeds exactly when both of its steps do. -/
theorem bind_eq_ok {first : Except ε α} {next : α → Except ε β} {result : β} :
    (first >>= next) = .ok result ↔ ∃ value, first = .ok value ∧ next value = .ok result := by
  cases first with
  | error fault => simp [bind, Except.bind]
  | ok value => simp [bind, Except.bind]

/-- The outcome is one of the grave faults. -/
def FailsAmong (grave : ε → Prop) (outcome : Except ε α) : Prop :=
  ∃ fault, outcome = .error fault ∧ grave fault

@[simp] theorem failsAmong_ok {value : α} : ¬ FailsAmong grave (.ok value) := by
  rintro ⟨fault, failed, -⟩
  cases failed

/-- A fault counts exactly when it is a grave one. -/
@[simp] theorem failsAmong_error {fault : ε} :
    FailsAmong grave (.error fault : Except ε α) ↔ grave fault := by
  simp [FailsAmong]

/-- A chain fails gravely in its first step or after it. -/
theorem failsAmong_bind {first : Except ε α} {next : α → Except ε β} :
    FailsAmong grave (first >>= next) ↔
      FailsAmong grave first ∨ ∃ value, first = .ok value ∧ FailsAmong grave (next value) := by
  cases first with
  | error fault => simp [bind, Except.bind]
  | ok value => simp [bind, Except.bind]

/-- Converting a result changes nothing about its failures. -/
theorem failsAmong_map {outcome : Except ε α} {convert : α → β} :
    FailsAmong grave (outcome.map convert) ↔ FailsAmong grave outcome := by
  cases outcome with
  | error fault => simp [Except.map]
  | ok value => simp [Except.map]

/-- The steps succeed on some first items, and the item after them has the property. -/
def StopsAt (step : α → Except ε β) (holds : α → Prop) (items : List α) : Prop :=
  ∃ before item after, items = before ++ item :: after ∧
    (∀ earlier ∈ before, ∃ result, step earlier = .ok result) ∧ holds item

/-- A run over no items does not stop. -/
theorem not_stopsAt_nil {step : α → Except ε β} {holds : α → Prop} : ¬ StopsAt step holds [] := by
  rintro ⟨before, item, after, split, -⟩
  simp at split

/-- The first item has the property, or is passed and the others are stopped at. -/
theorem stopsAt_cons {step : α → Except ε β} {holds : α → Prop} {head : α} {tail : List α} :
    StopsAt step holds (head :: tail) ↔
      holds head ∨ (∃ result, step head = .ok result) ∧ StopsAt step holds tail := by
  constructor
  · rintro ⟨before, item, after, split, passed, stopped⟩
    cases before with
    | nil =>
        obtain ⟨rfl, -⟩ := List.cons.inj split
        exact .inl stopped
    | cons first before =>
        obtain ⟨rfl, rfl⟩ := List.cons.inj split
        refine .inr ⟨passed head List.mem_cons_self, before, item, after, rfl, ?_, stopped⟩
        exact fun earlier listed => passed earlier (List.mem_cons_of_mem _ listed)
  · rintro (stopped | ⟨given, before, item, after, rfl, passed, stopped⟩)
    · exact ⟨[], head, tail, rfl, by simp, stopped⟩
    · exact ⟨head :: before, item, after, rfl, List.forall_mem_cons.mpr ⟨given, passed⟩, stopped⟩

/-- A pass over a list fails as its first failing step does. -/
theorem failsAmong_mapM {step : α → Except ε β} {items : List α} :
    FailsAmong grave (items.mapM step) ↔
      StopsAt step (fun item => FailsAmong grave (step item)) items := by
  induction items with
  | nil => exact iff_of_false failsAmong_ok not_stopsAt_nil
  | cons head tail ih =>
      rw [List.mapM_cons, failsAmong_bind, stopsAt_cons, ← ih]
      have rest (value : β) : FailsAmong grave (do
          let values ← tail.mapM step
          return value :: values) ↔ FailsAmong grave (tail.mapM step) := by
        simp [failsAmong_bind, pure, Except.pure]
      simp only [rest, exists_and_right]

/-- The outcome is any fault. -/
def Fails (outcome : Except ε α) : Prop := FailsAmong (fun _ => True) outcome

@[simp] theorem fails_error (fault : ε) : Fails (.error fault : Except ε α) := ⟨fault, rfl, trivial⟩

/-- The outcome is a value. -/
def Returns (outcome : Except ε α) : Prop := ∃ value, outcome = .ok value

@[simp] theorem returns_ok (value : α) : Returns (.ok value : Except ε α) := ⟨value, rfl⟩

@[simp] theorem not_returns_error (fault : ε) : ¬ Returns (.error fault : Except ε α) := by
  rintro ⟨value, returned⟩
  cases returned

instance (outcome : Except ε α) : Decidable (Returns outcome) :=
  match outcome with
  | .ok value => .isTrue (returns_ok value)
  | .error fault => .isFalse (not_returns_error fault)

/-- An outcome is a result or a failure. -/
theorem returns_iff {outcome : Except ε α} : Returns outcome ↔ ¬ Fails outcome := by
  cases outcome with
  | error fault => simp
  | ok value => exact iff_of_true (returns_ok value) failsAmong_ok

@[simp] theorem returns_map {outcome : Except ε α} {convert : α → β} :
    Returns (outcome.map convert) ↔ Returns outcome := by
  cases outcome <;> simp [Except.map]

/-- Renaming faults leaves the results alone. -/
theorem mapError_eq_ok {ε' : Type} {outcome : Except ε α} {convert : ε → ε'} {value : α} :
    outcome.mapError convert = .ok value ↔ outcome = .ok value := by
  cases outcome with
  | error fault => exact iff_of_false nofun nofun
  | ok given =>
      constructor
      · intro same
        cases same
        rfl
      · intro same
        cases same
        rfl

@[simp] theorem returns_mapError {ε' : Type} {outcome : Except ε α} {convert : ε → ε'} :
    Returns (outcome.mapError convert) ↔ Returns outcome :=
  exists_congr fun _ => mapError_eq_ok

/-- A chain returns exactly when both of its steps do. -/
theorem returns_bind {first : Except ε α} {next : α → Except ε β} :
    Returns (first >>= next) ↔ ∃ value, first = .ok value ∧ Returns (next value) := by
  cases first with
  | error fault => simp [bind, Except.bind]
  | ok value => simp [bind, Except.bind]

end Outcomes

/-- If there is a value, it has the property. -/
def Ensures {ε α : Type} (holds : α → Prop) (outcome : Except ε α) : Prop :=
  ∀ value, outcome = .ok value → holds value

section Ensures

variable {ε α β : Type} {holds : β → Prop}

/-- A result ensures what holds of it. -/
theorem ensures_ok {value : β} (given : holds value) :
    Ensures holds (.ok value : Except ε β) := by
  rintro _ ⟨⟩
  exact given

/-- A failure ensures anything. -/
theorem ensures_error {fault : ε} : Ensures holds (.error fault) := by
  rintro _ ⟨⟩

/-- What the first step ensures is at hand in the second. -/
theorem ensures_bind_of {middle : α → Prop} {first : Except ε α} {next : α → Except ε β}
    (before : Ensures middle first) (after : ∀ value, middle value → Ensures holds (next value)) :
    Ensures holds (first >>= next) := by
  cases first with
  | error fault => exact ensures_error
  | ok value => exact after value (before value rfl)

/-- A chain ensures what its last step always does. -/
theorem ensures_bind {first : Except ε α} {next : α → Except ε β}
    (after : ∀ value, Ensures holds (next value)) : Ensures holds (first >>= next) :=
  ensures_bind_of (fun _ _ => trivial) fun value _ => after value

/-- Properties of single results carry over to the results of a list. -/
theorem ensures_mapM {items : List α} {step : α → Except ε β}
    (each : ∀ item, Ensures holds (step item)) :
    Ensures (fun results => ∀ result ∈ results, holds result) (items.mapM step) := by
  induction items with
  | nil => exact ensures_ok (by simp)
  | cons head tail ih =>
      rw [List.mapM_cons]
      refine ensures_bind_of (each head) fun first held => ?_
      refine ensures_bind_of ih fun rest heldByRest => ?_
      exact ensures_ok (by simpa using ⟨held, heldByRest⟩)

/-- Properties of the members of groups carry over to all members together. -/
theorem ensures_groups {items : List α} {step : α → Except ε (List β)}
    (each : ∀ item, Ensures (fun group => ∀ result ∈ group, holds result) (step item)) :
    Ensures (fun results => ∀ result ∈ results, holds result)
      (do let groups ← items.mapM step; return groups.flatten) := by
  refine ensures_bind_of (ensures_mapM each) fun groups held => ?_
  refine ensures_ok fun result inside => ?_
  obtain ⟨group, listed, member⟩ := List.mem_flatten.mp inside
  exact held group listed result member

end Ensures

/-- If there is a fault, it is an allowed one. -/
def FailsOnly {ε α : Type} (allowed : ε → Prop) (outcome : Except ε α) : Prop :=
  ∀ fault, outcome = .error fault → allowed fault

section FailsOnly

variable {ε α β : Type} {allowed : ε → Prop}

/-- A result has no fault to allow. -/
theorem failsOnly_ok {value : α} : FailsOnly allowed (.ok value) := by
  rintro _ ⟨⟩

/-- An allowed fault is one of the allowed. -/
theorem failsOnly_error {fault : ε} (given : allowed fault) :
    FailsOnly allowed (.error fault : Except ε α) := by
  rintro _ ⟨⟩
  exact given

/-- A wider range of faults allows more. -/
theorem FailsOnly.mono {wider : ε → Prop} {outcome : Except ε α}
    (only : FailsOnly allowed outcome) (within : ∀ fault, allowed fault → wider fault) :
    FailsOnly wider outcome :=
  fun fault failed => within fault (only fault failed)

/-- A chain has only the faults that both steps allow. -/
theorem failsOnly_bind {first : Except ε α} {next : α → Except ε β}
    (before : FailsOnly allowed first) (after : ∀ value, FailsOnly allowed (next value)) :
    FailsOnly allowed (first >>= next) := by
  cases first with
  | error fault => exact failsOnly_error (before fault rfl)
  | ok value => exact after value

/-- Converting a result adds no fault. -/
theorem failsOnly_map {outcome : Except ε α} {convert : α → β}
    (before : FailsOnly allowed outcome) : FailsOnly allowed (outcome.map convert) := by
  cases outcome with
  | error fault => exact failsOnly_error (before fault rfl)
  | ok value => exact failsOnly_ok

/-- Renamed faults are allowed where each new name is. -/
theorem failsOnly_mapError {ε' : Type} {outcome : Except ε' α} {convert : ε' → ε}
    (each : ∀ fault, allowed (convert fault)) : FailsOnly allowed (outcome.mapError convert) := by
  cases outcome with
  | error fault => exact failsOnly_error (each fault)
  | ok value => exact failsOnly_ok

end FailsOnly

section Passes

variable {ε α β : Type} {items : List α} {step : α → Except ε β}

/-- A run returns where each of its items does. -/
theorem mapM_total (each : ∀ item ∈ items, ∃ result, step item = .ok result) :
    ∃ results, items.mapM step = .ok results := by
  induction items with
  | nil => exact ⟨[], rfl⟩
  | cons head tail ih =>
      obtain ⟨first, given⟩ := each head (by simp)
      obtain ⟨rest, others⟩ := ih fun item listed => each item (by simp [listed])
      exact ⟨first :: rest, by simp [given, others, bind, Except.bind, pure, Except.pure]⟩

/-- A pass over a list returns when each of its steps does. -/
theorem returns_mapM : Returns (items.mapM step) ↔ ∀ item ∈ items, Returns (step item) := by
  refine ⟨?_, mapM_total⟩
  induction items with
  | nil => simp
  | cons head tail ih =>
      intro passed
      rw [List.mapM_cons, returns_bind] at passed
      obtain ⟨first, given, passed⟩ := passed
      obtain ⟨rest, others, -⟩ := returns_bind.mp passed
      exact List.forall_mem_cons.mpr ⟨⟨first, given⟩, ih ⟨rest, others⟩⟩

/-- A run whose steps all return is a plain map. -/
theorem mapM_eq_map {result : α → β} (each : ∀ item ∈ items, step item = .ok (result item)) :
    items.mapM step = .ok (items.map result) := by
  induction items with
  | nil => rfl
  | cons head tail ih =>
      rw [List.mapM_cons, each head (by simp), ih fun item listed => each item (by simp [listed])]
      rfl

/-- A pass that takes each item apart and goes over its parts is one pass over all parts. -/
theorem mapM_parts {γ : Type} {parts : α → List γ} {convert : γ → Except ε β}
    {step : α → Except ε (List β)}
    (each : ∀ item ∈ items, step item = (parts item).mapM convert) :
    (do let groups ← items.mapM step; return groups.flatten) =
      (items.flatMap parts).mapM convert := by
  induction items with
  | nil => rfl
  | cons head tail ih =>
      have later := ih fun item listed => each item (by simp [listed])
      rw [List.flatMap_cons, List.mapM_append, ← later, List.mapM_cons, each head (by simp)]
      cases (parts head).mapM convert with
      | error fault => rfl
      | ok first => cases tail.mapM step <;> rfl

end Passes

end SolidityAudit
