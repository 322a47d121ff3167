import SolidityAudit.Interface.Decoding
import SolidityAudit.Interface.Signature
import SolidityAudit.Proofs.Outcome

namespace SolidityAudit.Interface

open Json (Value)

/-- The type takes the place of an internal type that is null or empty. -/
def Parameter.settled (parameter : Parameter) : Parameter :=
  if parameter.internalType.isPresent then parameter
  else { parameter with internalType := parameter.type }

/-- What is left of an entry once it was written and read again. Only events keep the marks of
their parameters. -/
def Entry.reread (entry : Entry) : Entry :=
  if entry.isEvent then { entry with inputs := entry.inputs.map Parameter.settled }
  else
    { entry with
      inputs := entry.inputs.map fun parameter => parameter.settled.unindexed
      outputs := entry.outputs.map fun parameter => parameter.settled.unindexed }

/-- The entries that are functions or events and have no fields of the other kind. -/
inductive Entry.IsBuilt : Entry → Prop where
  | function (name : Value) (inputs outputs : List Parameter) (mutability : Value) :
      IsBuilt (Entry.function name inputs outputs mutability)
  | event (name : Value) (inputs : List Parameter) (anonymous : Bool) :
      IsBuilt (Entry.event name inputs anonymous)

/-- A parameter is read back settled, and marked if marks are kept. -/
theorem parameterOfJson_toJson (keepIndexed : Bool) (parameter : Parameter) :
    parameterOfJson keepIndexed parameter.toJson =
      .ok (if keepIndexed then parameter.settled else parameter.settled.unindexed) := by
  have read : parameterOfJson keepIndexed parameter.toJson = .ok
      { type := parameter.type
        name := parameter.name
        internalType := parameter.internalType.orElse parameter.type
        indexed := if keepIndexed then parameter.indexed else .null } := by
    unfold Parameter.toJson
    cases parameter.indexed <;> rfl
  rw [read]
  unfold Parameter.settled Parameter.unindexed Value.orElse
  split <;> cases keepIndexed <;> rfl

/-- Parameters are read back one by one. -/
theorem parametersOfJson_toJson (keepIndexed : Bool) (parameters : List Parameter) :
    parametersOfJson keepIndexed (.array (parameters.map Parameter.toJson)) =
      .ok (parameters.map fun parameter =>
        if keepIndexed then parameter.settled else parameter.settled.unindexed) := by
  have whole : (Value.array (parameters.map Parameter.toJson)).orElse (.array []) =
      .array (parameters.map Parameter.toJson) := by
    cases parameters <;> rfl
  rw [parametersOfJson, whole]
  change (parameters.map Parameter.toJson).mapM (parameterOfJson keepIndexed) = _
  rw [List.mapM_map]
  exact mapM_eq_map fun parameter _ => parameterOfJson_toJson keepIndexed parameter

/-- Each entry is read again for itself. -/
theorem Entry.IsBuilt.entryOfJson? {entry : Entry} (built : entry.IsBuilt) :
    Interface.entryOfJson? entry.toJson = .ok (some entry.reread) := by
  cases built with
  | function name inputs outputs mutability =>
      have reading : Interface.entryOfJson? (Entry.function name inputs outputs mutability).toJson =
          (do
            let inputs ← parametersOfJson false (.array (inputs.map Parameter.toJson))
            let outputs ← parametersOfJson false (.array (outputs.map Parameter.toJson))
            return some (Entry.function name inputs outputs mutability)) := rfl
      rw [reading, parametersOfJson_toJson, parametersOfJson_toJson]
      rfl
  | event name inputs anonymous =>
      have reading : Interface.entryOfJson? (Entry.event name inputs anonymous).toJson =
          (do
            let inputs ← parametersOfJson true (.array (inputs.map Parameter.toJson))
            return some (Entry.event name inputs anonymous)) := rfl
      rw [reading, parametersOfJson_toJson]
      rfl

/-- A list of built entries is read back entry by entry. -/
theorem ofJson_built {entries : List Entry} (built : ∀ entry ∈ entries, entry.IsBuilt) :
    ofJson (.array (entries.map Entry.toJson)) = .ok (entries.map Entry.reread) := by
  have each : (entries.map Entry.toJson).mapM entryOfJson? =
      .ok (entries.map fun entry => some entry.reread) := by
    rw [List.mapM_map]
    exact mapM_eq_map fun entry listed => (built entry listed).entryOfJson?
  change (do
    let read ← (entries.map Entry.toJson).mapM entryOfJson?
    return read.filterMap id) = _
  rw [each]
  simp [bind, Except.bind, pure, Except.pure, List.filterMap_map]

/-- The parameters of a function carry no marks. -/
def Entry.IsUnmarked (entry : Entry) : Prop :=
  entry.isEvent = false → ∀ parameter ∈ entry.inputs ++ entry.outputs, parameter.indexed = .null

section Unmarked

/-- Settling a parameter does not show in its document. -/
theorem Parameter.toJson_settled (parameter : Parameter) :
    parameter.settled.toJson = parameter.toJson := by
  unfold settled
  split
  · rfl
  · next absent =>
      have same : parameter.type.orElse parameter.type = parameter.type := by
        simp [Value.orElse]
      have taken : parameter.internalType.orElse parameter.type = parameter.type := by
        simp [Value.orElse, absent]
      simp only [toJson, same, taken]

/-- Settling a parameter keeps its mark. -/
theorem Parameter.settled_indexed (parameter : Parameter) :
    parameter.settled.indexed = parameter.indexed := by
  unfold settled
  split <;> rfl

/-- A parameter without a mark has none to lose. -/
theorem Parameter.unindexed_eq {parameter : Parameter} (unmarked : parameter.indexed = .null) :
    parameter.unindexed = parameter := by
  unfold unindexed
  rw [← unmarked]

/-- A settled parameter stays as it is. -/
theorem Parameter.settled_eq {parameter : Parameter}
    (settled : parameter.internalType = parameter.type) : parameter.settled = parameter := by
  unfold Parameter.settled
  cases parameter
  cases settled
  exact ite_self _

variable {entry : Entry} (unmarked : entry.IsUnmarked)

include unmarked

/-- Without marks there is nothing to clear. -/
theorem Entry.IsUnmarked.reread_eq : entry.reread =
    { entry with
      inputs := entry.inputs.map Parameter.settled
      outputs :=
        if entry.isEvent then entry.outputs else entry.outputs.map Parameter.settled } := by
  unfold Entry.reread
  cases kind : entry.isEvent with
  | true => rfl
  | false =>
      have cleared (parameters : List Parameter)
          (among : parameters ⊆ entry.inputs ++ entry.outputs) :
          (parameters.map fun parameter => parameter.settled.unindexed) =
            parameters.map Parameter.settled := by
        refine List.map_congr_left fun parameter listed => Parameter.unindexed_eq ?_
        rw [parameter.settled_indexed]
        exact unmarked kind parameter (among listed)
      rw [cleared entry.inputs (List.subset_append_left _ _),
        cleared entry.outputs (List.subset_append_right _ _)]
      rfl

/-- An unmarked entry that is read again is written as before. -/
theorem Entry.IsUnmarked.toJson_reread : entry.reread.toJson = entry.toJson := by
  have same (parameters : List Parameter) :
      (parameters.map Parameter.settled).map Parameter.toJson =
        parameters.map Parameter.toJson := by
    rw [List.map_map]
    exact List.map_congr_left fun parameter _ => parameter.toJson_settled
  rw [unmarked.reread_eq]
  change (if entry.isEvent then _ else _) = if entry.isEvent then _ else _
  cases kind : entry.isEvent with
  | true => simp only [same, if_true]
  | false => simp only [same, Bool.false_eq_true, if_false]

/-- An unmarked entry whose internal types are the types stays as it is. -/
theorem Entry.IsUnmarked.reread_settled
    (settled : ∀ parameter ∈ entry.inputs ++ entry.outputs,
      parameter.internalType = parameter.type) : entry.reread = entry := by
  have same (parameters : List Parameter) (among : parameters ⊆ entry.inputs ++ entry.outputs) :
      parameters.map Parameter.settled = parameters :=
    (List.map_congr_left fun parameter listed =>
      Parameter.settled_eq (settled parameter (among listed))).trans (List.map_id _)
  rw [unmarked.reread_eq, same entry.inputs (List.subset_append_left _ _),
    same entry.outputs (List.subset_append_right _ _), ite_self]

end Unmarked

/-- Parameters read without marks have none. -/
theorem parametersOfJson_unmarked (items : Value) :
    Ensures (fun parameters => ∀ parameter ∈ parameters, parameter.indexed = .null)
      (parametersOfJson false items) := by
  refine ensures_bind fun elements => ensures_mapM fun item => ?_
  unfold parameterOfJson
  iterate 4 refine ensures_bind fun _ => ?_
  exact ensures_ok rfl

/-- An entry that is read is built, and its inputs are unmarked. -/
theorem entryOfJson?_built (item : Value) :
    Ensures (fun found? => ∀ entry, found? = some entry → entry.IsBuilt ∧ entry.IsUnmarked)
      (entryOfJson? item) := by
  refine ensures_bind fun kind => ?_
  split
  · refine ensures_bind fun name => ensures_bind fun _ => ?_
    refine ensures_bind_of (parametersOfJson_unmarked _) fun inputs unmarkedInputs => ?_
    refine ensures_bind fun _ => ?_
    refine ensures_bind_of (parametersOfJson_unmarked _) fun outputs unmarkedOutputs => ?_
    refine ensures_bind fun mutability => ensures_ok ?_
    rintro entry ⟨⟩
    refine ⟨.function name inputs outputs mutability, fun _ parameter listed => ?_⟩
    rcases List.mem_append.mp listed with input | output
    · exact unmarkedInputs parameter input
    · exact unmarkedOutputs parameter output
  · refine ensures_bind fun name => ensures_bind fun _ => ensures_bind fun inputs => ?_
    refine ensures_bind fun anonymous => ensures_ok ?_
    rintro entry ⟨⟩
    exact ⟨.event name inputs _, fun function => Bool.noConfusion function⟩
  · exact ensures_ok (by rintro entry ⟨⟩)

/-- All that is read are functions and events, and the functions are unmarked. -/
theorem ofJson_isBuilt (interface : Value) :
    Ensures (fun entries => ∀ entry ∈ entries, entry.IsBuilt ∧ entry.IsUnmarked)
      (ofJson interface) := by
  refine ensures_bind fun items => ?_
  refine ensures_bind_of (ensures_mapM entryOfJson?_built) fun entries built => ensures_ok ?_
  intro entry listed
  obtain ⟨found?, among, some⟩ := List.mem_filterMap.mp listed
  exact built found? among entry some

/-- Parameters read from a source are settled. -/
theorem parametersOf_settled {text : List Char} {parameter : Parameter}
    (listed : parameter ∈ parametersOf text) : parameter.internalType = parameter.type := by
  obtain ⟨part, -, read⟩ := List.mem_filterMap.mp listed
  unfold parameterOf? at read
  simp only at read
  split at read
  · cases read
  · cases read
    rfl

/-- Parameters of functions are settled and unmarked. -/
theorem unindexedParametersOf_settled {text : List Char} {parameter : Parameter}
    (listed : parameter ∈ unindexedParametersOf text) :
    parameter.internalType = parameter.type ∧ parameter.indexed = .null := by
  obtain ⟨marked, among, rfl⟩ := List.mem_map.mp listed
  have settled : marked.internalType = marked.type := parametersOf_settled among
  exact ⟨settled, rfl⟩

/-- The entries of a source are functions and events that nothing is added to or taken from. -/
theorem ofSource_isBuilt {source : String} {entry : Entry} (listed : entry ∈ ofSource source) :
    entry.IsBuilt ∧ entry.reread = entry := by
  rcases List.mem_append.mp listed with declared | accessor
  · rcases List.mem_append.mp declared with function | event
    · obtain ⟨span, -, rfl⟩ := List.mem_map.mp function
      have settled : ∀ parameter ∈ (functionEntry source.toList span).inputs ++
          (functionEntry source.toList span).outputs,
          parameter.internalType = parameter.type ∧ parameter.indexed = .null := by
        intro parameter among
        rcases List.mem_append.mp among with input | output
        · exact unindexedParametersOf_settled input
        · exact unindexedParametersOf_settled output
      have unmarked : (functionEntry source.toList span).IsUnmarked :=
        fun _ parameter among => (settled parameter among).2
      exact ⟨.function _ _ _ _,
        unmarked.reread_settled fun parameter among => (settled parameter among).1⟩
    · obtain ⟨span, -, rfl⟩ := List.mem_map.mp event
      have unmarked : (Entry.event (.text (String.ofList span.value.1))
          (parametersOf span.value.2) false).IsUnmarked :=
        fun function => Bool.noConfusion function
      refine ⟨.event _ _ _, unmarked.reread_settled fun parameter among => ?_⟩
      exact parametersOf_settled (by simpa [Entry.event] using among)
  · obtain ⟨span, -, rfl⟩ := List.mem_map.mp accessor
    have unmarked : (accessorEntry span.value).IsUnmarked := by
      intro _ parameter among
      cases List.mem_singleton.mp among
      rfl
    refine ⟨.function _ _ _ _, unmarked.reread_settled fun parameter among => ?_⟩
    cases List.mem_singleton.mp among
    rfl

/-- What is written and read again comes back settled and without the marks of function parameters.
Nothing changes in what a source declares, or when it is read once more. -/
theorem ofJson_rereads :
    (∀ entries : List Entry, (∀ entry ∈ entries, entry.IsBuilt) →
      ofJson (.array (entries.map Entry.toJson)) = .ok (entries.map Entry.reread)) ∧
    (∀ source, ofJson (.array ((ofSource source).map Entry.toJson)) = .ok (ofSource source)) ∧
    ∀ interface entries, ofJson interface = .ok entries →
      ∃ again, ofJson (.array (entries.map Entry.toJson)) = .ok again ∧
        again.map Entry.toJson = entries.map Entry.toJson := by
  refine ⟨fun entries built => ofJson_built built, ?_, ?_⟩
  · intro source
    rw [ofJson_built fun entry listed => (ofSource_isBuilt listed).1]
    have same : (ofSource source).map Entry.reread = ofSource source :=
      (List.map_congr_left fun entry listed => (ofSource_isBuilt listed).2).trans (List.map_id _)
    rw [same]
  · intro interface entries given
    have read := ofJson_isBuilt interface entries given
    refine ⟨entries.map Entry.reread, ofJson_built fun entry listed => (read entry listed).1, ?_⟩
    rw [List.map_map]
    exact List.map_congr_left fun entry listed => (read entry listed).2.toJson_reread

end SolidityAudit.Interface
