import SolidityAudit.Proofs.Interface.Identifiers
import SolidityAudit.Proofs.Interface.Items
import SolidityAudit.Proofs.Source.Signatures

namespace SolidityAudit.Interface

open Json (Value)
open Source Text

/-- Nothing that ends a word, a parameter or a list of them stands in the text, and the text is no
qualifier. -/
@[mk_iff]
structure IsEnclosed (text : String) : Prop where
  members : ∀ character ∈ text.toList,
    isBlank character = false ∧ character ≠ ',' ∧ character ≠ ')'
  unreserved : text ∉ ["indexed", "memory", "calldata", "storage"]

instance (text : String) : Decidable (IsEnclosed text) :=
  decidable_of_iff _ (isEnclosed_iff text).symm

/-- A parameter has a type and a name that nothing ends early. -/
structure Parameter.IsWellFormed (parameter : Parameter) : Prop where
  typed : ∃ type : String,
    parameter.type = .text type ∧ type ∉ ["", "uint", "int"] ∧ IsEnclosed type
  internally : parameter.internalType = parameter.type
  named : ∃ name : String, parameter.name = .text name ∧ IsEnclosed name

/-- A function has a name, a mutability and unmarked parameters. -/
structure Entry.IsWellFormedFunction (entry : Entry) : Prop where
  kind : entry.kind = .function
  named : ∃ word : Word, entry.name = .text (String.ofList word.text)
  mutability : ∃ keyword ∈ ["pure", "view", "payable", "nonpayable"],
    entry.mutability = .text keyword
  parameters : ∀ parameter ∈ entry.inputs ++ entry.outputs,
    parameter.IsWellFormed ∧ parameter.indexed = .null

/-- An event has no results. -/
structure Entry.IsWellFormedEvent (entry : Entry) : Prop where
  kind : entry.kind = .event
  named : ∃ word : Word, entry.name = .text (String.ofList word.text)
  anonymous : entry.anonymous = false
  parameters : ∀ parameter ∈ entry.inputs,
    parameter.IsWellFormed ∧ ∃ mark, parameter.indexed = .bool mark
  outputs : entry.outputs = []

/-- Widening a type leaves nothing to widen. -/
theorem canonicalType_wellFormed {type : String} (nonempty : type ≠ "")
    (enclosed : IsEnclosed type) :
    canonicalType type ∉ ["", "uint", "int"] ∧ IsEnclosed (canonicalType type) := by
  unfold canonicalType
  split
  · decide
  · next notUint =>
    split
    · decide
    · next notInt =>
      rw [beq_iff_eq] at notUint notInt
      exact ⟨by simp [nonempty, notUint, notInt], enclosed⟩

section Parameters

variable {text : List Char}

/-- The words that are kept of a part stand between its white space. -/
theorem enclosed_word (closed : ')' ∉ text) {part : List Char}
    (cut : part ∈ splitAtEach (· == ',') text) {word : String}
    (kept : word ∈ ((words part).map String.ofList).filter fun word => !isQualifier word) :
    word ≠ "" ∧ IsEnclosed word := by
  obtain ⟨spelled, plain⟩ := List.mem_filter.mp kept
  obtain ⟨letters, listed, rfl⟩ := List.mem_map.mp spelled
  obtain ⟨nonempty, inside⟩ := mem_words listed
  refine ⟨by simpa using nonempty, ?_, ?_⟩
  · rw [String.toList_ofList]
    intro character member
    obtain ⟨inPart, inked⟩ := inside character member
    obtain ⟨inText, other⟩ := mem_of_mem_splitAtEach cut inPart
    refine ⟨inked, beq_eq_false_iff_ne.mp other, ?_⟩
    rintro rfl
    exact closed inText
  · intro qualifies
    rw [isQualifier_iff.mpr qualifies] at plain
    cases plain

/-- Parameters read from a list are well formed. -/
theorem parametersOf_wellFormed (closed : ')' ∉ text) :
    ∀ parameter ∈ parametersOf text,
      parameter.IsWellFormed ∧ ∃ mark, parameter.indexed = .bool mark := by
  intro parameter listed
  obtain ⟨part, cut, read⟩ := List.mem_filterMap.mp listed
  unfold parameterOf? at read
  simp only at read
  split at read
  · cases read
  · next type others kept =>
    cases read
    have enclosed : ∀ word ∈ type :: others, word ≠ "" ∧ IsEnclosed word := by
      intro word inside
      exact enclosed_word closed cut (kept ▸ inside)
    obtain ⟨nonempty, whole⟩ := enclosed type (by simp)
    refine ⟨⟨⟨_, rfl, canonicalType_wellFormed nonempty whole⟩, rfl, _, rfl, ?_⟩, _, rfl⟩
    cases others with
    | nil => decide
    | cons name more => exact (enclosed name (by simp)).2

/-- So are they without their marks. -/
theorem unindexedParametersOf_wellFormed (closed : ')' ∉ text) :
    ∀ parameter ∈ unindexedParametersOf text,
      parameter.IsWellFormed ∧ parameter.indexed = .null := by
  intro parameter listed
  obtain ⟨marked, read, rfl⟩ := List.mem_map.mp listed
  obtain ⟨typed, internally, named⟩ := (parametersOf_wellFormed closed marked read).1
  exact ⟨⟨typed, internally, named⟩, rfl⟩

end Parameters

/-- The first keyword is one of those searched or the default. -/
theorem firstKeyword_mem (keywords : List String) (default : String) (window : List Char) :
    firstKeyword keywords default window ∈ keywords ++ [default] := by
  unfold firstKeyword
  cases found : keywords.find? fun keyword => occursIn keyword.toList window with
  | none => simp
  | some keyword => simp [List.mem_of_find?_eq_some found]

section Entries

variable {text : List Char}

/-- The entry of a function is well formed. -/
theorem functionEntry_wellFormed {span : Span FunctionHead}
    (listed : span ∈ signatureAnchor.spans text) :
    (functionEntry text span).IsWellFormedFunction := by
  obtain ⟨before, inner, rest, -, -, -, -, recognised⟩ :=
    Anchor.spans_recognised signatureAnchor_consumes rfl listed
  obtain ⟨afterParameters, named, outline⟩ := functionHead?_outline recognised
  obtain ⟨lead, leads, closed, -⟩ := namedList?_eq_some.mp named
  have closedResults : ')' ∉ span.value.results.getD [] := by
    cases results : span.value.results with
    | none => exact List.not_mem_nil
    | some items => exact outline.closed items results
  refine ⟨rfl, ⟨⟨_, leads.word.1, leads.word.2⟩, rfl⟩, ⟨_, firstKeyword_mem _ _ _, rfl⟩, ?_⟩
  rw [List.forall_mem_append]
  exact ⟨unindexedParametersOf_wellFormed closed, unindexedParametersOf_wellFormed closedResults⟩

/-- The entry of an event is well formed. -/
theorem eventEntry_wellFormed {span : Span (List Char × List Char)}
    (listed : span ∈ eventAnchor.spans text) :
    (Entry.event (.text (String.ofList span.value.1)) (parametersOf span.value.2)
      false).IsWellFormedEvent := by
  have consumes : eventAnchor.Consumes :=
    eventAnchor_reads.consumes fun _ => namedListTexts_nonempty _ _ _
  obtain ⟨before, inner, rest, -, -, -, -, recognised⟩ :=
    Anchor.spans_recognised consumes rfl listed
  obtain ⟨lead, leads, closed, -⟩ := namedList?_eq_some.mp recognised
  exact ⟨rfl, ⟨⟨_, leads.word.1, leads.word.2⟩, rfl⟩, rfl, parametersOf_wellFormed closed, rfl⟩

/-- The entry of a public variable is well formed. -/
theorem accessorEntry_wellFormed {span : Span VariableHead}
    (listed : span ∈ publicVariableAnchor.spans text) :
    (accessorEntry span.value).IsWellFormedFunction := by
  rw [publicVariableAnchor_spans, List.mem_filter] at listed
  have formed := covered_formed listed.1
  obtain ⟨nonempty, members⟩ := name_word formed
  obtain ⟨_, _, _, _, _, _, ⟨-, type, spelled⟩, -⟩ := mem_variableTexts.mp formed
  have item := elementary_isItem type
  have enclosed : IsEnclosed (String.ofList type.text) := by
    refine ⟨?_, item.unreserved⟩
    intro character inside
    obtain ⟨inked, noComma⟩ := item.unbroken.members character inside
    refine ⟨inked, noComma, ?_⟩
    rintro rfl
    rw [String.toList_ofList] at inside
    exact type.isPlain.not_mem (by decide) inside
  rw [spelled] at enclosed item
  refine ⟨rfl, ⟨⟨_, nonempty, members⟩, rfl⟩, ⟨"view", by decide, rfl⟩, ?_⟩
  intro parameter listed
  rw [List.mem_singleton.mp listed]
  exact ⟨⟨⟨_, rfl, canonicalType_wellFormed item.unbroken.nonempty enclosed⟩, rfl, "", rfl,
    by decide⟩, rfl⟩

end Entries

/-- Every entry of a rebuilt interface is well formed: one for each exposed function, then the
events, then the public variables, in the order of the text. -/
theorem ofSource_wellFormed (source : String) :
    ∃ functions events accessors, ofSource source = functions ++ events ++ accessors ∧
      List.Forall₂ (fun span entry => entry.name = .text (String.ofList span.value.name) ∧
          entry.name ≠ .text "constructor" ∧ entry.IsWellFormedFunction)
        ((signatureAnchor.spans source.toList).filter (isExposed source.toList)) functions ∧
      List.Forall₂ (fun span entry => entry.name = .text (String.ofList span.value.1) ∧
          entry.IsWellFormedEvent)
        (eventAnchor.spans source.toList) events ∧
      List.Forall₂ (fun span entry => IsAccessor (declared span) entry ∧
          entry.IsWellFormedFunction)
        (publicVariableAnchor.spans source.toList) accessors := by
  refine ⟨_, _, _, rfl, ?_, ?_, ?_⟩
  · rw [functionEntries, List.forall₂_map_right_iff, List.forall₂_same]
    intro span listed
    obtain ⟨listed, exposed⟩ := List.mem_filter.mp listed
    refine ⟨rfl, ?_, functionEntry_wellFormed listed⟩
    rw [isExposed, Bool.and_eq_true, bne_iff_ne] at exposed
    intro same
    exact exposed.1 (Wording.plain.inj (Value.text.inj same))
  · rw [eventEntries, List.forall₂_map_right_iff, List.forall₂_same]
    intro span listed
    exact ⟨rfl, eventEntry_wellFormed listed⟩
  · rw [accessorEntries, List.forall₂_map_right_iff, List.forall₂_same]
    intro span listed
    exact ⟨accessorEntry_isAccessor span, accessorEntry_wellFormed listed⟩

end SolidityAudit.Interface
