import SolidityAudit.Proofs.Interface.Accessors
import SolidityAudit.Proofs.Source.Leads

namespace SolidityAudit.Source

open Text

/-- The part of the text that a span covers. -/
def Span.covered {α : Type} (span : Span α) (text : List Char) : List Char :=
  text.extract span.start span.stop

/-- The lead and the name make up the declaration, but for white space and the end. -/
def StandsBefore (lead name declaration : List Char) : Prop :=
  ∃ pad ∈ blankTexts, declaration = lead ++ (name ++ (pad ++ [';']))

/-- The name is a whole identifier: no word is under way where it starts. -/
def IsWholeIn (name declaration : List Char) : Prop :=
  ∃ lead, StandsBefore lead name declaration ∧ Ends isWordCharacter lead.reverse

/-- The identifier starts with a visibility that is cut off from the name. -/
def IsCutIn (head : VariableHead) (declaration : List Char) : Prop :=
  ∃ keyword ∈ visibilities,
    declaration ∈ variableTexts ⟨head.type, none, keyword.toList ++ head.name⟩

/-- Declarations in which the visibility is a word of its own. -/
def apartTexts (type : List Char) (keyword : String) (name : List Char) : Language Char :=
  typeTexts type * gapTexts * literalTexts keyword * gapTexts * lastNameTexts name

/-- Each keyword for visibility is spelled in letters. -/
theorem isSpelled_visibility : ∀ keyword ∈ visibilities, IsSpelled keyword := by decide

/-- There is one place for the name of a declaration, since a word ends before white space. -/
theorem StandsBefore.unique {lead other name declaration : List Char}
    (word : name ≠ [] ∧ ∀ character ∈ name, isWordCharacter character = true)
    (first : StandsBefore lead name declaration) (second : StandsBefore other name declaration) :
    lead = other := by
  obtain ⟨pad, padded, rfl⟩ := first
  obtain ⟨otherPad, otherPadded, same⟩ := second
  have reversed := congrArg List.reverse same
  simp only [List.reverse_append, List.append_assoc, List.append_cancel_left_eq] at reversed
  obtain ⟨-, before⟩ := run_unique (mem_reverse_run padded) (endsBlank_reverse word.1 word.2 _)
    (mem_reverse_run otherPadded) (endsBlank_reverse word.1 word.2 _) reversed
  exact List.reverse_injective (List.append_cancel_left before)

section Declarations

variable {head : VariableHead} {declaration : List Char}

/-- The name in a declaration is a word. -/
theorem name_word (formed : declaration ∈ variableTexts head) :
    head.name ≠ [] ∧ ∀ character ∈ head.name, isWordCharacter character = true := by
  obtain ⟨_, _, _, _, _, named, _⟩ := mem_variableTexts.mp formed
  exact (mem_lastNameTexts.mp named).1

/-- A name that follows white space is whole. -/
theorem isWholeIn_gap (front : List Char) {gap ending name : List Char} (spaced : gap ∈ gapTexts)
    (named : ending ∈ lastNameTexts name) : IsWholeIn name (front ++ (gap ++ ending)) := by
  obtain ⟨-, pad, padded, rfl⟩ := mem_lastNameTexts.mp named
  refine ⟨front ++ gap, ⟨pad, padded, by simp⟩, ?_⟩
  rw [List.reverse_append]
  exact endsWord_reverse spaced _

/-- The parts of a declaration whose keyword stands apart. -/
theorem mem_apartTexts {type name : List Char} {keyword : String} :
    declaration ∈ apartTexts type keyword name ↔ type ∈ typeTexts type ∧ ∃ gap ∈ gapTexts,
      ∃ space ∈ gapTexts, ∃ ending ∈ lastNameTexts name,
        declaration = type ++ (gap ++ (keyword.toList ++ (space ++ ending))) := by
  constructor
  · rintro ⟨_, ⟨_, ⟨_, ⟨_, ⟨rfl, typed⟩, gap, spaced, rfl⟩, _, rfl, rfl⟩, space, apart, rfl⟩,
      ending, named, rfl⟩
    exact ⟨⟨rfl, typed⟩, gap, spaced, space, apart, ending, named, by simp⟩
  · rintro ⟨typed, gap, spaced, space, apart, ending, named, rfl⟩
    exact ⟨_, ⟨_, ⟨_, ⟨_, typed, gap, spaced, rfl⟩, _, rfl, rfl⟩, space, apart, rfl⟩, ending, named,
      by simp⟩

/-- A name after a keyword that stands apart is whole. -/
theorem isWholeIn_apart {type name : List Char} {keyword : String}
    (formed : declaration ∈ apartTexts type keyword name) : IsWholeIn name declaration := by
  obtain ⟨-, gap, -, space, apart, ending, named, rfl⟩ := mem_apartTexts.mp formed
  simpa using isWholeIn_gap (type ++ (gap ++ keyword.toList)) apart named

/-- A visibility that was read is a word of its own or the start of the identifier. -/
theorem apart_or_joined {type name : List Char} {keyword : String}
    (formed : declaration ∈ variableTexts ⟨type, some keyword, name⟩) :
    declaration ∈ apartTexts type keyword name ∨ keyword ∈ visibilities ∧
      declaration ∈ variableTexts ⟨type, none, keyword.toList ++ name⟩ := by
  obtain ⟨gap, spaced, _, ⟨listed, _, rfl, blanks, blank, rfl⟩, ending, named, typed, rfl⟩ :=
    mem_variableTexts.mp formed
  by_cases joined : blanks = []
  · subst joined
    obtain ⟨word, pad, padded, rfl⟩ := mem_lastNameTexts.mp named
    have whole : ∀ character ∈ keyword.toList ++ name, isWordCharacter character = true := by
      intro character inside
      rcases List.mem_append.mp inside with inKeyword | inName
      · exact (isSpelled_visibility keyword listed).2 character inKeyword
      · exact word.2 character inName
    have joined : keyword.toList ++ name ++ (pad ++ [';']) ∈
        lastNameTexts (keyword.toList ++ name) :=
      mem_lastNameTexts.mpr ⟨⟨by simp [word.1], whole⟩, pad, padded, rfl⟩
    exact .inr ⟨listed, mem_variableTexts.mpr ⟨gap, spaced, [], rfl, _, joined, typed, by simp⟩⟩
  · exact .inl (mem_apartTexts.mpr ⟨typed, gap, spaced, blanks, ⟨joined, blank⟩, ending, named,
      by simp⟩)

/-- The name in a declaration is whole or cut. -/
theorem whole_or_cut (formed : declaration ∈ variableTexts head) :
    IsWholeIn head.name declaration ∨ IsCutIn head declaration := by
  obtain ⟨type, visibility, name⟩ := head
  cases visibility with
  | none =>
      obtain ⟨gap, spaced, _, rfl, ending, named, -, rfl⟩ := mem_variableTexts.mp formed
      exact .inl (isWholeIn_gap type spaced named)
  | some keyword =>
      rcases apart_or_joined formed with apart | ⟨listed, joined⟩
      · exact .inl (isWholeIn_apart apart)
      · exact .inr ⟨keyword, listed, joined⟩

/-- A name that is cut comes right after the letters of the keyword. -/
theorem IsCutIn.not_whole (formed : declaration ∈ variableTexts head)
    (cut : IsCutIn head declaration) : ¬ IsWholeIn head.name declaration := by
  rintro ⟨lead, stands, idle⟩
  obtain ⟨keyword, listed, joined⟩ := cut
  obtain ⟨gap, -, _, rfl, ending, named, -, rfl⟩ := mem_variableTexts.mp joined
  obtain ⟨-, pad, padded, rfl⟩ := mem_lastNameTexts.mp named
  have there : StandsBefore (head.type ++ (gap ++ keyword.toList)) head.name
      (head.type ++ (gap ++ ([] ++ (keyword.toList ++ head.name ++ (pad ++ [';']))))) :=
    ⟨pad, padded, by simp⟩
  rw [stands.unique (name_word formed) there] at idle
  obtain ⟨nonempty, word⟩ := isSpelled_visibility keyword listed
  obtain ⟨last, others, shape⟩ :=
    List.exists_cons_of_ne_nil (List.reverse_ne_nil_iff.mpr nonempty)
  have inside : last ∈ keyword.toList := List.mem_reverse.mp (by simp [shape])
  have noWord := idle last (by simp [shape])
  rw [word last inside] at noWord
  cases noWord

/-- The name in a declaration is never both. -/
theorem whole_iff_not_cut (formed : declaration ∈ variableTexts head) :
    IsWholeIn head.name declaration ↔ ¬ IsCutIn head declaration :=
  ⟨fun whole cut => cut.not_whole formed whole, (whole_or_cut formed).resolve_right⟩

end Declarations

/-- What a span covers has the form of its declaration. -/
theorem covered_formed {text : List Char} {span : Span VariableHead}
    (listed : span ∈ variableAnchor.spans text) :
    span.covered text ∈ variableTexts span.value := by
  obtain ⟨rest, recognised⟩ := Anchor.spans_cut variableAnchor_consumes listed
  obtain ⟨found, formed, same⟩ := variableAnchor_sound recognised
  rw [Span.covered, List.append_cancel_right same]
  exact formed

end SolidityAudit.Source

namespace SolidityAudit.Interface

open Source

/-- A listed variable and its accessor have the whole identifier of their declaration, unless it
follows the type and starts with a visibility, which is cut off. -/
theorem ofSource_identifiers (source : String) :
    (Inventory.ofSource source).stateVariables =
      (variableAnchor.spans source.toList).map declared ∧
    ofSource source = functionEntries source.toList ++ eventEntries source.toList ++
      (publicVariableAnchor.spans source.toList).map (fun span => accessorEntry span.value) ∧
    (∀ span ∈ variableAnchor.spans source.toList,
      (IsWholeIn span.value.name (span.covered source.toList) ↔
        ¬ IsCutIn span.value (span.covered source.toList))) ∧
    ∀ span ∈ publicVariableAnchor.spans source.toList,
      (span.covered source.toList ∈ apartTexts span.value.type "public" span.value.name ∧
          IsWholeIn span.value.name (span.covered source.toList) ↔
        ¬ IsCutIn span.value (span.covered source.toList)) := by
  refine ⟨rfl, rfl, fun span listed => whole_iff_not_cut (covered_formed listed), ?_⟩
  intro span listed
  rw [publicVariableAnchor_spans, List.mem_filter, beq_iff_eq] at listed
  have formed := covered_formed listed.1
  have visibly : span.covered source.toList ∈
      variableTexts ⟨span.value.type, some "public", span.value.name⟩ := by
    rw [← listed.2]
    exact formed
  rw [← whole_iff_not_cut formed, and_iff_right_iff_imp]
  intro whole
  rcases apart_or_joined visibly with apart | ⟨visible, joined⟩
  · exact apart
  · exact absurd whole (IsCutIn.not_whole formed ⟨"public", visible, joined⟩)

/-- A visibility of its own leaves the name whole. -/
theorem ofSource_identifiers_root :
    ∃ span ∈ publicVariableAnchor.spans "bytes32 public root ;".toList,
      span.value.name = "root".toList ∧
        ¬ IsCutIn span.value (span.covered "bytes32 public root ;".toList) := by
  let span : Span VariableHead := ⟨0, 21, ⟨"bytes32".toList, some "public", "root".toList⟩⟩
  have listed : span ∈ publicVariableAnchor.spans "bytes32 public root ;".toList := by decide
  have named : "root ;".toList ∈ lastNameTexts "root".toList :=
    mem_lastNameTexts.mpr ⟨by decide, [' '], by decide, rfl⟩
  have apart : span.covered "bytes32 public root ;".toList ∈
      apartTexts "bytes32".toList "public" "root".toList :=
    mem_apartTexts.mpr ⟨⟨rfl, .sized "bytes" (by decide) ['3', '2'] (by decide), rfl⟩,
      [' '], by decide, [' '], by decide, _, named, rfl⟩
  exact ⟨span, listed, rfl, ((ofSource_identifiers _).2.2.2 span listed).mp
    ⟨apart, isWholeIn_apart apart⟩⟩

/-- The variable `publicKey` is listed as `Key` and gets an accessor, though it is not public. -/
theorem ofSource_publicKey :
    (Inventory.ofSource "uint publicKey;").stateVariables = [⟨"Key", "uint"⟩] ∧
    (ofSource "uint publicKey;").map Entry.name = [.text "Key"] ∧
    ¬ IsWholeIn "Key".toList "uint publicKey;".toList ∧
    "uint publicKey;".toList ∉ apartTexts "uint".toList "public" "Key".toList := by
  have unpadded : [] ∈ blankTexts := by decide
  have named : "Key;".toList ∈ lastNameTexts "Key".toList :=
    mem_lastNameTexts.mpr ⟨by decide, [], unpadded, rfl⟩
  have identified : "publicKey;".toList ∈ lastNameTexts "publicKey".toList :=
    mem_lastNameTexts.mpr ⟨by decide, [], unpadded, rfl⟩
  have typed : "uint".toList ∈ typeTexts "uint".toList :=
    ⟨rfl, .sized "uint" (by decide) [] (by decide), rfl⟩
  have formed : "uint publicKey;".toList ∈
      variableTexts ⟨"uint".toList, some "public", "Key".toList⟩ :=
    mem_variableTexts.mpr ⟨[' '], by decide, "public".toList,
      ⟨by decide, "public".toList, rfl, [], unpadded, rfl⟩, _, named, typed, rfl⟩
  have cut : IsCutIn ⟨"uint".toList, some "public", "Key".toList⟩ "uint publicKey;".toList :=
    ⟨"public", by decide,
      mem_variableTexts.mpr ⟨[' '], by decide, [], rfl, _, identified, typed, rfl⟩⟩
  have notWhole := cut.not_whole formed
  exact ⟨by decide, by rfl, notWhole, fun apart => notWhole (isWholeIn_apart apart)⟩

end SolidityAudit.Interface
