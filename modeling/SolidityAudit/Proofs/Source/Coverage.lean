import SolidityAudit.Proofs.Source.Grammar
import SolidityAudit.Proofs.Text.Split
import SolidityAudit.Source.Inventory

namespace SolidityAudit.Source

open Text

/-- Spans of texts of a language, outside of which no such text starts. -/
structure Covers {α : Type} (texts : α → Language Char) (text : List Char)
    (spans : List (Span α)) : Prop where
  bounded : ∀ span ∈ spans, span.start < span.stop ∧ span.stop ≤ text.length
  separate : spans.Pairwise fun earlier later => earlier.stop ≤ later.start
  sound : ∀ span ∈ spans, text.extract span.start span.stop ∈ texts span.value
  complete : ∀ position value, (∃ found ∈ texts value, found <+: text.drop position) →
    ∃ span ∈ spans, span.start ≤ position ∧ position < span.stop

section Reads

variable {α : Type} {anchor : Anchor α} {texts : α → Language Char}

/-- An anchor that reads no empty text consumes something. -/
theorem Anchor.Reads.consumes (reads : anchor.Reads texts)
    (nonempty : ∀ value, [] ∉ texts value) : anchor.Consumes := by
  intro text value rest recognised
  obtain ⟨found, listed, split⟩ := reads.mp recognised
  refine ⟨found, ?_, split⟩
  rintro rfl
  exact nonempty value listed

/-- The scan for what an anchor reads covers all of it. -/
theorem Anchor.Reads.covers (reads : anchor.Reads texts)
    (nonempty : ∀ value, [] ∉ texts value) (anywhere : anchor.atWordStart = false)
    (text : List Char) : Covers texts text (anchor.spans text) := by
  have consumes : anchor.Consumes := reads.consumes nonempty
  refine ⟨?_, Anchor.spans_separate consumes, ?_, ?_⟩
  · intro span listed
    obtain ⟨before, inner, rest, split, start, stop, shorter, -⟩ :=
      Anchor.spans_recognised consumes anywhere listed
    have total := congrArg List.length split
    rw [List.length_append] at total
    omega
  · intro span listed
    obtain ⟨rest, recognised⟩ := Anchor.spans_cut consumes listed
    obtain ⟨found, inside, same⟩ := reads.mp recognised
    rwa [List.append_cancel_right same]
  · rintro position value ⟨found, inside, rest, starts⟩
    have recognised : anchor.recognise? (text.drop position) = some (value, rest) :=
      reads.mpr ⟨found, inside, starts.symm⟩
    have within : position ≤ text.length := by
      by_contra beyond
      rw [List.drop_eq_nil_of_le (by omega)] at starts
      have empty := (List.append_eq_nil_iff.mp starts).1
      exact nonempty value (empty ▸ inside)
    have length : (text.take position).length = position := List.length_take_of_le within
    obtain ⟨span, listed, start, stop⟩ := Anchor.spans_covered consumes anywhere
      (List.take_append_drop position text).symm recognised
    exact ⟨span, listed, by omega, by omega⟩

end Reads

/-- The head of a function is not empty. -/
theorem functionTexts_nonempty (head : FunctionHead) : [] ∉ functionTexts head := by
  intro empty
  obtain ⟨lead, attributes, pad, -, -, -, -, split⟩ := mem_functionTexts.mp empty
  simp at split

/-- A named list is not empty. -/
theorem namedListTexts_nonempty (keyword : String) (name items : List Char) :
    [] ∉ namedListTexts keyword name items := by
  intro empty
  obtain ⟨lead, -, -, split⟩ := mem_namedListTexts.mp empty
  simp at split

/-- The head of a modifier is not empty. -/
theorem modifierTexts_nonempty (name : List Char) : [] ∉ modifierTexts name := by
  rintro ⟨items, _, -, _, rfl, split⟩
  simp at split

/-- An import is not empty. -/
theorem importTexts_nonempty (path : List Char) : [] ∉ importTexts path := by
  rintro ⟨_, -, _, ⟨opening, closing, rfl, -⟩, split⟩
  simp at split

/-- The keyword is the first one in the order given that occurs in the window, or the default
where none does. -/
def IsFirstKeyword (keywords : List String) (default : String) (window : List Char)
    (chosen : String) : Prop :=
  (∃ before after, keywords = before ++ chosen :: after ∧ chosen.toList <:+: window ∧
    ∀ keyword ∈ before, ¬ keyword.toList <:+: window) ∨
  (chosen = default ∧ ∀ keyword ∈ keywords, ¬ keyword.toList <:+: window)

/-- The keyword that is taken is the first in the window. -/
theorem firstKeyword_isFirst (keywords : List String) (default : String) (window : List Char) :
    IsFirstKeyword keywords default window (firstKeyword keywords default window) := by
  unfold firstKeyword
  cases found : keywords.find? fun keyword => occursIn keyword.toList window with
  | none =>
      right
      refine ⟨rfl, fun keyword listed occurs => ?_⟩
      have absent := List.find?_eq_none.mp found keyword listed
      exact absent (occursIn_iff.mpr occurs)
  | some chosen =>
      left
      obtain ⟨occurs, before, after, split, earlier⟩ := List.find?_eq_some_iff_append.mp found
      refine ⟨before, after, split, occursIn_iff.mp occurs, fun keyword listed inside => ?_⟩
      have absent := earlier keyword listed
      rw [occursIn_iff.mpr inside] at absent
      cases absent

/-- The window before a position within the text, cut off at the start of the text. -/
theorem precedingWindow_eq {position : Nat} {text : List Char}
    (within : position ≤ text.length) (size : Nat) :
    precedingWindow size position text = text.extract (position - size) position := by
  have stop : boundedIndex text.length (position : Int) = position := by
    unfold boundedIndex
    rw [if_neg (by omega)]
    omega
  have start : boundedIndex text.length (max 0 ((position : Int) - size)) = position - size := by
    unfold boundedIndex
    rw [if_neg (by omega)]
    omega
  rw [precedingWindow, slice, stop, start, List.drop_take, List.extract_eq_take_drop]

/-- Each of the four scans misses no place where a text of its language starts, and lists one
declaration for each in order. -/
theorem declarations_cover (source : String) :
    let text := source.toList
    (∃ spans, Covers functionTexts text spans ∧
      List.Forall₂ (fun span declaration =>
        declaration.name = String.ofList span.value.name ∧
        IsFirstKeyword ["public", "private", "internal", "external"] "internal"
          (text.extract (span.start - 50) span.start) declaration.visibility ∧
        IsFirstKeyword ["view", "pure", "payable"] "non-payable"
          (text.extract (span.start - 50) span.start) declaration.mutability)
        spans (functionsOf text)) ∧
    (∃ spans, Covers modifierTexts text spans ∧
      modifiersOf text = spans.map fun span => String.ofList span.value) ∧
    (∃ spans, Covers eventTexts text spans ∧
      eventsOf text = spans.map fun span => String.ofList span.value.1) ∧
    ∃ spans, Covers importTexts text spans ∧
      importsOf text = spans.map fun span => String.ofList span.value := by
  intro text
  refine ⟨?_, ?_, ?_, ?_⟩
  · have covers := functionAnchor_reads.covers functionTexts_nonempty rfl text
    refine ⟨_, covers, ?_⟩
    unfold functionsOf
    rw [List.forall₂_map_right_iff, List.forall₂_same]
    intro span listed
    obtain ⟨ordered, within⟩ := covers.bounded span listed
    have window : precedingWindow attributeWindow span.start text =
        text.extract (span.start - 50) span.start := precedingWindow_eq (by omega) 50
    refine ⟨rfl, ?_, ?_⟩
    · rw [← window]
      exact firstKeyword_isFirst _ _ _
    · rw [← window]
      exact firstKeyword_isFirst _ _ _
  · exact ⟨_, modifierAnchor_reads.covers modifierTexts_nonempty rfl text, rfl⟩
  · exact ⟨_, eventAnchor_reads.covers (fun _ => namedListTexts_nonempty _ _ _) rfl text, rfl⟩
  · exact ⟨_, importAnchor_reads.covers importTexts_nonempty rfl text, rfl⟩

end SolidityAudit.Source
