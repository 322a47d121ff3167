import Mathlib.Data.List.Forall2
import SolidityAudit.Interface.Signature
import SolidityAudit.Proofs.Source.Signatures

namespace SolidityAudit.Interface

open Source Text

/-- Spans that have their likes at the same places have them in the same order. -/
theorem sublistForall₂_of_starts {α : Type} {like : Span α → Span α → Prop}
    {first second : List (Span α)}
    (increase : first.Pairwise fun earlier later => earlier.start < later.start)
    (otherIncrease : second.Pairwise fun earlier later => earlier.start < later.start)
    (liked : ∀ span ∈ first, ∃ other ∈ second, other.start = span.start ∧ like span other) :
    List.SublistForall₂ (fun span other => other.start = span.start ∧ like span other)
      first second := by
  induction second generalizing first with
  | nil =>
      cases first with
      | nil => exact .nil
      | cons span first =>
          obtain ⟨other, listed, -⟩ := liked span List.mem_cons_self
          cases listed
  | cons head second ih =>
      obtain ⟨ahead, restIncrease⟩ := List.pairwise_cons.mp otherIncrease
      cases first with
      | nil => exact .nil
      | cons span first =>
          obtain ⟨behind, laterIncrease⟩ := List.pairwise_cons.mp increase
          obtain ⟨other, listed, same, alike⟩ := liked span List.mem_cons_self
          have beyond (later : Span α) (laterThan : head.start < later.start)
              (alsoLiked : ∃ other ∈ head :: second, other.start = later.start ∧ like later other) :
              ∃ other ∈ second, other.start = later.start ∧ like later other := by
            obtain ⟨other, listed, same, alike⟩ := alsoLiked
            rcases List.mem_cons.mp listed with rfl | listed
            · omega
            · exact ⟨other, listed, same, alike⟩
          rcases List.mem_cons.mp listed with rfl | listed
          · refine .cons ⟨same, alike⟩ (ih laterIncrease restIncrease fun later laterListed => ?_)
            have := behind later laterListed
            exact beyond later (by omega) (liked later (List.mem_cons_of_mem _ laterListed))
          · have headFirst := ahead other listed
            refine .cons_right (ih increase restIncrease fun later laterListed => ?_)
            refine beyond later ?_ (liked later laterListed)
            rcases List.mem_cons.mp laterListed with rfl | laterListed
            · omega
            · have := behind later laterListed
              omega

/-- No constructor, no `internal` in the fifty characters before it, and not among the results of
another signature. -/
def IsShared (text : List Char) (span : Span FunctionHead) : Prop :=
  String.ofList span.value.name ≠ "constructor" ∧
  ¬ "internal".toList <:+: text.extract (span.start - 50) span.start ∧
  ∀ other ∈ signatureAnchor.spans text, ¬ InResults text other span.start

/-- A span with the start and the head of a shared one is exposed. -/
theorem IsShared.exposed {text : List Char} {span other : Span FunctionHead}
    (shared : IsShared text span) (within : span.start ≤ text.length)
    (sameStart : other.start = span.start) (sameValue : other.value = span.value) :
    isExposed text other = true := by
  obtain ⟨noConstructor, noInternal, -⟩ := shared
  have window : precedingWindow attributeWindow span.start text =
      text.extract (span.start - 50) span.start := precedingWindow_eq within 50
  have absent : occursIn "internal".toList (text.extract (span.start - 50) span.start) = false :=
    Bool.eq_false_iff.mpr fun occurs => noInternal (occursIn_iff.mp occurs)
  simp only [isExposed, sameStart, sameValue, window, absent, Bool.not_false, Bool.and_true,
    bne_iff_ne, ne_eq]
  exact noConstructor

open Classical in
/-- Each function that must be shared has an entry of its name for its place, in the same order. -/
theorem ofSource_shares (source : String) :
    let text := source.toList
    let defined := functionAnchor.spans text
    let signed := (signatureAnchor.spans text).filter (isExposed text)
    (Inventory.ofSource source).functions.map FunctionDeclaration.name =
      defined.map (fun span => String.ofList span.value.name) ∧
    (∃ others, ofSource source = signed.map (functionEntry text) ++ others) ∧
    List.SublistForall₂ (fun span other => other.start = span.start ∧
        other.value = span.value ∧ (functionEntry text other).kind = .function ∧
        (functionEntry text other).name = .text (String.ofList span.value.name))
      (defined.filter fun span => decide (IsShared text span)) signed := by
  intro text defined signed
  refine ⟨?_, ?_, ?_⟩
  · simp [Inventory.ofSource, functionsOf, defined, text]
  · exact ⟨_, List.append_assoc _ _ _⟩
  · refine sublistForall₂_of_starts
      ((Anchor.starts_increase functionAnchor_consumes rfl).filter _)
      ((Anchor.starts_increase signatureAnchor_consumes rfl).filter _) fun span listed => ?_
    obtain ⟨listed, shared⟩ := List.mem_filter.mp listed
    have shared : IsShared text span := of_decide_eq_true shared
    obtain ⟨other, otherListed, ⟨sameStart, sameValue⟩ | inResults⟩ := function_signature listed
    · obtain ⟨before, inner, rest, split, start, -⟩ :=
        Anchor.spans_recognised functionAnchor_consumes rfl listed
      have within : span.start ≤ text.length := by
        rw [split, start, List.length_append]
        omega
      refine ⟨other, List.mem_filter.mpr ⟨otherListed, shared.exposed within sameStart sameValue⟩,
        sameStart, sameValue, rfl, ?_⟩
      rw [functionEntry, sameValue]
      rfl
    · exact absurd inResults (shared.2.2 other otherListed)

end SolidityAudit.Interface
