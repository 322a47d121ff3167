import SolidityAudit.Proofs.Source.Grammar

namespace SolidityAudit.Source

open Text

/-- A keyword that is a word. -/
def IsSpelled (keyword : String) : Prop :=
  keyword.toList ≠ [] ∧ ∀ character ∈ keyword.toList, isWordCharacter character = true

instance (keyword : String) : Decidable (IsSpelled keyword) := inferInstanceAs (Decidable (_ ∧ _))

section Runs

variable {part : List Char}

/-- A text that ends in a word does not end in a blank. -/
theorem endsBlank_reverse (some : part ≠ [])
    (word : ∀ character ∈ part, isWordCharacter character = true) (rest : List Char) :
    Ends isBlank (part.reverse ++ rest) := by
  obtain ⟨first, others, shape⟩ := List.exists_cons_of_ne_nil (List.reverse_ne_nil_iff.mpr some)
  have inside : first ∈ part := List.mem_reverse.mp (by simp [shape])
  rw [shape]
  exact ends_cons (isBlank_word (word first inside)) _

/-- A text that ends in a gap does not end in a word. -/
theorem endsWord_reverse (gap : part ∈ gapTexts) (rest : List Char) :
    Ends isWordCharacter (part.reverse ++ rest) := by
  obtain ⟨some, blank⟩ := gap
  obtain ⟨first, others, shape⟩ := List.exists_cons_of_ne_nil (List.reverse_ne_nil_iff.mpr some)
  have inside : first ∈ part := List.mem_reverse.mp (by simp [shape])
  rw [shape]
  exact ends_cons (isWordCharacter_blank (blank first inside)) _

/-- A run that is read backwards has the same members. -/
theorem mem_reverse_run {isMember : Char → Bool}
    (members : ∀ character ∈ part, isMember character = true) :
    ∀ character ∈ part.reverse, isMember character = true := by
  simpa using members

end Runs

section Lead

variable {keyword : String} {name lead : List Char} (spelled : IsSpelled keyword)
  (leads : IsLead keyword name lead)

include spelled leads

/-- Up to the parenthesis there are only words and white space. -/
theorem IsLead.mem :
    ∀ character ∈ lead, isWordCharacter character = true ∨ isBlank character = true := by
  obtain ⟨⟨gap, pad, rfl, ⟨-, blank⟩, padded⟩, -, word⟩ := leads
  intro character inside
  simp only [List.mem_append] at inside
  rcases inside with inside | inside | inside | inside
  · exact .inl (spelled.2 character inside)
  · exact .inr (blank character inside)
  · exact .inl (word character inside)
  · exact .inr (padded character inside)

/-- A lead holds word characters and blanks only. -/
theorem IsLead.not_mem {character : Char}
    (other : isWordCharacter character = false ∧ isBlank character = false) :
    character ∉ lead := by
  intro inside
  rcases leads.mem spelled character inside with word | blank
  · rw [other.1] at word
    cases word
  · rw [other.2] at blank
    cases blank

/-- A lead that ends a text has the last word of it for its name. -/
theorem IsLead.keyword_ends {front first gap second pad : List Char}
    (ends : Ends isBlank first.reverse) (spaced : gap ∈ gapTexts)
    (word : second ≠ [] ∧ ∀ character ∈ second, isWordCharacter character = true)
    (padded : pad ∈ blankTexts) (split : first ++ (gap ++ (second ++ pad)) = front ++ lead) :
    first = front ++ keyword.toList := by
  obtain ⟨⟨ownGap, ownPad, rfl, ownSpaced, ownPadded⟩, someName, ownWord⟩ := leads
  have reversed := congrArg List.reverse split
  simp only [List.reverse_append, List.append_assoc] at reversed
  obtain ⟨-, afterPad⟩ := run_unique (mem_reverse_run padded) (endsBlank_reverse word.1 word.2 _)
    (mem_reverse_run ownPadded) (endsBlank_reverse someName ownWord _) reversed
  obtain ⟨-, afterName⟩ := run_unique (mem_reverse_run word.2) (endsWord_reverse spaced _)
    (mem_reverse_run ownWord) (endsWord_reverse ownSpaced _) afterPad
  obtain ⟨-, afterGap⟩ := run_unique (mem_reverse_run spaced.2) ends
    (mem_reverse_run ownSpaced.2) (endsBlank_reverse spelled.1 spelled.2 _) afterName
  rw [← List.reverse_append] at afterGap
  exact List.reverse_injective afterGap

end Lead

end SolidityAudit.Source
