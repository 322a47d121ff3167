import SolidityAudit.Proofs.Text.Split

namespace SolidityAudit.Text

/-- White space divides the words before it from the words after it. -/
theorem words_append_blank (first rest : List Char) {character : Char}
    (blank : isBlank character = true) :
    words (first ++ character :: rest) = words first ++ words rest := by
  unfold words
  rw [splitAtEach_append_separator first rest blank, List.filter_append]

section Spacing

variable {blanks : List Char} (blank : ∀ character ∈ blanks, isBlank character = true)

include blank

/-- Blanks before a text add no word. -/
theorem words_blanks_append (rest : List Char) : words (blanks ++ rest) = words rest := by
  induction blanks with
  | nil => rfl
  | cons first others ih =>
      have divided := words_append_blank [] (others ++ rest) (blank first (by simp))
      rw [List.cons_append]
      apply divided.trans
      apply ih
      intro character inside
      exact blank character (by simp [inside])

/-- White space of any length divides like one character of it. -/
theorem words_append_blanks_append (nonempty : blanks ≠ []) (first rest : List Char) :
    words (first ++ (blanks ++ rest)) = words first ++ words rest := by
  obtain ⟨space, others, rfl⟩ := List.exists_cons_of_ne_nil nonempty
  have later : ∀ character ∈ others, isBlank character = true := by
    intro character inside
    exact blank character (by simp [inside])
  rw [List.cons_append, words_append_blank first _ (blank space (by simp)),
    words_blanks_append later]

/-- Nor do blanks after it. -/
theorem words_append_blanks (first : List Char) : words (first ++ blanks) = words first := by
  cases blanks with
  | nil => rw [List.append_nil]
  | cons space others =>
      have divided := words_append_blanks_append blank (by simp) first []
      simpa [words, splitAtEach] using divided

end Spacing

/-- A text without blanks is one word. -/
theorem words_single {word : List Char} (nonempty : word ≠ [])
    (inked : ∀ character ∈ word, isBlank character = false) : words word = [word] := by
  rw [words, splitAtEach_whole inked]
  simp [nonempty]

/-- Words are not empty and hold no blank. -/
theorem mem_words {text word : List Char} (listed : word ∈ words text) :
    word ≠ [] ∧ ∀ character ∈ word, character ∈ text ∧ isBlank character = false := by
  obtain ⟨cut, nonempty⟩ := List.mem_filter.mp listed
  constructor
  · simpa using nonempty
  · intro character inside
    exact mem_of_mem_splitAtEach cut inside

/-- Every character but white space belongs to a word. -/
theorem exists_word {text : List Char} {character : Char} (inside : character ∈ text)
    (inked : isBlank character = false) : ∃ word ∈ words text, character ∈ word := by
  obtain ⟨part, listed, found⟩ := exists_part inside inked
  refine ⟨part, List.mem_filter.mpr ⟨listed, ?_⟩, found⟩
  simpa using List.ne_nil_of_mem found

end SolidityAudit.Text
