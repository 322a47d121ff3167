import Mathlib.Data.List.Infix
import SolidityAudit.Text.Piece

namespace SolidityAudit.Text

/-- A needle occurs in a text when the text is the needle between two others. -/
theorem occursIn_iff {α : Type} [BEq α] [LawfulBEq α] {needle text : List α} :
    occursIn needle text = true ↔ needle <:+: text := by
  induction text with
  | nil => simp [occursIn]
  | cons character rest ih =>
      simp only [occursIn, Bool.or_eq_true, List.isPrefixOf_iff_prefix, ih,
        List.infix_cons_iff]

/-- Without its first and last symbol a text in brackets is the text. -/
theorem slice_inner {α : Type} (first last : α) (text : List α) :
    slice 1 (-1) (first :: (text ++ [last])) = text := by
  have stop : boundedIndex (first :: (text ++ [last])).length (-1) = text.length + 1 := by
    simp only [boundedIndex, List.length_cons, List.length_append, List.length_nil]
    split <;> omega
  have start : boundedIndex (first :: (text ++ [last])).length 1 = 1 := by
    simp only [boundedIndex, List.length_cons, List.length_append, List.length_nil]
    split <;> omega
  rw [slice, stop, start, List.take_succ_cons, List.drop_one, List.tail_cons,
    List.take_left]

section Parts

variable {α : Type} {isSeparator : α → Bool}

/-- A split text has a part. -/
theorem splitAtEach_ne_nil (text : List α) : splitAtEach isSeparator text ≠ [] := by
  cases text with
  | nil => simp [splitAtEach]
  | cons character rest =>
      simp only [splitAtEach]
      split
      · simp
      · split <;> simp

/-- A separator at the start sets off an empty part. -/
theorem splitAtEach_separator {character : α} (separates : isSeparator character = true)
    (rest : List α) :
    splitAtEach isSeparator (character :: rest) = [] :: splitAtEach isSeparator rest := by
  simp [splitAtEach, separates]

/-- A character that does not separate belongs to the first part. -/
theorem splitAtEach_other {character : α} (joins : isSeparator character = false)
    {rest part : List α} {others : List (List α)}
    (split : splitAtEach isSeparator rest = part :: others) :
    splitAtEach isSeparator (character :: rest) = (character :: part) :: others := by
  simp [splitAtEach, joins, split]

/-- A separator divides the parts before it from the parts after it. -/
theorem splitAtEach_append_separator (first rest : List α) {character : α}
    (separates : isSeparator character = true) :
    splitAtEach isSeparator (first ++ character :: rest) =
      splitAtEach isSeparator first ++ splitAtEach isSeparator rest := by
  induction first with
  | nil => simp [splitAtEach, separates]
  | cons head tail ih =>
      obtain ⟨part, others, split⟩ := List.exists_cons_of_ne_nil
        (@splitAtEach_ne_nil α isSeparator tail)
      cases isHead : isSeparator head with
      | true =>
          rw [List.cons_append, splitAtEach_separator isHead, splitAtEach_separator isHead, ih]
          rfl
      | false =>
          rw [split, List.cons_append] at ih
          rw [List.cons_append, splitAtEach_other isHead ih, splitAtEach_other isHead split]
          rfl

/-- A text without separators is one part. -/
theorem splitAtEach_whole {text : List α}
    (joins : ∀ character ∈ text, isSeparator character = false) :
    splitAtEach isSeparator text = [text] := by
  induction text with
  | nil => rfl
  | cons head tail ih =>
      exact splitAtEach_other (joins head (by simp)) (ih fun character inside =>
        joins character (by simp [inside]))

/-- The parts hold the characters of the text other than the separators. -/
theorem mem_of_mem_splitAtEach {text part : List α}
    (listed : part ∈ splitAtEach isSeparator text) {character : α}
    (inside : character ∈ part) : character ∈ text ∧ isSeparator character = false := by
  induction text generalizing part with
  | nil =>
      simp only [splitAtEach, List.mem_singleton] at listed
      simp [listed] at inside
  | cons head tail ih =>
      obtain ⟨first, others, split⟩ := List.exists_cons_of_ne_nil
        (@splitAtEach_ne_nil α isSeparator tail)
      cases isHead : isSeparator head with
      | true =>
          rw [splitAtEach_separator isHead] at listed
          rcases List.mem_cons.mp listed with empty | later
          · simp [empty] at inside
          · have found := ih later inside
            exact ⟨by simp [found.1], found.2⟩
      | false =>
          rw [splitAtEach_other isHead split] at listed
          have within (part : List α) (listed : part ∈ first :: others)
              (inside : character ∈ part) := ih (split ▸ listed) inside
          rcases List.mem_cons.mp listed with same | later
          · rw [same] at inside
            rcases List.mem_cons.mp inside with here | there
            · exact ⟨by simp [here], by rw [here, isHead]⟩
            · have found := within first (by simp) there
              exact ⟨by simp [found.1], found.2⟩
          · have found := within part (by simp [later]) inside
            exact ⟨by simp [found.1], found.2⟩

/-- Every character that does not separate belongs to a part. -/
theorem exists_part {text : List α} {character : α} (inside : character ∈ text)
    (joins : isSeparator character = false) :
    ∃ part ∈ splitAtEach isSeparator text, character ∈ part := by
  induction text with
  | nil => cases inside
  | cons head tail ih =>
      obtain ⟨first, others, split⟩ := List.exists_cons_of_ne_nil
        (@splitAtEach_ne_nil α isSeparator tail)
      cases isHead : isSeparator head with
      | true =>
          have later : character ∈ tail := by
            rcases List.mem_cons.mp inside with rfl | later
            · rw [isHead] at joins
              cases joins
            · exact later
          obtain ⟨part, listed, found⟩ := ih later
          exact ⟨part, by simp [splitAtEach_separator isHead, listed], found⟩
      | false =>
          rw [splitAtEach_other isHead split]
          rcases List.mem_cons.mp inside with rfl | later
          · exact ⟨character :: first, by simp, by simp⟩
          · obtain ⟨part, listed, found⟩ := ih later
            rw [split] at listed
            rcases List.mem_cons.mp listed with rfl | listed
            · exact ⟨head :: part, by simp, by simp [found]⟩
            · exact ⟨part, by simp [listed], found⟩

/-- Parts without separators come back from the text that joins them. -/
theorem splitAtEach_joined {separator : α} (separates : isSeparator separator = true)
    (parts : List (List α)) (nonempty : parts ≠ [])
    (joins : ∀ part ∈ parts, ∀ character ∈ part, isSeparator character = false) :
    splitAtEach isSeparator ([separator].intercalate parts) = parts := by
  induction parts with
  | nil => exact absurd rfl nonempty
  | cons part others ih =>
      have whole := splitAtEach_whole (joins part (by simp))
      cases others with
      | nil => simpa using whole
      | cons next later =>
          rw [List.intercalate_cons_cons, List.append_assoc, List.singleton_append,
            splitAtEach_append_separator _ _ separates, whole,
            ih (by simp) fun other listed => joins other (by simp [listed])]
          rfl

end Parts

/-- A text without carriage returns has one kind of line end already. -/
theorem unifyNewlines_eq {text : List Char} (plain : '\r' ∉ text) :
    unifyNewlines text = text := by
  induction text with
  | nil => rfl
  | cons character rest ih =>
      simp only [List.mem_cons, not_or] at plain
      rw [unifyNewlines.eq_def]
      split
      · next same => cases same
      · next same =>
        cases same
        exact absurd rfl plain.1
      · next same =>
        cases same
        exact absurd rfl plain.1
      · next same =>
        cases same
        rw [ih plain.2]

end SolidityAudit.Text
