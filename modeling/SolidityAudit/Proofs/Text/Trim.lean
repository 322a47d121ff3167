import Mathlib.Data.List.DropRight
import SolidityAudit.Text.Piece

namespace SolidityAudit.Text

section Trimming

variable {α : Type} {drops : α → Bool}

/-- Trimming on the right drops the longest run at the end. -/
theorem trimRightBy_eq (text : List α) : trimRightBy drops text = text.rdropWhile drops := rfl

/-- Cutting off the end keeps a text that does not start with what is dropped so. -/
theorem trimLeftBy_trimRightBy {text : List α} (started : trimLeftBy drops text = text) :
    trimLeftBy drops (trimRightBy drops text) = trimRightBy drops text := by
  cases text with
  | nil => rfl
  | cons first rest =>
      have kept : drops first ≠ true := by
        intro dropped
        have shorter := congrArg List.length started
        simp only [trimLeftBy, List.dropWhile_cons_of_pos dropped, List.length_cons] at shorter
        have := (List.dropWhile_suffix (l := rest) drops).length_le
        omega
      obtain ⟨tail, whole⟩ := List.rdropWhile_prefix drops (l := first :: rest)
      rw [trimRightBy_eq]
      cases cut : (first :: rest).rdropWhile drops with
      | nil => rfl
      | cons head others =>
          rw [cut] at whole
          cases whole
          exact List.dropWhile_cons_of_neg kept

/-- A trimmed text has no more to trim. -/
theorem trimBy_trimBy (text : List α) : trimBy drops (trimBy drops text) = trimBy drops text := by
  have started : trimLeftBy drops (trimLeftBy drops text) = trimLeftBy drops text :=
    List.dropWhile_idempotent _ _
  unfold trimBy
  rw [trimLeftBy_trimRightBy started]
  exact List.rdropWhile_idempotent _ _

/-- A text that has nothing to be dropped at its ends. -/
def IsTrimmedBy (drops : α → Bool) (text : List α) : Prop :=
  (∀ first ∈ text.head?, drops first = false) ∧ ∀ last ∈ text.getLast?, drops last = false

/-- A text that trimming leaves as it is has nothing to be dropped at its ends. -/
theorem isTrimmedBy_of_trimBy {text : List α} (kept : trimBy drops text = text) :
    IsTrimmedBy drops text := by
  have started : trimLeftBy drops text = text := by
    rw [← kept]
    exact trimLeftBy_trimRightBy (List.dropWhile_idempotent _ _)
  have ended : trimRightBy drops text = text := by
    rw [trimBy, started] at kept
    exact kept
  constructor
  · intro first heads
    obtain ⟨rest, rfl⟩ := List.head?_eq_some_iff.mp heads
    have inked : ¬ drops first = true := List.dropWhile_eq_self_iff.mp started (by simp)
    exact Bool.eq_false_iff.mpr inked
  · intro last ends
    obtain ⟨front, rfl⟩ := List.getLast?_eq_some_iff.mp ends
    simpa using List.rdropWhile_eq_self_iff.mp ended (by simp)

section Surroundings

variable {before after : List α} {first : α}

/-- What is dropped anyway may be appended. -/
theorem trimRightBy_append (text : List α) (dropped : ∀ symbol ∈ after, drops symbol = true) :
    trimRightBy drops (text ++ after) = trimRightBy drops text := by
  have cut : ∀ symbol ∈ after.reverse, drops symbol = true := by
    simpa using dropped
  rw [trimRightBy, trimRightBy, List.reverse_append, List.dropWhile_append_of_pos cut]

/-- What is dropped around a text that starts with ink is trimmed, and so is that at its end. -/
theorem trimBy_surrounded (inked : drops first = false) (rest : List α)
    (before_dropped : ∀ symbol ∈ before, drops symbol = true)
    (after_dropped : ∀ symbol ∈ after, drops symbol = true) :
    trimBy drops (before ++ first :: rest ++ after) = trimRightBy drops (first :: rest) := by
  have started : trimLeftBy drops (before ++ (first :: rest ++ after)) =
      first :: rest ++ after := by
    rw [trimLeftBy, List.dropWhile_append_of_pos before_dropped, List.cons_append,
      List.dropWhile_cons_of_neg (by simp [inked])]
  rw [trimBy, List.append_assoc, started, trimRightBy_append _ after_dropped]

/-- A text that ends in a kept symbol is kept. -/
theorem trimRightBy_concat (front : List α) {last : α} (inked : drops last = false) :
    trimRightBy drops (front ++ [last]) = front ++ [last] := by
  rw [trimRightBy_eq, List.rdropWhile_concat_neg _ _ _ (by simp [inked])]

/-- A kept symbol at the start is still there. -/
theorem trimRightBy_head (inked : drops first = false) (rest : List α) :
    ∃ others, trimRightBy drops (first :: rest) = first :: others := by
  cases trimmed : trimRightBy drops (first :: rest) with
  | nil =>
      have every := List.rdropWhile_eq_nil_iff.mp ((trimRightBy_eq _).symm.trans trimmed)
      rw [every first (by simp)] at inked
      cases inked
  | cons head others =>
      obtain ⟨tail, kept⟩ := List.rdropWhile_prefix drops (l := first :: rest)
      rw [← trimRightBy_eq, trimmed] at kept
      cases kept
      exact ⟨others, rfl⟩

end Surroundings

end Trimming

end SolidityAudit.Text
