import SolidityAudit.Proofs.Text.Split
import SolidityAudit.Text.LetterCase
import SolidityAudit.Text.Piece

namespace SolidityAudit.Text

/-- A character that stands in no word, so that the letters on its two sides do not bear on each
other. -/
def PartsWords (character : Char) : Prop :=
  isCased character = false ∧ isCaseIgnorable character = false

instance (character : Char) : Decidable (PartsWords character) :=
  inferInstanceAs (Decidable (_ ∧ _))

section Parted

variable {character : Char} (parts : PartsWords character)

include parts

/-- Whether a word ends is not decided beyond a parting character. -/
theorem endsWord_parted (text rest : List Char) :
    endsWord (text ++ character :: rest) = endsWord text := by
  induction text with
  | nil => simp [endsWord, parts.1, parts.2]
  | cons first others ih => rw [List.cons_append, endsWord, endsWord, ih]

/-- A parting character lets both sides be lowered apart. -/
theorem lowerFrom_parted (afterCased : Bool) (text rest : List Char) :
    lowerFrom afterCased (text ++ character :: rest) =
      lowerFrom afterCased text ++ (lowerCharacter character ++ lower rest) := by
  induction text generalizing afterCased with
  | nil =>
      have other : (character == 'Σ') = false := by
        rw [beq_eq_false_iff_ne]
        rintro rfl
        exact absurd parts.1 (by decide)
      simp [lowerFrom, lower, other, parts.1, parts.2]
  | cons first others ih =>
      simp only [List.cons_append, lowerFrom, endsWord_parted parts, ih, List.append_assoc]

/-- The same from the start of a text. -/
theorem lower_parted (text rest : List Char) :
    lower (text ++ character :: rest) = lower text ++ (lowerCharacter character ++ lower rest) :=
  lowerFrom_parted parts false text rest

end Parted

/-- The small form of lines is made line by line. -/
theorem lower_joined (texts : List (List Char)) :
    lower (['\n'].intercalate texts) = ['\n'].intercalate (texts.map lower) := by
  have parts : PartsWords '\n' := by decide
  have kept : lowerCharacter '\n' = ['\n'] := by decide
  induction texts with
  | nil => rfl
  | cons text others ih =>
      cases others with
      | nil => simp
      | cons next later =>
          rw [List.map_cons, List.map_cons, List.intercalate_cons_cons,
            List.intercalate_cons_cons, ← List.map_cons, ← ih, List.append_assoc,
            List.singleton_append, lower_parted parts, kept, ← List.append_assoc]

section Parted

variable {needle : List Char} {mark : Char} (absent : mark ∉ needle)

include absent

/-- A needle without the mark begins before it. -/
theorem prefix_parted {first second : List Char} :
    needle <+: first ++ mark :: second ↔ needle <+: first := by
  refine ⟨fun starts => ?_, fun starts => starts.trans (List.prefix_append _ _)⟩
  rcases List.prefix_or_prefix_of_prefix starts (List.prefix_append first _) with
    within | ⟨more, rfl⟩
  · exact within
  · cases more with
    | nil => simp
    | cons next later =>
        obtain ⟨rfl, -⟩ := List.cons_prefix_cons.mp ((List.prefix_append_right_inj first).mp starts)
        exact absurd (by simp) absent

/-- A text without the mark lies on one side of it. -/
theorem infix_parted {first second : List Char} :
    needle <:+: first ++ mark :: second ↔ needle <:+: first ∨ needle <:+: second := by
  induction first with
  | nil =>
      rw [List.nil_append, List.infix_cons_iff, ← List.nil_append (mark :: second),
        prefix_parted absent, List.prefix_nil, List.infix_nil]
  | cons character first ih =>
      rw [List.cons_append, List.infix_cons_iff, ← List.cons_append, prefix_parted absent, ih,
        List.infix_cons_iff, or_assoc]

/-- A needle without the mark occurs in one of the joined texts. -/
theorem infix_joined {texts : List (List Char)} (nonempty : texts ≠ []) :
    needle <:+: [mark].intercalate texts ↔ ∃ text ∈ texts, needle <:+: text := by
  induction texts with
  | nil => exact absurd rfl nonempty
  | cons text others ih =>
      cases others with
      | nil => simp
      | cons next later =>
          rw [List.intercalate_cons_cons, List.append_assoc, List.singleton_append,
            infix_parted absent, ih (by simp)]
          simp

end Parted

section LineEnds

/-- A text that goes over no end of a line, of whatever kind. -/
def WithinLine (text : List Char) : Prop := '\n' ∉ text ∧ '\r' ∉ text

instance (text : List Char) : Decidable (WithinLine text) := inferInstanceAs (Decidable (_ ∧ _))

variable {needle : List Char}

/-- The same for lowered texts. -/
theorem infix_lower_parted {mark : Char} (parts : PartsWords mark)
    (kept : lowerCharacter mark = [mark]) (absent : mark ∉ needle) (first second : List Char) :
    needle <:+: lower (first ++ mark :: second) ↔
      needle <:+: lower first ∨ needle <:+: lower second := by
  rw [lower_parted parts, kept, List.singleton_append, infix_parted absent]

/-- What stands within a line is neither made nor lost where the ends of lines are unified. -/
theorem infix_lower_unified (within : WithinLine needle) (front text : List Char) :
    needle <:+: lower (front ++ unifyNewlines text) ↔ needle <:+: lower (front ++ text) := by
  have atFeed := @infix_lower_parted needle '\n' (by decide) (by decide) within.1
  have atReturn := @infix_lower_parted needle '\r' (by decide) (by decide) within.2
  fun_induction unifyNewlines text generalizing front with
  | case1 => rfl
  | case2 rest ih =>
      have alone : needle <:+: lower ('\n' :: rest) ↔ needle <:+: lower rest := by
        refine (atFeed [] rest).trans (or_iff_right_of_imp fun empty => ?_)
        rw [List.infix_nil.mp empty]
        exact List.nil_infix
      rw [atFeed, atReturn, alone]
      exact or_congr_right (ih [])
  | case3 rest _ ih =>
      rw [atFeed, atReturn]
      exact or_congr_right (ih [])
  | case4 character rest _ _ ih =>
      simpa using ih (front ++ [character])

end LineEnds

end SolidityAudit.Text
