import SolidityAudit.Proofs.Detection.Reports
import SolidityAudit.Risk.Score

namespace SolidityAudit.Detection

open Json (Value)
open Text

/-- The label that a table gives to a text. -/
def labelFrom (labels : List (Wording × Wording)) (text : Wording) : Wording :=
  (labels.lookup text.trim.lower).getD text.trim

/-- Every spelling in the table is one of its own word. -/
def SpellsWords (labels : List (Wording × Wording)) : Prop :=
  ∀ entry ∈ labels, entry.2.trim.lower = entry.1

/-- The spellings of impacts belong to their words. -/
theorem impactLabels_spell : SpellsWords impactLabels := by
  unfold SpellsWords
  decide

/-- The spellings of severities belong to their words. -/
theorem severityLabels_spell : SpellsWords severityLabels := by
  unfold SpellsWords
  decide

section Tables

variable {labels : List (Wording × Wording)} (spell : SpellsWords labels) (text : Wording)

include spell

/-- A label is the same word as the text it stands for, but for the case of letters and the white
space around it. -/
theorem lower_labelFrom : (labelFrom labels text).trim.lower = text.trim.lower := by
  unfold labelFrom
  cases found : labels.lookup text.trim.lower with
  | none => rw [Option.getD_none, Wording.trim_trim]
  | some spelling =>
      obtain ⟨before, after, split, -⟩ := List.lookup_eq_some_iff.mp found
      apply spell (text.trim.lower, spelling)
      rw [split]
      simp

/-- A label is found again under its own word. -/
theorem labelFrom_labelFrom : labelFrom labels (labelFrom labels text) = labelFrom labels text := by
  have same := lower_labelFrom spell text
  rw [labelFrom, same]
  unfold labelFrom
  cases labels.lookup text.trim.lower with
  | none => rw [Option.getD_none, Option.getD_none, Wording.trim_trim]
  | some spelling => rfl

/-- A label weighs as much as the text it stands for. -/
theorem labelWeight_labelFrom (weights : List (Wording × Nat)) :
    Risk.labelWeight weights (labelFrom labels text) = Risk.labelWeight weights text := by
  rw [Risk.labelWeight, lower_labelFrom spell text, Risk.labelWeight]

end Tables

section Values

/-- Every impact stands for some text, which is empty where there is none. -/
theorem impactLabel_from (impact : Value) :
    ∃ text, impactLabel impact = labelFrom impactLabels text := by
  unfold impactLabel
  split
  · exact ⟨"", by decide⟩
  · exact ⟨impact.display, rfl⟩

/-- A severity that is given by number stands for the word. -/
theorem severityLabel_from (severity : Value) :
    ∃ text, severityLabel severity = labelFrom severityLabels text := by
  unfold severityLabel
  split
  · exact ⟨"", by decide⟩
  · exact ⟨"error", by decide⟩
  · exact ⟨"warning", by decide⟩
  · exact ⟨severity.display, rfl⟩

/-- A text is labelled as the table says. -/
theorem impactLabel_text (text : Wording) :
    impactLabel (.text text) = labelFrom impactLabels text := rfl

/-- A text is labelled as the table says. -/
theorem severityLabel_text (text : Wording) :
    severityLabel (.text text) = labelFrom severityLabels text := rfl

end Values

end SolidityAudit.Detection

namespace SolidityAudit.Risk

open Detection
open Json (Value)
open Text (Symbol Wording)

/-- A text weighs what the table says. -/
theorem severityWeight_text (weights : List (Wording × Nat)) (text : Wording) :
    severityWeight weights (.text text) = .ok (labelWeight weights text) := by
  unfold severityWeight
  by_cases empty : text = .plain ""
  · subst empty
    rfl
  · simp [Value.orElse, Value.isPresent, empty, Value.wording, Except.map]

/-- To label a label changes nothing, and it weighs as much as the text it stands for. -/
theorem labels_final (value : Value) (text : Wording) :
    (impactLabel (.text (impactLabel value)) = impactLabel value ∧
      severityLabel (.text (severityLabel value)) = severityLabel value) ∧
    (Text.IsTrimmedBy Symbol.isBlank (impactLabel value).symbols ∧
      Text.IsTrimmedBy Symbol.isBlank (severityLabel value).symbols) ∧
    (∃ weight, severityWeight securityWeights (.text text) = .ok weight ∧
      severityWeight securityWeights (.text (impactLabel (.text text))) = .ok weight) ∧
    ∃ weight, severityWeight styleWeights (.text text) = .ok weight ∧
      severityWeight styleWeights (.text (severityLabel (.text text))) = .ok weight := by
  refine ⟨⟨?_, ?_⟩, ⟨?_, ?_⟩, ⟨_, severityWeight_text _ _, ?_⟩, ⟨_, severityWeight_text _ _, ?_⟩⟩
  · obtain ⟨words, label⟩ := impactLabel_from value
    rw [impactLabel_text, label, labelFrom_labelFrom impactLabels_spell]
  · obtain ⟨words, label⟩ := severityLabel_from value
    rw [severityLabel_text, label, labelFrom_labelFrom severityLabels_spell]
  · exact Wording.isTrimmedBy_of_trim (impactLabel_trimmed value)
  · exact Wording.isTrimmedBy_of_trim (severityLabel_trimmed value)
  · rw [severityWeight_text, impactLabel_text, labelWeight_labelFrom impactLabels_spell]
  · rw [severityWeight_text, severityLabel_text, labelWeight_labelFrom severityLabels_spell]

end SolidityAudit.Risk
