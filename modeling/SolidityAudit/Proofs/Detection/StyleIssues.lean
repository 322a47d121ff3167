import Mathlib.Data.List.Nodup
import SolidityAudit.Detection.StyleRule
import SolidityAudit.Proofs.Text.Split
import SolidityAudit.Proofs.Text.Trim

namespace SolidityAudit.Detection

open Json (Value)
open Text

/-- The issue of a line that stands below the given number of others. -/
def StyleIssue.movedDown (count : Nat) (issue : StyleIssue) : StyleIssue :=
  { issue with line := issue.line + count }

/-- The issue of two blank lines one after the other, under the number of the first. -/
def seamIssues (number : Nat) (line next : Option (List Char)) : List StyleIssue :=
  if line.any isBlankText && next.any isBlankText then [⟨.consecutiveBlankLines, number, 1⟩] else []

/-- Trimming leaves nothing of a line exactly when it is white space alone. -/
theorem isBlankLine_eq (line : List Char) : isBlankLine line = isBlankText line := by
  rw [Bool.eq_iff_iff, isBlankLine, isBlankText, List.isEmpty_iff, List.all_eq_true, trim,
    trimBy, trimRightBy_eq, List.rdropWhile_eq_nil_iff, trimLeftBy]
  constructor
  · intro blank character inside
    rw [← List.takeWhile_append_dropWhile (p := isBlank) (l := line), List.mem_append] at inside
    rcases inside with before | after
    · exact List.mem_takeWhile_imp before
    · exact blank character after
  · intro blank character inside
    exact blank character ((List.dropWhile_sublist isBlank).subset inside)

section Line

variable (number : Nat) (line : List Char) (next : Option (List Char))

/-- The next line can only add an issue. -/
theorem lineIssues_next : (lineIssues number line next).Perm
    (lineIssues number line none ++ seamIssues number (some line) next) := by
  have seam : (if isBlankLine line && next.any isBlankLine then
      [(⟨.consecutiveBlankLines, number, 1⟩ : StyleIssue)] else []) =
      seamIssues number (some line) next := by
    have same : isBlankLine = isBlankText := funext isBlankLine_eq
    rw [seamIssues, same]
    rfl
  have alone : (if isBlankLine line && (none : Option (List Char)).any isBlankLine then
      [(⟨.consecutiveBlankLines, number, 1⟩ : StyleIssue)] else []) = [] := by simp
  unfold lineIssues
  rw [seam, alone, List.append_nil]
  simp only [List.append_assoc]
  apply List.Perm.append_left
  apply List.Perm.append_left
  exact List.perm_append_comm

/-- Further down the line has the same issues but for the license. -/
theorem lineIssues_movedDown {count : Nat} (below : 0 < count) (numbered : 0 < number) :
    lineIssues (number + count) line next =
      ((lineIssues number line next).filter fun issue => issue.rule != .missingLicense).map
        (StyleIssue.movedDown count) := by
  have notFirst : (number + count == 1) = false := by
    rw [beq_eq_false_iff_ne]
    omega
  have dropped (fires : Bool) : ((if fires then [(⟨.missingLicense, number, 1⟩ : StyleIssue)] else
      []).filter fun issue => issue.rule != .missingLicense) = [] := by
    cases fires <;> rfl
  have moved (fires : Bool) {rule : StyleRule} (column : Nat) (other : rule ≠ .missingLicense) :
      ((if fires then [(⟨rule, number, column⟩ : StyleIssue)] else []).filter fun issue =>
        issue.rule != .missingLicense).map (StyleIssue.movedDown count) =
      if fires then [⟨rule, number + count, column⟩] else [] := by
    cases fires <;> simp [other, StyleIssue.movedDown]
  unfold lineIssues
  simp only [List.filter_append, List.map_append]
  rw [notFirst, dropped, moved _ _ (by decide), moved _ _ (by decide), moved _ _ (by decide)]
  rfl

/-- A line has at most one issue by each rule, in the order of the rules. -/
theorem lineIssues_sublist : (lineIssues number line next).Sublist
    [⟨.missingLicense, number, 1⟩, ⟨.longLine, number, 1⟩, ⟨.consecutiveBlankLines, number, 1⟩,
      ⟨.trailingBlank, number, line.length⟩] := by
  have kept (fires : Bool) (issue : StyleIssue) :
      (if fires then [issue] else []).Sublist [issue] := by
    cases fires <;> simp
  exact (((kept _ _).append (kept _ _)).append (kept _ _)).append (kept _ _)

/-- The issues of a line carry its number and a column in it. -/
theorem mem_lineIssues {issue : StyleIssue} (listed : issue ∈ lineIssues number line next) :
    issue.line = number ∧ 0 < issue.column ∧
      (issue.rule = .trailingBlank → issue.column = line.length) := by
  have ended : endsBlank line = true → 0 < line.length := by
    intro blank
    apply List.length_pos_of_ne_nil
    rintro rfl
    cases blank
  simp only [lineIssues, List.mem_append, List.mem_ite_nil_right, List.mem_singleton] at listed
  rcases listed with ((⟨-, rfl⟩ | ⟨-, rfl⟩) | ⟨-, rfl⟩) | ⟨blank, rfl⟩
  · exact ⟨rfl, Nat.one_pos, nofun⟩
  · exact ⟨rfl, Nat.one_pos, nofun⟩
  · exact ⟨rfl, Nat.one_pos, nofun⟩
  · exact ⟨rfl, ended blank, fun _ => rfl⟩

end Line

section Lines

/-- The lines before a seam keep their issues, and the lines after it start anew. -/
theorem issuesFrom_append (number : Nat) {first : List (List Char)} (nonempty : first ≠ [])
    (second : List (List Char)) :
    (issuesFrom number (first ++ second)).Perm
      (issuesFrom number first ++ seamIssues (number + first.length - 1) first.getLast? second.head?
        ++ issuesFrom (number + first.length) second) := by
  induction first generalizing number with
  | nil => exact absurd rfl nonempty
  | cons line others ih =>
      cases others with
      | nil =>
          show (lineIssues number line second.head? ++ issuesFrom (number + 1) second).Perm _
          simp only [issuesFrom, List.append_nil]
          exact (lineIssues_next number line second.head?).append_right _
      | cons other more =>
          have later := ih (number + 1) (by simp)
          have same : number + 1 + (other :: more).length =
              number + (line :: other :: more).length := by
            simp only [List.length_cons]
            omega
          rw [same] at later
          show (lineIssues number line (some other) ++
            issuesFrom (number + 1) (other :: more ++ second)).Perm _
          rw [issuesFrom, List.append_assoc, List.append_assoc]
          apply List.Perm.append_left
          rw [← List.append_assoc]
          exact later

/-- Further down all lines have the same issues but for the license. -/
theorem issuesFrom_movedDown {count : Nat} (below : 0 < count) (number : Nat)
    (numbered : 0 < number) (listed : List (List Char)) :
    issuesFrom (number + count) listed =
      ((issuesFrom number listed).filter fun issue => issue.rule != .missingLicense).map
        (StyleIssue.movedDown count) := by
  induction listed generalizing number with
  | nil => rfl
  | cons line others ih =>
      rw [issuesFrom, issuesFrom, List.filter_append, List.map_append,
        lineIssues_movedDown number line others.head? below numbered,
        ← ih (number + 1) (Nat.succ_pos number)]
      congr 2
      omega

/-- Every issue belongs to one of the lines. -/
theorem mem_issuesFrom {number : Nat} {listed : List (List Char)} {issue : StyleIssue}
    (found : issue ∈ issuesFrom number listed) :
    number ≤ issue.line ∧ 0 < issue.column ∧ ∃ line, listed[issue.line - number]? = some line ∧
      (issue.rule = .trailingBlank → issue.column = line.length) := by
  induction listed generalizing number with
  | nil => cases found
  | cons line others ih =>
      rcases List.mem_append.mp found with here | later
      · obtain ⟨rfl, column, trailing⟩ := mem_lineIssues number line others.head? here
        exact ⟨Nat.le_refl _, column, line, by simp, trailing⟩
      · obtain ⟨bounded, column, other, numbered, trailing⟩ := ih later
        refine ⟨by omega, column, other, ?_, trailing⟩
        rw [show issue.line - number = issue.line - (number + 1) + 1 by omega]
        exact numbered

/-- The order in which the rules are applied to a line. -/
def StyleRule.rank : StyleRule → Nat
  | .missingLicense => 0
  | .longLine => 1
  | .consecutiveBlankLines => 2
  | .trailingBlank => 3

/-- Issues are listed by their lines, and those of one line by their rules. -/
def StyleIssue.Precedes (earlier later : StyleIssue) : Prop :=
  earlier.line < later.line ∨ earlier.line = later.line ∧ earlier.rule.rank < later.rule.rank

/-- The issues of one line come in the order of the rules. -/
theorem lineIssues_ordered (number : Nat) (line : List Char) (next : Option (List Char)) :
    (lineIssues number line next).Pairwise StyleIssue.Precedes := by
  apply List.Pairwise.sublist (lineIssues_sublist number line next)
  simp [StyleIssue.Precedes, StyleRule.rank]

/-- The issues of consecutive lines come in order. -/
theorem issuesFrom_ordered (number : Nat) (listed : List (List Char)) :
    (issuesFrom number listed).Pairwise StyleIssue.Precedes := by
  induction listed generalizing number with
  | nil => exact .nil
  | cons line others ih =>
      rw [issuesFrom, List.pairwise_append]
      refine ⟨lineIssues_ordered number line others.head?, ih (number + 1), ?_⟩
      intro earlier here later there
      have first := (mem_lineIssues number line others.head? here).1
      have second := (mem_issuesFrom there).1
      left
      omega

end Lines

/-- The rule that a diagnostic is made by and the place where it points. -/
def shown (diagnostic : Diagnostic) : Value × Value × Value :=
  (diagnostic.name, diagnostic.line, diagnostic.column)

/-- No two rules share a label. -/
theorem label_injective : Function.Injective StyleRule.label := by
  intro rule other same
  cases rule <;> cases other <;> simp_all [StyleRule.label]

/-- What a diagnostic shows of an issue tells it from any other. -/
theorem shown_toDiagnostic_injective :
    Function.Injective fun issue : StyleIssue => shown issue.toDiagnostic := by
  rintro ⟨rule, line, column⟩ ⟨other, otherLine, otherColumn⟩ same
  simp only [shown, StyleIssue.toDiagnostic, Prod.mk.injEq, Value.text.injEq, Wording.plain.injEq,
    Value.integer.injEq, Int.natCast_inj] at same
  obtain ⟨label, rfl, rfl⟩ := same
  rw [label_injective label]

/-- Joining two texts by a line feed joins their lines. -/
theorem lines_joined (first second : String) :
    lines (first ++ "\n" ++ second).toList = lines first.toList ++ lines second.toList := by
  rw [String.toList_append, String.toList_append, List.append_assoc]
  exact splitAtEach_append_separator first.toList second.toList (by decide)

/-- The issues of a joined text are those of its parts and the seam. -/
theorem styleIssues_joined (first second : String) :
    (styleIssues (first ++ "\n" ++ second)).Perm
      (styleIssues first ++
        seamIssues (lines first.toList).length (lines first.toList).getLast?
          (lines second.toList).head? ++
        ((styleIssues second).filter fun issue => issue.rule != .missingLicense).map
          (StyleIssue.movedDown (lines first.toList).length)) := by
  have nonempty : lines first.toList ≠ [] := splitAtEach_ne_nil first.toList
  have positive := List.length_pos_of_ne_nil nonempty
  have split := issuesFrom_append 1 nonempty (lines second.toList)
  rw [issuesFrom_movedDown positive 1 Nat.one_pos, Nat.add_sub_cancel_left] at split
  rw [styleIssues, lines_joined]
  exact split

/-- No issue is shown twice. -/
theorem shown_nodup (source : String) : ((styleScan source).map shown).Nodup := by
  rw [styleScan, List.map_map]
  apply List.Nodup.map shown_toDiagnostic_injective
  apply (issuesFrom_ordered 1 (lines source.toList)).imp
  rintro earlier later precedes rfl
  rcases precedes with line | ⟨-, rule⟩ <;> omega

/-- The issues are listed from the top of the file. -/
theorem styleIssues_sorted (source : String) :
    (styleIssues source).Pairwise fun earlier later => earlier.line ≤ later.line := by
  apply (issuesFrom_ordered 1 (lines source.toList)).imp
  rintro earlier later (line | ⟨line, -⟩) <;> omega

/-- The issues of two texts with a line end between them are those of both, the second moved down
without the license, and one more where two blank lines meet. They are listed once each, by their
lines. -/
theorem styleScan_composes :
    (∀ source, (styleScan source).map shown = (styleIssues source).map fun issue =>
      (.text issue.rule.label, .integer issue.line, .integer issue.column)) ∧
    (∀ first second : String, (styleIssues (first ++ "\n" ++ second)).Perm
      (styleIssues first ++
        (if (lines first.toList).getLast?.any isBlankText &&
            (lines second.toList).head?.any isBlankText then
          [⟨.consecutiveBlankLines, (lines first.toList).length, 1⟩] else []) ++
        ((styleIssues second).filter fun issue => issue.rule != .missingLicense).map
          (StyleIssue.movedDown (lines first.toList).length))) ∧
    ∀ source, ((styleScan source).map shown).Nodup ∧
      ((styleIssues source).Pairwise fun earlier later => earlier.line ≤ later.line) ∧
      ∀ issue ∈ styleIssues source,
        1 ≤ issue.line ∧ issue.line ≤ (lines source.toList).length ∧ 1 ≤ issue.column ∧
        (issue.rule = .trailingBlank → ∃ line, (lines source.toList)[issue.line - 1]? = some line ∧
          issue.column = line.length) := by
  refine ⟨?_, styleIssues_joined, ?_⟩
  · intro source
    rw [styleScan, List.map_map]
    rfl
  · intro source
    refine ⟨shown_nodup source, styleIssues_sorted source, ?_⟩
    intro issue listed
    obtain ⟨numbered, column, line, placed, trailing⟩ := mem_issuesFrom listed
    obtain ⟨within, -⟩ := List.getElem?_eq_some_iff.mp placed
    refine ⟨numbered, by omega, column, ?_⟩
    intro ends
    exact ⟨line, placed, trailing ends⟩

end SolidityAudit.Detection
