import Mathlib.Algebra.GroupWithZero.Nat
import Mathlib.Algebra.Order.BigOperators.Group.List
import Mathlib.Algebra.Order.Group.Nat
import Mathlib.Order.Interval.Set.Defs
import SolidityAudit.Proofs.Risk.Names

namespace SolidityAudit.Risk

open Text (Wording)

/-- What a diagnostic adds to the score, if its severity can be weighed. -/
def weightOf (weights : List (Wording × Nat)) (diagnostic : Diagnostic) : Nat :=
  (severityWeight weights diagnostic.severity).toOption.getD 0

/-- A severity can be weighed when it is a text or counts as absent, whatever the weights. -/
def IsWeighable (diagnostic : Diagnostic) : Prop :=
  Returns ((diagnostic.severity.orElse (.text "")).wording "strip")

/-- The sum of all weights, before it stops at the maximum. -/
def unboundedScore (security style : List Diagnostic) : Nat :=
  (security.map (weightOf securityWeights)).sum + (style.map (weightOf styleWeights)).sum

section Weights

variable (weights : List (Wording × Nat))

/-- A severity is weighed exactly when it can be. -/
theorem severityWeight_returns {diagnostic : Diagnostic} :
    Returns (severityWeight weights diagnostic.severity) ↔ IsWeighable diagnostic :=
  returns_map

/-- What can be weighed has its weight. -/
theorem IsWeighable.weighed {diagnostic : Diagnostic} (weighable : IsWeighable diagnostic) :
    severityWeight weights diagnostic.severity = .ok (weightOf weights diagnostic) := by
  obtain ⟨weight, given⟩ := (severityWeight_returns weights).mpr weighable
  rw [weightOf, given]
  rfl

variable {weights}

/-- The weights of a list are summed when each of its severities can be weighed. -/
theorem totalWeight_eq_ok {diagnostics : List Diagnostic} {total : Nat} :
    totalWeight weights diagnostics = .ok total ↔
      (∀ diagnostic ∈ diagnostics, IsWeighable diagnostic) ∧
        total = (diagnostics.map (weightOf weights)).sum := by
  have summed (weighable : ∀ diagnostic ∈ diagnostics, IsWeighable diagnostic) :
      totalWeight weights diagnostics = .ok (diagnostics.map (weightOf weights)).sum := by
    have parts := mapM_eq_map fun diagnostic listed =>
      (weighable diagnostic listed).weighed weights
    rw [totalWeight, parts]
    rfl
  constructor
  · intro given
    obtain ⟨parts, passed, -⟩ := bind_eq_ok.mp given
    have weighable : ∀ diagnostic ∈ diagnostics, IsWeighable diagnostic := by
      intro diagnostic listed
      exact (severityWeight_returns weights).mp (returns_mapM.mp ⟨parts, passed⟩ diagnostic listed)
    rw [summed weighable] at given
    exact ⟨weighable, (Except.ok.inj given).symm⟩
  · rintro ⟨weighable, rfl⟩
    exact summed weighable

end Weights

/-- The score stops at its maximum once, after all weights are summed. -/
theorem score_eq_ok {security style : List Diagnostic} {total : Nat} :
    score security style = .ok total ↔
      (∀ diagnostic ∈ security ++ style, IsWeighable diagnostic) ∧
        total = min maximalScore (unboundedScore security style) := by
  rw [List.forall_mem_append]
  constructor
  · intro given
    obtain ⟨first, firstGiven, given⟩ := bind_eq_ok.mp given
    obtain ⟨second, secondGiven, given⟩ := bind_eq_ok.mp given
    obtain ⟨weighableSecurity, rfl⟩ := totalWeight_eq_ok.mp firstGiven
    obtain ⟨weighableStyle, rfl⟩ := totalWeight_eq_ok.mp secondGiven
    exact ⟨⟨weighableSecurity, weighableStyle⟩, (Except.ok.inj given).symm⟩
  · rintro ⟨⟨weighableSecurity, weighableStyle⟩, rfl⟩
    rw [score, totalWeight_eq_ok.mpr ⟨weighableSecurity, rfl⟩,
      totalWeight_eq_ok.mpr ⟨weighableStyle, rfl⟩]
    rfl

/-- No score is above the maximum. -/
theorem score_le_maximum {security style : List Diagnostic} {total : Nat}
    (given : score security style = .ok total) : total ≤ maximalScore := by
  obtain ⟨-, rfl⟩ := score_eq_ok.mp given
  exact Nat.min_le_left _ _

section Lists

variable {security security' style style' : List Diagnostic}

/-- Sums of weights add up. -/
theorem unboundedScore_append :
    unboundedScore (security ++ security') (style ++ style') =
      unboundedScore security style + unboundedScore security' style' := by
  simp only [unboundedScore, List.map_append, List.sum_append]
  omega

/-- The score of two lists together is the sum of their scores, up to the maximum. -/
theorem score_append {total : Nat} :
    score (security ++ security') (style ++ style') = .ok total ↔
      ∃ first second, score security style = .ok first ∧ score security' style' = .ok second ∧
        total = min maximalScore (first + second) := by
  have stops (first second : Nat) : min maximalScore (first + second) =
      min maximalScore (min maximalScore first + min maximalScore second) := by omega
  simp only [score_eq_ok, unboundedScore_append, List.forall_mem_append]
  constructor
  · rintro ⟨⟨⟨security, security'⟩, style, style'⟩, rfl⟩
    exact ⟨_, _, ⟨⟨security, style⟩, rfl⟩, ⟨⟨security', style'⟩, rfl⟩, stops _ _⟩
  · rintro ⟨_, _, ⟨⟨security, style⟩, rfl⟩, ⟨⟨security', style'⟩, rfl⟩, rfl⟩
    exact ⟨⟨⟨security, security'⟩, style, style'⟩, (stops _ _).symm⟩

/-- The order of findings does not matter. -/
theorem score_perm (reordered : security.Perm security') (reorderedStyle : style.Perm style')
    {total : Nat} : score security style = .ok total ↔ score security' style' = .ok total := by
  have same : unboundedScore security style = unboundedScore security' style' := by
    rw [unboundedScore, (reordered.map _).sum_eq, (reorderedStyle.map _).sum_eq]
    rfl
  simp only [score_eq_ok, same, List.forall_mem_append, reordered.mem_iff, reorderedStyle.mem_iff]

/-- Fewer findings have no higher score. -/
theorem score_subperm (contained : security.Subperm security')
    (containedStyle : style.Subperm style') {total' : Nat}
    (given' : score security' style' = .ok total') :
    ∃ total, score security style = .ok total ∧ total ≤ total' := by
  obtain ⟨weighable, rfl⟩ := score_eq_ok.mp given'
  obtain ⟨weighableSecurity, weighableStyle⟩ := List.forall_mem_append.mp weighable
  have fewer : unboundedScore security style ≤ unboundedScore security' style' := by
    obtain ⟨part, reordered, kept⟩ := contained
    obtain ⟨partStyle, reorderedStyle, keptStyle⟩ := containedStyle
    unfold unboundedScore
    rw [← (reordered.map _).sum_eq, ← (reorderedStyle.map _).sum_eq]
    exact Nat.add_le_add ((kept.map _).sum_le_sum fun _ _ => Nat.zero_le _)
      ((keptStyle.map _).sum_le_sum fun _ _ => Nat.zero_le _)
  refine ⟨_, score_eq_ok.mpr ⟨List.forall_mem_append.mpr ⟨?_, ?_⟩, rfl⟩, ?_⟩
  · exact fun diagnostic listed => weighableSecurity diagnostic (contained.subset listed)
  · exact fun diagnostic listed => weighableStyle diagnostic (containedStyle.subset listed)
  · omega

end Lists

section Grades

/-- The worse a grade, the later it comes. -/
def Grade.rank : Grade → Nat
  | .a => 0
  | .b => 1
  | .c => 2

/-- Where the search for a marker ends, it has seen all names that could matter. -/
theorem hasMarker_ok {markers : List String} {security : List Diagnostic} {found : Bool}
    (told : hasMarker markers security = .ok found) :
    found = security.any (carriesMarker markers) := by
  rw [hasMarker_eq] at told
  cases telling : firstTelling? markers security with
  | none =>
      rw [telling] at told
      cases told
      have silent := List.find?_eq_none.mp telling
      symm
      rw [List.any_eq_false]
      intro diagnostic listed
      have told := silent diagnostic listed
      simp only [Bool.or_eq_true, not_or, Bool.not_eq_true] at told
      simp [told.2]
  | some diagnostic =>
      rw [telling] at told
      have met := List.find?_some telling
      cases readable : hasReadableName diagnostic with
      | false => simp [readable] at told
      | true =>
          simp only [readable, if_true, Except.ok.injEq] at told
          subst told
          symm
          rw [List.any_eq_true]
          exact ⟨diagnostic, List.mem_of_find?_eq_some telling, by simpa [readable] using met⟩

/-- A grade that is given follows the two bounds of the score and the markers. -/
theorem grade_eq {score : Int} {security : List Diagnostic} {given : Grade}
    (graded : grade score security = .ok given) :
    given = if worstGradeAbove < score ∨ security.any (carriesMarker escalationMarkers) = true
      then .c else if bestGradeUpTo < score then .b else .a := by
  unfold grade at graded
  by_cases high : score > worstGradeAbove
  · rw [if_pos high] at graded
    rw [if_pos (.inl high)]
    exact (Except.ok.inj graded).symm
  · rw [if_neg high] at graded
    obtain ⟨found, told, rest⟩ := bind_eq_ok.mp graded
    rw [← hasMarker_ok told]
    cases found with
    | true => simpa using (Except.ok.inj rest).symm
    | false =>
        have low : ¬ (worstGradeAbove < score) := high
        by_cases middle : bestGradeUpTo < score
        · simpa [low, middle, pure, Except.pure] using rest.symm
        · simpa [low, middle, pure, Except.pure] using rest.symm

/-- Neither a higher score nor more findings improve the grade. -/
theorem grade_rank_le {total total' : Int} {security security' : List Diagnostic}
    (higher : total ≤ total') (more : security ⊆ security') {given given' : Grade}
    (graded : grade total security = .ok given) (graded' : grade total' security' = .ok given') :
    given.rank ≤ given'.rank := by
  rw [grade_eq graded, grade_eq graded']
  have marked : security.any (carriesMarker escalationMarkers) = true →
      security'.any (carriesMarker escalationMarkers) = true := by
    simp only [List.any_eq_true]
    rintro ⟨diagnostic, listed, carries⟩
    exact ⟨diagnostic, more listed, carries⟩
  by_cases worst : worstGradeAbove < total ∨
      security.any (carriesMarker escalationMarkers) = true
  · have worst' : worstGradeAbove < total' ∨
        security'.any (carriesMarker escalationMarkers) = true :=
      worst.imp (fun high => by omega) marked
    rw [if_pos worst, if_pos worst']
  · rw [if_neg worst]
    by_cases middle : bestGradeUpTo < total
    · rw [if_pos middle]
      have middle' : bestGradeUpTo < total' := by omega
      simp only [middle', if_true]
      split <;> decide
    · rw [if_neg middle]
      exact Nat.zero_le _

end Grades

/-- The lists have the score, and with it the grade. -/
def IsRated (security style : List Diagnostic) (total : Nat) (given : Grade) : Prop :=
  score security style = .ok total ∧ grade total security = .ok given

/-- A name in words can be searched for markers. -/
def HasWordedName (diagnostic : Diagnostic) : Prop := ∃ words, diagnostic.name = .text words

/-- Findings in words have a score and a grade. -/
theorem isRated_total {security style : List Diagnostic}
    (worded : ∀ diagnostic ∈ security ++ style, HasWordedSeverity diagnostic)
    (named : ∀ diagnostic ∈ security, HasWordedName diagnostic) :
    ∃ total given, IsRated security style total given := by
  obtain ⟨wordedSecurity, wordedStyle⟩ := List.forall_mem_append.mp worded
  obtain ⟨total, scored⟩ := score_total wordedSecurity wordedStyle
  have readable : ∀ diagnostic ∈ security, hasReadableName diagnostic = true := by
    intro diagnostic listed
    obtain ⟨words, name⟩ := named diagnostic listed
    rw [hasReadableName, name]
  obtain ⟨given, graded, -⟩ := grade_readable total readable
  exact ⟨total, given, scored, graded⟩

/-- The score of lists put together is the sum of their scores, stopped at one hundred. With fewer
findings it is no higher and the grade no worse. -/
theorem score_saturates (security security' style style' : List Diagnostic) :
    (∀ total, score (security ++ security') (style ++ style') = .ok total ↔
      ∃ first second, score security style = .ok first ∧ score security' style' = .ok second ∧
        total = min 100 (first + second)) ∧
    (∀ total, score security style = .ok total → total ∈ Set.Icc 0 100) ∧
    (security.Perm security' → style.Perm style' →
      ∀ total, score security style = .ok total ↔ score security' style' = .ok total) ∧
    (security.Subperm security' → style.Subperm style' →
      (∀ total', score security' style' = .ok total' →
        ∃ total, score security style = .ok total ∧ total ≤ total') ∧
      ∀ total given total' given', IsRated security style total given →
        IsRated security' style' total' given' → given.rank ≤ given'.rank) ∧
    ((∀ diagnostic ∈ security ++ style, HasWordedSeverity diagnostic) →
      (∀ diagnostic ∈ security, HasWordedName diagnostic) →
        ∃ total given, IsRated security style total given) := by
  refine ⟨fun total => score_append, fun total given => ?_, ?_, ?_, isRated_total⟩
  · exact ⟨Nat.zero_le total, score_le_maximum given⟩
  · exact fun reordered reorderedStyle total => score_perm reordered reorderedStyle
  · intro contained containedStyle
    refine ⟨fun total' => score_subperm contained containedStyle, ?_⟩
    rintro total given total' given' ⟨scored, graded⟩ ⟨scored', graded'⟩
    obtain ⟨smaller, same, fewer⟩ := score_subperm contained containedStyle scored'
    rw [scored] at same
    cases same
    exact grade_rank_le (Int.ofNat_le.mpr fewer) contained.subset graded graded'

/-- A finding with an odd spelling of its severity. -/
def highFinding : Diagnostic where
  source := "slither"
  category := .security
  name := .text "reentrancy-eth"
  description := .text ""
  severity := .text " HIGH"

/-- A finding whose name forces the worst grade. -/
def proxyFinding : Diagnostic where
  source := "slither"
  category := .security
  name := .text "unprotected-Proxy"
  description := .text ""
  severity := .text "Medium"

/-- One more finding, though it stands first, raises the score and worsens the grade. -/
theorem score_saturates_proxy :
    IsRated [highFinding] [] 25 .a ∧ IsRated [proxyFinding, highFinding] [] 40 .c ∧
      Grade.a.rank ≤ Grade.c.rank := by
  have first : IsRated [highFinding] [] 25 .a := ⟨rfl, rfl⟩
  have second : IsRated [proxyFinding, highFinding] [] 40 .c := ⟨rfl, rfl⟩
  have contained : [highFinding].Subperm [proxyFinding, highFinding] :=
    (List.sublist_cons_self proxyFinding [highFinding]).subperm
  obtain ⟨-, -, -, monotone, -⟩ :=
    score_saturates [highFinding] [proxyFinding, highFinding] [] []
  exact ⟨first, second, (monotone contained (List.Subperm.refl [])).2 25 .a 40 .c first second⟩

end SolidityAudit.Risk
