import SolidityAudit.Proofs.Interface.Items

namespace SolidityAudit.Interface

open Source Text

/-- A segment that is blank or has keywords alone. -/
def isIdle (segment : List Char) : Bool :=
  (words segment).all fun word =>
    ["indexed", "memory", "calldata", "storage"].contains (String.ofList word)

/-- The idle segments are those that are no parameters. -/
theorem parameterOf?_isNone (segment : List Char) :
    (parameterOf? segment).isNone = isIdle segment := by
  have idle : isIdle segment = true ↔
      ((words segment).map String.ofList).filter (fun word => !isQualifier word) = [] := by
    rw [isIdle, List.all_eq_true, List.filter_eq_nil_iff, List.forall_mem_map]
    simp only [List.contains_iff_mem, ← isQualifier_iff, Bool.not_eq_true', Bool.not_eq_false]
  rw [Bool.eq_iff_iff, idle]
  unfold parameterOf?
  dsimp only
  split
  · next kept => simp [kept]
  · next type others kept => simp [kept]

/-- Commas belong to words, so that none stands in an idle segment. -/
theorem not_comma_idle {segment : List Char} (idle : isIdle segment = true) : ',' ∉ segment := by
  intro inside
  obtain ⟨word, listed, found⟩ := exists_word inside (by decide)
  have keywords : ∀ keyword ∈ ["indexed", "memory", "calldata", "storage"],
      ',' ∉ keyword.toList := by decide
  apply keywords (String.ofList word)
  · simpa using List.all_eq_true.mp idle word listed
  · rwa [String.toList_ofList]

/-- An idle segment gives no parameter. -/
theorem parametersOf_idle {segment : List Char} (idle : isIdle segment = true) :
    parametersOf segment = [] := by
  have none := parameterOf?_isNone segment
  rw [idle, Option.isNone_iff_eq_none] at none
  have whole : splitAtEach (· == ',') segment = [segment] := by
    apply splitAtEach_whole
    intro character inside
    apply beq_eq_false_iff_ne.mpr
    rintro rfl
    exact not_comma_idle idle inside
  rw [parametersOf, whole, List.filterMap_cons_none none, List.filterMap_nil]

/-- A comma divides the parameters before it from those after it. -/
theorem parametersOf_comma (first rest : List Char) :
    parametersOf (first ++ ',' :: rest) = parametersOf first ++ parametersOf rest := by
  unfold parametersOf
  rw [splitAtEach_append_separator first rest (by decide), List.filterMap_append]

/-- Each segment is read by itself. -/
theorem parametersOf_segments (segments : List (List Char)) :
    parametersOf ([','].intercalate segments) = segments.flatMap parametersOf := by
  induction segments with
  | nil => rfl
  | cons segment others ih =>
      cases others with
      | nil => simp
      | cons next later =>
          rw [List.intercalate_cons_cons, List.append_assoc, List.singleton_append,
            parametersOf_comma, ih]
          rfl

/-- Idle segments can be left out wherever they stand. -/
theorem parametersOf_filter (segments : List (List Char)) :
    parametersOf ([','].intercalate (segments.filter fun segment => !isIdle segment)) =
      parametersOf ([','].intercalate segments) := by
  rw [parametersOf_segments, parametersOf_segments]
  induction segments with
  | nil => rfl
  | cons segment others ih =>
      cases idle : isIdle segment with
      | true =>
          rw [List.filter_cons_of_neg (by simp [idle]), ih, List.flatMap_cons,
            parametersOf_idle idle, List.nil_append]
      | false =>
          rw [List.filter_cons_of_pos (by simp [idle]), List.flatMap_cons, ih, List.flatMap_cons]

/-- Every segment that is not idle is one parameter. -/
theorem length_parametersOf (text : List Char) :
    (parametersOf text).length =
      (splitAtEach (· == ',') text).countP fun segment => !isIdle segment := by
  unfold parametersOf
  rw [List.length_filterMap_eq_countP]
  apply List.countP_congr
  intro segment _
  rw [← parameterOf?_isNone, Option.not_isNone]

/-- The parameters of a list are those on the two sides of any comma. Idle segments can be left out.
-/
theorem parametersOf_divided (first rest : List Char) (segments : List (List Char)) :
    parametersOf (first ++ ',' :: rest) = parametersOf first ++ parametersOf rest ∧
    parametersOf ([','].intercalate segments) =
      parametersOf ([','].intercalate (segments.filter fun segment => !isIdle segment)) ∧
    (parametersOf first).length =
      (splitAtEach (· == ',') first).countP fun segment => !isIdle segment :=
  ⟨parametersOf_comma first rest, (parametersOf_filter segments).symm, length_parametersOf first⟩

end SolidityAudit.Interface
