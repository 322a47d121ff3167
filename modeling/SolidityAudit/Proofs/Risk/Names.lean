import SolidityAudit.Proofs.Outcome
import SolidityAudit.Risk.Grade

namespace SolidityAudit.Risk

open Text (Wording)

/-- A name can be read when it is a text or counts as absent. -/
def hasReadableName (diagnostic : Diagnostic) : Bool :=
  match diagnostic.name with
  | .text _ => true
  | name => !name.isPresent

/-- What becomes of a name that cannot be read. -/
def unreadableName (diagnostic : Diagnostic) : Json.ShapeFault :=
  .lacksOperation diagnostic.name.kindName "lower"

/-- A name is read exactly when it can be. -/
theorem loweredName_cases (diagnostic : Diagnostic) :
    (hasReadableName diagnostic = true ∧ ∃ name, loweredName diagnostic = .ok name) ∨
      (hasReadableName diagnostic = false ∧
        loweredName diagnostic = .error (unreadableName diagnostic)) := by
  unfold hasReadableName loweredName unreadableName Json.Value.orElse
  cases diagnostic.name with
  | text name =>
      refine .inl ⟨rfl, ?_⟩
      split <;> exact ⟨_, rfl⟩
  | _ =>
      simp only
      split
      · next present => exact .inr ⟨by simp [present], rfl⟩
      · next absent => exact .inl ⟨by simp [absent], _, rfl⟩

/-- The name can be read and has a marker in it. -/
def carriesMarker (markers : List String) (diagnostic : Diagnostic) : Bool :=
  match loweredName diagnostic with
  | .ok name => markers.any name.mentions
  | .error _ => false

/-- The first diagnostic whose name cannot be read or carries a marker. -/
def firstTelling? (markers : List String) (security : List Diagnostic) : Option Diagnostic :=
  security.find? fun diagnostic => !hasReadableName diagnostic || carriesMarker markers diagnostic

/-- A name that cannot be read stands before all that carry a marker. -/
def obscured (markers : List String) (security : List Diagnostic) : Bool :=
  (firstTelling? markers security).any fun diagnostic => !hasReadableName diagnostic

/-- The search for a marker is decided by the first diagnostic that tells anything. -/
theorem hasMarker_eq (markers : List String) (security : List Diagnostic) :
    hasMarker markers security =
      match firstTelling? markers security with
      | none => .ok false
      | some diagnostic =>
          if hasReadableName diagnostic then .ok true
          else .error (unreadableName diagnostic) := by
  induction security with
  | nil => rfl
  | cons diagnostic rest ih =>
      rcases loweredName_cases diagnostic with ⟨readable, name, lowered⟩ | ⟨unreadable, lowered⟩
      · cases found : markers.any name.mentions with
        | true =>
            simp [hasMarker, firstTelling?, carriesMarker, lowered, found, readable, bind,
              Except.bind, pure, Except.pure]
        | false =>
            have skipped : firstTelling? markers (diagnostic :: rest) =
                firstTelling? markers rest := by
              simp [firstTelling?, carriesMarker, lowered, found, readable]
            rw [skipped, ← ih]
            simp [hasMarker, lowered, found, bind, Except.bind]
      · simp [hasMarker, firstTelling?, lowered, unreadable, bind, Except.bind]

/-- Without an obscured name the search has an answer. -/
theorem hasMarker_total {markers : List String} {security : List Diagnostic}
    (clear : obscured markers security = false) :
    ∃ found, hasMarker markers security = .ok found := by
  unfold obscured at clear
  rw [hasMarker_eq]
  cases telling : firstTelling? markers security with
  | none => exact ⟨false, rfl⟩
  | some diagnostic =>
      rw [telling] at clear
      have readable : hasReadableName diagnostic = true := by simpa using clear
      exact ⟨true, by simp [readable]⟩

/-- An obscured name ends the search with a fault. -/
theorem hasMarker_obscured {markers : List String} {security : List Diagnostic}
    (blocked : obscured markers security = true) :
    ∃ diagnostic, hasMarker markers security = .error (unreadableName diagnostic) := by
  unfold obscured at blocked
  rw [hasMarker_eq]
  cases telling : firstTelling? markers security with
  | none => simp [telling] at blocked
  | some diagnostic =>
      rw [telling] at blocked
      have unreadable : hasReadableName diagnostic = false := by simpa using blocked
      exact ⟨diagnostic, by simp [unreadable]⟩

/-- Where all names can be read, all of them are searched. -/
theorem hasMarker_readable (markers : List String) {security : List Diagnostic}
    (readable : ∀ diagnostic ∈ security, hasReadableName diagnostic = true) :
    hasMarker markers security = .ok (security.any (carriesMarker markers)) := by
  induction security with
  | nil => rfl
  | cons diagnostic rest ih =>
      obtain ⟨readableFirst, readableRest⟩ := List.forall_mem_cons.mp readable
      rcases loweredName_cases diagnostic with ⟨-, name, lowered⟩ | ⟨unreadable, -⟩
      · rw [hasMarker, ih readableRest, List.any_cons, carriesMarker, lowered]
        cases found : markers.any name.mentions with
        | true => simp [found, bind, Except.bind, pure, Except.pure]
        | false => simp [found, bind, Except.bind]
      · rw [readableFirst] at unreadable
        cases unreadable

/-- A severity in words can be weighed and counted. -/
def HasWordedSeverity (diagnostic : Diagnostic) : Prop :=
  ∃ words, diagnostic.severity = .text words

/-- A text gives way to a text. -/
theorem orElse_text (words default : Wording) :
    ∃ kept, (Json.Value.text words).orElse (.text default) = .text kept := by
  unfold Json.Value.orElse
  split
  · exact ⟨words, rfl⟩
  · exact ⟨default, rfl⟩

/-- Worded severities can be weighed. -/
theorem totalWeight_total (weights : List (Wording × Nat)) {diagnostics : List Diagnostic}
    (worded : ∀ diagnostic ∈ diagnostics, HasWordedSeverity diagnostic) :
    ∃ weight, totalWeight weights diagnostics = .ok weight := by
  have each : ∀ diagnostic ∈ diagnostics,
      ∃ weight, severityWeight weights diagnostic.severity = .ok weight := by
    intro diagnostic listed
    obtain ⟨words, severity⟩ := worded diagnostic listed
    obtain ⟨kept, given⟩ := orElse_text words ""
    exact ⟨_, by rw [severity, severityWeight, given]; rfl⟩
  obtain ⟨parts, given⟩ := mapM_total each
  exact ⟨parts.foldr Nat.add 0, by simp [totalWeight, given, bind, Except.bind, pure, Except.pure]⟩

/-- Diagnostics with worded severities always have a score. -/
theorem score_total {security style : List Diagnostic}
    (wordedSecurity : ∀ diagnostic ∈ security, HasWordedSeverity diagnostic)
    (wordedStyle : ∀ diagnostic ∈ style, HasWordedSeverity diagnostic) :
    ∃ total, score security style = .ok total := by
  obtain ⟨first, givenFirst⟩ := totalWeight_total securityWeights wordedSecurity
  obtain ⟨second, givenSecond⟩ := totalWeight_total styleWeights wordedStyle
  exact ⟨_, by simp [score, givenFirst, givenSecond, bind, Except.bind, pure, Except.pure]; rfl⟩

/-- Worded severities can be counted. -/
theorem highCount_total {security : List Diagnostic}
    (worded : ∀ diagnostic ∈ security, HasWordedSeverity diagnostic) :
    ∃ count, highCount security = .ok count := by
  have each : ∀ diagnostic ∈ security, ∃ key, severityKey diagnostic.severity = .ok key := by
    intro diagnostic listed
    obtain ⟨words, severity⟩ := worded diagnostic listed
    obtain ⟨kept, given⟩ := orElse_text words "unknown"
    exact ⟨_, by rw [severity, severityKey, given]; rfl⟩
  obtain ⟨keys, given⟩ := mapM_total each
  exact ⟨_, by simp [highCount, severityCounts, given, bind, Except.bind, pure, Except.pure,
    Except.map]; rfl⟩

/-- A grade is given unless the score leaves it to the names and one of them cannot be read. -/
theorem grade_cases (score : Int) (security : List Diagnostic) :
    if score ≤ worstGradeAbove ∧ obscured escalationMarkers security = true then
      ∃ diagnostic, grade score security = .error (unreadableName diagnostic)
    else ∃ given, grade score security = .ok given := by
  unfold grade
  by_cases high : score > worstGradeAbove
  · rw [if_neg (by omega), if_pos high]
    exact ⟨.c, rfl⟩
  · rw [if_neg high]
    cases blocked : obscured escalationMarkers security with
    | true =>
        rw [if_pos ⟨by omega, rfl⟩]
        obtain ⟨diagnostic, stopped⟩ := hasMarker_obscured blocked
        exact ⟨diagnostic, by rw [stopped]; rfl⟩
    | false =>
        rw [if_neg (by simp)]
        obtain ⟨found, told⟩ := hasMarker_total blocked
        rw [told]
        cases found with
        | true => exact ⟨.c, rfl⟩
        | false =>
            by_cases middle : score > bestGradeUpTo
            · exact ⟨.b, by simp [middle, bind, Except.bind, pure, Except.pure]⟩
            · exact ⟨.a, by simp [middle, bind, Except.bind, pure, Except.pure]⟩

/-- Readable names leave no doubt when the worst grade is given. -/
theorem grade_readable (score : Int) {security : List Diagnostic}
    (readable : ∀ diagnostic ∈ security, hasReadableName diagnostic = true) :
    ∃ given, grade score security = .ok given ∧
      (given = .c ↔ security.any (carriesMarker escalationMarkers) = true ∨
        worstGradeAbove < score) := by
  unfold grade
  by_cases high : score > worstGradeAbove
  · rw [if_pos high]
    exact ⟨.c, rfl, by simp [high]⟩
  · rw [if_neg high, hasMarker_readable _ readable]
    cases security.any (carriesMarker escalationMarkers) with
    | true => exact ⟨.c, rfl, by simp⟩
    | false =>
        by_cases middle : score > bestGradeUpTo
        · exact ⟨.b, by simp [middle, bind, Except.bind, pure, Except.pure], by simpa using high⟩
        · exact ⟨.a, by simp [middle, bind, Except.bind, pure, Except.pure], by simpa using high⟩

/-- Warnings are given unless a name that cannot be read hides whether a finding is critical. -/
theorem deploymentWarnings_cases {security : List Diagnostic}
    (worded : ∀ diagnostic ∈ security, HasWordedSeverity diagnostic) :
    if obscured criticalMarkers security = true then
      ∃ diagnostic, deploymentWarnings security = .error (unreadableName diagnostic)
    else ∃ warnings, deploymentWarnings security = .ok warnings := by
  obtain ⟨count, counted⟩ := highCount_total worded
  unfold deploymentWarnings
  rw [counted]
  split
  · next blocked =>
    obtain ⟨diagnostic, stopped⟩ := hasMarker_obscured blocked
    exact ⟨diagnostic, by rw [stopped]; rfl⟩
  · next clear =>
    obtain ⟨found, told⟩ := hasMarker_total (Bool.eq_false_iff.mpr clear)
    exact ⟨_, by rw [told]; rfl⟩

end SolidityAudit.Risk
