import Mathlib.Data.List.Basic
import SolidityAudit.Source.Anchor

namespace SolidityAudit.Source

open Text

/-- What an anchor recognises at a place, where the flag tells whether a word is under way. -/
def Anchor.attempt? {α : Type} (anchor : Anchor α) (afterWord : Bool) (text : List Char) :
    Option (α × List Char) :=
  if anchor.atWordStart && afterWord then none else anchor.recognise? text

/-- Every declaration has at least one character. -/
def Anchor.Consumes {α : Type} (anchor : Anchor α) : Prop :=
  ∀ {text value rest}, anchor.recognise? text = some (value, rest) →
    ∃ found, found ≠ [] ∧ text = found ++ rest

/-- Whether a word is under way once the given part of a text has been passed. -/
def wordAfter (afterWord : Bool) (passed : List Char) : Bool :=
  passed.foldl (fun _ character => isWordCharacter character) afterWord

@[simp] theorem wordAfter_nil (afterWord : Bool) : wordAfter afterWord [] = afterWord := rfl

@[simp] theorem wordAfter_cons (afterWord : Bool) (character : Char) (passed : List Char) :
    wordAfter afterWord (character :: passed) = wordAfter (isWordCharacter character) passed := rfl

/-- The last character decides whether a word is under way. -/
theorem wordAfter_append (afterWord : Bool) (passed more : List Char) :
    wordAfter afterWord (passed ++ more) = wordAfter (wordAfter afterWord passed) more :=
  List.foldl_append

section Scan

variable {α : Type} {anchor : Anchor α}

/-- An anchor that is bound to no word start is always tried. -/
theorem Anchor.attempt?_anywhere (anywhere : anchor.atWordStart = false) (afterWord : Bool)
    (text : List Char) : anchor.attempt? afterWord text = anchor.recognise? text := by
  simp [attempt?, anywhere]

/-- What is attempted is recognised. -/
theorem Anchor.attempt?_recognised {afterWord : Bool} {text rest : List Char} {value : α}
    (found : anchor.attempt? afterWord text = some (value, rest)) :
    anchor.recognise? text = some (value, rest) := by
  unfold attempt? at found
  split at found
  · cases found
  · exact found

/-- What a span still covers is passed over. -/
theorem Anchor.spansFrom_covered (position : Nat) (afterWord : Bool) (passed rest : List Char) :
    anchor.spansFrom position afterWord passed.length (passed ++ rest) =
      anchor.spansFrom (position + passed.length) (wordAfter afterWord passed) 0 rest := by
  induction passed generalizing position afterWord with
  | nil => rfl
  | cons character passed ih =>
      rw [List.cons_append, List.length_cons, spansFrom, ih, wordAfter_cons]
      congr 1
      omega

/-- A character where nothing starts is passed. -/
theorem Anchor.spansFrom_miss (position : Nat) {afterWord : Bool} {character : Char}
    {rest : List Char} (missed : anchor.attempt? afterWord (character :: rest) = none) :
    anchor.spansFrom position afterWord 0 (character :: rest) =
      anchor.spansFrom (position + 1) (isWordCharacter character) 0 rest := by
  unfold attempt? at missed
  rw [spansFrom]
  simp only [missed]

/-- What is recognised is listed, and the scan goes on after it. -/
theorem Anchor.spansFrom_hit (position : Nat) {afterWord : Bool} {found rest : List Char}
    {value : α} (nonempty : found ≠ [])
    (recognised : anchor.attempt? afterWord (found ++ rest) = some (value, rest)) :
    anchor.spansFrom position afterWord 0 (found ++ rest) =
      ⟨position, position + found.length, value⟩ ::
        anchor.spansFrom (position + found.length) (wordAfter afterWord found) 0 rest := by
  cases found with
  | nil => exact absurd rfl nonempty
  | cons character found =>
      unfold attempt? at recognised
      rw [List.cons_append] at recognised ⊢
      rw [spansFrom]
      have covered : (found ++ rest).length - rest.length = found.length := by simp
      simp only [recognised, covered, spansFrom_covered, List.length_cons, wordAfter_cons]
      congr 2
      omega

/-- A part of the text at no place of which anything is recognised is passed over. -/
theorem Anchor.spansFrom_passed (position : Nat) {afterWord : Bool} {passed rest : List Char}
    (missed : ∀ front back, passed = front ++ back → back ≠ [] →
      anchor.attempt? (wordAfter afterWord front) (back ++ rest) = none) :
    anchor.spansFrom position afterWord 0 (passed ++ rest) =
      anchor.spansFrom (position + passed.length) (wordAfter afterWord passed) 0 rest := by
  induction passed generalizing position afterWord with
  | nil => rfl
  | cons character passed ih =>
      have here : anchor.attempt? afterWord (character :: (passed ++ rest)) = none :=
        missed [] (character :: passed) rfl (by simp)
      have later : ∀ front back, passed = front ++ back → back ≠ [] →
          anchor.attempt? (wordAfter (isWordCharacter character) front) (back ++ rest) = none := by
        intro front back split nonempty
        exact missed (character :: front) back (by rw [split, List.cons_append]) nonempty
      rw [List.cons_append, spansFrom_miss position here, ih _ later, wordAfter_cons,
        List.length_cons]
      congr 1
      omega

/-- A scan passes a character at which nothing is recognised, or takes what is recognised and
goes on after it. -/
inductive Scan (anchor : Anchor α) : Nat → Bool → List Char → List (Span α) → Prop where
  | done {position : Nat} {afterWord : Bool} : Scan anchor position afterWord [] []
  | pass {position : Nat} {afterWord : Bool} {character : Char} {rest : List Char}
      {spans : List (Span α)} (missed : anchor.attempt? afterWord (character :: rest) = none)
      (later : Scan anchor (position + 1) (isWordCharacter character) rest spans) :
      Scan anchor position afterWord (character :: rest) spans
  | take {position : Nat} {afterWord : Bool} {found rest : List Char} {value : α}
      {spans : List (Span α)} (nonempty : found ≠ [])
      (recognised : anchor.attempt? afterWord (found ++ rest) = some (value, rest))
      (later : Scan anchor (position + found.length) (wordAfter afterWord found) rest spans) :
      Scan anchor position afterWord (found ++ rest)
        (⟨position, position + found.length, value⟩ :: spans)

/-- The spans are those of a scan. -/
theorem Anchor.scan_spansFrom (consumes : anchor.Consumes) (position : Nat) (afterWord : Bool)
    (text : List Char) :
    Scan anchor position afterWord text (anchor.spansFrom position afterWord 0 text) := by
  induction size : text.length using Nat.strongRecOn generalizing position afterWord text with
  | ind size ih =>
      subst size
      cases text with
      | nil => exact .done
      | cons character rest =>
          cases attempted : anchor.attempt? afterWord (character :: rest) with
          | none =>
              rw [spansFrom_miss position attempted]
              exact .pass attempted (ih _ (by simp) _ _ _ rfl)
          | some recognised =>
              obtain ⟨value, remaining⟩ := recognised
              obtain ⟨found, nonempty, split⟩ := consumes (attempt?_recognised attempted)
              rw [split] at attempted ⊢
              have shorter : remaining.length < (character :: rest).length := by
                have := List.length_pos_of_ne_nil nonempty
                rw [split, List.length_append]
                omega
              rw [spansFrom_hit position nonempty attempted]
              exact .take nonempty attempted (ih _ shorter _ _ _ rfl)

section Invariants

variable {position : Nat} {afterWord : Bool} {text : List Char} {spans : List (Span α)}

/-- No span of a scan starts before it. -/
theorem Scan.position_le (scan : Scan anchor position afterWord text spans) :
    ∀ span ∈ spans, position ≤ span.start := by
  induction scan with
  | done => simp
  | pass missed later ih =>
      intro span listed
      have := ih span listed
      omega
  | take nonempty recognised later ih =>
      intro span listed
      rcases List.mem_cons.mp listed with rfl | listed
      · exact Nat.le_refl _
      · have := ih span listed
        omega

/-- No span starts before an earlier one stops. -/
theorem Scan.separate (scan : Scan anchor position afterWord text spans) :
    spans.Pairwise fun earlier later => earlier.stop ≤ later.start := by
  induction scan with
  | done => exact .nil
  | pass missed later ih => exact ih
  | take nonempty recognised later ih => exact .cons later.position_le ih

/-- A span holds what is recognised at its start. -/
theorem Scan.recognised (scan : Scan anchor position afterWord text spans) {span : Span α}
    (listed : span ∈ spans) :
    ∃ before found after, text = before ++ (found ++ after) ∧ found ≠ [] ∧
      span.start = position + before.length ∧
      span.stop = position + before.length + found.length ∧
      anchor.attempt? (wordAfter afterWord before) (found ++ after) =
        some (span.value, after) := by
  induction scan with
  | done => cases listed
  | @pass position afterWord character rest spans missed later ih =>
      obtain ⟨before, found, after, split, nonempty, start, stop, attempted⟩ := ih listed
      refine ⟨character :: before, found, after, by rw [split]; rfl, nonempty, ?_, ?_, attempted⟩
      · rw [start, List.length_cons]
        omega
      · rw [stop, List.length_cons]
        omega
  | @take position afterWord found rest value spans nonempty recognised later ih =>
      rcases List.mem_cons.mp listed with rfl | listed
      · exact ⟨[], found, rest, rfl, nonempty, rfl, rfl, recognised⟩
      · obtain ⟨before, inner, after, split, innerNonempty, start, stop, attempted⟩ := ih listed
        refine ⟨found ++ before, inner, after, ?_, innerNonempty, ?_, ?_, ?_⟩
        · rw [split, List.append_assoc]
        · rw [start, List.length_append]
          omega
        · rw [stop, List.length_append]
          omega
        · rw [wordAfter_append]
          exact attempted

/-- Wherever something is recognised, a span starts there or still covers the place. -/
theorem Scan.covered (consumes : anchor.Consumes)
    (scan : Scan anchor position afterWord text spans) {before rest remaining : List Char}
    {value : α} (split : text = before ++ rest)
    (attempted : anchor.attempt? (wordAfter afterWord before) rest = some (value, remaining)) :
    ∃ span ∈ spans, span.start ≤ position + before.length ∧
      position + before.length < span.stop := by
  induction scan generalizing before with
  | done =>
      obtain ⟨rfl, rfl⟩ := List.append_eq_nil_iff.mp split.symm
      obtain ⟨found, nonempty, empty⟩ := consumes (Anchor.attempt?_recognised attempted)
      exact absurd (List.append_eq_nil_iff.mp empty.symm).1 nonempty
  | @pass position afterWord character others spans missed later ih =>
      cases before with
      | nil =>
          rw [List.nil_append] at split
          subst split
          rw [wordAfter_nil, missed] at attempted
          cases attempted
      | cons first before =>
          cases split
          obtain ⟨span, listed, start, stop⟩ := ih rfl attempted
          refine ⟨span, listed, ?_, ?_⟩
          · rw [List.length_cons]
            omega
          · rw [List.length_cons]
            omega
  | @take position afterWord found others recognisedValue spans nonempty recognised later ih =>
      by_cases inside : before.length < found.length
      · refine ⟨_, List.mem_cons_self, by simp, ?_⟩
        simp only
        omega
      · obtain ⟨more, rfl, splitOthers⟩ : ∃ more, before = found ++ more ∧
            others = more ++ rest := by
          rcases List.append_eq_append_iff.mp split with ⟨more, longer, later⟩ |
            ⟨more, longer, later⟩
          · exact ⟨more, longer, later⟩
          · have lengths := congrArg List.length longer
            rw [List.length_append] at lengths
            have empty : more = [] := List.eq_nil_of_length_eq_zero (by omega)
            subst empty
            exact ⟨[], by simpa using longer.symm, by simpa using later.symm⟩
        rw [wordAfter_append] at attempted
        obtain ⟨span, listed, start, stop⟩ := ih splitOthers attempted
        refine ⟨span, List.mem_cons_of_mem _ listed, ?_, ?_⟩
        · rw [List.length_append]
          omega
        · rw [List.length_append]
          omega

end Invariants

/-- What a span covers is recognised with the value of the span. -/
theorem Anchor.spans_cut (consumes : anchor.Consumes) {text : List Char} {span : Span α}
    (listed : span ∈ anchor.spans text) :
    ∃ rest, anchor.recognise? (text.extract span.start span.stop ++ rest) =
      some (span.value, rest) := by
  obtain ⟨before, found, after, split, -, start, stop, attempted⟩ :=
    (anchor.scan_spansFrom consumes 0 false text).recognised listed
  have cut : text.extract span.start span.stop = found := by
    rw [start, stop, split]
    simp
  rw [cut]
  exact ⟨after, attempt?_recognised attempted⟩

section Narrowing

/-- No declaration starts inside another. -/
def Anchor.Isolated (anchor : Anchor α) : Prop :=
  ∀ {afterWord : Bool} {front back rest : List Char} {value : α}, front ≠ [] → back ≠ [] →
    anchor.attempt? afterWord (front ++ back ++ rest) = some (value, rest) →
    anchor.attempt? (wordAfter afterWord front) (back ++ rest) = none

/-- The other anchor recognises the declarations that are kept and no others. -/
structure Anchor.Narrows (narrow wide : Anchor α) (keeps : α → Bool) : Prop where
  sameStart : narrow.atWordStart = wide.atWordStart
  recognised : ∀ text,
    narrow.recognise? text = (wide.recognise? text).filter fun read => keeps read.1

variable {narrow wide : Anchor α} {keeps : α → Bool}

/-- A narrower anchor attempts what the wider one keeps. -/
theorem Anchor.Narrows.attempted (narrows : narrow.Narrows wide keeps) (afterWord : Bool)
    (text : List Char) : narrow.attempt? afterWord text =
      (wide.attempt? afterWord text).filter fun read => keeps read.1 := by
  unfold attempt?
  rw [narrows.sameStart, narrows.recognised]
  split <;> rfl

/-- What is not kept holds nothing that is: its start is passed for its value, and nothing else
starts inside it. -/
theorem Anchor.Narrows.passed (narrows : narrow.Narrows wide keeps) (isolated : wide.Isolated)
    {afterWord : Bool} {found rest : List Char} {value : α}
    (recognised : wide.attempt? afterWord (found ++ rest) = some (value, rest))
    (dropped : keeps value = false) (front back : List Char) (split : found = front ++ back)
    (nonempty : back ≠ []) :
    narrow.attempt? (wordAfter afterWord front) (back ++ rest) = none := by
  subst split
  rw [narrows.attempted]
  cases front with
  | nil =>
      rw [List.nil_append] at recognised
      rw [wordAfter_nil, recognised]
      simp [Option.filter, dropped]
  | cons first front => rw [isolated (by simp) nonempty recognised, Option.filter_none]

/-- Where none starts inside another, a narrower scan lists what the wider one keeps. -/
theorem Scan.narrowed (narrows : narrow.Narrows wide keeps) (isolated : wide.Isolated)
    {position : Nat} {afterWord : Bool} {text : List Char} {spans : List (Span α)}
    (scan : Scan wide position afterWord text spans) :
    narrow.spansFrom position afterWord 0 text = spans.filter fun span => keeps span.value := by
  induction scan with
  | done => rfl
  | pass missed later ih =>
      rw [Anchor.spansFrom_miss _ (by rw [narrows.attempted, missed, Option.filter_none]), ih]
  | @take position afterWord found rest value spans nonempty recognised later ih =>
      cases kept : keeps value with
      | true =>
          have alsoRecognised : narrow.attempt? afterWord (found ++ rest) = some (value, rest) := by
            rw [narrows.attempted, recognised]
            simp [Option.filter, kept]
          rw [Anchor.spansFrom_hit position nonempty alsoRecognised, ih,
            List.filter_cons_of_pos (by exact kept)]
      | false =>
          rw [Anchor.spansFrom_passed position (narrows.passed isolated recognised kept), ih,
            List.filter_cons_of_neg (by simp [kept])]

/-- A narrower anchor has the spans that the wider one keeps. -/
theorem Anchor.Narrows.spans (narrows : narrow.Narrows wide keeps) (isolated : wide.Isolated)
    (consumes : wide.Consumes) (text : List Char) :
    narrow.spans text = (wide.spans text).filter fun span => keeps span.value :=
  (wide.scan_spansFrom consumes 0 false text).narrowed narrows isolated

end Narrowing

section Anywhere

variable {text : List Char} (consumes : anchor.Consumes) (anywhere : anchor.atWordStart = false)

include consumes

/-- No two spans overlap. -/
theorem Anchor.spans_separate :
    (anchor.spans text).Pairwise fun earlier later => earlier.stop ≤ later.start :=
  (anchor.scan_spansFrom consumes 0 false text).separate

include anywhere

/-- A span is recognised where it starts. -/
theorem Anchor.spans_recognised {span : Span α} (listed : span ∈ anchor.spans text) :
    ∃ before inner rest, text = before ++ inner ∧ span.start = before.length ∧
      span.stop + rest.length = text.length ∧ rest.length < inner.length ∧
      anchor.recognise? inner = some (span.value, rest) := by
  obtain ⟨before, found, after, split, nonempty, start, stop, attempted⟩ :=
    (anchor.scan_spansFrom consumes 0 false text).recognised listed
  rw [attempt?_anywhere anywhere] at attempted
  have positive := List.length_pos_of_ne_nil nonempty
  refine ⟨before, found ++ after, after, split, by omega, ?_, ?_, attempted⟩
  · rw [split, List.length_append, List.length_append]
    omega
  · rw [List.length_append]
    omega

/-- What is recognised starts in a span. -/
theorem Anchor.spans_covered {before inner rest : List Char} {value : α}
    (split : text = before ++ inner) (recognised : anchor.recognise? inner = some (value, rest)) :
    ∃ span ∈ anchor.spans text, span.start ≤ before.length ∧ before.length < span.stop := by
  obtain ⟨span, listed, start, stop⟩ := (anchor.scan_spansFrom consumes 0 false text).covered
    consumes split ((attempt?_anywhere anywhere _ _).trans recognised)
  exact ⟨span, listed, by omega, by omega⟩

/-- No span is empty. -/
theorem Anchor.start_lt_stop {span : Span α} (listed : span ∈ anchor.spans text) :
    span.start < span.stop := by
  obtain ⟨before, inner, rest, split, start, stop, shorter, -⟩ :=
    spans_recognised consumes anywhere listed
  have total := congrArg List.length split
  rw [List.length_append] at total
  omega

/-- Spans are listed by their starts. -/
theorem Anchor.starts_increase :
    (anchor.spans text).Pairwise fun earlier later => earlier.start < later.start :=
  (spans_separate consumes).imp_of_mem fun listed _ separate =>
    Nat.lt_of_lt_of_le (start_lt_stop consumes anywhere listed) separate

/-- Of two spans the one that starts first stops before the other starts. -/
theorem Anchor.stop_le_start {earlier later : Span α} (listed : earlier ∈ anchor.spans text)
    (laterListed : later ∈ anchor.spans text) (starts : earlier.start < later.start) :
    earlier.stop ≤ later.start := by
  have proper := start_lt_stop consumes anywhere laterListed
  have separate : (anchor.spans text).Pairwise fun first second => first.stop ≤ second.start :=
    spans_separate consumes
  obtain ⟨front, back, order⟩ := List.append_of_mem listed
  rw [order, List.pairwise_append, List.pairwise_cons] at separate
  obtain ⟨-, ⟨after, -⟩, ahead⟩ := separate
  rw [order, List.mem_append, List.mem_cons] at laterListed
  rcases laterListed with inFront | rfl | inBack
  · have := ahead later inFront earlier List.mem_cons_self
    omega
  · exact absurd starts (Nat.lt_irrefl _)
  · exact after later inBack

end Anywhere

end Scan

end SolidityAudit.Source
