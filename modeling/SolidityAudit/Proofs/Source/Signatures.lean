import SolidityAudit.Proofs.Source.Coverage
import SolidityAudit.Proofs.Source.Nesting

namespace SolidityAudit.Source

open Text

/-- Reading a signature consumes something. -/
theorem signatureAnchor_consumes : signatureAnchor.Consumes := by
  intro text head rest recognised
  obtain ⟨afterParameters, -, outline⟩ := functionHead?_outline recognised
  obtain ⟨name, lead, parameters, -, -, whole⟩ := outline.named
  obtain ⟨plain, -, attributes⟩ := outline.attributes
  refine ⟨lead ++ '(' :: (parameters ++ ')' :: (plain ++ writtenResults head.results)), by simp, ?_⟩
  rw [whole, attributes]
  simp

/-- So does reading a function. -/
theorem functionAnchor_consumes : functionAnchor.Consumes :=
  functionAnchor_reads.consumes functionTexts_nonempty

/-- A body starts after the attributes. -/
theorem body_length {after rest : List Char}
    (brace : skipBlanks (attributesOf after).2 = '\x7b' :: rest) : rest.length < after.length := by
  obtain ⟨pad, -, padding⟩ := skipBlanks_split (attributesOf after).2
  obtain ⟨found, -, split⟩ := attributesOf_split after
  rw [brace] at padding
  have lengths := congrArg List.length split
  rw [padding] at lengths
  simp only [List.length_append, List.length_cons] at lengths
  omega

/-- A head that starts after the attributes of a function starts in its body. -/
theorem namedList?_inBody {inner name items after left rest : List Char}
    (named : namedList? "function" inner = some ((name, items), after))
    (brace : skipBlanks left = '\x7b' :: rest) (behind : inner <:+ left) : inner <:+ rest := by
  obtain ⟨front, split⟩ := behind
  obtain ⟨pad, padded, padding⟩ := skipBlanks_split left
  rw [brace, ← split] at padding
  have noHead : 'f' ∉ pad := fun inside => absurd (padded 'f' inside) (by decide)
  obtain ⟨more, bracing⟩ := namedList?_behind named noHead padding.symm
  obtain ⟨more, -, inside⟩ := namedList?_later named (by decide) bracing
  exact ⟨more, inside.symm⟩

section Places

variable {text before inner otherBefore otherInner : List Char}

/-- A text is split at one place into the same parts. -/
theorem inner_eq (split : text = before ++ inner) (otherSplit : text = otherBefore ++ otherInner)
    (same : otherBefore.length = before.length) : otherInner = inner :=
  (List.append_inj (otherSplit.symm.trans split) same).2

/-- An earlier split leaves more. -/
theorem inner_longer (split : text = before ++ inner)
    (otherSplit : text = otherBefore ++ otherInner)
    (earlier : otherBefore.length < before.length) :
    ∃ front, front ≠ [] ∧ otherInner = front ++ inner := by
  rcases List.append_eq_append_iff.mp (split.symm.trans otherSplit) with ⟨more, longer, -⟩ |
    ⟨more, longer, later⟩
  · have lengths := congrArg List.length longer
    rw [List.length_append] at lengths
    omega
  · refine ⟨more, ?_, later⟩
    rintro rfl
    rw [longer, List.append_nil] at earlier
    exact Nat.lt_irrefl _ earlier

/-- The function around a place where a head starts goes on at least as far as the parameters of
that head. -/
theorem function_reaches {span : Span FunctionHead} (listed : span ∈ functionAnchor.spans text)
    (split : text = before ++ inner) (starts : span.start ≤ before.length)
    (stops : before.length < span.stop) {name items after : List Char}
    (named : namedList? "function" inner = some ((name, items), after)) :
    text.length ≤ span.stop + after.length := by
  obtain ⟨spanBefore, spanInner, spanRest, spanSplit, start, stop, -, recognised⟩ :=
    Anchor.spans_recognised functionAnchor_consumes rfl listed
  obtain ⟨spanName, spanItems, spanAfter, spanNamed, value, brace⟩ :=
    functionAnchor_eq_some.mp recognised
  have shorter := body_length brace
  rcases Nat.lt_or_eq_of_le starts with earlier | same
  · obtain ⟨front, later, whole⟩ := inner_longer split spanSplit (by omega)
    have read : functionHead? spanInner = some (span.value, (attributesOf spanAfter).2) := by
      rw [functionHead?_eq, spanNamed, value]
      rfl
    obtain ⟨afterParameters, alsoNamed, outline⟩ := functionHead?_outline read
    rw [spanNamed] at alsoNamed
    cases alsoNamed
    rcases outline.inside named later whole with rfl | ⟨_, _, -, -, -, -, rfl⟩ | behind
    · omega
    · obtain ⟨pad, -, padding⟩ := skipBlanks_split (attributesOf spanAfter).2
      rw [padding, brace, List.length_append, List.length_cons]
      omega
    · have inBody := (namedList?_inBody named brace behind).length_le
      have total := congrArg List.length split
      rw [List.length_append] at total
      omega
  · obtain rfl : spanInner = inner := inner_eq split spanSplit (by omega)
    rw [named] at spanNamed
    cases spanNamed
    omega

end Places

/-- A position between the parentheses of the results of a head, which end it. -/
def InResults (text : List Char) (span : Span FunctionHead) (position : Nat) : Prop :=
  ∃ before items, span.value.results = some items ∧
    text.take span.stop = before ++ '(' :: (items ++ [')']) ∧
    before.length < position ∧ position + 1 < span.stop

/-- A place in the written results lies in the results of the span. -/
theorem Outline.inResults {text before inner rest afterParameters back written : List Char}
    {span : Span FunctionHead} (outline : Outline inner afterParameters span.value.results rest)
    (split : text = before ++ inner) (stop : span.stop + rest.length = text.length)
    (results : span.value.results = some written) (someBack : back ≠ []) (ends : back <:+ written)
    {position : Nat} (place : position + (back ++ ')' :: rest).length = text.length) :
    InResults text span position := by
  obtain ⟨name, lead, parameters, -, -, whole⟩ := outline.named
  obtain ⟨plain, -, attributes⟩ := outline.attributes
  have shape : text = (before ++ (lead ++ '(' :: (parameters ++ ')' :: plain)) ++
      '(' :: (written ++ [')'])) ++ rest := by
    rw [split, whole, attributes, results]
    simp [writtenResults]
  have total := congrArg List.length shape
  simp only [List.length_append, List.length_cons, List.length_nil] at total place
  have positive := List.length_pos_of_ne_nil someBack
  have bounded := ends.length_le
  refine ⟨before ++ (lead ++ '(' :: (parameters ++ ')' :: plain)), written, results, ?_, ?_, ?_⟩
  · rw [shape, List.take_left']
    simp only [List.length_append, List.length_cons, List.length_nil]
    omega
  · simp only [List.length_append, List.length_cons]
    omega
  · omega

/-- Where a function is defined a signature starts, unless the place lies among the results of
another signature. -/
theorem function_signature {text : List Char} {span : Span FunctionHead}
    (listed : span ∈ functionAnchor.spans text) :
    ∃ other ∈ signatureAnchor.spans text,
      (other.start = span.start ∧ other.value = span.value) ∨ InResults text other span.start := by
  obtain ⟨before, inner, rest, split, start, stop, -, recognised⟩ :=
    Anchor.spans_recognised functionAnchor_consumes rfl listed
  obtain ⟨name, items, after, named, value, brace⟩ := functionAnchor_eq_some.mp recognised
  have read : functionHead? inner = some (span.value, (attributesOf after).2) := by
    rw [functionHead?_eq, named, value]
    rfl
  obtain ⟨other, otherListed, starts, stops⟩ :=
    Anchor.spans_covered signatureAnchor_consumes rfl split read
  obtain ⟨otherBefore, otherInner, otherRest, otherSplit, otherStart, otherStop, -, otherRead⟩ :=
    Anchor.spans_recognised signatureAnchor_consumes rfl otherListed
  refine ⟨other, otherListed, ?_⟩
  have total := congrArg List.length split
  rw [List.length_append] at total
  rcases Nat.lt_or_eq_of_le starts with earlier | same
  · right
    obtain ⟨front, later, whole⟩ := inner_longer split otherSplit (by omega)
    obtain ⟨afterParameters, otherNamed, outline⟩ := functionHead?_outline otherRead
    rcases outline.inside named later whole with rfl | ⟨written, back, results, someBack, ends,
      inResults, -⟩ | behind
    · exfalso
      obtain ⟨outer, outerListed, outerStarts, outerStops⟩ := Anchor.spans_covered
        functionAnchor_consumes rfl otherSplit
        (functionAnchor_eq_some.mpr ⟨_, _, _, otherNamed, rfl, brace⟩)
      have reaches := function_reaches outerListed otherSplit outerStarts outerStops otherNamed
      have shorter := namedList?_shorter named
      have passed := Anchor.stop_le_start functionAnchor_consumes rfl outerListed listed (by omega)
      omega
    · refine outline.inResults otherSplit otherStop results someBack ends ?_
      rw [← inResults]
      omega
    · have inRest := behind.length_le
      omega
  · left
    obtain rfl : otherInner = inner := inner_eq split otherSplit (by omega)
    have sameRead := Option.some.inj (otherRead.symm.trans read)
    exact ⟨by omega, (Prod.mk.inj sameRead).1⟩

end SolidityAudit.Source
