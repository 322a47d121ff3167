import SolidityAudit.Proofs.Source.Leads

namespace SolidityAudit.Source

open Text

/-- The keyword of functions is spelled in letters. -/
theorem isSpelled_function : IsSpelled "function" := by decide +kernel

section Lead

variable {name lead : List Char} (leads : IsLead "function" name lead)

include leads

/-- The lead of a function starts with its keyword. -/
theorem IsLead.starts : ∃ rest, lead = 'f' :: rest := by
  obtain ⟨gap, pad, rfl, -, -⟩ := leads.split
  exact ⟨_, rfl⟩

/-- No lead ends another, as it has the same two words. -/
theorem IsLead.front_eq_nil {front inner innerName : List Char}
    (innerLeads : IsLead "function" innerName inner) (split : lead = front ++ inner) :
    front = [] := by
  obtain ⟨gap, pad, rfl, spaced, padded⟩ := leads.split
  have ends : Ends isBlank "function".toList.reverse := ends_cons (by decide) _
  have whole := innerLeads.keyword_ends isSpelled_function ends spaced leads.word padded split
  have lengths := congrArg List.length whole
  rw [List.length_append] at lengths
  exact List.eq_nil_of_length_eq_zero (by omega)

end Lead

section Named

variable {inner name items after : List Char}
  (named : namedList? "function" inner = some ((name, items), after))

include named

/-- So does a named list of functions. -/
theorem namedList?_starts : ∃ rest, inner = 'f' :: rest := by
  obtain ⟨lead, leads, -, rfl⟩ := namedList?_eq_some.mp named
  obtain ⟨rest, rfl⟩ := leads.starts
  exact ⟨_, rfl⟩

/-- Reading a named list consumes something. -/
theorem namedList?_shorter : after.length < inner.length := by
  obtain ⟨lead, -, -, rfl⟩ := namedList?_eq_some.mp named
  simp only [List.length_append, List.length_cons]
  omega

/-- A character that cannot start a function head stands before it. -/
theorem namedList?_later {character : Char} {rest front : List Char} (other : character ≠ 'f')
    (split : character :: rest = front ++ inner) :
    ∃ more, front = character :: more ∧ rest = more ++ inner := by
  cases front with
  | nil =>
      obtain ⟨others, started⟩ := namedList?_starts named
      rw [List.nil_append, started] at split
      exact absurd (List.cons.inj split).1 other
  | cons first more =>
      obtain ⟨rfl, later⟩ := List.cons.inj split
      exact ⟨more, rfl, later⟩

/-- No head starts in a text without its first letter. -/
theorem namedList?_behind {plain rest front : List Char} (noHead : 'f' ∉ plain)
    (split : plain ++ rest = front ++ inner) : ∃ more, rest = more ++ inner := by
  rcases List.append_eq_append_iff.mp split with ⟨more, -, behind⟩ | ⟨back, inPlain, whole⟩
  · exact ⟨more, behind⟩
  · cases back with
    | nil => exact ⟨[], whole.symm⟩
    | cons first back =>
        obtain ⟨others, started⟩ := namedList?_starts named
        rw [started] at whole
        obtain ⟨rfl, -⟩ := List.cons.inj whole
        exact absurd (by simp [inPlain]) noHead

/-- A head that starts before a closing parenthesis has its list closed by it at the latest. -/
theorem namedList?_closed {back rest : List Char} (stillOpen : ')' ∉ back)
    (split : inner = back ++ ')' :: rest) : after = rest := by
  obtain ⟨lead, leads, closed, whole⟩ := namedList?_eq_some.mp named
  have outside : ')' ∉ lead ++ '(' :: items := by
    simp only [List.mem_append, List.mem_cons, not_or]
    exact ⟨leads.not_mem isSpelled_function (by decide), by decide, closed⟩
  have same : back ++ ')' :: rest = (lead ++ '(' :: items) ++ ')' :: after := by
    rw [← split, whole]
    simp
  exact (split_unique stillOpen outside same).2.symm

/-- No head starts inside the lead of another. -/
theorem namedList?_notInLead {outerName lead front back rest : List Char}
    (leads : IsLead "function" outerName lead) (split : lead = front ++ back)
    (whole : inner = back ++ '(' :: rest) : front = [] := by
  obtain ⟨innerLead, innerLeads, -, shape⟩ := namedList?_eq_some.mp named
  have outsideLead : '(' ∉ lead := leads.not_mem isSpelled_function (by decide)
  have outside : '(' ∉ back := fun inside => outsideLead (by simp [split, inside])
  obtain ⟨rfl, -⟩ := split_unique outside
    (innerLeads.not_mem isSpelled_function (by decide)) (whole.symm.trans shape)
  exact leads.front_eq_nil innerLeads split

end Named

/-- The list of results as it is written. -/
def writtenResults : Option (List Char) → List Char
  | none => []
  | some items => '(' :: (items ++ [')'])

/-- How a function head lies in a text: the lead, the parameters, attributes without lists, the
list of results and the rest. -/
structure Outline (text afterParameters : List Char) (results : Option (List Char))
    (rest : List Char) : Prop where
  named : ∃ name lead parameters, IsLead "function" name lead ∧ ')' ∉ parameters ∧
    text = lead ++ '(' :: (parameters ++ ')' :: afterParameters)
  attributes : ∃ plain, 'f' ∉ plain ∧ afterParameters = plain ++ (writtenResults results ++ rest)
  closed : ∀ items, results = some items → ')' ∉ items

/-- Attributes start no function before their results. -/
theorem attributeTexts_outline {results : Option (List Char)} {found : List Char}
    (attributes : found ∈ attributeTexts results) :
    (∃ plain, 'f' ∉ plain ∧ found = plain ++ writtenResults results) ∧
      ∀ items, results = some items → ')' ∉ items := by
  have blankPlain {text : List Char} (blank : text ∈ blankTexts) : 'f' ∉ text := by
    intro inside
    have := blank 'f' inside
    revert this
    decide
  have keywordPlain {keywords : List String} (plain : ∀ keyword ∈ keywords, 'f' ∉ keyword.toList)
      {text : List Char} (optional : text ∈ 1 + keywordTexts keywords) : 'f' ∉ text := by
    rcases optional with rfl | ⟨keyword, listed, rfl⟩
    · simp
    · exact plain keyword listed
  obtain ⟨_, ⟨_, ⟨_, ⟨_, ⟨first, firstBlank, visibility, visible, rfl⟩, second, secondBlank, rfl⟩,
    mutability, mutable, rfl⟩, third, thirdBlank, rfl⟩, said, resulting, rfl⟩ := attributes
  have visibilityPlain := keywordPlain (by decide) visible
  have mutabilityPlain := keywordPlain (by decide) mutable
  cases results with
  | none =>
      cases resulting
      refine ⟨⟨_, ?_, rfl⟩, fun _ none => by cases none⟩
      simp [blankPlain firstBlank, visibilityPlain, blankPlain secondBlank, mutabilityPlain,
        blankPlain thirdBlank]
  | some items =>
      obtain ⟨_, ⟨_, rfl, pad, padded, rfl⟩, _, ⟨rfl, closed⟩, rfl⟩ := resulting
      refine ⟨⟨first ++ (visibility ++ (second ++ (mutability ++ (third ++
        ("returns".toList ++ pad))))), ?_, by simp [writtenResults]⟩, ?_⟩
      · simp [blankPlain firstBlank, visibilityPlain, blankPlain secondBlank, mutabilityPlain,
          blankPlain thirdBlank, blankPlain padded]
      · rintro _ ⟨⟩
        exact closed

/-- The head of a function has an outline. -/
theorem functionHead?_outline {text rest : List Char} {head : FunctionHead}
    (read : functionHead? text = some (head, rest)) :
    ∃ afterParameters,
      namedList? "function" text = some ((head.name, head.parameters), afterParameters) ∧
        Outline text afterParameters head.results rest := by
  rw [functionHead?_eq] at read
  obtain ⟨⟨⟨name, parameters⟩, afterParameters⟩, named, same⟩ := Option.map_eq_some_iff.mp read
  cases same
  obtain ⟨lead, leads, closed, whole⟩ := namedList?_eq_some.mp named
  obtain ⟨found, attributes, split⟩ := attributesOf_split afterParameters
  obtain ⟨⟨plain, noHead, shape⟩, closedResults⟩ := attributeTexts_outline attributes
  refine ⟨afterParameters, named, ⟨⟨name, lead, parameters, leads, closed, whole⟩, ⟨plain, noHead,
    ?_⟩, closedResults⟩⟩
  rw [shape, List.append_assoc] at split
  exact split

/-- A head among the attributes of another starts in its list of results. -/
theorem namedList?_inAttributes {inner name items after : List Char}
    (named : namedList? "function" inner = some ((name, items), after))
    {front plain rest : List Char} {results : Option (List Char)} (noHead : 'f' ∉ plain)
    (closed : ∀ items, results = some items → ')' ∉ items)
    (split : plain ++ (writtenResults results ++ rest) = front ++ inner) :
    (∃ written back, results = some written ∧ back ≠ [] ∧ back <:+ written ∧
      inner = back ++ ')' :: rest ∧ after = rest) ∨ inner <:+ rest := by
  obtain ⟨more, afterPlain⟩ := namedList?_behind named noHead split
  cases results with
  | none => exact .inr ⟨more, afterPlain.symm⟩
  | some written =>
      have opened : '(' :: (written ++ ')' :: rest) = more ++ inner := by
        rw [← afterPlain]
        simp [writtenResults]
      obtain ⟨more, -, inside⟩ := namedList?_later named (by decide) opened
      rcases List.append_eq_append_iff.mp inside with ⟨more, -, closing⟩ | ⟨back, inResults, whole⟩
      · obtain ⟨more, -, behind⟩ := namedList?_later named (by decide) closing
        exact .inr ⟨more, behind.symm⟩
      · left
        have stillOpen : ')' ∉ back := fun inBack =>
          closed written rfl (by simp [inResults, inBack])
        refine ⟨written, back, rfl, ?_, ⟨more, inResults.symm⟩, whole,
          namedList?_closed named stillOpen whole⟩
        rintro rfl
        obtain ⟨others, started⟩ := namedList?_starts named
        rw [List.nil_append, started] at whole
        cases whole

/-- A head inside the outline of another starts among its parameters or its results. -/
theorem Outline.inside {text afterParameters rest : List Char} {results : Option (List Char)}
    (outline : Outline text afterParameters results rest) {front inner name items after : List Char}
    (named : namedList? "function" inner = some ((name, items), after)) (later : front ≠ [])
    (split : text = front ++ inner) :
    after = afterParameters ∨
      (∃ written back, results = some written ∧ back ≠ [] ∧ back <:+ written ∧
        inner = back ++ ')' :: rest ∧ after = rest) ∨
      inner <:+ rest := by
  obtain ⟨⟨outerName, lead, parameters, leads, closed, whole⟩, ⟨plain, noHead, attributes⟩,
    closedResults⟩ := outline
  rw [whole] at split
  rcases List.append_eq_append_iff.mp split with ⟨more, -, afterLead⟩ | ⟨back, inLead, inner⟩
  · obtain ⟨more, -, opened⟩ := namedList?_later named (by decide) afterLead
    rcases List.append_eq_append_iff.mp opened with ⟨more, -, closing⟩ | ⟨back, inList, inner⟩
    · obtain ⟨more, -, behind⟩ := namedList?_later named (by decide) closing
      right
      exact namedList?_inAttributes named noHead closedResults (attributes.symm.trans behind)
    · left
      refine namedList?_closed named ?_ inner
      intro inside
      exact closed (by simp [inList, inside])
  · exact absurd (namedList?_notInLead named leads inLead inner) later

end SolidityAudit.Source
