import SolidityAudit.Proofs.Source.Leads

namespace SolidityAudit.Source

open Text

section Yields

variable {α : Type} {anchor : Anchor α}

/-- Nothing is recognised at any place of the segment, whatever follows it. -/
def Anchor.Quiet (anchor : Anchor α) (segment : List Char) : Prop :=
  ∀ {front back : List Char} (rest : List Char), segment = front ++ back → back ≠ [] →
    anchor.recognise? (back ++ rest) = none

/-- A scan that comes to the segment between words lists the values and leaves between words. -/
def Anchor.Yields (anchor : Anchor α) (segment : List Char) (values : List α) : Prop :=
  ∀ (position : Nat) (rest : List Char),
    (anchor.spansFrom position false 0 (segment ++ rest)).map Span.value =
      values ++ (anchor.spansFrom (position + segment.length) false 0 rest).map Span.value

/-- An empty text yields nothing. -/
theorem Anchor.yields_nil : anchor.Yields [] [] := by
  intro position rest
  rfl

/-- Joined texts yield what each of them does. -/
theorem Anchor.Yields.append {first second : List Char} {values others : List α}
    (yields : anchor.Yields first values) (laterYields : anchor.Yields second others) :
    anchor.Yields (first ++ second) (values ++ others) := by
  intro position rest
  rw [List.append_assoc, yields, laterYields, List.append_assoc, List.length_append,
    Nat.add_assoc]

/-- What a text yields are the values of its spans. -/
theorem Anchor.Yields.values {text : List Char} {values : List α}
    (yields : anchor.Yields text values) : (anchor.spans text).map Span.value = values := by
  have whole := yields 0 []
  rw [List.append_nil] at whole
  rw [spans, whole, spansFrom, List.map_nil, List.append_nil]

/-- The scan passes a quiet segment. -/
theorem Anchor.Quiet.spansFrom {segment : List Char} (quiet : anchor.Quiet segment)
    (position : Nat) (afterWord : Bool) (rest : List Char) :
    anchor.spansFrom position afterWord 0 (segment ++ rest) =
      anchor.spansFrom (position + segment.length) (wordAfter afterWord segment) 0 rest := by
  apply spansFrom_passed
  intro front back parts nonempty
  unfold attempt?
  split
  · rfl
  · exact quiet rest parts nonempty

/-- A quiet segment that ends no word yields nothing. -/
theorem Anchor.Quiet.yields {segment : List Char} (quiet : anchor.Quiet segment)
    (closed : wordAfter false segment = false) : anchor.Yields segment [] := by
  intro position rest
  rw [quiet.spansFrom, closed, List.nil_append]

/-- A text that is always recognised yields its value. -/
theorem Anchor.yields_recognised {found : List Char} {value : α} (nonempty : found ≠ [])
    (closed : wordAfter false found = false)
    (recognised : ∀ rest, anchor.recognise? (found ++ rest) = some (value, rest)) :
    anchor.Yields found [value] := by
  intro position rest
  have attempted : anchor.attempt? false (found ++ rest) = some (value, rest) := by
    rw [attempt?, Bool.and_false]
    exact recognised rest
  rw [spansFrom_hit position nonempty attempted, closed]
  rfl

end Yields

/-- The marks that end a part of a declaration. -/
def delimiters : List Char := ['(', ')', '\x7b', '\x7d', ';', '"', '\'']

/-- A delimiter is no word character, blank or digit. -/
theorem delimiter_other : ∀ delimiter ∈ delimiters, isWordCharacter delimiter = false ∧
    isBlank delimiter = false ∧ isDecimalDigit delimiter = false := by
  decide +kernel

/-- A text without delimiters. -/
def IsPlain (text : List Char) : Prop := ∀ character ∈ text, character ∉ delimiters

instance (text : List Char) : Decidable (IsPlain text) :=
  inferInstanceAs (Decidable (∀ character ∈ text, character ∉ delimiters))

/-- A run of other characters is plain. -/
theorem isPlain_run {isMember : Char → Bool}
    (others : ∀ delimiter ∈ delimiters, isMember delimiter = false) {run : List Char}
    (members : ∀ character ∈ run, isMember character = true) : IsPlain run := by
  intro character inside listed
  have member := members character inside
  rw [others character listed] at member
  cases member

/-- A run of word characters is plain. -/
theorem isPlain_word {word : List Char}
    (members : ∀ character ∈ word, isWordCharacter character = true) : IsPlain word :=
  isPlain_run (fun delimiter listed => (delimiter_other delimiter listed).1) members

/-- A run of blanks is plain. -/
theorem isPlain_blank {blanks : List Char}
    (members : ∀ character ∈ blanks, isBlank character = true) : IsPlain blanks :=
  isPlain_run (fun delimiter listed => (delimiter_other delimiter listed).2.1) members

/-- A run of digits is plain. -/
theorem isPlain_digits {digits : List Char}
    (members : ∀ character ∈ digits, isDecimalDigit character = true) : IsPlain digits :=
  isPlain_run (fun delimiter listed => (delimiter_other delimiter listed).2.2) members

/-- Joined plain texts are plain. -/
theorem IsPlain.append {first second : List Char} (plain : IsPlain first)
    (otherPlain : IsPlain second) : IsPlain (first ++ second) := by
  intro character inside
  rcases List.mem_append.mp inside with inside | inside
  · exact plain character inside
  · exact otherPlain character inside

/-- A lead is plain. -/
theorem IsLead.isPlain {keyword : String} {name lead : List Char} (spelled : IsSpelled keyword)
    (leads : IsLead keyword name lead) : IsPlain lead := by
  intro character inside listed
  obtain ⟨noWord, noBlank, -⟩ := delimiter_other character listed
  exact leads.not_mem spelled ⟨noWord, noBlank⟩ inside

/-- A text that ends with a delimiter. -/
def IsDelimited (text : List Char) : Prop := ∃ start, ∃ last ∈ delimiters, text = start ++ [last]

/-- A text with a delimiter after it is delimited. -/
theorem isDelimited_append (start : List Char) {last : Char} (listed : last ∈ delimiters) :
    IsDelimited (start ++ [last]) := ⟨start, last, listed, rfl⟩

/-- A delimited text stays so behind another. -/
theorem IsDelimited.prepend {text : List Char} (delimited : IsDelimited text)
    (front : List Char) : IsDelimited (front ++ text) := by
  obtain ⟨start, last, listed, rfl⟩ := delimited
  exact ⟨front ++ start, last, listed, (List.append_assoc _ _ _).symm⟩

/-- A delimited text ends no word. -/
theorem IsDelimited.wordAfter {text : List Char} (delimited : IsDelimited text)
    (afterWord : Bool) : wordAfter afterWord text = false := by
  obtain ⟨start, last, listed, rfl⟩ := delimited
  rw [wordAfter_append, wordAfter_cons, wordAfter_nil]
  exact (delimiter_other last listed).1

/-- A plain part before a mark lies within what it shares its start with, if that ends with a
delimiter. -/
theorem IsDelimited.plain_inside {text rest lead after : List Char} {stop : Char}
    (delimited : IsDelimited text) (plain : IsPlain lead)
    (same : text ++ rest = lead ++ stop :: after) : ∃ more, text = lead ++ stop :: more := by
  obtain ⟨start, last, listed, rfl⟩ := delimited
  rcases List.append_eq_append_iff.mp same with ⟨more, longer, -⟩ | ⟨more, longer, later⟩
  · exact absurd listed (plain last (by simp [longer]))
  · cases more with
    | nil =>
        rw [List.append_nil] at longer
        exact absurd listed (plain last (by simp [← longer]))
    | cons first more =>
        obtain ⟨rfl, -⟩ := List.cons.inj later
        exact ⟨more, longer⟩

/-- What ends a delimited text is delimited. -/
theorem IsDelimited.of_append {text front back : List Char} (delimited : IsDelimited text)
    (split : text = front ++ back) (nonempty : back ≠ []) : IsDelimited back := by
  obtain ⟨start, last, listed, rfl⟩ := delimited
  rcases List.eq_nil_or_concat back with rfl | ⟨others, final, rfl⟩
  · exact absurd rfl nonempty
  · rw [List.concat_eq_append, ← List.append_assoc] at split
    obtain ⟨-, same⟩ := List.append_inj' split rfl
    obtain ⟨rfl, -⟩ := List.cons.inj same
    exact ⟨others, last, listed, List.concat_eq_append⟩

section Stops

variable {α : Type} {anchor : Anchor α} {stops : List Char} {segment : List Char}

/-- Every declaration has a plain part with white space in it, up to one of the marks. -/
def Anchor.Stops (anchor : Anchor α) (stops : List Char) : Prop :=
  ∀ {text value rest}, anchor.recognise? text = some (value, rest) →
    ∃ lead stop after, text = lead ++ stop :: after ∧ stop ∈ stops ∧ IsPlain lead ∧
      ∃ character ∈ lead, isBlank character = true

/-- What starts inside a segment meets a stop and a blank there. -/
theorem Anchor.Stops.inside (stopping : anchor.Stops stops) (delimited : IsDelimited segment)
    {front back rest remaining : List Char} {value : α} (split : segment = front ++ back)
    (nonempty : back ≠ [])
    (recognised : anchor.recognise? (back ++ rest) = some (value, remaining)) :
    (∃ stop ∈ stops, stop ∈ segment) ∧ ∃ character ∈ segment, isBlank character = true := by
  obtain ⟨lead, stop, after, whole, listed, plain, character, inLead, blank⟩ :=
    stopping recognised
  obtain ⟨more, rfl⟩ := (delimited.of_append split nonempty).plain_inside plain whole
  exact ⟨⟨stop, listed, by simp [split]⟩, character, by simp [split, inLead], blank⟩

/-- A segment without a stop yields nothing. -/
theorem Anchor.Stops.yields_unstopped (stopping : anchor.Stops stops)
    (delimited : IsDelimited segment) (unstopped : ∀ stop ∈ stops, stop ∉ segment) :
    anchor.Yields segment [] := by
  apply Quiet.yields _ (delimited.wordAfter false)
  intro front back rest split nonempty
  by_contra found
  obtain ⟨⟨value, remaining⟩, recognised⟩ := Option.ne_none_iff_exists'.mp found
  obtain ⟨⟨stop, listed, inside⟩, -⟩ := stopping.inside delimited split nonempty recognised
  exact unstopped stop listed inside

/-- Nor does one without a blank. -/
theorem Anchor.Stops.yields_unspaced (stopping : anchor.Stops stops)
    (delimited : IsDelimited segment)
    (unspaced : ∀ character ∈ segment, isBlank character = false) : anchor.Yields segment [] := by
  apply Quiet.yields _ (delimited.wordAfter false)
  intro front back rest split nonempty
  by_contra found
  obtain ⟨⟨value, remaining⟩, recognised⟩ := Option.ne_none_iff_exists'.mp found
  obtain ⟨-, character, inside, blank⟩ := stopping.inside delimited split nonempty recognised
  rw [unspaced character inside] at blank
  cases blank

end Stops

section Named

variable {α : Type} {anchor : Anchor α} {keyword : String}

/-- Every declaration starts with a named list. -/
def Anchor.StartsNamed (anchor : Anchor α) (keyword : String) : Prop :=
  ∀ {text value rest}, anchor.recognise? text = some (value, rest) →
    ∃ name items after, namedList? keyword text = some ((name, items), after)

/-- A named head stops at its opening parenthesis. -/
theorem Anchor.StartsNamed.stops (named : anchor.StartsNamed keyword)
    (spelled : IsSpelled keyword) : anchor.Stops ['('] := by
  intro text value rest recognised
  obtain ⟨name, items, after, list⟩ := named recognised
  obtain ⟨lead, leads, -, whole⟩ := namedList?_eq_some.mp list
  refine ⟨lead, '(', _, whole, List.mem_singleton_self _, leads.isPlain spelled, ?_⟩
  obtain ⟨⟨gap, pad, rfl, ⟨someGap, blank⟩, -⟩, -⟩ := leads
  obtain ⟨first, others, rfl⟩ := List.exists_cons_of_ne_nil someGap
  exact ⟨first, by simp, blank first (by simp)⟩

/-- Before a parenthesis there is only a declaration of which the keyword ends what stands before
the last word. -/
theorem Anchor.StartsNamed.yields_mismatched (named : anchor.StartsNamed keyword)
    (spelled : IsSpelled keyword) {first gap second pad : List Char}
    (ends : Ends isBlank first.reverse) (plain : IsPlain first) (spaced : gap ∈ gapTexts)
    (word : second ≠ [] ∧ ∀ character ∈ second, isWordCharacter character = true)
    (padded : pad ∈ blankTexts) (mismatched : ¬ keyword.toList <:+ first) :
    anchor.Yields (first ++ (gap ++ (second ++ pad)) ++ ['(']) [] := by
  have delimited := isDelimited_append (first ++ (gap ++ (second ++ pad)))
    (show '(' ∈ delimiters by decide)
  apply Quiet.yields _ (delimited.wordAfter false)
  intro front back rest split nonempty
  by_contra found
  obtain ⟨⟨value, remaining⟩, recognised⟩ := Option.ne_none_iff_exists'.mp found
  obtain ⟨name, items, after, list⟩ := named recognised
  obtain ⟨lead, leads, -, whole⟩ := namedList?_eq_some.mp list
  have outside : '(' ∉ first ++ (gap ++ (second ++ pad)) := fun inside =>
    plain.append ((isPlain_blank spaced.2).append ((isPlain_word word.2).append
      (isPlain_blank padded))) '(' inside (by decide)
  obtain ⟨more, rfl⟩ := (delimited.of_append split nonempty).plain_inside
    (leads.isPlain spelled) whole
  have ended := split_last outside (split.trans (List.append_assoc _ _ _).symm)
  exact mismatched ⟨front, (leads.keyword_ends spelled ends spaced word padded ended).symm⟩

end Named

/-- Functions have named heads. -/
theorem functionAnchor_named : functionAnchor.StartsNamed "function" := by
  intro text head rest recognised
  obtain ⟨name, parameters, after, named, -⟩ := functionAnchor_eq_some.mp recognised
  exact ⟨name, parameters, after, named⟩

/-- Modifiers have named heads. -/
theorem modifierAnchor_named : modifierAnchor.StartsNamed "modifier" := by
  intro text value rest recognised
  simp only [modifierAnchor, Option.bind_eq_bind, Option.bind_eq_some_iff, Prod.exists]
    at recognised
  obtain ⟨name, items, after, named, -⟩ := recognised
  exact ⟨name, items, after, named⟩

/-- Events have named heads. -/
theorem eventAnchor_named : eventAnchor.StartsNamed "event" := by
  intro text value rest recognised
  exact ⟨value.1, value.2, rest, recognised⟩

/-- Imports stop at a quote. -/
theorem importAnchor_stops : importAnchor.Stops ['"', '\''] := by
  intro text path rest recognised
  obtain ⟨_, ⟨_, ⟨_, rfl, gap, ⟨someGap, blank⟩, rfl⟩, _,
    ⟨opening, closing, rfl, opened, -⟩, rfl⟩, rfl⟩ := importAnchor_reads.mp recognised
  refine ⟨"import".toList ++ gap, opening, path ++ closing :: rest, by simp, ?_, ?_, ?_⟩
  · simp only [isQuote, Bool.or_eq_true, beq_iff_eq] at opened
    simpa [or_comm] using opened
  · exact IsPlain.append (by decide) (isPlain_blank blank)
  · obtain ⟨first, others, rfl⟩ := List.exists_cons_of_ne_nil someGap
    exact ⟨first, by simp, blank first (by simp)⟩

/-- A type that is read is plain. -/
theorem elementaryType?_split {text type rest : List Char}
    (read : elementaryType? text = some (type, rest)) : text = type ++ rest ∧ IsPlain type := by
  unfold elementaryType? at read
  split at read
  · next name after found =>
    obtain ⟨listed, rfl⟩ := keyword?_some found
    cases read
    refine ⟨by rw [List.append_assoc, List.takeWhile_append_dropWhile], ?_⟩
    have plain : ∀ name ∈ sizedTypes, IsPlain name.toList := by decide
    exact (plain name listed).append (isPlain_digits fun _ => List.mem_takeWhile_imp)
  · obtain ⟨⟨name, after⟩, found, same⟩ := Option.map_eq_some_iff.mp read
    obtain ⟨listed, rfl⟩ := keyword?_some found
    cases same
    have plain : ∀ name ∈ plainTypes, IsPlain name.toList := by decide
    exact ⟨rfl, plain name listed⟩

/-- A name of a variable reaches to the semicolon. -/
theorem variableName?_split {text name rest : List Char}
    (read : variableName? text = some (name, rest)) :
    ∃ lead, text = lead ++ ';' :: rest ∧ IsPlain lead := by
  simp only [variableName?, Option.bind_eq_bind, Option.bind_eq_some_iff, Option.pure_def,
    Option.some.injEq, Prod.mk.injEq, Prod.exists] at read
  obtain ⟨_, after, named, _, ended, rfl, rfl⟩ := read
  obtain ⟨-, word, rfl, -⟩ := word?_eq_some.mp named
  obtain ⟨pad, padded, split⟩ := skipBlanks_split after
  refine ⟨_, ?_, (isPlain_word word).append (isPlain_blank padded)⟩
  rw [split, literal?_eq_some.mp ended]
  simp

/-- So does one with a keyword before it. -/
theorem visibleName?_split {text rest : List Char} {head : String × List Char}
    (read : visibleName? visibilities text = some (head, rest)) :
    ∃ lead, text = lead ++ ';' :: rest ∧ IsPlain lead := by
  simp only [visibleName?, Option.bind_eq_bind, Option.bind_eq_some_iff, Option.pure_def,
    Option.some.injEq, Prod.mk.injEq, Prod.exists] at read
  obtain ⟨keyword, after, found, name, _, named, rfl, rfl⟩ := read
  obtain ⟨listed, rfl⟩ := keyword?_some found
  obtain ⟨pad, padded, split⟩ := skipBlanks_split after
  obtain ⟨lead, shape, plain⟩ := variableName?_split named
  have keywordPlain : ∀ keyword ∈ visibilities, IsPlain keyword.toList := by decide
  refine ⟨_, ?_, (keywordPlain keyword listed).append ((isPlain_blank padded).append plain)⟩
  rw [split, shape]
  simp

/-- Variables stop at a semicolon. -/
theorem variableAnchor_stops : variableAnchor.Stops [';'] := by
  intro text head rest recognised
  simp only [variableAnchor, Option.bind_eq_bind, Option.bind_eq_some_iff, Prod.exists]
    at recognised
  obtain ⟨type, _, typed, after, spaced, named⟩ := recognised
  obtain ⟨rfl, typePlain⟩ := elementaryType?_split typed
  obtain ⟨gap, someGap, blank, rfl, -⟩ := blanks?_eq_some.mp spaced
  obtain ⟨lead, rfl, plain⟩ : ∃ lead, after = lead ++ ';' :: rest ∧ IsPlain lead := by
    split at named
    · next found =>
      cases named
      exact visibleName?_split found
    · obtain ⟨⟨name, remaining⟩, found, same⟩ := Option.bind_eq_some_iff.mp named
      cases same
      exact variableName?_split found
  refine ⟨type ++ (gap ++ lead), ';', rest, by simp, List.mem_singleton_self _,
    typePlain.append ((isPlain_blank blank).append plain), ?_⟩
  obtain ⟨first, others, rfl⟩ := List.exists_cons_of_ne_nil someGap
  exact ⟨first, by simp, blank first (by simp)⟩

end SolidityAudit.Source
