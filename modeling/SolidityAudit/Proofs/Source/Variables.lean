import SolidityAudit.Proofs.Source.RoundTrip

namespace SolidityAudit.Source

open Text

/-- An elementary type with the given characters. -/
def typeTexts (type : List Char) : Language Char :=
  {text | text = type ∧ ∃ elementary : ElementaryType, elementary.text = type}

/-- A visibility and the white space after it, which may both be missing. -/
def visibilityTexts : Option String → Language Char
  | none => 1
  | some keyword => {text | keyword ∈ ["external", "public", "internal", "private"] ∧
      text ∈ literalTexts keyword * blankTexts}

/-- A name that ends its declaration. -/
def lastNameTexts (name : List Char) : Language Char :=
  wordTexts name * blankTexts * literalTexts ";"

/-- The texts of a state variable. -/
def variableTexts (head : VariableHead) : Language Char :=
  typeTexts head.type * gapTexts * visibilityTexts head.visibility * lastNameTexts head.name

section Reading

/-- A type that is read is one of the elementary types. -/
theorem elementaryType?_elementary {text type rest : List Char}
    (read : elementaryType? text = some (type, rest)) :
    type ∈ typeTexts type ∧ text = type ++ rest := by
  unfold elementaryType? at read
  split at read
  · next name after found =>
    obtain ⟨listed, rfl⟩ := keyword?_some found
    cases read
    refine ⟨⟨rfl, .sized name listed _ fun _ => List.mem_takeWhile_imp, rfl⟩, ?_⟩
    rw [List.append_assoc, List.takeWhile_append_dropWhile]
  · obtain ⟨⟨name, after⟩, found, same⟩ := Option.map_eq_some_iff.mp read
    obtain ⟨listed, rfl⟩ := keyword?_some found
    cases same
    exact ⟨⟨rfl, .plain name listed, rfl⟩, rfl⟩

/-- A last name is a word, blanks and a semicolon. -/
theorem mem_lastNameTexts {name text : List Char} :
    text ∈ lastNameTexts name ↔ (name ≠ [] ∧ ∀ character ∈ name, isWordCharacter character = true) ∧
      ∃ pad ∈ blankTexts, text = name ++ (pad ++ [';']) := by
  constructor
  · rintro ⟨_, ⟨_, ⟨rfl, word⟩, pad, padded, rfl⟩, _, rfl, rfl⟩
    exact ⟨word, pad, padded, by simp⟩
  · rintro ⟨word, pad, padded, rfl⟩
    exact ⟨_, ⟨_, ⟨rfl, word⟩, pad, padded, rfl⟩, _, rfl, by simp⟩

/-- A last name is read exactly where one is written. -/
theorem variableName?_eq_some {text name rest : List Char} :
    variableName? text = some (name, rest) ↔
      ∃ found ∈ lastNameTexts name, text = found ++ rest := by
  simp only [variableName?, Option.bind_eq_bind, Option.bind_eq_some_iff, Option.pure_def,
    Option.some.injEq, Prod.mk.injEq, Prod.exists, mem_lastNameTexts]
  constructor
  · rintro ⟨_, after, named, _, ended, rfl, rfl⟩
    obtain ⟨nonempty, members, rfl, -⟩ := word?_eq_some.mp named
    obtain ⟨pad, padded, split⟩ := skipBlanks_split after
    refine ⟨_, ⟨⟨nonempty, members⟩, pad, padded, rfl⟩, ?_⟩
    conv_lhs => rw [split, literal?_eq_some.mp ended]
    simp
  · rintro ⟨_, ⟨⟨nonempty, members⟩, pad, padded, rfl⟩, rfl⟩
    have stop : Ends isWordCharacter (pad ++ ';' :: rest) := by
      cases pad with
      | nil => exact ends_cons (by decide) rest
      | cons first others => exact ends_cons (isWordCharacter_blank (padded first (by simp))) _
    refine ⟨name, pad ++ ';' :: rest, word?_eq_some.mpr ⟨nonempty, members, by simp, stop⟩, rest,
      ?_, rfl, rfl⟩
    rw [skipBlanks_append padded, skipBlanks_ended (ends_cons (by decide) rest)]
    exact literal?_append [';'] rest

/-- A word that is not empty is inked. -/
theorem isInked_word {word : List Char} (nonempty : word ≠ [])
    (members : ∀ character ∈ word, isWordCharacter character = true) : isInked word = true :=
  Word.inked ⟨word, nonempty, members⟩

/-- A keyword and a name are read exactly where they are written. -/
theorem visibleName?_eq_some {keywords : List String}
    (apart : keywords.Pairwise fun first second => Apart first.toList second.toList)
    {text name rest : List Char} {keyword : String} :
    visibleName? keywords text = some ((keyword, name), rest) ↔ keyword ∈ keywords ∧
      ∃ found ∈ literalTexts keyword * blankTexts * lastNameTexts name, text = found ++ rest := by
  simp only [visibleName?, Option.bind_eq_bind, Option.bind_eq_some_iff, Option.pure_def,
    Option.some.injEq, Prod.mk.injEq, Prod.exists, variableName?_eq_some]
  constructor
  · rintro ⟨_, after, found, _, _, ⟨ending, named, split⟩, ⟨rfl, rfl⟩, rfl⟩
    obtain ⟨listed, rfl⟩ := keyword?_some found
    obtain ⟨pad, padded, padding⟩ := skipBlanks_split after
    refine ⟨listed, _, ⟨_, ⟨_, rfl, pad, padded, rfl⟩, ending, named, rfl⟩, ?_⟩
    conv_lhs => rw [padding, split]
    simp
  · rintro ⟨listed, _, ⟨_, ⟨_, rfl, pad, padded, rfl⟩, ending, named, rfl⟩, rfl⟩
    obtain ⟨⟨nonempty, members⟩, gap, -, rfl⟩ := mem_lastNameTexts.mp named
    refine ⟨keyword, pad ++ (name ++ (gap ++ [';']) ++ rest), ?_, name, rest,
      ⟨_, named, ?_⟩, ⟨rfl, rfl⟩, rfl⟩
    · simpa using keyword?_listed apart listed _
    · rw [skipBlanks_append padded, List.append_assoc,
        skipBlanks_inked (isInked_word nonempty members)]

/-- The parts of the text of a state variable. -/
theorem mem_variableTexts {head : VariableHead} {text : List Char} :
    text ∈ variableTexts head ↔ ∃ gap ∈ gapTexts, ∃ visible ∈ visibilityTexts head.visibility,
      ∃ ending ∈ lastNameTexts head.name, head.type ∈ typeTexts head.type ∧
        text = head.type ++ (gap ++ (visible ++ ending)) := by
  constructor
  · rintro ⟨_, ⟨_, ⟨_, ⟨rfl, typed⟩, gap, spaced, rfl⟩, visible, shown, rfl⟩, ending, named, rfl⟩
    exact ⟨gap, spaced, visible, shown, ending, named, ⟨rfl, typed⟩, by simp⟩
  · rintro ⟨gap, spaced, visible, shown, ending, named, typed, rfl⟩
    exact ⟨_, ⟨_, ⟨_, typed, gap, spaced, rfl⟩, visible, shown, rfl⟩, ending, named, by simp⟩

/-- What is recognised as a variable has its form. -/
theorem variableAnchor_sound {text rest : List Char} {head : VariableHead}
    (recognised : variableAnchor.recognise? text = some (head, rest)) :
    ∃ found ∈ variableTexts head, text = found ++ rest := by
  simp only [variableAnchor, Option.bind_eq_bind, Option.bind_eq_some_iff, Prod.exists]
    at recognised
  obtain ⟨type, _, read, after, separated, named⟩ := recognised
  obtain ⟨typed, rfl⟩ := elementaryType?_elementary read
  obtain ⟨gap, nonempty, blank, rfl, -⟩ := blanks?_eq_some.mp separated
  split at named
  · next keyword name remaining found =>
    cases named
    obtain ⟨listed, _, ⟨visible, shown, ending, last, rfl⟩, rfl⟩ :=
      (visibleName?_eq_some (by decide)).mp found
    exact ⟨_, mem_variableTexts.mpr ⟨gap, ⟨nonempty, blank⟩, visible, ⟨listed, shown⟩, ending, last,
      typed, rfl⟩, by simp⟩
  · obtain ⟨⟨name, remaining⟩, found, same⟩ := Option.bind_eq_some_iff.mp named
    cases same
    obtain ⟨ending, last, rfl⟩ := variableName?_eq_some.mp found
    exact ⟨_, mem_variableTexts.mpr ⟨gap, ⟨nonempty, blank⟩, [], rfl, ending, last, typed, rfl⟩,
      by simp⟩

/-- Reading a state variable consumes something. -/
theorem variableAnchor_consumes : variableAnchor.Consumes := by
  intro text head rest recognised
  obtain ⟨found, formed, split⟩ := variableAnchor_sound recognised
  obtain ⟨gap, ⟨nonempty, -⟩, visible, -, ending, -, -, rfl⟩ := mem_variableTexts.mp formed
  exact ⟨_, by simp [nonempty], split⟩

/-- A type and the white space after it are read, and the rest is left. -/
theorem ElementaryType.read_spaced (type : ElementaryType) {gap rest : List Char}
    (spaced : gap ∈ gapTexts) (stop : Ends isBlank rest) :
    elementaryType? (type.text ++ (gap ++ rest)) = some (type.text, gap ++ rest) ∧
      blanks? (gap ++ rest) = some rest := by
  obtain ⟨nonempty, blank⟩ := spaced
  have digitless : Ends isDecimalDigit (gap ++ rest) := by
    obtain ⟨first, others, rfl⟩ := List.exists_cons_of_ne_nil nonempty
    exact ends_cons (isDecimalDigit_blank (blank first (by simp))) _
  exact ⟨elementaryType?_text type digitless,
    blanks?_eq_some.mpr ⟨gap, nonempty, blank, rfl, stop⟩⟩

/-- A visibility is read as such whenever a name is left for the variable. -/
theorem variableAnchor_visible {head : VariableHead} {keyword : String}
    (visibility : head.visibility = some keyword) {found : List Char}
    (formed : found ∈ variableTexts head) (rest : List Char) :
    variableAnchor.recognise? (found ++ rest) = some (head, rest) := by
  obtain ⟨type, _, name⟩ := head
  cases visibility
  obtain ⟨gap, spaced, visible, ⟨listed, shown⟩, ending, last, ⟨-, elementary, typed⟩, rfl⟩ :=
    mem_variableTexts.mp formed
  obtain rfl : elementary.text = type := typed
  have inked : ∀ keyword ∈ ["external", "public", "internal", "private"],
      isInked keyword.toList = true := by decide
  have stop : Ends isBlank (visible ++ ending ++ rest) := by
    obtain ⟨_, rfl, pad, -, rfl⟩ := shown
    simpa using ends_inked (inked keyword listed) _
  have visibly : visibleName? visibilities (visible ++ ending ++ rest) =
      some ((keyword, name), rest) :=
    (visibleName?_eq_some (by decide)).mpr ⟨listed, _, ⟨visible, shown, ending, last, rfl⟩, rfl⟩
  have whole : elementary.text ++ (gap ++ (visible ++ ending)) ++ rest =
      elementary.text ++ (gap ++ (visible ++ ending ++ rest)) := by simp
  obtain ⟨readType, readGap⟩ := elementary.read_spaced spaced stop
  rw [whole]
  simp only [variableAnchor, readType, readGap, Option.bind_eq_bind, Option.bind_some, visibly]
  rfl

end Reading

section Public

/-- The keyword of accessors is one of the four. -/
theorem keyword?_public (text : List Char) :
    keyword? ["public"] text =
      (keyword? visibilities text).filter fun read => read.1 == "public" := by
  cases found : keyword? ["public"] text with
  | some read =>
      obtain ⟨keyword, rest⟩ := read
      obtain ⟨listed, rfl⟩ := keyword?_some found
      obtain rfl : keyword = "public" := List.mem_singleton.mp listed
      have wide : keyword? visibilities ("public".toList ++ rest) = some ("public", rest) :=
        keyword?_listed (by decide) (by decide) rest
      rw [wide]
      rfl
  | none =>
      have absent := keyword?_eq_none.mp found "public" List.mem_cons_self
      cases wide : keyword? visibilities text with
      | none => rfl
      | some read =>
          obtain ⟨keyword, rest⟩ := read
          have other : keyword ≠ "public" := by
            rintro rfl
            exact absent ⟨rest, (keyword?_some wide).2.symm⟩
          simp [Option.filter, other]

/-- So is the one before their names. -/
theorem visibleName?_public (text : List Char) :
    visibleName? ["public"] text =
      (visibleName? visibilities text).filter fun read => read.1.1 == "public" := by
  unfold visibleName?
  rw [keyword?_public]
  cases keyword? visibilities text with
  | none => rfl
  | some read =>
      obtain ⟨keyword, rest⟩ := read
      cases named : variableName? (skipBlanks rest) <;>
        by_cases isPublic : keyword = "public" <;> simp [Option.filter, isPublic, named]

/-- The scan for public variables looks for those variables that are read with that keyword. -/
theorem publicVariableAnchor_narrows :
    publicVariableAnchor.Narrows variableAnchor fun head => head.visibility == some "public" := by
  refine ⟨rfl, fun text => ?_⟩
  simp only [publicVariableAnchor, variableAnchor]
  cases elementaryType? text with
  | none => rfl
  | some read =>
      obtain ⟨type, rest⟩ := read
      simp only [Option.bind_eq_bind, Option.bind_some]
      cases blanks? rest with
      | none => rfl
      | some after =>
          simp only [Option.bind_some, visibleName?_public]
          cases visible : visibleName? visibilities after with
          | none =>
              cases variableName? after with
              | none => rfl
              | some named => rfl
          | some named =>
              obtain ⟨⟨keyword, name⟩, remaining⟩ := named
              by_cases isPublic : keyword = "public" <;> simp [Option.filter, isPublic]

end Public

section Isolation

/-- A run is passed by a part that ends in it or before, if another class follows. -/
theorem run_passed {isMember : Char → Bool} {run after front back : List Char}
    (members : ∀ character ∈ run, isMember character = true)
    (other : ∃ first others, back = first :: others ∧ isMember first = false)
    (same : run ++ after = front ++ back) : ∃ more, front = run ++ more ∧ after = more ++ back := by
  rcases List.append_eq_append_iff.mp same with ⟨more, longer, later⟩ | ⟨more, longer, later⟩
  · exact ⟨more, longer, later⟩
  · obtain ⟨first, others, rfl, notMember⟩ := other
    cases more with
    | nil => exact ⟨[], by simp [longer], by simpa using later.symm⟩
    | cons head tail =>
        obtain ⟨rfl, -⟩ := List.cons.inj later
        have member := members first (by simp [longer])
        rw [notMember] at member
        cases member

/-- A word is passed by a part of the text that has started on it and does not end in a word. -/
theorem word_passed {word after front back : List Char}
    (members : ∀ character ∈ word, isWordCharacter character = true) (nonempty : front ≠ [])
    (idle : Ends isWordCharacter front.reverse) (same : word ++ after = front ++ back) :
    ∃ more, front = word ++ more ∧ after = more ++ back := by
  rcases List.append_eq_append_iff.mp same with ⟨more, longer, later⟩ | ⟨more, longer, later⟩
  · exact ⟨more, longer, later⟩
  · rcases List.eq_nil_or_concat front with rfl | ⟨start, last, rfl⟩
    · exact absurd rfl nonempty
    · have noWord : isWordCharacter last = false := idle last (by simp)
      have word := members last (by simp [longer])
      rw [noWord] at word
      cases word

/-- A text ends as its last part does. -/
theorem ends_reverse_later {isMember : Char → Bool} {front more : List Char}
    (ends : Ends isMember (front ++ more).reverse) : Ends isMember more.reverse := by
  rcases List.eq_nil_or_concat more with rfl | ⟨start, last, rfl⟩
  · exact ends_nil
  · intro character first
    exact ends character (by simpa using first)

/-- The characters that neither part nor end a declaration. -/
def isUnbroken (character : Char) : Bool := !isBlank character && character != ';'

/-- A word character breaks nothing. -/
theorem isUnbroken_word {character : Char} (word : isWordCharacter character = true) :
    isUnbroken character = true := by
  have noEnd : character ≠ ';' := by
    rintro rfl
    exact absurd word (by decide)
  simp [isUnbroken, isBlank_word word, noEnd]

/-- A blank ends an unbroken run. -/
theorem ends_unbroken_blank {blanks : List Char} (blank : blanks ∈ blankTexts)
    (nonempty : blanks ≠ []) (rest : List Char) : Ends isUnbroken (blanks ++ rest) := by
  obtain ⟨first, others, rfl⟩ := List.exists_cons_of_ne_nil nonempty
  exact ends_cons (by simp [isUnbroken, blank first (by simp)]) _

/-- So does a semicolon after blanks. -/
theorem ends_unbroken_pad {pad : List Char} (padded : pad ∈ blankTexts) (rest : List Char) :
    Ends isUnbroken (pad ++ ';' :: rest) := by
  by_cases empty : pad = []
  · rw [empty]
    exact ends_cons (by decide) rest
  · exact ends_unbroken_blank padded empty _

/-- The letters with which types start. -/
def typeInitials : List Char := ['u', 'i', 'b', 'a', 's']

/-- A text that starts with a member has a first character. -/
theorem exists_start {text : List Char} {isMember : Char → Bool}
    (starts : text.head?.any isMember = true) :
    ∃ first, isMember first = true ∧ ∃ others, text = first :: others := by
  cases text with
  | nil => cases starts
  | cons first others => exact ⟨first, starts, others, rfl⟩

/-- The name of a type starts with one of few letters. -/
theorem ElementaryType.starts (type : ElementaryType) :
    ∃ first ∈ typeInitials, ∃ others, type.text = first :: others := by
  have starting : ∀ name ∈ ["uint", "int", "bytes"] ++ ["bool", "address", "string"],
      name.toList.head?.any (fun first => decide (first ∈ typeInitials)) = true := by decide
  cases type with
  | sized name listed digits members =>
      obtain ⟨first, initial, others, split⟩ :=
        exists_start (starting name (List.mem_append_left _ listed))
      exact ⟨first, of_decide_eq_true initial, others ++ digits, by simp [text, split]⟩
  | plain name listed =>
      obtain ⟨first, initial, others, split⟩ :=
        exists_start (starting name (List.mem_append_right _ listed))
      exact ⟨first, of_decide_eq_true initial, others, by simp [text, split]⟩

/-- The name of a type is an unbroken run. -/
theorem ElementaryType.isUnbroken (type : ElementaryType) :
    ∀ character ∈ type.text, isUnbroken character = true := by
  have letters : ∀ name ∈ ["uint", "int", "bytes"] ++ ["bool", "address", "string"],
      ∀ character ∈ name.toList, Source.isUnbroken character = true := by decide
  have noDigit : isDecimalDigit ';' = false := by decide
  cases type with
  | sized name listed digits members =>
      intro character inside
      rcases List.mem_append.mp inside with inName | inDigits
      · exact letters name (List.mem_append_left _ listed) character inName
      · have digit := members character inDigits
        have noBlank : isBlank character = false := by
          by_contra blank
          rw [isDecimalDigit_blank (by simpa using blank)] at digit
          cases digit
        have noEnd : character ≠ ';' := by
          rintro rfl
          rw [noDigit] at digit
          cases digit
        simp [Source.isUnbroken, noBlank, noEnd]
  | plain name listed => exact letters name (List.mem_append_right _ listed)

/-- A type, white space and the start of a word begin the text. -/
def OpensVariable (text : List Char) : Prop :=
  ∃ type : ElementaryType, ∃ gap ∈ gapTexts, ∃ first others, isWordCharacter first = true ∧
    text = type.text ++ (gap ++ first :: others)

/-- What is recognised opens a variable. -/
theorem variableAnchor_opens {text rest : List Char} {head : VariableHead}
    (recognised : variableAnchor.recognise? text = some (head, rest)) : OpensVariable text := by
  obtain ⟨found, formed, rfl⟩ := variableAnchor_sound recognised
  obtain ⟨gap, spaced, visible, shown, ending, named, ⟨-, type, same⟩, rfl⟩ :=
    mem_variableTexts.mp formed
  obtain ⟨⟨nonempty, members⟩, pad, -, rfl⟩ := mem_lastNameTexts.mp named
  have next : ∃ first others, isWordCharacter first = true ∧
      visible ++ (head.name ++ (pad ++ [';'])) ++ rest = first :: others := by
    cases visibility : head.visibility with
    | none =>
        rw [visibility] at shown
        cases shown
        obtain ⟨first, others, shape⟩ := List.exists_cons_of_ne_nil nonempty
        exact ⟨first, others ++ (pad ++ [';']) ++ rest, members first (by simp [shape]),
          by simp [shape]⟩
    | some keyword =>
        rw [visibility] at shown
        obtain ⟨listed, _, rfl, blanks, -, rfl⟩ := shown
        have starting : ∀ keyword ∈ ["external", "public", "internal", "private"],
            keyword.toList.head?.any isWordCharacter = true := by decide +kernel
        obtain ⟨first, word, others, split⟩ := exists_start (starting keyword listed)
        exact ⟨first, others ++ (blanks ++ (head.name ++ (pad ++ ';' :: rest))), word,
          by simp [split]⟩
  obtain ⟨first, others, word, split⟩ := next
  refine ⟨type, gap, spaced, first, others, word, ?_⟩
  rw [same, ← split]
  simp

/-- What opens a variable starts with a letter of a type. -/
theorem OpensVariable.initial {back rest : List Char} (opens : OpensVariable (back ++ rest))
    (nonempty : back ≠ []) : ∃ first ∈ typeInitials, ∃ others, back = first :: others := by
  obtain ⟨type, gap, -, next, later, -, whole⟩ := opens
  obtain ⟨first, initial, others, shape⟩ := type.starts
  obtain ⟨head, tail, rfl⟩ := List.exists_cons_of_ne_nil nonempty
  rw [shape] at whole
  obtain ⟨rfl, -⟩ := List.cons.inj whole
  exact ⟨head, initial, tail, rfl⟩

/-- A letter of a type ends a run that has none of them. -/
theorem initial_other {back : List Char} {isMember : Char → Bool}
    (other : ∀ first ∈ typeInitials, isMember first = false)
    (starts : ∃ first ∈ typeInitials, ∃ others, back = first :: others) :
    ∃ first others, back = first :: others ∧ isMember first = false := by
  obtain ⟨first, initial, others, rfl⟩ := starts
  exact ⟨first, others, rfl, other first initial⟩

/-- No variable starts at or behind the last word of another: a further word would have to
follow before the end. -/
theorem not_opensVariable_lastName {name pad front back rest : List Char}
    (word : name ≠ [] ∧ ∀ character ∈ name, isWordCharacter character = true)
    (padded : pad ∈ blankTexts) (idle : Ends isWordCharacter front.reverse) (nonempty : back ≠ [])
    (same : name ++ (pad ++ [';']) = front ++ back) : ¬ OpensVariable (back ++ rest) := by
  intro opens
  have starts := opens.initial nonempty
  by_cases atStart : front = []
  · obtain ⟨type, gap, ⟨someGap, blank⟩, first, others, wordFirst, whole⟩ := opens
    have both : name ++ (pad ++ ';' :: rest) = type.text ++ (gap ++ first :: others) := by
      rw [← whole, ← List.nil_append back, ← atStart, ← same]
      simp
    obtain ⟨-, later⟩ := run_unique
      (fun character inside => isUnbroken_word (word.2 character inside))
      (ends_unbroken_pad padded rest) type.isUnbroken (ends_unbroken_blank blank someGap _) both
    obtain ⟨-, next⟩ := run_unique padded (ends_cons (by decide) rest) blank
      (ends_cons (isBlank_word wordFirst) others) later
    obtain ⟨rfl, -⟩ := List.cons.inj next
    exact absurd wordFirst (by decide)
  · obtain ⟨more, rfl, later⟩ := word_passed word.2 atStart idle same
    obtain ⟨further, rfl, last⟩ := run_passed padded (initial_other (by decide) starts) later
    obtain ⟨first, initial, others, rfl⟩ := starts
    have inside : first ∈ [';'] := by simp [last]
    rw [List.mem_singleton.mp inside] at initial
    exact absurd initial (by decide)

/-- A type is passed by a part that has started on it and stands before another type. -/
theorem ElementaryType.passed (type : ElementaryType) {after front back : List Char}
    (nonempty : front ≠ []) (idle : Ends isWordCharacter front.reverse)
    (starts : ∃ first ∈ typeInitials, ∃ others, back = first :: others)
    (same : type.text ++ after = front ++ back) :
    ∃ more, front = type.text ++ more ∧ after = more ++ back := by
  have letters : ∀ name ∈ ["uint", "int", "bytes"] ++ ["bool", "address", "string"],
      ∀ character ∈ name.toList, isWordCharacter character = true := by decide
  cases type with
  | sized name listed digits members =>
      rw [text, List.append_assoc] at same
      obtain ⟨more, rfl, later⟩ := word_passed (letters name (List.mem_append_left _ listed))
        nonempty idle same
      obtain ⟨further, rfl, last⟩ := run_passed members (initial_other (by decide) starts) later
      exact ⟨further, by rw [text, List.append_assoc], last⟩
  | plain name listed =>
      exact word_passed (letters name (List.mem_append_right _ listed)) nonempty idle same

/-- No type is spelled like a visibility. -/
theorem ElementaryType.text_ne_visibility (type : ElementaryType) {keyword : String}
    (listed : keyword ∈ ["external", "public", "internal", "private"]) :
    type.text ≠ keyword.toList := by
  have other : ∀ keyword ∈ ["external", "public", "internal", "private"],
      elementaryType? keyword.toList ≠ some (keyword.toList, []) := by decide
  intro same
  have read := elementaryType?_text type ends_nil
  rw [List.append_nil, same] at read
  exact other keyword listed read

/-- No variable starts at or behind the visibility of another. -/
theorem not_opensVariable_visible {visibility : Option String} {visible name ending : List Char}
    (shown : visible ∈ visibilityTexts visibility) (named : ending ∈ lastNameTexts name)
    {front back rest : List Char} (idle : Ends isWordCharacter front.reverse) (nonempty : back ≠ [])
    (same : visible ++ ending = front ++ back) : ¬ OpensVariable (back ++ rest) := by
  obtain ⟨word, pad, padded, rfl⟩ := mem_lastNameTexts.mp named
  cases visibility with
  | none =>
      cases shown
      exact not_opensVariable_lastName word padded idle nonempty same
  | some keyword =>
      have letters : ∀ keyword ∈ ["external", "public", "internal", "private"],
          ∀ character ∈ keyword.toList, isWordCharacter character = true := by decide
      obtain ⟨listed, _, rfl, blanks, blank, rfl⟩ := shown
      have keywordWord := letters keyword listed
      rw [List.append_assoc] at same
      by_cases joined : blanks = []
      · subst joined
        have both : ∀ character ∈ keyword.toList ++ name, isWordCharacter character = true := by
          intro character inside
          rcases List.mem_append.mp inside with inKeyword | inName
          · exact keywordWord character inKeyword
          · exact word.2 character inName
        exact not_opensVariable_lastName ⟨by simp [word.1], both⟩ padded idle nonempty
          (by simpa using same)
      · intro opens
        by_cases atStart : front = []
        · obtain ⟨type, gap, ⟨someGap, gapBlank⟩, first, others, -, whole⟩ := opens
          have both : keyword.toList ++ (blanks ++ (name ++ (pad ++ ';' :: rest))) =
              type.text ++ (gap ++ first :: others) := by
            rw [← whole, ← List.nil_append back, ← atStart, ← same]
            simp
          obtain ⟨spelled, -⟩ := run_unique
            (fun character inside => isUnbroken_word (keywordWord character inside))
            (ends_unbroken_blank blank joined _) type.isUnbroken
            (ends_unbroken_blank gapBlank someGap _) both
          exact type.text_ne_visibility listed spelled.symm
        · obtain ⟨more, rfl, later⟩ := word_passed keywordWord atStart idle same
          obtain ⟨further, rfl, last⟩ := run_passed blank
            (initial_other (by decide) (opens.initial nonempty)) later
          have ended := ends_reverse_later (ends_reverse_later idle)
          exact not_opensVariable_lastName word padded ended nonempty last opens

/-- A text ends no word where none is under way after it. -/
theorem ends_reverse_wordAfter {afterWord : Bool} {front : List Char} (nonempty : front ≠ [])
    (idle : wordAfter afterWord front = false) : Ends isWordCharacter front.reverse := by
  rcases List.eq_nil_or_concat front with rfl | ⟨start, last, rfl⟩
  · exact absurd rfl nonempty
  · rw [List.concat_eq_append, wordAfter_append, wordAfter_cons, wordAfter_nil] at idle
    rw [List.concat_eq_append, List.reverse_append]
    exact ends_cons idle _

/-- No variable starts inside another. -/
theorem variableAnchor_isolated : variableAnchor.Isolated := by
  intro afterWord front back rest head someFront someBack recognised
  by_contra found
  obtain ⟨⟨inner, remaining⟩, attempted⟩ := Option.ne_none_iff_exists'.mp found
  have idle : wordAfter afterWord front = false := by
    by_contra underWay
    rw [Bool.not_eq_false] at underWay
    simp [Anchor.attempt?, variableAnchor, underWay] at attempted
  have opens := variableAnchor_opens (Anchor.attempt?_recognised attempted)
  obtain ⟨whole, formed, split⟩ := variableAnchor_sound (Anchor.attempt?_recognised recognised)
  obtain rfl := List.append_cancel_right split
  obtain ⟨gap, ⟨someGap, blank⟩, visible, shown, ending, named, ⟨-, type, same⟩, shape⟩ :=
    mem_variableTexts.mp formed
  rw [← same] at shape
  have ends := ends_reverse_wordAfter someFront idle
  obtain ⟨more, rfl, later⟩ := type.passed someFront ends (opens.initial someBack) shape.symm
  obtain ⟨further, rfl, last⟩ := run_passed blank
    (initial_other (by decide) (opens.initial someBack)) later
  exact not_opensVariable_visible shown named (ends_reverse_later (ends_reverse_later ends))
    someBack last opens

end Isolation

/-- The keyword counts as read exactly where what is covered has the form with that keyword. -/
theorem visibility_iff_form {text : List Char} {span : Span VariableHead}
    (listed : span ∈ variableAnchor.spans text) (keyword : String) :
    span.value.visibility = some keyword ↔ text.extract span.start span.stop ∈
      variableTexts ⟨span.value.type, some keyword, span.value.name⟩ := by
  obtain ⟨rest, recognised⟩ := Anchor.spans_cut variableAnchor_consumes listed
  constructor
  · intro visibility
    obtain ⟨found, formed, same⟩ := variableAnchor_sound recognised
    rw [List.append_cancel_right same, ← visibility]
    exact formed
  · intro formed
    have visibly := variableAnchor_visible rfl formed rest
    rw [recognised] at visibly
    exact congrArg (fun read => read.1.visibility) (Option.some.inj visibly)

/-- The public variables are those of all variables that are read with that keyword. -/
theorem publicVariableAnchor_spans (text : List Char) :
    publicVariableAnchor.spans text =
      (variableAnchor.spans text).filter fun span => span.value.visibility == some "public" :=
  publicVariableAnchor_narrows.spans variableAnchor_isolated variableAnchor_consumes text

end SolidityAudit.Source
