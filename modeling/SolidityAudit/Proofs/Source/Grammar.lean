import Mathlib.Computability.Language
import SolidityAudit.Proofs.Source.Lexemes
import SolidityAudit.Proofs.Source.Scan

namespace SolidityAudit.Source

open Text

/-- White space, possibly none. -/
def blankTexts : Language Char := {text | ∀ character ∈ text, isBlank character = true}

/-- White space, at least one character. -/
def gapTexts : Language Char := {text | text ≠ [] ∧ ∀ character ∈ text, isBlank character = true}

instance (text : List Char) : Decidable (text ∈ blankTexts) :=
  inferInstanceAs (Decidable (∀ character ∈ text, isBlank character = true))

instance (text : List Char) : Decidable (text ∈ gapTexts) :=
  inferInstanceAs (Decidable (text ≠ [] ∧ ∀ character ∈ text, isBlank character = true))

/-- The language of one literal. -/
def literalTexts (literal : String) : Language Char := {literal.toList}

/-- The language of some keywords. -/
def keywordTexts (keywords : List String) : Language Char :=
  {text | ∃ keyword ∈ keywords, text = keyword.toList}

/-- The word with the given characters. -/
def wordTexts (word : List Char) : Language Char :=
  {text | text = word ∧ word ≠ [] ∧ ∀ character ∈ word, isWordCharacter character = true}

/-- A list in parentheses with the given text between them. -/
def listTexts (items : List Char) : Language Char :=
  {text | text = '(' :: (items ++ [')']) ∧ ')' ∉ items}

/-- A path between quotes, which need not be alike. -/
def quotedTexts (path : List Char) : Language Char :=
  {text | ∃ opening closing, text = opening :: (path ++ [closing]) ∧
    isQuote opening = true ∧ isQuote closing = true ∧
      path ≠ [] ∧ ∀ character ∈ path, isQuote character = false}

/-- A keyword, a name and a list of parameters. -/
def namedListTexts (keyword : String) (name items : List Char) : Language Char :=
  literalTexts keyword * gapTexts * wordTexts name * blankTexts * listTexts items

/-- What may be said about results. -/
def resultTexts : Option (List Char) → Language Char
  | none => 1
  | some items => literalTexts "returns" * blankTexts * listTexts items

/-- What may stand between the parameters of a function and its body. -/
def attributeTexts (results : Option (List Char)) : Language Char :=
  blankTexts * (1 + keywordTexts ["external", "public", "internal", "private"]) * blankTexts *
    (1 + keywordTexts ["view", "pure", "payable"]) * blankTexts * resultTexts results

/-- The texts of the head of a function. -/
def functionTexts (head : FunctionHead) : Language Char :=
  namedListTexts "function" head.name head.parameters * attributeTexts head.results * blankTexts *
    literalTexts "\x7b"

/-- The texts of the head of a modifier. -/
def modifierTexts (name : List Char) : Language Char :=
  {text | ∃ items, text ∈ namedListTexts "modifier" name items * blankTexts * literalTexts "\x7b"}

/-- The texts of an event. -/
def eventTexts (head : List Char × List Char) : Language Char :=
  namedListTexts "event" head.1 head.2

/-- The texts of an import. -/
def importTexts (path : List Char) : Language Char :=
  literalTexts "import" * gapTexts * quotedTexts path

/-- The start of a named list, up to its opening parenthesis. -/
structure IsLead (keyword : String) (name lead : List Char) : Prop where
  split : ∃ gap pad, lead = keyword.toList ++ (gap ++ (name ++ pad)) ∧ gap ∈ gapTexts ∧
    pad ∈ blankTexts
  word : name ≠ [] ∧ ∀ character ∈ name, isWordCharacter character = true

/-- A named list is a lead and items in parentheses. -/
theorem mem_namedListTexts {keyword : String} {name items text : List Char} :
    text ∈ namedListTexts keyword name items ↔
      ∃ lead, IsLead keyword name lead ∧ ')' ∉ items ∧ text = lead ++ '(' :: (items ++ [')']) := by
  simp only [namedListTexts, Language.mem_mul]
  constructor
  · rintro ⟨_, ⟨_, ⟨_, ⟨_, rfl, gap, spaced, rfl⟩, name, ⟨rfl, word⟩, rfl⟩, pad, padded, rfl⟩, _,
      ⟨rfl, closed⟩, rfl⟩
    exact ⟨_, ⟨⟨gap, pad, rfl, spaced, padded⟩, word⟩, closed, by simp⟩
  · rintro ⟨lead, ⟨⟨gap, pad, rfl, spaced, padded⟩, word⟩, closed, rfl⟩
    exact ⟨_, ⟨_, ⟨_, ⟨_, rfl, gap, spaced, rfl⟩, name, ⟨rfl, word⟩, rfl⟩, pad, padded, rfl⟩, _,
      ⟨rfl, closed⟩, by simp⟩

/-- A named list is read exactly where one is written. -/
theorem namedList?_eq_some {keyword : String} {text name items rest : List Char} :
    namedList? keyword text = some ((name, items), rest) ↔
      ∃ lead, IsLead keyword name lead ∧ ')' ∉ items ∧
        text = lead ++ '(' :: (items ++ ')' :: rest) := by
  constructor
  · intro found
    simp only [namedList?, Option.bind_eq_bind, Option.bind_eq_some_iff, Option.pure_def,
      Option.some.injEq, Prod.mk.injEq, Prod.exists] at found
    obtain ⟨first, started, second, spaced, word, third, named, inner, last, closed, ⟨rfl, rfl⟩,
      rfl⟩ := found
    obtain ⟨gap, nonempty, blank, rfl, -⟩ := blanks?_eq_some.mp spaced
    obtain ⟨someWord, every, rfl, -⟩ := word?_eq_some.mp named
    obtain ⟨pad, padded, split⟩ := skipBlanks_split third
    obtain ⟨shut, opened⟩ := parenthesised?_eq_some.mp closed
    rw [opened] at split
    subst split
    rw [literal?_eq_some.mp started]
    exact ⟨_, ⟨⟨gap, pad, rfl, ⟨nonempty, blank⟩, padded⟩, someWord, every⟩, shut, by simp⟩
  · rintro ⟨lead, ⟨⟨gap, pad, rfl, ⟨nonempty, blank⟩, padded⟩, someWord, every⟩, closed, rfl⟩
    have afterGap : Ends isBlank (name ++ (pad ++ '(' :: (items ++ ')' :: rest))) := by
      obtain ⟨first, others, rfl⟩ := List.exists_cons_of_ne_nil someWord
      exact ends_cons (isBlank_word (every first (by simp))) _
    have afterWord : Ends isWordCharacter (pad ++ '(' :: (items ++ ')' :: rest)) := by
      cases pad with
      | nil => exact ends_cons (by decide) _
      | cons first others => exact ends_cons (isWordCharacter_blank (padded first (by simp))) _
    have afterPad : skipBlanks (pad ++ '(' :: (items ++ ')' :: rest)) =
        '(' :: (items ++ ')' :: rest) := by
      rw [skipBlanks_append padded]
      exact skipBlanks_ended (ends_cons (by decide) _)
    simp only [List.append_assoc, namedList?, literal?_append, Option.bind_eq_bind,
      Option.bind_some, blanks?_eq_some.mpr ⟨gap, nonempty, blank, rfl, afterGap⟩,
      word?_eq_some.mpr ⟨someWord, every, rfl, afterWord⟩, afterPad,
      parenthesised?_eq_some.mpr ⟨closed, rfl⟩, Option.pure_def]

/-- What is read after the parameters of a function: its results, and the text that is left. -/
def attributesOf (text : List Char) : Option (List Char) × List Char :=
  let rest := skipBlanks (skipKeyword visibilities (skipBlanks text))
  let rest := skipBlanks (skipKeyword mutabilities rest)
  match results? rest with
  | some (results, rest) => (some results, rest)
  | none => (none, rest)

/-- Everything after the parameters of a function depends on the text after them alone. -/
theorem functionHead?_eq (text : List Char) :
    functionHead? text = (namedList? "function" text).map fun ((name, parameters), rest) =>
      (⟨name, parameters, (attributesOf rest).1⟩, (attributesOf rest).2) := by
  unfold functionHead?
  cases namedList? "function" text with
  | none => rfl
  | some read =>
      obtain ⟨⟨name, parameters⟩, rest⟩ := read
      simp only [Option.bind_eq_bind, Option.bind_some, Option.map_some, attributesOf]
      cases results? (skipBlanks (skipKeyword mutabilities (skipBlanks
          (skipKeyword visibilities (skipBlanks rest))))) with
      | none => rfl
      | some read => rfl

/-- Results are read exactly where they are written. -/
theorem results?_eq_some {text items rest : List Char} :
    results? text = some (items, rest) ↔
      ∃ found ∈ resultTexts (some items), text = found ++ rest := by
  simp only [results?, Option.bind_eq_bind, Option.bind_eq_some_iff, resultTexts,
    Language.mem_mul]
  constructor
  · rintro ⟨after, started, closed⟩
    obtain ⟨pad, padded, split⟩ := skipBlanks_split after
    obtain ⟨shut, opened⟩ := parenthesised?_eq_some.mp closed
    rw [opened] at split
    refine ⟨_, ⟨_, ⟨_, rfl, pad, padded, rfl⟩, _, ⟨rfl, shut⟩, rfl⟩, ?_⟩
    rw [literal?_eq_some.mp started, split]
    simp
  · rintro ⟨_, ⟨_, ⟨_, rfl, pad, padded, rfl⟩, _, ⟨rfl, shut⟩, rfl⟩, rfl⟩
    refine ⟨pad ++ '(' :: (items ++ ')' :: rest), literal?_eq_some.mpr (by simp), ?_⟩
    rw [skipBlanks_append padded, skipBlanks_ended (ends_cons (by decide) _)]
    exact parenthesised?_eq_some.mpr ⟨shut, rfl⟩

/-- A keyword is skipped, or nothing is. -/
theorem optionalKeyword_split (keywords : List String) (text : List Char) :
    ∃ word ∈ 1 + keywordTexts keywords, text = word ++ skipKeyword keywords text := by
  rcases skipKeyword_split keywords text with same | ⟨keyword, listed, split⟩
  · exact ⟨[], .inl rfl, same⟩
  · exact ⟨keyword.toList, .inr ⟨keyword, listed, rfl⟩, split⟩

/-- What is read as attributes has their form. -/
theorem attributesOf_split (text : List Char) :
    ∃ found ∈ attributeTexts (attributesOf text).1, text = found ++ (attributesOf text).2 := by
  obtain ⟨first, firstBlank, firstSplit⟩ := skipBlanks_split text
  obtain ⟨visibility, visible, visibilitySplit⟩ :=
    optionalKeyword_split visibilities (skipBlanks text)
  obtain ⟨second, secondBlank, secondSplit⟩ :=
    skipBlanks_split (skipKeyword visibilities (skipBlanks text))
  obtain ⟨mutability, mutable, mutabilitySplit⟩ := optionalKeyword_split mutabilities
    (skipBlanks (skipKeyword visibilities (skipBlanks text)))
  obtain ⟨third, thirdBlank, thirdSplit⟩ := skipBlanks_split (skipKeyword mutabilities
    (skipBlanks (skipKeyword visibilities (skipBlanks text))))
  obtain ⟨results, resulting, resultsSplit⟩ : ∃ results ∈ resultTexts (attributesOf text).1,
      skipBlanks (skipKeyword mutabilities
        (skipBlanks (skipKeyword visibilities (skipBlanks text)))) =
          results ++ (attributesOf text).2 := by
    unfold attributesOf
    simp only
    split
    · next found => exact results?_eq_some.mp found
    · exact ⟨[], rfl, rfl⟩
  refine ⟨_, Language.append_mem_mul (Language.append_mem_mul (Language.append_mem_mul
    (Language.append_mem_mul (Language.append_mem_mul firstBlank visible) secondBlank) mutable)
      thirdBlank) resulting, ?_⟩
  simp only [List.append_assoc]
  rw [← resultsSplit, ← thirdSplit, ← mutabilitySplit, ← secondSplit, ← visibilitySplit,
    ← firstSplit]

/-- What is said about results, if anything, starts apart from every other attribute. -/
theorem results_start {results : Option (List Char)} {found pad : List Char}
    (resulting : found ∈ resultTexts results) (padded : pad ∈ blankTexts) (rest : List Char) :
    (∃ more, skipBlanks (found ++ (pad ++ '\x7b' :: rest)) = "returns".toList ++ more) ∨
      skipBlanks (found ++ (pad ++ '\x7b' :: rest)) = ['\x7b'] ++ rest := by
  cases results with
  | none =>
      cases resulting
      right
      rw [List.nil_append, skipBlanks_append padded]
      exact skipBlanks_ended (ends_cons (by decide) rest)
  | some items =>
      obtain ⟨_, ⟨_, rfl, _, -, rfl⟩, _, -, rfl⟩ := resulting
      left
      simp only [List.append_assoc]
      exact ⟨_, skipBlanks_inked rfl _⟩

/-- Attributes before a body are read as such, and the body is left. -/
theorem attributesOf_read {results : Option (List Char)} {found pad : List Char}
    (attributes : found ∈ attributeTexts results) (padded : pad ∈ blankTexts)
    (rest : List Char) :
    ∃ left, attributesOf (found ++ (pad ++ '\x7b' :: rest)) = (results, left) ∧
      skipBlanks left = '\x7b' :: rest := by
  obtain ⟨_, ⟨_, ⟨_, ⟨_, ⟨first, firstBlank, visibility, visible, rfl⟩, second, secondBlank, rfl⟩,
    mutability, mutable, rfl⟩, third, thirdBlank, rfl⟩, said, resulting, rfl⟩ := attributes
  have start := results_start resulting padded rest
  have noMutability : keyword? mutabilities (skipBlanks (said ++ (pad ++ '\x7b' :: rest))) =
      none := by
    rcases start with ⟨more, starts⟩ | starts
    · rw [starts]
      exact keyword?_apart (by decide) more
    · rw [starts]
      exact keyword?_apart (by decide) rest
  have noVisibility : keyword? visibilities (skipBlanks (mutability ++ (third ++ (said ++
      (pad ++ '\x7b' :: rest))))) = none := by
    rcases mutable with rfl | ⟨keyword, listed, rfl⟩
    · rw [List.nil_append, skipBlanks_append thirdBlank]
      rcases start with ⟨more, starts⟩ | starts
      · rw [starts]
        exact keyword?_apart (by decide) more
      · rw [starts]
        exact keyword?_apart (by decide) rest
    · have told : ∀ keyword ∈ mutabilities, isInked keyword.toList = true ∧
          ∀ other ∈ visibilities, Apart other.toList keyword.toList := by decide
      obtain ⟨inked, apart⟩ := told keyword listed
      rw [skipBlanks_inked inked]
      exact keyword?_apart apart _
  have visible : visibility = [] ∨ ∃ keyword ∈ visibilities, visibility = keyword.toList := visible
  have mutable : mutability = [] ∨ ∃ keyword ∈ mutabilities, mutability = keyword.toList := mutable
  have passedVisibility := skipKeyword_passed (by decide) (by decide) firstBlank visible
    secondBlank noVisibility
  have nothing : ∀ character ∈ ([] : List Char), isBlank character = true := by simp
  have passedMutability := skipKeyword_passed (by decide) (by decide) nothing mutable
    thirdBlank noMutability
  simp only [List.append_assoc]
  unfold attributesOf
  simp only
  rw [passedVisibility]
  rw [List.nil_append] at passedMutability
  rw [passedMutability]
  cases results with
  | none =>
      cases resulting
      rw [List.nil_append, skipBlanks_append padded, skipBlanks_ended (ends_cons (by decide) rest)]
      exact ⟨_, rfl, skipBlanks_ended (ends_cons (by decide) rest)⟩
  | some items =>
      have inked : skipBlanks (said ++ (pad ++ '\x7b' :: rest)) =
          said ++ (pad ++ '\x7b' :: rest) := by
        obtain ⟨_, ⟨_, rfl, _, -, rfl⟩, _, -, rfl⟩ := resulting
        simp only [List.append_assoc]
        exact skipBlanks_inked rfl _
      rw [inked, results?_eq_some.mpr ⟨said, resulting, rfl⟩]
      refine ⟨_, rfl, ?_⟩
      rw [skipBlanks_append padded]
      exact skipBlanks_ended (ends_cons (by decide) rest)

/-- An anchor reads the texts of a language, each with its value, and leaves what follows. -/
def Anchor.Reads {α : Type} (anchor : Anchor α) (texts : α → Language Char) : Prop :=
  ∀ {text value rest}, anchor.recognise? text = some (value, rest) ↔
    ∃ found ∈ texts value, text = found ++ rest

/-- An opening brace is read as it stands. -/
theorem literal?_brace {text rest : List Char} :
    literal? ['\x7b'] text = some rest ↔ text = '\x7b' :: rest := literal?_eq_some

/-- The parts of the head of a function. -/
theorem mem_functionTexts {head : FunctionHead} {text : List Char} :
    text ∈ functionTexts head ↔
      ∃ lead attributes pad, IsLead "function" head.name lead ∧ ')' ∉ head.parameters ∧
        attributes ∈ attributeTexts head.results ∧ pad ∈ blankTexts ∧
        text = lead ++ '(' :: (head.parameters ++ ')' :: (attributes ++ (pad ++ ['\x7b']))) := by
  constructor
  · rintro ⟨_, ⟨_, ⟨_, named, attributes, attributed, rfl⟩, pad, padded, rfl⟩, _, rfl, rfl⟩
    obtain ⟨lead, leads, closed, rfl⟩ := mem_namedListTexts.mp named
    exact ⟨lead, attributes, pad, leads, closed, attributed, padded, by simp⟩
  · rintro ⟨lead, attributes, pad, leads, closed, attributed, padded, rfl⟩
    exact ⟨_, ⟨_, ⟨_, mem_namedListTexts.mpr ⟨lead, leads, closed, rfl⟩, attributes, attributed,
      rfl⟩, pad, padded, rfl⟩, _, rfl, by simp⟩

/-- A function is a named list, attributes and an opening brace. -/
theorem functionAnchor_eq_some {text rest : List Char} {head : FunctionHead} :
    functionAnchor.recognise? text = some (head, rest) ↔
      ∃ name parameters after, namedList? "function" text = some ((name, parameters), after) ∧
        head = ⟨name, parameters, (attributesOf after).1⟩ ∧
          skipBlanks (attributesOf after).2 = '\x7b' :: rest := by
  simp only [functionAnchor, functionHead?_eq, Option.bind_eq_bind, Option.bind_eq_some_iff,
    Option.map_eq_some_iff, Option.pure_def, Option.some.injEq, Prod.mk.injEq, Prod.exists,
    literal?_brace]
  constructor
  · rintro ⟨_, _, ⟨name, parameters, after, named, rfl, rfl⟩, _, brace, rfl, rfl⟩
    exact ⟨name, parameters, after, named, rfl, brace⟩
  · rintro ⟨name, parameters, after, named, rfl, brace⟩
    exact ⟨_, _, ⟨name, parameters, after, named, rfl, rfl⟩, _, brace, rfl, rfl⟩

/-- The anchor of functions reads their texts. -/
theorem functionAnchor_reads : functionAnchor.Reads functionTexts := by
  intro text head rest
  rw [functionAnchor_eq_some]
  constructor
  · rintro ⟨name, parameters, after, named, rfl, brace⟩
    obtain ⟨lead, leads, closed, rfl⟩ := namedList?_eq_some.mp named
    obtain ⟨attributes, attributed, split⟩ := attributesOf_split after
    obtain ⟨pad, padded, splitRest⟩ := skipBlanks_split (attributesOf after).2
    refine ⟨_, mem_functionTexts.mpr ⟨lead, attributes, pad, leads, closed, attributed, padded,
      rfl⟩, ?_⟩
    rw [brace] at splitRest
    conv_lhs => rw [split, splitRest]
    simp
  · rintro ⟨found, functional, rfl⟩
    obtain ⟨lead, attributes, pad, leads, closed, attributed, padded, rfl⟩ :=
      mem_functionTexts.mp functional
    obtain ⟨left, read, brace⟩ := attributesOf_read attributed padded rest
    refine ⟨head.name, head.parameters, attributes ++ (pad ++ '\x7b' :: rest),
      namedList?_eq_some.mpr ⟨lead, leads, closed, by simp⟩, ?_, ?_⟩
    · rw [read]
    · rw [read]
      exact brace

/-- The anchor of modifiers reads their texts. -/
theorem modifierAnchor_reads : modifierAnchor.Reads modifierTexts := by
  intro text name rest
  simp only [modifierAnchor, Option.bind_eq_bind, Option.bind_eq_some_iff, Option.pure_def,
    Option.some.injEq, Prod.mk.injEq, Prod.exists, literal?_brace]
  constructor
  · rintro ⟨_, items, after, named, _, brace, rfl, rfl⟩
    obtain ⟨lead, leads, closed, rfl⟩ := namedList?_eq_some.mp named
    obtain ⟨pad, padded, split⟩ := skipBlanks_split after
    refine ⟨_, ⟨items, _, ⟨_, mem_namedListTexts.mpr ⟨lead, leads, closed, rfl⟩, pad, padded, rfl⟩,
      _, rfl, rfl⟩, ?_⟩
    conv_lhs => rw [split, brace]
    simp
  · rintro ⟨_, ⟨items, _, ⟨_, named, pad, padded, rfl⟩, _, rfl, rfl⟩, rfl⟩
    obtain ⟨lead, leads, closed, rfl⟩ := mem_namedListTexts.mp named
    refine ⟨name, items, pad ++ '\x7b' :: rest,
      namedList?_eq_some.mpr ⟨lead, leads, closed, by simp⟩, rest, ?_, rfl, rfl⟩
    rw [skipBlanks_append padded]
    exact skipBlanks_ended (ends_cons (by decide) rest)

/-- The anchor of events reads their texts. -/
theorem eventAnchor_reads : eventAnchor.Reads eventTexts := by
  intro text head rest
  obtain ⟨name, items⟩ := head
  refine namedList?_eq_some.trans ?_
  constructor
  · rintro ⟨lead, leads, closed, rfl⟩
    exact ⟨_, mem_namedListTexts.mpr ⟨lead, leads, closed, rfl⟩, by simp⟩
  · rintro ⟨found, named, rfl⟩
    obtain ⟨lead, leads, closed, rfl⟩ := mem_namedListTexts.mp named
    exact ⟨lead, leads, closed, by simp⟩

/-- The anchor of imports reads their texts. -/
theorem importAnchor_reads : importAnchor.Reads importTexts := by
  intro text path rest
  simp only [importAnchor, Option.bind_eq_bind, Option.bind_eq_some_iff]
  constructor
  · rintro ⟨after, started, later, spaced, quoted⟩
    obtain ⟨gap, nonempty, blank, rfl, -⟩ := blanks?_eq_some.mp spaced
    obtain ⟨somePath, plain, opening, closing, opened, closed, rfl⟩ := quotedPath?_eq_some.mp quoted
    refine ⟨_, ⟨_, ⟨_, rfl, gap, ⟨nonempty, blank⟩, rfl⟩, _,
      ⟨opening, closing, rfl, opened, closed, somePath, plain⟩, rfl⟩, ?_⟩
    rw [literal?_eq_some.mp started]
    simp
  · rintro ⟨_, ⟨_, ⟨_, rfl, gap, ⟨nonempty, blank⟩, rfl⟩, _,
      ⟨opening, closing, rfl, opened, closed, somePath, plain⟩, rfl⟩, rfl⟩
    have quotes : ∀ character, isQuote character = true → isBlank character = false := by
      intro character quote
      simp only [isQuote, Bool.or_eq_true, beq_iff_eq] at quote
      rcases quote with rfl | rfl <;> decide
    refine ⟨gap ++ opening :: (path ++ closing :: rest), literal?_eq_some.mpr (by simp),
      opening :: (path ++ closing :: rest), blanks?_eq_some.mpr ⟨gap, nonempty, blank, rfl,
        ends_cons (quotes opening opened) _⟩, ?_⟩
    exact quotedPath?_eq_some.mpr ⟨somePath, plain, opening, closing, opened, closed, rfl⟩

end SolidityAudit.Source
