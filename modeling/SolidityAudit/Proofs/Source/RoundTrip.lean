import SolidityAudit.Proofs.Source.Printing

namespace SolidityAudit.Source

open Text

/-- Blanks may be missing. -/
theorem nil_mem_blankTexts : [] ∈ blankTexts := fun _ inside => absurd inside List.not_mem_nil

/-- A space is a gap. -/
theorem space_mem_gapTexts : [' '] ∈ gapTexts := ⟨by simp, by decide⟩

theorem space_mem_blankTexts : [' '] ∈ blankTexts := space_mem_gapTexts.2

section Foreign

variable {α : Type} {anchor : Anchor α} {stops : List Char}

/-- A line without the marks that an anchor needs holds nothing for it. -/
theorem Anchor.Stops.yields_line (stopping : anchor.Stops stops) {declaration : Declaration}
    (noImport : declaration.importPath? = none) (delimit : ∀ stop ∈ stops, stop ∈ delimiters)
    (absent : ∀ stop ∈ stops, stop ∉ declaration.marks) : anchor.Yields declaration.line [] :=
  stopping.yields_unstopped declaration.isDelimited_line fun stop listed =>
    Declaration.not_mem_line (delimit stop listed) noImport (absent stop listed)

/-- An import holds nothing for an anchor that needs no quotes: there are no blanks in the
path. -/
theorem Anchor.Stops.yields_import (stopping : anchor.Stops stops) (path : ImportPath)
    (absent : ∀ stop ∈ stops, stop ∉ "import \"".toList) :
    anchor.Yields (Declaration.importing path).line [] := by
  have opening : anchor.Yields "import \"".toList [] :=
    stopping.yields_unstopped ⟨"import ".toList, '"', by decide, by decide⟩ absent
  have quoted : anchor.Yields (path.text ++ "\";".toList) [] := by
    apply stopping.yields_unspaced
    · exact (show IsDelimited "\";".toList from ⟨['"'], ';', by decide, by decide⟩).prepend _
    · have closing : ∀ character ∈ "\";".toList, isBlank character = false := by decide
      intro character inside
      rcases List.mem_append.mp inside with inPath | inClosing
      · exact (path.members character inPath).2
      · exact closing character inClosing
  simpa [Declaration.line, Declaration.pieces] using opening.append quoted

end Foreign

/-- The keyword of a declaration that starts with a named list. -/
def Declaration.keyword? : Declaration → Option String
  | importing _ => none
  | event _ _ => some "event"
  | stateVariable _ _ _ _ => none
  | modifier _ _ => some "modifier"
  | function _ _ _ _ _ => some "function"

/-- An attribute is empty or a keyword after a space. -/
theorem keywordAttribute_mem {keywords : List String}
    (keyword : Option {keyword : String // keyword ∈ keywords}) :
    keywordAttribute keyword ∈ [] :: keywords.map (' ' :: ·.toList) := by
  cases keyword with
  | none => exact List.mem_cons_self
  | some keyword =>
      exact List.mem_cons_of_mem _ (List.mem_map_of_mem keyword.property)

/-- The attributes of a function do not end in a blank. -/
theorem endsBlank_attributes (visibility : Option Visibility) (mutability : Option Mutability) :
    Ends isBlank (keywordAttribute visibility ++ keywordAttribute mutability).reverse := by
  have spelledVisibility : ∀ keyword ∈ ["external", "public", "internal", "private"],
      IsSpelled keyword := by decide
  have spelledMutability : ∀ keyword ∈ ["view", "pure", "payable"], IsSpelled keyword := by decide
  cases mutability with
  | none =>
      cases visibility with
      | none => exact ends_nil
      | some visibility =>
          have spelled := spelledVisibility visibility.val visibility.property
          simpa [keywordAttribute] using endsBlank_reverse spelled.1 spelled.2 [' ']
  | some mutability =>
      have spelled := spelledMutability mutability.val mutability.property
      simpa [keywordAttribute] using endsBlank_reverse spelled.1 spelled.2
        (' ' :: (keywordAttribute visibility).reverse)

section Named

variable {α : Type} {anchor : Anchor α} {keyword : String}
  (named : anchor.StartsNamed keyword) (told : keyword ∈ ["function", "modifier", "event"])

include told

/-- The keyword at hand is spelled in letters. -/
theorem isSpelled_told : IsSpelled keyword := by
  revert keyword
  decide +kernel

/-- No such keyword ends the attributes of a function. -/
theorem not_isSuffix_attributes (visibility : Option Visibility) (mutability : Option Mutability) :
    ¬ keyword.toList <:+ keywordAttribute visibility ++ keywordAttribute mutability := by
  have apart : ∀ keyword ∈ ["function", "modifier", "event"],
      ∀ first ∈ [] :: ["external", "public", "internal", "private"].map (' ' :: ·.toList),
      ∀ second ∈ [] :: ["view", "pure", "payable"].map (' ' :: ·.toList),
        ¬ keyword.toList <:+ first ++ second := by decide
  exact apart keyword told _ (keywordAttribute_mem visibility) _ (keywordAttribute_mem mutability)

include named

/-- The head of another declaration yields nothing. -/
theorem Anchor.StartsNamed.yields_head (own : String) (spelled : IsSpelled own)
    (mismatched : ¬ keyword.toList <:+ own.toList) (name : Word) :
    anchor.Yields (own.toList ++ (' ' :: (name.text ++ ['(']))) [] := by
  have ends : Ends isBlank own.toList.reverse := by
    have reversed := endsBlank_reverse spelled.1 spelled.2 []
    rwa [List.append_nil] at reversed
  have head := named.yields_mismatched (isSpelled_told told) ends (isPlain_word spelled.2)
    space_mem_gapTexts ⟨name.nonempty, name.members⟩ nil_mem_blankTexts mismatched
  simpa using head

/-- Nor does a segment without an opening parenthesis. -/
theorem Anchor.StartsNamed.yields_unopened {segment : List Char} (delimited : IsDelimited segment)
    (unopened : '(' ∉ segment) : anchor.Yields segment [] := by
  have stopping : anchor.Stops ['('] := named.stops (isSpelled_told told)
  apply stopping.yields_unstopped delimited
  intro stop listed
  rwa [List.mem_singleton.mp listed]

/-- After the parameters of a function only its results open a list, which no keyword of a named
list precedes. -/
theorem Anchor.StartsNamed.yields_attributes (visibility : Option Visibility)
    (mutability : Option Mutability) (results : Option ParameterText) :
    anchor.Yields (keywordAttribute visibility ++ (keywordAttribute mutability ++
      (resultsAttribute results ++ " \x7b\x7d".toList))) [] := by
  have opens : '(' ∈ delimiters := by decide
  have noVisibility := (isPlain_visibility visibility).not_mem opens
  have noMutability := (isPlain_mutability mutability).not_mem opens
  have braces : IsDelimited " \x7b\x7d".toList := ⟨" \x7b".toList, '\x7d', by decide, by decide⟩
  cases results with
  | none =>
      apply named.yields_unopened told
      · exact ((braces.prepend _).prepend _).prepend _
      · simp [noVisibility, noMutability, resultsAttribute]
  | some results =>
      have plain := (isPlain_visibility visibility).append (isPlain_mutability mutability)
      have opening := named.yields_mismatched (isSpelled_told told)
        (endsBlank_attributes visibility mutability) plain space_mem_gapTexts
        (show "returns".toList ≠ [] ∧ ∀ character ∈ "returns".toList,
          isWordCharacter character = true by decide) space_mem_blankTexts
        (not_isSuffix_attributes told visibility mutability)
      have closing : anchor.Yields (results.text ++ [')'] ++ " \x7b\x7d".toList) [] := by
        apply named.yields_unopened told (braces.prepend _)
        simp [results.isPlain.not_mem opens]
      have whole := opening.append closing
      have spoken : "returns (".toList = "returns".toList ++ [' ', '('] := by decide
      rw [resultsAttribute, spoken]
      simpa only [List.append_assoc, List.cons_append, List.nil_append] using whole

/-- Nothing of one kind is found in a line of another. -/
theorem Anchor.StartsNamed.yields_line {declaration : Declaration}
    (other : declaration.keyword? ≠ some keyword) : anchor.Yields declaration.line [] := by
  have opens : '(' ∈ delimiters := by decide
  have stopping : anchor.Stops ['('] := named.stops (isSpelled_told told)
  have delimit : ∀ stop ∈ ['('], stop ∈ delimiters := by decide
  have apart : ∀ keyword ∈ ["function", "modifier", "event"],
      ∀ own ∈ ["function", "modifier", "event"], own ≠ keyword →
        ¬ keyword.toList <:+ own.toList := by decide
  cases declaration with
  | importing path => exact stopping.yields_import path (by decide)
  | event name parameters =>
      have head := named.yields_head told "event" (by decide)
        (apart keyword told "event" (by decide) fun same => other (congrArg some same)) name
      have closing : IsDelimited ");".toList := ⟨[')'], ';', by decide, by decide⟩
      have list : anchor.Yields (parameters.text ++ ");".toList) [] := by
        apply named.yields_unopened told (closing.prepend _)
        simp [parameters.isPlain.not_mem opens]
      simpa [Declaration.line, Declaration.pieces] using head.append list
  | stateVariable type visibility name unmistakable =>
      exact stopping.yields_line rfl delimit (by simp [Declaration.marks])
  | modifier name parameters =>
      have head := named.yields_head told "modifier" (by decide)
        (apart keyword told "modifier" (by decide) fun same => other (congrArg some same)) name
      have closing : IsDelimited ") \x7b\x7d".toList :=
        ⟨") \x7b".toList, '\x7d', by decide, by decide⟩
      have list : anchor.Yields (parameters.text ++ ") \x7b\x7d".toList) [] := by
        apply named.yields_unopened told (closing.prepend _)
        simp [parameters.isPlain.not_mem opens]
      simpa [Declaration.line, Declaration.pieces] using head.append list
  | function name parameters visibility mutability results =>
      have head := named.yields_head told "function" (by decide)
        (apart keyword told "function" (by decide) fun same => other (congrArg some same)) name
      have list : anchor.Yields (parameters.text ++ [')']) [] := by
        apply named.yields_unopened told (isDelimited_append _ (by decide))
        simp [parameters.isPlain.not_mem opens]
      have attributes := named.yields_attributes told visibility mutability results
      simpa [Declaration.line, Declaration.pieces] using (head.append list).append attributes

end Named

section Own

/-- A keyword, a space and a name are a lead. -/
theorem Word.isLead (name : Word) (keyword : String) :
    IsLead keyword name.text (keyword.toList ++ ([' '] ++ (name.text ++ []))) :=
  ⟨⟨[' '], [], rfl, space_mem_gapTexts, nil_mem_blankTexts⟩, name.nonempty, name.members⟩

/-- Parameters hold no closing parenthesis. -/
theorem ParameterText.closed (parameters : ParameterText) : ')' ∉ parameters.text :=
  parameters.isPlain.not_mem (by decide)

/-- An import yields its path. -/
theorem importAnchor_yields (path : ImportPath) :
    importAnchor.Yields (Declaration.importing path).line [path.text] := by
  have quoted : importAnchor.Yields ("import".toList ++ [' '] ++ '"' :: (path.text ++ ['"']))
      [path.text] := by
    apply Anchor.yields_recognised
    · simp
    · exact IsDelimited.wordAfter ⟨"import".toList ++ [' '] ++ '"' :: path.text, '"', by decide,
        by simp⟩ false
    · intro rest
      exact importAnchor_reads.mpr ⟨_, ⟨_, ⟨_, rfl, [' '], space_mem_gapTexts, rfl⟩, _,
        ⟨'"', '"', rfl, rfl, rfl, path.nonempty, fun character inside =>
          (path.members character inside).1⟩, rfl⟩, rfl⟩
  have ending : importAnchor.Yields [';'] [] :=
    importAnchor_stops.yields_unstopped ⟨[], ';', by decide, rfl⟩ (by decide)
  simpa [Declaration.line, Declaration.pieces] using quoted.append ending

/-- An event yields its name and parameters. -/
theorem eventAnchor_yields (name : Word) (parameters : ParameterText) :
    eventAnchor.Yields (Declaration.event name parameters).line
      [(name.text, parameters.text)] := by
  have listed : eventAnchor.Yields ("event".toList ++ ([' '] ++ (name.text ++ [])) ++
      '(' :: (parameters.text ++ [')'])) [(name.text, parameters.text)] := by
    apply Anchor.yields_recognised
    · simp
    · exact IsDelimited.wordAfter ⟨"event".toList ++ ([' '] ++ (name.text ++ [])) ++
        '(' :: parameters.text, ')', by decide, by simp⟩ false
    · intro rest
      exact eventAnchor_reads.mpr ⟨_, mem_namedListTexts.mpr ⟨_, name.isLead "event",
        parameters.closed, rfl⟩, rfl⟩
  have stopping : eventAnchor.Stops ['('] := eventAnchor_named.stops (by decide)
  have ending : eventAnchor.Yields [';'] [] :=
    stopping.yields_unstopped ⟨[], ';', by decide, rfl⟩ (by decide)
  simpa [Declaration.line, Declaration.pieces] using listed.append ending

/-- A modifier yields its name. -/
theorem modifierAnchor_yields (name : Word) (parameters : ParameterText) :
    modifierAnchor.Yields (Declaration.modifier name parameters).line [name.text] := by
  have opened : modifierAnchor.Yields ("modifier".toList ++ ([' '] ++ (name.text ++ [])) ++
      '(' :: (parameters.text ++ [')']) ++ [' '] ++ ['\x7b']) [name.text] := by
    apply Anchor.yields_recognised
    · simp
    · exact IsDelimited.wordAfter (isDelimited_append _ (by decide)) false
    · intro rest
      exact modifierAnchor_reads.mpr ⟨_, ⟨parameters.text, _, ⟨_, mem_namedListTexts.mpr ⟨_,
        name.isLead "modifier", parameters.closed, rfl⟩, [' '], space_mem_blankTexts, rfl⟩, _,
        rfl, rfl⟩, rfl⟩
  have stopping : modifierAnchor.Stops ['('] := modifierAnchor_named.stops (by decide)
  have ending : modifierAnchor.Yields ['\x7d'] [] :=
    stopping.yields_unstopped ⟨[], '\x7d', by decide, rfl⟩ (by decide)
  simpa [Declaration.line, Declaration.pieces] using opened.append ending

/-- An attribute is blanks and a keyword that may be missing. -/
theorem keywordAttribute_split {keywords : List String}
    (keyword : Option {keyword : String // keyword ∈ keywords}) :
    ∃ gap ∈ blankTexts, ∃ word ∈ 1 + keywordTexts keywords,
      keywordAttribute keyword = gap ++ word := by
  cases keyword with
  | none => exact ⟨[], nil_mem_blankTexts, [], .inl rfl, rfl⟩
  | some keyword =>
      exact ⟨[' '], space_mem_blankTexts, keyword.val.toList,
        .inr ⟨keyword.val, keyword.property, rfl⟩, rfl⟩

/-- Written results are blanks and results. -/
theorem resultsAttribute_split (results : Option ParameterText) :
    ∃ gap ∈ blankTexts, ∃ said ∈ resultTexts (results.map ParameterText.text),
      resultsAttribute results = gap ++ said := by
  cases results with
  | none => exact ⟨[], nil_mem_blankTexts, [], rfl, rfl⟩
  | some results =>
      refine ⟨[' '], space_mem_blankTexts, _, ⟨_, ⟨_, rfl, [' '], space_mem_blankTexts, rfl⟩, _,
        ⟨rfl, results.closed⟩, rfl⟩, ?_⟩
      simp [resultsAttribute]

/-- A function yields its name, parameters and results. -/
theorem functionAnchor_yields (name : Word) (parameters : ParameterText)
    (visibility : Option Visibility) (mutability : Option Mutability)
    (results : Option ParameterText) :
    functionAnchor.Yields
      (Declaration.function name parameters visibility mutability results).line
      [⟨name.text, parameters.text, results.map ParameterText.text⟩] := by
  obtain ⟨first, firstBlank, visible, isVisible, visibilitySplit⟩ :=
    keywordAttribute_split visibility
  obtain ⟨second, secondBlank, mutable, isMutable, mutabilitySplit⟩ :=
    keywordAttribute_split mutability
  obtain ⟨third, thirdBlank, said, isSaid, resultsSplit⟩ := resultsAttribute_split results
  have attributes : first ++ visible ++ second ++ mutable ++ third ++ said ∈
      attributeTexts (results.map ParameterText.text) :=
    Language.append_mem_mul (Language.append_mem_mul (Language.append_mem_mul
      (Language.append_mem_mul (Language.append_mem_mul firstBlank isVisible) secondBlank)
        isMutable) thirdBlank) isSaid
  have opened : functionAnchor.Yields ("function".toList ++ ([' '] ++ (name.text ++ [])) ++
      '(' :: (parameters.text ++ ')' :: (first ++ visible ++ second ++ mutable ++ third ++ said ++
        ([' '] ++ ['\x7b']))))
      [⟨name.text, parameters.text, results.map ParameterText.text⟩] := by
    apply Anchor.yields_recognised
    · simp
    · exact IsDelimited.wordAfter ⟨"function".toList ++ ([' '] ++ (name.text ++ [])) ++
        '(' :: (parameters.text ++ ')' :: (first ++ visible ++ second ++ mutable ++ third ++
          said ++ [' '])), '\x7b', by decide, by simp⟩ false
    · intro rest
      exact functionAnchor_reads.mpr ⟨_, mem_functionTexts.mpr ⟨_, _, _, name.isLead "function",
        parameters.closed, attributes, space_mem_blankTexts, rfl⟩, rfl⟩
  have stopping : functionAnchor.Stops ['('] := functionAnchor_named.stops (by decide)
  have ending : functionAnchor.Yields ['\x7d'] [] :=
    stopping.yields_unstopped ⟨[], '\x7d', by decide, rfl⟩ (by decide)
  simpa [Declaration.line, Declaration.pieces, visibilitySplit, mutabilitySplit, resultsSplit]
    using opened.append ending

/-- A type is read where no digit follows. -/
theorem elementaryType?_text (type : ElementaryType) {rest : List Char}
    (ends : Ends isDecimalDigit rest) :
    elementaryType? (type.text ++ rest) = some (type.text, rest) := by
  cases type with
  | sized name listed digits members =>
      have found : keyword? sizedTypes (name.toList ++ (digits ++ rest)) =
          some (name, digits ++ rest) := keyword?_listed (by decide) listed _
      obtain ⟨taken, dropped⟩ := run_taken members ends
      rw [elementaryType?, ElementaryType.text, List.append_assoc, found]
      simp only [taken, dropped]
  | plain name listed =>
      have found : keyword? plainTypes (name.toList ++ rest) = some (name, rest) :=
        keyword?_listed (by decide) listed _
      have apart : ∀ name ∈ ["bool", "address", "string"], ∀ other ∈ sizedTypes,
          Apart other.toList name.toList := by decide
      rw [elementaryType?, ElementaryType.text, keyword?_apart (apart name listed) rest, found]
      rfl

/-- A name before a semicolon is read. -/
theorem Word.variableName? (name : Word) (rest : List Char) :
    variableName? (name.text ++ ';' :: rest) = some (name.text, rest) := by
  have read : word? (name.text ++ ';' :: rest) = some (name.text, ';' :: rest) :=
    word?_eq_some.mpr ⟨name.nonempty, name.members, rfl, ends_cons (by decide) rest⟩
  rw [Source.variableName?, read]
  rfl

/-- A word is inked. -/
theorem Word.inked (name : Word) : isInked name.text = true := by
  obtain ⟨first, others, shape⟩ := List.exists_cons_of_ne_nil name.nonempty
  have word := name.members first (by simp [shape])
  simp [shape, isInked, isBlank_word word]

/-- A name is read after its keyword. -/
theorem visibleName?_visible (visibility : Visibility) (name : Word) (rest : List Char) :
    visibleName? visibilities (visibility.val.toList ++ ' ' :: (name.text ++ ';' :: rest)) =
      some ((visibility.val, name.text), rest) := by
  have found : keyword? visibilities
      (visibility.val.toList ++ ' ' :: (name.text ++ ';' :: rest)) =
        some (visibility.val, ' ' :: (name.text ++ ';' :: rest)) :=
    keyword?_listed (by decide) visibility.property _
  have passed : skipBlanks (' ' :: (name.text ++ ';' :: rest)) = name.text ++ ';' :: rest :=
    (skipBlanks_append space_mem_blankTexts _).trans (skipBlanks_inked name.inked _)
  rw [visibleName?, found]
  simp only [Option.bind_eq_bind, Option.bind_some, passed, name.variableName?]
  rfl

/-- A visibility at the start of a name is not read as such where it leaves no name. -/
theorem visibleName?_unmistakable {name : Word} (unmistakable : IsUnmistakable name.text)
    (rest : List Char) : visibleName? visibilities (name.text ++ ';' :: rest) = none := by
  cases found : keyword? visibilities (name.text ++ ';' :: rest) with
  | none =>
      rw [visibleName?, found]
      rfl
  | some read =>
      obtain ⟨keyword, remaining⟩ := read
      obtain ⟨listed, split⟩ := keyword?_some found
      have plain : ∀ keyword ∈ visibilities, ';' ∉ keyword.toList := by decide
      obtain ⟨more, whole, rfl⟩ : ∃ more, name.text = keyword.toList ++ more ∧
          remaining = more ++ ';' :: rest := by
        rcases List.append_eq_append_iff.mp split with ⟨more, longer, later⟩ |
          ⟨more, longer, later⟩
        · cases more with
          | nil => exact ⟨[], by simpa using longer.symm, by simpa using later.symm⟩
          | cons first more =>
              obtain ⟨rfl, -⟩ := List.cons.inj later
              exact absurd (by simp [longer]) (plain keyword listed)
        · exact ⟨more, longer, later⟩
      obtain rfl : more = [] := unmistakable keyword listed more whole
      rw [visibleName?, found]
      rfl

/-- A state variable yields its type, keyword and name. -/
theorem variableAnchor_yields (type : ElementaryType) (visibility : Option Visibility)
    (name : Word) (unmistakable : visibility = none → IsUnmistakable name.text) :
    variableAnchor.Yields
      (Declaration.stateVariable type visibility name unmistakable).line
      [⟨type.text, visibility.map Subtype.val, name.text⟩] := by
  apply Anchor.yields_recognised
  · simp [Declaration.line, Declaration.pieces]
  · exact (Declaration.isDelimited_line _).wordAfter false
  · intro rest
    have spaced {text : List Char} (inked : isInked text = true) (after : List Char) :
        blanks? (' ' :: (text ++ after)) = some (text ++ after) :=
      blanks?_eq_some.mpr ⟨[' '], by simp, by decide, rfl, ends_inked inked after⟩
    have digitless (after : List Char) : Ends isDecimalDigit (' ' :: after) :=
      ends_cons (by decide) after
    cases visibility with
    | none =>
        have line : (Declaration.stateVariable type none name unmistakable).line ++ rest =
            type.text ++ ' ' :: (name.text ++ ';' :: rest) := by
          simp [Declaration.line, Declaration.pieces, keywordAttribute]
        rw [line]
        simp only [variableAnchor, elementaryType?_text type (digitless _), Option.bind_eq_bind,
          Option.bind_some, spaced name.inked, visibleName?_unmistakable (unmistakable rfl),
          name.variableName?]
        rfl
    | some visibility =>
        have inked : ∀ keyword ∈ ["external", "public", "internal", "private"],
            isInked keyword.toList = true := by decide
        have line : (Declaration.stateVariable type (some visibility) name unmistakable).line ++
            rest = type.text ++ ' ' :: (visibility.val.toList ++
              ' ' :: (name.text ++ ';' :: rest)) := by
          simp [Declaration.line, Declaration.pieces, keywordAttribute]
        rw [line]
        simp only [variableAnchor, elementaryType?_text type (digitless _), Option.bind_eq_bind,
          Option.bind_some, spaced (inked visibility.val visibility.property),
          visibleName?_visible]
        rfl

end Own

section Printed

variable {α β : Type} {anchor : Anchor α} {reading : α → β} {shown : Declaration → Option β}

/-- A line feed yields nothing where it starts nothing. -/
theorem Anchor.yields_lineFeed (missed : ∀ rest, anchor.recognise? ('\n' :: rest) = none) :
    anchor.Yields ['\n'] [] := by
  apply Quiet.yields _ (by decide)
  intro front back rest split nonempty
  obtain rfl : back = ['\n'] := by
    rcases List.append_eq_singleton_iff.mp split.symm with ⟨-, whole⟩ | ⟨-, rfl⟩
    · exact whole
    · exact absurd rfl nonempty
  exact missed rest

/-- Joined lines yield what each of them does. -/
theorem Anchor.yields_joinWith (lineFeed : anchor.Yields ['\n'] []) {lines : List (List Char)}
    {values : List (List α)} (each : List.Forall₂ anchor.Yields lines values) :
    anchor.Yields (joinWith ['\n'] lines) values.flatten := by
  induction each with
  | nil => exact yields_nil
  | @cons line found lines values yields later ih =>
      cases later with
      | nil => simpa [joinWith] using yields
      | cons second others => simpa [joinWith] using yields.append (lineFeed.append ih)

/-- What an anchor finds in each line it finds in the printed text, in order. -/
theorem Anchor.spans_printed
    (told : ∀ declaration : Declaration, ∃ values,
      anchor.Yields declaration.line values ∧ values.map reading = (shown declaration).toList)
    (missed : ∀ rest, anchor.recognise? ('\n' :: rest) = none)
    (closed : Bool) (declarations : List Declaration) :
    (anchor.spans (printed closed declarations)).map (fun span => reading span.value) =
      declarations.filterMap shown := by
  have lineFeed := yields_lineFeed missed
  choose valuesOf yields same using told
  have joined : anchor.Yields (joinWith ['\n'] (declarations.map Declaration.line))
      (declarations.map valuesOf).flatten := by
    apply yields_joinWith lineFeed
    rw [List.forall₂_map_left_iff, List.forall₂_map_right_iff, List.forall₂_same]
    exact fun declaration _ => yields declaration
  have ending : anchor.Yields (if closed then ['\n'] else []) [] := by
    cases closed with
    | false => exact yields_nil
    | true => exact lineFeed
  have whole := (joined.append ending).values
  rw [List.append_nil] at whole
  calc (anchor.spans (printed closed declarations)).map (fun span => reading span.value)
      = ((anchor.spans (printed closed declarations)).map Span.value).map reading := by
        rw [List.map_map]
        rfl
    _ = ((declarations.map valuesOf).flatten).map reading := congrArg (List.map reading) whole
    _ = declarations.flatMap fun declaration => (shown declaration).toList := by
        rw [List.map_flatten, List.map_map, List.flatMap_def]
        congr 2
        funext declaration
        exact same declaration
    _ = declarations.filterMap shown := (List.filterMap_eq_flatMap_toList shown declarations).symm

end Printed

section Lines

variable (declaration : Declaration)

/-- Of all lines, those of imports yield their paths. -/
theorem importAnchor_line : ∃ values, importAnchor.Yields declaration.line values ∧
    values.map String.ofList = declaration.importPath?.toList := by
  have delimit : ∀ stop ∈ ['"', '\''], stop ∈ delimiters := by decide
  cases declaration with
  | importing path => exact ⟨_, importAnchor_yields path, rfl⟩
  | event _ _ | stateVariable _ _ _ _ | modifier _ _ | function _ _ _ _ _ =>
      exact ⟨[], importAnchor_stops.yields_line rfl delimit (by simp [Declaration.marks]), rfl⟩

/-- The semicolon of an event stands right after a parenthesis, where no variable ends. -/
theorem variableAnchor_event (name : Word) (parameters : ParameterText) :
    variableAnchor.Yields (Declaration.event name parameters).line [] := by
  have semicolon : ';' ∈ delimiters := by decide
  have list : variableAnchor.Yields
      ("event ".toList ++ (name.text ++ '(' :: parameters.text) ++ [')']) [] := by
    apply variableAnchor_stops.yields_unstopped (isDelimited_append _ (by decide))
    intro stop listed
    rw [List.mem_singleton.mp listed]
    simp [name.isPlain.not_mem semicolon, parameters.isPlain.not_mem semicolon]
  have ending : variableAnchor.Yields [';'] [] :=
    variableAnchor_stops.yields_unspaced ⟨[], ';', by decide, rfl⟩ (by decide)
  simpa [Declaration.line, Declaration.pieces] using list.append ending

/-- Of all lines, those of state variables yield their names and types. -/
theorem variableAnchor_line : ∃ values, variableAnchor.Yields declaration.line values ∧
    values.map (fun head => ⟨String.ofList head.name, String.ofList head.type⟩) =
      declaration.variable?.toList := by
  have delimit : ∀ stop ∈ [';'], stop ∈ delimiters := by decide
  cases declaration with
  | importing path => exact ⟨[], variableAnchor_stops.yields_import path (by decide), rfl⟩
  | event name parameters => exact ⟨[], variableAnchor_event name parameters, rfl⟩
  | stateVariable type visibility name unmistakable =>
      exact ⟨_, variableAnchor_yields type visibility name unmistakable, rfl⟩
  | modifier _ _ | function _ _ _ _ _ =>
      exact ⟨[], variableAnchor_stops.yields_line rfl delimit (by simp [Declaration.marks]), rfl⟩

/-- Of all lines, those of events yield their names. -/
theorem eventAnchor_line : ∃ values, eventAnchor.Yields declaration.line values ∧
    values.map (fun head => String.ofList head.1) = declaration.eventName?.toList := by
  cases declaration with
  | event name parameters => exact ⟨_, eventAnchor_yields name parameters, rfl⟩
  | importing _ | stateVariable _ _ _ _ | modifier _ _ | function _ _ _ _ _ =>
      exact ⟨[], eventAnchor_named.yields_line (by decide) (by simp [Declaration.keyword?]), rfl⟩

/-- Of all lines, those of modifiers yield their names. -/
theorem modifierAnchor_line : ∃ values, modifierAnchor.Yields declaration.line values ∧
    values.map String.ofList = declaration.modifierName?.toList := by
  cases declaration with
  | modifier name parameters => exact ⟨_, modifierAnchor_yields name parameters, rfl⟩
  | importing _ | event _ _ | stateVariable _ _ _ _ | function _ _ _ _ _ =>
      exact ⟨[], modifierAnchor_named.yields_line (by decide) (by simp [Declaration.keyword?]), rfl⟩

/-- Of all lines, those of functions yield their names. -/
theorem functionAnchor_line : ∃ values, functionAnchor.Yields declaration.line values ∧
    values.map (fun head => String.ofList head.name) = declaration.functionName?.toList := by
  cases declaration with
  | function name parameters visibility mutability results =>
      exact ⟨_, functionAnchor_yields name parameters visibility mutability results, rfl⟩
  | importing _ | event _ _ | stateVariable _ _ _ _ | modifier _ _ =>
      exact ⟨[], functionAnchor_named.yields_line (by decide) (by simp [Declaration.keyword?]), rfl⟩

end Lines

/-- The inventory of printed declarations holds what was printed of each kind, in the order of
the lines. -/
theorem ofSource_printed (closed : Bool) (declarations : List Declaration) :
    let inventory := Inventory.ofSource (String.ofList (printed closed declarations))
    inventory.imports = declarations.filterMap Declaration.importPath? ∧
    inventory.events = declarations.filterMap Declaration.eventName? ∧
    inventory.stateVariables = declarations.filterMap Declaration.variable? ∧
    inventory.modifiers = declarations.filterMap Declaration.modifierName? ∧
    inventory.functions.map FunctionDeclaration.name =
      declarations.filterMap Declaration.functionName? := by
  intro inventory
  have text : (String.ofList (printed closed declarations)).toList = printed closed declarations :=
    String.toList_ofList
  simp only [inventory, Inventory.ofSource, text, importsOf, eventsOf, variablesOf, modifiersOf,
    functionsOf, List.map_map]
  exact ⟨Anchor.spans_printed importAnchor_line (fun _ => rfl) closed declarations,
    Anchor.spans_printed eventAnchor_line (fun _ => rfl) closed declarations,
    Anchor.spans_printed variableAnchor_line (fun _ => rfl) closed declarations,
    Anchor.spans_printed modifierAnchor_line (fun _ => rfl) closed declarations,
    Anchor.spans_printed functionAnchor_line (fun _ => rfl) closed declarations⟩

end SolidityAudit.Source
