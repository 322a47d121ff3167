import SolidityAudit.Proofs.Source.Signatures
import SolidityAudit.Proofs.Source.Variables

namespace SolidityAudit.Source

open Text

section Scan

variable {α : Type} {anchor : Anchor α} {texts : α → Language Char}

/-- Of two declarations the one that starts later does not end earlier. -/
def Anchor.EndsInOrder (anchor : Anchor α) : Prop :=
  ∀ {text rest inner innerRest : List Char} {value innerValue : α},
    anchor.recognise? text = some (value, rest) → inner <:+ text →
      anchor.recognise? inner = some (innerValue, innerRest) → innerRest <:+ rest

/-- What is recognised stays so when text follows. -/
theorem Anchor.Reads.extended (reads : anchor.Reads texts) {text rest : List Char} {value : α}
    (recognised : anchor.recognise? text = some (value, rest)) (more : List Char) :
    anchor.recognise? (text ++ more) = some (value, rest ++ more) := by
  obtain ⟨found, formed, rfl⟩ := reads.mp recognised
  exact reads.mpr ⟨found, formed, List.append_assoc found rest more⟩

/-- A declaration that ends within a text is recognised there, whatever follows the text. -/
theorem Anchor.Reads.withdrawn (reads : anchor.Reads texts) {text more rest : List Char} {value : α}
    (recognised : anchor.recognise? (text ++ more) = some (value, rest)) (within : more <:+ rest) :
    ∃ left, anchor.recognise? text = some (value, left) := by
  obtain ⟨found, formed, split⟩ := reads.mp recognised
  obtain ⟨left, rfl⟩ := within
  rw [← List.append_assoc] at split
  exact ⟨left, reads.mpr ⟨found, formed, List.append_cancel_right split⟩⟩

/-- Behind the start of a declaration that only more text finishes, no other one is finished. -/
theorem Anchor.Reads.unfinished (reads : anchor.Reads texts) (inOrder : anchor.EndsInOrder)
    {text more rest inner : List Char} {value : α} (missed : anchor.recognise? text = none)
    (recognised : anchor.recognise? (text ++ more) = some (value, rest)) (behind : inner <:+ text) :
    anchor.recognise? inner = none := by
  by_contra found
  obtain ⟨⟨innerValue, left⟩, finished⟩ := Option.ne_none_iff_exists'.mp found
  obtain ⟨front, split⟩ := behind
  have behindMore : inner ++ more <:+ text ++ more := ⟨front, by rw [← split, List.append_assoc]⟩
  have ends : left ++ more <:+ rest := inOrder recognised behindMore (reads.extended finished more)
  obtain ⟨_, whole⟩ := reads.withdrawn recognised ((List.suffix_append left more).trans ends)
  rw [missed] at whole
  cases whole

/-- So does what is attempted. -/
theorem Anchor.attempt?_extended (reads : anchor.Reads texts) {afterWord : Bool}
    {text rest : List Char} {value : α}
    (attempted : anchor.attempt? afterWord text = some (value, rest)) (more : List Char) :
    anchor.attempt? afterWord (text ++ more) = some (value, rest ++ more) := by
  unfold attempt? at attempted ⊢
  split at attempted
  · cases attempted
  · next free =>
    rw [if_neg free]
    exact reads.extended attempted more

/-- Where only more text makes a difference, it is the declaration that was not recognised. -/
theorem Anchor.attempt?_missed {afterWord : Bool} {text other : List Char} {read : α × List Char}
    (missed : anchor.attempt? afterWord text = none)
    (attempted : anchor.attempt? afterWord other = some read) : anchor.recognise? text = none := by
  unfold attempt? at missed attempted
  split at attempted
  · cases attempted
  · next free => rwa [if_neg free] at missed

/-- What a scan has taken stays as it is when the text goes on. -/
theorem Scan.extended (reads : anchor.Reads texts) (inOrder : anchor.EndsInOrder)
    {position : Nat} {afterWord : Bool} {text : List Char} {spans : List (Span α)}
    (scan : Scan anchor position afterWord text spans) (more : List Char) :
    spans <+: anchor.spansFrom position afterWord 0 (text ++ more) := by
  induction scan with
  | done => exact List.nil_prefix
  | @pass position afterWord character rest spans missed later ih =>
      cases attempted : anchor.attempt? afterWord (character :: (rest ++ more)) with
      | none =>
          rw [List.cons_append, Anchor.spansFrom_miss position attempted]
          exact ih
      | some read =>
          have nothing : spans = [] := by
            refine List.eq_nil_iff_forall_not_mem.mpr fun span listed => ?_
            obtain ⟨before, found, after, split, -, -, -, taken⟩ := later.recognised listed
            have behind : found ++ after <:+ character :: rest :=
              ⟨character :: before, by rw [split, List.cons_append]⟩
            have none := reads.unfinished inOrder (Anchor.attempt?_missed missed attempted)
              (Anchor.attempt?_recognised attempted) behind
            rw [Anchor.attempt?_recognised taken] at none
            cases none
          rw [nothing]
          exact List.nil_prefix
  | @take position afterWord found rest value spans nonempty recognised later ih =>
      have extended := Anchor.attempt?_extended reads recognised more
      rw [List.append_assoc] at extended ⊢
      rw [Anchor.spansFrom_hit position nonempty extended]
      exact List.cons_prefix_cons.mpr ⟨rfl, ih⟩

/-- The spans of a text come first when text follows. -/
theorem Anchor.Reads.spans_extended (reads : anchor.Reads texts)
    (nonempty : ∀ value, [] ∉ texts value) (inOrder : anchor.EndsInOrder) (text more : List Char) :
    anchor.spans text <+: anchor.spans (text ++ more) :=
  (anchor.scan_spansFrom (reads.consumes nonempty) 0 false text).extended reads inOrder more

end Scan

section Order

/-- No mark of a text comes before its first one. -/
theorem mark_first {isMark : Char → Bool} {before after front otherBefore otherAfter : List Char}
    {mark other : Char} (plain : ∀ character ∈ before, isMark character = false)
    (marks : isMark other = true)
    (same : before ++ mark :: after = front ++ (otherBefore ++ other :: otherAfter)) :
    otherAfter = after ∨ other :: otherAfter <:+ after := by
  rw [← List.append_assoc] at same
  rcases List.append_eq_append_iff.mp same with ⟨more, -, later⟩ | ⟨more, earlier, later⟩
  · cases more with
    | nil => exact .inl (List.cons.inj later).2.symm
    | cons first more =>
        obtain ⟨-, rfl⟩ := List.cons.inj later
        exact .inr (List.suffix_append more _)
  · cases more with
    | nil => exact .inl (List.cons.inj later).2
    | cons first more =>
        obtain ⟨rfl, -⟩ := List.cons.inj later
        have unmarked := plain other (by simp [earlier])
        rw [marks] at unmarked
        cases unmarked

/-- A later mark leaves no more than the first one does. -/
theorem mark_first_suffix {isMark : Char → Bool}
    {before after front otherBefore otherAfter : List Char} {mark other : Char}
    (plain : ∀ character ∈ before, isMark character = false) (marks : isMark other = true)
    (same : before ++ mark :: after = front ++ (otherBefore ++ other :: otherAfter)) :
    otherAfter <:+ after := by
  rcases mark_first plain marks same with rfl | behind
  · exact List.suffix_refl _
  · exact (List.suffix_cons other otherAfter).trans behind

/-- No character of a text is a mark that it lacks. -/
theorem plain_of_absent {mark : Char} {text : List Char} (absent : mark ∉ text) :
    ∀ character ∈ text, (character == mark) = false := by
  intro character inside
  rw [beq_eq_false_iff_ne]
  rintro rfl
  exact absent inside

/-- Of two named lists, the one that starts later is closed no earlier. -/
theorem namedList?_inOrder {keyword : String} (spelled : IsSpelled keyword)
    {text inner after innerAfter : List Char} {head innerHead : List Char × List Char}
    (named : namedList? keyword text = some (head, after)) (behind : inner <:+ text)
    (innerNamed : namedList? keyword inner = some (innerHead, innerAfter)) :
    innerAfter = after ∨ ')' :: innerAfter <:+ after := by
  obtain ⟨lead, leads, closed, rfl⟩ := namedList?_eq_some.mp named
  obtain ⟨innerLead, -, -, rfl⟩ := namedList?_eq_some.mp innerNamed
  obtain ⟨front, split⟩ := behind
  have absent : ')' ∉ lead ++ '(' :: head.2 := by
    intro inside
    simp only [List.mem_append, List.mem_cons] at inside
    rcases inside with inLead | opening | inItems
    · exact leads.not_mem spelled (by decide) inLead
    · cases opening
    · exact closed inItems
  have same : (lead ++ '(' :: head.2) ++ ')' :: after =
      front ++ ((innerLead ++ '(' :: innerHead.2) ++ ')' :: innerAfter) := by
    simpa using split.symm
  exact mark_first (plain_of_absent absent) (beq_self_eq_true ')') same

/-- Events that start later end later. -/
theorem eventAnchor_endsInOrder : eventAnchor.EndsInOrder := by
  intro text rest inner innerRest head innerHead recognised behind innerRecognised
  have spelled : IsSpelled "event" := by decide +kernel
  rcases namedList?_inOrder spelled recognised behind innerRecognised with rfl | later
  · exact List.suffix_refl _
  · exact (List.suffix_cons ')' innerRest).trans later

/-- What stands behind white space and is none itself stands behind the first character that is
none. -/
theorem inked_inOrder {text rest other : List Char} {first character : Char}
    (inked : skipBlanks text = first :: rest) (ink : isBlank character = false)
    (behind : character :: other <:+ text) : other <:+ rest := by
  obtain ⟨pad, padded, split⟩ := skipBlanks_split text
  obtain ⟨front, whole⟩ := behind
  have same : pad ++ first :: rest = front ++ ([] ++ character :: other) := by
    rw [← inked, ← split, List.nil_append, whole]
  have plain : ∀ character ∈ pad, (!isBlank character) = false := by simpa using padded
  exact mark_first_suffix plain (by simpa using ink) same

/-- A modifier is a named list and an opening brace. -/
theorem modifierAnchor_eq_some {text name rest : List Char} :
    modifierAnchor.recognise? text = some (name, rest) ↔
      ∃ items after, namedList? "modifier" text = some ((name, items), after) ∧
        skipBlanks after = '\x7b' :: rest := by
  simp only [modifierAnchor, Option.bind_eq_bind, Option.bind_eq_some_iff, Option.pure_def,
    Option.some.injEq, Prod.mk.injEq, Prod.exists, literal?_brace]
  constructor
  · rintro ⟨_, items, after, named, _, brace, rfl, rfl⟩
    exact ⟨items, after, named, brace⟩
  · rintro ⟨items, after, named, brace⟩
    exact ⟨name, items, after, named, rest, brace, rfl, rfl⟩

/-- Modifiers that start later end later. -/
theorem modifierAnchor_endsInOrder : modifierAnchor.EndsInOrder := by
  intro text rest inner innerRest name innerName recognised behind innerRecognised
  obtain ⟨items, after, named, brace⟩ := modifierAnchor_eq_some.mp recognised
  obtain ⟨innerItems, innerAfter, innerNamed, innerBrace⟩ :=
    modifierAnchor_eq_some.mp innerRecognised
  have spelled : IsSpelled "modifier" := by decide +kernel
  rcases namedList?_inOrder spelled named behind innerNamed with rfl | later
  · rw [brace] at innerBrace
    rw [(List.cons.inj innerBrace).2]
  · have inBody : innerAfter <:+ rest := inked_inOrder brace (by decide) later
    have body : '\x7b' :: innerRest <:+ innerAfter := innerBrace ▸ List.dropWhile_suffix isBlank
    exact ((List.suffix_cons _ innerRest).trans body).trans inBody

/-- The body of a function follows its attributes. -/
theorem body_suffix {after rest : List Char}
    (brace : skipBlanks (attributesOf after).2 = '\x7b' :: rest) : '\x7b' :: rest <:+ after := by
  obtain ⟨found, -, split⟩ := attributesOf_split after
  have body : '\x7b' :: rest <:+ (attributesOf after).2 := brace ▸ List.dropWhile_suffix isBlank
  exact body.trans ⟨found, split.symm⟩

/-- Functions that start later end later. -/
theorem functionAnchor_endsInOrder : functionAnchor.EndsInOrder := by
  intro text rest inner innerRest head innerHead recognised behind innerRecognised
  obtain ⟨front, split⟩ := behind
  by_cases later : front = []
  · subst later split
    rw [List.nil_append, innerRecognised] at recognised
    cases recognised
    exact List.suffix_refl _
  obtain ⟨name, parameters, after, named, value, brace⟩ := functionAnchor_eq_some.mp recognised
  obtain ⟨innerName, innerParameters, innerAfter, innerNamed, -, innerBrace⟩ :=
    functionAnchor_eq_some.mp innerRecognised
  have read : functionHead? text = some (head, (attributesOf after).2) := by
    rw [functionHead?_eq, named, value]
    rfl
  obtain ⟨afterParameters, alsoNamed, outline⟩ := functionHead?_outline read
  rw [named] at alsoNamed
  cases alsoNamed
  have body := body_suffix innerBrace
  rcases outline.inside innerNamed later split.symm with rfl | ⟨_, _, -, -, -, -, rfl⟩ | behind
  · rw [brace] at innerBrace
    rw [(List.cons.inj innerBrace).2]
  · exact inked_inOrder brace (by decide) body
  · obtain ⟨lead, -, -, whole⟩ := namedList?_eq_some.mp innerNamed
    have inInner : innerAfter <:+ inner :=
      ⟨lead ++ '(' :: (innerParameters ++ [')']), by rw [whole]; simp⟩
    exact inked_inOrder brace (by decide) ((body.trans inInner).trans behind)

/-- A blank is no quote. -/
theorem isQuote_blank {character : Char} (blank : isBlank character = true) :
    isQuote character = false := by
  have codes : ∀ code ∈ blankCodes, isQuote (Char.ofNat code) = false := by decide
  obtain ⟨code, listed, rfl⟩ := exists_blankCode blank
  exact codes code listed

/-- Imports that start later end later. -/
theorem importAnchor_endsInOrder : importAnchor.EndsInOrder := by
  intro text rest inner innerRest path innerPath recognised behind innerRecognised
  obtain ⟨_, ⟨_, ⟨_, rfl, gap, ⟨-, blank⟩, rfl⟩, _, ⟨opening, closing, rfl, -, -, -, plain⟩, rfl⟩,
    rfl⟩ := importAnchor_reads.mp recognised
  obtain ⟨_, ⟨lead, -, _, ⟨innerOpening, innerClosing, rfl, opened, closed, -, -⟩, rfl⟩, rfl⟩ :=
    importAnchor_reads.mp innerRecognised
  obtain ⟨front, split⟩ := behind
  have unquoted : ∀ character ∈ "import".toList ++ gap, isQuote character = false := by
    intro character inside
    rcases List.mem_append.mp inside with inKeyword | inGap
    · have letters : ∀ character ∈ "import".toList, isQuote character = false := by decide
      exact letters character inKeyword
    · exact isQuote_blank (blank character inGap)
  have fromOpening : ("import".toList ++ gap) ++ opening :: (path ++ closing :: rest) =
      front ++ (lead ++ innerOpening :: (innerPath ++ innerClosing :: innerRest)) := by
    simpa using split.symm
  obtain ⟨skipped, fromPath⟩ := mark_first_suffix unquoted opened fromOpening
  exact mark_first_suffix plain closed fromPath.symm

/-- A declaration of a variable ends at the first semicolon. -/
theorem variableTexts_ended {head : VariableHead} {found : List Char}
    (formed : found ∈ variableTexts head) :
    ∃ body, found = body ++ [';'] ∧ ';' ∉ body := by
  have blankPlain {text : List Char} (blank : ∀ character ∈ text, isBlank character = true) :
      ';' ∉ text := fun inside => absurd (blank ';' inside) (by decide)
  have wordPlain {text : List Char} (word : ∀ character ∈ text, isWordCharacter character = true) :
      ';' ∉ text := fun inside => absurd (word ';' inside) (by decide)
  obtain ⟨gap, ⟨-, blank⟩, visible, shown, ending, named, ⟨-, type, same⟩, rfl⟩ :=
    mem_variableTexts.mp formed
  obtain ⟨⟨-, word⟩, pad, padded, rfl⟩ := mem_lastNameTexts.mp named
  have typePlain : ';' ∉ head.type := fun inside =>
    absurd (type.isUnbroken ';' (same ▸ inside)) (by decide)
  have visiblePlain : ';' ∉ visible := by
    cases visibility : head.visibility with
    | none =>
        rw [visibility] at shown
        cases shown
        simp
    | some keyword =>
        rw [visibility] at shown
        obtain ⟨listed, _, rfl, blanks, spaced, rfl⟩ := shown
        have keywords : ∀ keyword ∈ ["external", "public", "internal", "private"],
            ';' ∉ keyword.toList := by decide
        simp [keywords keyword listed, blankPlain spaced]
  refine ⟨head.type ++ (gap ++ (visible ++ (head.name ++ pad))), by simp, ?_⟩
  simp [typePlain, blankPlain blank, visiblePlain, wordPlain word, blankPlain padded]

/-- No declaration of a variable begins with another. -/
theorem variableTexts_unique {head other : VariableHead} {found remaining rest left : List Char}
    (formed : found ∈ variableTexts head) (otherFormed : remaining ∈ variableTexts other)
    (same : found ++ rest = remaining ++ left) : found = remaining := by
  obtain ⟨body, rfl, absent⟩ := variableTexts_ended formed
  obtain ⟨otherBody, rfl, otherAbsent⟩ := variableTexts_ended otherFormed
  obtain ⟨rfl, -⟩ := split_unique absent otherAbsent (by simpa using same)
  rfl

/-- The texts that are read as a variable: one is read without a visibility only where none can
be read. -/
def variableReadings (head : VariableHead) : Language Char :=
  {text | text ∈ variableTexts head ∧ (head.visibility = none →
    ∀ keyword name, text ∉ variableTexts ⟨head.type, some keyword, name⟩)}

/-- A variable without a visibility is read as such where no other reading is left. -/
theorem variableAnchor_plain {head : VariableHead} (unseen : head.visibility = none)
    {found : List Char} (formed : found ∈ variableReadings head) (rest : List Char) :
    variableAnchor.recognise? (found ++ rest) = some (head, rest) := by
  obtain ⟨type, _, name⟩ := head
  cases unseen
  obtain ⟨formed, hidden⟩ := formed
  obtain ⟨gap, spaced, _, rfl, ending, named, ⟨-, elementary, typed⟩, rfl⟩ :=
    mem_variableTexts.mp formed
  obtain rfl : elementary.text = type := typed
  have stop : Ends isBlank (ending ++ rest) := by
    obtain ⟨⟨someName, word⟩, pad, -, rfl⟩ := mem_lastNameTexts.mp named
    simpa using ends_inked (isInked_word someName word) _
  have whole : elementary.text ++ (gap ++ ([] ++ ending)) ++ rest =
      elementary.text ++ (gap ++ (ending ++ rest)) := by simp
  have notVisible : visibleName? visibilities (ending ++ rest) = none := by
    by_contra visibly
    obtain ⟨⟨⟨keyword, other⟩, left⟩, found⟩ := Option.ne_none_iff_exists'.mp visibly
    obtain ⟨listed, _, ⟨visible, shown, last, lastNamed, rfl⟩, split⟩ :=
      (visibleName?_eq_some (by decide)).mp found
    have otherFormed : elementary.text ++ (gap ++ (visible ++ last)) ∈
        variableTexts ⟨elementary.text, some keyword, other⟩ :=
      mem_variableTexts.mpr ⟨gap, spaced, visible, ⟨listed, shown⟩, last, lastNamed,
        ⟨rfl, elementary, rfl⟩, rfl⟩
    have both : elementary.text ++ (gap ++ ([] ++ ending)) ++ rest =
        elementary.text ++ (gap ++ (visible ++ last)) ++ left := by
      rw [whole, split]
      simp
    have same := variableTexts_unique formed otherFormed both
    exact hidden rfl keyword other (same ▸ otherFormed)
  obtain ⟨readType, readGap⟩ := elementary.read_spaced spaced stop
  rw [whole]
  simp only [variableAnchor, readType, readGap, Option.bind_eq_bind, Option.bind_some, notVisible,
    variableName?_eq_some.mpr ⟨ending, named, rfl⟩]
  rfl

/-- The anchor of variables reads their texts. -/
theorem variableAnchor_reads : variableAnchor.Reads variableReadings := by
  intro text head rest
  constructor
  · intro recognised
    obtain ⟨found, formed, rfl⟩ := variableAnchor_sound recognised
    refine ⟨found, ⟨formed, fun unseen keyword name visibly => ?_⟩, rfl⟩
    have seen := variableAnchor_visible rfl visibly rest
    rw [recognised] at seen
    rw [(Prod.mk.inj (Option.some.inj seen)).1] at unseen
    cases unseen
  · rintro ⟨found, formed, rfl⟩
    cases visibility : head.visibility with
    | none => exact variableAnchor_plain visibility formed rest
    | some keyword => exact variableAnchor_visible visibility formed.1 rest

/-- A declaration of a variable is not empty. -/
theorem variableReadings_nonempty (head : VariableHead) : [] ∉ variableReadings head := by
  rintro ⟨formed, -⟩
  obtain ⟨body, split, -⟩ := variableTexts_ended formed
  simp at split

/-- Variables that start later end later. -/
theorem variableAnchor_endsInOrder : variableAnchor.EndsInOrder := by
  intro text rest inner innerRest head innerHead recognised behind innerRecognised
  obtain ⟨found, formed, rfl⟩ := variableAnchor_sound recognised
  obtain ⟨innerFound, innerFormed, rfl⟩ := variableAnchor_sound innerRecognised
  obtain ⟨body, rfl, absent⟩ := variableTexts_ended formed
  obtain ⟨innerBody, rfl, -⟩ := variableTexts_ended innerFormed
  obtain ⟨front, split⟩ := behind
  have same : body ++ ';' :: rest = front ++ (innerBody ++ ';' :: innerRest) := by
    simpa using split.symm
  exact mark_first_suffix (plain_of_absent absent) (beq_self_eq_true ';') same

end Order

/-- Each list of the other inventory starts with the declarations of this one. -/
structure Inventory.IsContinuedBy (inventory other : Inventory) : Prop where
  functions : inventory.functions <+: other.functions
  modifiers : inventory.modifiers <+: other.modifiers
  stateVariables : inventory.stateVariables <+: other.stateVariables
  events : inventory.events <+: other.events
  imports : inventory.imports <+: other.imports

/-- The window before a place in a text is the same when the text goes on. -/
theorem precedingWindow_extended {position : Nat} {text : List Char}
    (within : position ≤ text.length) (more : List Char) :
    precedingWindow attributeWindow position (text ++ more) =
      precedingWindow attributeWindow position text := by
  have longer : position ≤ (text ++ more).length := by
    rw [List.length_append]
    omega
  have window := precedingWindow_eq within 50
  have extended := precedingWindow_eq longer 50
  refine extended.trans (Eq.trans ?_ window.symm)
  rw [List.extract_eq_take_drop, List.extract_eq_take_drop,
    List.drop_append_of_le_length (by omega), List.take_append_of_le_length]
  rw [List.length_drop]
  omega

/-- The functions of a text come first when text follows. -/
theorem functionsOf_extended (text more : List Char) :
    functionsOf text <+: functionsOf (text ++ more) := by
  have covers := functionAnchor_reads.covers functionTexts_nonempty rfl text
  have same : functionsOf text = (functionAnchor.spans text).map fun span =>
      { name := String.ofList span.value.name
        visibility := visibilityAt span.start (text ++ more)
        mutability := mutabilityAt span.start (text ++ more) } := by
    refine List.map_congr_left fun span listed => ?_
    obtain ⟨ordered, within⟩ := covers.bounded span listed
    have window : precedingWindow attributeWindow span.start (text ++ more) =
        precedingWindow attributeWindow span.start text := precedingWindow_extended (by omega) more
    rw [visibilityAt, mutabilityAt, visibilityAt, mutabilityAt, window]
  rw [same]
  exact (functionAnchor_reads.spans_extended functionTexts_nonempty functionAnchor_endsInOrder text
    more).map _

/-- Appending text to a source, wherever it breaks off, keeps every declaration that was found
and adds others behind them. -/
theorem ofSource_continued (source more : String) :
    (Inventory.ofSource source).IsContinuedBy (Inventory.ofSource (source ++ more)) := by
  have whole : (source ++ more).toList = source.toList ++ more.toList := String.toList_append
  unfold Inventory.ofSource
  rw [whole]
  constructor
  · exact functionsOf_extended _ _
  · exact (modifierAnchor_reads.spans_extended modifierTexts_nonempty modifierAnchor_endsInOrder _
      _).map _
  · exact (variableAnchor_reads.spans_extended variableReadings_nonempty
      variableAnchor_endsInOrder _ _).map _
  · exact (eventAnchor_reads.spans_extended (fun _ => namedListTexts_nonempty _ _ _)
      eventAnchor_endsInOrder _ _).map _
  · exact (importAnchor_reads.spans_extended importTexts_nonempty importAnchor_endsInOrder _
      _).map _

end SolidityAudit.Source
