import Mathlib.Data.List.Basic
import Mathlib.Data.List.Infix
import Mathlib.Data.List.TakeWhile
import SolidityAudit.Source.Lexeme

namespace SolidityAudit.Source

open Text

/-- What is said of the characters of a text is decided by going through the text, and not
through all characters. -/
instance (priority := 2000) decidableForallCharacters (text : List Char) (holds : Char → Prop)
    [DecidablePred holds] : Decidable (∀ character ∈ text, holds character) :=
  List.decidableBAll holds text

/-- What follows does not go on with a character of the class. -/
def Ends (isMember : Char → Bool) (rest : List Char) : Prop :=
  ∀ character, rest.head? = some character → isMember character = false

section Runs

variable {isMember : Char → Bool}

/-- A run ends where the text does. -/
theorem ends_nil : Ends isMember [] := by
  intro character first
  cases first

/-- A run ends at a character that is no member. -/
theorem ends_cons {first : Char} (other : isMember first = false) (rest : List Char) :
    Ends isMember (first :: rest) := by
  rintro character ⟨⟩
  exact other

/-- Dropping a run leaves a text where it has ended. -/
theorem ends_dropWhile (text : List Char) : Ends isMember (text.dropWhile isMember) := by
  induction text with
  | nil => exact ends_nil
  | cons first rest ih =>
      cases member : isMember first with
      | true => rwa [List.dropWhile_cons_of_pos member]
      | false =>
          rw [List.dropWhile_cons_of_neg (by simp [member])]
          exact ends_cons member rest

/-- No run is left to take where it has ended. -/
theorem takeWhile_ended {rest : List Char} (ends : Ends isMember rest) :
    rest.takeWhile isMember = [] := by
  cases rest with
  | nil => rfl
  | cons first others => simp [ends first rfl]

/-- Nor is one left to drop. -/
theorem dropWhile_ended {rest : List Char} (ends : Ends isMember rest) :
    rest.dropWhile isMember = rest := by
  cases rest with
  | nil => rfl
  | cons first others => simp [ends first rfl]

/-- A run is all that is taken, and what follows it is all that is left. -/
theorem run_taken {run rest : List Char} (members : ∀ character ∈ run, isMember character = true)
    (ends : Ends isMember rest) :
    (run ++ rest).takeWhile isMember = run ∧ (run ++ rest).dropWhile isMember = rest := by
  rw [List.takeWhile_append_of_pos members, List.dropWhile_append_of_pos members,
    takeWhile_ended ends, dropWhile_ended ends, List.append_nil]
  exact ⟨rfl, rfl⟩

/-- A run and what follows it can be told from the whole. -/
theorem run_unique {run other rest remaining : List Char}
    (members : ∀ character ∈ run, isMember character = true) (ends : Ends isMember rest)
    (otherMembers : ∀ character ∈ other, isMember character = true)
    (otherEnds : Ends isMember remaining) (same : run ++ rest = other ++ remaining) :
    run = other ∧ rest = remaining := by
  obtain ⟨taken, dropped⟩ := run_taken members ends
  obtain ⟨otherTaken, otherDropped⟩ := run_taken otherMembers otherEnds
  rw [same] at taken dropped
  exact ⟨taken.symm.trans otherTaken, dropped.symm.trans otherDropped⟩

/-- The first place of a character can be told from the whole. -/
theorem split_unique {separator : Char} {first second before after : List Char}
    (absent : separator ∉ first) (otherAbsent : separator ∉ second)
    (same : first ++ separator :: before = second ++ separator :: after) :
    first = second ∧ before = after := by
  have apart {part : List Char} (absent : separator ∉ part) :
      ∀ character ∈ part, (character != separator) = true := by
    intro character inside
    rw [bne_iff_ne]
    rintro rfl
    exact absent inside
  have ends (rest : List Char) :
      Ends (fun character => character != separator) (separator :: rest) :=
    ends_cons (by simp) rest
  obtain ⟨start, later⟩ := run_unique (apart absent) (ends before) (apart otherAbsent) (ends after)
    same
  exact ⟨start, (List.cons.inj later).2⟩

/-- A mark that ends a text and stands nowhere else in it is found there only. -/
theorem split_last {mark : Char} {first second after : List Char} (absent : mark ∉ first)
    (same : first ++ [mark] = second ++ mark :: after) : first = second := by
  rcases List.append_eq_append_iff.mp same with ⟨more, longer, later⟩ | ⟨more, longer, later⟩
  · have lengths := congrArg List.length later
    simp only [List.length_append, List.length_cons, List.length_nil] at lengths
    have empty : more = [] := List.eq_nil_of_length_eq_zero (by omega)
    rw [longer, empty, List.append_nil]
  · cases more with
    | nil => rw [longer, List.append_nil]
    | cons head tail =>
        obtain ⟨rfl, -⟩ := List.cons.inj later
        exact absurd (by simp [longer]) absent

end Runs

/-- A literal is read exactly where it stands. -/
theorem literal?_eq_some {expected text rest : List Char} :
    literal? expected text = some rest ↔ text = expected ++ rest := by
  induction expected generalizing text with
  | nil => simp [literal?]
  | cons wanted expected ih =>
      cases text with
      | nil => simp [literal?]
      | cons character text =>
          simp only [literal?, beq_iff_eq, List.cons_append, List.cons.injEq]
          by_cases same : wanted = character
          · simp [same, ih]
          · simp [same, Ne.symm same]

/-- A literal at the start is read. -/
theorem literal?_append (expected rest : List Char) :
    literal? expected (expected ++ rest) = some rest :=
  literal?_eq_some.mpr rfl

/-- The code points of the blanks. -/
def blankCodes : List Nat :=
  [9, 10, 11, 12, 13, 28, 29, 30, 31, 32, 0x85, 0xA0, 0x1680, 0x2000, 0x2001, 0x2002, 0x2003,
    0x2004, 0x2005, 0x2006, 0x2007, 0x2008, 0x2009, 0x200A, 0x2028, 0x2029, 0x202F, 0x205F, 0x3000]

/-- There are few characters of white space. -/
theorem exists_blankCode {character : Char} (blank : isBlank character = true) :
    ∃ code ∈ blankCodes, character = Char.ofNat code := by
  refine ⟨character.toNat, ?_, (Char.ofNat_toNat character).symm⟩
  simp only [isBlank, Bool.or_eq_true, Bool.and_eq_true, decide_eq_true_eq, beq_iff_eq] at blank
  simp only [blankCodes, List.mem_cons, List.not_mem_nil, or_false]
  omega

/-- White space and words have no character in common. -/
theorem isWordCharacter_blank {character : Char} (blank : isBlank character = true) :
    isWordCharacter character = false := by
  have codes : ∀ code ∈ blankCodes, isWordCharacter (Char.ofNat code) = false := by
    decide +kernel
  obtain ⟨code, listed, rfl⟩ := exists_blankCode blank
  exact codes code listed

/-- A blank is no digit. -/
theorem isDecimalDigit_blank {character : Char} (blank : isBlank character = true) :
    isDecimalDigit character = false := by
  have codes : ∀ code ∈ blankCodes, isDecimalDigit (Char.ofNat code) = false := by
    decide +kernel
  obtain ⟨code, listed, rfl⟩ := exists_blankCode blank
  exact codes code listed

/-- A word character is no blank. -/
theorem isBlank_word {character : Char} (word : isWordCharacter character = true) :
    isBlank character = false := by
  cases blank : isBlank character with
  | false => rfl
  | true => rw [isWordCharacter_blank blank] at word; cases word

/-- Blanks at the start are skipped. -/
theorem skipBlanks_append {blanks : List Char}
    (blank : ∀ character ∈ blanks, isBlank character = true) (rest : List Char) :
    skipBlanks (blanks ++ rest) = skipBlanks rest :=
  List.dropWhile_append_of_pos blank

/-- Nothing is skipped where no blank stands. -/
theorem skipBlanks_ended {rest : List Char} (ends : Ends isBlank rest) : skipBlanks rest = rest :=
  dropWhile_ended ends

/-- What is skipped are blanks. -/
theorem skipBlanks_split (text : List Char) :
    ∃ blanks, (∀ character ∈ blanks, isBlank character = true) ∧ text = blanks ++ skipBlanks text :=
  ⟨text.takeWhile isBlank, fun _ => List.mem_takeWhile_imp,
    List.takeWhile_append_dropWhile.symm⟩

/-- Blanks are skipped once. -/
theorem skipBlanks_skipBlanks (text : List Char) :
    skipBlanks (skipBlanks text) = skipBlanks text :=
  skipBlanks_ended (ends_dropWhile text)

/-- A gap is the longest run of blanks, and not empty. -/
theorem blanks?_eq_some {text rest : List Char} :
    blanks? text = some rest ↔ ∃ blanks, blanks ≠ [] ∧
      (∀ character ∈ blanks, isBlank character = true) ∧ text = blanks ++ rest ∧
        Ends isBlank rest := by
  constructor
  · intro found
    cases text with
    | nil => cases found
    | cons first others =>
        simp only [blanks?] at found
        split at found
        · next blank =>
          cases found
          obtain ⟨blanks, every, split⟩ := skipBlanks_split others
          refine ⟨first :: blanks, by simp, ?_, ?_, ends_dropWhile others⟩
          · simpa [blank] using every
          · rw [List.cons_append, ← split]
        · cases found
  · rintro ⟨blanks, nonempty, every, rfl, ends⟩
    cases blanks with
    | nil => exact absurd rfl nonempty
    | cons first others =>
        have later : ∀ character ∈ others, isBlank character = true := fun character inside =>
          every character (by simp [inside])
        simp only [List.cons_append, blanks?, every first (by simp), if_true,
          skipBlanks_append later, skipBlanks_ended ends]

/-- A word is the longest run of its characters, and not empty. -/
theorem word?_eq_some {text word rest : List Char} :
    word? text = some (word, rest) ↔ word ≠ [] ∧
      (∀ character ∈ word, isWordCharacter character = true) ∧ text = word ++ rest ∧
        Ends isWordCharacter rest := by
  constructor
  · intro found
    simp only [word?] at found
    split at found
    · cases found
    · next nonempty =>
      cases found
      exact ⟨by simpa using nonempty, fun _ => List.mem_takeWhile_imp,
        List.takeWhile_append_dropWhile.symm, ends_dropWhile text⟩
  · rintro ⟨nonempty, every, rfl, ends⟩
    obtain ⟨taken, dropped⟩ := run_taken every ends
    simp [word?, taken, dropped, nonempty]

/-- Items in parentheses reach to the first closing one. -/
theorem parenthesised?_eq_some {text items rest : List Char} :
    parenthesised? text = some (items, rest) ↔
      ')' ∉ items ∧ text = '(' :: (items ++ ')' :: rest) := by
  constructor
  · intro found
    unfold parenthesised? at found
    split at found
    · next opened =>
      split at found
      · next remaining closed =>
        cases found
        refine ⟨fun inside => by simpa using List.mem_takeWhile_imp inside, ?_⟩
        rw [← closed, List.takeWhile_append_dropWhile]
      · cases found
    · cases found
  · rintro ⟨closed, rfl⟩
    have every : ∀ character ∈ items, (character != ')') = true := by
      intro character inside
      rw [bne_iff_ne]
      rintro rfl
      exact closed inside
    have stops : Ends (fun character => character != ')') (')' :: rest) := ends_cons rfl rest
    obtain ⟨taken, dropped⟩ := run_taken every stops
    simp only [parenthesised?, taken, dropped]

/-- A path stands between quotes and holds none. -/
theorem quotedPath?_eq_some {text path rest : List Char} :
    quotedPath? text = some (path, rest) ↔ path ≠ [] ∧
      (∀ character ∈ path, isQuote character = false) ∧ ∃ opening closing,
        isQuote opening = true ∧ isQuote closing = true ∧
          text = opening :: (path ++ closing :: rest) := by
  constructor
  · intro found
    cases text with
    | nil => cases found
    | cons opening others =>
        simp only [quotedPath?] at found
        split at found
        · next opened =>
          split at found
          · next closing remaining closed =>
            split at found
            · cases found
            · next nonempty =>
              cases found
              have closes := @ends_dropWhile (fun character => !isQuote character) others
              rw [closed] at closes
              refine ⟨by simpa using nonempty, ?_, opening, closing, opened, ?_, ?_⟩
              · intro character inside
                simpa using List.mem_takeWhile_imp inside
              · simpa using closes closing rfl
              · rw [← closed, List.takeWhile_append_dropWhile]
          · cases found
        · cases found
  · rintro ⟨nonempty, every, opening, closing, opened, closed, rfl⟩
    have inner : ∀ character ∈ path, (!isQuote character) = true := by simpa using every
    have stops : (!isQuote closing) = false := by simp [closed]
    obtain ⟨taken, dropped⟩ := run_taken inner (ends_cons stops rest)
    simp only [quotedPath?, opened, if_true, taken, dropped, List.isEmpty_iff, nonempty, if_false]

/-- Neither text is the start of the other. -/
def Apart (first second : List Char) : Prop := ¬ first <+: second ∧ ¬ second <+: first

instance (first second : List Char) : Decidable (Apart first second) :=
  inferInstanceAs (Decidable (_ ∧ _))

/-- A text never starts with one that is apart from it. -/
theorem Apart.neverStarts {first second : List Char} (apart : Apart first second)
    (rest : List Char) : ¬ first <+: second ++ rest := by
  intro starts
  rcases List.prefix_or_prefix_of_prefix starts (List.prefix_append second rest) with
    inside | inside
  · exact apart.1 inside
  · exact apart.2 inside

/-- A keyword that is read stands at the start. -/
theorem keyword?_some {keywords : List String} {text rest : List Char} {keyword : String}
    (found : keyword? keywords text = some (keyword, rest)) :
    keyword ∈ keywords ∧ text = keyword.toList ++ rest := by
  obtain ⟨listed, inside, read⟩ := List.exists_of_findSome?_eq_some found
  obtain ⟨remaining, started, same⟩ := Option.map_eq_some_iff.mp read
  cases same
  exact ⟨inside, literal?_eq_some.mp started⟩

/-- No keyword is read exactly where none stands. -/
theorem keyword?_eq_none {keywords : List String} {text : List Char} :
    keyword? keywords text = none ↔ ∀ keyword ∈ keywords, ¬ keyword.toList <+: text := by
  simp only [keyword?, List.findSome?_eq_none_iff, Option.map_eq_none_iff]
  refine forall₂_congr fun keyword _ => ?_
  constructor
  · rintro missing ⟨rest, rfl⟩
    rw [literal?_append] at missing
    cases missing
  · intro missing
    cases found : literal? keyword.toList text with
    | none => rfl
    | some rest => exact absurd ⟨rest, (literal?_eq_some.mp found).symm⟩ missing

/-- Keywords of which none starts another are told apart whatever follows. -/
theorem keyword?_listed {keywords : List String}
    (apart : keywords.Pairwise fun first second => Apart first.toList second.toList)
    {keyword : String} (listed : keyword ∈ keywords) (rest : List Char) :
    keyword? keywords (keyword.toList ++ rest) = some (keyword, rest) := by
  induction keywords with
  | nil => cases listed
  | cons first others ih =>
      obtain ⟨firstApart, othersApart⟩ := List.pairwise_cons.mp apart
      rcases List.mem_cons.mp listed with rfl | later
      · simp [keyword?, literal?_append]
      · have missed : literal? first.toList (keyword.toList ++ rest) = none := by
          cases found : literal? first.toList (keyword.toList ++ rest) with
          | none => rfl
          | some remaining =>
              exact absurd ⟨remaining, (literal?_eq_some.mp found).symm⟩
                ((firstApart keyword later).neverStarts rest)
        have others := ih othersApart later
        simpa [keyword?, missed] using others

/-- No keyword is read from a text that is apart from them. -/
theorem keyword?_apart {keywords : List String} {lead : List Char}
    (apart : ∀ keyword ∈ keywords, Apart keyword.toList lead) (rest : List Char) :
    keyword? keywords (lead ++ rest) = none :=
  keyword?_eq_none.mpr fun keyword listed => (apart keyword listed).neverStarts rest

/-- What is skipped is nothing or a keyword. -/
theorem skipKeyword_split (keywords : List String) (text : List Char) :
    text = skipKeyword keywords text ∨
      ∃ keyword ∈ keywords, text = keyword.toList ++ skipKeyword keywords text := by
  unfold skipKeyword
  split
  · next keyword rest found =>
    obtain ⟨listed, split⟩ := keyword?_some found
    exact .inr ⟨keyword, listed, split⟩
  · exact .inl rfl

/-- A text that does not start with white space. -/
def isInked (text : List Char) : Bool := text.head?.any fun character => !isBlank character

/-- An inked text does not begin with a blank. -/
theorem ends_inked {text : List Char} (inked : isInked text = true) (rest : List Char) :
    Ends isBlank (text ++ rest) := by
  cases text with
  | nil => cases inked
  | cons first others => exact ends_cons (by simpa [isInked] using inked) _

/-- Nothing is skipped before an inked text. -/
theorem skipBlanks_inked {text : List Char} (inked : isInked text = true) (rest : List Char) :
    skipBlanks (text ++ rest) = text ++ rest :=
  skipBlanks_ended (ends_inked inked rest)

/-- A keyword that may be missing is passed with the white space around it. -/
theorem skipKeyword_passed {keywords : List String}
    (apart : keywords.Pairwise fun first second => Apart first.toList second.toList)
    (inked : ∀ keyword ∈ keywords, isInked keyword.toList = true)
    {before word after rest : List Char}
    (blankBefore : ∀ character ∈ before, isBlank character = true)
    (optional : word = [] ∨ ∃ keyword ∈ keywords, word = keyword.toList)
    (blankAfter : ∀ character ∈ after, isBlank character = true)
    (other : keyword? keywords (skipBlanks rest) = none) :
    skipBlanks (skipKeyword keywords (skipBlanks (before ++ (word ++ (after ++ rest))))) =
      skipBlanks rest := by
  rw [skipBlanks_append blankBefore]
  rcases optional with rfl | ⟨keyword, listed, rfl⟩
  · rw [List.nil_append, skipBlanks_append blankAfter]
    simp only [skipKeyword, other, skipBlanks_skipBlanks]
  · rw [skipBlanks_inked (inked keyword listed)]
    simp only [skipKeyword, keyword?_listed apart listed, skipBlanks_append blankAfter]

end SolidityAudit.Source
