import Mathlib.Data.List.Basic
import Mathlib.Data.List.TakeWhile
import SolidityAudit.Json.Printer
import SolidityAudit.Json.Token
import SolidityAudit.Proofs.Text.Wording

namespace SolidityAudit.Json

open Text (Symbol Wording scalars)

/-- What follows cannot continue a number. -/
def EndsNumber (rest : List Symbol) : Prop :=
  ∀ symbol, rest.head? = some symbol →
    isFigure symbol = false ∧ symbol ≠ '.' ∧ symbol ≠ 'e' ∧ symbol ≠ 'E'

/-- A number may stand at the end. -/
theorem endsNumber_nil : EndsNumber [] := by
  intro symbol first
  cases first

/-- Only what follows first can continue a number. -/
theorem endsNumber_cons {first : Symbol} (rest : List Symbol)
    (other : isFigure first = false ∧ first ≠ '.' ∧ first ≠ 'e' ∧ first ≠ 'E') :
    EndsNumber (first :: rest) := by
  rintro symbol ⟨⟩
  exact other

/-- The figures of a number give the number. -/
theorem digitsValue_toDigits (number : Nat) :
    Text.digitsValue (digitValues (Nat.toDigits 10 number)) = number := by
  induction number using Nat.strongRecOn with
  | ind number ih =>
      by_cases small : number < 10
      · rw [Nat.toDigits_of_lt_base small]
        simp only [digitValues, List.map_cons, List.map_nil, Nat.toNat_digitChar_of_lt_ten small]
        change 10 * 0 + (48 + number - 48) = number
        omega
      · have last : number % 10 < 10 := by omega
        rw [Nat.toDigits_of_base_le (by decide) (by omega)]
        have before := ih (number / 10) (by omega)
        simp only [Text.digitsValue, digitValues, List.map_append, List.map_cons, List.map_nil,
          List.foldl_append, List.foldl_cons, List.foldl_nil] at before ⊢
        rw [before, Nat.toNat_digitChar_of_lt_ten last]
        change 10 * (number / 10) + (48 + number % 10 - 48) = number
        omega

/-- Only zero is written with a leading zero. -/
theorem toDigits_head (number : Nat) (positive : 0 < number) :
    (Nat.toDigits 10 number).head? ≠ some '0' := by
  induction number using Nat.strongRecOn with
  | ind number ih =>
      by_cases small : number < 10
      · rw [Nat.toDigits_of_lt_base small]
        have nonzero : ∀ digit, digit < 10 → 0 < digit → [digit.digitChar].head? ≠ some '0' := by
          decide
        exact nonzero number small positive
      · rw [Nat.toDigits_of_base_le (by decide) (by omega),
          List.head?_append_of_ne_nil _ Nat.toDigits_ne_nil]
        exact ih (number / 10) (by omega) (by omega)

/-- All figures up to the end of the number are taken. -/
theorem takeDigits_ended {digits : List Char} {rest : List Symbol}
    (every : ∀ digit ∈ digits, digit.isDigit = true) (ends : EndsNumber rest) :
    takeDigits (scalars digits ++ rest) = (digits, rest) := by
  have figures : ∀ symbol ∈ scalars digits, isFigure symbol = true := by
    intro symbol listed
    obtain ⟨digit, present, rfl⟩ := List.mem_map.mp listed
    exact every digit present
  rw [takeDigits, List.takeWhile_append_of_pos figures, List.dropWhile_append_of_pos figures]
  cases rest with
  | nil => simp
  | cons first others =>
      have stops := (ends first rfl).1
      simp [stops]

/-- The figures of a whole number are read to the last one. -/
theorem readWholeDigits?_toDigits (number : Nat) {rest : List Symbol} (ends : EndsNumber rest) :
    readWholeDigits? (scalars (Nat.toDigits 10 number) ++ rest) =
      some (Nat.toDigits 10 number, rest) := by
  have every : ∀ digit ∈ Nat.toDigits 10 number, digit.isDigit = true := fun digit listed =>
    Nat.isDigit_of_mem_toDigits (by decide) (by decide) listed
  have taken := takeDigits_ended every ends
  by_cases zero : number = 0
  · subst zero
    rfl
  · have leading := toDigits_head number (by omega)
    have nonempty : Nat.toDigits 10 number ≠ [] := Nat.toDigits_ne_nil
    unfold readWholeDigits?
    split
    · next others same =>
      obtain ⟨digit, figures, digits⟩ := List.exists_cons_of_ne_nil nonempty
      rw [digits] at same leading
      cases same
      exact absurd rfl leading
    · simp [taken, nonempty]

/-- No fraction follows a number that ends. -/
theorem readFraction?_ended {rest : List Symbol} (ends : EndsNumber rest) :
    readFraction? rest = none := by
  unfold readFraction?
  split
  · exact absurd rfl (ends '.' rfl).2.1
  · rfl

/-- No exponent follows a number that ends. -/
theorem readExponent?_ended {rest : List Symbol} (ends : EndsNumber rest) :
    readExponent? rest = none := by
  cases rest with
  | nil => rfl
  | cons first others =>
      obtain ⟨-, -, small, capital⟩ := ends first rfl
      simp [readExponent?, small, capital]

/-- A written magnitude is read as one number. -/
theorem readNumber?_toDigits [Host] (negative : Bool) {number : Nat} {rest : List Symbol}
    (writable : exceededLimit? (Nat.toDigits 10 number).length = none)
    (ends : EndsNumber rest) :
    readNumber? negative (scalars (Nat.toDigits 10 number) ++ rest) =
      some (.scalar (.integer (if negative then -(number : Int) else number)), rest) := by
  simp only [readNumber?, readWholeDigits?_toDigits number ends, readFraction?_ended ends,
    readExponent?_ended ends, digitsValue_toDigits, Option.map_none, Option.getD_none,
    Option.isNone_none, Bool.and_self, if_true, writable, bind, Option.bind, pure]

/-- Control characters without a short escape are written by their code, and in ASCII so are all
characters beyond it. -/
def isCoded (charset : Charset) (character : Char) : Bool :=
  (character < ' ' && !(character == '\n' || character == '\r' || character == '\t' ||
    character.toNat == 8 || character.toNat == 12)) || (charset == .ascii && character > '~')

/-- The units of sixteen bits that make up a code. -/
def unitsOf (code : Nat) : List Nat :=
  if code < 0x10000 then [code]
  else [0xD800 + (code - 0x10000) / 0x400, 0xDC00 + (code - 0x10000) % 0x400]

/-- What reading finds where a character was written. -/
def fragmentsOf (charset : Charset) (character : Char) : List Fragment :=
  if isCoded charset character then (unitsOf character.toNat).map .unit
  else [.symbol character]

/-- A character is given by its code. -/
theorem char_eq_of_toNat {character : Char} {code : Nat} (same : character.toNat = code) :
    character = Char.ofNat code := by
  rw [← same, Char.ofNat_toNat]

/-- No character is half of a pair. -/
theorem char_code_valid (character : Char) :
    character.toNat < 0xD800 ∨ 0xDFFF < character.toNat ∧ character.toNat < 0x110000 :=
  character.valid

/-- A symbol that needs no escape is read as it is. -/
theorem readFragments?_unescaped {symbol : Symbol} (rest : List Symbol) (quote : symbol ≠ '"')
    (unescaped : standsUnescaped symbol = true) :
    readFragments? (symbol :: rest) =
      (readFragments? rest).map fun (fragments, remaining) =>
        (.symbol symbol :: fragments, remaining) := by
  rw [readFragments?.eq_def]
  split
  · next same => cases same
  · next same =>
    cases same
    exact absurd rfl quote
  · next same =>
    cases same
    cases unescaped
  · next same =>
    cases same
    cases unescaped
  · next same =>
    cases same
    simp only [unescaped, if_true]
    cases readFragments? rest <;> rfl

/-- Characters that stand for themselves are read as they are. -/
theorem readFragments?_plain {character : Char} (rest : List Symbol) (quote : character ≠ '"')
    (slash : character ≠ '\\') (visible : ¬ character < ' ') :
    readFragments? (.scalar character :: rest) =
      (readFragments? rest).map fun (fragments, remaining) =>
        (.symbol character :: fragments, remaining) := by
  refine readFragments?_unescaped rest (fun same => quote (Symbol.scalar.inj same)) ?_
  simp only [standsUnescaped, Bool.and_eq_true, bne_iff_ne, decide_eq_true_eq]
  exact ⟨slash, Char.not_lt.mp visible⟩

/-- A figure of base sixteen is read as its value. -/
theorem hexValue?_hexDigit : ∀ digit < 16, hexValue? (Text.hexDigit digit) = some digit := by
  decide

/-- Four digits hold a unit. -/
theorem hexUnit?_hexDigits {unit : Nat} (small : unit < 0x10000) :
    ∃ first second third fourth, Text.hexDigits 4 unit = [first, second, third, fourth] ∧
      hexUnit? first second third fourth = some unit := by
  refine ⟨_, _, _, _, rfl, ?_⟩
  have digit (number : Nat) : hexValue? (Text.hexDigit (number % 16)) = some (number % 16) :=
    hexValue?_hexDigit _ (Nat.mod_lt _ (by decide))
  simp only [hexUnit?, digit, bind, Option.bind, pure, Option.some.injEq]
  omega

/-- The escape of a unit is read as the unit. -/
theorem readFragments?_unit {unit : Nat} (small : unit < 0x10000) (rest : List Symbol) :
    readFragments? (scalars (escapedUnit unit) ++ rest) =
      (readFragments? rest).map fun (fragments, remaining) =>
        (.unit unit :: fragments, remaining) := by
  obtain ⟨first, second, third, fourth, digits, read⟩ := hexUnit?_hexDigits small
  rw [escapedUnit, digits]
  simp only [Text.scalars_cons, Text.scalars_nil, List.cons_append, List.nil_append,
    readFragments?, read, bind, Option.bind, pure]
  cases readFragments? rest <;> rfl

/-- A code is read as its units. -/
theorem readFragments?_code {code : Nat} (valid : code < 0x110000) (rest : List Symbol) :
    readFragments? (scalars (escapedCode code) ++ rest) =
      (readFragments? rest).map fun (fragments, remaining) =>
        ((unitsOf code).map .unit ++ fragments, remaining) := by
  unfold escapedCode unitsOf
  by_cases small : code < 0x10000
  · rw [if_pos small, if_pos small]
    exact readFragments?_unit small rest
  · rw [if_neg small, if_neg small, Text.scalars_append, List.append_assoc,
      readFragments?_unit (by omega), readFragments?_unit (by omega), Option.map_map]
    rfl

/-- A short escape is read as the character it stands for. -/
theorem readFragments?_escape {character escape : Char} (rest : List Symbol)
    (notCode : escape ≠ 'u') (short : shortEscape? escape = some character) :
    readFragments? (.scalar '\\' :: .scalar escape :: rest) =
      (readFragments? rest).map fun (fragments, remaining) =>
        (.symbol character :: fragments, remaining) := by
  rw [readFragments?]
  · simp only [short, bind, Option.bind, pure]
    cases readFragments? rest <;> rfl
  · rintro first second third fourth others rfl
    exact notCode

/-- A character is written by a short escape, by its code or as it is. -/
theorem writtenCharacter_cases (charset : Charset) (character : Char) :
    (∃ escape, escape ≠ 'u' ∧ shortEscape? escape = some character ∧
      isCoded charset character = false ∧
        writtenCharacter charset character = ['\\', escape]) ∨
    (isCoded charset character = true ∧
      writtenCharacter charset character = escapedCode character.toNat) ∨
    (¬ character < ' ' ∧ character ≠ '"' ∧ character ≠ '\\' ∧ isCoded charset character = false ∧
      writtenCharacter charset character = [character]) := by
  by_cases escaped : character ∈ ['"', '\\', '\n', '\r', '\t', Char.ofNat 8, Char.ofNat 12]
  · simp only [List.mem_cons, List.not_mem_nil, or_false] at escaped
    left
    rcases escaped with rfl | rfl | rfl | rfl | rfl | rfl | rfl
    · exact ⟨'"', by decide, rfl, by cases charset <;> rfl, rfl⟩
    · exact ⟨'\\', by decide, rfl, by cases charset <;> rfl, rfl⟩
    · exact ⟨'n', by decide, rfl, by cases charset <;> rfl, rfl⟩
    · exact ⟨'r', by decide, rfl, by cases charset <;> rfl, rfl⟩
    · exact ⟨'t', by decide, rfl, by cases charset <;> rfl, rfl⟩
    · exact ⟨'b', by decide, rfl, by cases charset <;> rfl, rfl⟩
    · exact ⟨'f', by decide, rfl, by cases charset <;> rfl, rfl⟩
  · simp only [List.mem_cons, List.not_mem_nil, or_false, not_or] at escaped
    obtain ⟨quote, slash, newline, carriage, tab, backspace, feed⟩ := escaped
    have notBackspace : character.toNat ≠ 8 := fun same => backspace (char_eq_of_toNat same)
    have notFeed : character.toNat ≠ 12 := fun same => feed (char_eq_of_toNat same)
    have coded : isCoded charset character =
        (decide (character < ' ') || (charset == .ascii && character > '~')) := by
      simp only [isCoded, beq_eq_false_iff_ne.mpr newline, beq_eq_false_iff_ne.mpr carriage,
        beq_eq_false_iff_ne.mpr tab, beq_eq_false_iff_ne.mpr notBackspace,
        beq_eq_false_iff_ne.mpr notFeed, Bool.or_self, Bool.not_false, Bool.and_true]
    have written : writtenCharacter charset character =
        if character < ' ' then escapedCode character.toNat
        else if charset == .ascii && character > '~' then escapedCode character.toNat
        else [character] := by
      simp only [writtenCharacter, beq_iff_eq, quote, slash, newline, carriage, tab,
        notBackspace, notFeed, if_false]
    rw [coded, written]
    by_cases control : character < ' '
    · exact .inr (.inl ⟨by simp [control], if_pos control⟩)
    · rw [if_neg control]
      cases beyond : charset == .ascii && character > '~' with
      | true => exact .inr (.inl ⟨by simp, if_pos rfl⟩)
      | false => exact .inr (.inr ⟨control, quote, slash, by simp [control], if_neg (by simp)⟩)

/-- Each written character is read as its fragments. -/
theorem readFragments?_character (charset : Charset) (character : Char) (rest : List Symbol) :
    readFragments? (scalars (writtenCharacter charset character) ++ rest) =
      (readFragments? rest).map fun (fragments, remaining) =>
        (fragmentsOf charset character ++ fragments, remaining) := by
  rcases writtenCharacter_cases charset character with
    ⟨escape, notCode, short, uncoded, written⟩ | ⟨coded, written⟩ |
      ⟨visible, quote, slash, uncoded, written⟩
  · rw [written, fragmentsOf, if_neg (by simp [uncoded])]
    exact readFragments?_escape rest notCode short
  · rw [written, fragmentsOf, if_pos coded]
    have valid := char_code_valid character
    exact readFragments?_code (by omega) rest
  · rw [written, fragmentsOf, if_neg (by simp [uncoded])]
    exact readFragments?_plain rest quote slash visible

/-- A written text is read up to its quote. -/
theorem readFragments?_text (charset : Charset) (text : List Char) (rest : List Symbol) :
    readFragments? (scalars (text.flatMap (writtenCharacter charset)) ++ .scalar '"' :: rest) =
      some (text.flatMap (fragmentsOf charset), rest) := by
  induction text with
  | nil => rfl
  | cons character others ih =>
      rw [List.flatMap_cons, Text.scalars_append, List.append_assoc, readFragments?_character, ih]
      rfl

/-- A unit that is no half of a pair is a character by itself. -/
theorem joinFragments_unit {code : Nat} (single : code < 0xD800 ∨ 0xDFFF < code)
    (fragments : List Fragment) :
    joinFragments (.unit code :: fragments) =
      .scalar (Char.ofNat code) :: joinFragments fragments := by
  have itself : Symbol.ofUnit code = .scalar (Char.ofNat code) :=
    dif_neg (by unfold Symbol.firstSurrogate; omega)
  have notHigh : isHighUnit code = false := by
    simp only [isHighUnit, Bool.and_eq_false_iff, decide_eq_false_iff_not]
    omega
  cases fragments with
  | nil => simp [joinFragments, itself]
  | cons next others => cases next <;> simp [joinFragments, notHigh, itself]

/-- The units of a code make up its character again. -/
theorem joinFragments_code (character : Char) (fragments : List Fragment) :
    joinFragments ((unitsOf character.toNat).map .unit ++ fragments) =
      .scalar character :: joinFragments fragments := by
  have valid := char_code_valid character
  unfold unitsOf
  by_cases small : character.toNat < 0x10000
  · rw [if_pos small]
    change joinFragments (.unit character.toNat :: fragments) = _
    rw [joinFragments_unit (by omega), Char.ofNat_toNat]
  · rw [if_neg small]
    set offset := character.toNat - 0x10000 with isOffset
    have high : isHighUnit (0xD800 + offset / 0x400) = true := by
      simp only [isHighUnit, Bool.and_eq_true, decide_eq_true_eq]
      omega
    have low : isLowUnit (0xDC00 + offset % 0x400) = true := by
      simp only [isLowUnit, Bool.and_eq_true, decide_eq_true_eq]
      omega
    have whole : 0x10000 + (0xD800 + offset / 0x400 - 0xD800) * 0x400 +
        (0xDC00 + offset % 0x400 - 0xDC00) = character.toNat := by omega
    simp only [List.map_cons, List.map_nil, List.cons_append, List.nil_append, joinFragments, high,
      low, Bool.and_self, if_true, whole, Char.ofNat_toNat]

/-- The fragments of a text make up the text again. -/
theorem joinFragments_text (charset : Charset) (text : List Char) :
    joinFragments (text.flatMap (fragmentsOf charset)) = scalars text := by
  induction text with
  | nil => rfl
  | cons character others ih =>
      rw [List.flatMap_cons, fragmentsOf]
      split
      · rw [joinFragments_code, ih, Text.scalars_cons]
      · rw [List.cons_append, List.nil_append, joinFragments, ih, Text.scalars_cons]

/-- The symbols of a plain text are written character by character. -/
theorem flatMap_writtenSymbol (charset : Charset) (text : List Char) :
    (scalars text).flatMap (writtenSymbol charset) =
      scalars (text.flatMap (writtenCharacter charset)) := by
  induction text with
  | nil => rfl
  | cons character others ih =>
      rw [Text.scalars_cons, List.flatMap_cons, List.flatMap_cons, ih, Text.scalars_append]
      rfl

/-- A written text is read as one token. -/
theorem readText?_written (charset : Charset) (text : String) (rest : List Symbol) :
    readText? ((Wording.plain text).symbols.flatMap (writtenSymbol charset) ++
        .scalar '"' :: rest) =
      some (.text text, rest) := by
  simp only [readText?, Wording.symbols, flatMap_writtenSymbol, readFragments?_text, bind,
    Option.bind, pure, joinFragments_text, Wording.ofSymbols_scalars, String.ofList_toList]

end SolidityAudit.Json
