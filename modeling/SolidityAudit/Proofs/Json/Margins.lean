import Mathlib.Data.List.Find
import SolidityAudit.Proofs.Json.Tokens
import SolidityAudit.Proofs.Outcome
import SolidityAudit.Proofs.Source.Lexemes
import SolidityAudit.Proofs.Text.Trim

namespace SolidityAudit.Json

open Text

/-- The character belongs to no token. -/
structure IsMarginal [Host] (margin : Char) : Prop where
  notDigit : margin.isDigit = false
  notHex : hexValue? margin = none
  notEscape : shortEscape? margin = none
  notSign : ∀ sign ∈ ['"', '\\', 'u', '.', '0', 'e', 'E', '+', '-'], margin ≠ sign
  notNamed : ∀ entry ∈ namedScalars, margin ∉ entry.1
  notStart : ∀ rest, readToken? (.scalar margin :: rest) = none

/-- White space belongs to no token. -/
theorem isMarginal_blank [Host] {margin : Char} (blank : isBlank margin = true) :
    IsMarginal margin := by
  have codes : ∀ code ∈ Source.blankCodes, hexValue? (Char.ofNat code) = none ∧
      shortEscape? (Char.ofNat code) = none ∧
      ∀ entry ∈ namedScalars, Char.ofNat code ∉ entry.1 := by
    decide
  have signs := @class_apart _ _ blank ['"', '\\', 'u', '.', '0', 'e', 'E', '+', '-'] (by decide)
  have start := readToken?_blank blank
  have digit := isDigit_blank blank
  obtain ⟨code, listed, rfl⟩ := Source.exists_blankCode blank
  obtain ⟨hex, escape, named⟩ := codes code listed
  exact ⟨digit, hex, escape, signs, named, start⟩

/-- What is read leaves the margin behind it. -/
def beforeMargin {α : Type} (margin : Char) (found : α × List Symbol) :
    α × List Symbol :=
  (found.1, found.2 ++ [.scalar margin])

/-- The escape of a code needs its four digits. -/
theorem readFragments?_noCode {digits : List Symbol}
    (short : ∀ first second third fourth rest, digits ≠ .scalar first :: .scalar second ::
      .scalar third :: .scalar fourth :: rest) :
    readFragments? (.scalar '\\' :: .scalar 'u' :: digits) = none := by
  rw [readFragments?]
  · rfl
  · intro first second third fourth others same
    exact absurd same (short first second third fourth others)

/-- An escape that is no code stands for one character or for none. -/
theorem readFragments?_shortEscape {escape : Char} (notCode : escape ≠ 'u') (rest : List Symbol) :
    readFragments? (.scalar '\\' :: .scalar escape :: rest) =
      (shortEscape? escape).bind fun character =>
        (readFragments? rest).map fun (fragments, remaining) =>
          (.symbol character :: fragments, remaining) := by
  cases short : shortEscape? escape with
  | some character => exact readFragments?_escape rest notCode short
  | none =>
      rw [readFragments?]
      · rw [short]
        rfl
      · rintro first second third fourth others rfl
        exact notCode

/-- Symbols that have to be escaped do not stand in a text as they are. -/
theorem readFragments?_refused {symbol : Symbol} {rest : List Symbol}
    (quote : symbol ≠ '"')
    (slash : ∀ escape others, symbol = '\\' → rest ≠ .scalar escape :: others)
    (refused : standsUnescaped symbol = false) : readFragments? (symbol :: rest) = none := by
  rw [readFragments?.eq_def]
  split <;> simp_all

section Lexemes

variable [Host] {margin : Char} (apart : IsMarginal margin)

include apart

/-- The margin ends a row of figures. -/
theorem takeDigits_margin (text : List Symbol) :
    takeDigits (text ++ [.scalar margin]) = beforeMargin margin (takeDigits text) := by
  have other : isFigure (.scalar margin) = false := apart.notDigit
  induction text with
  | nil => simp [takeDigits, beforeMargin, other]
  | cons first rest ih =>
      simp only [takeDigits, beforeMargin, Prod.mk.injEq] at ih
      cases figure : isFigure first <;>
        simp [takeDigits, beforeMargin, figure, ih.1, ih.2, List.filterMap_cons]

/-- The margin ends a whole number. -/
theorem readWholeDigits?_margin (text : List Symbol) :
    readWholeDigits? (text ++ [.scalar margin]) =
      (readWholeDigits? text).map (beforeMargin margin) := by
  by_cases zero : ∃ rest, text = .scalar '0' :: rest
  · obtain ⟨rest, rfl⟩ := zero
    rfl
  · have other : ¬ ∃ rest, text ++ [Symbol.scalar margin] = .scalar '0' :: rest := by
      rintro ⟨rest, same⟩
      cases text with
      | nil => exact apart.notSign '0' (by simp) (Symbol.scalar.inj (List.cons.inj same).1)
      | cons first others =>
          cases same
          exact zero ⟨others, rfl⟩
    simp only [not_exists] at zero other
    rw [readWholeDigits?, readWholeDigits?, takeDigits_margin apart]
    · by_cases none : (takeDigits text).1.isEmpty = true <;> simp [beforeMargin, none]
    · exact zero
    · exact other

/-- The margin ends a fraction. -/
theorem readFraction?_margin (text : List Symbol) :
    readFraction? (text ++ [.scalar margin]) = (readFraction? text).map (beforeMargin margin) := by
  cases text with
  | nil =>
      have other := apart.notSign '.' (by simp)
      simp [readFraction?, other]
  | cons first rest =>
      by_cases point : first = .scalar '.'
      · subst point
        simp only [List.cons_append, readFraction?, takeDigits_margin apart, beforeMargin]
        split <;> rfl
      · simp [readFraction?, point]

/-- The margin ends the figures of an exponent. -/
theorem readUnsignedExponent?_margin (negative : Bool) (text : List Symbol) :
    readUnsignedExponent? negative (text ++ [.scalar margin]) =
      (readUnsignedExponent? negative text).map (beforeMargin margin) := by
  simp only [readUnsignedExponent?, takeDigits_margin apart, beforeMargin]
  split <;> rfl

/-- The margin ends an exponent. -/
theorem readExponent?_margin (text : List Symbol) :
    readExponent? (text ++ [.scalar margin]) = (readExponent? text).map (beforeMargin margin) := by
  cases text with
  | nil =>
      have small := apart.notSign 'e' (by simp)
      have capital := apart.notSign 'E' (by simp)
      simp [readExponent?, small, capital]
  | cons mark rest =>
      simp only [List.cons_append, readExponent?]
      split
      · cases rest with
        | nil =>
            have minus := apart.notSign '-' (by simp)
            have plus := apart.notSign '+' (by simp)
            have same := readUnsignedExponent?_margin apart false []
            simpa [minus, plus] using same
        | cons sign digits =>
            by_cases minus : sign = .scalar '-'
            · subst minus
              exact readUnsignedExponent?_margin apart true digits
            · by_cases plus : sign = .scalar '+'
              · subst plus
                exact readUnsignedExponent?_margin apart false digits
              · have same := readUnsignedExponent?_margin apart false (sign :: digits)
                simpa [minus, plus] using same
      · rfl

/-- The margin ends a number. -/
theorem readNumber?_margin (negative : Bool) (text : List Symbol) :
    readNumber? negative (text ++ [.scalar margin]) =
      (readNumber? negative text).map (beforeMargin margin) := by
  rw [readNumber?, readNumber?, readWholeDigits?_margin apart]
  cases readWholeDigits? text with
  | none => rfl
  | some found =>
      rcases found with ⟨whole, rest⟩
      have fraction := readFraction?_margin apart rest
      simp only [Option.map_some, beforeMargin, bind, Option.bind] at fraction ⊢
      rw [fraction]
      cases readFraction? rest with
      | none =>
          simp only [Option.map_none, Option.getD_none, readExponent?_margin apart rest]
          cases readExponent? rest with
          | none => cases exceededLimit? whole.length <;> rfl
          | some exponent => rfl
      | some found =>
          simp only [Option.map_some, Option.getD_some, beforeMargin,
            readExponent?_margin apart found.2]
          cases readExponent? found.2 <;> rfl

/-- The margin completes no word. -/
theorem readNamed?_margin (text : List Symbol) :
    readNamed? (text ++ [.scalar margin]) = (readNamed? text).map (beforeMargin margin) := by
  have same : ∀ entry ∈ namedScalars,
      (scalars entry.1).isPrefixOf (text ++ [Symbol.scalar margin]) =
        (scalars entry.1).isPrefixOf text := by
    intro entry listed
    rw [Bool.eq_iff_iff, List.isPrefixOf_iff_prefix, List.isPrefixOf_iff_prefix,
      List.prefix_concat_iff]
    refine or_iff_right ?_
    intro whole
    have present : Symbol.scalar margin ∈ scalars entry.1 := by simp [whole]
    obtain ⟨character, stands, same⟩ := List.mem_map.mp present
    cases same
    exact apart.notNamed entry listed stands
  rw [readNamed?, readNamed?, List.find?_congr same]
  cases found : namedScalars.find? fun entry => (scalars entry.1).isPrefixOf text with
  | none => rfl
  | some entry =>
      have starts : (scalars entry.1).isPrefixOf text = true := by
        simpa using List.find?_some found
      have short : entry.1.length ≤ text.length := by
        simpa [scalars] using (List.isPrefixOf_iff_prefix.mp starts).length_le
      simp [beforeMargin, List.drop_append_of_le_length short]

/-- The margin is no figure of base sixteen. -/
theorem hexUnit?_margin (first second third : Char) :
    hexUnit? first second third margin = none := by
  simp [hexUnit?, apart.notHex]

/-- The margin does not complete the code of an escape. -/
theorem readFragments?_codeMargin {rest : List Symbol}
    (short : ∀ first second third fourth others, rest ≠ .scalar first :: .scalar second ::
      .scalar third :: .scalar fourth :: others) :
    readFragments? (.scalar '\\' :: .scalar 'u' :: (rest ++ [.scalar margin])) = none := by
  by_cases three : ∃ first second third : Char,
      rest = [.scalar first, .scalar second, .scalar third]
  · obtain ⟨first, second, third, rfl⟩ := three
    simp [readFragments?, hexUnit?_margin apart]
  · refine readFragments?_noCode ?_
    intro first second third fourth others same
    rcases rest with _ | ⟨_, _ | ⟨_, _ | ⟨_, _ | ⟨_, rest⟩⟩⟩⟩
    · simp at same
    · simp at same
    · simp at same
    · cases same
      exact three ⟨first, second, third, rfl⟩
    · cases same
      exact short first second third fourth rest rfl

/-- The margin after a text is no part of it. -/
theorem readFragments?_margin (text : List Symbol) :
    readFragments? (text ++ [.scalar margin]) =
      (readFragments? text).map (beforeMargin margin) := by
  have notQuote := apart.notSign '"' (by simp)
  have notSlash := apart.notSign '\\' (by simp)
  have notCode := apart.notSign 'u' (by simp)
  fun_induction readFragments? text with
  | case1 =>
      by_cases control : margin < ' '
      · have refused : standsUnescaped (.scalar margin) = false := by
          simp [standsUnescaped, Char.not_le.mpr control]
        exact readFragments?_refused (fun same => notQuote (Symbol.scalar.inj same))
          (fun _ _ same => absurd (Symbol.scalar.inj same) notSlash) refused
      · exact readFragments?_plain [] notQuote notSlash control
  | case2 rest => rfl
  | case3 first second third fourth rest ih =>
      simp only [List.cons_append, readFragments?, ih]
      cases hexUnit? first second third fourth with
      | none => rfl
      | some unit => cases readFragments? rest <;> rfl
  | case4 escape rest other ih =>
      by_cases code : escape = 'u'
      · subst code
        exact readFragments?_codeMargin apart fun first second third fourth others same =>
          other first second third fourth others same rfl
      · simp only [List.cons_append, readFragments?_shortEscape code, ih]
        cases shortEscape? escape with
        | none => rfl
        | some character => cases readFragments? rest <;> rfl
  | case5 symbol rest quote code escape plain ih =>
      rw [List.cons_append, readFragments?_unescaped _ quote plain, ih]
      cases readFragments? rest <;> rfl
  | case6 symbol rest quote code escape refused =>
      rw [Bool.not_eq_true] at refused
      by_cases bare : symbol = .scalar '\\' ∧ rest = []
      · obtain ⟨rfl, rfl⟩ := bare
        rw [List.cons_append, List.nil_append, readFragments?_shortEscape notCode,
          apart.notEscape]
        rfl
      · refine readFragments?_refused quote (fun character others slash same => ?_) refused
        cases rest with
        | nil => exact bare ⟨slash, rfl⟩
        | cons second rest =>
            cases same
            exact escape character rest slash rfl

/-- The margin after a text token is no part of it. -/
theorem readText?_margin (text : List Symbol) :
    readText? (text ++ [.scalar margin]) = (readText? text).map (beforeMargin margin) := by
  rw [readText?, readText?, readFragments?_margin apart]
  cases readFragments? text <;> rfl

/-- White space after a token does not change it. -/
theorem readToken?_margin (first : Symbol) (rest : List Symbol) :
    readToken? (first :: (rest ++ [.scalar margin])) =
      (readToken? (first :: rest)).map (beforeMargin margin) := by
  have named := readNamed?_margin apart (first :: rest)
  have signed := readNumber?_margin apart true rest
  have unsigned := readNumber?_margin apart false (first :: rest)
  rw [List.cons_append] at named unsigned
  rw [readToken?.eq_def, readToken?.eq_def (first :: rest)]
  split
  case h_1 same => cases same
  case h_8 same =>
    cases same
    exact readText?_margin apart rest
  case h_9 same =>
    cases same
    change _ = ((readNamed? (.scalar '-' :: rest)).or (readNumber? true rest)).map
      (beforeMargin margin)
    rw [named, signed, Option.map_or]
  case h_10 =>
    split
    case h_10 => rw [named, unsigned, Option.map_or]
    all_goals simp_all
  all_goals
    next same =>
    cases same
    rfl

end Lexemes

section Tokens

variable [Host] {margin : Char}

/-- The margin adds no token, or a token that ends the reading. -/
theorem tokensFrom_margin (apart : IsMarginal margin) (skip : Nat) (text : List Symbol) :
    tokensFrom skip (text ++ [.scalar margin]) = tokensFrom skip text ∨
      tokensFrom skip (text ++ [.scalar margin]) = tokensFrom skip text ++ [.invalid] := by
  fun_induction tokensFrom skip text with
  | case1 skip =>
      cases skip with
      | zero =>
          by_cases blank : isTokenBlank margin = true
          · exact .inl (tokens_blank blank [])
          · exact .inr (by simp [tokensFrom, blank, apart.notStart])
      | succ skip => exact .inl rfl
  | case2 skip symbol rest ih => exact ih
  | case3 symbol rest blank ih =>
      rw [List.cons_append, tokensFrom, if_pos blank]
      exact ih
  | case4 symbol rest visible unread =>
      refine .inl ?_
      rw [List.cons_append, tokensFrom, if_neg visible, readToken?_margin apart, unread]
      rfl
  | case5 symbol rest visible token remaining read ih =>
      rw [List.cons_append, tokensFrom, if_neg visible, readToken?_margin apart, read]
      simp only [Option.map_some, beforeMargin, List.length_append, Nat.add_sub_add_right,
        List.cons_append, List.cons.injEq, true_and]
      exact ih

/-- Nothing is read with an invalid token. -/
theorem step_invalid (state : State) : state.step .invalid = .error .malformed := by
  rcases state with ⟨expectation, frames⟩
  cases expectation <;> rfl

/-- Tokens are taken one list after the other. -/
theorem run_append (state : State) (taken more : List Token) :
    state.run (taken ++ more) = state.run taken >>= (State.run · more) := by
  induction taken generalizing state with
  | nil => rfl
  | cons token rest ih =>
      rw [List.cons_append, State.run, State.run]
      cases state.step token with
      | error fault => rfl
      | ok next => exact ih next

/-- White space after a text does not change what is read. -/
theorem read_margin (apart : IsMarginal margin) {text : List Symbol} {value : Value}
    (reading : read (text ++ [.scalar margin]) = .ok value) : read text = .ok value := by
  unfold read tokens at reading ⊢
  rcases tokensFrom_margin apart 0 text with same | invalid
  · rwa [same] at reading
  · rw [invalid, run_append] at reading
    obtain ⟨last, ran, -⟩ := bind_eq_ok.mp reading
    obtain ⟨before, -, ran⟩ := bind_eq_ok.mp ran
    rw [State.run, step_invalid] at ran
    cases ran

/-- A text that can be read may be trimmed at its end. -/
theorem read_trimRight {text : List Symbol} {value : Value} (reading : read text = .ok value) :
    read (trimRightBy Symbol.isBlank text) = .ok value := by
  rw [trimRightBy_eq]
  induction text using List.reverseRecOn with
  | nil => exact reading
  | append_singleton front last ih =>
      rw [List.rdropWhile_concat]
      split
      · next blank =>
        obtain ⟨margin⟩ | ⟨offset⟩ := last
        · exact ih (read_margin (isMarginal_blank blank) reading)
        · cases blank
      · exact reading

end Tokens

end SolidityAudit.Json
