import SolidityAudit.Json.Reader
import SolidityAudit.Proofs.Json.Lexemes

namespace SolidityAudit.Json

open Text (Symbol Wording scalars)

mutual

/-- A value of plain texts without fractional numbers whose objects have distinct names, with at
most so many containers inside each other. -/
def Value.isPlain : (room : Nat) → Value → Bool
  | _, .real _ => false
  | _, .text words => words.isPlain
  | room, .array items => decide (0 < room) && Value.arePlain (room - 1) items
  | room, .object members =>
      decide (0 < room) && decide (members.map Prod.fst).Nodup &&
        Value.havePlain (room - 1) members
  | _, _ => true

/-- Values of this kind in a list. -/
def Value.arePlain : (room : Nat) → List Value → Bool
  | _, [] => true
  | room, item :: rest => item.isPlain room && Value.arePlain room rest

/-- Values of this kind in an object, under plain names. -/
def Value.havePlain : (room : Nat) → List (Wording × Value) → Bool
  | _, [] => true
  | room, (name, value) :: rest =>
      name.isPlain && value.isPlain room && Value.havePlain room rest

end

mutual

/-- The tokens of a value, whatever the blanks between them. -/
def valueTokens : Value → List Token
  | .text value => [.text value]
  | .array [] => [.openArray, .closeArray]
  | .array (item :: rest) => .openArray :: valueTokens item ++ itemTokens rest ++ [.closeArray]
  | .object [] => [.openObject, .closeObject]
  | .object ((name, value) :: rest) =>
      .openObject :: .text name :: .colon :: valueTokens value ++ memberTokens rest ++
        [.closeObject]
  | scalar => [.scalar scalar]

/-- The tokens of the items after the first. -/
def itemTokens : List Value → List Token
  | [] => []
  | item :: rest => .comma :: valueTokens item ++ itemTokens rest

/-- The tokens of the members after the first. -/
def memberTokens : List (Wording × Value) → List Token
  | [] => []
  | (name, value) :: rest =>
      .comma :: .text name :: .colon :: valueTokens value ++ memberTokens rest

end

section Obstacles

variable [Host] {bound : Nat}

/-- No obstacle is met in an array if there is room for it and none is met in its items. -/
theorem obstacle?_array {items : List Value} :
    (Value.array items).obstacle? bound = none ↔
      0 < bound ∧ obstacleAmong? (bound - 1) items = none := by
  cases bound with
  | zero => simp [Value.obstacle?]
  | succ bound => simp [Value.obstacle?]

/-- No obstacle is met in an object if there is room for it and none is met in its members. -/
theorem obstacle?_object {members : List (Wording × Value)} :
    (Value.object members).obstacle? bound = none ↔
      0 < bound ∧ obstacleWithin? (bound - 1) members = none := by
  cases bound with
  | zero => simp [Value.obstacle?]
  | succ bound => simp [Value.obstacle?]

/-- No obstacle is met in a list if none is met in its first item and in the others. -/
theorem obstacleAmong?_cons {item : Value} {rest : List Value} :
    obstacleAmong? bound (item :: rest) = none ↔
      item.obstacle? bound = none ∧ obstacleAmong? bound rest = none := by
  rw [obstacleAmong?, Option.or_eq_none_iff]

/-- No obstacle is met in members if none is met in the first and in the others. -/
theorem obstacleWithin?_cons {name : Wording} {value : Value} {rest : List (Wording × Value)} :
    obstacleWithin? bound ((name, value) :: rest) = none ↔
      value.obstacle? bound = none ∧ obstacleWithin? bound rest = none := by
  rw [obstacleWithin?, Option.or_eq_none_iff]

/-- A whole number is no obstacle if it has no figures too many. -/
theorem obstacle?_integer {value : Int} :
    (Value.integer value).obstacle? bound = none ↔ exceededLimit? (figureCount value) = none := by
  rw [Value.obstacle?, integerObstacle?, Option.map_eq_none_iff]

end Obstacles

variable [Host]

/-- What belongs to the last token is passed over. -/
theorem tokensFrom_skip (first rest : List Symbol) :
    tokensFrom first.length (first ++ rest) = tokens rest := by
  induction first with
  | nil => rfl
  | cons symbol others ih => exact ih

/-- The token at the front is followed by the tokens of what remains. -/
theorem tokens_token {symbol : Symbol} {others rest : List Symbol} {token : Token}
    (visible : isTokenBlank symbol = false)
    (read : readToken? (symbol :: (others ++ rest)) = some (token, rest)) :
    tokens (symbol :: (others ++ rest)) = token :: tokens rest := by
  have skipped := tokensFrom_skip others rest
  rw [tokens, tokensFrom]
  simp only [visible, Bool.false_eq_true, if_false, read, List.length_append, Nat.add_sub_cancel]
  rw [skipped]

/-- A blank belongs to no token. -/
theorem tokens_blank {symbol : Symbol} (blank : isTokenBlank symbol = true)
    (rest : List Symbol) : tokens (symbol :: rest) = tokens rest := by
  rw [tokens, tokensFrom, if_pos blank]
  rfl

/-- The blanks between two lines belong to no token. -/
theorem tokens_lineBreak (depth : Nat) (rest : List Symbol) :
    tokens (lineBreak depth ++ rest) = tokens rest := by
  have spaces (count : Nat) :
      tokens (scalars (List.replicate count ' ') ++ rest) = tokens rest := by
    induction count with
    | zero => rfl
    | succ count ih =>
        rw [List.replicate_succ, Text.scalars_cons, List.cons_append, tokens_blank (by decide), ih]
  rw [lineBreak, Text.scalars_cons, List.cons_append, tokens_blank (by decide), spaces]

/-- A written text is one token. -/
theorem tokens_text (charset : Charset) {text : Wording} (plain : text.isPlain = true)
    (rest : List Symbol) :
    tokens (writtenText charset text ++ rest) = .text text :: tokens rest := by
  obtain ⟨text⟩ | ⟨text⟩ := text
  case broken => cases plain
  have read := readText?_written charset text rest
  have shape : writtenText charset text ++ rest =
      .scalar '"' :: (((Wording.plain text).symbols.flatMap (writtenSymbol charset) ++
        [.scalar '"']) ++ rest) := by
    simp [writtenText]
  rw [shape]
  apply tokens_token (by decide)
  rw [List.append_assoc]
  exact read

omit [Host] in
/-- A character of one class differs from the characters outside it. -/
theorem class_apart {inClass : Char → Bool} {character : Char} (inside : inClass character = true)
    {others : List Char} (outside : others.all (fun other => !inClass other) = true) :
    ∀ other ∈ others, character ≠ other := by
  rintro other listed rfl
  have unlike := List.all_eq_true.mp outside character listed
  simp [inside] at unlike

omit [Host] in
/-- A digit starts none of the words that stand for values. -/
theorem readNamed?_digit {digit : Char} (isDigit : digit.isDigit = true) (rest : List Symbol) :
    readNamed? (.scalar digit :: rest) = none ∧
      readNamed? (.scalar '-' :: .scalar digit :: rest) = none := by
  have apart := @class_apart _ _ isDigit ['n', 't', 'f', 'N', 'I', '-'] (by decide)
  simp only [List.mem_cons, List.not_mem_nil, or_false, forall_eq_or_imp, forall_eq] at apart
  obtain ⟨null, yes, no, undefined, infinite, minus⟩ := apart
  simp [readNamed?, namedScalars, List.isPrefixOf, null.symm, yes.symm, no.symm, undefined.symm,
    infinite.symm, minus.symm]

/-- A digit starts a number. -/
theorem readToken?_digit {digit : Char} (isDigit : digit.isDigit = true) (rest : List Symbol) :
    readToken? (.scalar digit :: rest) = readNumber? false (.scalar digit :: rest) ∧
      readToken? (.scalar '-' :: .scalar digit :: rest) =
        readNumber? true (.scalar digit :: rest) := by
  obtain ⟨plain, signed⟩ := readNamed?_digit isDigit rest
  have apart := @class_apart _ _ isDigit ['\x7b', '\x7d', '[', ']', ':', ',', '"', '-'] (by decide)
  simp only [List.mem_cons, List.not_mem_nil, or_false, forall_eq_or_imp, forall_eq] at apart
  constructor
  · rw [readToken?.eq_def]
    split <;> simp_all
  · simp only [readToken?, signed, Option.none_or]

/-- A written whole number is one token if nothing after it can continue it. -/
theorem tokens_integer {value : Int} {rest : List Symbol}
    (writable : exceededLimit? (figureCount value) = none) (ends : EndsNumber rest) :
    tokens (scalars (writtenInteger value) ++ rest) = .scalar (.integer value) :: tokens rest := by
  obtain ⟨digit, others, digits⟩ :=
    List.exists_cons_of_ne_nil (@Nat.toDigits_ne_nil value.natAbs 10)
  have isDigit : digit.isDigit = true :=
    Nat.isDigit_of_mem_toDigits (by decide) (by decide) (show digit ∈ Nat.toDigits 10 _ by
      rw [digits]; simp)
  obtain ⟨plain, signed⟩ := readToken?_digit isDigit (scalars others ++ rest)
  have number (negative : Bool) := readNumber?_toDigits negative writable ends
  rw [digits, Text.scalars_cons, List.cons_append] at number
  unfold writtenInteger
  split
  · next negative =>
    have same : -(value.natAbs : Int) = value := by omega
    rw [digits, Text.scalars_cons, List.cons_append]
    apply tokens_token (by decide)
    rw [Text.scalars_cons, List.cons_append, signed, number true, if_pos rfl, same]
  · next positive =>
    have same : (value.natAbs : Int) = value := by omega
    have visible : isTokenBlank (.scalar digit) = false := by
      have apart := @class_apart _ _ isDigit [' ', '\t', '\n', '\r'] (by decide)
      simpa [isTokenBlank, and_assoc] using apart
    rw [digits, Text.scalars_cons, List.cons_append]
    apply tokens_token visible
    rw [plain, number false, if_neg (by decide), same]

omit [Host] in
/-- A number ends with its line. -/
theorem endsNumber_lineBreak (depth : Nat) (rest : List Symbol) :
    EndsNumber (lineBreak depth ++ rest) :=
  endsNumber_cons _ (by decide)

omit [Host] in
/-- A number ends before the next item. -/
theorem endsNumber_items (charset : Charset) (depth : Nat) (items : List Value)
    {rest : List Symbol} (ends : EndsNumber rest) :
    EndsNumber (writtenItems charset depth items ++ rest) := by
  cases items with
  | nil => simpa [writtenItems] using ends
  | cons item others => exact endsNumber_cons _ (by decide)

omit [Host] in
/-- A number ends before the next member. -/
theorem endsNumber_members (charset : Charset) (depth : Nat) (members : List (Wording × Value))
    {rest : List Symbol} (ends : EndsNumber rest) :
    EndsNumber (writtenMembers charset depth members ++ rest) := by
  cases members with
  | nil => simpa [writtenMembers] using ends
  | cons member others => exact endsNumber_cons _ (by decide)

/-- A sign is a token by itself. -/
theorem tokens_sign {sign : Char} {token : Token} (visible : isTokenBlank sign = false)
    (read : ∀ rest, readToken? (.scalar sign :: rest) = some (token, rest)) (rest : List Symbol) :
    tokens (.scalar sign :: rest) = token :: tokens rest := by
  have single := @tokens_token _ sign [] rest token visible (read rest)
  exact single

/-- An opening bracket is a token of its own. -/
theorem tokens_openArray (rest : List Symbol) :
    tokens (.scalar '[' :: rest) = .openArray :: tokens rest :=
  tokens_sign (by decide) (fun _ => rfl) rest

/-- So is a closing one. -/
theorem tokens_closeArray (rest : List Symbol) :
    tokens (.scalar ']' :: rest) = .closeArray :: tokens rest :=
  tokens_sign (by decide) (fun _ => rfl) rest

/-- An opening brace is a token of its own. -/
theorem tokens_openObject (rest : List Symbol) :
    tokens (.scalar '\x7b' :: rest) = .openObject :: tokens rest :=
  tokens_sign (by decide) (fun _ => rfl) rest

/-- So is a closing one. -/
theorem tokens_closeObject (rest : List Symbol) :
    tokens (.scalar '\x7d' :: rest) = .closeObject :: tokens rest :=
  tokens_sign (by decide) (fun _ => rfl) rest

/-- A comma is a token of its own. -/
theorem tokens_comma (rest : List Symbol) : tokens (.scalar ',' :: rest) = .comma :: tokens rest :=
  tokens_sign (by decide) (fun _ => rfl) rest

/-- A colon and the space after it are one token. -/
theorem tokens_colon (rest : List Symbol) :
    tokens (.scalar ':' :: .scalar ' ' :: rest) = .colon :: tokens rest := by
  rw [tokens_sign (by decide) (fun _ => rfl), tokens_blank (by decide)]

mutual

/-- A written value has the tokens of the value, whatever its depth and what follows it. -/
theorem tokens_value (charset : Charset) (depth room bound : Nat) :
    (value : Value) → (rest : List Symbol) → value.isPlain room = true →
      value.obstacle? bound = none → EndsNumber rest →
        tokens (writtenValue charset depth value ++ rest) = valueTokens value ++ tokens rest
  | .null, rest, _, _, _ => tokens_token (by decide) rfl
  | .bool true, rest, _, _, _ => tokens_token (by decide) rfl
  | .bool false, rest, _, _, _ => tokens_token (by decide) rfl
  | .integer value, rest, _, writable, ends => tokens_integer (obstacle?_integer.mp writable) ends
  | .text value, rest, plain, _, _ => tokens_text charset plain rest
  | .array [], rest, _, _, _ => by
      simp only [writtenValue, valueTokens, Text.scalars_cons, Text.scalars_nil, List.cons_append,
        List.nil_append, tokens_openArray, tokens_closeArray]
  | .array (item :: others), rest, plain, writable, ends => by
      simp only [Value.isPlain, Value.arePlain, Bool.and_eq_true] at plain
      obtain ⟨-, writable⟩ := obstacle?_array.mp writable
      obtain ⟨firstFits, othersFit⟩ := obstacleAmong?_cons.mp writable
      have closing := endsNumber_lineBreak depth (.scalar ']' :: rest)
      have first := tokens_value charset (depth + 1) (room - 1) (bound - 1) item _ plain.2.1
        firstFits (endsNumber_items charset (depth + 1) others closing)
      have after := tokens_items charset (depth + 1) (room - 1) (bound - 1) others _ plain.2.2
        othersFit closing
      simp only [writtenValue, valueTokens, List.cons_append, List.append_assoc, List.nil_append,
        tokens_openArray, tokens_lineBreak, first, after, tokens_closeArray]
  | .object [], rest, _, _, _ => by
      simp only [writtenValue, valueTokens, Text.scalars_cons, Text.scalars_nil, List.cons_append,
        List.nil_append, tokens_openObject, tokens_closeObject]
  | .object ((name, value) :: others), rest, plain, writable, ends => by
      simp only [Value.isPlain, Value.havePlain, Bool.and_eq_true] at plain
      obtain ⟨-, writable⟩ := obstacle?_object.mp writable
      obtain ⟨firstFits, othersFit⟩ := obstacleWithin?_cons.mp writable
      have closing := endsNumber_lineBreak depth (.scalar '\x7d' :: rest)
      have named := tokens_text charset plain.2.1.1
      have first := tokens_value charset (depth + 1) (room - 1) (bound - 1) value _ plain.2.1.2
        firstFits (endsNumber_members charset (depth + 1) others closing)
      have after := tokens_members charset (depth + 1) (room - 1) (bound - 1) others _ plain.2.2
        othersFit closing
      simp only [writtenValue, valueTokens, Text.scalars_cons, Text.scalars_nil, List.cons_append,
        List.append_assoc, List.nil_append, tokens_openObject, tokens_lineBreak, named,
        tokens_colon, first, after, tokens_closeObject]

/-- Written items have the tokens of the items. -/
theorem tokens_items (charset : Charset) (depth room bound : Nat) :
    (items : List Value) → (rest : List Symbol) → Value.arePlain room items = true →
      obstacleAmong? bound items = none → EndsNumber rest →
        tokens (writtenItems charset depth items ++ rest) = itemTokens items ++ tokens rest
  | [], rest, _, _, _ => rfl
  | item :: others, rest, plain, writable, ends => by
      simp only [Value.arePlain, Bool.and_eq_true] at plain
      obtain ⟨firstFits, othersFit⟩ := obstacleAmong?_cons.mp writable
      have first := tokens_value charset depth room bound item _ plain.1 firstFits
        (endsNumber_items charset depth others ends)
      have after := tokens_items charset depth room bound others rest plain.2 othersFit ends
      simp only [writtenItems, itemTokens, List.cons_append, List.append_assoc, tokens_comma,
        tokens_lineBreak, first, after]

/-- Written members have the tokens of the members. -/
theorem tokens_members (charset : Charset) (depth room bound : Nat) :
    (members : List (Wording × Value)) → (rest : List Symbol) →
      Value.havePlain room members = true → obstacleWithin? bound members = none →
        EndsNumber rest →
          tokens (writtenMembers charset depth members ++ rest) =
            memberTokens members ++ tokens rest
  | [], rest, _, _, _ => rfl
  | (name, value) :: others, rest, plain, writable, ends => by
      simp only [Value.havePlain, Bool.and_eq_true] at plain
      obtain ⟨firstFits, othersFit⟩ := obstacleWithin?_cons.mp writable
      have named := tokens_text charset plain.1.1
      have first := tokens_value charset depth room bound value _ plain.1.2 firstFits
        (endsNumber_members charset depth others ends)
      have after := tokens_members charset depth room bound others rest plain.2 othersFit ends
      simp only [writtenMembers, memberTokens, Text.scalars_cons, Text.scalars_nil,
        List.cons_append, List.append_assoc, List.nil_append, tokens_comma, tokens_lineBreak,
        named, tokens_colon, first, after]

end

omit [Host] in
/-- White space is no figure. -/
theorem isDigit_blank {character : Char} (blank : Text.isBlank character = true) :
    character.isDigit = false := by
  simp only [Text.isBlank, Bool.or_eq_true, Bool.and_eq_true, decide_eq_true_eq,
    beq_iff_eq] at blank
  cases digit : character.isDigit with
  | false => rfl
  | true =>
      simp only [Char.isDigit, Bool.and_eq_true, decide_eq_true_eq, ge_iff_le,
        UInt32.le_iff_toNat_le] at digit
      have low : 48 ≤ character.toNat := digit.1
      have high : character.toNat ≤ 57 := digit.2
      omega

/-- White space starts no token. -/
theorem readToken?_blank {character : Char} (blank : Text.isBlank character = true)
    (rest : List Symbol) : readToken? (.scalar character :: rest) = none := by
  have signs := @class_apart _ _ blank ['\x7b', '\x7d', '[', ']', ':', ',', '"', '-'] (by decide)
  have starts := @class_apart _ _ blank ['0', '-', 'n', 't', 'f', 'N', 'I'] (by decide)
  simp only [List.mem_cons, List.not_mem_nil, or_false, forall_eq_or_imp, forall_eq] at signs starts
  obtain ⟨zero, minus, null, yes, no, undefined, infinite⟩ := starts
  have unnamed : readNamed? (.scalar character :: rest) = none := by
    simp [readNamed?, namedScalars, List.isPrefixOf, null.symm, yes.symm, no.symm, undefined.symm,
      infinite.symm, minus.symm]
  have noDigits : readWholeDigits? (.scalar character :: rest) = none := by
    rw [readWholeDigits?.eq_def]
    split
    · next _ same => exact absurd (Symbol.scalar.inj (List.cons.inj same).1) zero
    · simp [takeDigits, isFigure, Symbol.character?, isDigit_blank blank]
  have unnumbered : readNumber? false (.scalar character :: rest) = none := by
    rw [readNumber?, noDigits]
    rfl
  rw [readToken?.eq_def]
  split <;> simp_all

/-- No value is read from white space. -/
theorem readString_blank {text : Wording} (blank : text.isBlank = true) :
    readString text = .error .malformed := by
  obtain ⟨text⟩ | ⟨text⟩ := text
  case broken => cases blank
  change Text.isBlankText text.toList = true at blank
  change read (scalars text.toList) = .error .malformed
  generalize text.toList = characters at blank
  induction characters with
  | nil => rfl
  | cons character rest ih =>
      simp only [Text.isBlankText, List.all_cons, Bool.and_eq_true] at blank
      rw [Text.scalars_cons]
      cases passed : isTokenBlank character with
      | true => rw [read, tokens_blank passed]; exact ih blank.2
      | false => simp [read, tokens, tokensFrom, passed, readToken?_blank blank.1]; rfl

end SolidityAudit.Json
