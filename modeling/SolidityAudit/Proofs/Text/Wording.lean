import SolidityAudit.Proofs.Text.Trim
import SolidityAudit.Text.Wording

namespace SolidityAudit.Text

section Scalars

@[simp]
theorem scalars_nil : scalars [] = [] := rfl

@[simp]
theorem scalars_cons (character : Char) (rest : List Char) :
    scalars (character :: rest) = .scalar character :: scalars rest := rfl

/-- The symbols of joined characters are joined. -/
@[simp]
theorem scalars_append (first second : List Char) :
    scalars (first ++ second) = scalars first ++ scalars second :=
  List.map_append

/-- Characters are no surrogates. -/
@[simp]
theorem any_isLone_scalars (text : List Char) : (scalars text).any Symbol.isLone = false := by
  simp [scalars, Symbol.isLone]

/-- The characters of a text are found again among its symbols. -/
@[simp]
theorem filterMap_character?_scalars (text : List Char) :
    (scalars text).filterMap Symbol.character? = text := by
  rw [scalars, List.filterMap_map]
  exact List.filterMap_some

/-- A text without surrogates is one of characters alone. -/
theorem scalars_of_unbroken {symbols : List Symbol} (whole : symbols.any Symbol.isLone = false) :
    scalars (symbols.filterMap Symbol.character?) = symbols := by
  induction symbols with
  | nil => rfl
  | cons symbol rest ih =>
      rw [List.any_cons, Bool.or_eq_false_iff] at whole
      cases symbol with
      | scalar character =>
          change Symbol.scalar character :: scalars (rest.filterMap Symbol.character?) = _
          rw [ih whole.2]
      | lone offset => cases whole.1

/-- White space is dropped from characters as from symbols. -/
theorem trimBy_scalars (text : List Char) :
    trimBy Symbol.isBlank (scalars text) = scalars (trim text) := by
  have same : Symbol.isBlank ∘ Symbol.scalar = isBlank := rfl
  simp only [trimBy, trimRightBy, trimLeftBy, scalars, ← List.map_reverse, List.dropWhile_map, same]

end Scalars

namespace Wording

/-- A text made of symbols has these symbols. -/
@[simp]
theorem symbols_ofSymbols (symbols : List Symbol) : (ofSymbols symbols).symbols = symbols := by
  unfold ofSymbols
  split
  · rfl
  · next whole =>
    change scalars (String.ofList _).toList = symbols
    rw [String.toList_ofList]
    exact scalars_of_unbroken (by simpa using whole)

/-- The symbols of a broken text have a surrogate among them, and others have none. -/
theorem any_isLone_symbols (text : Wording) :
    text.symbols.any Symbol.isLone = !text.isPlain := by
  cases text with
  | plain text => exact any_isLone_scalars text.toList
  | broken text => exact text.broken

/-- Symbols without surrogates make a plain text. -/
@[simp]
theorem ofSymbols_scalars (text : List Char) :
    ofSymbols (scalars text) = .plain (String.ofList text) := by
  rw [ofSymbols, dif_neg (by simp), filterMap_character?_scalars]

/-- A text is given by its symbols. -/
@[simp]
theorem ofSymbols_symbols (text : Wording) : ofSymbols text.symbols = text := by
  cases text with
  | plain text =>
      change ofSymbols (scalars text.toList) = _
      rw [ofSymbols_scalars, String.ofList_toList]
  | broken text => exact dif_pos text.broken

/-- Texts with the same symbols are the same. -/
theorem symbols_injective : Function.Injective symbols :=
  Function.LeftInverse.injective ofSymbols_symbols

@[simp]
theorem isPlain_plain (text : String) : (plain text).isPlain = true := rfl

/-- A plain text consists of its characters. -/
@[simp]
theorem symbols_plain (text : String) : (plain text).symbols = scalars text.toList := rfl

/-- Only the empty text has no symbols. -/
theorem symbols_eq_nil_iff {text : Wording} : text.symbols = [] ↔ text = .plain "" :=
  symbols_injective.eq_iff' rfl

/-- One text after the other has the symbols of both. -/
@[simp]
theorem symbols_append (first second : Wording) :
    (first ++ second).symbols = first.symbols ++ second.symbols := by
  cases first with
  | plain first =>
      cases second with
      | plain second =>
          change scalars (first ++ second).toList = scalars first.toList ++ scalars second.toList
          rw [String.toList_append, scalars_append]
      | broken second => exact symbols_ofSymbols _
  | broken first => cases second <;> exact symbols_ofSymbols _

/-- Joined texts have the symbols of all, with the separator between them. -/
theorem symbols_joined (separator : Wording) (parts : List Wording) :
    (joined separator parts).symbols =
      separator.symbols.intercalate (parts.map symbols) := by
  fun_induction joined separator parts with
  | case1 => rfl
  | case2 part => simp
  | case3 part others nonempty ih =>
      cases others with
      | nil => exact absurd rfl nonempty
      | cons other rest =>
          rw [symbols_append, symbols_append, ih]
          simp [List.intercalate]

/-- A text is trimmed by its symbols. -/
theorem symbols_trim (text : Wording) :
    text.trim.symbols = trimBy Symbol.isBlank text.symbols := by
  cases text with
  | plain text =>
      change scalars (String.ofList _).toList = trimBy _ (scalars text.toList)
      rw [String.toList_ofList, trimBy_scalars]
  | broken text => exact symbols_ofSymbols _

/-- A trimmed text has no more to trim. -/
@[simp]
theorem trim_trim (text : Wording) : text.trim.trim = text.trim := by
  apply symbols_injective
  rw [symbols_trim, symbols_trim, trimBy_trimBy]

/-- A text that trimming leaves as it is has no white space at its ends. -/
theorem isTrimmedBy_of_trim {text : Wording} (kept : text.trim = text) :
    IsTrimmedBy Symbol.isBlank text.symbols :=
  isTrimmedBy_of_trimBy (by rw [← symbols_trim, kept])

/-- The mask of a text has one character for each symbol. -/
theorem toList_masked (text : Wording) : text.masked.toList = text.symbols.map Symbol.masked := by
  cases text with
  | plain text =>
      have same : Symbol.masked ∘ Symbol.scalar = id := rfl
      rw [symbols_plain, scalars, List.map_map, same, List.map_id]
      rfl
  | broken text => exact String.toList_ofList

end Wording

end SolidityAudit.Text
