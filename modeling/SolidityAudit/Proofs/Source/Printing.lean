import SolidityAudit.Proofs.Source.Quiet
import SolidityAudit.Source.Inventory
import SolidityAudit.Text.Piece

namespace SolidityAudit.Source

open Text

/-- A word with at least one character. -/
structure Word where
  text : List Char
  nonempty : text ≠ []
  members : ∀ character ∈ text, isWordCharacter character = true

/-- Words, spaces and commas in any order. -/
structure ParameterText where
  text : List Char
  members : ∀ character ∈ text,
    isWordCharacter character = true ∨ character = ' ' ∨ character = ','

/-- A path that holds neither quotes nor blanks. -/
structure ImportPath where
  text : List Char
  nonempty : text ≠ []
  members : ∀ character ∈ text, isQuote character = false ∧ isBlank character = false

/-- The decimal digits of a size may be missing. -/
inductive ElementaryType where
  | sized (name : String) (listed : name ∈ ["uint", "int", "bytes"]) (digits : List Char)
      (members : ∀ character ∈ digits, isDecimalDigit character = true)
  | plain (name : String) (listed : name ∈ ["bool", "address", "string"])

/-- The name of a type with its size. -/
def ElementaryType.text : ElementaryType → List Char
  | sized name _ digits _ => name.toList ++ digits
  | plain name _ => name.toList

/-- A keyword for visibility. -/
abbrev Visibility := {keyword : String // keyword ∈ ["external", "public", "internal", "private"]}

/-- A keyword for mutability. -/
abbrev Mutability := {keyword : String // keyword ∈ ["view", "pure", "payable"]}

/-- A name that does not go on after a visibility it starts with. -/
def IsUnmistakable (name : List Char) : Prop :=
  ∀ keyword ∈ ["external", "public", "internal", "private"], ∀ more,
    name = keyword.toList ++ more → more = []

/-- A declaration in a form that can be printed. -/
inductive Declaration where
  | importing (path : ImportPath)
  | event (name : Word) (parameters : ParameterText)
  | stateVariable (type : ElementaryType) (visibility : Option Visibility) (name : Word)
      (unmistakable : visibility = none → IsUnmistakable name.text)
  | modifier (name : Word) (parameters : ParameterText)
  | function (name : Word) (parameters : ParameterText) (visibility : Option Visibility)
      (mutability : Option Mutability) (results : Option ParameterText)

section Print

/-- A keyword after a space, if there is one. -/
def keywordAttribute {keywords : List String} :
    Option {keyword : String // keyword ∈ keywords} → List Char
  | none => []
  | some keyword => ' ' :: keyword.val.toList

/-- The results of a function as they are written after it. -/
def resultsAttribute : Option ParameterText → List Char
  | none => []
  | some results => ' ' :: ("returns (".toList ++ (results.text ++ [')']))

/-- The pieces of the line of a declaration. -/
def Declaration.pieces : Declaration → List (List Char)
  | importing path => ["import \"".toList, path.text, "\";".toList]
  | event name parameters => ["event ".toList, name.text, ['('], parameters.text, ");".toList]
  | stateVariable type visibility name _ =>
      [type.text, keywordAttribute visibility, [' '], name.text, [';']]
  | modifier name parameters =>
      ["modifier ".toList, name.text, ['('], parameters.text, ") \x7b\x7d".toList]
  | function name parameters visibility mutability results =>
      ["function ".toList, name.text, ['('], parameters.text, [')'], keywordAttribute visibility,
        keywordAttribute mutability, resultsAttribute results, " \x7b\x7d".toList]

/-- A declaration fills one line. -/
def Declaration.line (declaration : Declaration) : List Char := declaration.pieces.flatten

/-- The lines of the declarations, where the last one may be closed like the others. -/
def printed (closed : Bool) (declarations : List Declaration) : List Char :=
  joinWith ['\n'] (declarations.map Declaration.line) ++ if closed then ['\n'] else []

end Print

section Contents

/-- What an import declares. -/
def Declaration.importPath? : Declaration → Option String
  | importing path => some (String.ofList path.text)
  | _ => none

/-- What an event declares. -/
def Declaration.eventName? : Declaration → Option String
  | event name _ => some (String.ofList name.text)
  | _ => none

/-- What a state variable declares. -/
def Declaration.variable? : Declaration → Option VariableDeclaration
  | stateVariable type _ name _ => some ⟨String.ofList name.text, String.ofList type.text⟩
  | _ => none

/-- What a modifier declares. -/
def Declaration.modifierName? : Declaration → Option String
  | modifier name _ => some (String.ofList name.text)
  | _ => none

/-- What a function declares. -/
def Declaration.functionName? : Declaration → Option String
  | function name _ _ _ _ => some (String.ofList name.text)
  | _ => none

end Contents

section Plain

/-- A word holds no delimiter. -/
theorem Word.isPlain (word : Word) : IsPlain word.text := isPlain_word word.members

/-- Nor do parameters. -/
theorem ParameterText.isPlain (parameters : ParameterText) : IsPlain parameters.text := by
  intro character inside
  rcases parameters.members character inside with word | rfl | rfl
  · exact isPlain_word (fun _ same => by rwa [List.mem_singleton.mp same]) character
      (List.mem_singleton_self character)
  · decide
  · decide

/-- Nor does the name of a type. -/
theorem ElementaryType.isPlain (type : ElementaryType) : IsPlain type.text := by
  cases type with
  | sized name listed digits members =>
      have plain : ∀ name ∈ ["uint", "int", "bytes"], IsPlain name.toList := by decide
      exact (plain name listed).append (isPlain_digits members)
  | plain name listed =>
      have plain : ∀ name ∈ ["bool", "address", "string"], IsPlain name.toList := by decide
      exact plain name listed

/-- An attribute is plain where its keywords are. -/
theorem isPlain_keywordAttribute {keywords : List String}
    (plain : ∀ keyword ∈ keywords, IsPlain keyword.toList)
    (keyword : Option {keyword : String // keyword ∈ keywords}) :
    IsPlain (keywordAttribute keyword) := by
  cases keyword with
  | none => exact fun _ inside => absurd inside List.not_mem_nil
  | some keyword =>
      have space : IsPlain [' '] := by decide
      exact space.append (plain keyword.val keyword.property)

/-- The keyword for visibility is plain. -/
theorem isPlain_visibility (visibility : Option Visibility) :
    IsPlain (keywordAttribute visibility) := isPlain_keywordAttribute (by decide) visibility

/-- The keyword for mutability is plain. -/
theorem isPlain_mutability (mutability : Option Mutability) :
    IsPlain (keywordAttribute mutability) := isPlain_keywordAttribute (by decide) mutability

end Plain

/-- The delimiters in the line of a declaration other than an import. -/
def Declaration.marks : Declaration → List Char
  | importing _ => []
  | event _ _ => ['(', ')', ';']
  | stateVariable _ _ _ _ => [';']
  | modifier _ _ => ['(', ')', '\x7b', '\x7d']
  | function _ _ _ _ _ => ['(', ')', '\x7b', '\x7d']

section Marks

variable {mark : Char} (delimits : mark ∈ delimiters)

include delimits

/-- A plain text lacks each delimiter. -/
theorem IsPlain.not_mem {text : List Char} (plain : IsPlain text) : mark ∉ text :=
  fun inside => plain mark inside delimits

/-- A literal has no delimiters but its own. -/
theorem not_mem_literal {literal own : List Char}
    (told : ∀ character ∈ literal, character ∈ delimiters → character ∈ own)
    (absent : mark ∉ own) : mark ∉ literal := fun inside => absent (told mark inside delimits)

/-- Results have no delimiters but their parentheses. -/
theorem not_mem_resultsAttribute (results : Option ParameterText) (absent : mark ∉ ['(', ')']) :
    mark ∉ resultsAttribute results := by
  cases results with
  | none => exact List.not_mem_nil
  | some results =>
      have space : mark ∉ [' '] := not_mem_literal delimits (by decide) absent
      rw [resultsAttribute, List.mem_cons, List.mem_append, List.mem_append, not_or, not_or,
        not_or]
      exact ⟨fun same => space (List.mem_singleton.mpr same),
        not_mem_literal delimits (by decide) absent, results.isPlain.not_mem delimits,
        not_mem_literal delimits (by decide) absent⟩

/-- The line of a declaration has no delimiters but its own. -/
theorem Declaration.not_mem_line {declaration : Declaration}
    (noImport : declaration.importPath? = none) (absent : mark ∉ declaration.marks) :
    mark ∉ declaration.line := by
  rw [line, List.mem_flatten]
  rintro ⟨piece, listed, inside⟩
  revert inside
  cases declaration with
  | importing path => cases noImport
  | event name parameters =>
      have absent : mark ∉ ['(', ')', ';'] := absent
      simp only [pieces, List.mem_cons, List.not_mem_nil, or_false] at listed
      rcases listed with rfl | rfl | rfl | rfl | rfl
      · exact not_mem_literal delimits (by decide) absent
      · exact name.isPlain.not_mem delimits
      · exact not_mem_literal delimits (by decide) absent
      · exact parameters.isPlain.not_mem delimits
      · exact not_mem_literal delimits (by decide) absent
  | stateVariable type visibility name unmistakable =>
      have absent : mark ∉ [';'] := absent
      simp only [pieces, List.mem_cons, List.not_mem_nil, or_false] at listed
      rcases listed with rfl | rfl | rfl | rfl | rfl
      · exact type.isPlain.not_mem delimits
      · exact (isPlain_visibility visibility).not_mem delimits
      · exact not_mem_literal delimits (by decide) absent
      · exact name.isPlain.not_mem delimits
      · exact not_mem_literal delimits (by decide) absent
  | modifier name parameters =>
      have absent : mark ∉ ['(', ')', '\x7b', '\x7d'] := absent
      simp only [pieces, List.mem_cons, List.not_mem_nil, or_false] at listed
      rcases listed with rfl | rfl | rfl | rfl | rfl
      · exact not_mem_literal delimits (by decide) absent
      · exact name.isPlain.not_mem delimits
      · exact not_mem_literal delimits (by decide) absent
      · exact parameters.isPlain.not_mem delimits
      · exact not_mem_literal delimits (by decide) absent
  | function name parameters visibility mutability results =>
      have absent : mark ∉ ['(', ')', '\x7b', '\x7d'] := absent
      have absentLists : mark ∉ ['(', ')'] := fun inside =>
        absent (List.mem_append_left ['\x7b', '\x7d'] inside)
      simp only [pieces, List.mem_cons, List.not_mem_nil, or_false] at listed
      rcases listed with rfl | rfl | rfl | rfl | rfl | rfl | rfl | rfl | rfl
      · exact not_mem_literal delimits (by decide) absent
      · exact name.isPlain.not_mem delimits
      · exact not_mem_literal delimits (by decide) absent
      · exact parameters.isPlain.not_mem delimits
      · exact not_mem_literal delimits (by decide) absent
      · exact (isPlain_visibility visibility).not_mem delimits
      · exact (isPlain_mutability mutability).not_mem delimits
      · exact not_mem_resultsAttribute delimits results absentLists
      · exact not_mem_literal delimits (by decide) absent

end Marks

/-- The line of a declaration ends in a delimiter. -/
theorem Declaration.isDelimited_line (declaration : Declaration) :
    IsDelimited declaration.line := by
  have semicolon (start : List Char) : IsDelimited (start ++ [';']) :=
    isDelimited_append start (by decide)
  have brace (start : List Char) : IsDelimited (start ++ ['\x7d']) :=
    isDelimited_append start (by decide)
  cases declaration with
  | importing path =>
      simpa [line, pieces] using semicolon ("import \"".toList ++ (path.text ++ ['"']))
  | event name parameters =>
      simpa [line, pieces] using semicolon ("event ".toList ++ (name.text ++ '(' ::
        (parameters.text ++ [')'])))
  | stateVariable type visibility name unmistakable =>
      simpa [line, pieces] using
        semicolon (type.text ++ (keywordAttribute visibility ++ ' ' :: name.text))
  | modifier name parameters =>
      simpa [line, pieces] using brace ("modifier ".toList ++ (name.text ++ '(' ::
        (parameters.text ++ ") \x7b".toList)))
  | function name parameters visibility mutability results =>
      simpa [line, pieces] using brace ("function ".toList ++ (name.text ++ '(' ::
        (parameters.text ++ ')' :: (keywordAttribute visibility ++ (keywordAttribute mutability ++
          (resultsAttribute results ++ " \x7b".toList))))))

end SolidityAudit.Source
