/-
This file finds every place where a declaration starts, and judges a declaration by the
keywords just before it.
-/

import SolidityAudit.Source.Lexeme

namespace SolidityAudit.Source

open Text

/-- An anchor recognises one kind of declaration at the start of a text and leaves the rest.
Some anchors stand only where no word is under way. -/
structure Anchor (α : Type) where
  atWordStart : Bool
  recognise? : List Char → Option (α × List Char)

/-- A recognised part of a text, from `start` up to `stop`. -/
structure Span (α : Type) where
  start : Nat
  stop : Nat
  value : α
  deriving DecidableEq, Repr

/-- The scan tries each position in turn and passes over what a span covers. The number
`skip` counts the characters that the last span still covers. -/
def Anchor.spansFrom {α : Type} (anchor : Anchor α) (position : Nat) (afterWord : Bool) :
    (skip : Nat) → List Char → List (Span α)
  | _, [] => []
  | skip + 1, character :: rest =>
      anchor.spansFrom (position + 1) (isWordCharacter character) skip rest
  | 0, character :: rest =>
      let recognised :=
        if anchor.atWordStart && afterWord then none else anchor.recognise? (character :: rest)
      match recognised with
      | none => anchor.spansFrom (position + 1) (isWordCharacter character) 0 rest
      | some (value, remaining) =>
          let covered := rest.length - remaining.length
          ⟨position, position + covered + 1, value⟩ ::
            anchor.spansFrom (position + 1) (isWordCharacter character) covered rest

def Anchor.spans {α : Type} (anchor : Anchor α) (text : List Char) : List (Span α) :=
  anchor.spansFrom 0 false 0 text

def visibilities : List String := ["external", "public", "internal", "private"]

def mutabilities : List String := ["view", "pure", "payable"]

/-- What a function anchor reads, each list as the text between its parentheses. -/
structure FunctionHead where
  name : List Char
  parameters : List Char
  results : Option (List Char)
  deriving DecidableEq, Repr

/-- A keyword, a word and a list in parentheses. -/
def namedList? (keyword : String) (text : List Char) :
    Option ((List Char × List Char) × List Char) := do
  let rest ← literal? keyword.toList text
  let rest ← blanks? rest
  let (name, rest) ← word? rest
  let (items, rest) ← parenthesised? (skipBlanks rest)
  return ((name, items), rest)

def results? (text : List Char) : Option (List Char × List Char) := do
  let rest ← literal? "returns".toList text
  parenthesised? (skipBlanks rest)

/-- The attributes after a function's parameters are read as far as they follow the order
visibility, mutability, results. -/
def functionHead? (text : List Char) : Option (FunctionHead × List Char) := do
  let ((name, parameters), rest) ← namedList? "function" text
  let rest := skipBlanks (skipKeyword visibilities (skipBlanks rest))
  let rest := skipBlanks (skipKeyword mutabilities rest)
  match results? rest with
  | some (results, rest) => return (⟨name, parameters, some results⟩, rest)
  | none => return (⟨name, parameters, none⟩, rest)

/-- The interface of a function needs no body. -/
def signatureAnchor : Anchor FunctionHead := ⟨false, functionHead?⟩

/-- A function definition has its body right after the attributes. -/
def functionAnchor : Anchor FunctionHead where
  atWordStart := false
  recognise? text := do
    let (head, rest) ← functionHead? text
    let rest ← literal? ['\x7b'] (skipBlanks rest)
    return (head, rest)

def modifierAnchor : Anchor (List Char) where
  atWordStart := false
  recognise? text := do
    let ((name, _), rest) ← namedList? "modifier" text
    let rest ← literal? ['\x7b'] (skipBlanks rest)
    return (name, rest)

/-- An event is read with its parameters. -/
def eventAnchor : Anchor (List Char × List Char) := ⟨false, namedList? "event"⟩

def importAnchor : Anchor (List Char) where
  atWordStart := false
  recognise? text := do
    let rest ← literal? "import".toList text
    let rest ← blanks? rest
    quotedPath? rest

/-- What a variable anchor reads. -/
structure VariableHead where
  type : List Char
  visibility : Option String
  name : List Char
  deriving DecidableEq, Repr

/-- A variable's name ends its declaration. -/
def variableName? (text : List Char) : Option (List Char × List Char) := do
  let (name, rest) ← word? text
  let rest ← literal? [';'] (skipBlanks rest)
  return (name, rest)

/-- A variable after a visibility, which white space need not divide from the name. -/
def visibleName? (keywords : List String) (text : List Char) :
    Option ((String × List Char) × List Char) := do
  let (visibility, rest) ← keyword? keywords text
  let (name, rest) ← variableName? (skipBlanks rest)
  return ((visibility, name), rest)

/-- A visibility is read as such wherever a name is left for the variable. -/
def variableAnchor : Anchor VariableHead where
  atWordStart := true
  recognise? text := do
    let (type, rest) ← elementaryType? text
    let rest ← blanks? rest
    match visibleName? visibilities rest with
    | some ((visibility, name), rest) => return (⟨type, some visibility, name⟩, rest)
    | none =>
        let (name, rest) ← variableName? rest
        return (⟨type, none, name⟩, rest)

def publicVariableAnchor : Anchor VariableHead where
  atWordStart := true
  recognise? text := do
    let (type, rest) ← elementaryType? text
    let rest ← blanks? rest
    let ((visibility, name), rest) ← visibleName? ["public"] rest
    return (⟨type, some visibility, name⟩, rest)

def attributeWindow : Int := 50

def mutabilityWindow : Int := 100

/-- Up to `size` characters just before a position. -/
def precedingWindow (size position : Int) (text : List Char) : List Char :=
  slice (max 0 (position - size)) position text

/-- The order of the keywords decides, not their place in the window. -/
def firstKeyword (keywords : List String) (default : String) (window : List Char) : String :=
  (keywords.find? fun keyword => occursIn keyword.toList window).getD default

def visibilityAt (position : Int) (text : List Char) : String :=
  firstKeyword ["public", "private", "internal", "external"] "internal"
    (precedingWindow attributeWindow position text)

def mutabilityAt (position : Int) (text : List Char) : String :=
  firstKeyword ["view", "pure", "payable"] "non-payable"
    (precedingWindow attributeWindow position text)

end SolidityAudit.Source
