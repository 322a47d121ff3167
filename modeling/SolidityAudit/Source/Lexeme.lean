/-
This file recognises the small pieces that declarations are made of.
-/

import SolidityAudit.Text.Alphanumeric
import SolidityAudit.Text.CharacterClass
import SolidityAudit.Text.Piece

namespace SolidityAudit.Source

open Text

/-- Recognising a piece leaves the text after it. -/
def literal? : (expected text : List Char) → Option (List Char)
  | [], text => some text
  | _ :: _, [] => none
  | wanted :: expected, character :: text =>
      if wanted == character then literal? expected text else none

def skipBlanks (text : List Char) : List Char := text.dropWhile isBlank

/-- At least one white space character. -/
def blanks? : List Char → Option (List Char)
  | character :: rest => if isBlank character then some (skipBlanks rest) else none
  | [] => none

/-- A word is taken whole. -/
def word? (text : List Char) : Option (List Char × List Char) :=
  let word := text.takeWhile isWordCharacter
  if word.isEmpty then none else some (word, text.dropWhile isWordCharacter)

/-- A list in parentheses runs up to the first closing one. -/
def parenthesised? : List Char → Option (List Char × List Char)
  | '(' :: rest => match rest.dropWhile (· != ')') with
      | ')' :: remaining => some (rest.takeWhile (· != ')'), remaining)
      | _ => none
  | _ => none

/-- The first of the keywords that the text starts with. -/
def keyword? (keywords : List String) (text : List Char) : Option (String × List Char) :=
  keywords.findSome? fun keyword =>
    (literal? keyword.toList text).map fun remaining => (keyword, remaining)

def skipKeyword (keywords : List String) (text : List Char) : List Char :=
  match keyword? keywords text with
  | some (_, remaining) => remaining
  | none => text

def isQuote (character : Char) : Bool := character == '\'' || character == '"'

/-- A path between quotes of either kind, with at least one character. -/
def quotedPath? : List Char → Option (List Char × List Char)
  | opening :: rest =>
      if isQuote opening then
        let path := rest.takeWhile fun character => !isQuote character
        match rest.dropWhile fun character => !isQuote character with
        | _ :: remaining => if path.isEmpty then none else some (path, remaining)
        | [] => none
      else none
  | [] => none

/-- The elementary types that may carry a size. -/
def sizedTypes : List String := ["uint", "int", "bytes"]

def plainTypes : List String := ["bool", "address", "string"]

def elementaryType? (text : List Char) : Option (List Char × List Char) :=
  match keyword? sizedTypes text with
  | some (name, rest) =>
      some (name.toList ++ rest.takeWhile isDecimalDigit, rest.dropWhile isDecimalDigit)
  | none => (keyword? plainTypes text).map fun (name, rest) => (name.toList, rest)

end SolidityAudit.Source
