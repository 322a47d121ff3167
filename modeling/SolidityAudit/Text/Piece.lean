/-
This file names the white space characters and searches, trims, cuts and joins texts.
-/

namespace SolidityAudit.Text

/-- White space covers the ASCII controls and separators as well as the wide spaces,
but neither the zero width space nor the byte order mark. -/
def isBlank (character : Char) : Bool :=
  let code := character.toNat
  (9 ≤ code && code ≤ 13) || (28 ≤ code && code ≤ 32) || code == 0x85 || code == 0xA0 ||
    code == 0x1680 || (0x2000 ≤ code && code ≤ 0x200A) || code == 0x2028 ||
    code == 0x2029 || code == 0x202F || code == 0x205F || code == 0x3000

section Trimming

variable {α : Type} (drops : α → Bool)

def trimLeftBy (text : List α) : List α := text.dropWhile drops

def trimRightBy (text : List α) : List α := (text.reverse.dropWhile drops).reverse

/-- What is dropped goes from both ends of a text. -/
def trimBy (text : List α) : List α := trimRightBy drops (trimLeftBy drops text)

end Trimming

abbrev trim (text : List Char) : List Char := trimBy isBlank text

/-- A text of white space alone carries no content. -/
def isBlankText (text : List Char) : Bool := text.all isBlank

/-- The needle occurs when it stands at the start of some tail of the text. -/
def occursIn {α : Type} [BEq α] (needle : List α) : List α → Bool
  | [] => needle.isEmpty
  | character :: rest => needle.isPrefixOf (character :: rest) || occursIn needle rest

/-- A negative index counts from the end, and both ends bound it. -/
def boundedIndex (length : Nat) (index : Int) : Nat :=
  if index < 0 then (index + length).toNat else min index.toNat length

/-- The slice runs from the first index up to the second, and is empty if they cross. -/
def slice {α : Type} (start stop : Int) (text : List α) : List α :=
  (text.take (boundedIndex text.length stop)).drop (boundedIndex text.length start)

/-- A limited list keeps what stands before the given index. -/
def limited {α : Type} (stop : Int) (items : List α) : List α :=
  items.take (boundedIndex items.length stop)

/-- Every separator ends a part, so a text with `n` separators has `n + 1` parts. -/
def splitAtEach {α : Type} (isSeparator : α → Bool) : List α → List (List α)
  | [] => [[]]
  | character :: rest =>
      let parts := splitAtEach isSeparator rest
      if isSeparator character then [] :: parts
      else match parts with
        | [] => [[character]]
        | part :: others => (character :: part) :: others

def lines (text : List Char) : List (List Char) := splitAtEach (· == '\n') text

/-- The words of a text are its parts without white space. -/
def words (text : List Char) : List (List Char) :=
  (splitAtEach isBlank text).filter fun part => !part.isEmpty

def joinWith {α : Type} (separator : List α) : List (List α) → List α
  | [] => []
  | [part] => part
  | part :: others => part ++ separator ++ joinWith separator others

/-- Carriage returns are read as line feeds, and a carriage return before a line feed
belongs to it. -/
def unifyNewlines : List Char → List Char
  | [] => []
  | '\r' :: '\n' :: rest => '\n' :: unifyNewlines rest
  | '\r' :: rest => '\n' :: unifyNewlines rest
  | character :: rest => character :: unifyNewlines rest

end SolidityAudit.Text
