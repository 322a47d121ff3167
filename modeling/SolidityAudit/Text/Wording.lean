/-
This file defines texts that may hold lone surrogates, which are code points without a
character, and the operations on texts of either kind.
-/

import SolidityAudit.Text.LetterCase
import SolidityAudit.Text.Piece
import SolidityAudit.Text.Quoted

namespace SolidityAudit.Text

/-- A code point is a character or a surrogate, which is kept as its distance to the first. -/
inductive Symbol where
  | scalar (character : Char)
  | lone (offset : Fin 0x800)
  deriving DecidableEq, Repr

instance : Coe Char Symbol := ⟨.scalar⟩

namespace Symbol

def firstSurrogate : Nat := 0xD800

/-- The symbol of a unit of sixteen bits that belongs to no pair. -/
def ofUnit (unit : Nat) : Symbol :=
  if surrogate : firstSurrogate ≤ unit ∧ unit - firstSurrogate < 0x800 then
    .lone ⟨unit - firstSurrogate, surrogate.2⟩
  else .scalar (Char.ofNat unit)

def character? : Symbol → Option Char
  | .scalar character => some character
  | .lone _ => none

def isLone : Symbol → Bool
  | .scalar _ => false
  | .lone _ => true

def isBlank : Symbol → Bool
  | .scalar character => Text.isBlank character
  | .lone _ => false

/-- Stands for a surrogate where only characters can stand. -/
def maskCharacter : Char := Char.ofNat 0xFFFD

def masked : Symbol → Char
  | .scalar character => character
  | .lone _ => maskCharacter

/-- The escape of a surrogate. Characters stay as they are. -/
def escaped : Symbol → List Char
  | .scalar character => [character]
  | .lone offset => '\\' :: 'u' :: hexDigits 4 (firstSurrogate + offset)

def quoted (quote : Char) : Symbol → List Char
  | .scalar character => quotedCharacter quote character
  | .lone offset => Symbol.escaped (.lone offset)

end Symbol

/-- The symbols of a text of characters alone. -/
def scalars (text : List Char) : List Symbol := text.map Symbol.scalar

/-- A text with at least one lone surrogate in it. -/
structure BrokenText where
  symbols : List Symbol
  broken : symbols.any Symbol.isLone = true
  deriving DecidableEq, Repr

/-- A text is a string of characters unless it is broken. -/
inductive Wording where
  | plain (text : String)
  | broken (text : BrokenText)
  deriving DecidableEq, Repr

instance : Inhabited Wording := ⟨.plain ""⟩

instance : Coe String Wording := ⟨.plain⟩

/-- The surrogates that keep a text from being encoded: how many stand together at the first
place that has any, and the first of them. -/
structure EncodingFault where
  position : Nat
  count : Nat
  first : Symbol
  deriving DecidableEq, Repr

/-- Surrogates have no encoding. -/
def BrokenText.encodingFault (text : BrokenText) : EncodingFault :=
  let rest := text.symbols.dropWhile fun symbol => !symbol.isLone
  { position := text.symbols.length - rest.length
    count := (rest.takeWhile Symbol.isLone).length
    first := rest.headD (.lone 0) }

/-- The letters between two surrogates are made small by themselves. The characters since the
last surrogate are given backwards. -/
def lowerRuns (run : List Char) : List Symbol → List Symbol
  | [] => scalars (Text.lower run.reverse)
  | .scalar character :: rest => lowerRuns (character :: run) rest
  | .lone offset :: rest =>
      scalars (Text.lower run.reverse) ++ .lone offset :: lowerRuns [] rest

namespace Wording

def symbols : Wording → List Symbol
  | .plain text => scalars text.toList
  | .broken text => text.symbols

def ofSymbols (symbols : List Symbol) : Wording :=
  if broken : symbols.any Symbol.isLone = true then .broken ⟨symbols, broken⟩
  else .plain (String.ofList (symbols.filterMap Symbol.character?))

def isPlain : Wording → Bool
  | .plain _ => true
  | .broken _ => false

/-- The text with a mark for every surrogate. -/
def masked : Wording → String
  | .plain text => text
  | .broken text => String.ofList (text.symbols.map Symbol.masked)

/-- The text with an escape for every surrogate. -/
def escaped : Wording → String
  | .plain text => text
  | .broken text => String.ofList (text.symbols.flatMap Symbol.escaped)

def append : Wording → Wording → Wording
  | .plain first, .plain second => .plain (first ++ second)
  | first, second => ofSymbols (first.symbols ++ second.symbols)

instance : Append Wording := ⟨append⟩

def joined (separator : Wording) : List Wording → Wording
  | [] => ""
  | [part] => part
  | part :: others => part ++ separator ++ joined separator others

/-- No surrogate is white space. -/
def isBlank : Wording → Bool
  | .plain text => isBlankText text.toList
  | .broken _ => false

def trim : Wording → Wording
  | .plain text => String.ofList (Text.trim text.toList)
  | .broken text => ofSymbols (trimBy Symbol.isBlank text.symbols)

def lower : Wording → Wording
  | .plain text => String.ofList (Text.lower text.toList)
  | .broken text => ofSymbols (lowerRuns [] text.symbols)

/-- Whether a text of characters occurs in a text of either kind. -/
def mentions (text : Wording) (needle : String) : Bool :=
  match text with
  | .plain text => occursIn needle.toList text.toList
  | .broken text => occursIn (scalars needle.toList) text.symbols

def limited (stop : Int) : Wording → Wording
  | .plain text => String.ofList (Text.limited stop text.toList)
  | .broken text => ofSymbols (Text.limited stop text.symbols)

/-- Surrogates are shown by escapes, so that the quoted form has none. -/
def quoted : Wording → List Char
  | .plain text => Text.quoted text.toList
  | .broken text =>
      let quote := quoteFor (text.symbols.filterMap Symbol.character?)
      quote :: text.symbols.flatMap (Symbol.quoted quote) ++ [quote]

end Wording

end SolidityAudit.Text
