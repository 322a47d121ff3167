/-
This file cuts a JSON text into tokens.
-/

import SolidityAudit.Json.Value
import SolidityAudit.Text.Numeral

namespace SolidityAudit.Json

open Text (Symbol Wording scalars)

/-- A numeral with too many digits is a token of its own, because it is refused only where
a value is due. A text without a token at some place ends in an invalid one. -/
inductive Token where
  | openObject
  | closeObject
  | openArray
  | closeArray
  | colon
  | comma
  | text (value : Wording)
  | scalar (value : Value)
  | oversized (limit digitCount : Nat)
  | invalid
  deriving BEq, Repr

def isTokenBlank (symbol : Symbol) : Bool :=
  symbol == ' ' || symbol == '\t' || symbol == '\n' || symbol == '\r'

/-- A string holds symbols and escaped units of sixteen bits. -/
inductive Fragment where
  | symbol (value : Symbol)
  | unit (value : Nat)
  deriving DecidableEq, Repr

def hexValue? (character : Char) : Option Nat :=
  if character.isDigit then some (character.toNat - '0'.toNat)
  else if 'a' ≤ character && character ≤ 'f' then some (character.toNat - 'a'.toNat + 10)
  else if 'A' ≤ character && character ≤ 'F' then some (character.toNat - 'A'.toNat + 10)
  else none

def hexUnit? (first second third fourth : Char) : Option Nat := do
  let first ← hexValue? first
  let second ← hexValue? second
  let third ← hexValue? third
  let fourth ← hexValue? fourth
  return ((first * 16 + second) * 16 + third) * 16 + fourth

def shortEscape? : Char → Option Char
  | '"' => some '"'
  | '\\' => some '\\'
  | '/' => some '/'
  | 'b' => some (Char.ofNat 8)
  | 'f' => some (Char.ofNat 12)
  | 'n' => some '\n'
  | 'r' => some '\r'
  | 't' => some '\t'
  | _ => none

/-- Characters below the space must be escaped. -/
def standsUnescaped : Symbol → Bool
  | .scalar character => character != '\\' && ' ' ≤ character
  | .lone _ => true

/-- Reads up to the closing quote. -/
def readFragments? : List Symbol → Option (List Fragment × List Symbol)
  | [] => none
  | .scalar '"' :: rest => some ([], rest)
  | .scalar '\\' :: .scalar 'u' :: .scalar first :: .scalar second :: .scalar third ::
      .scalar fourth :: rest => do
      let unit ← hexUnit? first second third fourth
      let (fragments, remaining) ← readFragments? rest
      return (.unit unit :: fragments, remaining)
  | .scalar '\\' :: .scalar escape :: rest => do
      let character ← shortEscape? escape
      let (fragments, remaining) ← readFragments? rest
      return (.symbol character :: fragments, remaining)
  | symbol :: rest =>
      if standsUnescaped symbol then do
        let (fragments, remaining) ← readFragments? rest
        return (.symbol symbol :: fragments, remaining)
      else none

def isHighUnit (unit : Nat) : Bool := 0xD800 ≤ unit && unit < 0xDC00

def isLowUnit (unit : Nat) : Bool := 0xDC00 ≤ unit && unit < 0xE000

/-- A high unit and the low unit after it make one character, where both are escaped. Other
units stand for themselves. -/
def joinFragments : List Fragment → List Symbol
  | [] => []
  | .symbol value :: rest => value :: joinFragments rest
  | .unit high :: .unit low :: rest =>
      if isHighUnit high && isLowUnit low then
        .scalar (Char.ofNat (0x10000 + (high - 0xD800) * 0x400 + (low - 0xDC00))) ::
          joinFragments rest
      else Symbol.ofUnit high :: joinFragments (.unit low :: rest)
  | .unit value :: rest => Symbol.ofUnit value :: joinFragments rest

def readText? (text : List Symbol) : Option (Token × List Symbol) := do
  let (fragments, remaining) ← readFragments? text
  return (.text (Wording.ofSymbols (joinFragments fragments)), remaining)

def isFigure (symbol : Symbol) : Bool := symbol.character?.any Char.isDigit

def takeDigits (text : List Symbol) : List Char × List Symbol :=
  ((text.takeWhile isFigure).filterMap Symbol.character?, text.dropWhile isFigure)

def digitValues (digits : List Char) : List Nat :=
  digits.map fun digit => digit.toNat - '0'.toNat

/-- A zero stands alone before the point. -/
def readWholeDigits? (text : List Symbol) : Option (List Char × List Symbol) :=
  match text with
  | .scalar '0' :: rest => some (['0'], rest)
  | _ =>
      let (digits, remaining) := takeDigits text
      if digits.isEmpty then none else some (digits, remaining)

def readFraction? : List Symbol → Option (List Char × List Symbol)
  | .scalar '.' :: rest =>
      let (digits, remaining) := takeDigits rest
      if digits.isEmpty then none else some (digits, remaining)
  | _ => none

def readUnsignedExponent? (negative : Bool) (text : List Symbol) : Option (Int × List Symbol) :=
  let (digits, remaining) := takeDigits text
  if digits.isEmpty then none
  else
    let magnitude : Int := Text.digitsValue (digitValues digits)
    some (if negative then -magnitude else magnitude, remaining)

def readExponent? : List Symbol → Option (Int × List Symbol)
  | mark :: rest =>
      if mark == 'e' || mark == 'E' then
        match rest with
        | .scalar '-' :: rest => readUnsignedExponent? true rest
        | .scalar '+' :: rest => readUnsignedExponent? false rest
        | rest => readUnsignedExponent? false rest
      else none
  | [] => none

/-- A numeral without fraction and exponent is a whole number of any size up to the limit. -/
def readNumber? [Host] (negative : Bool) (text : List Symbol) :
    Option (Token × List Symbol) := do
  let (whole, rest) ← readWholeDigits? text
  let fraction? := readFraction? rest
  let rest := (fraction?.map Prod.snd).getD rest
  let exponent? := readExponent? rest
  let rest := (exponent?.map Prod.snd).getD rest
  if fraction?.isNone && exponent?.isNone then
    let magnitude : Int := Text.digitsValue (digitValues whole)
    match exceededLimit? whole.length with
    | some limit => return (.oversized limit whole.length, rest)
    | none => return (.scalar (.integer (if negative then -magnitude else magnitude)), rest)
  else
    let fraction := (fraction?.map Prod.fst).getD []
    let exponent := (exponent?.map Prod.fst).getD 0
    let digits := whole ++ fraction
    let number := Binary64.ofDecimal negative (Text.digitsValue (digitValues digits))
      digits.length (exponent - fraction.length)
    return (.scalar (.real number), rest)

/-- The words that stand for values. -/
def namedScalars : List (List Char × Value) := [
  ("null".toList, .null),
  ("true".toList, .bool true),
  ("false".toList, .bool false),
  ("NaN".toList, .real .notANumber),
  ("Infinity".toList, .real (.infinite false)),
  ("-Infinity".toList, .real (.infinite true))]

def readNamed? (text : List Symbol) : Option (Token × List Symbol) :=
  (namedScalars.find? fun entry => (scalars entry.1).isPrefixOf text).map fun entry =>
    (.scalar entry.2, text.drop entry.1.length)

/-- The token at the start of a text. -/
def readToken? [Host] (text : List Symbol) : Option (Token × List Symbol) :=
  match text with
  | [] => none
  | .scalar '{' :: rest => some (.openObject, rest)
  | .scalar '}' :: rest => some (.closeObject, rest)
  | .scalar '[' :: rest => some (.openArray, rest)
  | .scalar ']' :: rest => some (.closeArray, rest)
  | .scalar ':' :: rest => some (.colon, rest)
  | .scalar ',' :: rest => some (.comma, rest)
  | .scalar '"' :: rest => readText? rest
  | .scalar '-' :: rest => (readNamed? text).or (readNumber? true rest)
  | _ => (readNamed? text).or (readNumber? false text)

/-- The first number counts the symbols that still belong to the last token. -/
def tokensFrom [Host] : (skip : Nat) → List Symbol → List Token
  | _, [] => []
  | skip + 1, _ :: rest => tokensFrom skip rest
  | 0, symbol :: rest =>
      if isTokenBlank symbol then tokensFrom 0 rest
      else match readToken? (symbol :: rest) with
        | none => [.invalid]
        | some (token, remaining) => token :: tokensFrom (rest.length - remaining.length) rest

def tokens [Host] (text : List Symbol) : List Token := tokensFrom 0 text

end SolidityAudit.Json
