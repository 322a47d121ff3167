/-
This file reads whole numbers written by hand.
-/

import SolidityAudit.Host
import SolidityAudit.Text.CharacterClass
import SolidityAudit.Text.Piece

namespace SolidityAudit.Text

inductive NumeralFault where
  | malformed (text : List Char)
  | oversized (limit digitCount : Nat)
  deriving DecidableEq, Repr

/-- The separators U+001C to U+001F do not pad a numeral. -/
def padsNumeral (character : Char) : Bool :=
  isBlank character && !(28 ≤ character.toNat && character.toNat ≤ 31)

def unpadded (text : List Char) : List Char := trimBy padsNumeral text

/-- A single underscore may stand between two digits. -/
def numeralDigits? : List Char → Option (List Nat)
  | [] => none
  | [character] => (digitValue? character).map fun digit => [digit]
  | character :: '_' :: rest => do
      let digit ← digitValue? character
      let others ← numeralDigits? rest
      return digit :: others
  | character :: rest => do
      let digit ← digitValue? character
      let others ← numeralDigits? rest
      return digit :: others

def digitsValue (digits : List Nat) : Nat :=
  digits.foldl (fun value digit => 10 * value + digit) 0

def readMagnitude [Host] (whole text : List Char) : Except NumeralFault Nat :=
  match numeralDigits? text with
  | none => .error (.malformed whole)
  | some digits => match exceededLimit? digits.length with
      | some limit => .error (.oversized limit digits.length)
      | none => .ok (digitsValue digits)

/-- A numeral is padded by white space and may carry a sign. -/
def readInteger [Host] (text : List Char) : Except NumeralFault Int :=
  match unpadded text with
  | '-' :: rest => (readMagnitude text rest).map fun magnitude => -(magnitude : Int)
  | '+' :: rest => (readMagnitude text rest).map fun magnitude => (magnitude : Int)
  | rest => (readMagnitude text rest).map fun magnitude => (magnitude : Int)

end SolidityAudit.Text
