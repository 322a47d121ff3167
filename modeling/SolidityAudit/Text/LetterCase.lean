/-
This file maps texts to small and capital letters.
-/

import SolidityAudit.Text.CaseTable

namespace SolidityAudit.Text

def CaseRun.maps (run : CaseRun) (code : Nat) : Bool :=
  run.first ≤ code && code ≤ run.last && (code - run.first) % run.stride == 0

/-- A code point outside every run stays as it is. -/
def applyCaseRuns : List CaseRun → Nat → Nat
  | [], code => code
  | run :: rest, code =>
      if run.maps code then (code + run.shift).toNat else applyCaseRuns rest code

def isCased (character : Char) : Bool := casedRanges.covers character.toNat

def isCaseIgnorable (character : Char) : Bool := caseIgnorableRanges.covers character.toNat

/-- The small form of a character, which for the dotted capital I keeps the dot as a mark. -/
def lowerCharacter (character : Char) : List Char :=
  if character.toNat < 128 then [character.toLower]
  else if character == 'İ' then ['i', Char.ofNat 0x0307]
  else [Char.ofNat (applyCaseRuns lowerCaseRuns character.toNat)]

/-- No letter with case follows before the next character that ends a word. -/
def endsWord : List Char → Bool
  | [] => true
  | character :: rest =>
      if isCaseIgnorable character then endsWord rest else !isCased character

/-- The flag tells whether the last character that is not passed over has case. A capital
sigma that ends a word takes its final form. -/
def lowerFrom (afterCased : Bool) : List Char → List Char
  | [] => []
  | character :: rest =>
      let small :=
        if character == 'Σ' then [if afterCased && endsWord rest then 'ς' else 'σ']
        else lowerCharacter character
      let nextAfterCased :=
        if isCaseIgnorable character then afterCased else isCased character
      small ++ lowerFrom nextAfterCased rest

def lower (text : List Char) : List Char := lowerFrom false text

def upperCharacter (character : Char) : List Char :=
  if character.toNat < 128 then [character.toUpper]
  else match upperCaseExpansions.lookup character.toNat with
    | some expansion => expansion.map Char.ofNat
    | none => [Char.ofNat (applyCaseRuns upperCaseRuns character.toNat)]

def upper (text : List Char) : List Char := text.flatMap upperCharacter

end SolidityAudit.Text
