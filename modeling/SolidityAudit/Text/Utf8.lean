/-
This file decodes bytes into text and tells where and why a sequence is refused.
-/

namespace SolidityAudit.Text

inductive Utf8Cause where
  | invalidStart
  | invalidContinuation
  | unexpectedEnd
  deriving DecidableEq, Repr

/-- The refused bytes start at `position`, and `byte` is the first of `count` bytes. -/
structure Utf8Fault where
  position : Nat
  byte : UInt8
  count : Nat
  cause : Utf8Cause
  deriving DecidableEq, Repr

def isContinuation (byte : UInt8) : Bool := 0x80 ≤ byte && byte < 0xC0

/-- The second byte of a sequence is restricted further where longer forms, surrogates or
values beyond the last code point would start. -/
def isSecondByte (lead byte : UInt8) : Bool :=
  isContinuation byte &&
    (lead != 0xE0 || 0xA0 ≤ byte) && (lead != 0xED || byte < 0xA0) &&
    (lead != 0xF0 || 0x90 ≤ byte) && (lead != 0xF4 || byte < 0x90)

def continuationBits (byte : UInt8) : Nat := byte.toNat % 64

def decodeUtf8From (position : Nat) : List UInt8 → Except Utf8Fault (List Char)
  | [] => .ok []
  | lead :: rest =>
      let refuse (count : Nat) (cause : Utf8Cause) : Except Utf8Fault (List Char) :=
        .error ⟨position, lead, count, cause⟩
      if lead < 0x80 then do
        let others ← decodeUtf8From (position + 1) rest
        return Char.ofNat lead.toNat :: others
      else if lead < 0xC2 || 0xF4 < lead then refuse 1 .invalidStart
      else match rest with
        | [] => refuse 1 .unexpectedEnd
        | second :: rest =>
            if !isSecondByte lead second then refuse 1 .invalidContinuation
            else if lead < 0xE0 then do
              let others ← decodeUtf8From (position + 2) rest
              return Char.ofNat ((lead.toNat - 0xC0) * 64 + continuationBits second) :: others
            else match rest with
              | [] => refuse 2 .unexpectedEnd
              | third :: rest =>
                  if !isContinuation third then refuse 2 .invalidContinuation
                  else if lead < 0xF0 then do
                    let others ← decodeUtf8From (position + 3) rest
                    return Char.ofNat (((lead.toNat - 0xE0) * 64 + continuationBits second) * 64 +
                      continuationBits third) :: others
                  else match rest with
                    | [] => refuse 3 .unexpectedEnd
                    | fourth :: rest =>
                        if !isContinuation fourth then refuse 3 .invalidContinuation
                        else do
                          let others ← decodeUtf8From (position + 4) rest
                          return Char.ofNat ((((lead.toNat - 0xF0) * 64 +
                            continuationBits second) * 64 + continuationBits third) * 64 +
                            continuationBits fourth) :: others

def decodeUtf8 (bytes : List UInt8) : Except Utf8Fault (List Char) := decodeUtf8From 0 bytes

/-- Stands for bytes that are refused. -/
def replacementCharacter : Char := Char.ofNat 0xFFFD

/-- Every refused sequence is replaced, and decoding goes on after it. The bound counts the
bytes. -/
def decodeUtf8Within : (bound : Nat) → List UInt8 → List Char
  | 0, _ => []
  | bound + 1, bytes => match decodeUtf8 bytes with
      | .ok text => text
      | .error fault =>
          let decoded := (decodeUtf8 (bytes.take fault.position)).toOption.getD []
          decoded ++ replacementCharacter ::
            decodeUtf8Within bound (bytes.drop (fault.position + fault.count))

def decodeUtf8Leniently (bytes : List UInt8) : List Char :=
  decodeUtf8Within (bytes.length + 1) bytes

end SolidityAudit.Text
