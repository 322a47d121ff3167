/-
This file writes JSON values with one member or item a line.
-/

import SolidityAudit.Host
import SolidityAudit.Json.Value
import SolidityAudit.Number.Shortest

namespace SolidityAudit.Json

open Text (Symbol Wording scalars)

/-- Texts either keep their characters or show all but the printable ASCII ones by escapes. -/
inductive Charset where
  | unicode
  | ascii
  deriving DecidableEq, Repr

def escapedUnit (unit : Nat) : List Char := '\\' :: 'u' :: Text.hexDigits 4 unit

/-- Characters beyond the basic plane take two units. -/
def escapedCode (code : Nat) : List Char :=
  if code < 0x10000 then escapedUnit code
  else
    let offset := code - 0x10000
    escapedUnit (0xD800 + offset / 0x400) ++ escapedUnit (0xDC00 + offset % 0x400)

def writtenCharacter (charset : Charset) (character : Char) : List Char :=
  if character == '"' then ['\\', '"']
  else if character == '\\' then ['\\', '\\']
  else if character == '\n' then ['\\', 'n']
  else if character == '\r' then ['\\', 'r']
  else if character == '\t' then ['\\', 't']
  else if character.toNat == 8 then ['\\', 'b']
  else if character.toNat == 12 then ['\\', 'f']
  else if character < ' ' then escapedCode character.toNat
  else if charset == .ascii && character > '~' then escapedCode character.toNat
  else [character]

/-- A surrogate is a unit by itself. -/
def writtenSymbol (charset : Charset) : Symbol → List Symbol
  | .scalar character => scalars (writtenCharacter charset character)
  | .lone offset => match charset with
      | .unicode => [.lone offset]
      | .ascii => scalars (escapedUnit (Symbol.firstSurrogate + offset))

def writtenText (charset : Charset) (text : Wording) : List Symbol :=
  .scalar '"' :: text.symbols.flatMap (writtenSymbol charset) ++ [.scalar '"']

def writtenInteger (value : Int) : List Char :=
  if value < 0 then '-' :: Nat.toDigits 10 value.natAbs else Nat.toDigits 10 value.natAbs

def writtenReal (value : Binary64) : List Char :=
  value.written "Infinity".toList "NaN".toList

/-- A line break and two spaces for each level. -/
def lineBreak (depth : Nat) : List Symbol :=
  scalars ('\n' :: List.replicate (2 * depth) ' ')

mutual

def writtenValue (charset : Charset) (depth : Nat) : Value → List Symbol
  | .null => scalars "null".toList
  | .bool true => scalars "true".toList
  | .bool false => scalars "false".toList
  | .integer value => scalars (writtenInteger value)
  | .real value => scalars (writtenReal value)
  | .text value => writtenText charset value
  | .array [] => scalars ['[', ']']
  | .array (item :: rest) =>
      .scalar '[' :: lineBreak (depth + 1) ++ writtenValue charset (depth + 1) item ++
        writtenItems charset (depth + 1) rest ++ lineBreak depth ++ [.scalar ']']
  | .object [] => scalars ['\x7b', '\x7d']
  | .object ((name, value) :: rest) =>
      .scalar '\x7b' :: lineBreak (depth + 1) ++ writtenText charset name ++
        scalars [':', ' '] ++ writtenValue charset (depth + 1) value ++
        writtenMembers charset (depth + 1) rest ++ lineBreak depth ++ [.scalar '\x7d']

def writtenItems (charset : Charset) (depth : Nat) : List Value → List Symbol
  | [] => []
  | item :: rest =>
      .scalar ',' :: lineBreak depth ++ writtenValue charset depth item ++
        writtenItems charset depth rest

def writtenMembers (charset : Charset) (depth : Nat) : List (Wording × Value) → List Symbol
  | [] => []
  | (name, value) :: rest =>
      .scalar ',' :: lineBreak depth ++ writtenText charset name ++ scalars [':', ' '] ++
        writtenValue charset depth value ++ writtenMembers charset depth rest

end

def Value.render (charset : Charset) (value : Value) : Wording :=
  Wording.ofSymbols (writtenValue charset 0 value)

/-- What keeps a value from being written or shown. -/
inductive Obstacle where
  | oversized (limit : Nat)
  | tooDeep (words : String)
  deriving DecidableEq, Repr

def Obstacle.message : Obstacle → String
  | .oversized limit =>
      "Exceeds the limit (" ++ toString limit ++ " digits) for integer string conversion; " ++
        "use sys.set_int_max_str_digits() to increase the limit"
  | .tooDeep words => words

def integerObstacle? [Host] (value : Int) : Option Obstacle :=
  (exceededLimit? (figureCount value)).map Obstacle.oversized

mutual

/-- The first obstacle in a value, where the room counts the containers that may still stand
inside each other. -/
def Value.obstacle? [Host] (room : Nat) : Value → Option Obstacle
  | .integer value => integerObstacle? value
  | .array items => match room with
      | 0 => some (.tooDeep Host.exhaustion)
      | room + 1 => obstacleAmong? room items
  | .object members => match room with
      | 0 => some (.tooDeep Host.exhaustion)
      | room + 1 => obstacleWithin? room members
  | _ => none

def obstacleAmong? [Host] (room : Nat) : List Value → Option Obstacle
  | [] => none
  | item :: rest => (item.obstacle? room).or (obstacleAmong? room rest)

def obstacleWithin? [Host] (room : Nat) : List (Wording × Value) → Option Obstacle
  | [] => none
  | (_, value) :: rest => (value.obstacle? room).or (obstacleWithin? room rest)

end

/-- Numbers with too many figures and containers too deep inside each other are neither
written nor shown. -/
def Value.refusal? [Host] (value : Value) : Option Obstacle :=
  value.obstacle? Host.shownContainers

def Value.isWritable [Host] (value : Value) : Bool := value.refusal?.isNone

end SolidityAudit.Json
