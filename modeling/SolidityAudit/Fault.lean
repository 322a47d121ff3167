/-
This file describes what can go wrong, how it is worded and how it is reported.
-/

import SolidityAudit.Json.Shape
import SolidityAudit.Text.Piece
import SolidityAudit.Text.Utf8

namespace SolidityAudit

open Json (Value)
open Text (Wording)

/-- The family a fault belongs to decides who handles it. -/
inductive FaultKind where
  | general
  | badValue
  | badDocument
  | badEncoding
  | badText
  | badType
  | lookup
  | missingKey
  | missingIndex
  | state
  | tooDeep
  | missingAttribute
  | outOfRange
  | system
  | missingFile
  | noPermission
  | alreadyExists
  | isDirectory
  | notDirectory
  | request
  | connection
  | requestTimeout
  | processTimeout
  | audit
  | explorer
  | validation
  | resource
  deriving DecidableEq, Repr

/-- The name of a family in reports. -/
def FaultKind.label : FaultKind → String
  | .general => "Exception"
  | .badValue => "ValueError"
  | .badDocument => "JSONDecodeError"
  | .badEncoding => "UnicodeDecodeError"
  | .badText => "UnicodeEncodeError"
  | .badType => "TypeError"
  | .lookup => "LookupError"
  | .missingKey => "KeyError"
  | .missingIndex => "IndexError"
  | .state => "RuntimeError"
  | .tooDeep => "RecursionError"
  | .missingAttribute => "AttributeError"
  | .outOfRange => "OverflowError"
  | .system => "OSError"
  | .missingFile => "FileNotFoundError"
  | .noPermission => "PermissionError"
  | .alreadyExists => "FileExistsError"
  | .isDirectory => "IsADirectoryError"
  | .notDirectory => "NotADirectoryError"
  | .request => "RequestException"
  | .connection => "ConnectionError"
  | .requestTimeout => "Timeout"
  | .processTimeout => "TimeoutExpired"
  | .audit => "ContractLensError"
  | .explorer => "ExplorerError"
  | .validation => "ValidationError"
  | .resource => "ResourceError"

def FaultKind.all : List FaultKind :=
  [.general, .badValue, .badDocument, .badEncoding, .badText, .badType, .lookup, .missingKey,
    .missingIndex, .state, .tooDeep, .missingAttribute, .outOfRange, .system, .missingFile,
    .noPermission, .alreadyExists, .isDirectory, .notDirectory, .request, .connection,
    .requestTimeout, .processTimeout, .audit, .explorer, .validation, .resource]

def FaultKind.ofLabel? (label : String) : Option FaultKind :=
  FaultKind.all.find? fun kind => kind.label == label

/-- The wider families of a family, from near to far. -/
def FaultKind.ancestors : FaultKind → List FaultKind
  | .general => []
  | .badDocument | .badEncoding | .badText => [.badValue, .general]
  | .missingKey | .missingIndex => [.lookup, .general]
  | .tooDeep => [.state, .general]
  | .missingFile | .noPermission | .alreadyExists | .isDirectory | .notDirectory | .request =>
      [.system, .general]
  | .connection | .requestTimeout => [.request, .system, .general]
  | .explorer | .validation | .resource => [.audit, .general]
  | _ => [.general]

def FaultKind.belongsTo (kind family : FaultKind) : Bool :=
  kind == family || kind.ancestors.contains family

/-- The reasons for which the file system refuses an operation. -/
inductive SystemCause where
  | missing
  | exists
  | notDirectory
  | isDirectory
  | nameTooLong
  deriving DecidableEq, Repr

def SystemCause.number : SystemCause → Nat
  | .missing => 2
  | .exists => 17
  | .notDirectory => 20
  | .isDirectory => 21
  | .nameTooLong => 36

def SystemCause.reason : SystemCause → String
  | .missing => "No such file or directory"
  | .exists => "File exists"
  | .notDirectory => "Not a directory"
  | .isDirectory => "Is a directory"
  | .nameTooLong => "File name too long"

def SystemCause.kind : SystemCause → FaultKind
  | .missing => .missingFile
  | .exists => .alreadyExists
  | .notDirectory => .notDirectory
  | .isDirectory => .isDirectory
  | .nameTooLong => .system

inductive FaultSeverity where
  | low
  | medium
  | high
  | critical
  deriving DecidableEq, Repr

def FaultSeverity.label : FaultSeverity → String
  | .low => "low"
  | .medium => "medium"
  | .high => "high"
  | .critical => "critical"

def FaultSeverity.ofLabel? : String → Option FaultSeverity
  | "low" => some .low
  | "medium" => some .medium
  | "high" => some .high
  | "critical" => some .critical
  | _ => none

/-- A fault keeps its cause. A rejected input may name the field and shows its value, and a
resource fault shows the fault that caused it. -/
inductive Fault where
  | plain (kind : FaultKind) (text : String)
  | shape (cause : Json.ShapeFault)
  | malformedDocument
  | tooDeep (container : Json.Container)
  | undecodable (cause : Text.Utf8Fault)
  | unencodable (cause : Text.EncodingFault)
  | refused (cause : SystemCause) (path : String)
  | rejected (reason : String) (field : Option String) (value : Value)
  | resource (reason : String) (cause : Option String)
  | audit (reason : String) (severity : FaultSeverity) (details : List (Wording × Value))
  | explorer (reason : String) (severity : FaultSeverity) (details : List (Wording × Value))
  deriving BEq, Repr

def Fault.ofReading : Json.ReadFault → Fault
  | .malformed => .malformedDocument
  | .oversized limit digitCount => .shape (.oversizedNumeral limit digitCount)
  | .tooDeep container => .tooDeep container

def shapeKind : Json.ShapeFault → FaultKind
  | .lacksOperation _ _ => .missingAttribute
  | .missingKey _ => .missingKey
  | .missingIndex => .missingIndex
  | .badNumeral _ | .oversizedNumeral _ _ | .undefinedNumber | .unshown (.oversized _) => .badValue
  | .unshown (.tooDeep _) => .tooDeep
  | .infiniteNumber => .outOfRange
  | .notIterable _ | .notIndexable _ | .notSized _ | .badIndex | .notNumeric _
  | .itemNotText _ _ | .textExpected _ => .badType

def Fault.kind : Fault → FaultKind
  | .plain kind _ => kind
  | .shape cause => shapeKind cause
  | .malformedDocument => .badDocument
  | .tooDeep _ => .tooDeep
  | .undecodable _ => .badEncoding
  | .unencodable _ => .badText
  | .refused cause _ => cause.kind
  | .rejected _ _ _ => .validation
  | .resource _ _ => .resource
  | .audit _ _ _ => .audit
  | .explorer _ _ _ => .explorer

def utf8Reason : Text.Utf8Cause → String
  | .invalidStart => "invalid start byte"
  | .invalidContinuation => "invalid continuation byte"
  | .unexpectedEnd => "unexpected end of data"

/-- One byte is shown by its value, several by their positions. -/
def utf8Message (fault : Text.Utf8Fault) : String :=
  let place :=
    if fault.count == 1 then
      "byte 0x" ++ String.ofList (Text.hexDigits 2 fault.byte.toNat) ++ " in position " ++
        toString fault.position
    else
      "bytes in position " ++ toString fault.position ++ "-" ++
        toString (fault.position + fault.count - 1)
  "'utf-8' codec can't decode " ++ place ++ ": " ++ utf8Reason fault.cause

/-- One surrogate is shown by its escape, several by their positions. -/
def encodingMessage (fault : Text.EncodingFault) : String :=
  let place :=
    if fault.count == 1 then
      "character '" ++ String.ofList fault.first.escaped ++ "' in position " ++
        toString fault.position
    else
      "characters in position " ++ toString fault.position ++ "-" ++
        toString (fault.position + fault.count - 1)
  "'utf-8' codec can't encode " ++ place ++ ": surrogates not allowed"

def tooDeepMessage (container : Json.Container) : String :=
  let name := match container with
    | .array => "array"
    | .object => "object"
  "maximum recursion depth exceeded while decoding a JSON " ++ name ++ " from a unicode string"

/-- The words of a fault. A missing key is quoted. -/
def Fault.message : Fault → String
  | .plain .missingKey text => Text.quote text
  | .plain _ text => text
  | .shape cause => cause.message
  | .malformedDocument => "malformed JSON text"
  | .tooDeep container => tooDeepMessage container
  | .undecodable cause => utf8Message cause
  | .unencodable cause => encodingMessage cause
  | .refused cause path =>
      "[Errno " ++ toString cause.number ++ "] " ++ cause.reason ++ ": " ++ Text.quote path
  | .rejected reason _ _ => reason
  | .resource reason _ => reason
  | .audit reason _ _ => reason
  | .explorer reason _ _ => reason

/-- The form in which a fault is shown as the cause of another. -/
def Fault.detailed : Fault → String
  | .plain kind text => kind.label ++ "(" ++ Text.quote text ++ ")"
  | .refused cause _ =>
      cause.kind.label ++ "(" ++ toString cause.number ++ ", " ++ Text.quote cause.reason ++ ")"
  | fault => fault.kind.label ++ "(" ++ Text.quote fault.message ++ ")"

/-- A value that cannot be written or shown. -/
def Fault.ofObstacle (obstacle : Json.Obstacle) : Fault := .shape (.unshown obstacle)

/-- Work that goes deeper than the host allows. -/
def Fault.exhausted [Host] : Fault := .plain .tooDeep Host.exhaustion

/-- The refusal of an input shows it, which may fail instead. -/
def Fault.rejecting [Host] (reason : String) (field : Option String) (value : Value) : Fault :=
  match value.refusal? with
  | some obstacle => .ofObstacle obstacle
  | none => .rejected reason field value

def previewLimit : Nat := 80

/-- A long value is cut and marked. -/
def preview (value : Value) : Wording :=
  let text := value.display
  if text.symbols.length ≤ previewLimit then text else text.limited previewLimit ++ "..."

def Fault.severity? : Fault → Option FaultSeverity
  | .rejected _ _ _ => some .medium
  | .resource _ _ => some .high
  | .audit _ severity _ => some severity
  | .explorer _ severity _ => some severity
  | _ => none

def Fault.details : Fault → List (Wording × Value)
  | .rejected _ field value =>
      [("field", Value.ofText? (field.map Wording.plain)), ("value", .text (preview value))]
  | .resource _ (some cause) => [("cause", .text cause)]
  | .audit _ _ details => details
  | .explorer _ _ details => details
  | _ => []

/-- Details are left out when there are none. -/
def auditPayload (type reason : String) (severity : FaultSeverity)
    (details : List (Wording × Value)) : Value :=
  let common : List (Wording × Value) :=
    [("type", .text type), ("message", .text reason), ("severity", .text severity.label)]
  .object (if details.isEmpty then common else common.concat ("details", .object details))

/-- The report of a fault to a caller. -/
def Fault.payload (fault : Fault) : Value :=
  match fault with
  | .rejected reason field value =>
      .object [("type", .text "validation_error"), ("message", .text reason),
        ("field", Value.ofText? (field.map Wording.plain)), ("value", .text (preview value))]
  | .resource reason _ =>
      .object [("type", .text "resource_error"), ("message", .text reason),
        ("severity", .text FaultSeverity.high.label), ("details", .object fault.details)]
  | .audit reason severity details => auditPayload "contractlenserror" reason severity details
  | .explorer reason severity details => auditPayload "explorererror" reason severity details
  | other =>
      let message := other.message
      .object [("type", .text "unknown"),
        ("message", .text (if message == "" then "An unexpected error occurred" else message))]

end SolidityAudit
