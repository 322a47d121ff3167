/-
This file defines the record of an analysis and its JSON form.
-/

import SolidityAudit.Diagnostic
import SolidityAudit.Interface.Entry
import SolidityAudit.Json.Printer
import SolidityAudit.Risk.Grade
import SolidityAudit.Source.Classification
import SolidityAudit.Source.Inventory

namespace SolidityAudit

open Json (Value)
open Text (Wording)

/-- How far a clock is ahead of universal time or behind it. -/
structure ZoneOffset where
  isBehind : Bool
  hour : Nat
  minute : Nat
  second : Nat := 0
  microsecond : Nat := 0
  deriving DecidableEq, Repr

structure Timestamp where
  year : Nat
  month : Nat
  day : Nat
  hour : Nat := 0
  minute : Nat := 0
  second : Nat := 0
  microsecond : Nat := 0
  zone : Option ZoneOffset := none
  deriving DecidableEq, Repr

/-- A number with zeros before it up to the given width. -/
def padded (width number : Nat) : String :=
  let figures := Nat.toDigits 10 number
  String.ofList (List.replicate (width - figures.length) '0' ++ figures)

def writtenMicroseconds (count : Nat) : String :=
  if count == 0 then "" else "." ++ padded 6 count

/-- Seconds are written only when there are any. -/
def ZoneOffset.display (zone : ZoneOffset) : String :=
  (if zone.isBehind then "-" else "+") ++ padded 2 zone.hour ++ ":" ++ padded 2 zone.minute ++
    (if zone.second == 0 && zone.microsecond == 0 then ""
      else ":" ++ padded 2 zone.second ++ writtenMicroseconds zone.microsecond)

/-- Microseconds and the zone are written only when there are any. -/
def Timestamp.display (time : Timestamp) : String :=
  padded 4 time.year ++ "-" ++ padded 2 time.month ++ "-" ++ padded 2 time.day ++ "T" ++
    padded 2 time.hour ++ ":" ++ padded 2 time.minute ++ ":" ++ padded 2 time.second ++
    writtenMicroseconds time.microsecond ++ (time.zone.map ZoneOffset.display).getD ""

/-- The complete result of one analysis. -/
structure Record where
  riskScore : Int
  grade : Risk.Grade
  category : Source.ContractCategory
  security : List Diagnostic
  style : List Diagnostic
  inventory : Source.Inventory
  interface : List Interface.Entry
  unsafeConstructs : List String
  warnings : List String
  summary : Option Wording
  generatedAt : Timestamp

def Record.toJson (record : Record) : Value :=
  .object [
    ("riskScore", .integer record.riskScore),
    ("auditGrade", .text record.grade.label),
    ("contractCategory", .text record.category.label),
    ("securityDiagnostics", .array (record.security.map Diagnostic.toJson)),
    ("styleDiagnostics", .array (record.style.map Diagnostic.toJson)),
    ("inventory", record.inventory.toJson),
    ("abi", .array (record.interface.map Interface.Entry.toJson)),
    ("unsafeConstructs", Value.ofTexts record.unsafeConstructs),
    ("deploymentWarnings", Value.ofTexts record.warnings),
    ("narrativeSummary", Value.ofText? record.summary),
    ("generatedAt", .text record.generatedAt.display)]

def Record.report (record : Record) : Wording := record.toJson.render .unicode

end SolidityAudit
