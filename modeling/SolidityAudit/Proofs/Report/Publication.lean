import SolidityAudit.Proofs.Files.Storage
import SolidityAudit.Proofs.Json.LineEnds
import SolidityAudit.Proofs.Json.RoundTrip
import SolidityAudit.Proofs.Json.Showable
import SolidityAudit.Proofs.Report.DeclaredTypes
import SolidityAudit.Report

namespace SolidityAudit

open Files (Disk)
open Text (Wording)

section Publishing

variable [Host] {disk after : Disk} {record : Record}

/-- A report that was written has an encoding, and the file that was asked for holds it. -/
theorem writeReport_read {path : String} {text : Wording} (given : path ≠ "")
    (written : writeReport disk path text = (after, .ok ())) :
    ∃ content, text = .plain content ∧ after.read path = .ok (.text content) := by
  unfold writeReport at written
  rw [if_neg (by simpa using given)] at written
  simp only at written
  generalize (if Files.directoryPart path == "" then (disk, .ok ())
    else disk.makeDirectories (Files.directoryPart path)) = prepared at written
  rcases prepared with ⟨middle, outcome⟩
  cases outcome with
  | error fault => cases written
  | ok value =>
      simp only [Disk.writeText] at written
      cases result : middle.write path (Disk.stored text).1 with
      | error fault =>
          rw [result] at written
          cases written
      | ok last =>
          rw [result] at written
          cases text with
          | plain content =>
              cases written
              exact ⟨content, rfl, Disk.read_write result⟩
          | broken content => cases written

/-- A record that can be written is published with its file. -/
theorem publishReport_eq_ok {path : Option String} {text : Wording} :
    publishReport disk record path = (after, .ok text) ↔
      record.toJson.isWritable = true ∧ text = record.report ∧
        writeReport disk (path.getD "") record.report = (after, .ok ()) := by
  unfold publishReport Json.Value.isWritable
  cases record.toJson.refusal? with
  | some obstacle => simp
  | none =>
      simp only
      rcases writeReport disk (path.getD "") record.report with ⟨middle, outcome⟩
      cases outcome with
      | error fault => simp
      | ok value =>
          simp only [Prod.mk.injEq, Except.ok.injEq, Option.isNone_none, and_true, true_and]
          exact and_comm.trans (and_congr_left' eq_comm)

end Publishing

section Report

variable [Host] {record : Record} (typed : record.hasDeclaredTypes = true)

include typed

/-- All levels of a report can be read. -/
theorem toJson_isPlain_open : record.toJson.isPlain Host.openContainers = true := by
  obtain ⟨room, levels⟩ := Nat.exists_eq_add_of_le' Host.reportLevels_le
  rw [levels]
  exact Record.toJson_isPlain room typed

/-- Numbers are all that keeps a report from being written. -/
theorem toJson_isWritable :
    record.toJson.isWritable = true ↔ Json.AreReadable record.toJson.integers := by
  rw [Json.Value.isWritable, Option.isNone_iff_eq_none]
  exact Json.obstacle?_plain Host.openContainers_le _ (toJson_isPlain_open typed)

/-- A report that was written reads back. -/
theorem readString_report (writable : record.toJson.isWritable = true) :
    Json.readString record.report = .ok record.toJson :=
  Json.readString_render (toJson_isPlain_open typed) writable

/-- The symbols of a report are kept by files. -/
theorem report_symbols_kept :
    ∀ symbol ∈ Json.writtenValue .unicode 0 record.toJson, Json.isKept symbol = true :=
  List.all_eq_true.mp (Json.writtenValue_kept 0 Host.openContainers _ (toJson_isPlain_open typed))

/-- A report is a text of characters. -/
theorem report_isPlain : ∃ content, record.report = .plain content := by
  have whole : (Json.writtenValue .unicode 0 record.toJson).any Text.Symbol.isLone = false := by
    refine List.any_eq_false.mpr fun symbol listed => ?_
    cases symbol with
    | scalar character => simp [Text.Symbol.isLone]
    | lone offset => cases report_symbols_kept typed _ listed
  rw [Record.report, Json.Value.render, ← Text.scalars_of_unbroken whole,
    Wording.ofSymbols_scalars]
  exact ⟨_, rfl⟩

/-- No line end of a report is changed on reading. -/
theorem report_kept {content : String} (same : record.report = .plain content) :
    Disk.textOf (.text content) = .ok content := by
  have symbols := congrArg Wording.symbols same
  rw [Record.report, Json.Value.render, Wording.symbols_ofSymbols] at symbols
  have plain : '\r' ∉ content.toList := by
    intro returned
    have listed : Text.Symbol.scalar '\r' ∈ Json.writtenValue .unicode 0 record.toJson := by
      rw [symbols]
      exact List.mem_map_of_mem returned
    exact absurd (report_symbols_kept typed _ listed) (by decide)
  rw [Disk.textOf, Text.unifyNewlines_eq plain, String.ofList_toList]

/-- A report that a file holds is loaded from it. -/
theorem loadReport_written {disk : Disk} {path content : String}
    (writable : record.toJson.isWritable = true) (same : record.report = .plain content)
    (held : disk.read path = .ok (.text content)) :
    loadReport disk path = .ok record.toJson := by
  have reading := readString_report typed writable
  rw [same] at reading
  simp only [loadReport, Disk.readText, held, report_kept typed same, reading, bind, Except.bind,
    Except.mapError]

end Report

section Standard

attribute [local instance] Host.standard

/-- A record with quotes, control characters, both line ends, missing fields and a zone. -/
def escapingRecord : Record where
  riskScore := -7
  grade := .c
  category := .custom
  security := [{ source := "slither", category := .security, name := .text "a\"b\\c"
                 description := .text "first\r\nsecond\x01\tthird", severity := .text "" }]
  style := []
  inventory := { functions := [{ name := "été😀" }] }
  interface := [.event (.text "Paid") [{ type := .text "uint256", indexed := .bool true }] false]
  unsafeConstructs := [""]
  warnings := []
  summary := none
  generatedAt := { year := 2024, month := 1, day := 2, zone := some ⟨true, 5, 30, 0, 0⟩ }

end Standard

end SolidityAudit
