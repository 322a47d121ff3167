import SolidityAudit.Detection.Pipeline
import SolidityAudit.Proofs.Files.Storage
import SolidityAudit.Proofs.Text.Parted

namespace SolidityAudit.Detection

open Files (Disk PlainPath)
open Text

/-- The words that a rule asks for and those that it excludes. -/
def SecurityRule.words (rule : SecurityRule) : List String := rule.required.flatten ++ rule.excluded

/-- A rule fires on a word of each group and no excluded word. -/
theorem SecurityRule.fires_iff {rule : SecurityRule} {lowered : List Char} :
    rule.fires lowered = true ↔
      (∀ group ∈ rule.required, ∃ word ∈ group, mentions lowered word = true) ∧
        ∀ word ∈ rule.excluded, mentions lowered word = false := by
  simp [fires]

/-- A rule judges a text by its words alone. -/
theorem SecurityRule.fires_congr {rule : SecurityRule} {lowered other : List Char}
    (same : ∀ word ∈ rule.words, mentions lowered word = mentions other word) :
    rule.fires lowered = rule.fires other := by
  rw [Bool.eq_iff_iff, fires_iff, fires_iff]
  apply and_congr
  · refine forall₂_congr fun group listed => exists_congr fun word => ?_
    refine and_congr_right fun inside => ?_
    rw [same word (List.mem_append_left _ (List.mem_flatten.mpr ⟨group, listed, inside⟩))]
  · refine forall₂_congr fun word inside => ?_
    rw [same word (List.mem_append_right _ inside)]

theorem securityRules_withinLine :
    ∀ rule ∈ securityRules, ∀ word ∈ rule.words, WithinLine word.toList := by
  decide

/-- Unifying line ends changes no mention of a word within a line. -/
theorem mentions_unified {word : String} (within : WithinLine word.toList) (text : List Char) :
    mentions (lower (unifyNewlines text)) word = mentions (lower text) word := by
  rw [mentions, mentions, Bool.eq_iff_iff, occursIn_iff, occursIn_iff]
  exact infix_lower_unified within [] text

/-- The kind of the line ends does not matter to the security rules. -/
theorem securityScan_unified (source : String) :
    securityScan (String.ofList (unifyNewlines source.toList)) = securityScan source := by
  unfold securityScan firingRules
  rw [String.toList_ofList]
  congr 1
  apply List.filter_congr
  intro rule listed
  apply SecurityRule.fires_congr
  intro word inside
  exact mentions_unified (securityRules_withinLine rule listed word inside) source.toList

/-- The rules find in a file that holds a source what they find in the source, but for carriage
returns in the style rules. -/
theorem scansOfFile_agree (source path : String) :
    (∀ disk after : Disk, disk.write (PlainPath.ofString path).display source = .ok after →
      after.Holds (PlainPath.ofString path).display source) ∧
    ∀ disk : Disk, disk.Holds (PlainPath.ofString path).display source →
      securityScanOfFile disk path = .ok (securityScan source) ∧
        ('\r' ∉ source.toList → styleScanOfFile disk path = .ok (styleScan source)) := by
  refine ⟨fun disk after written => Disk.holds_written written, fun disk held => ?_⟩
  have read : disk.readPlainText path = .ok (String.ofList (unifyNewlines source.toList)) :=
    held.readText
  constructor
  · rw [securityScanOfFile, read, Except.map, securityScan_unified]
  · intro plain
    rw [styleScanOfFile, read, Except.map, unifyNewlines_eq plain, String.ofList_toList]

/-- A source with three kinds of line ends, one of which stands within a word. -/
def mixedSource : String := "ΑΣ\nself\r\ndestruct\rTX.ORIGIN"

/-- A disk with a file of bytes, which are those of two lines without a carriage return. -/
def byteDisk : Disk := ⟨[(["contract.sol"], .file (.bytes [0xC3, 0xA9, 0x0A, 0x20]))], []⟩

/-- The one source is scanned from the file to which it was written, the other from its bytes. -/
theorem scansOfFile_agree_mixed :
    (∃ after : Disk, Disk.write ⟨[], []⟩ "contract.sol" mixedSource = .ok after ∧
      securityScanOfFile after "./contract.sol" = .ok [originRule.toDiagnostic]) ∧
    byteDisk.Holds "contract.sol" "é\n " ∧ '\r' ∉ "é\n ".toList ∧
      styleScanOfFile byteDisk "./contract.sol" = .ok (styleScan "é\n ") := by
  have plain : (PlainPath.ofString "./contract.sol").display = "contract.sol" := by decide
  constructor
  · obtain ⟨holds, scanned⟩ := scansOfFile_agree mixedSource "./contract.sol"
    rw [plain] at holds scanned
    have written : Disk.write ⟨[], []⟩ "contract.sol" mixedSource =
        .ok ⟨[(["contract.sol"], .file (.text mixedSource))], []⟩ := by rfl
    have rules : firingRules mixedSource = [originRule] := by rfl
    refine ⟨_, written, ?_⟩
    rw [(scanned _ (holds _ _ written)).1, securityScan, rules]
    rfl
  · have held : byteDisk.Holds "contract.sol" "é\n " := ⟨_, rfl, by rfl⟩
    have unreturned : '\r' ∉ "é\n ".toList := by decide
    have scanned := (scansOfFile_agree "é\n " "./contract.sol").2
    rw [plain] at scanned
    exact ⟨held, unreturned, (scanned byteDisk held).2 unreturned⟩

end SolidityAudit.Detection
