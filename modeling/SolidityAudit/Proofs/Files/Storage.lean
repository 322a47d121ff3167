import SolidityAudit.Proofs.Files.Walk
import SolidityAudit.Proofs.Outcome
import SolidityAudit.Proofs.Text.Utf8

namespace SolidityAudit.Files

/-- What is refused at its end gives no value. -/
theorem refused_anyway {ε α β : Type} (first : Except ε α) (cause : ε) (value : β) :
    (first >>= fun _ => (.error cause : Except ε β)) ≠ .ok value := by
  cases first <;> simp [bind, Except.bind]

/-- A path consists of its parent and its name. -/
theorem parentAndName_whole {path : String} (named : (Disk.parentAndName path).2 ≠ "") :
    (Disk.parentAndName path).1 ++ [(Disk.parentAndName path).2] = components path.toList := by
  simp only [Disk.parentAndName] at named ⊢
  cases last : (components path.toList).getLast? with
  | none => simp [last] at named
  | some name =>
      rw [Option.getD_some]
      exact List.dropLast_append_getLast? name last

/-- A file can be written where its whole path leads and no directory is. -/
theorem Disk.writableLocation_ok {disk : Disk} {path : String} {location : Location}
    (writable : disk.writableLocation path = .ok location) :
    disk.locate path = .ok location ∧ disk.node? location ≠ some .directory := by
  have whole := @parentAndName_whole path
  unfold writableLocation at writable
  generalize parentAndName path = parts at writable whole
  rcases parts with ⟨parents, name⟩
  simp only [beq_iff_eq] at writable
  by_cases empty : path = ""
  · rw [if_pos empty] at writable
    cases writable
  by_cases long : path.utf8ByteSize > maximalPathSize
  · rw [if_neg empty, if_pos long] at writable
    cases writable
  rw [if_neg empty, if_neg long] at writable
  by_cases unnamed : name = ""
  · rw [if_pos unnamed] at writable
    exact absurd writable (refused_anyway _ _ _)
  rw [if_neg unnamed, whole unnamed] at writable
  by_cases dots : (name == "." || name == "..") = true
  · rw [if_pos dots] at writable
    exact absurd writable (refused_anyway _ _ _)
  rw [if_neg dots] at writable
  cases walked : disk.walk (disk.startOf path) (components path.toList) with
  | error cause => simp [walked, bind, Except.bind] at writable
  | ok place =>
      simp only [walked, bind, Except.bind] at writable
      split at writable
      · cases writable
      · next free =>
        cases writable
        exact ⟨locate_ok.mpr ⟨empty, by omega, walked⟩, free⟩

/-- A file is written at the place of its path, where no directory is. -/
theorem Disk.write_ok {disk after : Disk} {path content : String}
    (written : disk.write path content = .ok after) :
    hasNull path = false ∧ ∃ location, disk.locate path = .ok location ∧
      disk.node? location ≠ some .directory ∧
        after = disk.put location (.file (.text content)) := by
  unfold write at written
  cases null : hasNull path with
  | true => simp [checkedPath, null, bind, Except.bind] at written
  | false =>
      cases writable : disk.writableLocation path with
      | error cause =>
          simp [checkedPath, null, writable, refusing, Except.mapError, bind, Except.bind]
            at written
      | ok location =>
          obtain ⟨located, free⟩ := writableLocation_ok writable
          simp only [checkedPath, null, writable, refusing, Except.mapError, bind, Except.bind,
            pure, Except.pure, Bool.false_eq_true, if_false, Except.ok.injEq] at written
          exact ⟨rfl, location, located, free, written.symm⟩

/-- Below the root there is a file at the place where one was put. -/
theorem Disk.node?_putFile {disk : Disk} {location : Location} (content : Content)
    (free : disk.node? location ≠ some .directory) :
    (disk.put location (.file content)).node? location = some (.file content) := by
  refine node?_put_same _ _ _ ?_
  rintro rfl
  exact free rfl

/-- What was written to a path is read from it. -/
theorem Disk.read_write {disk after : Disk} {path content : String}
    (written : disk.write path content = .ok after) :
    after.read path = .ok (.text content) := by
  obtain ⟨null, location, located, free, rfl⟩ := write_ok written
  have kept (place : Location) (present : disk.node? place = some .directory) :
      (disk.put location (.file (.text content))).node? place = some .directory := by
    rw [node?_put_other _ _ _ _ (by rintro rfl; exact free present), present]
  have again := locate_keeps (put_current disk location _) kept located
  simp only [read, checkedPath, null, again, refusing, Except.mapError, bind, Except.bind,
    node?_putFile _ free, Bool.false_eq_true, if_false]
  rfl

section Spelling

/-- A file has the given text as its content, or the bytes of the text in UTF-8. -/
def Content.Spells (text : String) : Content → Prop
  | .text value => value = text
  | .bytes value => value.toByteArray = text.toUTF8

/-- There is a file at the path, and it spells the text. -/
def Disk.Holds (disk : Disk) (path text : String) : Prop :=
  ∃ content, disk.read path = .ok content ∧ content.Spells text

/-- A file holds what was written to it. -/
theorem Disk.holds_written {disk after : Disk} {path text : String}
    (written : disk.write path text = .ok after) : after.Holds path text :=
  ⟨.text text, read_write written, rfl⟩

/-- A file is read as the text that it spells. -/
theorem Content.Spells.textOf {content : Content} {text : String} (spells : content.Spells text) :
    Disk.textOf content = .ok (String.ofList (Text.unifyNewlines text.toList)) := by
  cases content with
  | text value =>
      cases spells
      rfl
  | bytes value => simp only [Disk.textOf, Text.decodeUtf8_toUTF8 spells]

/-- What is held at a path is read from it, with one kind of line end. -/
theorem Disk.Holds.readText {disk : Disk} {path text : String} (held : disk.Holds path text) :
    disk.readText path = .ok (String.ofList (Text.unifyNewlines text.toList)) := by
  obtain ⟨content, read, spells⟩ := held
  rw [Disk.readText, read, ok_bind, spells.textOf]

end Spelling

end SolidityAudit.Files
