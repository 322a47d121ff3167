import SolidityAudit.Proofs.Files.ScratchSteps
import SolidityAudit.Proofs.Files.Storage
import SolidityAudit.Proofs.Outcome

namespace SolidityAudit.Files

open Text (Symbol Wording)

/-- The content of the file at a place, if there is one. -/
def Disk.fileAt? (disk : Disk) (location : Location) : Option Content :=
  match disk.node? location with
  | some (.file content) => some content
  | _ => none

/-- The second disk has the files of the first one everywhere but at the given places. -/
def Disk.SameFiles (places : List Location) (disk after : Disk) : Prop :=
  ∀ location, location ∉ places → after.fileAt? location = disk.fileAt? location

/-- A disk has its own files. -/
theorem Disk.sameFiles_self (places : List Location) (disk : Disk) :
    disk.SameFiles places disk := fun _ _ => rfl

/-- Files stay the same over two changes. -/
theorem Disk.SameFiles.trans {places : List Location} {disk middle after : Disk}
    (first : disk.SameFiles places middle) (second : middle.SameFiles places after) :
    disk.SameFiles places after := by
  intro location outside
  rw [second location outside, first location outside]

/-- Files that are the same elsewhere are so outside more places. -/
theorem Disk.SameFiles.mono {places wider : List Location} {disk after : Disk}
    (same : disk.SameFiles places after) (within : places ⊆ wider) :
    disk.SameFiles wider after :=
  fun location outside => same location fun listed => outside (within listed)

section Writing

/-- A node at a place changes no file elsewhere. -/
theorem Disk.sameFiles_put (disk : Disk) (location : Location) (node : Node) :
    disk.SameFiles [location] (disk.put location node) := by
  intro place outside
  have different : place ≠ location := by simpa using outside
  rw [fileAt?, fileAt?, node?_put_other _ _ _ _ different]

/-- A directory at a vacant place is no file. -/
theorem Disk.sameFiles_putDirectory {disk : Disk} {location : Location}
    (vacant : disk.node? location = none) :
    disk.SameFiles [] (disk.put location .directory) := by
  intro place _
  by_cases here : place = location
  · subst here
    rw [fileAt?, fileAt?, vacant, node?_put_same _ _ _ (vacant_entry vacant).1]
  · exact disk.sameFiles_put location .directory place (by simpa using here)

/-- Additions to a file change no other one. -/
theorem Disk.sameFiles_append (disk : Disk) (location : Location) (addition : String) :
    disk.SameFiles [location] (disk.append location addition) := by
  unfold append
  split <;> exact disk.sameFiles_put location _

end Writing

section Directories

/-- A directory that is asked for touches no file. -/
theorem Disk.sameFiles_ensureDirectory (disk : Disk) (name : Wording) :
    disk.SameFiles [] (disk.ensureDirectory name).1 := by
  cases name with
  | broken text => exact sameFiles_self _ _
  | plain path =>
      simp only [ensureDirectory]
      rcases disk.makeDirectory_cases path with
        ⟨location, -, -, vacant, made⟩ | ⟨fault, refused, -⟩
      · rw [made]
        exact sameFiles_putDirectory vacant
      · rw [refused]
        simp only
        split <;> exact sameFiles_self _ _

variable [Host]

/-- Making directories touches no file, whether or not it succeeds. -/
theorem Disk.sameFiles_makeDirectoriesWithin (bound : Nat) (disk : Disk) (path : List Symbol) :
    disk.SameFiles [] (makeDirectoriesWithin bound disk path).1 := by
  induction bound generalizing disk path with
  | zero => exact sameFiles_self _ _
  | succ bound ih =>
      rcases makeDirectoriesWithin_cases bound disk path with
        ⟨-, alone⟩ | ⟨-, middle, outcome, made, ending⟩
      · rw [alone]
        exact disk.sameFiles_ensureDirectory _
      · have above := ih disk (pathParts path).1
        rw [made] at above
        rcases ending with ⟨fault, -, -, passed⟩ | ⟨-, next⟩
        · rw [passed]
          exact above
        · rw [next]
          split
          · exact above
          · exact above.trans (middle.sameFiles_ensureDirectory _)

/-- A prepared place touches no file. -/
theorem Disk.sameFiles_withPlace (disk : Disk) (place : Option Wording) :
    disk.SameFiles [] (disk.withPlace place) := by
  unfold withPlace preparePlace
  split
  · exact sameFiles_self _ _
  · exact sameFiles_self _ _
  · exact sameFiles_makeDirectoriesWithin _ _ _

end Directories

/-- A file that was opened for additions is where its path leads, and no other file changed. -/
structure Disk.Opened (disk : Disk) (path : String) (after : Disk) (location : Location) :
    Prop where
  current : after.current = disk.current
  located : after.locate path = .ok location
  files : disk.SameFiles [location] after
  tree : after.IsTree

/-- A file is opened without a change to any other one. -/
theorem Disk.IsTree.openForAppending {disk after : Disk} (tree : disk.IsTree) {path : String}
    {location : Location} (opened : disk.openForAppending path = .ok (after, location)) :
    disk.Opened path after location := by
  obtain ⟨-, -, opened⟩ := bind_eq_ok.mp opened
  obtain ⟨place, writable, opened⟩ := bind_eq_ok.mp opened
  obtain ⟨located, -⟩ := writableLocation_ok (mapError_eq_ok.mp writable)
  cases found : disk.node? place with
  | some node =>
      rw [found] at opened
      cases opened
      exact ⟨rfl, located, sameFiles_self _ _, tree⟩
  | none =>
      rw [found] at opened
      cases opened
      obtain ⟨-, -, walked⟩ := locate_ok.mp located
      have parent := tree.walk_parent (components_ne_nil _) walked found
      have again := locate_keeps (put_current disk location (.file (.text "")))
        (fun _ => put_keeps_directory _ found) located
      exact ⟨rfl, again, disk.sameFiles_put location _, tree.put _ found parent⟩

/-- The directories above a file are made before it is opened. -/
theorem Disk.Opened.after {disk middle after : Disk} {path : String} {location : Location}
    (opened : middle.Opened path after location) (current : middle.current = disk.current)
    (files : disk.SameFiles [] middle) : disk.Opened path after location where
  current := opened.current.trans current
  located := opened.located
  files := (files.mono (List.nil_subset _)).trans opened.files
  tree := opened.tree

end SolidityAudit.Files
