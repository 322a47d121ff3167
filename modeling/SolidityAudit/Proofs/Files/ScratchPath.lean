import SolidityAudit.Files.Scratch
import SolidityAudit.Proofs.Files.Walk

namespace SolidityAudit.Files

open Text

/-- The path of the file that holds the source inside a scratch directory. -/
def scratchFile (directory : String) : String :=
  ((PlainPath.ofString directory).child contractFile).display

/-- The names on the way to the file inside a directory. -/
def scratchNames (directory : String) : List String :=
  (PlainPath.ofString directory).names ++ [contractFile]

/-- A path is absolute exactly when it has a root, which is one slash or two. -/
theorem rootOf_cases (path : List Char) :
    (path.head? ≠ some '/' ∧ rootOf path = "") ∨
      (path.head? = some '/' ∧ (rootOf path = "/" ∨ rootOf path = "//")) := by
  unfold rootOf
  split
  · exact .inr ⟨rfl, .inl rfl⟩
  · exact .inr ⟨rfl, .inr rfl⟩
  · exact .inr ⟨rfl, .inl rfl⟩
  · next relative =>
    refine .inl ⟨?_, rfl⟩
    intro absolute
    cases path with
    | nil => simp at absolute
    | cons first rest =>
        rw [List.head?_cons, Option.some.injEq] at absolute
        exact relative rest (by rw [absolute])

/-- The path of the file is its root followed by its names. -/
theorem scratchFile_toList (directory : String) :
    (scratchFile directory).toList =
      (rootOf directory.toList).toList ++
        ['/'].intercalate ((scratchNames directory).map String.toList) := by
  simp [scratchFile, scratchNames, PlainPath.display, PlainPath.child, PlainPath.ofString]

/-- No name of a path has a slash in it. -/
theorem scratchNames_plain (directory name : String) (listed : name ∈ scratchNames directory)
    (character : Char) (inside : character ∈ name.toList) : isSlash character = false := by
  rcases List.mem_append.mp listed with above | last
  · have part : name ∈ components directory.toList := (List.mem_filter.mp above).1
    obtain ⟨characters, split, rfl⟩ := List.mem_map.mp part
    rw [String.toList_ofList] at inside
    exact (mem_of_mem_splitAtEach split inside).2
  · have plain : contractFile.toList.all (fun character => !isSlash character) = true := by decide
    rw [List.mem_singleton.mp last] at inside
    simpa using List.all_eq_true.mp plain character inside

/-- The names are found again in the path. -/
theorem components_scratchNames (directory : String) :
    components (['/'].intercalate ((scratchNames directory).map String.toList)) =
      scratchNames directory := by
  rw [components, splitAtEach_joined (show isSlash '/' = true from rfl)]
  · simp [Function.comp_def]
  · simp [scratchNames]
  · intro part listed
    obtain ⟨name, named, rfl⟩ := List.mem_map.mp listed
    exact scratchNames_plain directory name named

/-- The file starts where its directory starts and is reached by its names, after empty names
for the root. -/
theorem scratchFile_route (disk : Disk) (directory : String) :
    disk.startOf (scratchFile directory) = disk.startOf directory ∧
      ∃ root, components (scratchFile directory).toList = root ++ scratchNames directory ∧
        disk.walk (disk.startOf directory) root = .ok (disk.startOf directory) := by
  have route := components_scratchNames directory
  have whole := scratchFile_toList directory
  rcases rootOf_cases directory.toList with ⟨relative, root⟩ | ⟨absolute, root⟩
  · rw [root] at whole
    rw [String.toList_empty, List.nil_append] at whole
    have start : (scratchFile directory).toList.head? ≠ some '/' := by
      intro slash
      obtain ⟨rest, split⟩ := List.head?_eq_some_iff.mp slash
      rw [← whole, split] at route
      rw [show '/' :: rest = [] ++ '/' :: rest from rfl, components_slash] at route
      have empty : "" ∈ scratchNames directory := by
        rw [← route]
        simp [components, splitAtEach]
      simp [scratchNames, contractFile, PlainPath.ofString] at empty
    refine ⟨by simp [Disk.startOf, start, relative], [], ?_, rfl⟩
    rw [whole, route, List.nil_append]
  · have begin : disk.startOf directory = [] := by simp [Disk.startOf, absolute]
    rcases root with single | double
    · rw [single] at whole
      have split : (scratchFile directory).toList =
          [] ++ '/' :: ['/'].intercalate ((scratchNames directory).map String.toList) := whole
      refine ⟨by simp [Disk.startOf, split, absolute], [""], ?_, by rw [begin]; rfl⟩
      rw [split, components_slash, route]
      rfl
    · rw [double] at whole
      have split : (scratchFile directory).toList =
          [] ++ '/' :: ([] ++ '/' ::
            ['/'].intercalate ((scratchNames directory).map String.toList)) := whole
      refine ⟨by simp [Disk.startOf, split, absolute], ["", ""], ?_, by rw [begin]; rfl⟩
      rw [split, components_slash, components_slash, route]
      rfl

/-- Inside a directory that is there, the file has its place there or is refused. -/
theorem Disk.writableLocation_scratchFile {disk : Disk} {directory : String}
    {location : Location} (located : disk.locate directory = .ok location)
    (present : disk.node? location = some .directory) :
    (disk.writableLocation (scratchFile directory) = .ok (location ++ [contractFile]) ∧
      disk.locate (scratchFile directory) = .ok (location ++ [contractFile]) ∧
        disk.node? (location ++ [contractFile]) ≠ some .directory) ∨
      ∃ cause, disk.writableLocation (scratchFile directory) = .error cause := by
  obtain ⟨-, -, walked⟩ := locate_ok.mp located
  obtain ⟨sameStart, root, route, atStart⟩ := scratchFile_route disk directory
  have parts : components (scratchFile directory).toList =
      (root ++ (PlainPath.ofString directory).names) ++ [contractFile] := by
    rw [route, scratchNames, List.append_assoc]
  have reached : disk.walk (disk.startOf directory)
      (root ++ (PlainPath.ofString directory).names ++ [contractFile]) =
      .ok (location ++ [contractFile]) := by
    apply walk_append_ok.mpr
    refine ⟨location, walk_append_ok.mpr ⟨_, atStart, walk_plain walked⟩, ?_⟩
    apply walk_cons_ok.mpr
    refine ⟨present, .inr (.inr (.inr (by decide))), ?_⟩
    rfl
  have nonempty : scratchFile directory ≠ "" := by
    intro empty
    rw [empty] at parts
    have lengths := congrArg List.getLast? parts
    simp [components, splitAtEach, contractFile] at lengths
  unfold writableLocation
  simp only [parentAndName, parts, List.dropLast_concat, List.getLast?_append,
    List.getLast?_singleton, Option.some_or, Option.getD_some, sameStart, beq_iff_eq, nonempty,
    if_false]
  split
  · exact .inr ⟨_, rfl⟩
  · next short =>
    have leads : disk.locate (scratchFile directory) = .ok (location ++ [contractFile]) :=
      locate_ok.mpr ⟨nonempty, by omega, by rw [sameStart, parts, reached]⟩
    rw [if_neg (by decide), if_neg (by decide), reached]
    simp only [bind, Except.bind]
    cases found : disk.node? (location ++ [contractFile]) with
    | none => exact .inl ⟨rfl, leads, by simp⟩
    | some node =>
        cases node with
        | directory => exact .inr ⟨_, rfl⟩
        | file content => exact .inl ⟨rfl, leads, by simp⟩

/-- The path of the file has no null character unless that of its directory has one. -/
theorem hasNull_scratchFile {directory : String} (plain : Disk.hasNull directory = false) :
    Disk.hasNull (scratchFile directory) = false := by
  simp only [Disk.hasNull, List.contains_eq_mem, decide_eq_false_iff_not] at plain ⊢
  intro inside
  have inNames (names : List String)
      (clean : ∀ name ∈ names, Char.ofNat 0 ∉ name.toList) :
      Char.ofNat 0 ∉ ['/'].intercalate (names.map String.toList) := by
    induction names with
    | nil => simp
    | cons name rest ih =>
        have head := clean name (by simp)
        have tail := ih fun other listed => clean other (by simp [listed])
        cases rest with
        | nil => simpa using head
        | cons next later =>
            rw [List.map_cons, List.map_cons, List.intercalate_cons_cons, ← List.map_cons]
            simp only [List.mem_append, not_or]
            exact ⟨⟨head, by decide⟩, tail⟩
  rw [scratchFile_toList] at inside
  rcases List.mem_append.mp inside with inRoot | inRest
  · rcases rootOf_cases directory.toList with ⟨-, root⟩ | ⟨-, root | root⟩ <;>
      · rw [root] at inRoot
        revert inRoot
        decide
  · refine inNames _ ?_ inRest
    intro name listed null
    rcases List.mem_append.mp listed with above | last
    · obtain ⟨characters, split, rfl⟩ := List.mem_map.mp (List.mem_filter.mp above).1
      rw [String.toList_ofList] at null
      exact plain (mem_of_mem_splitAtEach split null).1
    · rw [List.mem_singleton.mp last] at null
      revert null
      decide

/-- The name of a scratch directory has neither slashes nor null characters. -/
theorem numberedName_plain (number : Nat) (character : Char)
    (inside : character ∈ (scratchPrefix ++ toString number).toList) :
    isSlash character = false ∧ character ≠ Char.ofNat 0 := by
  rw [String.toList_append] at inside
  rcases List.mem_append.mp inside with fixed | digit
  · have plain : scratchPrefix.toList.all (fun character =>
        !isSlash character && character != Char.ofNat 0) = true := by decide
    simpa using List.all_eq_true.mp plain character fixed
  · have isDigit : character.isDigit = true := by
      rw [Nat.toString_eq_ofList_toDigits, String.toList_ofList] at digit
      exact Nat.isDigit_of_mem_toDigits (by decide) (by decide) digit
    constructor
    · rw [isSlash, beq_eq_false_iff_ne]
      rintro rfl
      revert isDigit
      decide
    · rintro rfl
      revert isDigit
      decide

/-- A free name is a number behind the fixed start. -/
theorem freeName_numbered (disk : Disk) (directory : String) (bound number : Nat) :
    ∃ chosen : Nat, freeName disk directory bound number = scratchPrefix ++ toString chosen := by
  induction bound generalizing number with
  | zero => exact ⟨number, rfl⟩
  | succ bound ih =>
      rw [freeName]
      split
      · exact ⟨number, rfl⟩
      · exact ih (number + 1)

/-- The path of a scratch directory ends in its name. -/
theorem scratchPath_split [Host] (disk : Disk) (place : Option Wording) :
    ∃ (start : List Char) (number : Nat),
      (scratchPath disk place).toList = start ++ (scratchPrefix ++ toString number).toList ∧
        ∀ character ∈ start, character ∈ (scratchParent place).toList ∨ character = '/' := by
  obtain ⟨number, named⟩ :=
    freeName_numbered disk (scratchParent place) (disk.entries.length + 1) 0
  rw [scratchPath, named, joinPath]
  split
  · exact ⟨_, number, String.toList_append, fun character inside => .inl inside⟩
  · refine ⟨(scratchParent place).toList ++ ['/'], number, ?_, ?_⟩
    · rw [String.toList_append, String.toList_append]
      rfl
    · intro character inside
      simpa using inside

/-- The last name of a path of a scratch directory is its own. -/
theorem components_scratchPath [Host] (disk : Disk) (place : Option Wording) :
    ∃ (names : List String) (number : Nat),
      components (scratchPath disk place).toList = names ++ [scratchPrefix ++ toString number] := by
  obtain ⟨number, named⟩ :=
    freeName_numbered disk (scratchParent place) (disk.entries.length + 1) 0
  have single : components (scratchPrefix ++ toString number).toList =
      [scratchPrefix ++ toString number] := by
    rw [components, splitAtEach_whole fun character inside =>
      (numberedName_plain number character inside).1, List.map_singleton, String.ofList_toList]
  rw [scratchPath, named, joinPath]
  split
  · next open_ =>
    simp only [Bool.or_eq_true, beq_iff_eq] at open_
    rcases open_ with empty | slash
    · exact ⟨[], number, by rw [empty, String.empty_append, single, List.nil_append]⟩
    · obtain ⟨before, split⟩ := List.getLast?_eq_some_iff.mp slash
      refine ⟨components before, number, ?_⟩
      rw [String.toList_append, split, List.append_assoc, List.singleton_append, components_slash,
        single]
  · refine ⟨components (scratchParent place).toList, number, ?_⟩
    have split : (scratchParent place ++ "/" ++ (scratchPrefix ++ toString number)).toList =
        (scratchParent place).toList ++ '/' :: (scratchPrefix ++ toString number).toList := by
      rw [String.toList_append, String.toList_append, List.append_assoc]
      rfl
    rw [split, components_slash, single]

/-- The path of a scratch directory ends in no slash. -/
theorem withoutTrailingSlashes_scratchPath [Host] (disk : Disk) (place : Option Wording) :
    Disk.withoutTrailingSlashes (scratchPath disk place) = scratchPath disk place := by
  obtain ⟨start, number, split, -⟩ := scratchPath_split disk place
  have named : (scratchPrefix ++ toString number).toList ≠ [] := by simp [scratchPrefix]
  have kept : (scratchPath disk place).toList.rdropWhile isSlash =
      (scratchPath disk place).toList := by
    apply List.rdropWhile_eq_self_iff.mpr
    intro nonempty
    simp only [split, List.getLast_append_of_ne_nil _ named]
    rw [(numberedName_plain number _ (List.getLast_mem named)).1]
    exact Bool.false_ne_true
  have nonempty : (scratchPath disk place).toList ≠ [] := by simp [split, scratchPrefix]
  simp only [Disk.withoutTrailingSlashes]
  change (if ((scratchPath disk place).toList.rdropWhile isSlash).isEmpty && _ then "/"
    else String.ofList ((scratchPath disk place).toList.rdropWhile isSlash)) = _
  rw [kept, List.isEmpty_eq_false_iff.mpr nonempty]
  simp

/-- The path of a scratch directory has no null character unless the place has one. -/
theorem hasNull_scratchPath [Host] (disk : Disk) {place : Option Wording}
    (plain : Disk.hasNull (scratchParent place) = false) :
    Disk.hasNull (scratchPath disk place) = false := by
  simp only [Disk.hasNull, List.contains_eq_mem, decide_eq_false_iff_not] at plain ⊢
  obtain ⟨start, number, split, above⟩ := scratchPath_split disk place
  rw [split]
  intro inside
  rcases List.mem_append.mp inside with inStart | inName
  · rcases above _ inStart with inParent | slash
    · exact plain inParent
    · revert slash
      decide
  · exact (numberedName_plain number _ inName).2 rfl

end SolidityAudit.Files
