import SolidityAudit.Proofs.Files.Directories
import SolidityAudit.Proofs.Files.ScratchPath

namespace SolidityAudit.Files

open Text (Wording)

section Steps

/-- How a step of the work in a scratch directory ends. -/
inductive StepEnd where
  | notReached
  | succeeded
  | failed (fault : Fault)

/-- A step that is reached succeeds or fails. -/
def StepEnd.of {α : Type} : Except Fault α → StepEnd
  | .ok _ => .succeeded
  | .error fault => .failed fault

/-- The fault of a step that failed. -/
def StepEnd.fault? : StepEnd → Option Fault
  | .failed fault => some fault
  | _ => none

/-- The step was reached and did not fail. -/
def StepEnd.hasSucceeded : StepEnd → Bool
  | .succeeded => true
  | _ => false

/-- The ends of the three steps. -/
structure ScratchSteps where
  creation : StepEnd
  writing : StepEnd
  removal : StepEnd

/-- None of the steps failed. -/
def ScratchSteps.succeeded (steps : ScratchSteps) : Bool :=
  steps.creation.hasSucceeded && steps.writing.hasSucceeded && steps.removal.hasSucceeded

/-- The steps one after the other. The removal is reached whenever the creation succeeds. -/
def scratchSteps [Host] (disk : Disk) (source : Wording) (place : Option Wording)
    (faults : ScratchFaults) : ScratchSteps :=
  match createScratch disk place faults with
  | (_, .error fault) => ⟨.failed fault, .notReached, .notReached⟩
  | (disk, .ok directory) =>
      let (disk, written) := writeScratch disk (scratchFile directory) source faults
      ⟨.succeeded, .of written, .of (removeScratch disk directory faults).2⟩

/-- A failed creation is reported first, then a failed removal, then a failed writing. -/
def ScratchSteps.reported (steps : ScratchSteps) (directory : String) : Option Fault :=
  (steps.creation.fault?.map (resourceFault "Could not create temporary directory")).or
    ((steps.removal.fault?.map
      (resourceFault ("Could not remove temporary directory " ++ directory))).or
    (steps.writing.fault?.map (resourceFault "Could not write temporary source file")))

/-- What the work gives unless a failure is reported. -/
def ScratchSteps.outcome {α : Type} (steps : ScratchSteps) (directory : String) (value : α) :
    Except Fault α :=
  match steps.reported directory with
  | some fault => .error fault
  | none => .ok value

/-- Something is reported exactly when a step failed. -/
theorem ScratchSteps.reported_iff_failed (steps : ScratchSteps) (directory : String) :
    (∃ fault, steps.reported directory = some fault) ↔
      ∃ step ∈ [steps.creation, steps.writing, steps.removal], ∃ fault, step = .failed fault := by
  rcases steps with ⟨creation, writing, removal⟩
  cases creation <;> cases writing <;> cases removal <;>
    simp [reported, StepEnd.fault?]

/-- The work fails with what is reported. -/
theorem ScratchSteps.outcome_error_iff {α : Type} (steps : ScratchSteps) (directory : String)
    (value : α) (fault : Fault) :
    steps.outcome directory value = .error fault ↔ steps.reported directory = some fault := by
  unfold outcome
  cases steps.reported directory <;> simp

/-- System faults are reported as trouble with a resource. -/
theorem resourceFault_system {fault : Fault} (reason : String)
    (system : fault.kind.belongsTo .system = true) :
    (resourceFault reason fault).kind = .resource := by
  rw [resourceFault, if_pos system]
  rfl

/-- Other faults are reported as they are. -/
theorem resourceFault_other {fault : Fault} (reason : String)
    (other : fault.kind.belongsTo .system = false) : resourceFault reason fault = fault := by
  simp [resourceFault, other]

end Steps

section Place

variable [Host]

/-- The places where directories may be left behind. -/
def Disk.scratchPlaces (disk : Disk) : (place : Option Wording) → List Location
  | none => []
  | some path => disk.placesOn path

/-- The disk with the place for scratch directories prepared. -/
def Disk.withPlace (disk : Disk) (place : Option Wording) : Disk := (preparePlace disk place).1

/-- More directories are missing on the way to the place than can be asked for. -/
def Disk.IsTooDeep (disk : Disk) (place : Option Wording) : Prop :=
  ∃ path, place = some path ∧ path ≠ "" ∧ Host.nestedDirectories ≤ disk.missingAbove path.symbols

/-- The place has a surrogate in its name. -/
def IsBrokenPlace (place : Option Wording) : Prop := ∃ text, place = some (.broken text)

/-- The place is unset, the current directory or a path that is made. -/
theorem preparePlace_cases (disk : Disk) (place : Option Wording) :
    (¬ disk.IsTooDeep place ∧ ¬ IsBrokenPlace place ∧ preparePlace disk place = (disk, .ok ())) ∨
      ∃ path, place = some path ∧ path ≠ "" ∧
        preparePlace disk place = disk.makeDirectories path := by
  unfold preparePlace
  split
  · exact .inl ⟨by simp [Disk.IsTooDeep], by simp [IsBrokenPlace], rfl⟩
  · exact .inl ⟨by simp [Disk.IsTooDeep], by simp [IsBrokenPlace], rfl⟩
  · next path named => exact .inr ⟨path, rfl, named, rfl⟩

/-- A surrogate that stands for one byte of a name. -/
def isByteEscape : Text.Symbol → Bool
  | .scalar _ => false
  | .lone offset => 0x480 ≤ offset.val && offset.val < 0x500

/-- The place is unset or a path without null characters and without bytes that are no text. -/
structure IsPathName (place : Option Wording) : Prop where
  plain : Disk.hasNull (scratchParent place) = false
  readable : ∀ path, place = some path → path.symbols.any isByteEscape = false

/-- A prepared place is made of directories on its path, in a tree. -/
theorem Disk.IsTree.prepared_place {disk : Disk} (tree : disk.IsTree) (place : Option Wording) :
    disk.GrownTo (disk.scratchPlaces place) (disk.withPlace place) ∧
      (disk.withPlace place).IsTree := by
  unfold withPlace
  rcases preparePlace_cases disk place with ⟨-, -, prepared⟩ | ⟨path, rfl, -, prepared⟩
  · rw [prepared]
    exact ⟨grownTo_self _ _, tree⟩
  · rw [prepared]
    have made := tree.makeDirectoriesWithin Host.nestedDirectories path.symbols
    rw [Wording.ofSymbols_symbols] at made
    exact ⟨made.grown, made.tree⟩

/-- A fault of the creation is one of the system, or the place is broken or too deep. -/
def Disk.IsCreationFault (disk : Disk) (place : Option Wording) (fault : Fault) : Prop :=
  fault.kind.belongsTo .system = true ∨ (IsBrokenPlace place ∧ fault.kind = .badText) ∨
    disk.IsTooDeep place ∧ fault.kind = .tooDeep

/-- A place without null characters cannot be prepared for these reasons alone. -/
theorem preparePlace_fault {disk : Disk} {place : Option Wording} {fault : Fault}
    (plain : Disk.hasNull (scratchParent place) = false)
    (failed : (preparePlace disk place).2 = .error fault) : disk.IsCreationFault place fault := by
  rcases preparePlace_cases disk place with ⟨-, -, prepared⟩ | ⟨path, rfl, named, prepared⟩
  · rw [prepared] at failed
    cases failed
  · rw [prepared] at failed
    rcases Disk.makeDirectoriesWithin_fault failed with system | ⟨null, -⟩ | ⟨broken, kind⟩ |
      ⟨deep, same⟩
    · exact .inl system
    · rw [Wording.ofSymbols_symbols] at null
      change Disk.hasNull path.masked = false at plain
      rw [null] at plain
      cases plain
    · rw [Wording.ofSymbols_symbols] at broken
      refine .inr (.inl ⟨?_, kind⟩)
      cases path with
      | plain path => cases broken
      | broken text => exact ⟨text, rfl⟩
    · rw [same]
      exact .inr (.inr ⟨⟨path, rfl, named, deep⟩, rfl⟩)

/-- A place that is too deep is not prepared at all. -/
theorem preparePlace_tooDeep {disk : Disk} {place : Option Wording} (deep : disk.IsTooDeep place) :
    preparePlace disk place = (disk, .error .exhausted) := by
  rcases preparePlace_cases disk place with ⟨shallow, -, -⟩ | ⟨path, rfl, -, prepared⟩
  · exact absurd deep shallow
  · obtain ⟨other, same, -, missing⟩ := deep
    cases same
    rw [prepared]
    exact Disk.makeDirectoriesWithin_exhausted missing

/-- A place is too deep if it has too many names below a missing one. -/
theorem isTooDeep_nested {disk : Disk} {name : Char} (plain : isSlash name = false)
    (vacant : disk.node? (stepTo disk.current (String.singleton name)) = none) {count : Nat}
    (many : Host.nestedDirectories ≤ count) :
    disk.IsTooDeep (some (.plain (String.ofList (nestedPath name count)))) := by
  refine ⟨_, rfl, ?_, ?_⟩
  · intro empty
    have symbols := congrArg Wording.symbols empty
    simp [nestedPath] at symbols
  · rw [Wording.symbols_plain, String.toList_ofList]
    exact many.trans (Disk.missingAbove_nested plain vacant count)

/-- A broken place is not prepared. -/
theorem preparePlace_broken (disk : Disk) {place : Option Wording} (broken : IsBrokenPlace place) :
    ∃ fault, (preparePlace disk place).2 = .error fault := by
  obtain ⟨text, rfl⟩ := broken
  obtain ⟨fault, failed, -⟩ := Disk.makeDirectoriesWithin_broken Host.nestedDirectories disk
    text.broken
  exact ⟨fault, failed⟩

/-- The name of a scratch directory leads down. -/
theorem scratchPath_named (disk : Disk) (place : Option Wording) :
    ∃ names last, components (scratchPath disk place).toList = names ++ [last] ∧
      leadsDown last := by
  obtain ⟨names, number, split⟩ := components_scratchPath disk place
  have long : 2 < (scratchPrefix ++ toString number).toList.length := by
    rw [String.toList_append, List.length_append]
    exact Nat.lt_add_right _ (by decide)
  refine ⟨names, _, split, ?_, ?_, ?_⟩ <;>
    · intro same
      rw [same] at long
      revert long
      decide

/-- A scratch directory can be made at a vacant place, by a name of its own. -/
structure Disk.RoomFor (disk : Disk) (directory : String) (location : Location) : Prop where
  plain : hasNull directory = false
  named : ∃ names last, components directory.toList = names ++ [last] ∧ leadsDown last
  located : disk.locate directory = .ok location
  vacant : disk.node? location = none

/-- The scratch directory is made where there is room for it, or a fault says why not. -/
theorem createScratch_cases (disk : Disk) (place : Option Wording) (faults : ScratchFaults) :
    (∃ fault, createScratch disk place faults = (disk.withPlace place, .error fault) ∧
      (Disk.hasNull (scratchParent place) = false → disk.IsCreationFault place fault)) ∨
    ∃ location, faults.creation = none ∧ ¬ disk.IsTooDeep place ∧ ¬ IsBrokenPlace place ∧
      (disk.withPlace place).RoomFor (scratchPath (disk.withPlace place) place) location ∧
        createScratch disk place faults = ((disk.withPlace place).put location .directory,
          .ok (scratchPath (disk.withPlace place) place)) := by
  rcases result : preparePlace disk place with ⟨middle, outcome⟩
  have isMiddle : disk.withPlace place = middle := by rw [Disk.withPlace, result]
  rw [isMiddle]
  unfold createScratch
  rw [result]
  cases outcome with
  | error fault =>
      exact .inl ⟨fault, rfl, fun plain => preparePlace_fault plain (by rw [result])⟩
  | ok value =>
      cases injection : faults.creation with
      | some text => exact .inl ⟨injected text, rfl, fun _ => .inl rfl⟩
      | none =>
          rcases middle.makeDirectory_cases (scratchPath middle place) with
            ⟨location, noNull, located, vacant, made⟩ | ⟨fault, refused, kinds⟩
          · rw [withoutTrailingSlashes_scratchPath] at located
            refine .inr ⟨location, rfl, ?_, ?_,
              ⟨noNull, scratchPath_named middle place, located, vacant⟩, by simp only [made]⟩
            · intro deep
              rw [preparePlace_tooDeep deep] at result
              cases result
            · intro broken
              obtain ⟨fault, failed⟩ := preparePlace_broken disk broken
              rw [result] at failed
              cases failed
          · refine .inl ⟨fault, by simp only [refused], fun plain => ?_⟩
            rcases kinds with system | ⟨null, -⟩
            · exact .inl system
            · rw [hasNull_scratchPath middle plain] at null
              cases null

end Place

section Writing

variable {disk : Disk} {directory : String} {location : Location}

/-- The new directory with the source in it. -/
def Disk.withCopy (disk : Disk) (location : Location) (content : String) : Disk :=
  (disk.put location .directory).put (location ++ [contractFile]) (.file (.text content))

/-- The directory is found as long as all that is not below it is kept. -/
theorem Disk.RoomFor.located_kept {other : Disk} (room : disk.RoomFor directory location)
    (same : other.current = disk.current)
    (kept : ∀ place, liesBelow location place = false → disk.node? place = some .directory →
      other.node? place = some .directory) : other.locate directory = .ok location := by
  obtain ⟨names, last, split, down⟩ := room.named
  obtain ⟨nonempty, short, walked⟩ := locate_ok.mp room.located
  refine locate_ok.mpr ⟨nonempty, short, ?_⟩
  rw [startOf_congr same]
  rw [split] at walked ⊢
  exact walk_outside room.vacant down kept walked

/-- A new directory is found on the same path. -/
theorem Disk.RoomFor.located_put (room : disk.RoomFor directory location) :
    (disk.put location .directory).locate directory = .ok location :=
  room.located_kept (put_current _ _ _) fun _ _ => put_keeps_directory _ room.vacant

/-- The source is written to its new directory, or a system fault says why not. -/
theorem Disk.RoomFor.writeScratch_cases (room : disk.RoomFor directory location)
    (source : Wording) (faults : ScratchFaults) :
    (∃ fault, writeScratch (disk.put location .directory) (scratchFile directory) source faults =
      (disk.put location .directory, .error fault) ∧ fault.kind.belongsTo .system = true ∧
        ∀ text, faults.writing = some text → fault = injected text) ∨
    (faults.writing = none ∧
      (disk.put location .directory).locate (scratchFile directory) =
        .ok (location ++ [contractFile]) ∧
      (disk.put location .directory).node? (location ++ [contractFile]) ≠ some .directory ∧
      writeScratch (disk.put location .directory) (scratchFile directory) source faults =
        (disk.withCopy location (stored source).1, (stored source).2)) := by
  have named := (vacant_entry room.vacant).1
  have present := disk.node?_put_same location .directory named
  unfold writeScratch
  cases injection : faults.writing with
  | some text => exact .inl ⟨injected text, rfl, rfl, by simp⟩
  | none =>
      have noNull := hasNull_scratchFile room.plain
      rcases writableLocation_scratchFile room.located_put present with
        ⟨fits, leads, free⟩ | ⟨cause, refused⟩
      · refine .inr ⟨rfl, leads, free, ?_⟩
        simp only [writeText, write, checkedPath, noNull, fits, refusing, Except.mapError, bind,
          Except.bind, pure, Except.pure, Bool.false_eq_true, if_false]
        rfl
      · refine .inl ⟨.refused cause (scratchFile directory), ?_, refused_belongs _ _, by simp⟩
        simp [writeText, write, checkedPath, noNull, refused, refusing, Except.mapError, bind,
          Except.bind]

/-- Whatever is not below the new directory is kept when the source is written. -/
theorem Disk.RoomFor.withCopy_keeps (room : disk.RoomFor directory location) (content : String)
    {place : Location} (outside : liesBelow location place = false)
    (present : disk.node? place = some .directory) :
    (disk.withCopy location content).node? place = some .directory := by
  rw [withCopy, node?_put_other, put_keeps_directory _ room.vacant present]
  rintro rfl
  rw [liesBelow_append (by simp)] at outside
  cases outside

/-- Work that leaves everything as it is outside the directory of its file. -/
def KeepsOutside (leave : Disk → String → Disk) : Prop :=
  ∀ disk path place, disk.locate path = .ok place →
    ∃ change, leave disk path = disk.rearrangeBelow place.dropLast change

/-- Work on the copy changes what is below its directory. -/
theorem Disk.RoomFor.leave_withCopy {leave : Disk → String → Disk} (keeps : KeepsOutside leave)
    (leads : (disk.put location .directory).locate (scratchFile directory) =
      .ok (location ++ [contractFile]))
    (free : (disk.put location .directory).node? (location ++ [contractFile]) ≠ some .directory)
    (content : String) :
    ∃ change, leave (disk.withCopy location content) (scratchFile directory) =
      (disk.withCopy location content).rearrangeBelow location change := by
  have found : (disk.withCopy location content).locate (scratchFile directory) =
      .ok (location ++ [contractFile]) := by
    refine locate_keeps (put_current _ _ _) (fun place directory => ?_) leads
    rw [withCopy, node?_put_other _ _ _ _ (by rintro rfl; exact free directory), directory]
  obtain ⟨change, left⟩ := keeps _ _ _ found
  rw [List.dropLast_concat] at left
  exact ⟨change, left⟩

/-- How the removal ends once the directory is there. -/
def ScratchFaults.removalEnd (faults : ScratchFaults) : Except Fault Unit :=
  match faults.removal with
  | some text => .error (injected text)
  | none => .ok ()

/-- The removal fails only on demand where the directory is found. -/
theorem removeScratch_found {disk : Disk} (located : disk.locate directory = .ok location)
    (faults : ScratchFaults) :
    removeScratch disk directory faults = (disk.removeTree location, faults.removalEnd) := by
  simp only [removeScratch, located, ScratchFaults.removalEnd]
  cases faults.removal <;> rfl

/-- The disks on which the work may end: with the directory alone, with the copy or with what was
made of it. -/
inductive Disk.HoldsWork (disk : Disk) (location : Location) : Disk → Prop where
  | created : HoldsWork disk location (disk.put location .directory)
  | copied (content : String) : HoldsWork disk location (disk.withCopy location content)
  | changed (content : String) (change : List (Location × Node) → List (Location × Node)) :
      HoldsWork disk location ((disk.withCopy location content).rearrangeBelow location change)

/-- The directory is found and removed, however far the work came. -/
theorem Disk.RoomFor.removeScratch_found {after : Disk} (room : disk.RoomFor directory location)
    (holds : disk.HoldsWork location after) (faults : ScratchFaults) :
    removeScratch after directory faults = (after.removeTree location, faults.removalEnd) := by
  refine Files.removeScratch_found ?_ faults
  cases holds with
  | created => exact room.located_put
  | copied content => exact room.located_kept rfl fun _ => room.withCopy_keeps content
  | changed content change =>
      refine room.located_kept rfl fun place outside present => ?_
      rw [node?_rearrangeBelow _ _ outside]
      exact room.withCopy_keeps content outside present

/-- In a tree nothing is left of a scratch directory that is removed. -/
theorem Disk.RoomFor.removeTree_eq {after : Disk} (room : disk.RoomFor directory location)
    (tree : disk.IsTree) (holds : disk.HoldsWork location after) :
    after.removeTree location = disk := by
  have apart := tree.nothing_below room.vacant
  have below : (disk.put location .directory).node? (location ++ [contractFile]) = none := by
    rw [node?_put_other _ _ _ _ (by simp)]
    by_contra found
    have above := tree.directory_above _ location found (List.prefix_append _ _) (by simp)
    simp [room.vacant] at above
  have copy (content : String) : disk.withCopy location content = { disk with entries :=
      disk.entries ++
        [(location, .directory), (location ++ [contractFile], .file (.text content))] } := by
    rw [withCopy, put_vacant _ below, put_vacant _ room.vacant]
    simp
  cases holds with
  | created =>
      rw [put_vacant _ room.vacant]
      exact removeTree_added _ (by simp) apart
  | copied content =>
      rw [copy]
      exact removeTree_added _ (by simp) apart
  | changed content change =>
      obtain ⟨left, within, rearranged⟩ := tree.rearrangeBelow_added room.vacant
        [(location ++ [contractFile], .file (.text content))]
        (by simpa using liesBelow_append (by simp)) change
      rw [copy, rearranged]
      exact removeTree_added _ within apart

end Writing

section Runs

variable [Host] {disk : Disk} {place : Option Wording}

/-- The three ways the steps can go. Once the directory is there, the removal fails only on
demand. -/
theorem scratchSteps_cases (disk : Disk) (source : Wording) (place : Option Wording)
    (faults : ScratchFaults) :
    (∃ fault, (Disk.hasNull (scratchParent place) = false → disk.IsCreationFault place fault) ∧
      scratchSteps disk source place faults = ⟨.failed fault, .notReached, .notReached⟩) ∨
    (faults.creation = none ∧ ¬ disk.IsTooDeep place ∧ ¬ IsBrokenPlace place ∧
      ((∃ fault, fault.kind.belongsTo .system = true ∧
        (∀ text, faults.writing = some text → fault = injected text) ∧
        scratchSteps disk source place faults =
          ⟨.succeeded, .failed fault, .of faults.removalEnd⟩) ∨
      (faults.writing = none ∧ scratchSteps disk source place faults =
        ⟨.succeeded, .of (Disk.stored source).2, .of faults.removalEnd⟩))) := by
  unfold scratchSteps
  rcases createScratch_cases disk place faults with ⟨fault, created, kinds⟩ |
    ⟨location, onDemand, shallow, whole, room, created⟩
  · exact .inl ⟨fault, kinds, by rw [created]⟩
  · rw [created]
    refine .inr ⟨onDemand, shallow, whole, ?_⟩
    rcases room.writeScratch_cases source faults with ⟨fault, written, system, demanded⟩ |
      ⟨allowed, -, -, written⟩
    · refine .inl ⟨fault, system, demanded, ?_⟩
      simp only [written, room.removeScratch_found .created, StepEnd.of]
    · refine .inr ⟨allowed, ?_⟩
      simp only [written, room.removeScratch_found (.copied _)]

/-- What comes out of work when the directory is removed after it. -/
def ScratchRun.afterRemoval {α : Type} (run : ScratchRun α) (directory : String)
    (faults : ScratchFaults) : ScratchRun α :=
  match removeScratch run.disk directory faults with
  | (disk, .ok ()) => { run with disk := disk }
  | (disk, .error fault) =>
      { disk := disk
        worked := run.worked
        outcome := .error
          (resourceFault ("Could not remove temporary directory " ++ directory) fault) }

omit [Host] in
/-- After the removal the work ends as the steps with the copy say. -/
theorem ScratchRun.afterRemoval_eq {α : Type} (disk : Disk) (directory : String)
    {faults : ScratchFaults} (written : Except Fault Unit) (value : α)
    (removed : (removeScratch disk directory faults).2 = faults.removalEnd) :
    let run : ScratchRun α := match written with
      | .ok () => ⟨disk, some value, .ok value⟩
      | .error fault =>
          ⟨disk, none, .error (resourceFault "Could not write temporary source file" fault)⟩
    let steps : ScratchSteps := ⟨.succeeded, .of written, .of faults.removalEnd⟩
    (run.afterRemoval directory faults).worked =
        (if steps.writing.hasSucceeded then some value else none) ∧
      (run.afterRemoval directory faults).outcome = steps.outcome directory value := by
  rw [← removed]
  cases written with
  | ok value =>
      simp only [afterRemoval]
      rcases removeScratch disk directory faults with ⟨last, outcome⟩
      cases outcome <;> exact ⟨rfl, rfl⟩
  | error fault =>
      simp only [afterRemoval]
      rcases removeScratch disk directory faults with ⟨last, outcome⟩
      cases outcome <;> exact ⟨rfl, rfl⟩

/-- Once the directory is there, the work is done inside it and the directory removed. -/
theorem withScratch_created {α : Type} {after : Disk} {directory : String}
    {faults : ScratchFaults}
    (created : createScratch disk place faults = (after, .ok directory)) (source : Wording)
    (body : Disk → String → Disk × α) :
    withScratch disk source place faults body =
      (workInside after (scratchFile directory) source faults body).afterRemoval directory
        faults := by
  unfold withScratch
  rw [created]
  rfl

/-- Work in a scratch directory ends as its steps say. -/
theorem withScratch_eq {α : Type} (disk : Disk) (source : Wording) (place : Option Wording)
    (faults : ScratchFaults) {leave : Disk → String → Disk} (keeps : KeepsOutside leave)
    (work : String → α) :
    let directory := scratchPath (disk.withPlace place) place
    let steps := scratchSteps disk source place faults
    let run := withScratch disk source place faults fun disk path => (leave disk path, work path)
    run.worked =
        (if steps.writing.hasSucceeded then some (work (scratchFile directory)) else none) ∧
      run.outcome = steps.outcome directory (work (scratchFile directory)) := by
  simp only
  rcases createScratch_cases disk place faults with ⟨fault, created, -⟩ |
    ⟨location, -, -, -, room, created⟩
  · unfold withScratch scratchSteps
    rw [created]
    exact ⟨rfl, rfl⟩
  · rw [withScratch_created created]
    unfold scratchSteps
    rw [created]
    generalize scratchPath (disk.withPlace place) place = directory at room ⊢
    have unwritten := room.removeScratch_found .created faults
    have copied := room.removeScratch_found (.copied (Disk.stored source).1) faults
    rcases room.writeScratch_cases source faults with ⟨fault, written, -, -⟩ |
      ⟨-, leads, free, written⟩
    · simp only [workInside, written, unwritten]
      exact ScratchRun.afterRemoval_eq _ directory (.error fault) _ (by rw [unwritten])
    · simp only [workInside, written, copied]
      cases ending : (Disk.stored source).2 with
      | ok value =>
          obtain ⟨change, left⟩ := Disk.RoomFor.leave_withCopy keeps leads free
            (Disk.stored source).1
          refine ScratchRun.afterRemoval_eq _ directory (.ok ()) _ ?_
          rw [left, room.removeScratch_found (.changed _ change)]
      | error fault =>
          exact ScratchRun.afterRemoval_eq _ directory (.error fault) _ (by rw [copied])

omit [Host] in
/-- However the work ends, the disk holds what came of it. -/
theorem Disk.RoomFor.workInside_disk {α : Type} {directory : String} {location : Location}
    (room : disk.RoomFor directory location) (source : Wording) (faults : ScratchFaults)
    {leave : Disk → String → Disk} (keeps : KeepsOutside leave) (work : String → α) :
    disk.HoldsWork location (workInside (disk.put location .directory) (scratchFile directory)
      source faults fun disk path => (leave disk path, work path)).disk := by
  unfold workInside
  rcases room.writeScratch_cases source faults with ⟨fault, written, -, -⟩ |
    ⟨-, leads, free, written⟩
  · rw [written]
    exact .created
  · rw [written]
    cases (stored source).2 with
    | ok value =>
        obtain ⟨change, left⟩ := leave_withCopy keeps leads free (stored source).1
        simp only [left]
        exact .changed _ change
    | error fault => exact .copied _

/-- Whatever becomes of the work, only the prepared place is left behind in a tree. -/
theorem Disk.IsTree.withScratch_disk {α : Type} (tree : disk.IsTree) (place : Option Wording)
    (source : Wording) (faults : ScratchFaults) {leave : Disk → String → Disk}
    (keeps : KeepsOutside leave) (work : String → α) :
    (withScratch disk source place faults fun disk path => (leave disk path, work path)).disk =
      disk.withPlace place := by
  rcases createScratch_cases disk place faults with ⟨fault, created, -⟩ |
    ⟨location, -, -, -, room, created⟩
  · unfold withScratch
    rw [created]
  · have holds := room.workInside_disk source faults keeps work
    have removed := room.removeScratch_found holds faults
    rw [room.removeTree_eq (tree.prepared_place place).2 holds] at removed
    rw [withScratch_created created, ScratchRun.afterRemoval, removed]
    cases faults.removalEnd <;> rfl

/-- A value that comes out was worked on some file. -/
theorem withScratch_worked {α : Type} {source : Wording} {faults : ScratchFaults}
    {leave : Disk → String → Disk} (keeps : KeepsOutside leave) {work : String → α} {value : α}
    (worked : (withScratch disk source place faults fun disk path =>
      (leave disk path, work path)).outcome = .ok value) : ∃ path, value = work path := by
  rw [(withScratch_eq disk source place faults keeps work).2, ScratchSteps.outcome] at worked
  split at worked
  · cases worked
  · cases worked
    exact ⟨_, rfl⟩

end Runs

end SolidityAudit.Files
