import SolidityAudit.Proofs.Files.Walk

namespace SolidityAudit.Files

open Text

/-- Refusals of the file system are system faults. -/
theorem refused_belongs (cause : SystemCause) (path : String) :
    (Fault.refused cause path).kind.belongsTo .system = true := by
  cases cause <;> rfl

section Growth

/-- The second disk is the first one with more directories, all of them at allowed places. -/
def Disk.GrownTo (disk : Disk) (allowed : List Location) (after : Disk) : Prop :=
  ∃ created : List Location,
    after = { disk with entries := disk.entries ++ created.map fun place => (place, .directory) } ∧
      ∀ place ∈ created, disk.node? place = none ∧ place ∈ allowed

variable {disk middle after : Disk} {allowed : List Location}

/-- A disk that stays as it is has grown by nothing. -/
theorem Disk.grownTo_self (disk : Disk) (allowed : List Location) :
    disk.GrownTo allowed disk := ⟨[], by simp, by simp⟩

/-- Growth keeps the current directory. -/
theorem Disk.GrownTo.current_eq (grown : disk.GrownTo allowed after) :
    after.current = disk.current := by
  obtain ⟨created, rfl, -⟩ := grown
  rfl

/-- More places may be allowed. -/
theorem Disk.GrownTo.mono {wider : List Location} (grown : disk.GrownTo allowed after)
    (within : allowed ⊆ wider) : disk.GrownTo wider after := by
  obtain ⟨created, added, vacant⟩ := grown
  exact ⟨created, added, fun place listed => ⟨(vacant place listed).1,
    within (vacant place listed).2⟩⟩

/-- What is there stays as it is. -/
theorem Disk.GrownTo.node?_kept (grown : disk.GrownTo allowed after) {place : Location}
    {node : Node} (present : disk.node? place = some node) : after.node? place = some node := by
  obtain ⟨created, rfl, -⟩ := grown
  exact node?_added _ present

/-- What is vacant after growth was vacant before. -/
theorem Disk.GrownTo.vacant_before (grown : disk.GrownTo allowed after) {place : Location}
    (vacant : after.node? place = none) : disk.node? place = none := by
  cases found : disk.node? place with
  | none => rfl
  | some node => simp [grown.node?_kept found] at vacant

/-- Growth after growth is growth. -/
theorem Disk.GrownTo.trans (first : disk.GrownTo allowed middle)
    (second : middle.GrownTo allowed after) : disk.GrownTo allowed after := by
  have earlier := first
  obtain ⟨old, rfl, oldVacant⟩ := first
  obtain ⟨new, rfl, newVacant⟩ := second
  refine ⟨old ++ new, by simp, ?_⟩
  intro place listed
  rcases List.mem_append.mp listed with inOld | inNew
  · exact oldVacant place inOld
  · obtain ⟨vacant, inside⟩ := newVacant place inNew
    exact ⟨earlier.vacant_before vacant, inside⟩

/-- A new directory at an allowed place is growth. -/
theorem Disk.grownTo_put {location : Location} (vacant : disk.node? location = none)
    (inside : location ∈ allowed) : disk.GrownTo allowed (disk.put location .directory) :=
  ⟨[location], by rw [put_vacant _ vacant]; rfl, by simpa using ⟨vacant, inside⟩⟩

end Growth

section Starts

/-- The first path is a start of the second that passes no other places. -/
def StartOfPath (first path : List Symbol) : Prop :=
  first <+: path ∧ ∀ start, passed start first ⊆ passed start path

/-- A start of a start is a start. -/
theorem StartOfPath.trans {first second path : List Symbol} (inner : StartOfPath first second)
    (outer : StartOfPath second path) : StartOfPath first path :=
  ⟨inner.1.trans outer.1, fun start => List.Subset.trans (inner.2 start) (outer.2 start)⟩

/-- The part before the last name is a start. -/
theorem startOfPath_head (path : List Symbol) (named : (splitPath isSlashSymbol path).1 ≠ []) :
    StartOfPath (splitPath isSlashSymbol path).1 path := by
  refine ⟨?_, fun start => passed_head start path named⟩
  rw [splitPath_head]
  split
  · exact List.rdropWhile_prefix _ path
  · exact (List.rdropWhile_prefix _ _).trans (List.rdropWhile_prefix _ path)

/-- A path without the slashes at its end is a start. -/
theorem startOfPath_withoutTrailingSlashes (path : String) :
    StartOfPath (scalars (Disk.withoutTrailingSlashes path).toList) (scalars path.toList) := by
  have stripped : scalars (path.toList.rdropWhile isSlash) =
      (scalars path.toList).rdropWhile isSlashSymbol := by
    have same : isSlashSymbol ∘ Symbol.scalar = isSlash := by
      funext character
      simp [isSlashSymbol, isSlash]
    simp only [List.rdropWhile, scalars, ← List.map_reverse, List.dropWhile_map, same]
  simp only [Disk.withoutTrailingSlashes]
  change StartOfPath (scalars (if (path.toList.rdropWhile isSlash).isEmpty && !path.toList.isEmpty
    then "/" else String.ofList (path.toList.rdropWhile isSlash)).toList) (scalars path.toList)
  split
  · next slashes =>
    simp only [Bool.and_eq_true, List.isEmpty_iff, Bool.not_eq_true', List.isEmpty_eq_false_iff]
      at slashes
    obtain ⟨first, rest, split⟩ := List.exists_cons_of_ne_nil slashes.2
    have isFirst : first = '/' := by
      have every := List.rdropWhile_eq_nil_iff.mp slashes.1 first (by simp [split])
      simpa [isSlash] using every
    rw [split, isFirst]
    refine ⟨⟨scalars rest, rfl⟩, fun start => ?_⟩
    exact List.Subset.trans (passed_trailing_slash start []) (passed_cut start [] (scalars rest))
  · rw [String.toList_ofList, stripped]
    exact ⟨List.rdropWhile_prefix _ _, fun start => passed_stripped start _⟩

/-- A start of a path begins where the path begins. -/
theorem StartOfPath.startOf {first path : Wording} (starts : StartOfPath first.symbols path.symbols)
    (nonempty : first.symbols ≠ []) (disk : Disk) :
    disk.startOf first.masked = disk.startOf path.masked := by
  obtain ⟨rest, whole⟩ := starts.1
  have sameHead : path.masked.toList.head? = first.masked.toList.head? := by
    rw [Wording.toList_masked, Wording.toList_masked, ← whole, List.map_append,
      List.head?_append_of_ne_nil _ (by simpa using nonempty)]
  simp [Disk.startOf, sameHead]

/-- A start of a path passes no other places. -/
theorem StartOfPath.placesOn {first path : Wording}
    (starts : StartOfPath first.symbols path.symbols) (nonempty : first.symbols ≠ [])
    (disk : Disk) : disk.placesOn first ⊆ disk.placesOn path := by
  rw [Disk.placesOn, Disk.placesOn, starts.startOf nonempty]
  exact starts.2 _

/-- A start of a path has no null character unless the path has one. -/
theorem StartOfPath.hasNull {first path : Wording} (starts : StartOfPath first.symbols path.symbols)
    (plain : Disk.hasNull path.masked = false) : Disk.hasNull first.masked = false := by
  simp only [Disk.hasNull, List.contains_eq_mem, decide_eq_false_iff_not,
    Wording.toList_masked] at plain ⊢
  exact fun inside => plain ((starts.1.map _).subset inside)

/-- A start of a plain path is plain. -/
theorem StartOfPath.isPlain {first path : Wording} (starts : StartOfPath first.symbols path.symbols)
    (plain : path.isPlain = true) : first.isPlain = true := by
  have whole := path.any_isLone_symbols
  rw [plain, Bool.not_true, List.any_eq_false] at whole
  have each : first.symbols.any Symbol.isLone = false :=
    List.any_eq_false.mpr fun symbol inside => whole symbol (starts.1.subset inside)
  rw [first.any_isLone_symbols, Bool.not_eq_false'] at each
  exact each

end Starts

section Parts

/-- Where the directory above is missing, it has a name. -/
theorem Disk.lacksAbove_named {disk : Disk} {path : List Symbol}
    (lacks : disk.lacksAbove path = true) : (pathParts path).1 ≠ [] ∧ (pathParts path).2 ≠ [] := by
  simp only [lacksAbove, Bool.and_eq_true, Bool.not_eq_true', List.isEmpty_eq_false_iff] at lacks
  exact lacks.1

/-- The part before the last name is a start of the path. -/
theorem startOfPath_parts {path : List Symbol} (named : (pathParts path).1 ≠ []) :
    StartOfPath (pathParts path).1 path := by
  have outer := startOfPath_head path
  unfold pathParts at named ⊢
  rcases whole : splitPath isSlashSymbol path with ⟨head, tail⟩
  rw [whole] at named outer
  simp only at named outer ⊢
  split at named
  · next trailing =>
    rw [if_pos trailing]
    refine (startOfPath_head head named).trans (outer ?_)
    rintro rfl
    exact named rfl
  · next proper =>
    rw [if_neg proper]
    exact outer named

/-- The part before the last name is a start of the whole text. -/
theorem startOfPath_ofSymbols {path : List Symbol} (named : (pathParts path).1 ≠ []) :
    StartOfPath (Wording.ofSymbols (pathParts path).1).symbols
      (Wording.ofSymbols path).symbols := by
  rw [Wording.symbols_ofSymbols, Wording.symbols_ofSymbols]
  exact startOfPath_parts named

/-- Whatever is no slash stands before the last slash or after it. -/
theorem mem_splitPath {path : List Symbol} {symbol : Symbol} (inside : symbol ∈ path)
    (other : isSlashSymbol symbol = false) :
    symbol ∈ (splitPath isSlashSymbol path).1 ∨ symbol ∈ (splitPath isSlashSymbol path).2 := by
  rw [directory_split path, List.mem_append] at inside
  rw [splitPath_tail, splitPath_head]
  refine inside.imp_left fun before => ?_
  split
  · exact before
  · generalize path.rdropWhile (fun symbol => !isSlashSymbol symbol) = head at before ⊢
    rw [← @List.rdropWhile_append_rtakeWhile _ isSlashSymbol head, List.mem_append] at before
    rcases before with kept | dropped
    · exact kept
    · rw [List.mem_rtakeWhile_imp dropped] at other
      cases other

/-- Whatever is no slash stands in one of the parts. -/
theorem mem_pathParts {path : List Symbol} {symbol : Symbol} (inside : symbol ∈ path)
    (other : isSlashSymbol symbol = false) :
    symbol ∈ (pathParts path).1 ∨ symbol ∈ (pathParts path).2 := by
  have outer := mem_splitPath inside other
  unfold pathParts
  rcases whole : splitPath isSlashSymbol path with ⟨head, tail⟩
  rw [whole] at outer
  simp only at outer ⊢
  split
  · next trailing =>
    rw [List.isEmpty_iff.mp trailing] at outer
    exact mem_splitPath (outer.resolve_right List.not_mem_nil) other
  · exact outer

/-- A surrogate is no slash. -/
theorem isSlashSymbol_lone {symbol : Symbol} (lone : symbol.isLone = true) :
    isSlashSymbol symbol = false := by
  cases symbol with
  | scalar character => cases lone
  | lone offset => simp [isSlashSymbol]

/-- Both parts of a path fit into it. -/
theorem splitPath_length (path : List Symbol) :
    (splitPath isSlashSymbol path).1.length + (splitPath isSlashSymbol path).2.length ≤
      path.length := by
  have lengths := congrArg List.length (directory_split path)
  rw [List.length_append] at lengths
  have stripped := (List.rdropWhile_prefix isSlashSymbol
    (path.rdropWhile fun symbol => !isSlashSymbol symbol)).length_le
  rw [splitPath_tail, splitPath_head]
  split <;> omega

/-- The part before the last name is shorter than the path. -/
theorem pathParts_length {path : List Symbol} (named : (pathParts path).2 ≠ []) :
    (pathParts path).1.length < path.length := by
  have outer := splitPath_length path
  have positive := List.length_pos_iff.mpr named
  unfold pathParts at positive ⊢
  rcases whole : splitPath isSlashSymbol path with ⟨head, tail⟩
  rw [whole] at positive outer
  simp only at positive outer ⊢
  have inner := splitPath_length head
  split at positive
  · next trailing =>
    rw [if_pos trailing]
    omega
  · next proper =>
    rw [if_neg proper]
    simp only at positive ⊢
    omega

/-- How many directories above a path are missing, one inside the other. -/
def Disk.missingAbove (disk : Disk) (path : List Symbol) : Nat :=
  if lacks : disk.lacksAbove path = true then disk.missingAbove (pathParts path).1 + 1 else 0
  termination_by path.length
  decreasing_by exact pathParts_length (disk.lacksAbove_named lacks).2

/-- A path of directories with the same short name, each inside the last. -/
def nestedPath (name : Char) (count : Nat) : List Char :=
  name :: (List.replicate count ['/', name]).flatten

/-- One more directory goes to the end. -/
theorem nestedPath_succ (name : Char) (count : Nat) :
    nestedPath name (count + 1) = nestedPath name count ++ ['/', name] := by
  rw [nestedPath, List.replicate_succ', List.flatten_append, List.flatten_singleton]
  rfl

/-- The last name is divided from the path before it. -/
theorem pathParts_concat {front : List Symbol} {last : Symbol} (nonempty : front ≠ [])
    (ended : isSlashSymbol (front.getLast nonempty) = false)
    (named : isSlashSymbol last = false) :
    pathParts (front ++ [.scalar '/', last]) = (front, [last]) := by
  have split : front ++ [.scalar '/', last] = (front ++ [.scalar '/']) ++ [last] := by simp
  have tail : (splitPath isSlashSymbol (front ++ [.scalar '/', last])).2 = [last] := by
    rw [splitPath_tail, split, List.rtakeWhile_concat_pos _ _ _ (by simp [named]),
      List.rtakeWhile_concat_neg _ _ _ (by decide), List.nil_append]
  have head : (splitPath isSlashSymbol (front ++ [.scalar '/', last])).1 = front := by
    rw [splitPath_head, split, List.rdropWhile_concat_pos _ _ _ (by simp [named]),
      List.rdropWhile_concat_neg _ _ _ (by decide), if_neg, List.rdropWhile_concat_pos _ _ _ rfl]
    · exact List.rdropWhile_eq_self_iff.mpr fun _ => by simp [ended]
    · intro slashes
      have each := List.all_eq_true.mp slashes _
        (List.mem_append_left _ (List.getLast_mem nonempty))
      rw [ended] at each
      cases each
  rw [pathParts]
  simp only [tail, head, List.isEmpty_cons, Bool.false_eq_true, if_false]

/-- A path of directories begins and ends with a name. -/
theorem nestedPath_ends (name : Char) (count : Nat) :
    (∃ front, nestedPath name count = front ++ [name]) ∧
      ∃ rest, components (nestedPath name count) = components [name] ++ rest := by
  cases count with
  | zero => exact ⟨⟨[], rfl⟩, [], (List.append_nil _).symm⟩
  | succ count =>
      refine ⟨⟨nestedPath name count ++ ['/'], by rw [nestedPath_succ]; simp⟩, ?_⟩
      exact ⟨components (nestedPath name count), components_slash [name] (nestedPath name count)⟩

/-- Nothing is found on a path whose first directory is missing. -/
theorem Disk.nodeAt?_nested {disk : Disk} {name : Char} (plain : isSlash name = false)
    (vacant : disk.node? (stepTo disk.current (String.singleton name)) = none) (count : Nat) :
    disk.nodeAt? (String.ofList (nestedPath name count)) = none := by
  rw [nodeAt?]
  split
  · next place located =>
    obtain ⟨-, -, walked⟩ := locate_ok.mp located
    obtain ⟨-, rest, split⟩ := nestedPath_ends name count
    have single : components [name] = [String.singleton name] := by
      rw [components, splitAtEach_whole (by simpa using plain)]
      rfl
    have start : disk.startOf (String.ofList (nestedPath name count)) = disk.current := by
      have relative : name ≠ '/' := by simpa [isSlash] using plain
      simp [startOf, nestedPath, relative]
    rw [start, String.toList_ofList, split, single] at walked
    obtain ⟨-, -, after⟩ := walk_cons_ok.mp walked
    cases rest with
    | nil =>
        cases after
        exact vacant
    | cons next others =>
        have directory := (walk_cons_ok.mp after).1
        rw [vacant] at directory
        cases directory
  · rfl

/-- Where the first directory is missing, all others are. -/
theorem Disk.missingAbove_nested {disk : Disk} {name : Char} (plain : isSlash name = false)
    (vacant : disk.node? (stepTo disk.current (String.singleton name)) = none) (count : Nat) :
    count ≤ disk.missingAbove (scalars (nestedPath name count)) := by
  induction count with
  | zero => exact Nat.zero_le _
  | succ count ih =>
      have named : isSlashSymbol (.scalar name) = false := by
        simpa [isSlashSymbol, isSlash] using plain
      have parts : pathParts (scalars (nestedPath name (count + 1))) =
          (scalars (nestedPath name count), [.scalar name]) := by
        obtain ⟨⟨front, ending⟩, -⟩ := nestedPath_ends name count
        rw [nestedPath_succ, scalars_append]
        refine pathParts_concat (by simp [nestedPath]) ?_ named
        simpa [ending, scalars] using named
      have lacks : disk.lacksAbove (scalars (nestedPath name (count + 1))) = true := by
        rw [lacksAbove, parts]
        simp only [Wording.ofSymbols_scalars, isMissing, nodeAt?_nested plain vacant]
        simp [nestedPath]
      rw [missingAbove, dif_pos lacks, parts]
      exact Nat.succ_le_succ ih

end Parts

/-- A directory is made where its path leads and nothing is, or a fault says why not. -/
theorem Disk.makeDirectory_cases (disk : Disk) (path : String) :
    (∃ location, hasNull path = false ∧
      disk.locate (withoutTrailingSlashes path) = .ok location ∧ disk.node? location = none ∧
        disk.makeDirectory path = .ok (disk.put location .directory)) ∨
    ∃ fault, disk.makeDirectory path = .error fault ∧
      (fault.kind.belongsTo .system = true ∨ hasNull path = true ∧ fault = nullFault) := by
  cases null : hasNull path with
  | true =>
      refine .inr ⟨nullFault, ?_, .inr ⟨rfl, rfl⟩⟩
      simp [makeDirectory, checkedPath, null, bind, Except.bind]
  | false =>
      cases located : disk.locate (withoutTrailingSlashes path) with
      | error cause =>
          refine .inr ⟨.refused cause path, ?_, .inl (refused_belongs _ _)⟩
          simp [makeDirectory, checkedPath, null, located, refusing, Except.mapError, bind,
            Except.bind]
      | ok location =>
          cases found : disk.node? location with
          | some node =>
              refine .inr ⟨.refused .exists path, ?_, .inl (refused_belongs _ _)⟩
              simp [makeDirectory, checkedPath, null, located, found, refusing, Except.mapError,
                bind, Except.bind]
          | none =>
              refine .inl ⟨location, rfl, rfl, found, ?_⟩
              simp [makeDirectory, checkedPath, null, located, found, refusing, Except.mapError,
                bind, Except.bind, pure, Except.pure]

/-- The faults of one directory: the system refuses it, or its path has a null character or is
broken. -/
theorem Disk.ensureDirectory_fault {disk : Disk} {path : Wording} {fault : Fault}
    (failed : (disk.ensureDirectory path).2 = .error fault) :
    fault.kind.belongsTo .system = true ∨
      (hasNull path.masked = true ∧ fault = nullFault) ∨
        path.isPlain = false ∧ fault.kind = .badText := by
  cases path with
  | broken text =>
      cases failed
      exact .inr (.inr ⟨rfl, rfl⟩)
  | plain path =>
      rcases disk.makeDirectory_cases path with ⟨location, -, -, -, made⟩ | ⟨cause, refused, kinds⟩
      · simp only [ensureDirectory, made] at failed
        cases failed
      · simp only [ensureDirectory, refused] at failed
        split at failed
        · cases failed
        · cases failed
          rcases kinds with system | null
          · exact .inl system
          · exact .inr (.inl null)

/-- A broken directory is refused before the system is asked. -/
theorem Disk.ensureDirectory_broken (disk : Disk) {path : List Symbol}
    (broken : path.any Symbol.isLone = true) :
    ∃ fault, (disk.ensureDirectory (.ofSymbols path)).2 = .error fault ∧
      fault.kind ≠ .alreadyExists := by
  rw [Wording.ofSymbols, dif_pos broken]
  exact ⟨_, rfl, by simp [Fault.kind]⟩

section Making

variable [Host]

/-- Missing directories above the path come first, and their failure is passed on unless they are
there. -/
theorem Disk.makeDirectoriesWithin_cases (bound : Nat) (disk : Disk) (path : List Symbol) :
    (disk.lacksAbove path = false ∧ makeDirectoriesWithin (bound + 1) disk path =
      disk.ensureDirectory (.ofSymbols path)) ∨
    disk.lacksAbove path = true ∧ ∃ middle outcome,
      makeDirectoriesWithin bound disk (pathParts path).1 = (middle, outcome) ∧
      ((∃ fault, outcome = .error fault ∧ fault.kind ≠ .alreadyExists ∧
        makeDirectoriesWithin (bound + 1) disk path = (middle, .error fault)) ∨
      (∀ fault, outcome = .error fault → fault.kind = .alreadyExists) ∧
        makeDirectoriesWithin (bound + 1) disk path =
          if (pathParts path).2 = [.scalar '.'] then (middle, .ok ())
          else middle.ensureDirectory (.ofSymbols path)) := by
  rw [makeDirectoriesWithin]
  cases lacks : disk.lacksAbove path with
  | false => exact .inl ⟨rfl, rfl⟩
  | true =>
      refine .inr ⟨rfl, ?_⟩
      rw [if_pos rfl]
      rcases makeDirectoriesWithin bound disk (pathParts path).1 with ⟨middle, outcome⟩
      refine ⟨middle, outcome, rfl, ?_⟩
      cases outcome with
      | ok value => exact .inr ⟨by simp, by simp only [beq_iff_eq]⟩
      | error fault =>
          by_cases tolerated : fault.kind = .alreadyExists
          · refine .inr ⟨fun other same => by cases same; exact tolerated, ?_⟩
            simp only [tolerated, bne_self_eq_false, Bool.false_eq_true, if_false, beq_iff_eq]
          · have raised : (fault.kind != .alreadyExists) = true := by simpa using tolerated
            exact .inl ⟨fault, rfl, tolerated, by simp only [raised, if_true]⟩

/-- Too many directories inside each other are asked for in vain. -/
theorem Disk.makeDirectoriesWithin_exhausted {bound : Nat} {disk : Disk} {path : List Symbol}
    (deep : bound ≤ disk.missingAbove path) :
    makeDirectoriesWithin bound disk path = (disk, .error .exhausted) := by
  induction bound generalizing path with
  | zero => rfl
  | succ bound ih =>
      rw [missingAbove] at deep
      split at deep
      · next lacks =>
        have above := ih (Nat.le_of_succ_le_succ deep)
        rcases makeDirectoriesWithin_cases bound disk path with ⟨present, -⟩ |
          ⟨-, middle, outcome, made, ending⟩
        · rw [present] at lacks
          cases lacks
        · rw [above] at made
          cases made
          rcases ending with ⟨fault, same, -, result⟩ | ⟨tolerated, -⟩
          · cases same
            exact result
          · cases tolerated _ rfl
      · omega

/-- A directory is refused, has a null character or is broken, or too many are missing. -/
theorem Disk.makeDirectoriesWithin_fault {bound : Nat} {disk : Disk} {path : List Symbol}
    {fault : Fault} (failed : (makeDirectoriesWithin bound disk path).2 = .error fault) :
    fault.kind.belongsTo .system = true ∨
      (hasNull (Wording.ofSymbols path).masked = true ∧ fault = nullFault) ∨
        ((Wording.ofSymbols path).isPlain = false ∧ fault.kind = .badText) ∨
          bound ≤ disk.missingAbove path ∧ fault = .exhausted := by
  induction bound generalizing path with
  | zero =>
      cases failed
      exact .inr (.inr (.inr ⟨Nat.zero_le _, rfl⟩))
  | succ bound ih =>
      rcases makeDirectoriesWithin_cases bound disk path with ⟨-, result⟩ |
        ⟨lacks, middle, outcome, made, ⟨cause, rfl, -, result⟩ | ⟨-, result⟩⟩
      · rw [result] at failed
        rcases ensureDirectory_fault failed with system | null | broken
        · exact .inl system
        · exact .inr (.inl null)
        · exact .inr (.inr (.inl broken))
      · rw [result] at failed
        cases failed
        have starts := startOfPath_ofSymbols (lacksAbove_named lacks).1
        rcases ih (by rw [made]) with system | ⟨null, same⟩ | ⟨broken, kind⟩ | ⟨deep, same⟩
        · exact .inl system
        · refine .inr (.inl ⟨?_, same⟩)
          by_contra clean
          rw [Bool.not_eq_true] at clean
          rw [starts.hasNull clean] at null
          cases null
        · refine .inr (.inr (.inl ⟨?_, kind⟩))
          by_contra plain
          rw [Bool.not_eq_false] at plain
          rw [starts.isPlain plain] at broken
          cases broken
        · refine .inr (.inr (.inr ⟨?_, same⟩))
          rw [missingAbove, dif_pos lacks]
          exact Nat.succ_le_succ deep
      · rw [result] at failed
        split at failed
        · cases failed
        · rcases ensureDirectory_fault failed with system | null | broken
          · exact .inl system
          · exact .inr (.inl null)
          · exact .inr (.inr (.inl broken))

/-- No broken directory is made. -/
theorem Disk.makeDirectoriesWithin_broken (bound : Nat) (disk : Disk) {path : List Symbol}
    (broken : path.any Symbol.isLone = true) :
    ∃ fault, (makeDirectoriesWithin bound disk path).2 = .error fault ∧
      fault.kind ≠ .alreadyExists := by
  induction bound generalizing path with
  | zero => exact ⟨_, rfl, fun same => by cases same⟩
  | succ bound ih =>
      rcases makeDirectoriesWithin_cases bound disk path with ⟨-, result⟩ |
        ⟨lacks, middle, outcome, made, ⟨fault, rfl, other, result⟩ | ⟨tolerated, result⟩⟩
      · rw [result]
        exact ensureDirectory_broken disk broken
      · rw [result]
        exact ⟨fault, rfl, other⟩
      · rw [result]
        split
        · next dot =>
          have above : (pathParts path).1.any Symbol.isLone = true := by
            obtain ⟨symbol, inside, lone⟩ := List.any_eq_true.mp broken
            rcases mem_pathParts inside (isSlashSymbol_lone lone) with before | last
            · exact List.any_eq_true.mpr ⟨symbol, before, lone⟩
            · rw [dot, List.mem_singleton] at last
              rw [last] at lone
              cases lone
          obtain ⟨fault, failed, other⟩ := ih above
          rw [made] at failed
          exact absurd (tolerated fault failed) other
        · exact ensureDirectory_broken middle broken

/-- What is left after directories were asked for: more directories on the path, still in a
tree. -/
structure Disk.Prepared (disk : Disk) (path : Wording) (after : Disk) : Prop where
  grown : disk.GrownTo (disk.placesOn path) after
  tree : after.IsTree

omit [Host] in
/-- What was left on the way counts as well. -/
theorem Disk.Prepared.after {disk middle last : Disk} {path : Wording}
    (prepared : middle.Prepared path last) (grown : disk.GrownTo (disk.placesOn path) middle) :
    disk.Prepared path last := by
  refine ⟨grown.trans ?_, prepared.tree⟩
  have same : middle.placesOn path = disk.placesOn path := by
    rw [placesOn, placesOn, startOf_congr grown.current_eq]
  rw [← same]
  exact prepared.grown

omit [Host] in
/-- Every path has a name, and be it an empty one. -/
theorem components_ne_nil (path : List Char) : components path ≠ [] := by
  simpa [components] using splitAtEach_ne_nil path

omit [Host] in
/-- One directory is made at its own place or not at all. -/
theorem Disk.IsTree.ensureDirectory {disk : Disk} (tree : disk.IsTree) (path : Wording) :
    disk.Prepared path (disk.ensureDirectory path).1 := by
  have unchanged : disk.Prepared path disk := ⟨grownTo_self _ _, tree⟩
  cases path with
  | broken text => exact unchanged
  | plain path =>
      rcases disk.makeDirectory_cases path with
        ⟨location, -, located, vacant, made⟩ | ⟨fault, refused, -⟩
      · obtain ⟨nonempty, -, walked⟩ := locate_ok.mp located
        have starts := startOfPath_withoutTrailingSlashes path
        have inside : location ∈ disk.placesOn path := by
          apply @StartOfPath.placesOn (withoutTrailingSlashes path) path starts
            (by simpa [scalars] using nonempty)
          rw [walk_resolves walked, ← plainNames_scalars]
          exact resolve_mem_passed _ _
        have parent := tree.walk_parent (components_ne_nil _) walked vacant
        simp only [Disk.ensureDirectory, made]
        exact ⟨grownTo_put vacant inside, tree.put _ vacant parent⟩
      · simp only [Disk.ensureDirectory, refused]
        split <;> exact unchanged

/-- Directories are made along the path alone, however many are missing. -/
theorem Disk.IsTree.makeDirectoriesWithin {disk : Disk} (tree : disk.IsTree) (bound : Nat)
    (path : List Symbol) :
    disk.Prepared (.ofSymbols path) (Disk.makeDirectoriesWithin bound disk path).1 := by
  induction bound generalizing path with
  | zero => exact ⟨grownTo_self _ _, tree⟩
  | succ bound ih =>
      rcases Disk.makeDirectoriesWithin_cases bound disk path with ⟨-, result⟩ |
        ⟨lacks, middle, outcome, made, ending⟩
      · rw [result]
        exact tree.ensureDirectory _
      · have named := (lacksAbove_named lacks).1
        have above := ih (pathParts path).1
        rw [made] at above
        have grown := above.grown.mono ((startOfPath_ofSymbols named).placesOn
          (by simpa using named) disk)
        have reached : disk.Prepared (.ofSymbols path) middle := ⟨grown, above.tree⟩
        rcases ending with ⟨fault, -, -, result⟩ | ⟨-, result⟩
        · rw [result]
          exact reached
        · rw [result]
          split
          · exact reached
          · exact (above.tree.ensureDirectory _).after grown

end Making

end SolidityAudit.Files
