import Mathlib.Data.List.DropRight
import Mathlib.Data.List.Infix
import SolidityAudit.Files.Disk
import SolidityAudit.Proofs.Text.Split
import SolidityAudit.Proofs.Text.Wording

namespace SolidityAudit.Files

open Text

/-- One step of a path by its name alone. -/
def stepTo (location : Location) (name : String) : Location :=
  if name == "" || name == "." then location
  else if name == ".." then location.dropLast
  else location ++ [name]

/-- Where names lead by themselves, whatever is there. -/
def resolve (start : Location) (names : List String) : Location := names.foldl stepTo start

/-- A name of characters alone. -/
def isPlainName (name : List Symbol) : Bool := !name.any Symbol.isLone

/-- The names of a path up to the first that is broken. -/
def plainNames (path : List Symbol) : List String :=
  ((splitAtEach isSlashSymbol path).takeWhile isPlainName).map fun name =>
    String.ofList (name.filterMap Symbol.character?)

/-- The places that a path passes from its start to its end or to a broken name. -/
def passed (start : Location) (path : List Symbol) : List Location :=
  (plainNames path).inits.map (resolve start)

/-- The places that a path passes on a disk. -/
def Disk.placesOn (disk : Disk) (path : Wording) : List Location :=
  passed (disk.startOf path.masked) path.symbols

/-- Names lead on from where earlier names lead. -/
theorem resolve_append (start : Location) (first second : List String) :
    resolve start (first ++ second) = resolve (resolve start first) second := by
  simp [resolve]

/-- A place is passed where some first names lead. -/
theorem mem_passed {start place : Location} {path : List Symbol} :
    place ∈ passed start path ↔
      ∃ names, names <+: plainNames path ∧ resolve start names = place := by
  simp [passed]

/-- The last place that is passed is where all names lead. -/
theorem resolve_mem_passed (start : Location) (path : List Symbol) :
    resolve start (plainNames path) ∈ passed start path :=
  mem_passed.mpr ⟨_, List.prefix_rfl, rfl⟩

/-- The parts of a plain text are the parts of its characters. -/
theorem splitAtEach_scalars (text : List Char) :
    splitAtEach isSlashSymbol (scalars text) = (splitAtEach isSlash text).map scalars := by
  induction text with
  | nil => rfl
  | cons character rest ih =>
      have same : isSlashSymbol (.scalar character) = isSlash character := by
        simp [isSlashSymbol, isSlash]
      obtain ⟨part, others, split⟩ := List.exists_cons_of_ne_nil
        (@splitAtEach_ne_nil _ isSlash rest)
      rw [scalars_cons, splitAtEach, splitAtEach, ih, same, split]
      cases isSlash character <;> rfl

/-- All names of a plain path are plain. -/
theorem plainNames_scalars (path : List Char) : plainNames (scalars path) = components path := by
  have every : ∀ name ∈ (splitAtEach isSlash path).map scalars, isPlainName name = true := by
    intro name listed
    obtain ⟨characters, -, rfl⟩ := List.mem_map.mp listed
    simp [isPlainName]
  rw [plainNames, splitAtEach_scalars, List.takeWhile_eq_self_iff.mpr every, List.map_map]
  exact List.map_congr_left fun characters _ => by simp

/-- The names before a slash come first. -/
theorem plainNames_slash (first rest : List Symbol) :
    plainNames first <+: plainNames (first ++ .scalar '/' :: rest) := by
  have split := splitAtEach_append_separator first rest
    (show isSlashSymbol (.scalar '/') = true from rfl)
  rw [plainNames, plainNames, split, List.takeWhile_append]
  refine List.IsPrefix.map _ ?_
  split
  · next whole =>
    have every : (splitAtEach isSlashSymbol first).takeWhile isPlainName =
        splitAtEach isSlashSymbol first := (List.takeWhile_prefix _).eq_of_length whole
    rw [every]
    exact List.prefix_append _ _
  · exact List.prefix_rfl

/-- A path passes every place on the way to one of its slashes. -/
theorem passed_cut (start : Location) (first rest : List Symbol) :
    passed start first ⊆ passed start (first ++ .scalar '/' :: rest) := by
  intro place reached
  obtain ⟨names, before, resolved⟩ := mem_passed.mp reached
  exact mem_passed.mpr ⟨names, before.trans (plainNames_slash first rest), resolved⟩

/-- A slash at the end adds an empty name or none. -/
theorem plainNames_trailing_slash (path : List Symbol) :
    plainNames (path ++ [.scalar '/']) = plainNames path ∨
      plainNames (path ++ [.scalar '/']) = plainNames path ++ [""] := by
  have split := splitAtEach_append_separator path []
    (show isSlashSymbol (.scalar '/') = true from rfl)
  rw [plainNames, plainNames, split, List.takeWhile_append]
  split
  · next whole =>
    have every : (splitAtEach isSlashSymbol path).takeWhile isPlainName =
        splitAtEach isSlashSymbol path := (List.takeWhile_prefix _).eq_of_length whole
    rw [every]
    exact .inr (by simp [splitAtEach, isPlainName])
  · exact .inl rfl

/-- A slash at the end leads to no other place. -/
theorem passed_trailing_slash (start : Location) (path : List Symbol) :
    passed start (path ++ [.scalar '/']) ⊆ passed start path := by
  intro place reached
  obtain ⟨names, before, resolved⟩ := mem_passed.mp reached
  rcases plainNames_trailing_slash path with same | longer
  · rw [same] at before
    exact mem_passed.mpr ⟨names, before, resolved⟩
  · rw [longer] at before
    rcases List.prefix_concat_iff.mp before with whole | shorter
    · rw [whole, resolve_append] at resolved
      rw [← resolved]
      exact resolve_mem_passed start path
    · exact mem_passed.mpr ⟨names, shorter, resolved⟩

/-- Without the slashes at its end a path passes no other places. -/
theorem passed_stripped (start : Location) (path : List Symbol) :
    passed start (path.rdropWhile isSlashSymbol) ⊆ passed start path := by
  have whole := @List.rdropWhile_append_rtakeWhile _ isSlashSymbol path
  cases slashes : path.rtakeWhile isSlashSymbol with
  | nil =>
      rw [slashes, List.append_nil] at whole
      rw [whole]
      exact List.Subset.refl _
  | cons slash rest =>
      have isFirst : slash = .scalar '/' := by
        have member : slash ∈ path.rtakeWhile isSlashSymbol := by simp [slashes]
        simpa [isSlashSymbol] using List.mem_rtakeWhile_imp member
      rw [slashes, isFirst] at whole
      have cut := passed_cut start (path.rdropWhile isSlashSymbol) rest
      rwa [whole] at cut

/-- What stands up to the last slash of a path, and what stands after it. -/
theorem directory_split (path : List Symbol) :
    path = path.rdropWhile (fun symbol => !isSlashSymbol symbol) ++
      path.rtakeWhile (fun symbol => !isSlashSymbol symbol) :=
  List.rdropWhile_append_rtakeWhile.symm

/-- The part of a path before its last name, with the slashes between. -/
theorem splitPath_head (path : List Symbol) :
    (splitPath isSlashSymbol path).1 =
      if (path.rdropWhile fun symbol => !isSlashSymbol symbol).all isSlashSymbol then
        path.rdropWhile fun symbol => !isSlashSymbol symbol
      else (path.rdropWhile fun symbol => !isSlashSymbol symbol).rdropWhile isSlashSymbol := by
  have head : path.take (path.length -
      (path.reverse.takeWhile fun symbol => !isSlashSymbol symbol).reverse.length) =
      path.rdropWhile fun symbol => !isSlashSymbol symbol := by
    have lengths := congrArg List.length (directory_split path)
    rw [List.length_append, List.rtakeWhile] at lengths
    rw [show path.length - _ = (path.rdropWhile fun symbol => !isSlashSymbol symbol).length by
      omega]
    exact (List.prefix_iff_eq_take.mp (List.rdropWhile_prefix _ path)).symm
  simp only [splitPath, head]
  split <;> rfl

/-- The part of a path after its last slash. -/
theorem splitPath_tail (path : List Symbol) :
    (splitPath isSlashSymbol path).2 = path.rtakeWhile fun symbol => !isSlashSymbol symbol := by
  simp only [splitPath]
  split <;> rfl

/-- On the way to its last name a path passes the places of its directory part. -/
theorem passed_head (start : Location) (path : List Symbol)
    (named : (splitPath isSlashSymbol path).1 ≠ []) :
    passed start (splitPath isSlashSymbol path).1 ⊆ passed start path := by
  have split := directory_split path
  rw [splitPath_head] at named ⊢
  set head := path.rdropWhile fun symbol => !isSlashSymbol symbol with isHead
  have nonempty : head ≠ [] := by
    intro empty
    simp [empty] at named
  obtain ⟨start', last, ending⟩ : ∃ start' last, head = start' ++ [last] :=
    ⟨_, _, (List.dropLast_append_getLast nonempty).symm⟩
  have lastSlash : last = .scalar '/' := by
    have stopped : ¬ (!isSlashSymbol (head.getLast nonempty)) = true :=
      List.rdropWhile_last_not _ path nonempty
    have lastIs : head.getLast nonempty = last := by simp [ending]
    rw [lastIs] at stopped
    simpa [isSlashSymbol] using stopped
  rw [lastSlash] at ending
  have whole : path =
      start' ++ .scalar '/' :: path.rtakeWhile fun symbol => !isSlashSymbol symbol := by
    rw [ending, List.append_assoc] at split
    exact split
  have headPlaces : passed start head ⊆ passed start path := by
    rw [ending, whole]
    exact List.Subset.trans (passed_trailing_slash start start') (passed_cut start start' _)
  split
  · exact headPlaces
  · exact List.Subset.trans (passed_stripped start head) headPlaces

/-- A slash divides the names before it from the names after it. -/
theorem components_slash (first rest : List Char) :
    components (first ++ '/' :: rest) = components first ++ components rest := by
  simp [components, splitAtEach_append_separator first rest (show isSlash '/' = true from rfl)]

end SolidityAudit.Files
