import SolidityAudit.Proofs.Files.Route
import SolidityAudit.Proofs.Files.Tree

namespace SolidityAudit.Files

/-- Names that stay or lead up fit everywhere, the others must be short enough. -/
def nameFits (name : String) : Prop :=
  name = "" ∨ name = "." ∨ name = ".." ∨ name.utf8ByteSize ≤ Disk.maximalNameSize

/-- A walk takes its first step from a directory and goes on where the name leads. -/
theorem Disk.walk_cons_ok {disk : Disk} {location place : Location} {name : String}
    {rest : List String} :
    disk.walk location (name :: rest) = .ok place ↔
      disk.node? location = some .directory ∧ nameFits name ∧
        disk.walk (stepTo location name) rest = .ok place := by
  rw [walk]
  cases found : disk.node? location with
  | none => simp
  | some node =>
      cases node with
      | file content => simp
      | directory =>
          by_cases stays : name = "" ∨ name = "."
          · have fits : nameFits name := by
              rcases stays with empty | dot
              · exact .inl empty
              · exact .inr (.inl dot)
            simp [stepTo, stays, fits]
          · by_cases up : name = ".."
            · simp [stepTo, nameFits, up]
            · by_cases long : name.utf8ByteSize > maximalNameSize
              · have unfit : ¬ nameFits name := by
                  rintro (empty | dot | dots | short)
                  · exact stays (.inl empty)
                  · exact stays (.inr dot)
                  · exact up dots
                  · omega
                simp [stays, up, long, unfit]
              · have fits : nameFits name := .inr (.inr (.inr (by omega)))
                simp [stepTo, stays, up, long, fits]

/-- A walk without names stays. -/
@[simp] theorem Disk.walk_nil (disk : Disk) (location : Location) :
    disk.walk location [] = .ok location := rfl

/-- A walk over two lists of names goes on from where the first one leads. -/
theorem Disk.walk_append_ok {disk : Disk} {location place : Location}
    {first second : List String} :
    disk.walk location (first ++ second) = .ok place ↔
      ∃ middle, disk.walk location first = .ok middle ∧ disk.walk middle second = .ok place := by
  induction first generalizing location with
  | nil => simp
  | cons name rest ih =>
      rw [List.cons_append, walk_cons_ok, ih]
      constructor
      · rintro ⟨directory, fits, middle, before, after⟩
        exact ⟨middle, walk_cons_ok.mpr ⟨directory, fits, before⟩, after⟩
      · rintro ⟨middle, before, after⟩
        obtain ⟨directory, fits, before⟩ := walk_cons_ok.mp before
        exact ⟨directory, fits, middle, before, after⟩

/-- A walk that succeeds ends where the names lead by themselves. -/
theorem Disk.walk_resolves {disk : Disk} {location place : Location} {names : List String}
    (walked : disk.walk location names = .ok place) : place = resolve location names := by
  induction names generalizing location with
  | nil => simpa [resolve, eq_comm] using walked
  | cons name rest ih => exact ih (walk_cons_ok.mp walked).2.2

/-- A walk leads to the same place on every disk that keeps the directories. -/
theorem Disk.walk_keeps {disk other : Disk} {location place : Location} {names : List String}
    (kept : ∀ place, disk.node? place = some .directory → other.node? place = some .directory)
    (walked : disk.walk location names = .ok place) : other.walk location names = .ok place := by
  induction names generalizing location with
  | nil => exact walked
  | cons name rest ih =>
      obtain ⟨directory, fits, after⟩ := walk_cons_ok.mp walked
      exact walk_cons_ok.mpr ⟨kept _ directory, fits, ih after⟩

/-- Empty names and single dots can be left out of a walk. -/
theorem Disk.walk_plain {disk : Disk} {location place : Location} {names : List String}
    (walked : disk.walk location names = .ok place) :
    disk.walk location (names.filter fun name => name != "" && name != ".") = .ok place := by
  induction names generalizing location with
  | nil => exact walked
  | cons name rest ih =>
      obtain ⟨directory, fits, after⟩ := walk_cons_ok.mp walked
      by_cases stays : name = "" ∨ name = "."
      · have same : stepTo location name = location := by
          rcases stays with rfl | rfl <;> rfl
        rw [same] at after
        rw [List.filter_cons_of_neg (by rcases stays with rfl | rfl <;> decide)]
        exact ih after
      · rw [List.filter_cons_of_pos (by simpa using stays)]
        exact walk_cons_ok.mpr ⟨directory, fits, ih after⟩

/-- A name that leads down. -/
def leadsDown (name : String) : Prop := name ≠ "" ∧ name ≠ "." ∧ name ≠ ".."

/-- A walk that ends by going down to a vacant place never comes from below it. -/
theorem Disk.walk_fromBelow {disk : Disk} {location place : Location} {names : List String}
    {last : String} (vacant : disk.node? location = none) (down : leadsDown last)
    (below : liesBelow location place = true) :
    disk.walk place (names ++ [last]) ≠ .ok location := by
  intro walked
  induction names generalizing place with
  | nil =>
      obtain ⟨-, -, after⟩ := walk_cons_ok.mp walked
      have arrived : stepTo place last = location := by simpa using after
      have below := (liesBelow_iff.mp below).1.length_le
      have steps : stepTo place last = place ++ [last] := by
        simp [stepTo, down.1, down.2.1, down.2.2]
      have lengths := congrArg List.length (steps.symm.trans arrived)
      rw [List.length_append, List.length_singleton] at lengths
      omega
  | cons name rest ih =>
      obtain ⟨-, -, after⟩ := walk_cons_ok.mp walked
      obtain ⟨inside, other⟩ := liesBelow_iff.mp below
      have within : location <+: stepTo place name := by
        unfold stepTo
        split
        · exact inside
        · split
          · obtain ⟨names, rfl⟩ := inside
            have named : names ≠ [] := by simpa using other
            rw [List.dropLast_append_of_ne_nil named]
            exact List.prefix_append _ _
          · exact inside.trans (List.prefix_append _ _)
      by_cases here : stepTo place name = location
      · rw [here] at after
        have directory : disk.node? location = some .directory := by
          cases rest <;> exact (walk_cons_ok.mp after).1
        rw [directory] at vacant
        cases vacant
      · exact ih (liesBelow_iff.mpr ⟨within, here⟩) after

/-- A walk down to a vacant place goes the same way where all that is not below it is kept. -/
theorem Disk.walk_outside {disk other : Disk} {location place : Location} {names : List String}
    {last : String} (vacant : disk.node? location = none) (down : leadsDown last)
    (kept : ∀ place, liesBelow location place = false → disk.node? place = some .directory →
      other.node? place = some .directory)
    (walked : disk.walk place (names ++ [last]) = .ok location) :
    other.walk place (names ++ [last]) = .ok location := by
  have outside : liesBelow location place = false := by
    by_contra below
    exact walk_fromBelow vacant down (by simpa using below) walked
  induction names generalizing place with
  | nil =>
      obtain ⟨directory, fits, after⟩ := walk_cons_ok.mp walked
      exact walk_cons_ok.mpr ⟨kept place outside directory, fits, after⟩
  | cons name rest ih =>
      obtain ⟨directory, fits, after⟩ := walk_cons_ok.mp walked
      refine walk_cons_ok.mpr ⟨kept place outside directory, fits, ih after ?_⟩
      by_contra below
      exact walk_fromBelow vacant down (by simpa using below) after

/-- In a tree a walk that ends where nothing is comes from a directory right above. -/
theorem Disk.IsTree.walk_parent {disk : Disk} (tree : disk.IsTree) {location place : Location}
    {names : List String} (nonempty : names ≠ [])
    (walked : disk.walk location names = .ok place) (vacant : disk.node? place = none) :
    disk.node? place.dropLast = some .directory := by
  obtain ⟨before, last, rfl⟩ : ∃ before last, names = before ++ [last] :=
    ⟨_, _, (List.dropLast_append_getLast nonempty).symm⟩
  obtain ⟨middle, -, step⟩ := walk_append_ok.mp walked
  obtain ⟨directory, -, ended⟩ := walk_cons_ok.mp step
  have arrived : place = stepTo middle last := by simpa [eq_comm] using ended
  by_cases stays : last = "" ∨ last = "."
  · simp [arrived, stepTo, stays, directory] at vacant
  · by_cases up : last = ".."
    · have above : disk.node? middle.dropLast ≠ none := by
        by_cases root : middle = []
        · simp [root]
        · have shorter : middle.dropLast ≠ middle := by
            intro same
            have lengths := congrArg List.length same
            have positive := List.length_pos_iff.mpr root
            rw [List.length_dropLast] at lengths
            omega
          simp [tree.directory_above middle middle.dropLast (by simp [directory])
            (List.dropLast_prefix middle) shorter]
      rw [arrived] at vacant
      simp only [stepTo, up] at vacant
      exact absurd vacant above
    · have below : place = middle ++ [last] := by simp [arrived, stepTo, stays, up]
      simp [below, directory]

/-- A path leads somewhere when it is neither empty nor too long and its walk succeeds. -/
theorem Disk.locate_ok {disk : Disk} {path : String} {place : Location} :
    disk.locate path = .ok place ↔
      path ≠ "" ∧ path.utf8ByteSize ≤ maximalPathSize ∧
        disk.walk (disk.startOf path) (components path.toList) = .ok place := by
  unfold locate
  by_cases empty : path = ""
  · simp [empty]
  · by_cases long : path.utf8ByteSize > maximalPathSize
    · have exceeds : ¬ path.utf8ByteSize ≤ maximalPathSize := by omega
      simp [empty, long, exceeds]
    · have within : path.utf8ByteSize ≤ maximalPathSize := by omega
      simp [empty, long, within]

/-- A path starts at the same place where the current directory is the same. -/
theorem Disk.startOf_congr {disk other : Disk} (same : other.current = disk.current)
    (path : String) : other.startOf path = disk.startOf path := by
  simp [startOf, same]

/-- A path leads to the same place on every disk that keeps the directories. -/
theorem Disk.locate_keeps {disk other : Disk} {path : String} {place : Location}
    (same : other.current = disk.current)
    (kept : ∀ place, disk.node? place = some .directory → other.node? place = some .directory)
    (located : disk.locate path = .ok place) : other.locate path = .ok place := by
  obtain ⟨nonempty, short, walked⟩ := locate_ok.mp located
  refine locate_ok.mpr ⟨nonempty, short, ?_⟩
  rw [startOf_congr same]
  exact walk_keeps kept walked

end SolidityAudit.Files
