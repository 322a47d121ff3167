import Mathlib.Data.List.Infix
import SolidityAudit.Files.Disk

namespace SolidityAudit.Files

/-- Whatever has an entry lies in a directory. -/
def Disk.IsTree (disk : Disk) : Prop :=
  ∀ entry ∈ disk.entries, disk.node? entry.1.dropLast = some .directory

instance (disk : Disk) : Decidable disk.IsTree :=
  inferInstanceAs (Decidable (∀ entry ∈ disk.entries, _))

/-- The root is a directory. -/
@[simp] theorem Disk.node?_root (disk : Disk) : disk.node? [] = some .directory := rfl

/-- The current directory stays when something is put on the disk. -/
@[simp] theorem Disk.put_current (disk : Disk) (location : Location) (node : Node) :
    (disk.put location node).current = disk.current := rfl

/-- What is at a place with a name stands in the entries. -/
theorem Disk.node?_named (disk : Disk) (location : Location) (named : location ≠ []) :
    disk.node? location = disk.entries.lookup location := by
  simp [node?, named]

/-- A place where nothing is has a name and no entry. -/
theorem Disk.vacant_entry {disk : Disk} {location : Location}
    (vacant : disk.node? location = none) :
    location ≠ [] ∧ disk.entries.lookup location = none := by
  have named : location ≠ [] := by
    rintro rfl
    simp at vacant
  exact ⟨named, by rw [← disk.node?_named location named, vacant]⟩

/-- The first entry is found at its own place. -/
theorem lookup_entry (entries : List (Location × Node)) (location place : Location)
    (node : Node) :
    ((location, node) :: entries).lookup place =
      if place = location then some node else entries.lookup place := by
  rw [List.lookup_cons]
  by_cases same : place = location
  · simp [same]
  · rw [if_neg same, beq_eq_false_iff_ne.mpr same]

/-- A new entry goes behind those that are there. -/
theorem putEntry_vacant (entries : List (Location × Node)) (location : Location) (node : Node)
    (vacant : entries.lookup location = none) :
    Disk.putEntry location node entries = entries ++ [(location, node)] := by
  induction entries with
  | nil => rfl
  | cons entry rest ih =>
      rcases entry with ⟨other, present⟩
      rw [lookup_entry] at vacant
      split at vacant
      · cases vacant
      · next different =>
        have skipped : other ≠ location := fun same => different same.symm
        simp [Disk.putEntry, skipped, ih vacant]

/-- An entry is found at its own place, and the other places keep what they have. -/
theorem lookup_putEntry (entries : List (Location × Node)) (location place : Location)
    (node : Node) :
    (Disk.putEntry location node entries).lookup place =
      if place = location then some node else entries.lookup place := by
  induction entries with
  | nil => rw [Disk.putEntry, lookup_entry]
  | cons entry rest ih =>
      rcases entry with ⟨other, present⟩
      by_cases here : other = location
      · subst here
        simp only [Disk.putEntry, beq_self_eq_true, if_true, lookup_entry]
        split <;> rfl
      · simp only [Disk.putEntry, beq_iff_eq, here, if_false, lookup_entry, ih]
        by_cases same : place = other
        · simp [same, here]
        · simp [same]

/-- What is put at a place is found there. -/
theorem Disk.node?_put_same (disk : Disk) (location : Location) (node : Node)
    (named : location ≠ []) : (disk.put location node).node? location = some node := by
  rw [node?_named _ _ named]
  simp [put, lookup_putEntry]

/-- Other places keep what they have. -/
theorem Disk.node?_put_other (disk : Disk) (location place : Location) (node : Node)
    (different : place ≠ location) :
    (disk.put location node).node? place = disk.node? place := by
  by_cases root : place = []
  · subst root
    simp
  · rw [node?_named _ _ root, node?_named _ _ root]
    simp [put, lookup_putEntry, different]

/-- At a vacant place the entry is added behind all others. -/
theorem Disk.put_vacant {disk : Disk} {location : Location} (node : Node)
    (vacant : disk.node? location = none) :
    disk.put location node =
      { disk with entries := disk.entries ++ [(location, node)] } := by
  rw [put, putEntry_vacant _ _ _ (vacant_entry vacant).2]

/-- Directories stay directories when a vacant place is filled. -/
theorem Disk.put_keeps_directory {disk : Disk} {location place : Location} (node : Node)
    (vacant : disk.node? location = none) (present : disk.node? place = some .directory) :
    (disk.put location node).node? place = some .directory := by
  rw [node?_put_other _ _ _ _ (by rintro rfl; simp [vacant] at present), present]

/-- What is there stays as it is when entries are added behind it. -/
theorem Disk.node?_added {disk : Disk} (added : List (Location × Node)) {place : Location}
    {node : Node} (present : disk.node? place = some node) :
    Disk.node? { disk with entries := disk.entries ++ added } place = some node := by
  by_cases root : place = []
  · simpa [root] using present
  · rw [node?_named _ _ root] at present ⊢
    simp [List.lookup_append, present]

/-- In a tree all places above one with an entry are directories. -/
theorem Disk.IsTree.directory_above {disk : Disk} (tree : disk.IsTree) (place above : Location)
    (present : disk.node? place ≠ none) (below : above <+: place) (proper : above ≠ place) :
    disk.node? above = some .directory := by
  induction place using List.reverseRecOn with
  | nil => exact absurd (List.prefix_nil.mp below) proper
  | append_singleton start name ih =>
      have named : start ++ [name] ≠ [] := by simp
      rw [node?_named _ _ named] at present
      obtain ⟨node, found⟩ := Option.ne_none_iff_exists'.mp present
      have entry : (start ++ [name], node) ∈ disk.entries := by
        obtain ⟨before, after, split, _⟩ := List.lookup_eq_some_iff.mp found
        simp [split]
      have parent : disk.node? start = some .directory := by
        simpa using tree _ entry
      rcases List.prefix_concat_iff.mp below with same | higher
      · exact absurd same proper
      · by_cases here : above = start
        · rw [here, parent]
        · exact ih (by simp [parent]) higher here

/-- In a tree nothing lies below a place where nothing is. -/
theorem Disk.IsTree.nothing_below {disk : Disk} (tree : disk.IsTree) {location : Location}
    (vacant : disk.node? location = none) (entry : Location × Node)
    (listed : entry ∈ disk.entries) : ¬ location <+: entry.1 := by
  intro below
  obtain ⟨named, absent⟩ := vacant_entry vacant
  have present : disk.node? entry.1 ≠ none := by
    have nonempty : entry.1 ≠ [] := by
      intro empty
      rw [empty] at below
      exact named (List.prefix_nil.mp below)
    rw [node?_named _ _ nonempty]
    intro missing
    have unlisted := List.lookup_eq_none_iff.mp missing entry listed
    simp at unlisted
  have proper : location ≠ entry.1 := by
    rintro rfl
    exact present vacant
  have directory := tree.directory_above entry.1 location present below proper
  simp [vacant] at directory

/-- A tree stays one when a vacant place inside a directory is filled. -/
theorem Disk.IsTree.put {disk : Disk} (tree : disk.IsTree) {location : Location} (node : Node)
    (vacant : disk.node? location = none)
    (inside : disk.node? location.dropLast = some .directory) :
    (disk.put location node).IsTree := by
  intro entry listed
  apply put_keeps_directory node vacant
  rw [put_vacant node vacant] at listed
  rcases List.mem_append.mp listed with old | new
  · exact tree entry old
  · rw [List.mem_singleton.mp new]
    exact inside

/-- Removing a place takes away exactly the entries at it and below it. -/
theorem Disk.removeTree_added {disk : Disk} {location : Location}
    (added : List (Location × Node))
    (below : ∀ entry ∈ added, location <+: entry.1)
    (apart : ∀ entry ∈ disk.entries, ¬ location <+: entry.1) :
    Disk.removeTree { disk with entries := disk.entries ++ added } location = disk := by
  have kept : disk.entries.filter (fun entry => !location.isPrefixOf entry.1) = disk.entries := by
    apply List.filter_eq_self.mpr
    intro entry listed
    simpa [← List.isPrefixOf_iff_prefix] using apart entry listed
  have dropped : added.filter (fun entry => !location.isPrefixOf entry.1) = [] := by
    apply List.filter_eq_nil_iff.mpr
    intro entry listed
    simpa [← List.isPrefixOf_iff_prefix] using below entry listed
  simp [removeTree, List.filter_append, kept, dropped]

section Rearranging

/-- What was put below a place lies below it. -/
theorem Disk.liesBelow_append {location names : Location} (named : names ≠ []) :
    liesBelow location (location ++ names) = true := by
  simp [liesBelow, named]

/-- What lies below a place starts with it and goes on. -/
theorem Disk.liesBelow_iff {location place : Location} :
    liesBelow location place = true ↔ location <+: place ∧ place ≠ location := by
  simp [liesBelow]

/-- Places that are kept are looked up as before. -/
theorem lookup_filter {entries : List (Location × Node)} {keeps : Location → Bool}
    {place : Location} (kept : keeps place = true) :
    (entries.filter fun entry => keeps entry.1).lookup place = entries.lookup place := by
  induction entries with
  | nil => rfl
  | cons entry rest ih =>
      rcases entry with ⟨other, node⟩
      rw [List.filter_cons]
      split
      · rw [lookup_entry, lookup_entry, ih]
      · next dropped =>
        have different : place ≠ other := by
          rintro rfl
          exact dropped kept
        rw [lookup_entry, if_neg different, ih]

/-- What does not lie below the place stays as it is. -/
theorem Disk.node?_rearrangeBelow (disk : Disk) {location place : Location}
    (change : List (Location × Node) → List (Location × Node))
    (outside : liesBelow location place = false) :
    (disk.rearrangeBelow location change).node? place = disk.node? place := by
  by_cases root : place = []
  · rw [root, node?_root, node?_root]
  · rw [node?_named _ _ root, node?_named _ _ root, rearrangeBelow]
    simp only [List.lookup_append]
    have kept := @lookup_filter disk.entries (fun other => !liesBelow location other) place
      (by simp [outside])
    have absent : (((change (disk.below location)).filter fun entry => !entry.1.isEmpty).map
        fun entry => (location ++ entry.1, entry.2)).lookup place = none := by
      refine List.lookup_eq_none_iff.mpr fun entry listed => ?_
      obtain ⟨original, present, rfl⟩ := List.mem_map.mp listed
      have named : original.1 ≠ [] := by simpa using (List.mem_filter.mp present).2
      have below := @liesBelow_append location _ named
      have different : place ≠ location ++ original.1 := by
        rintro rfl
        rw [below] at outside
        cases outside
      simpa using different
    rw [absent, Option.or_none]
    exact kept

/-- A new directory with things below it is still one after they are rearranged. -/
theorem Disk.IsTree.rearrangeBelow_added {disk : Disk} (tree : disk.IsTree) {location : Location}
    (vacant : disk.node? location = none) (added : List (Location × Node))
    (below : ∀ entry ∈ added, liesBelow location entry.1 = true)
    (change : List (Location × Node) → List (Location × Node)) :
    ∃ left : List (Location × Node), (∀ entry ∈ left, location <+: entry.1) ∧
      Disk.rearrangeBelow
        { disk with entries := disk.entries ++ (location, .directory) :: added } location change =
          { disk with entries := disk.entries ++ left } := by
  have kept : disk.entries.filter (fun entry => !liesBelow location entry.1) = disk.entries := by
    refine List.filter_eq_self.mpr fun entry listed => ?_
    rw [Bool.not_eq_true', ← Bool.not_eq_true, liesBelow_iff]
    exact fun inside => tree.nothing_below vacant entry listed inside.1
  have dropped : added.filter (fun entry => !liesBelow location entry.1) = [] :=
    List.filter_eq_nil_iff.mpr fun entry listed => by simp [below entry listed]
  have itself : liesBelow location location = false := by simp [liesBelow]
  let rearranged : List (Location × Node) :=
    ((change (Disk.below
      { disk with entries := disk.entries ++ (location, .directory) :: added } location)).filter
        fun entry => !entry.1.isEmpty).map fun entry => (location ++ entry.1, entry.2)
  refine ⟨(location, .directory) :: rearranged, ?_, ?_⟩
  · intro entry listed
    rcases List.mem_cons.mp listed with rfl | later
    · exact List.prefix_rfl
    · obtain ⟨original, -, rfl⟩ := List.mem_map.mp later
      exact List.prefix_append _ _
  · simp only [Disk.rearrangeBelow, List.filter_append, List.filter_cons, kept, dropped, itself,
      Bool.not_false, if_true, List.append_assoc, List.cons_append, List.nil_append, rearranged]

end Rearranging

end SolidityAudit.Files
