import Mathlib.Data.List.Induction
import SolidityAudit.Proofs.Json.RoundTrip

namespace SolidityAudit.Json

open Text (Wording)

variable {name : Wording} {value : Value} {members : List (Wording × Value)}

/-- The first member counts if it has the name. -/
theorem findMember?_cons (asked : Wording) :
    findMember? asked ((name, value) :: members) =
      if asked = name then some value else findMember? asked members := by
  rw [findMember?, List.lookup_cons]
  by_cases same : asked = name
  · simp [same]
  · simp [same, beq_eq_false_iff_ne.mpr same, findMember?]

/-- A member that is put is found under its name. -/
theorem findMember?_putMember (asked : Wording) :
    findMember? asked (putMember name value members) =
      if asked = name then some value else findMember? asked members := by
  induction members with
  | nil => exact findMember?_cons asked
  | cons member rest ih =>
      rcases member with ⟨first, current⟩
      rw [putMember]
      by_cases same : first = name
      · simp only [same, beq_self_eq_true, if_true, findMember?_cons]
        split <;> rfl
      · simp only [beq_iff_eq, same, if_false, findMember?_cons, ih]
        by_cases found : asked = first
        · simp [found, same]
        · simp [found]

/-- A name is added unless it is there. -/
theorem names_putMember : (putMember name value members).map Prod.fst =
    if name ∈ members.map Prod.fst then members.map Prod.fst
    else members.map Prod.fst ++ [name] := by
  by_cases listed : name ∈ members.map Prod.fst
  · rw [if_pos listed]
    induction members with
    | nil => cases listed
    | cons member rest ih =>
        rcases member with ⟨first, current⟩
        rw [putMember]
        by_cases same : first = name
        · simp [same]
        · have later : name ∈ rest.map Prod.fst := by
            simpa [Ne.symm same] using listed
          simp [same, ih later]
  · rw [if_neg listed, putMember_new value listed, List.map_append, List.map_cons, List.map_nil]

/-- The members put one after the other. -/
def mergeMembers (members : List (Wording × Value)) : List (Wording × Value) :=
  members.foldl (fun done member => putMember member.1 member.2 done) []

/-- The last member is put last. -/
@[simp]
theorem mergeMembers_concat (members : List (Wording × Value)) (name : Wording) (value : Value) :
    mergeMembers (members ++ [(name, value)]) = putMember name value (mergeMembers members) := by
  simp [mergeMembers]

/-- The last value of a name counts. -/
theorem findMember?_mergeMembers (members : List (Wording × Value)) (name : Wording) :
    findMember? name (mergeMembers members) = findMember? name members.reverse := by
  induction members using List.reverseRecOn with
  | nil => rfl
  | append_singleton front last ih =>
      rw [mergeMembers_concat, findMember?_putMember, ih, List.reverse_concat, findMember?_cons]

/-- A name keeps its first place. -/
theorem names_mergeMembers (members : List (Wording × Value)) :
    (mergeMembers members).map Prod.fst = (members.map Prod.fst).eraseDups := by
  induction members using List.reverseRecOn with
  | nil => rfl
  | append_singleton front last ih =>
      rw [mergeMembers_concat, names_putMember, ih, List.map_append, List.eraseDups_append]
      by_cases listed : last.1 ∈ front.map Prod.fst
      · simp [listed, List.removeAll]
      · simp [listed, List.removeAll, List.eraseDups_cons]

/-- Each name stands once. -/
theorem mergeMembers_distinct (members : List (Wording × Value)) :
    ((mergeMembers members).map Prod.fst).Nodup := by
  induction members using List.reverseRecOn with
  | nil => exact List.nodup_nil
  | append_singleton front last ih =>
      rw [mergeMembers_concat, names_putMember]
      split
      · exact ih
      · next new =>
        refine List.nodup_append.mpr ⟨ih, by simp, fun name listed other same => ?_⟩
        rw [List.mem_singleton.mp same]
        rintro rfl
        exact new listed

/-- Changing the values changes what is found. -/
theorem findMember?_map (change : Value → Value) (members : List (Wording × Value))
    (name : Wording) :
    findMember? name (members.map fun member => (member.1, change member.2)) =
      (findMember? name members).map change := by
  induction members with
  | nil => rfl
  | cons member rest ih =>
      rw [List.map_cons, findMember?_cons, findMember?_cons, ih]
      split <;> rfl

/-- What is found is there. -/
theorem mem_of_findMember? (found : findMember? name members = some value) :
    (name, value) ∈ members := by
  induction members with
  | nil => cases found
  | cons member rest ih =>
      rw [findMember?_cons] at found
      split at found
      · next same =>
        cases found
        simp [same]
      · exact List.mem_cons_of_mem member (ih found)

/-- The values of members with distinct names are found by their names, in order. -/
theorem filterMap_names {α : Type} (select : Value → Option α)
    (distinct : (members.map Prod.fst).Nodup) :
    members.filterMap (fun member => select member.2) =
      (members.map Prod.fst).filterMap fun name => (findMember? name members).bind select := by
  induction members with
  | nil => rfl
  | cons member rest ih =>
      rw [List.map_cons, List.nodup_cons] at distinct
      have others : (rest.map Prod.fst).filterMap
            (fun name => (findMember? name (member :: rest)).bind select) =
          (rest.map Prod.fst).filterMap fun name => (findMember? name rest).bind select := by
        apply List.filterMap_congr
        intro name listed
        have other : name ≠ member.1 := fun same => distinct.1 (same ▸ listed)
        rw [findMember?_cons, if_neg other]
      rw [List.map_cons, List.filterMap_cons, List.filterMap_cons, others, ih distinct.2,
        findMember?_cons, if_pos rfl]
      rfl

end SolidityAudit.Json
