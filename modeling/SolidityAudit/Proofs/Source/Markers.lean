import Mathlib.Data.List.Nodup
import SolidityAudit.Proofs.Text.Parted
import SolidityAudit.Source.Classification

namespace SolidityAudit.Source

open Text

/-- No word that is looked for goes over the end of a line. -/
theorem mentionsAny_joined {markers : List String}
    (withinLine : ∀ marker ∈ markers, '\n' ∉ marker.toList) {files : List String}
    (nonempty : files ≠ []) :
    mentionsAny (lower ("\n".intercalate files).toList) markers =
      files.any fun file => mentionsAny (lower file.toList) markers := by
  have someTexts : (files.map String.toList).map lower ≠ [] := by simpa using nonempty
  have newline : "\n".toList = ['\n'] := rfl
  rw [String.toList_intercalate, newline, lower_joined, Bool.eq_iff_iff]
  simp only [mentionsAny, List.any_eq_true, occursIn_iff]
  constructor
  · rintro ⟨marker, listed, occurs⟩
    obtain ⟨text, inside, occurs⟩ := (infix_joined (withinLine marker listed) someTexts).mp occurs
    simp only [List.map_map, List.mem_map, Function.comp_apply] at inside
    obtain ⟨file, inFiles, rfl⟩ := inside
    exact ⟨file, inFiles, marker, listed, occurs⟩
  · rintro ⟨file, inFiles, marker, listed, occurs⟩
    refine ⟨marker, listed, (infix_joined (withinLine marker listed) someTexts).mpr ?_⟩
    exact ⟨lower file.toList, by simpa using ⟨file, inFiles, rfl⟩, occurs⟩

/-- No marker of an unsafe construct spans lines. -/
theorem unsafeMarkers_withinLine :
    ∀ entry ∈ unsafeMarkers, ∀ marker ∈ entry.1, '\n' ∉ marker.toList := by
  decide

/-- Nor does a marker of a category. -/
theorem categoryMarkers_withinLine :
    ∀ entry ∈ categoryMarkers, ∀ marker ∈ entry.2, '\n' ∉ marker.toList := by
  decide

section Constructs

/-- A construct is listed exactly when one of its words occurs. -/
theorem mem_unsafeConstructs {source : String} {entry : List String × String}
    (listed : entry ∈ unsafeMarkers) :
    entry.2 ∈ unsafeConstructs source ↔ mentionsAny (lower source.toList) entry.1 = true := by
  have distinct : (unsafeMarkers.map Prod.snd).Nodup := by decide
  simp only [unsafeConstructs, List.mem_map, List.mem_filter]
  constructor
  · rintro ⟨other, ⟨otherListed, mentioned⟩, same⟩
    rwa [← List.inj_on_of_nodup_map distinct otherListed listed same]
  · intro mentioned
    exact ⟨entry, ⟨listed, mentioned⟩, rfl⟩

/-- Joined files have the unsafe constructs of each of them. -/
theorem unsafeConstructs_joined {files : List String} (nonempty : files ≠ []) :
    unsafeConstructs ("\n".intercalate files) = (unsafeMarkers.map Prod.snd).filter fun label =>
      decide (∃ file ∈ files, label ∈ unsafeConstructs file) := by
  rw [List.filter_map, unsafeConstructs]
  congr 1
  refine List.filter_congr fun entry listed => ?_
  rw [mentionsAny_joined (unsafeMarkers_withinLine entry listed) nonempty, Bool.eq_iff_iff]
  simp only [List.any_eq_true, Function.comp_apply, decide_eq_true_eq,
    mem_unsafeConstructs listed]

end Constructs

section Category

/-- The order of preference among categories, from zero. -/
def ContractCategory.rank (category : ContractCategory) : Nat :=
  [erc20, erc721, erc1155, defi, governance, token, custom].idxOf category

/-- No two categories share a rank. -/
theorem ContractCategory.rank_injective {category other : ContractCategory}
    (same : category.rank = other.rank) : category = other := by
  revert same
  cases category <;> cases other <;> decide

/-- The rank of what is found in a ranked table is its place. -/
theorem rank_find? {entries : List (ContractCategory × List String)} {first : Nat}
    (ranked : entries.map (fun entry => entry.1.rank) = List.range' first entries.length)
    (last : ContractCategory.custom.rank = first + entries.length)
    (holds : ContractCategory × List String → Bool) :
    (((entries.find? holds).map Prod.fst).getD .custom).rank = first + entries.findIdx holds := by
  induction entries generalizing first with
  | nil => simpa using last
  | cons entry others ih =>
      rw [List.map_cons, List.length_cons, List.range'_succ, List.cons.injEq] at ranked
      rw [List.find?_cons, List.findIdx_cons]
      cases held : holds entry with
      | true => simpa using ranked.1
      | false =>
          rw [List.length_cons] at last
          have later := ih ranked.2 (by omega)
          simp only [cond_false]
          omega

/-- The rank of a source is that of the first category it mentions. -/
theorem rank_categoryOf (source : String) :
    (categoryOf source).rank =
      categoryMarkers.findIdx fun entry => mentionsAny (lower source.toList) entry.2 := by
  have ranked : categoryMarkers.map (fun entry => entry.1.rank) =
      List.range' 0 categoryMarkers.length := by decide
  have found := rank_find? ranked (by decide) fun entry => mentionsAny (lower source.toList) entry.2
  rw [Nat.zero_add] at found
  rw [← found, categoryOf]
  cases categoryMarkers.find? fun entry => mentionsAny (lower source.toList) entry.2 with
  | none => rfl
  | some entry => rfl

/-- Joining files never gives a later category. -/
theorem rank_joined_le {files : List String} {file : String} (inFiles : file ∈ files) :
    (categoryOf ("\n".intercalate files)).rank ≤ (categoryOf file).rank := by
  rw [rank_categoryOf, rank_categoryOf]
  refine List.findIdx_le_findIdx fun entry listed mentioned => ?_
  rw [mentionsAny_joined (categoryMarkers_withinLine entry listed) (List.ne_nil_of_mem inFiles)]
  exact List.any_eq_true.mpr ⟨file, inFiles, mentioned⟩

/-- The category of the joined files is that of one of them. -/
theorem categoryOf_joined_mem {files : List String} (nonempty : files ≠ []) :
    categoryOf ("\n".intercalate files) ∈ files.map categoryOf := by
  obtain ⟨file, inFiles, reached⟩ : ∃ file ∈ files,
      (categoryOf file).rank ≤ (categoryOf ("\n".intercalate files)).rank := by
    by_cases found : (categoryOf ("\n".intercalate files)).rank < categoryMarkers.length
    · rw [rank_categoryOf] at found ⊢
      have mentioned := List.findIdx_getElem (w := found)
      rw [mentionsAny_joined (categoryMarkers_withinLine _ (List.getElem_mem found)) nonempty]
        at mentioned
      obtain ⟨file, inFiles, mentioned⟩ := List.any_eq_true.mp mentioned
      refine ⟨file, inFiles, ?_⟩
      rw [rank_categoryOf]
      by_contra beyond
      have missed := List.not_of_lt_findIdx (Nat.lt_of_not_le beyond)
      simp only [mentioned] at missed
      cases missed
    · obtain ⟨file, inFiles⟩ := List.exists_mem_of_ne_nil files nonempty
      refine ⟨file, inFiles, ?_⟩
      have most : (categoryOf file).rank ≤ categoryMarkers.length := by
        rw [rank_categoryOf]
        exact List.findIdx_le_length
      omega
  have same := ContractCategory.rank_injective (Nat.le_antisymm reached (rank_joined_le inFiles))
  exact List.mem_map.mpr ⟨file, inFiles, same⟩

end Category

/-- The constructs of joined files are those of the files, and the category is the most preferred of
theirs. -/
theorem classification_joined (files : List String) (nonempty : files ≠ []) :
    unsafeConstructs ("\n".intercalate files) = (unsafeMarkers.map Prod.snd).filter (fun label =>
        decide (∃ file ∈ files, label ∈ unsafeConstructs file)) ∧
      categoryOf ("\n".intercalate files) ∈ files.map categoryOf ∧
        ∀ file ∈ files, (categoryOf ("\n".intercalate files)).rank ≤ (categoryOf file).rank :=
  ⟨unsafeConstructs_joined nonempty, categoryOf_joined_mem nonempty, fun _ => rank_joined_le⟩

/-- A word that is cut by the end of a file is not put together again. -/
theorem classification_joined_cut :
    ["ΑΣ self", "destruct TX.ORIGIN ΑΣ", "dao IERC721"] ≠ [] ∧
      unsafeConstructs ("\n".intercalate ["ΑΣ self", "destruct TX.ORIGIN ΑΣ", "dao IERC721"]) =
        ["tx.origin Usage - Potential phishing vulnerability"] ∧
      categoryOf ("\n".intercalate ["ΑΣ self", "destruct TX.ORIGIN ΑΣ", "dao IERC721"]) =
        .erc721 := by
  have someFiles : ["ΑΣ self", "destruct TX.ORIGIN ΑΣ", "dao IERC721"] ≠ [] := by decide
  obtain ⟨constructs, among, preferred⟩ := classification_joined _ someFiles
  have categories : ["ΑΣ self", "destruct TX.ORIGIN ΑΣ", "dao IERC721"].map categoryOf =
      [.custom, .custom, .erc721] := by decide +kernel
  have atMost := preferred "dao IERC721" (by decide)
  have last : (categoryOf "dao IERC721").rank = 1 := by decide +kernel
  refine ⟨someFiles, constructs.trans (by decide +kernel), ?_⟩
  rw [categories] at among
  rw [last] at atMost
  generalize categoryOf ("\n".intercalate _) = category at among atMost ⊢
  revert among atMost
  cases category <;> decide

end SolidityAudit.Source
