import Mathlib.Algebra.BigOperators.Group.List.Lemmas
import SurfaceDrift.Proofs.Clustering.Run
import SurfaceDrift.Proofs.Clustering.Samples
import SurfaceDrift.Proofs.Density.Numbering
import SurfaceDrift.Proofs.Fields

/-!
# Samples by label

The report groups the samples by their labels (`clusterMapping`). Every label that some sample
has is a key, and under it stand the samples of that label in their order (`IsGrouping`), so
that each sample stands in one group and the groups hold as many as there are samples.

Labels number the clusters from 0 on without a gap, so there is one group besides noise for
each of these numbers (`length_clusters_clusterMapping`). `fitTransform_accounts` : a clustering
fails for want of samples or for a distance that is not finite, and otherwise its answer
accounts for every sample (`Accounts`). What the instance held before has no part in it.
-/

namespace SurfaceDrift

theorem Json.integerText_injective : Function.Injective Json.integerText := by
  have hminus : ∀ m n, '-' :: Decimal.digitsOf m ≠ Decimal.digitsOf n := by
    intro m n h
    have hdigit : ('-' : Char).isDigit = true :=
      Nat.isDigit_of_mem_toDigits (by decide) (by decide) (h ▸ List.mem_cons_self)
    exact absurd hdigit (by decide)
  intro m n h
  unfold Json.integerText at h
  split_ifs at h with hm hn hn
  · have habs := Decimal.digitsOf_injective (List.cons.inj h).2
    omega
  · exact absurd h (hminus _ _)
  · exact absurd h.symm (hminus _ _)
  · have habs := Decimal.digitsOf_injective h
    omega

namespace Clustering

theorem labelKey_injective : Function.Injective labelKey := fun _ _ h =>
  Json.integerText_injective (String.ofList_inj.mp h)

/-! ## Groups -/

/-- The samples of a label in their order, each as its document's name and its own. -/
def groupOf (labelled : List (Sample × Int)) (label : Int) : List (String × String) :=
  (labelled.filter fun entry => entry.2 = label).map fun entry =>
    (structureLabel entry.1.origin, entry.1.name)

/-- The keys are the labels of samples, and under a label stand its samples. -/
structure IsGrouping (groups : Fields (List (String × String)))
    (labelled : List (Sample × Int)) : Prop where
  ascending : Fields.Ascending groups
  mem_names_iff : ∀ key, key ∈ Fields.names groups ↔
    ∃ label ∈ labelled.map Prod.snd, labelKey label = key
  find?_eq : ∀ label ∈ labelled.map Prod.snd,
    Fields.find? groups (labelKey label) = some (groupOf labelled label)
  /-- The groups hold as many samples as there are. -/
  total_eq : (groups.map fun entry => entry.2.length).sum = labelled.length

theorem clusterMapping_eq_gather (labelled : List (Sample × Int)) :
    clusterMapping labelled = Fields.gather (fun entry => labelKey entry.2)
      (fun group entry => group ++ [(structureLabel entry.1.origin, entry.1.name)]) [] labelled :=
  rfl

theorem find?_clusterMapping (labelled : List (Sample × Int)) (key : String) :
    Fields.find? (clusterMapping labelled) key =
      if labelled.filter (labelKey ·.2 = key) = [] then none
      else some ((labelled.filter (labelKey ·.2 = key)).map fun entry =>
        (structureLabel entry.1.origin, entry.1.name)) := by
  rw [clusterMapping_eq_gather, Fields.find?_gather, List.foldl_append_eq_append, List.nil_append,
    ← List.flatMap_def, ← List.map_eq_flatMap]

theorem ascending_clusterMapping (labelled : List (Sample × Int)) :
    Fields.Ascending (clusterMapping labelled) := by
  rw [clusterMapping_eq_gather]
  exact Fields.ascending_gather labelled

theorem mem_names_clusterMapping {labelled : List (Sample × Int)} {key : String} :
    key ∈ Fields.names (clusterMapping labelled) ↔
      ∃ label ∈ labelled.map Prod.snd, labelKey label = key := by
  rw [clusterMapping_eq_gather, Fields.mem_names_gather]
  simp only [List.mem_map, exists_exists_and_eq_and]

theorem names_clusterMapping_perm (labelled : List (Sample × Int)) :
    (Fields.names (clusterMapping labelled)).Perm
      ((labelled.map Prod.snd).map labelKey).dedup := by
  refine (List.perm_ext_iff_of_nodup (ascending_clusterMapping labelled).nodup_names
    (List.nodup_dedup _)).mpr fun key => ?_
  rw [mem_names_clusterMapping, List.mem_dedup, List.mem_map]

theorem find?_clusterMapping_of_mem {labelled : List (Sample × Int)} {label : Int}
    (h : label ∈ labelled.map Prod.snd) :
    Fields.find? (clusterMapping labelled) (labelKey label) = some (groupOf labelled label) := by
  obtain ⟨entry, hentry, rfl⟩ := List.mem_map.mp h
  rw [find?_clusterMapping, if_neg, groupOf]
  · simp only [labelKey_injective.eq_iff]
  · exact List.ne_nil_of_mem (List.mem_filter.mpr ⟨hentry, decide_eq_true rfl⟩)

/-- A group is as long as its key is often among the keys of the samples. -/
theorem length_of_mem_clusterMapping {labelled : List (Sample × Int)}
    {entry : String × List (String × String)} (h : entry ∈ clusterMapping labelled) :
    entry.2.length = ((labelled.map Prod.snd).map labelKey).count entry.1 := by
  have hfind := (ascending_clusterMapping labelled).find?_of_mem h
  rw [find?_clusterMapping] at hfind
  split_ifs at hfind
  rw [← Option.some.inj hfind, List.length_map, List.map_map, List.count, List.countP_map,
    List.countP_eq_length_filter]
  rfl

theorem total_clusterMapping (labelled : List (Sample × Int)) :
    ((clusterMapping labelled).map fun entry => entry.2.length).sum = labelled.length := by
  let keys := (labelled.map Prod.snd).map labelKey
  calc ((clusterMapping labelled).map fun entry => entry.2.length).sum
      = ((Fields.names (clusterMapping labelled)).map fun key => keys.count key).sum := by
        rw [Fields.names, List.map_map]
        exact congrArg List.sum (List.map_congr_left fun _ => length_of_mem_clusterMapping)
    _ = (keys.dedup.map fun key => keys.count key).sum :=
        ((names_clusterMapping_perm labelled).map _).sum_eq
    _ = labelled.length := by
        rw [List.sum_map_count_dedup_eq_length, List.length_map, List.length_map]

theorem isGrouping_clusterMapping (labelled : List (Sample × Int)) :
    IsGrouping (clusterMapping labelled) labelled :=
  ⟨ascending_clusterMapping labelled, fun _ => mem_names_clusterMapping,
    fun _ => find?_clusterMapping_of_mem, total_clusterMapping labelled⟩

/-! ## Clusters -/

/-- The keys besides that of noise are as many as the distinct labels besides noise. -/
theorem length_clusters_clusterMapping {found : List Sample} {labels : List Int}
    (hlength : labels.length = found.length) (hlabels : ∀ c ∈ labels, c = noise ∨ 0 ≤ c) :
    ((Fields.names (clusterMapping (found.zip labels))).filter (· ≠ labelKey noise)).length =
      Density.clusterCount labels := by
  have hsnd : (found.zip labels).map Prod.snd = labels := List.map_snd_zip hlength.le
  have hperm := (names_clusterMapping_perm (found.zip labels)).filter (· ≠ labelKey noise)
  have hcluster : (labels.dedup.filter (0 ≤ ·)).toFinset = labels.toFinset.filter (0 ≤ ·) := by
    ext c
    simp only [List.mem_toFinset, List.mem_filter, List.mem_dedup, Finset.mem_filter,
      decide_eq_true_eq]
  rw [hperm.length_eq, hsnd, List.dedup_map_of_injective labelKey_injective, List.filter_map,
    List.length_map, Density.clusterCount, ← hcluster,
    List.toFinset_card_of_nodup ((List.nodup_dedup labels).filter _)]
  refine congrArg List.length (List.filter_congr fun c hc => ?_)
  have hiff : labelKey c ≠ labelKey noise ↔ 0 ≤ c := by
    rw [labelKey_injective.ne_iff]
    rcases hlabels c (List.mem_dedup.mp hc) with rfl | hpos
    · decide
    · exact iff_of_true (ne_of_gt (Int.lt_of_lt_of_le (by decide) hpos)) hpos
  simp only [Function.comp_apply, hiff]

/-! ## The answer -/

/-- A group of samples as a document. -/
def groupDocument (group : List (String × String)) : Document :=
  .list (group.map fun entry => .object [(entry.1, .text entry.2)])

/-- The answer accounts for samples with these labels : it tells the labels in the order of the
samples, how many samples are noise and how many clusters there are, and it lists each sample
under its label. -/
structure Accounts (answer : Document) (found : List Sample) (labels : List Int) : Prop where
  length_eq : labels.length = found.length
  labels_told : answer.get? "labels" = some (.list (labels.map Document.ofInt))
  noise_told : answer.get? "noise_count" = some (.ofNat (labels.count (-1)))
  clusters_told : answer.get? "cluster_count" = some (.ofNat (Density.clusterCount labels))
  /-- The labels besides noise run from 0 on without a gap. -/
  mem_labels_iff : ∀ c, c ∈ labels ∧ c ≠ -1 ↔ 0 ≤ c ∧ c < Density.clusterCount labels
  groups_told : ∃ groups, IsGrouping groups (found.zip labels) ∧
    answer.get? "cluster_mapping" = some (.object (Fields.mapValues groupDocument groups))

theorem get?_toDocument (r : Report) :
    r.toDocument.get? "labels" = some (.list (r.labels.map Document.ofInt)) ∧
      r.toDocument.get? "noise_count" = some (.ofNat r.noiseCount) ∧
      r.toDocument.get? "cluster_count" = some (.ofNat r.clusterCount) ∧
      r.toDocument.get? "cluster_mapping" =
        some (.object (Fields.mapValues groupDocument r.clusterMapping)) := by
  have hgroup : groupDocument = fun group =>
      .list (group.map fun entry => .object [(entry.1, .text entry.2)]) := rfl
  simp [Report.toDocument, Document.ofFields, Document.get?, Fields.find?_ofList, hgroup]

theorem mem_labelsOf_iff (params : Params) (found : List Sample) (c : Int) :
    c ∈ labelsOf params found ∧ c ≠ noise ↔
      0 ≤ c ∧ c < Density.clusterCount (labelsOf params found) := by
  have hnumbers := Density.numbers_labelAll
    (Density.Neighbourhoods.of (distancesOf found) params.radius params.minSamples)
  have hcount := Density.clusterCount_numbers
    (Density.Neighbourhoods.of (distancesOf found) params.radius params.minSamples)
  rw [labelsOf, Density.labels, hcount]
  exact hnumbers.used_iff c

/-- The labels of samples account for them. -/
theorem accounts_reportOn (params : Params) (data : List Document) :
    Accounts (reportOn params data).toDocument (samples data) (labelsOf params (samples data)) := by
  have hlength := length_labelsOf params (samples data)
  have hused := mem_labelsOf_iff params (samples data)
  have hlabels : ∀ c ∈ labelsOf params (samples data), c = noise ∨ 0 ≤ c := fun c hc =>
    or_iff_not_imp_left.mpr fun hne => ((hused c).mp ⟨hc, hne⟩).1
  obtain ⟨htold, hnoise, hclusters, hgroups⟩ := get?_toDocument (reportOn params data)
  refine ⟨hlength, htold, ?_, ?_, hused, _, isGrouping_clusterMapping _, hgroups⟩
  · rw [hnoise, reportOn, report, List.count, List.countP_eq_length_filter]
    rfl
  · rw [hclusters, reportOn, report, length_clusters_clusterMapping hlength hlabels]

/-- A clustering of data fails for want of samples or for a distance that is not finite, or its
answer accounts for every sample, whatever the instance held before. -/
theorem fitTransform_accounts (params : Params) (state : Option (List Int))
    (data : List Document) :
    let found := samples data
    let result := ((learner params).fitThenTransform state data).1
    found = [] ∧ result = .error (.error (.data .noElements)) ∨
    (∃ row ∈ distancesOf found, ∃ x ∈ row, Decimal.isFinite x = false) ∧
      result = .error (.error (.data .distanceNotFinite)) ∨
    found ≠ [] ∧ (∀ row ∈ distancesOf found, ∀ x ∈ row, Decimal.isFinite x) ∧
      ∃ answer, result = .ok answer ∧ Accounts answer found (labelsOf params found) := by
  have hresult : ((learner params).fitThenTransform state data).1 =
      (learner params).fitTransform data := Learner.fitThenTransform_of_remember rfl state
  dsimp only
  rw [hresult]
  rcases fitTransform_cases params data with h | h | ⟨hsome, hfinite, hok⟩
  · exact Or.inl h
  · exact Or.inr (Or.inl h)
  · exact Or.inr (Or.inr ⟨hsome, hfinite, _, hok, accounts_reportOn params data⟩)

end Clustering

end SurfaceDrift
