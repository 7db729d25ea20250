import Mathlib.Data.List.Sigma
import Mathlib.Data.Prod.Basic
import SurfaceDrift.Cluster.Report

/-!
# Names of samples

Every sample knows the place of its document, and the samples of one document stand together
(`exists_samples_eq_append`). The rows of a feature matrix are numbered and the other views
give one sample, so that only a surface can give two samples of one name : samples are told
apart by place and name exactly if no surface among the data has two comparable members of
one qualified name (`DistinctNames`, `nodup_keys_samples_iff`).
-/

namespace SurfaceDrift

theorem Decimal.digitsOf_injective : Function.Injective Decimal.digitsOf := fun m n h => by
  rw [← Nat.ofDigitChars_ten_toDigits (n := m), ← Nat.ofDigitChars_ten_toDigits (n := n)]
  exact congrArg (fun digits => Nat.ofDigitChars 10 digits 0) h

namespace Clustering

/-- Numbers stay apart behind a fixed text. -/
theorem numbered_injective (before : String) :
    Function.Injective fun n => before ++ String.ofList (Decimal.digitsOf (n + 1)) :=
  fun _ _ h => Nat.succ.inj (Decimal.digitsOf_injective
    (String.ofList_inj.mp ((String.append_right_inj before).mp h)))

theorem structureLabel_injective : Function.Injective structureLabel :=
  numbered_injective "struct_"

/-! ## Places -/

theorem samplesOf_of_read? {d : Document} {surface : Surface}
    (h : Surface.read? d = some surface) (index : Nat) :
    samplesOf index d =
      surface.elements.map fun e => ⟨index, e.qualifiedName, .text e.comparisonText⟩ := by
  rw [samplesOf, h]

theorem origin_of_mem_samplesOf {index : Nat} {d : Document} {s : Sample}
    (h : s ∈ samplesOf index d) : s.origin = index := by
  unfold samplesOf at h
  split at h
  · obtain ⟨e, -, rfl⟩ := List.mem_map.mp h
    rfl
  · split at h
    · obtain ⟨row, -, rfl⟩ := List.mem_map.mp h
      rfl
    · split at h <;> exact List.mem_singleton.mp h ▸ rfl

theorem exists_getElem?_origin {data : List Document} {s : Sample} (h : s ∈ samples data) :
    ∃ d, data[s.origin]? = some d := by
  obtain ⟨⟨d, index⟩, hmem, hs⟩ := List.mem_flatMap.mp h
  exact ⟨d, origin_of_mem_samplesOf hs ▸ List.mk_mem_zipIdx_iff_getElem?.mp hmem⟩

/-- How many samples come from the documents before a place. -/
def samplesBefore (data : List Document) (index : Nat) : Nat :=
  (samples (data.take index)).length

theorem origin_ne_of_mem_samples_take {data : List Document} {index : Nat} {s : Sample}
    (h : s ∈ samples (data.take index)) : s.origin ≠ index := by
  obtain ⟨d, hd⟩ := exists_getElem?_origin h
  have hlt : s.origin < (data.take index).length := (List.getElem?_eq_some_iff.mp hd).1
  exact Nat.ne_of_lt (Nat.lt_of_lt_of_le hlt (List.length_take_le index data))

/-- The samples of a document stand together, after those of the documents before it. -/
theorem exists_samples_eq_append {data : List Document} {index : Nat} {d : Document}
    (h : data[index]? = some d) :
    ∃ after, samples data = samples (data.take index) ++ (samplesOf index d ++ after) ∧
      ∀ s ∈ after, s.origin ≠ index := by
  obtain ⟨hlt, hget⟩ := List.getElem?_eq_some_iff.mp h
  refine ⟨((data.drop (index + 1)).zipIdx (index + 1)).flatMap fun entry =>
    samplesOf entry.2 entry.1, ?_, fun s hs => ?_⟩
  · have hsplit : data = data.take index ++ d :: data.drop (index + 1) := by
      rw [← hget, ← List.drop_eq_getElem_cons hlt, List.take_append_drop]
    have hlength : (data.take index).length = index := List.length_take_of_le (Nat.le_of_lt hlt)
    rw [samples, samples]
    conv_lhs => rw [hsplit, List.zipIdx_append, List.flatMap_append, hlength, Nat.zero_add,
      List.zipIdx_cons, List.flatMap_cons]
  · obtain ⟨entry, hentry, hs⟩ := List.mem_flatMap.mp hs
    rw [origin_of_mem_samplesOf hs]
    exact Nat.ne_of_gt (List.le_snd_of_mem_zipIdx hentry)

theorem getElem?_samples {data : List Document} {index : Nat} {d : Document}
    (h : data[index]? = some d) {k : Nat} (hk : k < (samplesOf index d).length) :
    (samples data)[samplesBefore data index + k]? = (samplesOf index d)[k]? := by
  obtain ⟨after, hsplit, -⟩ := exists_samples_eq_append h
  rw [hsplit, samplesBefore, List.getElem?_append_right (Nat.le_add_right _ _),
    Nat.add_sub_cancel_left, List.getElem?_append_left hk]

theorem samplesBefore_add_length_le {data : List Document} {index : Nat} {d : Document}
    (h : data[index]? = some d) :
    samplesBefore data index + (samplesOf index d).length ≤ (samples data).length := by
  obtain ⟨after, hsplit, -⟩ := exists_samples_eq_append h
  rw [hsplit, List.length_append, List.length_append, samplesBefore]
  omega

/-! ## Names -/

/-- No surface among the data has two comparable members of one qualified name. -/
def DistinctNames (data : List Document) : Prop :=
  ∀ d ∈ data, ∀ s, Surface.read? d = some s → (s.elements.map Element.qualifiedName).Nodup

/-- A document gives two samples of one name only as a surface. -/
theorem nodup_names_samplesOf_iff (index : Nat) (d : Document) :
    ((samplesOf index d).map Sample.name).Nodup ↔
      ∀ s, Surface.read? d = some s → (s.elements.map Element.qualifiedName).Nodup := by
  unfold samplesOf
  cases hread : Surface.read? d with
  | some surface =>
    simp [Function.comp_def]
  | none =>
    refine iff_of_true ?_ fun s hs => by simp at hs
    cases featureRows? d with
    | some rows =>
      have hnames := (List.nodup_zipIdx_map_snd rows).map (numbered_injective "row_")
      rw [List.map_map] at hnames ⊢
      exact hnames
    | none => cases d.vector? <;> simp

/-- Place and name tell the samples apart exactly if every surface has distinct names. -/
theorem nodup_keys_samples_iff (data : List Document) :
    ((samples data).map fun s => (s.origin, s.name)).Nodup ↔ DistinctNames data := by
  have hkeys : ∀ index d, (samplesOf index d).map (fun s => (s.origin, s.name)) =
      ((samplesOf index d).map Sample.name).map (Prod.mk index) := by
    intro index d
    rw [List.map_map]
    exact List.map_congr_left fun s hs => by simp [origin_of_mem_samplesOf hs]
  have hapart : data.zipIdx.Pairwise (Function.onFun List.Disjoint fun entry =>
      (samplesOf entry.2 entry.1).map fun s => (s.origin, s.name)) := by
    refine (List.pairwise_map.mp (List.nodup_zipIdx_map_snd data)).imp fun hne => ?_
    intro key hfirst hsecond
    obtain ⟨s, hs, rfl⟩ := List.mem_map.mp hfirst
    obtain ⟨t, ht, heq⟩ := List.mem_map.mp hsecond
    rw [origin_of_mem_samplesOf hs, origin_of_mem_samplesOf ht] at heq
    exact hne (Prod.mk.inj heq).1.symm
  rw [samples, List.map_flatMap, List.nodup_flatMap, and_iff_left hapart]
  constructor
  · intro h d hd
    obtain ⟨index, hindex⟩ := List.mem_iff_getElem?.mp hd
    have := h (d, index) (List.mk_mem_zipIdx_iff_getElem?.mpr hindex)
    rw [hkeys] at this
    exact (nodup_names_samplesOf_iff index d).mp (List.Nodup.of_map _ this)
  · rintro h ⟨d, index⟩ hmem
    have hd : d ∈ data := List.mem_of_getElem? (List.mk_mem_zipIdx_iff_getElem?.mp hmem)
    rw [hkeys]
    exact ((nodup_names_samplesOf_iff index d).mpr (h d hd)).map (Prod.mk_right_injective index)

end Clustering

end SurfaceDrift
