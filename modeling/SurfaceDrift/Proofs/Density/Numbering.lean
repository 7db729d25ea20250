import Mathlib.Data.Set.Card
import SurfaceDrift.Proofs.Density.Reach

/-!
# The numbers of the clusters

`Neighbourhoods.Numbers` says what the labels of points are, as numbers : noise is `-1` exactly
where no core point reaches, and a point that some core point reaches has the number of starts
before the least start that reaches it. So the other numbers run from 0 on without a gap, and
the clusters come in the order of their first core points.

The labels of any matrix with no row longer than it has rows are like this
(`labels_numbered`), where the neighbours of a point are the columns of its row that are within
the radius (`columnsWithin`). The matrix need not be symmetric or square, and a point need not be
near itself.
-/

namespace SurfaceDrift.Density

/-! ## Columns of a row -/

/-- The columns of a row that are within the radius. -/
def columnsWithin (distances : List (List Float)) (radius : Float) (q : Nat) : Set Nat :=
  {j | ∃ row x, distances[q]? = some row ∧ row[j]? = some x ∧ x ≤ radius}

theorem nodup_within (radius : Float) (row : List Float) : (within radius row).Nodup := by
  have hsub : (within radius row).Sublist (row.zipIdx.map Prod.snd) :=
    List.filter_sublist.map Prod.snd
  rw [List.zipIdx_map_snd] at hsub
  exact List.Nodup.sublist hsub List.nodup_range'

variable {distances : List (List Float)} {radius : Float} {minSamples : Nat}

theorem size_of (distances : List (List Float)) (radius : Float) (minSamples : Nat) :
    (Neighbourhoods.of distances radius minSamples).near.size = distances.length := by
  simp [Neighbourhoods.of]

theorem nodup_of? (q : Nat) : ((Neighbourhoods.of distances radius minSamples).of? q).Nodup := by
  simp only [Neighbourhoods.of?, Neighbourhoods.of, Array.getD_eq_getD_getElem?,
    List.getElem?_toArray, List.getElem?_map]
  cases distances[q]? with
  | none => exact List.nodup_nil
  | some row => exact nodup_within radius row

/-- A core point is one with enough columns within the radius. -/
theorem isCore_of_iff (q : Nat) :
    (Neighbourhoods.of distances radius minSamples).isCore q = true ↔
      minSamples ≤ (columnsWithin distances radius q).ncard := by
  have hcolumns : columnsWithin distances radius q =
      ((Neighbourhoods.of distances radius minSamples).of? q).toFinset := by
    ext j
    rw [Finset.mem_coe, List.mem_toFinset, mem_of?_of_iff]
    rfl
  rw [hcolumns, Set.ncard_coe_finset, List.toFinset_card_of_nodup (nodup_of? q)]
  exact decide_eq_true_iff

/-! ## Starts and their numbers -/

namespace Neighbourhoods

variable {g : Neighbourhoods} {s t q : Nat}

/-- The first core point that reaches a point is the least start that does. -/
theorem isFirst_iff_isLeast :
    g.IsFirst s q ↔ IsLeast {t | g.IsStart t ∧ g.Reaches t q} s := by
  constructor
  · intro h
    refine ⟨⟨h.isStart, h.reaches⟩, fun t ⟨hstart, hreach⟩ => ?_⟩
    by_contra hlt
    exact h.not_reaches t (not_le.mp hlt) hstart.isCore hreach
  · intro h
    obtain ⟨first, hle, hfirst⟩ := exists_isFirst h.1.1.isCore h.1.2
    rwa [le_antisymm (h.2 ⟨hfirst.isStart, hfirst.reaches⟩) hle]

theorem startsBefore_mono (h : s ≤ t) : g.startsBefore s ≤ g.startsBefore t := by
  classical
  exact Nat.count_monotone g.IsStart h

theorem IsStart.startsBefore_lt_iff (hs : g.IsStart s) :
    g.startsBefore s < g.startsBefore t ↔ s < t := by
  constructor
  · intro h
    by_contra hle
    exact absurd (startsBefore_mono (not_lt.mp hle)) (not_le.mpr h)
  · intro h
    rw [← Nat.succ_le_iff, Nat.succ_eq_add_one, ← startsBefore_succ_of_isStart hs]
    exact startsBefore_mono h

theorem IsStart.eq_of_startsBefore_eq (hs : g.IsStart s) (ht : g.IsStart t)
    (h : g.startsBefore s = g.startsBefore t) : s = t :=
  le_antisymm (not_lt.mp fun hlt => h.not_gt (ht.startsBefore_lt_iff.mpr hlt))
    (not_lt.mp fun hlt => h.not_lt (hs.startsBefore_lt_iff.mpr hlt))

/-- Every number below the number of starts is the number of a start. -/
theorem exists_isStart_of_lt {k c : Nat} (h : c < g.startsBefore k) :
    ∃ s < k, g.IsStart s ∧ g.startsBefore s = c := by
  induction k with
  | zero => simp [startsBefore] at h
  | succ k ih =>
    by_cases hk : g.IsStart k
    · rw [startsBefore_succ_of_isStart hk, Nat.lt_succ_iff_lt_or_eq] at h
      rcases h with hlt | rfl
      · obtain ⟨s, hs, hstart⟩ := ih hlt
        exact ⟨s, hs.trans k.lt_succ_self, hstart⟩
      · exact ⟨k, k.lt_succ_self, hk, rfl⟩
    · rw [startsBefore_succ_of_not_isStart hk] at h
      obtain ⟨s, hs, hstart⟩ := ih h
      exact ⟨s, hs.trans k.lt_succ_self, hstart⟩

/-! ## Labels as numbers -/

/-- The labels of the points number the clusters, and noise is `-1`. -/
structure Numbers (g : Neighbourhoods) (found : List Int) : Prop where
  length_eq : found.length = g.near.size
  /-- Noise is what no core point reaches. -/
  noise_iff : ∀ p < g.near.size,
    found[p]? = some (-1) ↔ ∀ s, g.isCore s = true → ¬ g.Reaches s p
  /-- Any other point has the number of the starts before the least start that reaches it. -/
  label : ∀ p < g.near.size, found[p]? ≠ some (-1) →
    ∃ s, IsLeast {t | g.IsStart t ∧ g.Reaches t p} s ∧ found[p]? = some (g.startsBefore s : Int)
  /-- There is a cluster for each start, and its number is used. -/
  used_iff : ∀ c, c ∈ found ∧ c ≠ -1 ↔ 0 ≤ c ∧ c < g.startsBefore g.near.size
  /-- The clusters come in the order of their first core points. -/
  ordered : ∀ c d : Nat, ∀ s t, IsLeast {q | g.isCore q = true ∧ found[q]? = some (c : Int)} s →
    IsLeast {q | g.isCore q = true ∧ found[q]? = some (d : Int)} t → (c < d ↔ s < t)

end Neighbourhoods

variable {g : Neighbourhoods}

theorem number_eq_neg_one_iff {label : Label} : number label = -1 ↔ label = none := by
  cases label with
  | none => simp [number]
  | some c => simp [number]

theorem number_eq_natCast_iff {label : Label} {c : Nat} : number label = c ↔ label = some c := by
  cases label with
  | none => simp [number]
  | some d => simp [number]

theorem getElem?_numbers_eq_some_iff {p c : Nat} :
    ((labelAll g).map number)[p]? = some (c : Int) ↔
      p < g.near.size ∧ ∃ s, g.IsFirst s p ∧ c = g.startsBefore s := by
  rw [List.getElem?_map, Option.map_eq_some_iff]
  simp only [number_eq_natCast_iff, exists_eq_right]
  constructor
  · intro h
    have hp : p < g.near.size := length_labelAll g ▸ (List.getElem?_eq_some_iff.mp h).1
    exact ⟨hp, (getElem?_labelAll_eq_some_iff hp).mp h⟩
  · rintro ⟨hp, h⟩
    exact (getElem?_labelAll_eq_some_iff hp).mpr h

theorem getElem?_numbers_eq_neg_one_iff {p : Nat} (hp : p < g.near.size) :
    ((labelAll g).map number)[p]? = some (-1) ↔ ∀ s, g.isCore s = true → ¬ g.Reaches s p := by
  rw [List.getElem?_map, Option.map_eq_some_iff]
  simp only [number_eq_neg_one_iff, exists_eq_right]
  exact getElem?_labelAll_eq_none_iff hp

/-- The label of a start is its own number. -/
theorem getElem?_numbers_of_isStart {s : Nat} (hs : g.IsStart s) (hlt : s < g.near.size) :
    ((labelAll g).map number)[s]? = some (g.startsBefore s : Int) :=
  getElem?_numbers_eq_some_iff.mpr ⟨hlt, s, hs, rfl⟩

theorem mem_numbers_iff {c : Int} :
    c ∈ (labelAll g).map number ∧ c ≠ -1 ↔ 0 ≤ c ∧ c < g.startsBefore g.near.size := by
  constructor
  · rintro ⟨hmem, hne⟩
    obtain ⟨label, -, rfl⟩ := List.mem_map.mp hmem
    cases label with
    | none => exact absurd rfl hne
    | some c =>
      obtain ⟨p, hp⟩ := List.mem_iff_getElem?.mp hmem
      obtain ⟨hlt, s, hfirst, rfl⟩ := getElem?_numbers_eq_some_iff.mp hp
      have hs : s < g.near.size := Neighbourhoods.lt_of_reaches hfirst.reaches hlt
      exact ⟨Int.natCast_nonneg _,
        Int.ofNat_lt.mpr (hfirst.isStart.startsBefore_lt_iff.mpr hs)⟩
  · rintro ⟨hpos, hlt⟩
    obtain ⟨c, rfl⟩ := Int.eq_ofNat_of_zero_le hpos
    obtain ⟨s, hs, hstart, rfl⟩ := Neighbourhoods.exists_isStart_of_lt (Int.ofNat_lt.mp hlt)
    exact ⟨List.mem_of_getElem? (getElem?_numbers_of_isStart hstart hs), by omega⟩

/-- How many numbers besides noise there are among labels. -/
def clusterCount (found : List Int) : Nat := (found.toFinset.filter (0 ≤ ·)).card

/-- There are as many clusters as starts. -/
theorem clusterCount_numbers (g : Neighbourhoods) :
    clusterCount ((labelAll g).map number) = g.startsBefore g.near.size := by
  have hused : ((labelAll g).map number).toFinset.filter (0 ≤ ·) =
      (Finset.range (g.startsBefore g.near.size)).image Nat.cast := by
    ext c
    simp only [Finset.mem_filter, List.mem_toFinset, Finset.mem_image, Finset.mem_range]
    constructor
    · rintro ⟨hmem, hpos⟩
      obtain ⟨-, hlt⟩ := mem_numbers_iff.mp ⟨hmem, by omega⟩
      exact ⟨c.toNat, by omega, by omega⟩
    · rintro ⟨n, hlt, rfl⟩
      have hpos : (0 : Int) ≤ n := Int.natCast_nonneg n
      exact ⟨(mem_numbers_iff.mpr ⟨hpos, Int.ofNat_lt.mpr hlt⟩).1, hpos⟩
  rw [clusterCount, hused, Finset.card_image_of_injective _ Nat.cast_injective, Finset.card_range]

/-- The first core point of a cluster is the start that has its number. -/
theorem isStart_of_isLeast {c s : Nat}
    (h : IsLeast {q | g.isCore q = true ∧ ((labelAll g).map number)[q]? = some (c : Int)} s) :
    g.IsStart s ∧ g.startsBefore s = c := by
  obtain ⟨⟨hcore, hlabel⟩, hleast⟩ := h
  obtain ⟨hlt, start, hfirst, rfl⟩ := getElem?_numbers_eq_some_iff.mp hlabel
  have hstart : start < g.near.size := Neighbourhoods.lt_of_reaches hfirst.reaches hlt
  have hle : s ≤ start :=
    hleast ⟨hfirst.isCore, getElem?_numbers_of_isStart hfirst.isStart hstart⟩
  have hge : start ≤ s := not_lt.mp fun hbefore => hfirst.not_reaches s hbefore hcore .refl
  obtain rfl : s = start := hle.antisymm hge
  exact ⟨hfirst, rfl⟩

theorem numbers_labelAll (g : Neighbourhoods) : g.Numbers ((labelAll g).map number) where
  length_eq := by rw [List.length_map, length_labelAll]
  noise_iff _ hp := getElem?_numbers_eq_neg_one_iff hp
  label p hp hne := by
    rw [Ne, getElem?_numbers_eq_neg_one_iff hp] at hne
    push Not at hne
    obtain ⟨t, hcore, hreach⟩ := hne
    obtain ⟨s, -, hfirst⟩ := Neighbourhoods.exists_isFirst hcore hreach
    exact ⟨s, Neighbourhoods.isFirst_iff_isLeast.mp hfirst,
      getElem?_numbers_eq_some_iff.mpr ⟨hp, s, hfirst, rfl⟩⟩
  used_iff _ := mem_numbers_iff
  ordered c d s t hs ht := by
    obtain ⟨hstart, rfl⟩ := isStart_of_isLeast hs
    obtain ⟨-, rfl⟩ := isStart_of_isLeast ht
    exact hstart.startsBefore_lt_iff

/-- The labels of a matrix number the clusters that its columns within the radius make. -/
theorem labels_numbered {distances : List (List Float)} (radius : Float) (minSamples : Nat)
    (h : ∀ row ∈ distances, row.length ≤ distances.length) :
    let g := Neighbourhoods.of distances radius minSamples
    g.near.size = distances.length ∧
      (∀ q j, j ∈ g.of? q ↔ j ∈ columnsWithin distances radius q) ∧
      (∀ q, g.isCore q = true ↔ minSamples ≤ (columnsWithin distances radius q).ncard) ∧
      labels? distances radius minSamples = some (labels distances radius minSamples) ∧
      g.Numbers ((labels distances radius minSamples).map number) :=
  ⟨size_of distances radius minSamples, fun _ _ => mem_of?_of_iff, isCore_of_iff,
    labels?_eq_some radius minSamples h, numbers_labelAll _⟩

/-- Rows of several lengths. Two core points are near the point between them, which is near
itself only, and the last point is near none. -/
def ragged : List (List Float) := [[0.0, 0.5, 9.0, 9.0], [9.0, 0.0], [9.0, 0.5, 0.0, 9.0], []]

theorem labels_numbered_ragged :
    (∀ row ∈ ragged, row.length ≤ ragged.length) ∧
      labels? ragged 1.0 2 = some (labels ragged 1.0 2) ∧
      (Neighbourhoods.of ragged 1.0 2).Numbers ((labels ragged 1.0 2).map number) ∧
      (labels ragged 1.0 2).map number = [0, 0, 1, -1] := by
  have hrows : ∀ row ∈ ragged, row.length ≤ ragged.length := by decide
  obtain ⟨-, -, -, hsome, hnumbers⟩ := labels_numbered 1.0 2 hrows
  exact ⟨hrows, hsome, hnumbers, by decide +kernel⟩

end SurfaceDrift.Density
