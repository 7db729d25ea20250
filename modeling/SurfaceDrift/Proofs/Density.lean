import Mathlib.Data.List.Basic
import SurfaceDrift.Cluster.Density
import SurfaceDrift.Cluster.Point

/-!
# One label for each point

Claiming, spreading and growing write into the labels and never lengthen them, so that
there is one label for each row of the matrix (`length_labels`). A matrix with no row longer
than it has rows has all neighbours among its points (`isClosed_of`), and then `labels?`
gives the labels (`labels?_eq_some`). The matrix of the distances between points is square
(`Point.length_of_mem_distanceMatrix`), so points always have labels
(`labels?_distanceMatrix`).
-/

namespace SurfaceDrift

namespace Density

/-! ## The number of labels -/

@[simp] theorem size_claim (cluster : Nat) (s : Growth) (point : Nat) :
    (claim cluster s point).labels.size = s.labels.size := by
  unfold claim
  split_ifs <;> simp

@[simp] theorem size_claimAll (cluster : Nat) (points : List Nat) (s : Growth) :
    (points.foldl (claim cluster) s).labels.size = s.labels.size := by
  induction points generalizing s with
  | nil => rfl
  | cons p rest ih => rw [List.foldl_cons, ih, size_claim]

@[simp] theorem size_spread (g : Neighbourhoods) (cluster point : Nat) (s : Growth) :
    (spread g cluster point s).labels.size = s.labels.size := by
  unfold spread
  split_ifs
  · exact size_claimAll cluster _ s
  · rfl

@[simp] theorem size_grow (g : Neighbourhoods) (cluster : Nat) (s : Growth) :
    (grow g cluster s).size = s.labels.size := by
  induction s using grow.induct g cluster with
  | case1 s hq => rw [grow, hq]
  | case2 s point queue hq ih =>
    rw [grow, hq]
    exact ih.trans (size_spread g cluster point _)

@[simp] theorem size_startAt (g : Neighbourhoods) (p : Progress) (point : Nat) :
    (startAt g p point).labels.size = p.labels.size := by
  unfold startAt
  split_ifs <;> simp

theorem size_startAll (g : Neighbourhoods) (points : List Nat) (p : Progress) :
    (points.foldl (startAt g) p).labels.size = p.labels.size := by
  induction points generalizing p with
  | nil => rfl
  | cons point rest ih => rw [List.foldl_cons, ih, size_startAt]

theorem length_labelAll (g : Neighbourhoods) : (labelAll g).length = g.near.size := by
  simp [labelAll, size_startAll]

/-- There is one label for each row of the matrix. -/
theorem length_labels (distances : List (List Float)) (radius : Float) (minSamples : Nat) :
    (labels distances radius minSamples).length = distances.length := by
  simp [labels, length_labelAll, Neighbourhoods.of]

/-! ## Neighbours are points -/

theorem mem_within_iff {radius : Float} {row : List Float} {point : Nat} :
    point ∈ within radius row ↔ ∃ x, row[point]? = some x ∧ x ≤ radius := by
  simp only [within, List.mem_map, List.mem_filter, decide_eq_true_eq]
  constructor
  · rintro ⟨⟨x, point⟩, ⟨hmem, hx⟩, rfl⟩
    exact ⟨x, List.mk_mem_zipIdx_iff_getElem?.mp hmem, hx⟩
  · rintro ⟨x, hget, hx⟩
    exact ⟨(x, point), ⟨List.mk_mem_zipIdx_iff_getElem?.mpr hget, hx⟩, rfl⟩

/-- The neighbours of a point are the places of the distances within the radius. -/
theorem mem_of?_of_iff {distances : List (List Float)} {radius : Float} {minSamples p q : Nat} :
    q ∈ (Neighbourhoods.of distances radius minSamples).of? p ↔
      ∃ row x, distances[p]? = some row ∧ row[q]? = some x ∧ x ≤ radius := by
  simp only [Neighbourhoods.of?, Neighbourhoods.of, Array.getD_eq_getD_getElem?,
    List.getElem?_toArray, List.getElem?_map]
  cases distances[p]? with
  | none => simp
  | some row => simp [mem_within_iff]

/-- No row leads outside a matrix that has as many rows as its rows are long. -/
theorem isClosed_of {distances : List (List Float)} (radius : Float) (minSamples : Nat)
    (h : ∀ row ∈ distances, row.length ≤ distances.length) :
    (Neighbourhoods.of distances radius minSamples).isClosed = true := by
  simp only [Neighbourhoods.isClosed, List.all_eq_true, Bool.or_eq_true, decide_eq_true_eq]
  intro point _
  refine Or.inr fun neighbour hmem => ?_
  obtain ⟨row, x, hrow, hx, -⟩ := mem_of?_of_iff.mp hmem
  have hlt : neighbour < row.length := (List.getElem?_eq_some_iff.mp hx).1
  have hsize : (Neighbourhoods.of distances radius minSamples).near.size = distances.length := by
    simp [Neighbourhoods.of]
  rw [hsize]
  exact Nat.lt_of_lt_of_le hlt (h row (List.mem_of_getElem? hrow))

theorem labels?_eq_some {distances : List (List Float)} (radius : Float) (minSamples : Nat)
    (h : ∀ row ∈ distances, row.length ≤ distances.length) :
    labels? distances radius minSamples = some (labels distances radius minSamples) :=
  if_pos (isClosed_of radius minSamples h)

end Density

namespace Point

@[simp] theorem length_distanceMatrix (points : List Point) :
    (distanceMatrix points).length = points.length := by
  simp [distanceMatrix]

/-- The matrix of distances is square. -/
theorem length_of_mem_distanceMatrix {points : List Point} {row : List Float}
    (h : row ∈ distanceMatrix points) : row.length = points.length := by
  obtain ⟨entry, -, rfl⟩ := List.mem_map.mp h
  simp [distanceRow]

theorem getElem?_distanceMatrix {points : List Point} {p : Nat} {a : Point}
    (h : points[p]? = some a) : (distanceMatrix points)[p]? = some (distanceRow points p a) := by
  simp [distanceMatrix, List.getElem?_zipIdx, h]

theorem getElem?_distanceRow {points : List Point} {p q : Nat} {a b : Point}
    (h : points[q]? = some b) :
    (distanceRow points p a)[q]? = some (if p = q then 0.0 else distance a b) := by
  simp [distanceRow, List.getElem?_zipIdx, h]

end Point

/-- No cluster of points spreads to a place without one. -/
theorem Density.labels?_distanceMatrix (points : List Point) (radius : Float) (minSamples : Nat) :
    labels? (Point.distanceMatrix points) radius minSamples =
      some (labels (Point.distanceMatrix points) radius minSamples) := by
  refine labels?_eq_some radius minSamples fun row hrow => ?_
  rw [Point.length_distanceMatrix]
  exact Nat.le_of_eq (Point.length_of_mem_distanceMatrix hrow)

end SurfaceDrift
