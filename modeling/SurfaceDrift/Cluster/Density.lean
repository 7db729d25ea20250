/-!
# Clusters by density

A point's neighbours are the points within a radius, as a matrix of distances gives them.
A point with enough neighbours is a core point, and a cluster is what can be reached from
a core point through neighbours of core points. `labels` numbers the clusters by their
first core points; a point that no core point reaches is noise.

`grow` spreads a cluster from a queue of points. Each step takes one point off the queue
and adds only points that lose their place among the noise, so the number of points that
are queued or noise goes down (`measure_claimAll`).
-/

namespace SurfaceDrift.Density

/-- The number of a point's cluster, or none for noise. -/
abbrev Label := Option Nat

/-- The points near each point, and which points have enough of them. -/
structure Neighbourhoods where
  near : Array (List Nat)
  minSamples : Nat

/-- The places of the distances within the radius. -/
def within (radius : Float) (row : List Float) : List Nat :=
  (row.zipIdx.filter fun entry => entry.1 ≤ radius).map Prod.snd

/-- The neighbourhoods that a matrix of distances gives. -/
def Neighbourhoods.of (distances : List (List Float)) (radius : Float) (minSamples : Nat) :
    Neighbourhoods :=
  ⟨(distances.map (within radius)).toArray, minSamples⟩

/-- The neighbours of a point. -/
def Neighbourhoods.of? (g : Neighbourhoods) (point : Nat) : List Nat :=
  g.near.getD point []

/-- Whether a point has enough neighbours. -/
def Neighbourhoods.isCore (g : Neighbourhoods) (point : Nat) : Bool :=
  g.minSamples ≤ (g.of? point).length

/-! ## Growing one cluster -/

/-- The labels so far, and the points still to spread from. -/
structure Growth where
  labels : Array Label
  queue : List Nat

/-- A point joins the cluster and the queue if it is noise. -/
def claim (cluster : Nat) (s : Growth) (point : Nat) : Growth :=
  if h : point < s.labels.size then
    if s.labels[point] = none then
      ⟨s.labels.set point (some cluster) h, s.queue ++ [point]⟩
    else s
  else s

/-- Points that are noise, and places in the queue. -/
def Growth.measure (s : Growth) : Nat := s.labels.count none + s.queue.length

theorem measure_claim (cluster : Nat) (s : Growth) (point : Nat) :
    (claim cluster s point).measure = s.measure := by
  unfold claim
  split
  · next h =>
    split
    · next hn =>
      have hpos : 0 < s.labels.count none :=
        Array.count_pos_iff.mpr (hn ▸ Array.getElem_mem h)
      simp only [Growth.measure, Array.count_set, List.length_append, List.length_singleton, hn]
      simp
      omega
    · rfl
  · rfl

theorem measure_claimAll (cluster : Nat) (points : List Nat) (s : Growth) :
    (points.foldl (claim cluster) s).measure = s.measure := by
  induction points generalizing s with
  | nil => rfl
  | cons p rest ih => rw [List.foldl_cons, ih, measure_claim]

/-- One point taken off the queue : if it is core, its neighbours are claimed. -/
def spread (g : Neighbourhoods) (cluster point : Nat) (s : Growth) : Growth :=
  if g.isCore point then (g.of? point).foldl (claim cluster) s else s

theorem measure_spread (g : Neighbourhoods) (cluster point : Nat) (s : Growth) :
    (spread g cluster point s).measure = s.measure := by
  unfold spread
  split
  · exact measure_claimAll cluster _ s
  · rfl

/-- Spreads until the queue is empty. -/
def grow (g : Neighbourhoods) (cluster : Nat) (s : Growth) : Array Label :=
  match _h : s.queue with
  | [] => s.labels
  | point :: queue => grow g cluster (spread g cluster point ⟨s.labels, queue⟩)
termination_by s.measure
decreasing_by
  rw [measure_spread]
  simp [Growth.measure, _h]

/-! ## All clusters -/

/-- The labels so far, and the number of the next cluster. -/
structure Progress where
  labels : Array Label
  next : Nat

/-- A core point that is noise starts a cluster. -/
def startAt (g : Neighbourhoods) (p : Progress) (point : Nat) : Progress :=
  if h : point < p.labels.size then
    if p.labels[point] = none && g.isCore point then
      ⟨grow g p.next ⟨p.labels.set point (some p.next) h, [point]⟩, p.next + 1⟩
    else p
  else p

/-- The labels of the points, from their neighbourhoods. -/
def labelAll (g : Neighbourhoods) : List Label :=
  let points := g.near.size
  ((List.range points).foldl (startAt g) ⟨Array.replicate points none, 0⟩).labels.toList

/-- The labels of the points, from their distances. -/
def labels (distances : List (List Float)) (radius : Float) (minSamples : Nat) : List Label :=
  labelAll (Neighbourhoods.of distances radius minSamples)

/-- Whether every neighbour of a core point is a point. A row may be longer than the matrix
has rows. -/
def Neighbourhoods.isClosed (g : Neighbourhoods) : Bool :=
  (List.range g.near.size).all fun point =>
    !g.isCore point || (g.of? point).all (· < g.near.size)

/-- The labels of the points, unless a cluster would spread to a place without a point. -/
def labels? (distances : List (List Float)) (radius : Float) (minSamples : Nat) :
    Option (List Label) :=
  if (Neighbourhoods.of distances radius minSamples).isClosed then
    some (labels distances radius minSamples)
  else none

/-- A label as a number : noise is `-1`. -/
def number : Label → Int
  | none => -1
  | some cluster => cluster

end SurfaceDrift.Density
