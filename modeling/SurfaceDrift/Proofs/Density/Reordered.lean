import Mathlib.Data.List.OfFn
import Mathlib.Logic.Equiv.Fin.Basic
import SurfaceDrift.Proofs.Decimal.Square
import SurfaceDrift.Proofs.Density.Carried
import SurfaceDrift.Proofs.Text.Scripts

/-!
# Points in another order

The distance between two points is the same from either end (`Point.distance_comm`), so
neighbours in a matrix of distances are mutual (`isMutual_distanceMatrix`). Points in another
order have the same distances in that order, and a permutation carries their neighbourhoods to
those of the points as they were (`carries_reordered`), and its inverse carries them back.
Hence the labels of points in another order (`labels_reordered`) have noise for the same points,
as many clusters, and core points in one cluster exactly if they were in one before. What may
change are the numbers of the clusters, and which of several clusters a point joins that is no
core point itself.
-/

namespace SurfaceDrift

/-! ## Distances from either end -/

theorem Text.relativeEditDistance_comm (a b : String) :
    relativeEditDistance a b = relativeEditDistance b a := by
  rw [relativeEditDistance, relativeEditDistance, Nat.max_comm, editDistance_comm]

theorem Point.distance_comm (a b : Point) : distance a b = distance b a := by
  rcases a with x | s <;> rcases b with y | t
  · simp only [distance, eq_comm (a := y.length), euclidean_comm y,
      Text.relativeEditDistance_comm (vector y).toText]
  all_goals exact Text.relativeEditDistance_comm _ _

namespace Density

open Neighbourhoods Point

variable {n : ℕ}

/-- The entry of the matrix of distances for two points. -/
def distanceAt (points : Fin n → Point) (i j : Fin n) : Float :=
  if i = j then 0.0 else distance (points i) (points j)

theorem distanceAt_comm (points : Fin n → Point) (i j : Fin n) :
    distanceAt points i j = distanceAt points j i := by
  simp only [distanceAt, eq_comm (a := i), distance_comm (points i)]

theorem distanceAt_comp (points : Fin n → Point) (σ : Equiv.Perm (Fin n)) (i j : Fin n) :
    distanceAt (fun k => points (σ k)) i j = distanceAt points (σ i) (σ j) := by
  simp only [distanceAt, σ.injective.eq_iff]

/-! ## Neighbourhoods of points -/

/-- The neighbourhoods that the distances between points give. -/
def around (points : Fin n → Point) (radius : Float) (minSamples : Nat) : Neighbourhoods :=
  Neighbourhoods.of (distanceMatrix (List.ofFn points)) radius minSamples

theorem size_around (points : Fin n → Point) (radius : Float) (minSamples : Nat) :
    (around points radius minSamples).near.size = n := by
  rw [around, size_of, length_distanceMatrix, List.length_ofFn]

theorem val_lt_size_around (points : Fin n → Point) (radius : Float) (minSamples : Nat)
    (i : Fin n) : i.1 < (around points radius minSamples).near.size :=
  (size_around points radius minSamples).symm ▸ i.2

theorem mem_of?_around_iff {points : Fin n → Point} {radius : Float} {minSamples p q : Nat} :
    q ∈ (around points radius minSamples).of? p ↔
      ∃ i j : Fin n, p = i ∧ q = j ∧ distanceAt points i j ≤ radius := by
  have hentry : ∀ i j : Fin n, ∃ row, (distanceMatrix (List.ofFn points))[i.1]? = some row ∧
      row[j.1]? = some (distanceAt points i j) := by
    intro i j
    have hpoint : ∀ k : Fin n, (List.ofFn points)[k.1]? = some (points k) := by simp
    refine ⟨_, getElem?_distanceMatrix (hpoint i), ?_⟩
    rw [getElem?_distanceRow (hpoint j), distanceAt]
    simp only [Fin.ext_iff]
  rw [around, mem_of?_of_iff]
  constructor
  · rintro ⟨row, x, hrow, hx, hle⟩
    have hp : p < n := by
      simpa using (List.getElem?_eq_some_iff.mp hrow).1
    have hq : q < n := by
      have hlength := length_of_mem_distanceMatrix (List.mem_of_getElem? hrow)
      rw [List.length_ofFn] at hlength
      exact hlength ▸ (List.getElem?_eq_some_iff.mp hx).1
    obtain ⟨row', hrow', hx'⟩ := hentry ⟨p, hp⟩ ⟨q, hq⟩
    obtain rfl := Option.some.inj (hrow.symm.trans hrow')
    obtain rfl := Option.some.inj (hx.symm.trans hx')
    exact ⟨⟨p, hp⟩, ⟨q, hq⟩, rfl, rfl, hle⟩
  · rintro ⟨i, j, rfl, rfl, hle⟩
    obtain ⟨row, hrow, hx⟩ := hentry i j
    exact ⟨row, _, hrow, hx, hle⟩

theorem isMutual_around (points : Fin n → Point) (radius : Float) (minSamples : Nat) :
    (around points radius minSamples).IsMutual := by
  intro p q hq
  obtain ⟨i, j, rfl, rfl, hle⟩ := mem_of?_around_iff.mp hq
  exact mem_of?_around_iff.mpr ⟨j, i, rfl, rfl, distanceAt_comm points i j ▸ hle⟩

/-! ## Another order -/

/-- The permutation of the places of points, which leaves all other numbers. -/
def placeOf (σ : Equiv.Perm (Fin n)) : Equiv.Perm Nat := σ.extendDomain Fin.equivSubtype

theorem placeOf_val (σ : Equiv.Perm (Fin n)) (i : Fin n) : placeOf σ i = σ i :=
  Equiv.Perm.extendDomain_apply_image σ Fin.equivSubtype i

theorem placeOf_symm (σ : Equiv.Perm (Fin n)) : (placeOf σ).symm = placeOf σ.symm :=
  Equiv.Perm.extendDomain_symm σ Fin.equivSubtype

theorem placeOf_symm_val (σ : Equiv.Perm (Fin n)) (i : Fin n) : (placeOf σ).symm (σ i) = i :=
  (placeOf σ).symm_apply_eq.mpr (placeOf_val σ i).symm

variable (points : Fin n → Point) (σ : Equiv.Perm (Fin n)) (radius : Float) (minSamples : Nat)

/-- The neighbourhoods of points in another order are carried to those of the points. -/
theorem carries_reordered :
    Carries (placeOf σ) (around (fun i => points (σ i)) radius minSamples)
      (around points radius minSamples) := by
  refine Carries.of_near (fun p hp => ?_) (fun p q hq => ?_) (placeOf σ).injective
    (fun p => nodup_of? p) le_rfl
  · rw [size_around] at hp ⊢
    exact placeOf_val σ ⟨p, hp⟩ ▸ (σ ⟨p, hp⟩).2
  · obtain ⟨i, j, rfl, rfl, hle⟩ := mem_of?_around_iff.mp hq
    rw [distanceAt_comp] at hle
    exact mem_of?_around_iff.mpr ⟨σ i, σ j, placeOf_val σ i, placeOf_val σ j, hle⟩

theorem carries_back :
    Carries (placeOf σ).symm (around points radius minSamples)
      (around (fun i => points (σ i)) radius minSamples) := by
  have hback := carries_reordered (fun i => points (σ i)) σ.symm radius minSamples
  simpa only [Equiv.apply_symm_apply, placeOf_symm] using hback

theorem isCore_reordered (i : Fin n) :
    (around (fun k => points (σ k)) radius minSamples).isCore i =
      (around points radius minSamples).isCore (σ i) := by
  refine Bool.eq_iff_iff.mpr ⟨fun h => ?_, fun h => ?_⟩
  · exact placeOf_val σ i ▸ (carries_reordered points σ radius minSamples).isCore i
      (val_lt_size_around _ radius minSamples i) h
  · exact placeOf_symm_val σ i ▸ (carries_back points σ radius minSamples).isCore (σ i)
      (val_lt_size_around points radius minSamples (σ i)) h

/-- The numbers of the points' clusters. -/
def numbersOf (points : Fin n → Point) (radius : Float) (minSamples : Nat) : List Int :=
  (labels (distanceMatrix (List.ofFn points)) radius minSamples).map number

theorem noise_reordered_iff (i : Fin n) :
    (numbersOf (fun k => points (σ k)) radius minSamples)[i.1]? = some (-1) ↔
      (numbersOf points radius minSamples)[(σ i).1]? = some (-1) := by
  refine not_iff_not.mp ⟨fun hne => ?_, fun hne => ?_⟩
  · exact placeOf_val σ i ▸ (carries_reordered points σ radius minSamples).ne_noise
      (val_lt_size_around _ radius minSamples i) hne
  · exact placeOf_symm_val σ i ▸ (carries_back points σ radius minSamples).ne_noise
      (val_lt_size_around points radius minSamples (σ i)) hne

theorem clusterCount_reordered :
    clusterCount (numbersOf (fun k => points (σ k)) radius minSamples) =
      clusterCount (numbersOf points radius minSamples) := by
  have hforth := carries_reordered points σ radius minSamples
  have hback := carries_back points σ radius minSamples
  refine (clusterCount_numbers _).trans (Eq.trans ?_ (clusterCount_numbers _).symm)
  exact le_antisymm
    (hforth.startsBefore_le hback (placeOf σ).symm_apply_apply (isMutual_around _ _ _))
    (hback.startsBefore_le hforth (placeOf σ).apply_symm_apply (isMutual_around _ _ _))

/-- Core points share a cluster in one order exactly if they do in the other. -/
theorem numbers_reordered_iff {i j : Fin n}
    (hi : (around points radius minSamples).isCore (σ i) = true)
    (hj : (around points radius minSamples).isCore (σ j) = true) :
    (numbersOf (fun k => points (σ k)) radius minSamples)[i.1]? =
        (numbersOf (fun k => points (σ k)) radius minSamples)[j.1]? ↔
      (numbersOf points radius minSamples)[(σ i).1]? =
        (numbersOf points radius minSamples)[(σ j).1]? := by
  constructor
  · intro heq
    rw [← isCore_reordered] at hi hj
    have hshared := (carries_reordered points σ radius minSamples).numbers_eq
      (isMutual_around _ _ _) (val_lt_size_around _ radius minSamples i) hi hj heq
    rwa [placeOf_val, placeOf_val] at hshared
  · intro heq
    have hshared := (carries_back points σ radius minSamples).numbers_eq
      (isMutual_around _ _ _) (val_lt_size_around points radius minSamples (σ i)) hi hj heq
    rwa [placeOf_symm_val, placeOf_symm_val] at hshared

/-- Points in another order : the same points are core points and the same are noise, there are
as many clusters, and core points share a cluster exactly if they did before. -/
theorem labels_reordered :
    ∃ before after,
      labels? (distanceMatrix (List.ofFn points)) radius minSamples = some before ∧
      labels? (distanceMatrix (List.ofFn fun i => points (σ i))) radius minSamples = some after ∧
      (∀ i : Fin n, (around (fun k => points (σ k)) radius minSamples).isCore i =
        (around points radius minSamples).isCore (σ i)) ∧
      (∀ i : Fin n, (after.map number)[i.1]? = some (-1) ↔
        (before.map number)[(σ i).1]? = some (-1)) ∧
      clusterCount (after.map number) = clusterCount (before.map number) ∧
      ∀ i j : Fin n, (around points radius minSamples).isCore (σ i) = true →
        (around points radius minSamples).isCore (σ j) = true →
          ((after.map number)[i.1]? = (after.map number)[j.1]? ↔
            (before.map number)[(σ i).1]? = (before.map number)[(σ j).1]?) :=
  ⟨_, _, labels?_distanceMatrix _ radius minSamples, labels?_distanceMatrix _ radius minSamples,
    isCore_reordered points σ radius minSamples, noise_reordered_iff points σ radius minSamples,
    clusterCount_reordered points σ radius minSamples,
    fun _ _ => numbers_reordered_iff points σ radius minSamples⟩

end Density

end SurfaceDrift
