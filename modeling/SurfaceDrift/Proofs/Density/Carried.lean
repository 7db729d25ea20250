import Mathlib.Combinatorics.Enumerative.DoubleCounting
import SurfaceDrift.Proofs.Density.Numbering

/-!
# Neighbourhoods carried to others

A function carries the points of some neighbourhoods to those of others
(`Neighbourhoods.Carries`) if it takes neighbours to neighbours and core points to core points.
Paths go along (`Carries.reaches`), so a point that is not noise is taken to one that is not
noise (`Carries.ne_noise`). Where neighbours are mutual, core points share a number exactly if
they reach each other (`reaches_of_numbers_eq`, `numbers_eq_of_reaches`), so that core points of
one cluster are taken into one cluster (`Carries.numbers_eq`), and starts that are taken to one
cluster were in one cluster before if there is a way back (`Carries.startsBefore_le`).

A wider radius and a smaller number of neighbours that a core point needs carry every point to
itself (`carries_of_le`). So they keep points from becoming noise and clusters from falling apart
(`labels_loosened`).
-/

namespace SurfaceDrift.Density

/-! ## Mutual neighbours -/

namespace Neighbourhoods

variable {g h : Neighbourhoods} {f : Nat → Nat} {p q s : Nat}

/-- A neighbour has its neighbours for neighbours. -/
def IsMutual (g : Neighbourhoods) : Prop := ∀ p q, q ∈ g.of? p → p ∈ g.of? q

/-- A path to a core point leads back where neighbours are mutual. -/
theorem IsMutual.reaches_symm (hg : g.IsMutual) (hcore : g.isCore q = true)
    (hreach : g.Reaches p q) : g.Reaches q p := by
  induction hreach with
  | refl => exact .refl
  | tail _ hleads ih => exact .head ⟨hcore, hg _ _ hleads.2⟩ (ih hleads.1)

/-- Core points with the same first core point reach each other. -/
theorem IsMutual.reaches_of_isFirst (hg : g.IsMutual) (hcore : g.isCore p = true)
    (hp : g.IsFirst s p) (hq : g.IsFirst s q) : g.Reaches p q :=
  (hg.reaches_symm hcore hp.reaches).trans hq.reaches

theorem IsStart.eq_of_reaches (hs : g.IsStart s) (hp : g.IsStart p) (hsp : g.Reaches s p)
    (hps : g.Reaches p s) : s = p :=
  (hs.of_reaches hsp hps).unique hp

/-! ## Points taken along -/

/-- `f` takes neighbours to neighbours and core points to core points. -/
structure Carries (f : Nat → Nat) (g h : Neighbourhoods) : Prop where
  lt : ∀ p < g.near.size, f p < h.near.size
  isCore : ∀ p < g.near.size, g.isCore p = true → h.isCore (f p) = true
  near : ∀ p q, q ∈ g.of? p → f q ∈ h.of? (f p)

/-- Core points go along by themselves if neighbours stay apart and no more of them are needed. -/
theorem Carries.of_near (hlt : ∀ p < g.near.size, f p < h.near.size)
    (hnear : ∀ p q, q ∈ g.of? p → f q ∈ h.of? (f p)) (hf : Function.Injective f)
    (hnodup : ∀ p, (g.of? p).Nodup) (hmin : h.minSamples ≤ g.minSamples) : Carries f g h := by
  refine ⟨hlt, fun p _ hcore => ?_, hnear⟩
  have hsubset : (g.of? p).map f ⊆ h.of? (f p) := by
    intro q hq
    obtain ⟨r, hr, rfl⟩ := List.mem_map.mp hq
    exact hnear p r hr
  have hlength : ((g.of? p).map f).length ≤ (h.of? (f p)).length :=
    (List.subperm_of_subset ((hnodup p).map hf) hsubset).length_le
  rw [List.length_map] at hlength
  exact decide_eq_true ((hmin.trans (of_decide_eq_true hcore)).trans hlength)

theorem Carries.leads (hf : Carries f g h) (hleads : g.Leads p q) : h.Leads (f p) (f q) :=
  ⟨hf.isCore p (lt_of_leads hleads) hleads.1, hf.near p q hleads.2⟩

theorem Carries.reaches (hf : Carries f g h) (hreach : g.Reaches p q) :
    h.Reaches (f p) (f q) :=
  hreach.lift f fun _ _ => hf.leads

/-- There are no more starts than where they are taken, if there is a way back. -/
theorem Carries.startsBefore_le {back : Nat → Nat} (hf : Carries f g h)
    (hback : Carries back h g) (hinverse : ∀ p, back (f p) = p) (hh : h.IsMutual) :
    g.startsBefore g.near.size ≤ h.startsBefore h.near.size := by
  classical
  rw [startsBefore, startsBefore, Nat.count_eq_card_filter_range, Nat.count_eq_card_filter_range]
  refine Finset.card_le_card_of_forall_subsingleton (fun s t => h.IsFirst t (f s))
    (fun s hs => ?_) fun t _ => ?_
  · obtain ⟨hlt, hstart⟩ := Finset.mem_filter.mp hs
    have hlt := Finset.mem_range.mp hlt
    obtain ⟨t, -, hfirst⟩ := exists_isFirst (hf.isCore s hlt hstart.isCore) .refl
    have ht : t < h.near.size := lt_of_reaches hfirst.reaches (hf.lt s hlt)
    exact ⟨t, Finset.mem_filter.mpr ⟨Finset.mem_range.mpr ht, hfirst.isStart⟩, hfirst⟩
  · rintro s ⟨hs, hsfirst⟩ r ⟨hr, hrfirst⟩
    obtain ⟨hslt, hsstart⟩ := Finset.mem_filter.mp hs
    obtain ⟨hrlt, hrstart⟩ := Finset.mem_filter.mp hr
    have hscore := hf.isCore s (Finset.mem_range.mp hslt) hsstart.isCore
    have hrcore := hf.isCore r (Finset.mem_range.mp hrlt) hrstart.isCore
    have hsr := hback.reaches (hh.reaches_of_isFirst hscore hsfirst hrfirst)
    have hrs := hback.reaches (hh.reaches_of_isFirst hrcore hrfirst hsfirst)
    rw [hinverse, hinverse] at hsr hrs
    exact hsstart.eq_of_reaches hrstart hsr hrs

end Neighbourhoods

/-! ## Labels taken along -/

open Neighbourhoods

variable {g h : Neighbourhoods} {f : Nat → Nat} {p q : Nat}

/-- A core point and a point that it reaches and that reaches it back share a number. -/
theorem numbers_eq_of_reaches (hp : p < g.near.size) (hcore : g.isCore p = true)
    (hpq : g.Reaches p q) (hqp : g.Reaches q p) :
    ((labelAll g).map number)[p]? = ((labelAll g).map number)[q]? := by
  obtain ⟨c, hc⟩ := exists_label_of_isCore hp hcore
  rw [List.getElem?_map, List.getElem?_map, hc p .refl .refl, hc q hpq hqp]

/-- Core points that share a number reach each other. -/
theorem reaches_of_numbers_eq (hg : g.IsMutual) (hp : p < g.near.size)
    (hpcore : g.isCore p = true)
    (heq : ((labelAll g).map number)[p]? = ((labelAll g).map number)[q]?) :
    g.Reaches p q := by
  obtain ⟨s, -, hs⟩ := exists_isFirst hpcore .refl
  have hpnumber := getElem?_numbers_eq_some_iff.mpr ⟨hp, s, hs, rfl⟩
  obtain ⟨-, t, ht, hnumber⟩ := getElem?_numbers_eq_some_iff.mp (heq.symm.trans hpnumber)
  obtain rfl : s = t := hs.isStart.eq_of_startsBefore_eq ht.isStart hnumber
  exact hg.reaches_of_isFirst hpcore hs ht

/-- Noise only comes from noise. -/
theorem Neighbourhoods.Carries.ne_noise (hf : Carries f g h) (hp : p < g.near.size)
    (hne : ((labelAll g).map number)[p]? ≠ some (-1)) :
    ((labelAll h).map number)[f p]? ≠ some (-1) := by
  rw [Ne, getElem?_numbers_eq_neg_one_iff hp] at hne
  rw [Ne, getElem?_numbers_eq_neg_one_iff (hf.lt p hp)]
  push Not at hne ⊢
  obtain ⟨s, hcore, hreach⟩ := hne
  exact ⟨f s, hf.isCore s (lt_of_reaches hreach hp) hcore, hf.reaches hreach⟩

/-- Core points of one cluster are taken into one cluster. -/
theorem Neighbourhoods.Carries.numbers_eq (hf : Carries f g h) (hg : g.IsMutual)
    (hp : p < g.near.size) (hpcore : g.isCore p = true) (hqcore : g.isCore q = true)
    (heq : ((labelAll g).map number)[p]? = ((labelAll g).map number)[q]?) :
    ((labelAll h).map number)[f p]? = ((labelAll h).map number)[f q]? := by
  have hreach := reaches_of_numbers_eq hg hp hpcore heq
  exact numbers_eq_of_reaches (hf.lt p hp) (hf.isCore p hp hpcore) (hf.reaches hreach)
    (hf.reaches (hg.reaches_symm hqcore hreach))

/-! ## A wider radius, fewer neighbours -/

variable {distances : List (List Float)} {radius wider : Float} {minSamples fewer : Nat}

/-- Of two points each is within a radius of the other or neither is. -/
def IsSymmetric (distances : List (List Float)) : Prop :=
  ∀ radius p q, q ∈ columnsWithin distances radius p → p ∈ columnsWithin distances radius q

/-- A matrix is symmetric if it has equal entries across its diagonal. -/
theorem isSymmetric_of_eq (hrows : ∀ row ∈ distances, row.length ≤ distances.length)
    (h : ∀ p < distances.length, ∀ q < distances.length,
      (distances[p]?).bind (·[q]?) = (distances[q]?).bind (·[p]?)) : IsSymmetric distances := by
  rintro radius p q ⟨row, x, hrow, hx, hle⟩
  have hp : p < distances.length := (List.getElem?_eq_some_iff.mp hrow).1
  have hq : q < distances.length := Nat.lt_of_lt_of_le (List.getElem?_eq_some_iff.mp hx).1
    (hrows row (List.mem_of_getElem? hrow))
  have hentry : (distances[q]?).bind (·[p]?) = some x := by
    rw [← h p hp q hq, hrow, Option.bind_some, hx]
  obtain ⟨facing, hfacing, hx'⟩ := Option.bind_eq_some_iff.mp hentry
  exact ⟨facing, x, hfacing, hx', hle⟩

theorem IsSymmetric.isMutual (h : IsSymmetric distances) (radius : Float) (minSamples : Nat) :
    (Neighbourhoods.of distances radius minSamples).IsMutual :=
  fun p q hq => mem_of?_of_iff.mpr (h radius p q (mem_of?_of_iff.mp hq))

theorem carries_of_le (hradius : ∀ row ∈ distances, ∀ x ∈ row, x ≤ radius → x ≤ wider)
    (hmin : fewer ≤ minSamples) :
    Carries id (Neighbourhoods.of distances radius minSamples)
      (Neighbourhoods.of distances wider fewer) := by
  refine Carries.of_near (fun p hp => ?_) (fun p q hq => ?_) Function.injective_id nodup_of? hmin
  · rwa [size_of] at hp ⊢
  · obtain ⟨row, x, hrow, hx, hle⟩ := mem_of?_of_iff.mp hq
    exact mem_of?_of_iff.mpr ⟨row, x, hrow, hx,
      hradius row (List.mem_of_getElem? hrow) x (List.mem_of_getElem? hx) hle⟩

/-- With a wider radius and fewer neighbours needed no point becomes noise, and no two core
points of one cluster of a symmetric matrix come apart. -/
theorem labels_loosened (hsquare : ∀ row ∈ distances, row.length = distances.length)
    (hradius : ∀ row ∈ distances, ∀ x ∈ row, x ≤ radius → x ≤ wider)
    (hmin : fewer ≤ minSamples) :
    let g := Neighbourhoods.of distances radius minSamples
    let found := (labels distances radius minSamples).map number
    let loosened := (labels distances wider fewer).map number
    labels? distances radius minSamples = some (labels distances radius minSamples) ∧
      labels? distances wider fewer = some (labels distances wider fewer) ∧
      (∀ p < distances.length, found[p]? ≠ some (-1) → loosened[p]? ≠ some (-1)) ∧
      (IsSymmetric distances → ∀ p < distances.length, ∀ q < distances.length,
        g.isCore p = true → g.isCore q = true → found[p]? = found[q]? →
          loosened[p]? = loosened[q]?) := by
  have hcarries := carries_of_le hradius hmin
  have hrows : ∀ row ∈ distances, row.length ≤ distances.length := fun row hrow =>
    (hsquare row hrow).le
  refine ⟨labels?_eq_some radius minSamples hrows, labels?_eq_some wider fewer hrows,
    fun p hp => hcarries.ne_noise (size_of distances radius minSamples ▸ hp),
    fun hsymm p hp q _ => ?_⟩
  exact hcarries.numbers_eq (hsymm.isMutual radius minSamples)
    (size_of distances radius minSamples ▸ hp)

/-- The distances between 0, 0.25, 1, 1.25 and 3. -/
def spaced : List (List Float) := [[0.0, 0.25, 1.0, 1.25, 3.0], [0.25, 0.0, 0.75, 1.0, 2.75],
  [1.0, 0.75, 0.0, 0.25, 2.0], [1.25, 1.0, 0.25, 0.0, 1.75], [3.0, 2.75, 2.0, 1.75, 0.0]]

theorem labels_loosened_spaced :
    (∀ row ∈ spaced, row.length = spaced.length) ∧
      (∀ row ∈ spaced, ∀ x ∈ row, x ≤ 0.5 → x ≤ 0.75) ∧ IsSymmetric spaced ∧
      (labels spaced 0.5 2).map number = [0, 0, 1, 1, -1] ∧
      (∀ p < 4, ((labels spaced 0.75 1).map number)[p]? ≠ some (-1)) ∧
      ((labels spaced 0.75 1).map number)[2]? = ((labels spaced 0.75 1).map number)[3]? := by
  have hsquare : ∀ row ∈ spaced, row.length = spaced.length := by decide
  have hradius : ∀ row ∈ spaced, ∀ x ∈ row, x ≤ 0.5 → x ≤ 0.75 := by decide +kernel
  have hsymm : IsSymmetric spaced :=
    isSymmetric_of_eq (fun row hrow => (hsquare row hrow).le) (by decide +kernel)
  have hfound : (labels spaced 0.5 2).map number = [0, 0, 1, 1, -1] := by decide +kernel
  have hclustered : ∀ p < 4, ((labels spaced 0.5 2).map number)[p]? ≠ some (-1) := by
    rw [hfound]
    decide
  obtain ⟨-, -, hnoise, hshared⟩ := labels_loosened hsquare hradius (Nat.le_succ 1)
  refine ⟨hsquare, hradius, hsymm, hfound, fun p hp => ?_, ?_⟩
  · exact hnoise p (Nat.lt_succ_of_lt hp) (hclustered p hp)
  · refine hshared hsymm 2 (by decide) 3 (by decide) (by decide +kernel) (by decide +kernel) ?_
    rw [hfound]
    rfl

end SurfaceDrift.Density
