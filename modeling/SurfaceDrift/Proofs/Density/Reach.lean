import Mathlib.Data.Nat.Count
import Mathlib.Logic.Relation
import SurfaceDrift.Proofs.Density

/-!
# Clusters by reachability

A core point leads to its neighbours (`Neighbourhoods.Leads`), and it reaches what a path of
such steps ends at (`Neighbourhoods.Reaches`). A start is a core point that no core point
before it reaches. `labelAll` numbers the starts, and a point's label is the number of the
first core point that reaches it (`getElem?_labelAll_eq_some_iff`); only a point that none
reaches is noise (`getElem?_labelAll_eq_none_iff`). Neighbourhoods need not be mutual.

Growing a cluster keeps `Grows` : new labels are those of points that the start reaches, and
a labelled point is spread from or still queued. Once the queue is empty the labels are
closed, and closed labels hold all that is reached from them. So a point that is still noise
when its turn comes is a start, which makes `Placed` hold from one point to the next.
-/

namespace SurfaceDrift.Density

/-! ## Paths of core points -/

namespace Neighbourhoods

variable {g : Neighbourhoods} {p q s t : Nat}

/-- A core point leads to its neighbours. -/
def Leads (g : Neighbourhoods) (p q : Nat) : Prop := g.isCore p = true ∧ q ∈ g.of? p

instance (g : Neighbourhoods) (p q : Nat) : Decidable (g.Leads p q) :=
  inferInstanceAs (Decidable (_ ∧ _))

/-- There is a path from one point to the other on which every point leads to the next. -/
def Reaches (g : Neighbourhoods) : Nat → Nat → Prop := Relation.ReflTransGen g.Leads

/-- `s` is the first core point that reaches `q`. -/
structure IsFirst (g : Neighbourhoods) (s q : Nat) : Prop where
  isCore : g.isCore s = true
  reaches : g.Reaches s q
  not_reaches : ∀ t < s, g.isCore t = true → ¬ g.Reaches t q

/-- A core point that no core point before it reaches. -/
def IsStart (g : Neighbourhoods) (s : Nat) : Prop := g.IsFirst s s

open Classical in
/-- The number of starts before a point. -/
noncomputable def startsBefore (g : Neighbourhoods) (point : Nat) : Nat :=
  Nat.count g.IsStart point

theorem lt_of_leads (h : g.Leads p q) : p < g.near.size := by
  by_contra hp
  have hnone : g.of? p = [] := Array.getD_eq_getD_getElem?.trans (by simp [hp])
  have hmem := h.2
  rw [hnone] at hmem
  cases hmem

/-- What is reached from the places without a point is nothing but themselves. -/
theorem lt_of_reaches (h : g.Reaches s q) (hq : q < g.near.size) : s < g.near.size := by
  rcases h.cases_head with rfl | ⟨next, hnext, -⟩
  · exact hq
  · exact lt_of_leads hnext

theorem IsFirst.isStart (h : g.IsFirst s q) : g.IsStart s :=
  ⟨h.isCore, .refl, fun t ht hcore hreach => h.not_reaches t ht hcore (hreach.trans h.reaches)⟩

/-- Points that reach each other have the same first core point. -/
theorem IsFirst.of_reaches (h : g.IsFirst s p) (hpq : g.Reaches p q) (hqp : g.Reaches q p) :
    g.IsFirst s q :=
  ⟨h.isCore, h.reaches.trans hpq, fun t ht hcore hreach => h.not_reaches t ht hcore
    (hreach.trans hqp)⟩

theorem IsFirst.unique (hs : g.IsFirst s q) (ht : g.IsFirst t q) : s = t := by
  rcases lt_trichotomy s t with hlt | heq | hgt
  · exact absurd hs.reaches (ht.not_reaches s hlt hs.isCore)
  · exact heq
  · exact absurd ht.reaches (hs.not_reaches t hgt ht.isCore)

/-- If a core point reaches a point, some core point is the first that does. -/
theorem exists_isFirst (hcore : g.isCore t = true) (h : g.Reaches t q) :
    ∃ s ≤ t, g.IsFirst s q := by
  classical
  have hsome : ∃ u, g.isCore u = true ∧ g.Reaches u q := ⟨t, hcore, h⟩
  obtain ⟨hfirst, hreach⟩ := Nat.find_spec hsome
  exact ⟨Nat.find hsome, Nat.find_min' hsome ⟨hcore, h⟩, hfirst, hreach,
    fun u hu hucore hureach => Nat.find_min hsome hu ⟨hucore, hureach⟩⟩

theorem startsBefore_succ_of_isStart (h : g.IsStart s) :
    g.startsBefore (s + 1) = g.startsBefore s + 1 := by
  simp [startsBefore, Nat.count_succ, h]

theorem startsBefore_succ_of_not_isStart (h : ¬ g.IsStart s) :
    g.startsBefore (s + 1) = g.startsBefore s := by
  simp [startsBefore, Nat.count_succ, h]

end Neighbourhoods

/-! ## Labels one by one -/

variable {g : Neighbourhoods} {cluster seed : Nat}

/-- The label at a place, none where there is no point. -/
def labelAt (labels : Array Label) (q : Nat) : Label := labels.getD q none

theorem labelAt_of_lt {labels : Array Label} {q : Nat} (h : q < labels.size) :
    labelAt labels q = labels[q] := by
  simp [labelAt, Array.getD, h]

theorem labelAt_set (labels : Array Label) (p q : Nat) (h : p < labels.size) (label : Label) :
    labelAt (labels.set p label h) q = if p = q then label else labelAt labels q := by
  simp only [labelAt, Array.getD_eq_getD_getElem?, Array.getElem?_set]
  split_ifs <;> rfl

/-- The place has a point, and the point is noise. -/
def IsNoise (labels : Array Label) (q : Nat) : Prop := q < labels.size ∧ labelAt labels q = none

instance (labels : Array Label) (q : Nat) : Decidable (IsNoise labels q) :=
  inferInstanceAs (Decidable (_ ∧ _))

theorem claim_of_isNoise {s : Growth} {p : Nat} (h : IsNoise s.labels p) (cluster : Nat) :
    claim cluster s p = ⟨s.labels.set p (some cluster) h.1, s.queue ++ [p]⟩ := by
  rw [claim, dif_pos h.1, if_pos ((labelAt_of_lt h.1).symm.trans h.2)]

theorem claim_of_not_isNoise {s : Growth} {p : Nat} (h : ¬ IsNoise s.labels p) (cluster : Nat) :
    claim cluster s p = s := by
  unfold claim
  split_ifs with hp hnone
  · exact absurd ⟨hp, (labelAt_of_lt hp).trans hnone⟩ h
  · rfl
  · rfl

theorem labelAt_claim (cluster : Nat) (s : Growth) (p q : Nat) :
    labelAt (claim cluster s p).labels q =
      if p = q ∧ IsNoise s.labels q then some cluster else labelAt s.labels q := by
  by_cases hp : IsNoise s.labels p
  · rw [claim_of_isNoise hp, labelAt_set]
    by_cases hq : p = q
    · rw [if_pos hq, if_pos ⟨hq, hq ▸ hp⟩]
    · rw [if_neg hq, if_neg fun h => hq h.1]
  · rw [claim_of_not_isNoise hp, if_neg]
    rintro ⟨rfl, h⟩
    exact hp h

theorem mem_queue_claim (cluster : Nat) (s : Growth) (p q : Nat) :
    q ∈ (claim cluster s p).queue ↔ q ∈ s.queue ∨ p = q ∧ IsNoise s.labels q := by
  by_cases hp : IsNoise s.labels p
  · rw [claim_of_isNoise hp, List.mem_append, List.mem_singleton, eq_comm (a := q)]
    exact or_congr_right ⟨fun h => ⟨h, h ▸ hp⟩, And.left⟩
  · rw [claim_of_not_isNoise hp, eq_comm, or_iff_left]
    rintro ⟨rfl, h⟩
    exact hp h

theorem isNoise_claim (cluster : Nat) (s : Growth) (p q : Nat) :
    IsNoise (claim cluster s p).labels q ↔ p ≠ q ∧ IsNoise s.labels q := by
  rw [IsNoise, size_claim, labelAt_claim]
  split_ifs with h
  · simp [h]
  · rw [← IsNoise]
    exact ⟨fun hq => ⟨fun hpq => h ⟨hpq, hq⟩, hq⟩, And.right⟩

/-- Of some points exactly those that are noise join the cluster. -/
theorem labelAt_claimAll (cluster : Nat) (points : List Nat) (s : Growth) (q : Nat) :
    labelAt (points.foldl (claim cluster) s).labels q =
      if q ∈ points ∧ IsNoise s.labels q then some cluster else labelAt s.labels q := by
  induction points generalizing s with
  | nil => simp
  | cons p rest ih =>
    rw [List.foldl_cons, ih]
    simp only [isNoise_claim, labelAt_claim, List.mem_cons]
    by_cases hq : IsNoise s.labels q
    · by_cases hp : p = q
      · simp [hp, hq]
      · simp [hp, Ne.symm hp, hq]
    · simp [hq]

theorem mem_queue_claimAll (cluster : Nat) (points : List Nat) (s : Growth) (q : Nat) :
    q ∈ (points.foldl (claim cluster) s).queue ↔
      q ∈ s.queue ∨ q ∈ points ∧ IsNoise s.labels q := by
  induction points generalizing s with
  | nil => simp
  | cons p rest ih =>
    rw [List.foldl_cons, ih]
    simp only [isNoise_claim, mem_queue_claim, List.mem_cons]
    by_cases hp : p = q
    · simp [hp]
    · simp [hp, Ne.symm hp]

theorem spread_eq (g : Neighbourhoods) (cluster point : Nat) (s : Growth) :
    spread g cluster point s =
      (if g.isCore point then g.of? point else []).foldl (claim cluster) s := by
  unfold spread
  split_ifs <;> rfl

theorem labelAt_spread (g : Neighbourhoods) (cluster point : Nat) (s : Growth) (q : Nat) :
    labelAt (spread g cluster point s).labels q =
      if g.Leads point q ∧ IsNoise s.labels q then some cluster else labelAt s.labels q := by
  rw [spread_eq, labelAt_claimAll]
  unfold Neighbourhoods.Leads
  split_ifs <;> simp_all

theorem mem_queue_spread (g : Neighbourhoods) (cluster point : Nat) (s : Growth) (q : Nat) :
    q ∈ (spread g cluster point s).queue ↔
      q ∈ s.queue ∨ g.Leads point q ∧ IsNoise s.labels q := by
  rw [spread_eq, mem_queue_claimAll]
  unfold Neighbourhoods.Leads
  split_ifs with h <;> simp [h]

/-! ## Growing one cluster -/

/-- No labelled point leads to noise. -/
def IsClosed (g : Neighbourhoods) (labels : Array Label) : Prop :=
  ∀ p q, g.Leads p q → labelAt labels p ≠ none → ¬ IsNoise labels q

/-- Nothing that is reached from a labelled point is noise. -/
theorem IsClosed.not_isNoise_of_reaches {labels : Array Label} (h : IsClosed g labels)
    (hsize : labels.size = g.near.size) {p q : Nat} (hp : labelAt labels p ≠ none)
    (hreach : g.Reaches p q) : ¬ IsNoise labels q := by
  induction hreach with
  | refl => exact fun hnoise => hp hnoise.2
  | tail _ hleads ih =>
    have hlt := Neighbourhoods.lt_of_leads hleads
    exact h _ _ hleads fun hnone => ih ⟨hsize ▸ hlt, hnone⟩

/-- How far a cluster has grown from a seed, on top of the labels of the clusters before it. -/
structure Grows (g : Neighbourhoods) (old : Array Label) (cluster seed : Nat) (s : Growth) :
    Prop where
  size_eq : s.labels.size = old.size
  seed_ne_none : labelAt s.labels seed ≠ none
  /-- A point keeps its label, or it was noise and the seed reaches it. -/
  label : ∀ q, labelAt s.labels q = labelAt old q ∨
    labelAt old q = none ∧ labelAt s.labels q = some cluster ∧ g.Reaches seed q
  queued : ∀ q ∈ s.queue, g.Reaches seed q
  /-- A labelled point that leads to noise is still queued. -/
  waits : ∀ p q, g.Leads p q → labelAt s.labels p ≠ none → IsNoise s.labels q → p ∈ s.queue

theorem Grows.ofSeed {old : Array Label} (hclosed : IsClosed g old) (cluster : Nat)
    (h : seed < old.size) (hnone : labelAt old seed = none) :
    Grows g old cluster seed ⟨old.set seed (some cluster) h, [seed]⟩ where
  size_eq := Array.size_set h
  seed_ne_none := by
    rw [labelAt_set, if_pos rfl]
    exact Option.some_ne_none cluster
  label q := by
    rw [labelAt_set]
    split_ifs with hq
    · exact Or.inr ⟨hq ▸ hnone, rfl, hq ▸ .refl⟩
    · exact Or.inl rfl
  queued q hq := List.mem_singleton.mp hq ▸ .refl
  waits p q hleads hp hq := by
    rw [labelAt_set] at hp
    simp only [IsNoise, Array.size_set, labelAt_set] at hq
    rw [List.mem_singleton]
    by_contra hne
    rw [if_neg (Ne.symm hne)] at hp
    split_ifs at hq with heq
    · cases hq.2
    · exact hclosed p q hleads hp hq

/-- Taking one point off the queue and claiming its neighbours goes on growing the cluster. -/
theorem Grows.step {old labels : Array Label} {point : Nat} {queue : List Nat}
    (h : Grows g old cluster seed ⟨labels, point :: queue⟩) :
    Grows g old cluster seed (Density.spread g cluster point ⟨labels, queue⟩) where
  size_eq := (size_spread g cluster point _).trans h.size_eq
  seed_ne_none := by
    rw [labelAt_spread]
    split_ifs
    · exact Option.some_ne_none cluster
    · exact h.seed_ne_none
  label q := by
    have hpoint : g.Reaches seed point := h.queued point List.mem_cons_self
    rw [labelAt_spread]
    split_ifs with hjoins
    · refine Or.inr ⟨?_, rfl, hpoint.tail hjoins.1⟩
      rcases h.label q with hsame | ⟨hnone, -, -⟩
      · exact hsame.symm.trans hjoins.2.2
      · exact hnone
    · exact h.label q
  queued q hq := by
    rcases (mem_queue_spread g cluster point _ q).mp hq with hq | ⟨hleads, -⟩
    · exact h.queued q (List.mem_cons_of_mem point hq)
    · exact (h.queued point List.mem_cons_self).tail hleads
  waits p q hleads hp hq := by
    rw [mem_queue_spread]
    rw [IsNoise, size_spread, labelAt_spread] at hq
    split_ifs at hq with hjoins
    · cases hq.2
    rw [labelAt_spread] at hp
    split_ifs at hp with hjoined
    · exact Or.inr hjoined
    · rcases List.mem_cons.mp (h.waits p q hleads hp hq) with rfl | hmem
      · exact absurd ⟨hleads, hq⟩ hjoins
      · exact Or.inl hmem

/-- Growing a cluster to its end empties the queue. -/
theorem Grows.grow {old : Array Label} {s : Growth} (h : Grows g old cluster seed s) :
    Grows g old cluster seed ⟨Density.grow g cluster s, []⟩ := by
  induction s using Density.grow.induct g cluster with
  | case1 s hqueue =>
    obtain ⟨labels, queue⟩ := s
    obtain rfl : queue = [] := hqueue
    rwa [Density.grow]
  | case2 s point queue hqueue ih =>
    obtain ⟨labels, queue'⟩ := s
    obtain rfl : queue' = point :: queue := hqueue
    rw [Density.grow]
    exact ih h.step

theorem Grows.isClosed {old labels : Array Label}
    (h : Grows g old cluster seed ⟨labels, []⟩) : IsClosed g labels := by
  intro p q hleads hp hq
  cases h.waits p q hleads hp hq

/-! ## All clusters -/

/-- What the labels say once the points before `k` have had their turn : the clusters of the
starts among them are numbered and grown. -/
structure Placed (g : Neighbourhoods) (k : Nat) (p : Progress) : Prop where
  size_eq : p.labels.size = g.near.size
  isClosed : IsClosed g p.labels
  next_eq : p.next = g.startsBefore k
  label : ∀ q < g.near.size, ∀ c, labelAt p.labels q = some c ↔
    ∃ s < k, g.IsFirst s q ∧ c = g.startsBefore s

theorem Placed.none_iff {k : Nat} {p : Progress} (h : Placed g k p) {q : Nat}
    (hq : q < g.near.size) :
    labelAt p.labels q = none ↔ ∀ t < k, g.isCore t = true → ¬ g.Reaches t q := by
  rw [Option.eq_none_iff_forall_ne_some]
  constructor
  · intro hnone t ht hcore hreach
    obtain ⟨s, hs, hfirst⟩ := Neighbourhoods.exists_isFirst hcore hreach
    exact hnone _ ((h.label q hq _).mpr ⟨s, hs.trans_lt ht, hfirst, rfl⟩)
  · intro hnone c hc
    obtain ⟨s, hs, hfirst, -⟩ := (h.label q hq c).mp hc
    exact hnone s hs hfirst.isCore hfirst.reaches

theorem placed_zero (g : Neighbourhoods) :
    Placed g 0 ⟨Array.replicate g.near.size none, 0⟩ := by
  have hnone : ∀ q, labelAt (Array.replicate g.near.size none) q = none := by
    intro q
    simp [labelAt, Array.getD]
  refine ⟨Array.size_replicate, fun p q _ hp => absurd (hnone p) hp, ?_, fun q _ c => ?_⟩
  · simp [Neighbourhoods.startsBefore]
  · simp [hnone]

theorem exists_isFirst_lt_succ_iff {k q c : Nat} (h : ¬ g.IsFirst k q) :
    (∃ s < k + 1, g.IsFirst s q ∧ c = g.startsBefore s) ↔
      ∃ s < k, g.IsFirst s q ∧ c = g.startsBefore s := by
  constructor
  · rintro ⟨s, hs, hfirst, hc⟩
    rcases Nat.lt_succ_iff_lt_or_eq.mp hs with hlt | rfl
    · exact ⟨s, hlt, hfirst, hc⟩
    · exact absurd hfirst h
  · rintro ⟨s, hs, hfirst, hc⟩
    exact ⟨s, Nat.lt_succ_of_lt hs, hfirst, hc⟩

/-- A core point that is noise in its turn is a start, and its cluster is grown. -/
theorem Placed.startAt_of_isStart {k : Nat} {p : Progress} (h : Placed g k p)
    (hk : k < p.labels.size) (hnone : labelAt p.labels k = none) (hcore : g.isCore k = true) :
    Placed g (k + 1) ⟨grow g p.next ⟨p.labels.set k (some p.next) hk, [k]⟩, p.next + 1⟩ := by
  have hgrown := (Grows.ofSeed h.isClosed p.next hk hnone).grow
  have hsize := hgrown.size_eq.trans h.size_eq
  have hfirst : ∀ q < g.near.size, labelAt p.labels q = none → g.Reaches k q → g.IsFirst k q :=
    fun q hq hq' hreach => ⟨hcore, hreach, (h.none_iff hq).mp hq'⟩
  refine ⟨hsize, hgrown.isClosed, ?_, fun q hq c => ?_⟩
  · rw [h.next_eq, Neighbourhoods.startsBefore_succ_of_isStart
      (hfirst k (h.size_eq ▸ hk) hnone .refl)]
  · rcases hgrown.label q with hsame | ⟨hq', hnew, hreach⟩
    · have hnot : ¬ g.IsFirst k q := by
        intro hkq
        have hlabelled : labelAt p.labels q ≠ none := fun hq' =>
          hgrown.isClosed.not_isNoise_of_reaches hsize hgrown.seed_ne_none hkq.reaches
            ⟨hsize.symm ▸ hq, hsame.trans hq'⟩
        obtain ⟨d, hd⟩ := Option.ne_none_iff_exists'.mp hlabelled
        obtain ⟨s, hs, hsfirst, -⟩ := (h.label q hq d).mp hd
        exact hs.ne (hsfirst.unique hkq)
      rw [hsame, h.label q hq c, exists_isFirst_lt_succ_iff hnot]
    · have hkq := hfirst q hq hq' hreach
      rw [hnew, Option.some_inj, h.next_eq]
      constructor
      · rintro rfl
        exact ⟨k, Nat.lt_succ_self k, hkq, rfl⟩
      · rintro ⟨s, -, hsfirst, rfl⟩
        rw [hsfirst.unique hkq]

/-- A point that is no start in its turn changes nothing. -/
theorem Placed.succ_of_not_isStart {k : Nat} {p : Progress} (h : Placed g k p)
    (hk : ¬ g.IsStart k) : Placed g (k + 1) p := by
  refine ⟨h.size_eq, h.isClosed, ?_, fun q hq c => ?_⟩
  · rw [h.next_eq, Neighbourhoods.startsBefore_succ_of_not_isStart hk]
  · rw [h.label q hq c, exists_isFirst_lt_succ_iff fun hkq => hk hkq.isStart]

/-- The turn of one point. -/
theorem Placed.startAt {k : Nat} {p : Progress} (h : Placed g k p) (hk : k < g.near.size) :
    Placed g (k + 1) (Density.startAt g p k) := by
  have hlt : k < p.labels.size := h.size_eq.symm ▸ hk
  rw [Density.startAt, dif_pos hlt, ← labelAt_of_lt hlt]
  split_ifs with hturn
  · rw [Bool.and_eq_true, decide_eq_true_eq] at hturn
    exact h.startAt_of_isStart hlt hturn.1 hturn.2
  · refine h.succ_of_not_isStart fun hstart => hturn ?_
    rw [Bool.and_eq_true, decide_eq_true_eq]
    exact ⟨(h.none_iff hk).mpr hstart.not_reaches, hstart.isCore⟩

theorem placed_startAll (g : Neighbourhoods) {k : Nat} (hk : k ≤ g.near.size) :
    Placed g k ((List.range k).foldl (Density.startAt g)
      ⟨Array.replicate g.near.size none, 0⟩) := by
  induction k with
  | zero => exact placed_zero g
  | succ k ih =>
    rw [List.range_succ, List.foldl_append]
    exact (ih (Nat.le_of_succ_le hk)).startAt hk

/-! ## The labels of all points -/

theorem getElem?_labelAll {q : Nat} (hq : q < g.near.size) :
    (labelAll g)[q]? = some (labelAt ((List.range g.near.size).foldl (Density.startAt g)
      ⟨Array.replicate g.near.size none, 0⟩).labels q) := by
  have hsize := (placed_startAll g le_rfl).size_eq
  simp [labelAll, labelAt, Array.getD, hsize, hq]

/-- A point's label is the number of the first core point that reaches it, among the starts. -/
theorem getElem?_labelAll_eq_some_iff {q c : Nat} (hq : q < g.near.size) :
    (labelAll g)[q]? = some (some c) ↔ ∃ s, g.IsFirst s q ∧ c = g.startsBefore s := by
  rw [getElem?_labelAll hq, Option.some_inj, (placed_startAll g le_rfl).label q hq c]
  constructor
  · rintro ⟨s, -, h⟩
    exact ⟨s, h⟩
  · rintro ⟨s, hfirst, hc⟩
    exact ⟨s, Neighbourhoods.lt_of_reaches hfirst.reaches hq, hfirst, hc⟩

/-- Noise is what no core point reaches. -/
theorem getElem?_labelAll_eq_none_iff {q : Nat} (hq : q < g.near.size) :
    (labelAll g)[q]? = some none ↔ ∀ t, g.isCore t = true → ¬ g.Reaches t q := by
  rw [getElem?_labelAll hq, Option.some_inj, (placed_startAll g le_rfl).none_iff hq]
  exact ⟨fun h t hcore hreach => h t (Neighbourhoods.lt_of_reaches hreach hq) hcore hreach,
    fun h t _ => h t⟩

/-- A core point and the points that reach it back share the number of a cluster. -/
theorem exists_label_of_isCore {p : Nat} (hp : p < g.near.size) (hcore : g.isCore p = true) :
    ∃ c, ∀ q, g.Reaches p q → g.Reaches q p → (labelAll g)[q]? = some (some c) := by
  obtain ⟨s, -, hfirst⟩ := Neighbourhoods.exists_isFirst hcore .refl
  refine ⟨g.startsBefore s, fun q hpq hqp => ?_⟩
  exact (getElem?_labelAll_eq_some_iff (Neighbourhoods.lt_of_reaches hqp hp)).mpr
    ⟨s, hfirst.of_reaches hpq hqp, rfl⟩

end SurfaceDrift.Density
