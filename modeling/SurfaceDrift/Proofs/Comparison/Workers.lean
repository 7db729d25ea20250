import SurfaceDrift.Comparison.Workers
import SurfaceDrift.Proofs.Fields

/-!
# What workers leave behind

Whichever worker goes on next, a step of the pool keeps the tasks together : a task waits, is
begun, or has an outcome under its name, and every outcome is that of a task (`Pool.Holds`,
`Step.holds`). When no task is left, the outcomes are those of the tasks one after another,
provided that tasks of one name are the same (`Holds.outcomes_eq`).

Every step brings the end nearer (`Step.measure_lt`), and as long as there is a worker and a
task is left, some step can be made (`exists_step`). So workers always finish
(`exists_run_isDone`).
-/

namespace SurfaceDrift.Comparison.Pool

variable {data : List Document} {tasks : List Task} {p q : Pool}

/-- The tasks that wait or are begun. -/
def pending (p : Pool) : List Task := p.waiting ++ p.workers.flatten

/-- The outcome goes under the name by one of the tasks. -/
def OutcomeOf (data : List Document) (tasks : List Task) (name : String) (outcome : Outcome) :
    Prop :=
  ∃ t ∈ tasks, t.name = name ∧ t.outcome data = outcome

/-- Between the tasks and what the pool has of them. -/
structure Holds (data : List Document) (tasks : List Task) (p : Pool) : Prop where
  ascending : Fields.Ascending p.outcomes
  mem_of_pending : ∀ t ∈ p.pending, t ∈ tasks
  outcomeOf_of_find? : ∀ name outcome, Fields.find? p.outcomes name = some outcome →
    OutcomeOf data tasks name outcome
  pending_or_mem : ∀ t ∈ tasks, t ∈ p.pending ∨ t.name ∈ Fields.names p.outcomes

/-! ## One step -/

theorem mem_pending_takes {earlier later stack : List Task} {left right : List (List Task)}
    {t u : Task} {outcomes : Results} :
    u ∈ pending ⟨earlier ++ later, left ++ (t :: stack) :: right, outcomes⟩ ↔
      u ∈ pending ⟨earlier ++ t :: later, left ++ stack :: right, outcomes⟩ := by
  simp only [pending, List.flatten_append, List.flatten_cons, List.mem_append, List.mem_cons]
  tauto

theorem mem_pending_finishes {waiting stack : List Task} {left right : List (List Task)}
    {t u : Task} {outcomes after : Results} :
    u ∈ pending ⟨waiting, left ++ (t :: stack) :: right, outcomes⟩ ↔
      u = t ∨ u ∈ pending ⟨waiting, left ++ stack :: right, after⟩ := by
  simp only [pending, List.flatten_append, List.flatten_cons, List.mem_append, List.mem_cons]
  tauto

theorem Step.holds (h : Step data p q) (hp : Holds data tasks p) : Holds data tasks q := by
  cases h with
  | takes earlier later stack left right t outcomes =>
    exact ⟨hp.ascending, fun u hu => hp.mem_of_pending u (mem_pending_takes.mp hu),
      hp.outcomeOf_of_find?, fun u hu => (hp.pending_or_mem u hu).imp_left mem_pending_takes.mpr⟩
  | finishes waiting stack left right t outcomes =>
    refine ⟨hp.ascending.insert _ _, fun u hu => ?_, fun name outcome hfind => ?_,
      fun u hu => ?_⟩
    · exact hp.mem_of_pending u (mem_pending_finishes.mpr (Or.inr hu))
    · rw [Fields.find?_insert] at hfind
      split_ifs at hfind with heq
      · have hbegun : t ∈ pending ⟨waiting, left ++ (t :: stack) :: right, outcomes⟩ := by
          simp [pending]
        exact ⟨t, hp.mem_of_pending t hbegun, heq, Option.some.inj hfind⟩
      · exact hp.outcomeOf_of_find? name outcome hfind
    · rw [Fields.mem_names_insert]
      rcases hp.pending_or_mem u hu with hpending | hmem
      · rcases mem_pending_finishes.mp hpending with rfl | hpending
        · exact Or.inr (Or.inl rfl)
        · exact Or.inl hpending
      · exact Or.inr (Or.inr hmem)

/-! ## All steps -/

theorem holds_start (data : List Document) (workers : Nat) (tasks : List Task) :
    Holds data tasks (start workers tasks) := by
  have hpending : (start workers tasks).pending = tasks := by
    simp [pending, start]
  refine ⟨Fields.ascending_nil, fun t ht => hpending ▸ ht, fun name outcome h => ?_,
    fun t ht => Or.inl (hpending.symm ▸ ht)⟩
  cases h

theorem Run.holds (h : Run data p q) (hp : Holds data tasks p) : Holds data tasks q := by
  induction h with
  | nothing => exact hp
  | step hstep _ ih => exact ih (hstep.holds hp)

theorem OutcomeOf.unique (hsame : ∀ t ∈ tasks, ∀ u ∈ tasks, t.name = u.name → t = u)
    (name : String) (outcome other : Outcome) (h : OutcomeOf data tasks name outcome)
    (h' : OutcomeOf data tasks name other) : outcome = other := by
  obtain ⟨t, ht, rfl, rfl⟩ := h
  obtain ⟨u, hu, hname, rfl⟩ := h'
  rw [hsame u hu t ht hname]

/-- When no task is left, what is found under a name is the outcome of a task of that name. -/
theorem Holds.find?_eq_some_iff (h : Holds data tasks p) (hdone : p.IsDone)
    (hsame : ∀ t ∈ tasks, ∀ u ∈ tasks, t.name = u.name → t = u) {name : String}
    {outcome : Outcome} :
    Fields.find? p.outcomes name = some outcome ↔ OutcomeOf data tasks name outcome := by
  refine Fields.find?_eq_some_iff_of h.outcomeOf_of_find? ?_ (OutcomeOf.unique hsame)
  rintro name outcome ⟨t, ht, rfl, rfl⟩
  rcases h.pending_or_mem t ht with hpending | hmem
  · rw [pending, hdone.1, hdone.2] at hpending
    cases hpending
  · exact hmem

theorem find?_ofList_outcomes (hsame : ∀ t ∈ tasks, ∀ u ∈ tasks, t.name = u.name → t = u)
    {name : String} {outcome : Outcome} :
    Fields.find? (Fields.ofList (tasks.map fun t => (t.name, t.outcome data))) name =
        some outcome ↔
      OutcomeOf data tasks name outcome := by
  refine Fields.find?_eq_some_iff_of ?_ ?_ (OutcomeOf.unique hsame)
  · intro name outcome h
    obtain ⟨t, ht, heq⟩ := List.mem_map.mp (Fields.mem_of_find?_ofList h)
    exact ⟨t, ht, Prod.mk.inj heq⟩
  · rintro name outcome ⟨t, ht, rfl, rfl⟩
    exact Fields.mem_names_ofList.mpr ⟨t.outcome data, List.mem_map.mpr ⟨t, ht, rfl⟩⟩

/-- When no task is left, the outcomes are those of the tasks one after another. -/
theorem Holds.outcomes_eq (h : Holds data tasks p) (hdone : p.IsDone)
    (hsame : ∀ t ∈ tasks, ∀ u ∈ tasks, t.name = u.name → t = u) :
    p.outcomes = Fields.ofList (tasks.map fun t => (t.name, t.outcome data)) := by
  refine h.ascending.ext (Fields.ascending_ofList _) fun name => Option.ext fun outcome => ?_
  rw [h.find?_eq_some_iff hdone hsame, find?_ofList_outcomes hsame]

/-! ## The end -/

/-- Two for each task that waits, and one for each that is begun. -/
def measure (p : Pool) : Nat := 2 * p.waiting.length + p.workers.flatten.length

theorem Step.measure_lt (h : Step data p q) : q.measure < p.measure := by
  cases h with
  | takes =>
    simp only [measure, List.length_append, List.length_cons, List.flatten_append,
      List.flatten_cons]
    omega
  | finishes =>
    simp only [measure, List.length_append, List.length_cons, List.flatten_append,
      List.flatten_cons]
    omega

theorem Step.length_workers (h : Step data p q) : q.workers.length = p.workers.length := by
  cases h <;> simp

/-- A worker can go on as long as a task is left. -/
theorem exists_step (data : List Document) (hworkers : 0 < p.workers.length)
    (hleft : ¬ p.IsDone) : ∃ q, Step data p q := by
  obtain ⟨waiting, workers, outcomes⟩ := p
  rcases waiting with _ | ⟨t, later⟩
  · have hbegun : ∃ stack ∈ workers, stack ≠ [] := by
      by_contra hnone
      push Not at hnone
      exact hleft ⟨rfl, List.flatten_eq_nil_iff.mpr hnone⟩
    obtain ⟨stack, hmem, hne⟩ := hbegun
    obtain ⟨left, right, rfl⟩ := List.append_of_mem hmem
    obtain ⟨t, rest, rfl⟩ := List.exists_cons_of_ne_nil hne
    exact ⟨_, Step.finishes [] rest left right t outcomes⟩
  · obtain ⟨stack, workers, rfl⟩ := List.exists_cons_of_length_pos hworkers
    exact ⟨_, Step.takes [] later stack [] workers t outcomes⟩

/-- Workers finish every task. -/
theorem exists_run_isDone (data : List Document) (p : Pool) (hworkers : 0 < p.workers.length) :
    ∃ q, Run data p q ∧ q.IsDone := by
  induction hm : p.measure using Nat.strong_induction_on generalizing p with
  | _ m ih =>
    by_cases hdone : p.IsDone
    · exact ⟨p, Run.nothing p, hdone⟩
    · obtain ⟨r, hstep⟩ := exists_step data hworkers hdone
      have hlt : r.measure < m := hm ▸ hstep.measure_lt
      obtain ⟨q, hrun, hq⟩ := ih r.measure hlt r (hstep.length_workers.symm ▸ hworkers) rfl
      exact ⟨q, Run.step hstep hrun, hq⟩

end SurfaceDrift.Comparison.Pool
