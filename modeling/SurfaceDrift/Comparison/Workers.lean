import SurfaceDrift.Comparison

/-!
# Workers

The tasks of a comparison run on workers, as many as the caller asks for. A `Pool` is one
moment of the run : the tasks that wait, the tasks that each worker has begun, and the
outcomes so far. A worker may begin any task that waits, also before it has finished the
one it is at, and it finishes the task that it began last (`Pool.Step`). Nothing says which
worker goes on next.

`Ends` is what a comparison on workers may come to. Preparing comes first and may refuse
it; otherwise the outcomes are there when no task waits and no worker is at one. That the
workers start is taken for granted.
-/

namespace SurfaceDrift.Comparison

/-- The workers for a bound that the caller gives : as many, or one for each processor
where the bound is absent or zero. -/
def workerCount (processors : Nat) : Option Nat → Nat
  | some (n + 1) => n + 1
  | _ => processors

/-- A moment of a comparison. A worker's tasks are listed from the one it began last. -/
structure Pool where
  waiting : List Task
  workers : List (List Task)
  outcomes : Results

namespace Pool

/-- All tasks wait and no worker is at one. -/
def start (workers : Nat) (tasks : List Task) : Pool :=
  ⟨tasks, List.replicate workers [], []⟩

/-- What one worker does next. -/
inductive Step (data : List Document) : Pool → Pool → Prop
  /-- A worker begins a task that waits. -/
  | takes (earlier later stack : List Task) (left right : List (List Task)) (t : Task)
      (outcomes : Results) :
      Step data ⟨earlier ++ t :: later, left ++ stack :: right, outcomes⟩
        ⟨earlier ++ later, left ++ (t :: stack) :: right, outcomes⟩
  /-- A worker finishes the task it began last and puts down the outcome. -/
  | finishes (waiting stack : List Task) (left right : List (List Task)) (t : Task)
      (outcomes : Results) :
      Step data ⟨waiting, left ++ (t :: stack) :: right, outcomes⟩
        ⟨waiting, left ++ stack :: right, Fields.insert outcomes t.name (t.outcome data)⟩

/-- What the workers do, step after step. -/
inductive Run (data : List Document) : Pool → Pool → Prop
  | nothing (p : Pool) : Run data p p
  | step {p q r : Pool} : Step data p q → Run data q r → Run data p r

/-- No task is left. -/
def IsDone (p : Pool) : Prop := p.waiting = [] ∧ p.workers.flatten = []

end Pool

/-- What a comparison on so many workers may come to. -/
inductive Ends (workers : Nat) (catalog : Catalog) (data : List Document)
    (requested : Option (List String)) (params : ParamSet) : Except Error Results → Prop
  /-- It is refused before anything runs. -/
  | refused {cause : Error} : prepare catalog data requested params = .error cause →
      Ends workers catalog data requested params (.error cause)
  /-- The workers finish every task. -/
  | finished {tasks : List Task} {p : Pool} :
      prepare catalog data requested params = .ok tasks →
      Pool.Run data (Pool.start workers tasks) p → p.IsDone →
      Ends workers catalog data requested params (.ok p.outcomes)

end SurfaceDrift.Comparison
