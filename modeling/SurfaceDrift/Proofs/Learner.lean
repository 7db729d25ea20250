import Mathlib.Data.List.Basic
import SurfaceDrift.Algorithm

/-!
# An instance and its past

Calls on an instance are made one after another, each on what those before it left
(`Learner.after`, `Learner.getElem?_run`). A learner learns afresh (`Learner.LearnsAfresh`)
if what it learns from data does not depend on what it held, and if it holds the same as
before when it fails to learn. Of all calls on an instance only the last one that learned
anything (`Learner.lastFit`) then shows : the instance holds what a fresh one does after
that fit alone (`LearnsAfresh.after_eq`).
-/

namespace SurfaceDrift.Learner

variable {Fitted : Type} {l : Learner Fitted}

/-- A fresh instance answers by what it learned, if anything. -/
theorem fitTransform_of_remember {learned : Except Failure Fitted} {data : List Document}
    (h : l.fit data = remember learned) :
    l.fitTransform data = learned.bind fun fitted => l.transform (some fitted) data := by
  rw [fitTransform, fitThenTransform, h]
  cases learned <;> rfl

/-- What was held before has no part in the answer. -/
theorem fitThenTransform_of_remember {learned : Except Failure Fitted} {data : List Document}
    (h : l.fit data = remember learned) (state : Option Fitted) :
    (l.fitThenTransform state data).1 = l.fitTransform data := by
  rw [fitTransform, fitThenTransform, fitThenTransform, h]
  cases learned <;> rfl

/-! ## Calls one after another -/

/-- What an instance holds after a sequence of calls. -/
def after (l : Learner Fitted) (state : Option Fitted) (calls : List Call) : Option Fitted :=
  calls.foldl (fun state call => (l.step state call).2) state

/-- Every call is made on what the calls before it left. -/
theorem getElem?_run (l : Learner Fitted) (state : Option Fitted) (calls : List Call) (k : Nat) :
    (l.run state calls)[k]? =
      calls[k]?.map fun call => l.step (l.after state (calls.take k)) call := by
  induction calls generalizing state k with
  | nil => rfl
  | cons call rest ih =>
    cases k with
    | zero => rfl
    | succ k => exact ih (l.step state call).2 k

theorem after_append (l : Learner Fitted) (state : Option Fitted) (calls more : List Call) :
    l.after state (calls ++ more) = l.after (l.after state calls) more :=
  List.foldl_append

theorem after_take_succ (l : Learner Fitted) (state : Option Fitted) {calls : List Call} {k : Nat}
    {call : Call} (h : calls[k]? = some call) :
    l.after state (calls.take (k + 1)) = (l.step (l.after state (calls.take k)) call).2 := by
  rw [List.take_add_one, h, after_append]
  rfl

/-- Transforming after a fit leaves what the fit left. -/
theorem step_fitTransform_snd (l : Learner Fitted) (state : Option Fitted)
    (data : List Document) : (l.step state (.fitTransform data)).2 = (l.fit data state).2 := by
  rw [step, fitThenTransform]
  rcases l.fit data state with ⟨_ | _, after⟩ <;> rfl

/-! ## The last fit -/

/-- The data that a call is to learn from. -/
def Call.data? : Call → Option (List Document)
  | .fit data => some data
  | .transform _ => none
  | .fitTransform data => some data

/-- The data that a call on an instance has learned from. -/
def learnedFrom (l : Learner Fitted) (state : Option Fitted) (call : Call) :
    Option (List Document) :=
  call.data?.filter fun data => (l.fit data state).1.isOk

/-- The data of the last of some calls that learned anything. -/
def lastFit (l : Learner Fitted) (state : Option Fitted) : List Call → Option (List Document)
  | [] => none
  | call :: rest => (l.lastFit (l.step state call).2 rest).or (l.learnedFrom state call)

/-- What a fresh instance holds that has learned from these data only, if from any. -/
def freshAfter (l : Learner Fitted) : Option (List Document) → Option Fitted
  | none => none
  | some data => (l.fit data none).2

/-- What is learned has nothing to do with what was, and fails without a trace. -/
structure LearnsAfresh (l : Learner Fitted) : Prop where
  outcome_eq : ∀ data state, (l.fit data state).1 = (l.fit data none).1
  after_ok : ∀ data state, (l.fit data state).1 = .ok () → (l.fit data state).2 = (l.fit data none).2
  after_error : ∀ data state failure, (l.fit data state).1 = .error failure →
    (l.fit data state).2 = state

theorem learnsAfresh_of_remember {learned : List Document → Except Failure Fitted}
    (h : ∀ data, l.fit data = remember (learned data)) : l.LearnsAfresh := by
  refine ⟨fun data state => ?_, fun data state => ?_, fun data state failure => ?_⟩ <;>
    rw [h] <;> cases learned data <;> simp [remember]

theorem learnedFrom_eq_some_iff {state : Option Fitted} {call : Call} {data : List Document} :
    l.learnedFrom state call = some data ↔
      call.data? = some data ∧ (l.fit data state).1 = .ok () := by
  rw [learnedFrom, Option.filter_eq_some_iff]
  refine and_congr_right fun _ => ?_
  cases (l.fit data state).1 <;> simp [Except.isOk, Except.toBool]

/-- A call that learns leaves what a fresh instance learns from the same data, and any other
call leaves what there was. -/
theorem LearnsAfresh.step_eq (hl : l.LearnsAfresh) (state : Option Fitted) (call : Call) :
    (l.step state call).2 =
      (l.learnedFrom state call).elim state fun data => (l.fit data none).2 := by
  have hfit : ∀ data, (l.fit data state).2 =
      (l.learnedFrom state (.fit data)).elim state fun data => (l.fit data none).2 := by
    intro data
    cases houtcome : (l.fit data state).1 with
    | ok _ =>
      rw [learnedFrom_eq_some_iff.mpr ⟨rfl, houtcome⟩, hl.after_ok data state houtcome]
      rfl
    | error failure =>
      have hnone : l.learnedFrom state (.fit data) = none := by
        simp [learnedFrom, Call.data?, houtcome, Except.isOk, Except.toBool]
      rw [hnone, hl.after_error data state failure houtcome]
      rfl
  cases call with
  | fit data => exact hfit data
  | transform data => rfl
  | fitTransform data => exact (l.step_fitTransform_snd state data).trans (hfit data)

/-- What is held after a sequence of calls was learned by the last of them that learned. -/
theorem LearnsAfresh.after_eq_elim (hl : l.LearnsAfresh) (state : Option Fitted)
    (calls : List Call) :
    l.after state calls = (l.lastFit state calls).elim state fun data => (l.fit data none).2 := by
  induction calls generalizing state with
  | nil => rfl
  | cons call rest ih =>
    have hrest : l.after state (call :: rest) = l.after (l.step state call).2 rest := rfl
    rw [hrest, ih, lastFit]
    cases l.lastFit (l.step state call).2 rest with
    | some data => rfl
    | none => exact hl.step_eq state call

/-- An instance is as good as a fresh one that made the last fit only. -/
theorem LearnsAfresh.after_eq (hl : l.LearnsAfresh) (calls : List Call) :
    l.after none calls = l.freshAfter (l.lastFit none calls) := by
  rw [hl.after_eq_elim]
  cases l.lastFit none calls <;> rfl

/-- A fresh instance learns from the data of the last fit as well. -/
theorem LearnsAfresh.fit_of_lastFit (hl : l.LearnsAfresh) {state : Option Fitted}
    {calls : List Call} {data : List Document} (h : l.lastFit state calls = some data) :
    (l.fit data none).1 = .ok () := by
  induction calls generalizing state with
  | nil => cases h
  | cons call rest ih =>
    rw [lastFit, Option.or_eq_some_iff] at h
    rcases h with h | ⟨-, h⟩
    · exact ih h
    · rw [← hl.outcome_eq data state]
      exact (learnedFrom_eq_some_iff.mp h).2

end SurfaceDrift.Learner
