import SurfaceDrift.Builtin
import SurfaceDrift.Proofs.Learner

/-!
# Instances of the library's algorithms

The algorithms of the library learn afresh (`Configured.learnsAfresh`) : three of them hold
what they learned last, and the fourth learns nothing. So the past of an instance is the
last fit that succeeded and nothing else (`Configured.run_eq_after_last_fit`).
-/

namespace SurfaceDrift

/-- Nothing can be learned where there is no value to learn. -/
theorem Canonicalization.learnsAfresh_learner (policy : CollisionPolicy) :
    (learner policy).LearnsAfresh :=
  ⟨fun _ _ => rfl, fun _ _ _ => Subsingleton.elim _ _, fun _ _ _ h => by cases h⟩

namespace Configured

theorem learnsAfresh (c : Configured) : c.learner.LearnsAfresh := by
  cases c with
  | clustering params => exact Learner.learnsAfresh_of_remember fun _ => rfl
  | scaling params => exact Learner.learnsAfresh_of_remember fun _ => rfl
  | terms params => exact Learner.learnsAfresh_of_remember fun _ => rfl
  | canonicalization policy => exact Canonicalization.learnsAfresh_learner policy

/-- Whether the algorithm has to learn before it transforms. -/
def IsStateful (c : Configured) : Prop := ∀ policy, c ≠ canonicalization policy

theorem transform_none {c : Configured} (h : c.IsStateful) (data : List Document) :
    c.learner.transform none data = .error (.error (.notFitted c.learner.name)) := by
  cases c with
  | clustering params => rfl
  | scaling params => rfl
  | terms params => rfl
  | canonicalization policy => exact absurd rfl (h policy)

theorem eq_none_of_not_isStateful {c : Configured} (h : ¬c.IsStateful)
    (state : Option c.Fitted) : state = none := by
  cases c with
  | clustering params => exact absurd (fun _ => Configured.noConfusion) h
  | scaling params => exact absurd (fun _ => Configured.noConfusion) h
  | terms params => exact absurd (fun _ => Configured.noConfusion) h
  | canonicalization policy => exact Subsingleton.elim (α := Option Empty) state none

/-- Every call on an instance ends, in its answer and in what it leaves, as on a fresh instance
that made the last fit before it that succeeded and no other call. -/
theorem run_eq_after_last_fit (c : Configured) (calls : List Learner.Call) :
    (∀ k call, calls[k]? = some call →
      let before := c.learner.freshAfter (c.learner.lastFit none (calls.take k))
      let after := c.learner.freshAfter (c.learner.lastFit none (calls.take (k + 1)))
      (c.learner.run none calls)[k]? = some ((c.learner.step before call).1, after)) ∧
    (∀ data, c.learner.lastFit none calls = some data →
      (c.learner.fit data none).1 = .ok ()) ∧
    (∀ state data failure, (c.learner.fit data state).1 = .error failure →
      (c.learner.step state (.fit data)).2 = state ∧
        (c.learner.step state (.fitTransform data)).2 = state) ∧
    (∀ state data, (c.learner.step state (.transform data)).2 = state) ∧
    (c.IsStateful → c.learner.lastFit none calls = none → ∀ data,
      (c.learner.step (c.learner.after none calls) (.transform data)).1 =
        .error (.error (.notFitted c.learner.name))) ∧
    (¬c.IsStateful → ∀ call, (c.learner.step (c.learner.after none calls) call).1 =
      (c.learner.step none call).1) := by
  have hl := c.learnsAfresh
  refine ⟨fun k call hcall => ?_, fun data => hl.fit_of_lastFit, fun state data failure h => ?_,
    fun state data => rfl, fun hstateful hnone data => ?_, fun hstateless call => ?_⟩
  · rw [Learner.getElem?_run, hcall, Option.map_some, ← hl.after_eq, ← hl.after_eq,
      Learner.after_take_succ _ _ hcall]
  · have hafter := hl.after_error data state failure h
    refine ⟨hafter, ?_⟩
    rw [Learner.step_fitTransform_snd, hafter]
  · rw [hl.after_eq, hnone]
    show (c.learner.transform none data).map some = _
    rw [transform_none hstateful]
    rfl
  · rw [eq_none_of_not_isStateful hstateless (c.learner.after none calls)]

/-- A fit that fails and a transform do not count. -/
example : (Scaling.learner ⟨0.0, 1.0, true⟩).lastFit none
    [.fit [.number (.integer 1)], .fit [.null], .transform [.null]] =
      some [.number (.integer 1)] := by
  rfl

end Configured

end SurfaceDrift
