import SurfaceDrift.Proofs.Clustering.Run
import SurfaceDrift.Proofs.Decimal.Order
import SurfaceDrift.Proofs.Options

/-!
# The library's algorithms fail on data only

An algorithm of the library that has taken its parameters fails for a cause in the data and
for no other : it is fitted when it transforms, a clustering has a label for each sample and
spreads to samples only, and a scaling clamps to ends that are in order
(`Scaling.lo_le_hi_of_paramsOf`). So it never panics, and no fault of its own state comes to
light (`Builtin.failsOnly_answer`).
-/

namespace SurfaceDrift

/-- The error is one in the data. -/
def Error.IsData (e : Error) : Prop := ∃ fault, e = .data fault

/-- The failure is an error in the data. -/
def Failure.IsData (f : Failure) : Prop := ∃ fault, f = .error (.data fault)

theorem Failure.isData_error {e : Error} (h : e.IsData) : (Failure.error e).IsData := by
  obtain ⟨fault, rfl⟩ := h
  exact ⟨fault, rfl⟩

/-! ## Clustering -/

theorem Clustering.failsOnly_fitTransform (params : Clustering.Params) (data : List Document) :
    FailsOnly Failure.IsData ((learner params).fitTransform data) := by
  rcases fitTransform_cases params data with ⟨-, h⟩ | ⟨-, h⟩ | ⟨-, -, h⟩
  · exact h ▸ .error ⟨_, rfl⟩
  · exact h ▸ .error ⟨_, rfl⟩
  · exact h ▸ .ok _

/-! ## Scaling -/

namespace Scaling

/-- The ends of a target range that is accepted are finite, and not equal or out of order. -/
theorem target_of_paramsOf {params : SurfaceDrift.Params} {p : Params}
    (h : Params.of params = .ok p) :
    Decimal.isFinite p.lo = true ∧ Decimal.isFinite p.hi = true ∧ ¬ p.hi ≤ p.lo := by
  rw [Params.of, bind_eq_ok_iff] at h
  obtain ⟨given, -, h⟩ := h
  obtain ⟨⟨lo, hi⟩, -, h⟩ := bind_eq_ok_iff.mp h
  dsimp only at h
  split_ifs at h with hfinite hempty
  obtain ⟨perStructure, -, h⟩ := bind_eq_ok_iff.mp h
  obtain rfl := Except.ok.inj h
  simp only [Bool.not_eq_true', Bool.and_eq_false_iff, not_or, Bool.not_eq_false] at hfinite
  exact ⟨hfinite.1, hfinite.2, hempty⟩

/-- The ends of a target range that is accepted are in order. -/
theorem lo_le_hi_of_paramsOf {params : SurfaceDrift.Params} {p : Params}
    (h : Params.of params = .ok p) : p.lo ≤ p.hi := by
  obtain ⟨hlo, hhi, hempty⟩ := target_of_paramsOf h
  exact Decimal.le_of_not_le hlo hhi hempty

theorem rescale_of_le {p : Params} (h : p.lo ≤ p.hi) (source : Range) (d : Document) :
    rescale p source d = .ok (d.mapNumbers (scale source p.lo p.hi)) := by
  simp [rescale, h]

theorem exists_scaleDocument {p : Params} (h : p.lo ≤ p.hi) (global : Range) (d : Document) :
    ∃ scaled, scaleDocument p global d = .ok scaled := by
  unfold scaleDocument
  split_ifs
  · split
    · exact ⟨_, rescale_of_le h _ d⟩
    · exact ⟨d, rfl⟩
  · exact ⟨_, rescale_of_le h global d⟩

theorem failsOnly_fitTransform {p : Params} (h : p.lo ≤ p.hi) (data : List Document) :
    FailsOnly Failure.IsData ((learner p).fitTransform data) := by
  rw [Learner.fitTransform_of_remember rfl]
  refine .bind ?_ fun global _ => ?_
  · refine FailsOnly.mapError (P := Error.IsData) ?_ fun e => Failure.isData_error
    unfold fit
    split
    · exact .ok _
    · exact .error ⟨_, rfl⟩
  · intro failure hfailure
    cases hscaled : data.mapM (scaleDocument p global) with
    | ok scaled =>
      simp only [learner, transform, hscaled] at hfailure
      cases hfailure
    | error payload =>
      obtain ⟨before, d, after, -, -, hd⟩ := mapM_eq_error_iff.mp hscaled
      obtain ⟨scaled, hok⟩ := exists_scaleDocument h global d
      rw [hok] at hd
      cases hd

end Scaling

/-! ## Weights of terms -/

theorem Terms.failsOnly_fitTransform (params : Terms.Params) (data : List Document) :
    FailsOnly Failure.IsData ((learner params).fitTransform data) := by
  rw [Learner.fitTransform_of_remember rfl]
  refine .bind ?_ fun vocabulary _ => .ok _
  refine FailsOnly.mapError (P := Error.IsData) ?_ fun e => Failure.isData_error
  unfold fit vocabulary
  split
  · exact .error ⟨_, rfl⟩
  · exact .ok _

/-! ## Canonical documents -/

mutual

/-- A document is refused only for names that fall together. -/
theorem failsOnly_canonicalDistinct :
    ∀ d : Document, FailsOnly Error.IsData (canonicalDistinct d)
  | .list items => by
    rw [canonicalDistinct]
    exact .bind (failsOnly_canonicalDistinctItems items) fun _ _ => .ok _
  | .object fields => by
    rw [canonicalDistinct]
    exact .bind (failsOnly_canonicalDistinctFields [] fields) fun _ _ => .ok _
  | .null => .ok _
  | .bool _ => .ok _
  | .number _ => .ok _
  | .text _ => .ok _

theorem failsOnly_canonicalDistinctItems :
    ∀ items : List Document, FailsOnly Error.IsData (canonicalDistinctItems items)
  | [] => .ok _
  | d :: rest => by
    rw [canonicalDistinctItems]
    exact .bind (failsOnly_canonicalDistinct d) fun _ _ =>
      .bind (failsOnly_canonicalDistinctItems rest) fun _ _ => .ok _

theorem failsOnly_canonicalDistinctFields (seen : List (String × String)) :
    ∀ fields : List (String × Document),
      FailsOnly Error.IsData (canonicalDistinctFields seen fields)
  | [] => .ok _
  | (name, d) :: rest => by
    rw [canonicalDistinctFields]
    split
    · exact .error ⟨_, rfl⟩
    · exact .bind (failsOnly_canonicalDistinct d) fun _ _ =>
        .bind (failsOnly_canonicalDistinctFields _ rest) fun _ _ => .ok _

end

theorem Canonicalization.failsOnly_fitTransform (policy : CollisionPolicy)
    (data : List Document) : FailsOnly Failure.IsData ((learner policy).fitTransform data) := by
  refine FailsOnly.mapError (P := Error.IsData) ?_ fun e => Failure.isData_error
  refine .bind (.mapM fun d _ => ?_) fun _ _ => .ok _
  cases policy with
  | lastWriteWins => exact .ok _
  | reject => exact failsOnly_canonicalDistinct d

/-! ## All of them -/

/-- An algorithm of the library that has taken its parameters fails on data only. -/
theorem Builtin.failsOnly_answer {b : Builtin} {params : Params} {c : Configured}
    (h : b.configure params = .ok c) (data : List Document) :
    FailsOnly Failure.IsData (c.algorithm.answer data) := by
  cases b with
  | clustering =>
    obtain ⟨p, -, rfl⟩ := map_eq_ok_iff.mp h
    exact Clustering.failsOnly_fitTransform p data
  | scaling =>
    obtain ⟨p, hp, rfl⟩ := map_eq_ok_iff.mp h
    exact Scaling.failsOnly_fitTransform (Scaling.lo_le_hi_of_paramsOf hp) data
  | terms =>
    obtain ⟨p, -, rfl⟩ := map_eq_ok_iff.mp h
    exact Terms.failsOnly_fitTransform p data
  | canonicalization =>
    obtain ⟨policy, -, rfl⟩ := map_eq_ok_iff.mp h
    exact Canonicalization.failsOnly_fitTransform policy data

end SurfaceDrift
