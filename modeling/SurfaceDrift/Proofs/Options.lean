import SurfaceDrift.Builtin
import SurfaceDrift.Proofs.Sequence

/-!
# Options fail as bad configurations

Whatever stands in the parameters of an algorithm, an option that is unknown or does not
fit is a bad configuration (`Error.IsMisconfiguration`), and so is every refusal of
parameters by an algorithm of the library (`Builtin.failsOnly_configure`). A float that is
read is finite (`Options.isFinite_of_float`).
-/

namespace SurfaceDrift

/-- The error is one in names, parameters or configuration files. -/
def Error.IsMisconfiguration (e : Error) : Prop := ∃ fault, e = .configuration fault

namespace Options

theorem failsOnly_of (algorithm : String) (recognized : List String) (params : Params) :
    FailsOnly Error.IsMisconfiguration (of algorithm recognized params) := by
  unfold of
  split
  · exact .error ⟨_, rfl⟩
  · exact .ok _

theorem failsOnly_readWith {α : Type} (options : Options) (key : String) (expected : Expected)
    (default : α) (reader : Document → Option α) :
    FailsOnly Error.IsMisconfiguration (options.readWith key expected default reader) := by
  unfold readWith
  split
  · exact .ok _
  · split
    · exact .ok _
    · exact .error ⟨_, rfl⟩

theorem failsOnly_words (options : Options) (key : String) (default : List String) :
    FailsOnly Error.IsMisconfiguration (options.words key default) := by
  unfold words
  split
  · exact .ok _
  · exact .ok _
  · refine .mapM fun item _ => ?_
    split
    · exact .ok _
    · exact .error ⟨_, rfl⟩
  · exact .error ⟨_, rfl⟩

/-- The value of an option is the default or what the reader makes of a document. -/
theorem readWith_eq_ok {α : Type} {options : Options} {key : String} {expected : Expected}
    {default result : α} {reader : Document → Option α}
    (h : options.readWith key expected default reader = .ok result) :
    result = default ∨ ∃ value, reader value = some result := by
  unfold readWith at h
  split at h
  · exact Or.inl (Except.ok.inj h).symm
  · split at h
    · next value _ _ found hfound => exact Or.inr ⟨value, Except.ok.inj h ▸ hfound⟩
    · cases h

/-- A float option is finite if its default is. -/
theorem isFinite_of_float {options : Options} {key : String} {default x : Float}
    (hdefault : Decimal.isFinite default = true) (h : options.float key default = .ok x) :
    Decimal.isFinite x = true := by
  rcases readWith_eq_ok h with rfl | ⟨value, hvalue⟩
  · exact hdefault
  · exact (Option.filter_eq_some_iff.mp hvalue).2

end Options

/-! ## The algorithms of the library -/

theorem Clustering.failsOnly_of (params : SurfaceDrift.Params) :
    FailsOnly Error.IsMisconfiguration (Clustering.Params.of params) := by
  refine .bind (Options.failsOnly_of _ _ _) fun given _ => ?_
  refine .bind (Options.failsOnly_readWith given _ _ _ _) fun radius _ => ?_
  split_ifs
  · exact .error ⟨_, rfl⟩
  · refine .bind (Options.failsOnly_readWith given _ _ _ _) fun minSamples _ => ?_
    split_ifs
    · exact .error ⟨_, rfl⟩
    · exact .ok _

theorem Scaling.failsOnly_of (params : SurfaceDrift.Params) :
    FailsOnly Error.IsMisconfiguration (Scaling.Params.of params) := by
  refine .bind (Options.failsOnly_of _ _ _) fun given _ => ?_
  refine .bind (Options.failsOnly_readWith given _ _ _ _) fun ⟨lo, hi⟩ _ => ?_
  dsimp only
  split_ifs
  · exact .error ⟨_, rfl⟩
  · exact .error ⟨_, rfl⟩
  · exact .bind (Options.failsOnly_readWith given _ _ _ _) fun perStructure _ => .ok _

theorem Terms.failsOnly_of (params : SurfaceDrift.Params) :
    FailsOnly Error.IsMisconfiguration (Terms.Params.of params) := by
  refine .bind (Options.failsOnly_of _ _ _) fun given _ => ?_
  refine .bind (Options.failsOnly_readWith given _ _ _ _) fun maxFeatures _ => ?_
  split_ifs
  · exact .error ⟨_, rfl⟩
  · exact .bind (Options.failsOnly_words given _ _) fun words _ => .ok _

theorem Canonicalization.failsOnly_policyOf (params : Params) :
    FailsOnly Error.IsMisconfiguration (Canonicalization.policyOf params) := by
  refine .bind (Options.failsOnly_of _ _ _) fun given _ => ?_
  refine .bind (Options.failsOnly_readWith given _ _ _ _) fun spelled _ => ?_
  split
  · exact .ok _
  · exact .error ⟨_, rfl⟩

/-- An algorithm of the library refuses parameters as a bad configuration only. -/
theorem Builtin.failsOnly_configure (b : Builtin) (params : Params) :
    FailsOnly Error.IsMisconfiguration (b.configure params) := by
  cases b with
  | clustering => exact (Clustering.failsOnly_of params).map _
  | scaling => exact (Scaling.failsOnly_of params).map _
  | terms => exact (Terms.failsOnly_of params).map _
  | canonicalization => exact (Canonicalization.failsOnly_policyOf params).map _

end SurfaceDrift
