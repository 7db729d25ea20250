import SurfaceDrift.Builtin
import SurfaceDrift.Proofs.Pipeline.Fold

/-!
# One pipeline after another

The steps of two pipelines in a row are a pipeline of their own (`Pipeline.followedBy`). If
the first one answers, with enough documents for the second, then running them in a row ends
as the second one does on what the first hands on : the steps of the first are configured
and answer once more, and whatever the second comes to, a refusal, a step that fails or an
answer, the fold over all steps comes to as well (`Ends.followedBy`). So it makes no
difference where a pipeline is cut (`output_followedBy`).
-/

namespace SurfaceDrift.Pipeline

variable {params : ParamSet} {data : List Document}

/-- Some steps hand on what the last of them answers on to those after it. -/
theorem handedOn_append (params : ParamSet) (data : List Document) (earlier later : List Step) :
    handedOn params data (earlier ++ later) =
      (handedOn params data earlier).bind fun mid => handedOn params mid later :=
  List.foldlM_append

theorem handedOn_append_of_eq_ok {mid : List Document} {earlier : List Step}
    (h : handedOn params data earlier = .ok mid) (later : List Step) :
    handedOn params data (earlier ++ later) = handedOn params mid later := by
  rw [handedOn_append, h]
  rfl

/-- A pipeline that answers hands on its answer, and all its steps can be configured. -/
theorem Ends.handedOn_eq {steps : List Step} {output : Document}
    {labels : List (String × String)} (h : Ends params data steps (.ok (output, labels))) :
    2 ≤ data.length ∧ (∀ s ∈ steps, s.IsConfigurable params) ∧
      handedOn params data steps = .ok output.dataset ∧
      labels = steps.map fun s => (s.stage, s.algorithm) := by
  cases h with
  | answered hlen hall hsteps hmid houtput =>
    refine ⟨hlen, hall, ?_, rfl⟩
    rw [hsteps, handedOn_append_singleton_eq_ok_iff]
    exact ⟨_, output, hmid, houtput, rfl⟩

/-- Of a pipeline that answers the last two steps answer, each on what comes before it. -/
theorem exists_of_output_append_pair {earlier : List Step} {s t : Step} {o : Document}
    (h : (Pipeline.mk (earlier ++ [s, t])).output data params = .ok o) :
    ∃ mid answer, handedOn params data earlier = .ok mid ∧ s.fresh params mid = .ok answer ∧
      t.fresh params answer.dataset = .ok o := by
  obtain ⟨⟨output, labels⟩, hrun, rfl⟩ := map_eq_ok_iff.mp h
  cases run_eq_iff_ends.mp hrun with
  | @answered before last mid output _ _ hsteps hmid houtput =>
    have hsplit : (earlier ++ [s]) ++ [t] = before ++ [last] := by simpa using hsteps
    obtain ⟨rfl, hlast⟩ := List.append_inj' hsplit rfl
    obtain rfl := List.singleton_inj.mp hlast
    obtain ⟨start, answer, hstart, hanswer, rfl⟩ := handedOn_append_singleton_eq_ok_iff.mp hmid
    exact ⟨start, answer, hstart, hanswer, houtput⟩

/-- After a pipeline that answers, the steps of another one come to what they come to on its
answer. -/
theorem Ends.followedBy {earlier later : List Step} {output : Document}
    {labels : List (String × String)} {result : Except Error (Document × List (String × String))}
    (hearlier : Ends params data earlier (.ok (output, labels)))
    (hlater : Ends params output.dataset later result) (hne : later ≠ [])
    (hlen : 2 ≤ output.dataset.length) :
    Ends params data (earlier ++ later)
      (result.map fun answer => (answer.1, labels ++ answer.2)) := by
  obtain ⟨hdata, hall, hmid, rfl⟩ := hearlier.handedOn_eq
  have hconfigurable : (∀ s ∈ later, s.IsConfigurable params) →
      ∀ s ∈ earlier ++ later, s.IsConfigurable params := fun h s hs =>
    (List.mem_append.mp hs).elim (hall s) (h s)
  cases hlater with
  | tooFew hlt => exact absurd hlen (Nat.not_le.mpr hlt)
  | noSteps _ hnone => exact absurd hnone hne
  | @refused before after s cause _ hsteps hbefore hcause =>
    have hsplit : earlier ++ later = (earlier ++ before) ++ s :: after := by
      rw [hsteps, List.append_assoc]
    exact .refused hdata hsplit
      (fun t ht => (List.mem_append.mp ht).elim (hall t) (hbefore t)) hcause
  | @failed before after s cause mid _ hlaterAll hsteps hbefore hcause =>
    have hsplit : earlier ++ later = (earlier ++ before) ++ s :: after := by
      rw [hsteps, List.append_assoc]
    exact .failed hdata (hconfigurable hlaterAll) hsplit
      ((handedOn_append_of_eq_ok hmid before).trans hbefore) hcause
  | @answered before last mid answer _ hlaterAll hsteps hbefore hanswer =>
    have hsplit : earlier ++ later = (earlier ++ before) ++ [last] := by
      rw [hsteps, List.append_assoc]
    have hends := Ends.answered hdata (hconfigurable hlaterAll) hsplit
      ((handedOn_append_of_eq_ok hmid before).trans hbefore) hanswer
    rw [List.map_append] at hends
    exact hends

/-- Once a pipeline answers, the steps of another one in a row with its own run as the other
one does on its answer. -/
theorem run_followedBy {p q : Pipeline} {output : Document} {labels : List (String × String)}
    (hq : q.steps ≠ []) (hrun : p.run data params = .ok (output, labels))
    (hlen : 2 ≤ output.dataset.length) :
    (p.followedBy q).run data params = (q.run output.dataset params).map fun answer =>
      (answer.1, labels ++ answer.2) :=
  Ends.run_eq ((run_eq_iff_ends.mp hrun).followedBy (run_eq_iff_ends.mp rfl) hq hlen)

theorem output_of_run_followedBy {p q : Pipeline} {output : Document}
    {labels : List (String × String)} (hq : q.steps ≠ [])
    (hrun : p.run data params = .ok (output, labels)) (hlen : 2 ≤ output.dataset.length) :
    (p.followedBy q).output data params = q.output output.dataset params := by
  rw [Pipeline.output, run_followedBy hq hrun hlen, Pipeline.output]
  cases q.run output.dataset params <;> rfl

/-- Running two pipelines in a row ends as the second one does on the answer of the first :
with the same output, told with the steps of both, or with the same error. -/
theorem output_followedBy {p q : Pipeline} {o : Document} (hq : q.steps ≠ [])
    (ho : p.output data params = .ok o) (hlen : 2 ≤ o.dataset.length) :
    (p.followedBy q).output data params = q.output o.dataset params ∧
      (p.followedBy q).run data params = (q.run o.dataset params).map fun answer =>
        (answer.1, (p.steps.map fun s => (s.stage, s.algorithm)) ++ answer.2) := by
  obtain ⟨⟨output, labels⟩, hrun, rfl⟩ := map_eq_ok_iff.mp ho
  obtain ⟨-, -, -, rfl⟩ := (run_eq_iff_ends.mp hrun).handedOn_eq
  exact ⟨output_of_run_followedBy hq hrun hlen, run_followedBy hq hrun hlen⟩

/-- The step that makes documents canonical, alone in a pipeline. -/
def canonicalAlone : Pipeline := ⟨[⟨"canon", Builtin.canonicalization.descriptor⟩]⟩

/-- The step that clusters, alone in a pipeline. -/
def clusteringAlone : Pipeline := ⟨[⟨"cluster", Builtin.clustering.descriptor⟩]⟩

theorem output_followedBy_canonicalAlone :
    canonicalAlone.output [.text "A_b", .text "ab"] [] = .ok (.list [.text "ab", .text "ab"]) ∧
      (canonicalAlone.followedBy clusteringAlone).output [.text "A_b", .text "ab"] [] =
        clusteringAlone.output [.text "ab", .text "ab"] [] := by
  have hfirst : canonicalAlone.output [.text "A_b", .text "ab"] [] =
      .ok (.list [.text "ab", .text "ab"]) := by
    rfl
  exact ⟨hfirst, (output_followedBy (List.cons_ne_nil _ _) hfirst (Nat.le_refl 2)).1⟩

end SurfaceDrift.Pipeline
