import SurfaceDrift.Pipeline
import SurfaceDrift.Proofs.Sequence

/-!
# A pipeline as a fold

Without the two phases of `Pipeline.run`, a pipeline is a fold over its steps : a fresh
instance of each step's algorithm answers to what the step before it hands on (`Step.fresh`,
`Pipeline.handedOn`). `Pipeline.Ends` tells in these terms how a run ends, cause by cause
in the order in which they count : too few documents, no steps, the first step whose
algorithm refuses its parameters, and only then the first step that fails.

`run_eq_iff_ends` : the run of a pipeline ends in exactly that way. The steps after one
that fails have no say (`run_eq_of_later`), and a run answers exactly if the fold does
(`run_answers_iff`).
-/

namespace SurfaceDrift

/-- The step's algorithm takes the parameters that a set holds for it. -/
def Step.IsConfigurable (params : ParamSet) (s : Step) : Prop :=
  ∃ algorithm, s.descriptor.build (params.forAlgorithm s.algorithm) = .ok algorithm

/-- The answer of a fresh instance of the step's algorithm. A panic becomes an error that
names the algorithm. -/
def Step.fresh (params : ParamSet) (s : Step) (data : List Document) : Except Error Document :=
  match s.descriptor.build (params.forAlgorithm s.algorithm) with
  | .error cause => .error cause
  | .ok algorithm =>
    match algorithm.answer data with
    | .ok output => .ok output
    | .error (.error cause) => .error cause
    | .error (.panic payload) => .error (.execution (.panicked s.algorithm payload.message))

theorem Step.fresh_eq_ok_iff {params : ParamSet} {s : Step} {data : List Document}
    {output : Document} :
    s.fresh params data = .ok output ↔ ∃ algorithm,
      s.descriptor.build (params.forAlgorithm s.algorithm) = .ok algorithm ∧
        algorithm.answer data = .ok output := by
  unfold Step.fresh
  cases s.descriptor.build (params.forAlgorithm s.algorithm) with
  | error cause => simp
  | ok algorithm => rcases hanswer : algorithm.answer data with (cause | payload) | answer <;>
      simp [hanswer]

namespace Pipeline

/-- What some steps hand on, one after another. -/
def handedOn (params : ParamSet) (data : List Document) (steps : List Step) :
    Except Error (List Document) :=
  steps.foldlM (fun data s => (s.fresh params data).map Document.dataset) data

/-- How a pipeline of these steps ends on the data. -/
inductive Ends (params : ParamSet) (data : List Document) (steps : List Step) :
    Except Error (Document × List (String × String)) → Prop
  /-- There are too few documents. -/
  | tooFew : data.length < 2 →
      Ends params data steps (.error (.usage (.tooFewStructures 2 data.length)))
  /-- There are no steps. -/
  | noSteps : 2 ≤ data.length → steps = [] →
      Ends params data steps (.error (.usage .emptyPipeline))
  /-- A step cannot be configured, and those before it can. -/
  | refused {earlier later : List Step} {s : Step} {cause : Error} : 2 ≤ data.length →
      steps = earlier ++ s :: later → (∀ t ∈ earlier, t.IsConfigurable params) →
      s.descriptor.build (params.forAlgorithm s.algorithm) = .error cause →
      Ends params data steps (.error cause)
  /-- All steps can be configured, and one fails on what those before it hand on. -/
  | failed {earlier later : List Step} {s : Step} {cause : Error} {mid : List Document} :
      2 ≤ data.length → (∀ t ∈ steps, t.IsConfigurable params) →
      steps = earlier ++ s :: later → handedOn params data earlier = .ok mid →
      s.fresh params mid = .error cause →
      Ends params data steps (.error (.stepFailed s.algorithm cause))
  /-- All steps can be configured, and the last one answers. -/
  | answered {earlier : List Step} {last : Step} {mid : List Document} {output : Document} :
      2 ≤ data.length → (∀ t ∈ steps, t.IsConfigurable params) →
      steps = earlier ++ [last] → handedOn params data earlier = .ok mid →
      last.fresh params mid = .ok output →
      Ends params data steps (.ok (output, steps.map fun s => (s.stage, s.algorithm)))

theorem handedOn_append_singleton_eq_ok_iff {params : ParamSet} {data final : List Document}
    {earlier : List Step} {last : Step} :
    handedOn params data (earlier ++ [last]) = .ok final ↔ ∃ mid output,
      handedOn params data earlier = .ok mid ∧ last.fresh params mid = .ok output ∧
        output.dataset = final := by
  rw [handedOn, List.foldlM_append, ← handedOn]
  simp only [bind_eq_ok_iff, List.foldlM_cons, List.foldlM_nil, map_eq_ok_iff, pure_eq_ok_iff]
  constructor
  · rintro ⟨mid, hmid, -, ⟨output, houtput, rfl⟩, hfinal⟩
    exact ⟨mid, output, hmid, houtput, hfinal⟩
  · rintro ⟨mid, output, hmid, houtput, hfinal⟩
    exact ⟨mid, hmid, output.dataset, ⟨output, houtput, rfl⟩, hfinal⟩

/-! ## Configuring -/

theorem configureStep_eq_ok_iff {params : ParamSet} {s : Step} {stage : Stage} :
    configureStep params s = .ok stage ↔ stage.step = s ∧
      s.descriptor.build (params.forAlgorithm s.algorithm) = .ok stage.algorithm := by
  simp only [configureStep, bind_eq_ok_iff, pure_eq_ok_iff]
  constructor
  · rintro ⟨algorithm, h, rfl⟩
    exact ⟨rfl, h⟩
  · rintro ⟨rfl, h⟩
    exact ⟨stage.algorithm, h, rfl⟩

theorem configureStep_eq_error_iff {params : ParamSet} {s : Step} {cause : Error} :
    configureStep params s = .error cause ↔
      s.descriptor.build (params.forAlgorithm s.algorithm) = .error cause := by
  simp only [configureStep, bind_eq_error_iff, or_iff_left_iff_imp]
  rintro ⟨algorithm, -, h⟩
  cases h

theorem exists_configureStep_iff {params : ParamSet} {s : Step} :
    (∃ stage, configureStep params s = .ok stage) ↔ s.IsConfigurable params := by
  constructor
  · rintro ⟨stage, h⟩
    exact ⟨stage.algorithm, (configureStep_eq_ok_iff.mp h).2⟩
  · rintro ⟨algorithm, h⟩
    exact ⟨⟨s, algorithm⟩, configureStep_eq_ok_iff.mpr ⟨rfl, h⟩⟩

/-- A configured step answers as a fresh instance of it does. -/
theorem answer_of_configureStep {params : ParamSet} {s : Step} {stage : Stage}
    (h : configureStep params s = .ok stage) (data : List Document) :
    stage.answer data = (s.fresh params data).mapError (.stepFailed s.algorithm) := by
  obtain ⟨rfl, hbuild⟩ := configureStep_eq_ok_iff.mp h
  rw [Step.fresh, hbuild, Stage.answer]
  rcases hanswer : stage.algorithm.answer data with (cause | payload) | output <;>
    simp [hanswer, contain, Except.mapError]

/-- The steps and their stages, once all are configured. -/
abbrev Configured (params : ParamSet) (steps : List Step) (stages : List Stage) : Prop :=
  List.Forall₂ (fun s stage => configureStep params s = .ok stage) steps stages

theorem exists_configured {params : ParamSet} {steps : List Step}
    (h : ∀ s ∈ steps, s.IsConfigurable params) : ∃ stages, Configured params steps stages := by
  obtain ⟨stages, hstages⟩ := exists_mapM_eq_ok fun s hs => exists_configureStep_iff.mpr (h s hs)
  exact ⟨stages, mapM_eq_ok_iff.mp hstages⟩

theorem Configured.isConfigurable {params : ParamSet} {steps : List Step}
    {stages : List Stage} (h : Configured params steps stages) :
    ∀ s ∈ steps, s.IsConfigurable params := by
  intro s hs
  obtain ⟨stage, -, hstage⟩ := exists_of_mem_forall₂ h.flip hs
  exact exists_configureStep_iff.mp ⟨stage, hstage⟩

/-- Where a list of steps is split, its stages are. -/
theorem exists_configured_split {params : ParamSet} {earlier later : List Step} {s : Step}
    (h : ∀ t ∈ earlier ++ s :: later, t.IsConfigurable params) :
    ∃ before stage after, Configured params earlier before ∧
      configureStep params s = .ok stage ∧
      Configured params (earlier ++ s :: later) (before ++ stage :: after) := by
  obtain ⟨before, hbefore⟩ :=
    exists_configured fun t ht => h t (List.mem_append_left (s :: later) ht)
  obtain ⟨stage, hstage⟩ := exists_configureStep_iff.mpr
    (h s (List.mem_append_right earlier List.mem_cons_self))
  obtain ⟨after, hafter⟩ := exists_configured fun t ht =>
    h t (List.mem_append_right earlier (List.mem_cons_of_mem s ht))
  exact ⟨before, stage, after, hbefore, hstage,
    List.rel_append hbefore (List.Forall₂.cons hstage hafter)⟩

/-! ## Running the stages -/

theorem runStages_cons (data : List Document) (stage : Stage) {rest : List Stage}
    (hrest : rest ≠ []) :
    runStages data (stage :: rest) =
      (stage.answer data).bind fun output => runStages output.dataset rest := by
  cases rest with
  | nil => exact absurd rfl hrest
  | cons next rest => rfl

/-- After some stages the others run on what those hand on. -/
theorem runStages_append {params : ParamSet} {earlier : List Step} {stages rest : List Stage}
    (h : Configured params earlier stages) (hrest : rest ≠ []) {data mid : List Document}
    (hmid : handedOn params data earlier = .ok mid) :
    runStages data (stages ++ rest) = runStages mid rest := by
  induction h generalizing data with
  | nil =>
    obtain rfl := Except.ok.inj hmid
    rfl
  | @cons s stage earlier stages hs hstages ih =>
    rw [handedOn, List.foldlM_cons] at hmid
    rw [List.cons_append, runStages_cons data stage (List.append_ne_nil_of_right_ne_nil _ hrest),
      answer_of_configureStep hs]
    cases hfresh : s.fresh params data with
    | error cause => rw [hfresh] at hmid; cases hmid
    | ok output =>
      rw [hfresh] at hmid
      exact ih hmid

theorem runStages_of_error {data : List Document} {stage : Stage} {cause : Error}
    (h : stage.answer data = .error cause) (later : List Stage) :
    runStages data (stage :: later) = .error cause := by
  cases later with
  | nil => exact h
  | cons next rest => rw [runStages_cons data stage (List.cons_ne_nil next rest), h]; rfl

/-! ## The whole run -/

theorem run_of_tooFew {params : ParamSet} {data : List Document} {p : Pipeline}
    (h : data.length < 2) :
    p.run data params = .error (.usage (.tooFewStructures 2 data.length)) := by
  have hdata : ensureComparable data = .error (.usage (.tooFewStructures 2 data.length)) :=
    if_pos h
  rw [run, hdata]
  rfl

theorem run_of_steps {params : ParamSet} {data : List Document} {p : Pipeline}
    (h : 2 ≤ data.length) (hsteps : p.steps ≠ []) :
    p.run data params = (p.steps.mapM (configureStep params)).bind fun stages =>
      (runStages data stages).map fun output =>
        (output, p.steps.map fun s => (s.stage, s.algorithm)) := by
  have hdata : ensureComparable data = .ok () := if_neg (Nat.not_lt.mpr h)
  have hempty : p.steps.isEmpty = false := by simpa using hsteps
  rw [run, hdata]
  simp only [hempty, Bool.false_eq_true, if_false]
  cases p.steps.mapM (configureStep params) with
  | error cause => rfl
  | ok stages => cases hrun : runStages data stages <;> simp [bind, Except.bind, hrun] <;> rfl

theorem run_of_configured {params : ParamSet} {data : List Document} {p : Pipeline}
    {stages : List Stage} (h : 2 ≤ data.length) (hsteps : p.steps ≠ [])
    (hstages : Configured params p.steps stages) :
    p.run data params = (runStages data stages).map fun output =>
      (output, p.steps.map fun s => (s.stage, s.algorithm)) := by
  rw [run_of_steps h hsteps, mapM_eq_ok_iff.mpr hstages]
  rfl

/-- The first step that cannot be configured decides the error, whatever the data. -/
theorem run_of_refused {params : ParamSet} {data : List Document} {p : Pipeline}
    {earlier later : List Step} {s : Step} {cause : Error} (h : 2 ≤ data.length)
    (hsteps : p.steps = earlier ++ s :: later) (hearlier : ∀ t ∈ earlier, t.IsConfigurable params)
    (hcause : s.descriptor.build (params.forAlgorithm s.algorithm) = .error cause) :
    p.run data params = .error cause := by
  have hne : p.steps ≠ [] :=
    hsteps ▸ List.append_ne_nil_of_right_ne_nil earlier (List.cons_ne_nil s later)
  have hmapM : p.steps.mapM (configureStep params) = .error cause :=
    mapM_eq_error_iff.mpr ⟨earlier, s, later, hsteps,
      fun t ht => exists_configureStep_iff.mpr (hearlier t ht),
      configureStep_eq_error_iff.mpr hcause⟩
  rw [run_of_steps h hne, hmapM]
  rfl

/-- The first step that fails decides the error, whatever comes after it. -/
theorem run_of_failed {params : ParamSet} {data mid : List Document} {p : Pipeline}
    {earlier later : List Step} {s : Step} {cause : Error} (h : 2 ≤ data.length)
    (hall : ∀ t ∈ p.steps, t.IsConfigurable params) (hsteps : p.steps = earlier ++ s :: later)
    (hmid : handedOn params data earlier = .ok mid) (hcause : s.fresh params mid = .error cause) :
    p.run data params = .error (.stepFailed s.algorithm cause) := by
  have hne : p.steps ≠ [] :=
    hsteps ▸ List.append_ne_nil_of_right_ne_nil earlier (List.cons_ne_nil s later)
  obtain ⟨before, stage, after, hbefore, hstage, hstages⟩ := exists_configured_split (hsteps ▸ hall)
  have hanswer : stage.answer mid = .error (.stepFailed s.algorithm cause) := by
    rw [answer_of_configureStep hstage, hcause]
    rfl
  rw [run_of_configured h hne (hsteps ▸ hstages),
    runStages_append hbefore (List.cons_ne_nil stage after) hmid,
    runStages_of_error hanswer after]
  rfl

theorem run_of_answered {params : ParamSet} {data mid : List Document} {p : Pipeline}
    {earlier : List Step} {last : Step} {output : Document} (h : 2 ≤ data.length)
    (hall : ∀ t ∈ p.steps, t.IsConfigurable params) (hsteps : p.steps = earlier ++ [last])
    (hmid : handedOn params data earlier = .ok mid) (houtput : last.fresh params mid = .ok output) :
    p.run data params = .ok (output, p.steps.map fun s => (s.stage, s.algorithm)) := by
  have hne : p.steps ≠ [] :=
    hsteps ▸ List.append_ne_nil_of_right_ne_nil earlier (List.cons_ne_nil last [])
  obtain ⟨before, hbefore⟩ := exists_configured fun t ht =>
    hall t (hsteps ▸ List.mem_append_left [last] ht)
  obtain ⟨stage, hstage⟩ := exists_configureStep_iff.mpr
    (hall last (hsteps ▸ List.mem_append_right earlier List.mem_cons_self))
  have hstages : Configured params p.steps (before ++ [stage]) :=
    hsteps ▸ List.rel_append hbefore (List.Forall₂.cons hstage List.Forall₂.nil)
  have hanswer : runStages mid [stage] = .ok output := by
    rw [runStages, answer_of_configureStep hstage, houtput]
    rfl
  rw [run_of_configured h hne hstages,
    runStages_append hbefore (List.cons_ne_nil stage []) hmid, hanswer]
  rfl

/-! ## The run is the fold -/

/-- The fold ends in one of the ways it may end. -/
theorem exists_ends (params : ParamSet) (data : List Document) (steps : List Step) :
    ∃ result, Ends params data steps result := by
  rcases Nat.lt_or_ge data.length 2 with hlen | hlen
  · exact ⟨_, .tooFew hlen⟩
  rcases List.eq_nil_or_concat' steps with hsteps | ⟨earlier, last, hsteps⟩
  · exact ⟨_, .noSteps hlen hsteps⟩
  cases hmapM : steps.mapM (configureStep params) with
  | error cause =>
    obtain ⟨before, s, later, hsplit, hbefore, hs⟩ := mapM_eq_error_iff.mp hmapM
    exact ⟨_, .refused hlen hsplit (fun t ht => exists_configureStep_iff.mp (hbefore t ht))
      (configureStep_eq_error_iff.mp hs)⟩
  | ok stages =>
    have hall := Configured.isConfigurable (mapM_eq_ok_iff.mp hmapM)
    cases hfold : handedOn params data steps with
    | error cause =>
      obtain ⟨before, s, later, mid, hsplit, hmid, hs⟩ := foldlM_eq_error_iff.mp hfold
      exact ⟨_, .failed hlen hall hsplit hmid (map_eq_error_iff.mp hs)⟩
    | ok final =>
      rw [hsteps, handedOn_append_singleton_eq_ok_iff] at hfold
      obtain ⟨mid, output, hmid, houtput, -⟩ := hfold
      exact ⟨_, .answered hlen hall hsteps hmid houtput⟩

theorem Ends.run_eq {params : ParamSet} {data : List Document} {p : Pipeline}
    {result : Except Error (Document × List (String × String))}
    (h : Ends params data p.steps result) : p.run data params = result := by
  cases h with
  | tooFew hlen => exact run_of_tooFew hlen
  | noSteps hlen hsteps =>
    have hdata : ensureComparable data = .ok () := if_neg (Nat.not_lt.mpr hlen)
    rw [run, hdata, hsteps]
    rfl
  | refused hlen hsteps hearlier hcause => exact run_of_refused hlen hsteps hearlier hcause
  | failed hlen hall hsteps hmid hcause => exact run_of_failed hlen hall hsteps hmid hcause
  | answered hlen hall hsteps hmid houtput => exact run_of_answered hlen hall hsteps hmid houtput

/-- A run ends in the way that the fold ends. -/
theorem run_eq_iff_ends {params : ParamSet} {data : List Document} {p : Pipeline}
    {result : Except Error (Document × List (String × String))} :
    p.run data params = result ↔ Ends params data p.steps result := by
  refine ⟨?_, Ends.run_eq⟩
  rintro rfl
  obtain ⟨result, h⟩ := exists_ends params data p.steps
  exact h.run_eq ▸ h

/-- A run answers exactly if the fold does, on enough documents, with steps, and with all of
them configured. -/
theorem run_answers_iff {params : ParamSet} {data : List Document} {p : Pipeline} :
    (∃ answer, p.run data params = .ok answer) ↔
      2 ≤ data.length ∧ p.steps ≠ [] ∧ (∀ s ∈ p.steps, s.IsConfigurable params) ∧
        ∃ final, handedOn params data p.steps = .ok final := by
  constructor
  · rintro ⟨answer, h⟩
    cases run_eq_iff_ends.mp h with
    | @answered earlier last mid output hlen hall hsteps hmid houtput =>
      refine ⟨hlen, ?_, hall, output.dataset, ?_⟩
      · rw [hsteps]
        exact List.append_ne_nil_of_right_ne_nil earlier (List.cons_ne_nil last [])
      · rw [hsteps, handedOn_append_singleton_eq_ok_iff]
        exact ⟨mid, output, hmid, houtput, rfl⟩
  · rintro ⟨hlen, hne, hall, final, hfinal⟩
    obtain ⟨result, h⟩ := exists_ends params data p.steps
    have hrun := h.run_eq
    cases h with
    | tooFew hlt => exact absurd hlen (Nat.not_le.mpr hlt)
    | noSteps _ hsteps => exact absurd hsteps hne
    | @refused earlier later s cause _ hsteps _ hcause =>
      obtain ⟨algorithm, hbuild⟩ :=
        hall s (hsteps ▸ List.mem_append_right earlier List.mem_cons_self)
      rw [hbuild] at hcause
      cases hcause
    | @failed earlier later s cause mid _ _ hsteps hmid hcause =>
      have hstep : (s.fresh params mid).map Document.dataset = .error cause :=
        map_eq_error_iff.mpr hcause
      rw [handedOn, foldlM_eq_error_iff.mpr ⟨earlier, s, later, mid, hsteps, hmid, hstep⟩] at hfinal
      cases hfinal
    | answered => exact ⟨_, hrun⟩

/-- Once a step fails, other steps in place of those after it change nothing. -/
theorem run_eq_of_later {params : ParamSet} {data mid : List Document}
    {earlier later other : List Step} {s : Step} {cause : Error}
    (hall : ∀ t ∈ earlier ++ s :: later, t.IsConfigurable params)
    (hother : ∀ t ∈ other, t.IsConfigurable params)
    (hmid : handedOn params data earlier = .ok mid) (hcause : s.fresh params mid = .error cause) :
    (Pipeline.mk (earlier ++ s :: other)).run data params =
      (Pipeline.mk (earlier ++ s :: later)).run data params := by
  rcases Nat.lt_or_ge data.length 2 with hlen | hlen
  · rw [run_of_tooFew hlen, run_of_tooFew hlen]
  · have hall' : ∀ t ∈ earlier ++ s :: other, t.IsConfigurable params := by
      intro t ht
      rcases List.mem_append.mp ht with ht | ht
      · exact hall t (List.mem_append_left (s :: later) ht)
      rcases List.mem_cons.mp ht with rfl | ht
      · exact hall t (List.mem_append_right earlier List.mem_cons_self)
      · exact hother t ht
    rw [run_of_failed hlen hall' rfl hmid hcause, run_of_failed hlen hall rfl hmid hcause]

/-- A run ends as the fold over its steps does, and answers exactly if the fold does; once a
step fails, those after it have no say. -/
theorem run_is_fold (p : Pipeline) (data : List Document) (params : ParamSet) :
    (∀ result, p.run data params = result ↔ Ends params data p.steps result) ∧
      ((∃ answer, p.run data params = .ok answer) ↔
        2 ≤ data.length ∧ p.steps ≠ [] ∧ (∀ s ∈ p.steps, s.IsConfigurable params) ∧
          ∃ final, handedOn params data p.steps = .ok final) ∧
      ∀ earlier s later other mid cause, p.steps = earlier ++ s :: later →
        (∀ t ∈ p.steps, t.IsConfigurable params) → (∀ t ∈ other, t.IsConfigurable params) →
        handedOn params data earlier = .ok mid → s.fresh params mid = .error cause →
        (Pipeline.mk (earlier ++ s :: other)).run data params = p.run data params := by
  refine ⟨fun result => run_eq_iff_ends, run_answers_iff, ?_⟩
  intro earlier s later other mid cause hsteps hall hother hmid hcause
  obtain ⟨steps⟩ := p
  obtain rfl := hsteps
  exact run_eq_of_later hall hother hmid hcause

end Pipeline

end SurfaceDrift
