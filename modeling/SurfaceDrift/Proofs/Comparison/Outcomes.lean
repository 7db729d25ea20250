import SurfaceDrift.Proofs.Catalog
import SurfaceDrift.Proofs.Comparison.Workers
import SurfaceDrift.Proofs.Sequence

/-!
# Each algorithm on its own

The task for a request is made from the descriptor under the lowercase of the name and from
the parameters held for it, and from nothing else (`Task.IsOf`), so that two requests of one
name make the same task. Therefore the workers come to what the tasks one after another come
to (`ends_iff_run`).

`Alone` is the outcome of an algorithm that is configured and run with no other beside it.
`outcomes_alone` : a comparison that ends with outcomes has one under the lowercase of each
requested name and no other, each is the outcome of that algorithm alone, and two
comparisons agree on an algorithm that they both run with the same parameters on the same
data, whatever else they run.
-/

namespace SurfaceDrift.Comparison

variable {catalog : Catalog} {data : List Document} {requested : Option (List String)}
  {params : ParamSet}

/-- The names that outcomes go under : the lowercase of those requested, or all of the
catalog. -/
def requestedKeys (catalog : Catalog) : Option (List String) → List String
  | none => catalog.names
  | some names => names.map Text.lower

/-- What an algorithm comes to that is configured and run on its own. -/
inductive Alone (catalog : Catalog) (data : List Document) (params : ParamSet) (name : String) :
    Outcome → Prop
  /-- It answers. -/
  | answers {d : Descriptor} {algorithm : Algorithm} {output : Document} :
      catalog.get? name = some d → d.build (params.forAlgorithm name) = .ok algorithm →
      algorithm.answer data = .ok output → Alone catalog data params name (.success output)
  /-- It fails with an error. -/
  | fails {d : Descriptor} {algorithm : Algorithm} {cause : Error} :
      catalog.get? name = some d → d.build (params.forAlgorithm name) = .ok algorithm →
      algorithm.answer data = .error (.error cause) →
      Alone catalog data params name (.failed cause.message)
  /-- It panics. -/
  | panics {d : Descriptor} {algorithm : Algorithm} {payload : Panic} :
      catalog.get? name = some d → d.build (params.forAlgorithm name) = .ok algorithm →
      algorithm.answer data = .error (.panic payload) →
      Alone catalog data params name
        (.failed (Error.execution (.panicked name payload.message)).message)

/-! ## Tasks -/

/-- The task is made from the descriptor and the parameters of its name. -/
def Task.IsOf (catalog : Catalog) (params : ParamSet) (t : Task) : Prop :=
  ∃ d, catalog.get? t.name = some d ∧
    d.build (params.forAlgorithm t.name) = .ok t.algorithm

/-- There is one task of a name. -/
theorem Task.IsOf.ext {t u : Task} (ht : t.IsOf catalog params) (hu : u.IsOf catalog params)
    (h : t.name = u.name) : t = u := by
  obtain ⟨d, hd, hbuild⟩ := ht
  obtain ⟨e, he, hbuild'⟩ := hu
  obtain ⟨name, algorithm⟩ := t
  obtain ⟨other, algorithm'⟩ := u
  obtain rfl : name = other := h
  obtain rfl := Option.some.inj (hd.symm.trans he)
  obtain rfl := Except.ok.inj (hbuild.symm.trans hbuild')
  rfl

theorem configure_eq_ok_iff {name : String} {t : Task} :
    configure catalog params name = .ok t ↔ ∃ d, catalog.get? name = some d ∧
      d.build (params.forAlgorithm d.name) = .ok t.algorithm ∧ t.name = d.name := by
  simp only [configure, bind_eq_ok_iff, pure_eq_ok_iff, Catalog.resolve_eq_ok_iff]
  constructor
  · rintro ⟨d, hd, algorithm, hbuild, rfl⟩
    exact ⟨d, hd, hbuild, rfl⟩
  · rintro ⟨d, hd, hbuild, hname⟩
    exact ⟨d, hd, t.algorithm, hbuild, hname ▸ rfl⟩

/-- A task goes under the lowercase of the name it is requested by. -/
theorem name_of_configure (hkeyed : catalog.IsKeyed) {name : String} {t : Task}
    (h : configure catalog params name = .ok t) : t.name = Text.lower name := by
  obtain ⟨d, hd, -, hname⟩ := configure_eq_ok_iff.mp h
  rw [hname, hkeyed.name_of_get? hd]

theorem isOf_of_configure (hkeyed : catalog.IsKeyed) {name : String} {t : Task}
    (h : configure catalog params name = .ok t) : t.IsOf catalog params := by
  obtain ⟨d, hd, hbuild, hname⟩ := configure_eq_ok_iff.mp h
  refine ⟨d, ?_, hname ▸ hbuild⟩
  rw [hname, hkeyed.name_of_get? hd, Catalog.get?_lower, hd]

theorem prepare_eq_ok_iff {tasks : List Task} :
    prepare catalog data requested params = .ok tasks ↔ ensureComparable data = .ok () ∧
      ∃ names, requestedNames catalog requested = .ok names ∧
        List.Forall₂ (fun name t => configure catalog params name = .ok t) names tasks := by
  simp only [prepare, bind_eq_ok_iff, mapM_eq_ok_iff]
  exact ⟨fun ⟨_, hdata, hnames⟩ => ⟨hdata, hnames⟩, fun ⟨hdata, hnames⟩ => ⟨(), hdata, hnames⟩⟩

theorem isOf_of_mem_prepare (hkeyed : catalog.IsKeyed) {tasks : List Task}
    (h : prepare catalog data requested params = .ok tasks) :
    ∀ t ∈ tasks, t.IsOf catalog params := by
  intro t ht
  obtain ⟨-, names, -, hall⟩ := prepare_eq_ok_iff.mp h
  obtain ⟨name, -, hname⟩ := exists_of_mem_forall₂ hall ht
  exact isOf_of_configure hkeyed hname

/-- The names of the tasks are the lowercase of the names requested. -/
theorem map_name_of_prepare (hkeyed : catalog.IsKeyed) {tasks : List Task}
    (h : prepare catalog data requested params = .ok tasks) :
    tasks.map Task.name = requestedKeys catalog requested := by
  obtain ⟨-, names, hnames, hall⟩ := prepare_eq_ok_iff.mp h
  have hlower : tasks.map Task.name = names.map Text.lower := by
    clear hnames h
    induction hall with
    | nil => rfl
    | cons ht _ ih => rw [List.map_cons, List.map_cons, ih, name_of_configure hkeyed ht]
  rw [hlower]
  match requested, hnames with
  | none, hnames =>
    obtain rfl := Except.ok.inj hnames
    exact (List.map_congr_left fun name hname => hkeyed.lower_of_mem_names hname).trans
      (List.map_id _)
  | some [], hnames => cases hnames
  | some (first :: rest), hnames =>
    obtain rfl := Except.ok.inj hnames
    rfl

/-! ## All workers come to the same -/

/-- What workers come to is what the tasks one after another come to. -/
theorem Ends.run_eq (hkeyed : catalog.IsKeyed) {workers : Nat} {result : Except Error Results}
    (h : Ends workers catalog data requested params result) :
    run catalog data requested params = result := by
  cases h with
  | refused hprepare => rw [run, hprepare]; rfl
  | @finished tasks p hprepare hrun hdone =>
    have htasks := isOf_of_mem_prepare hkeyed hprepare
    have hholds := hrun.holds (Pool.holds_start data workers tasks)
    rw [run, hprepare, hholds.outcomes_eq hdone fun t ht u hu => (htasks t ht).ext (htasks u hu)]
    rfl

/-- As long as there is a worker, a comparison ends, and in one way only. -/
theorem ends_iff_run (hkeyed : catalog.IsKeyed) {workers : Nat} (hworkers : 0 < workers)
    {result : Except Error Results} :
    Ends workers catalog data requested params result ↔
      run catalog data requested params = result := by
  refine ⟨Ends.run_eq hkeyed, ?_⟩
  rintro rfl
  cases hprepare : prepare catalog data requested params with
  | error cause =>
    have hends : Ends workers catalog data requested params (.error cause) := .refused hprepare
    rwa [hends.run_eq hkeyed]
  | ok tasks =>
    have hlength : 0 < (Pool.start workers tasks).workers.length := by
      rw [Pool.start, List.length_replicate]
      exact hworkers
    obtain ⟨p, hrun, hdone⟩ := Pool.exists_run_isDone data (Pool.start workers tasks) hlength
    have hends := Ends.finished hprepare hrun hdone
    rwa [hends.run_eq hkeyed]

/-- A comparison ends with an error exactly if preparing does. -/
theorem ends_error_iff {workers : Nat} {e : Error} :
    Ends workers catalog data requested params (.error e) ↔
      prepare catalog data requested params = .error e :=
  ⟨fun h => by cases h with | refused h => exact h, Ends.refused⟩

/-! ## The outcomes -/

theorem Task.IsOf.alone {t : Task} (h : t.IsOf catalog params) :
    Alone catalog data params t.name (t.outcome data) := by
  obtain ⟨d, hd, hbuild⟩ := h
  rcases hanswer : t.algorithm.answer data with (cause | payload) | output
  · have houtcome : t.outcome data = .failed cause.message := by
      rw [Task.outcome, hanswer]
      rfl
    exact houtcome ▸ Alone.fails hd hbuild hanswer
  · have houtcome : t.outcome data =
        .failed (Error.execution (.panicked t.name payload.message)).message := by
      rw [Task.outcome, hanswer]
      rfl
    exact houtcome ▸ Alone.panics hd hbuild hanswer
  · have houtcome : t.outcome data = .success output := by
      rw [Task.outcome, hanswer]
      rfl
    exact houtcome ▸ Alone.answers hd hbuild hanswer

/-- What an algorithm comes to alone is the outcome of the task of its name. -/
theorem alone_iff {name : String} {outcome : Outcome} :
    Alone catalog data params name outcome ↔
      ∃ t : Task, t.IsOf catalog params ∧ t.name = name ∧ t.outcome data = outcome := by
  constructor
  · intro h
    cases h with
    | answers hd hbuild hanswer =>
      exact ⟨⟨name, _⟩, ⟨_, hd, hbuild⟩, rfl, by rw [Task.outcome, hanswer]; rfl⟩
    | fails hd hbuild hanswer =>
      exact ⟨⟨name, _⟩, ⟨_, hd, hbuild⟩, rfl, by rw [Task.outcome, hanswer]; rfl⟩
    | panics hd hbuild hanswer =>
      exact ⟨⟨name, _⟩, ⟨_, hd, hbuild⟩, rfl, by rw [Task.outcome, hanswer]; rfl⟩
  · rintro ⟨t, ht, rfl, rfl⟩
    exact ht.alone

/-- The outcomes of a comparison are those of the requested algorithms alone. -/
theorem Ends.find?_eq_some_iff (hkeyed : catalog.IsKeyed) {workers : Nat} {results : Results}
    (h : Ends workers catalog data requested params (.ok results)) {name : String}
    {outcome : Outcome} :
    Fields.find? results name = some outcome ↔
      name ∈ requestedKeys catalog requested ∧ Alone catalog data params name outcome := by
  cases h with
  | @finished tasks p hprepare hrun hdone =>
    have htasks := isOf_of_mem_prepare hkeyed hprepare
    have hholds := hrun.holds (Pool.holds_start data workers tasks)
    rw [← map_name_of_prepare hkeyed hprepare, alone_iff,
      hholds.find?_eq_some_iff hdone fun t ht u hu => (htasks t ht).ext (htasks u hu)]
    constructor
    · rintro ⟨t, ht, rfl, rfl⟩
      exact ⟨List.mem_map_of_mem ht, t, htasks t ht, rfl, rfl⟩
    · rintro ⟨hname, t, ht, rfl, rfl⟩
      obtain ⟨u, hu, hsame⟩ := List.mem_map.mp hname
      obtain rfl := (htasks u hu).ext ht hsame
      exact ⟨u, hu, rfl, rfl⟩

theorem Ends.ascending {workers : Nat} {results : Results}
    (h : Ends workers catalog data requested params (.ok results)) :
    Fields.Ascending results := by
  cases h with
  | @finished tasks p hprepare hrun hdone =>
    exact (hrun.holds (Pool.holds_start data workers tasks)).ascending

/-- Every requested algorithm has an outcome. -/
theorem Ends.mem_names_iff (hkeyed : catalog.IsKeyed) {workers : Nat} {results : Results}
    (h : Ends workers catalog data requested params (.ok results)) {name : String} :
    name ∈ Fields.names results ↔ name ∈ requestedKeys catalog requested := by
  rw [← Fields.exists_find?_iff]
  constructor
  · rintro ⟨outcome, hfind⟩
    exact ((h.find?_eq_some_iff hkeyed).mp hfind).1
  · intro hname
    cases h with
    | @finished tasks p hprepare hrun hdone =>
      rw [← map_name_of_prepare hkeyed hprepare] at hname
      obtain ⟨t, ht, rfl⟩ := List.mem_map.mp hname
      have htasks := isOf_of_mem_prepare hkeyed hprepare
      have hholds := hrun.holds (Pool.holds_start data workers tasks)
      exact ⟨t.outcome data, (hholds.find?_eq_some_iff hdone fun t ht u hu =>
        (htasks t ht).ext (htasks u hu)).mpr ⟨t, ht, rfl, rfl⟩⟩

/-- What an algorithm comes to alone depends on its descriptor and its parameters only. -/
theorem alone_congr {catalog' : Catalog} {params' : ParamSet} {name : String}
    {outcome : Outcome} (hget : catalog'.get? name = catalog.get? name)
    (hparams : params'.forAlgorithm name = params.forAlgorithm name) :
    Alone catalog' data params' name outcome ↔ Alone catalog data params name outcome := by
  rw [alone_iff, alone_iff]
  refine exists_congr fun t => and_congr_left fun h => ?_
  obtain ⟨rfl, -⟩ := h
  rw [Task.IsOf, Task.IsOf, hget, hparams]

/-- A comparison that ends with outcomes has those of the requested algorithms, each as it is
alone. So two comparisons agree on every algorithm that both run with the same parameters,
and altogether if they run the same ones. -/
theorem outcomes_alone {processors : Nat} {jobs : Option Nat} {results : Results}
    (hbuilt : catalog.Built)
    (h : Ends (workerCount processors jobs) catalog data requested params (.ok results)) :
    (∀ name, name ∈ Fields.names results ↔ name ∈ requestedKeys catalog requested) ∧
      (∀ name outcome, Fields.find? results name = some outcome ↔
        name ∈ requestedKeys catalog requested ∧ Alone catalog data params name outcome) ∧
      (∀ catalog' requested' params' processors' jobs' results', Catalog.Built catalog' →
        Ends (workerCount processors' jobs') catalog' data requested' params' (.ok results') →
        ∀ name, name ∈ Fields.names results → name ∈ Fields.names results' →
          catalog'.get? name = catalog.get? name →
          params'.forAlgorithm name = params.forAlgorithm name →
          Fields.find? results' name = Fields.find? results name) ∧
      ∀ requested' params' processors' jobs' results',
        Ends (workerCount processors' jobs') catalog data requested' params' (.ok results') →
        (∀ name, name ∈ requestedKeys catalog requested' ↔
          name ∈ requestedKeys catalog requested) →
        (∀ name ∈ requestedKeys catalog requested,
          params'.forAlgorithm name = params.forAlgorithm name) →
        results' = results := by
  have hkeyed := hbuilt.isKeyed
  refine ⟨fun name => h.mem_names_iff hkeyed,
    fun name outcome => h.find?_eq_some_iff hkeyed, ?_, ?_⟩
  · intro catalog' requested' params' processors' jobs' results' hbuilt' h' name hname hname'
      hget hparams
    have hkeyed' := hbuilt'.isKeyed
    rw [h.mem_names_iff hkeyed] at hname
    rw [h'.mem_names_iff hkeyed'] at hname'
    refine Option.ext fun outcome => ?_
    rw [h.find?_eq_some_iff hkeyed, h'.find?_eq_some_iff hkeyed', and_iff_right hname,
      and_iff_right hname', alone_congr hget hparams]
  · intro requested' params' processors' jobs' results' h' hkeys hparams
    refine h'.ascending.ext h.ascending fun name => Option.ext fun outcome => ?_
    rw [h.find?_eq_some_iff hkeyed, h'.find?_eq_some_iff hkeyed, hkeys]
    exact and_congr_right fun hname => alone_congr rfl (hparams name hname)

/-! ## An algorithm that answers beside one that panics -/

/-- A descriptor without options, of an algorithm that answers by a function. -/
def answering (display : String) (answer : List Document → Except Failure Document) :
    Descriptor :=
  ⟨display, .transformation, "", [], fun _ => .ok ⟨Text.lower display, answer⟩⟩

/-- An algorithm that gives back its data. -/
def echo : Descriptor := answering "Echo" fun data => .ok (.list data)

/-- An algorithm that panics. -/
def panicking : Descriptor := answering "Panic" fun _ => .error (.panic (.text "no answer"))

/-- The two of them. -/
def echoAndPanic : Catalog := Catalog.discover [echo, panicking]

theorem outcomes_alone_echoAndPanic :
    ∃ results, Ends (workerCount 8 (some 2)) echoAndPanic [.null, .null]
        (some ["PANIC", "echo", "Echo"]) [] (.ok results) ∧
      Fields.find? results "echo" = some (.success (.list [.null, .null])) ∧
      Fields.find? results "panic" =
        some (.failed "Algorithm execution error: panic panicked: no answer") := by
  have hbuilt : echoAndPanic.Built := Catalog.built_discover _
  have hok : (run echoAndPanic [.null, .null] (some ["PANIC", "echo", "Echo"])
      []).toOption.isSome = true := by
    decide +kernel
  cases hrun : run echoAndPanic [.null, .null] (some ["PANIC", "echo", "Echo"]) [] with
  | error cause => rw [hrun] at hok; cases hok
  | ok results =>
    have hends := (ends_iff_run hbuilt.isKeyed (show 0 < workerCount 8 (some 2) by decide)).mpr
      hrun
    have hecho : echoAndPanic.get? "echo" = some echo := rfl
    have hpanicking : echoAndPanic.get? "panic" = some panicking := rfl
    obtain ⟨-, hfind, -, -⟩ := outcomes_alone hbuilt hends
    have hkeys : requestedKeys echoAndPanic (some ["PANIC", "echo", "Echo"]) =
        ["panic", "echo", "echo"] := by decide +kernel
    rw [hkeys] at hfind
    refine ⟨results, hends, (hfind _ _).mpr ⟨by simp, ?_⟩, (hfind _ _).mpr ⟨by simp, ?_⟩⟩
    · exact Alone.answers hecho rfl rfl
    · exact @Alone.panics _ _ _ _ panicking _ (.text "no answer") hpanicking rfl rfl

end SurfaceDrift.Comparison
