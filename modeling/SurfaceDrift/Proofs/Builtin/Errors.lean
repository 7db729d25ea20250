import SurfaceDrift.Proofs.Builtin.Answers
import SurfaceDrift.Proofs.Catalog.History
import SurfaceDrift.Proofs.Pipeline.Fold

/-!
# Which errors the library's algorithms lead to

The catalog of the library holds nothing but its own algorithms
(`Catalog.exists_builtin_of_get?`). Hence a comparison on it is refused only before it looks
at data, by an error that does not depend on them, and what it records of an algorithm that
fails is a cause in the data. A pipeline on it is refused in the same way, or stops at a
step that fails for a cause in the data. `builtin_errors` puts these together.
-/

namespace SurfaceDrift

/-! ## The catalog of the library -/

namespace Catalog

/-- A catalog holds only descriptors that were put into it. -/
theorem mem_of_mem_discover {descriptors : List Descriptor} {entry : String × Descriptor}
    (h : entry ∈ (discover descriptors).entries) : entry.2 ∈ descriptors := by
  rw [discover_eq] at h
  obtain ⟨d, hd, rfl⟩ := List.mem_map.mp (Fields.mem_of_mem_ofList h)
  exact (List.mem_filter.mp hd).1

theorem built_builtin : builtin.Built := built_discover _

theorem exists_builtin_of_get? {name : String} {d : Descriptor}
    (h : builtin.get? name = some d) : ∃ b : Builtin, d = b.descriptor := by
  obtain ⟨b, -, hb⟩ := List.mem_map.mp (mem_of_mem_discover (Fields.mem_of_find? h))
  exact ⟨b, hb.symm⟩

end Catalog

/-- An algorithm of the library refuses parameters as a bad configuration. -/
theorem Builtin.isMisconfiguration_of_build {b : Builtin} {params : Params} {cause : Error}
    (h : b.descriptor.build params = .error cause) : cause.IsMisconfiguration :=
  b.failsOnly_configure params cause (map_eq_error_iff.mp h)

/-- An algorithm of the library that is built fails on data. -/
theorem Builtin.isData_of_answer {b : Builtin} {params : Params} {algorithm : Algorithm}
    (h : b.descriptor.build params = .ok algorithm) {data : List Document} {failure : Failure}
    (hfailure : algorithm.answer data = .error failure) : failure.IsData := by
  obtain ⟨c, hc, rfl⟩ := map_eq_ok_iff.mp h
  exact Builtin.failsOnly_answer hc data failure hfailure

theorem Error.isConfiguration_of_isMisconfiguration {e : Error} (h : e.IsMisconfiguration) :
    e.isConfiguration = true := by
  obtain ⟨fault, rfl⟩ := h
  rfl

/-! ## Comparisons -/

namespace Comparison

theorem failsOnly_configure (params : ParamSet) (name : String) :
    FailsOnly (fun e => e.isConfiguration = true) (configure Catalog.builtin params name) := by
  refine .bind (fun e h => ?_) fun d hd => .bind (fun e h => ?_) fun _ _ => .ok _
  · unfold Catalog.resolve at h
    split at h
    · cases h
    · obtain rfl := Except.error.inj h
      rfl
  · obtain ⟨b, rfl⟩ := Catalog.exists_builtin_of_get? (Catalog.resolve_eq_ok_iff.mp hd)
    exact Error.isConfiguration_of_isMisconfiguration (Builtin.isMisconfiguration_of_build h)

/-- A comparison is refused for its configuration only. -/
theorem failsOnly_prepare (data : List Document) (requested : Option (List String))
    (params : ParamSet) :
    FailsOnly (fun e => e.isConfiguration = true)
      (prepare Catalog.builtin data requested params) := by
  refine .bind ?_ fun _ _ => .bind ?_ fun names _ =>
    .mapM fun name _ => failsOnly_configure params name
  · unfold ensureComparable
    split_ifs
    · exact .error rfl
    · exact .ok _
  · unfold requestedNames
    split
    · exact .ok _
    · exact .error rfl
    · exact .ok _

/-- Preparing looks at no more of the data than whether there are enough. -/
theorem prepare_congr (catalog : Catalog) {data other : List Document}
    (h : 2 ≤ data.length) (hother : 2 ≤ other.length) (requested : Option (List String))
    (params : ParamSet) :
    prepare catalog data requested params = prepare catalog other requested params := by
  have hdata : ensureComparable data = .ok () := if_neg (Nat.not_lt.mpr h)
  have hdata' : ensureComparable other = .ok () := if_neg (Nat.not_lt.mpr hother)
  rw [prepare, prepare, hdata, hdata']

/-- What is recorded of an algorithm that fails alone is a cause in the data. -/
theorem exists_fault_of_alone {data : List Document} {params : ParamSet} {name text : String}
    (h : Alone Catalog.builtin data params name (.failed text)) :
    ∃ fault, text = (Error.data fault).message := by
  cases h with
  | fails hget hbuild hanswer =>
    obtain ⟨b, rfl⟩ := Catalog.exists_builtin_of_get? hget
    obtain ⟨fault, hfault⟩ := Builtin.isData_of_answer hbuild hanswer
    cases hfault
    exact ⟨fault, rfl⟩
  | panics hget hbuild hanswer =>
    obtain ⟨b, rfl⟩ := Catalog.exists_builtin_of_get? hget
    obtain ⟨fault, hfault⟩ := Builtin.isData_of_answer hbuild hanswer
    cases hfault

end Comparison

/-! ## Pipelines -/

namespace Pipeline

/-- The steps of a pipeline that is read over the library's catalog are its algorithms. -/
theorem exists_builtin_of_parse {text : String} {p : Pipeline}
    (h : parse Catalog.builtin text = .ok p) :
    ∀ s ∈ p.steps, ∃ b : Builtin, s.descriptor = b.descriptor := by
  intro s hs
  obtain ⟨steps, hsteps, hp⟩ := bind_eq_ok_iff.mp h
  obtain rfl := Except.ok.inj hp
  obtain ⟨piece, -, hpiece⟩ := exists_of_mem_forall₂ (mapM_eq_ok_iff.mp hsteps) hs
  obtain ⟨⟨stage, algorithm⟩, -, hstep⟩ := bind_eq_ok_iff.mp hpiece
  obtain ⟨d, hd, hstep⟩ := bind_eq_ok_iff.mp hstep
  obtain rfl := Except.ok.inj hstep
  exact Catalog.exists_builtin_of_get? (Catalog.resolve_eq_ok_iff.mp hd)

/-- A step of the library that can be configured fails on data. -/
theorem isData_of_fresh {params : ParamSet} {s : Step} {b : Builtin}
    (hb : s.descriptor = b.descriptor) (hs : s.IsConfigurable params) {data : List Document}
    {cause : Error} (h : s.fresh params data = .error cause) : cause.IsData := by
  obtain ⟨algorithm, hbuild⟩ := hs
  rw [Step.fresh, hbuild] at h
  dsimp only at h
  split at h
  · cases h
  · next failure hanswer =>
    obtain rfl := Except.error.inj h
    obtain ⟨fault, hfault⟩ := Builtin.isData_of_answer (hb ▸ hbuild) hanswer
    cases hfault
    exact ⟨fault, rfl⟩
  · next payload hanswer =>
    obtain ⟨fault, hfault⟩ := Builtin.isData_of_answer (hb ▸ hbuild) hanswer
    cases hfault

/-- A pipeline of the library's algorithms is refused for its configuration, whatever the
data, or stops at a step that fails on data. -/
theorem isConfiguration_or_isData_of_run {p : Pipeline}
    (hsteps : ∀ s ∈ p.steps, ∃ b : Builtin, s.descriptor = b.descriptor) {data : List Document}
    {params : ParamSet} {e : Error} (h : p.run data params = .error e) :
    (e.isConfiguration = true ∧ (2 ≤ data.length → ∀ other : List Document,
        2 ≤ other.length → p.run other params = .error e)) ∨
      ∃ algorithm ∈ p.algorithmNames, ∃ fault,
        e = .stepFailed algorithm (.data fault) ∧ e.rootCause = .data fault := by
  cases run_eq_iff_ends.mp h with
  | tooFew hlen => exact Or.inl ⟨rfl, fun h => absurd h (Nat.not_le.mpr hlen)⟩
  | noSteps _ hnone =>
    exact Or.inl ⟨rfl, fun _ other hother => run_eq_iff_ends.mpr (.noSteps hother hnone)⟩
  | @refused earlier later s cause _ hsplit hearlier hcause =>
    obtain ⟨b, hb⟩ := hsteps s (hsplit ▸ List.mem_append_right earlier List.mem_cons_self)
    have hfault := Builtin.isMisconfiguration_of_build (hb ▸ hcause)
    exact Or.inl ⟨Error.isConfiguration_of_isMisconfiguration hfault,
      fun _ other hother => run_of_refused hother hsplit hearlier hcause⟩
  | @failed earlier later s cause mid _ hall hsplit hmid hcause =>
    have hs : s ∈ p.steps := hsplit ▸ List.mem_append_right earlier List.mem_cons_self
    obtain ⟨b, hb⟩ := hsteps s hs
    obtain ⟨fault, rfl⟩ := isData_of_fresh hb (hall s hs) hcause
    exact Or.inr ⟨s.algorithm, List.mem_map_of_mem hs, fault, rfl, rfl⟩

end Pipeline

/-! ## Both -/

/-- On the catalog of the library a comparison is refused for its configuration only, with
the same error for all data that are enough, and records causes in the data only. A pipeline
is refused in the same way, or stops at one of its algorithms for a cause in the data. -/
theorem builtin_errors :
    (∀ data requested params processors jobs e,
      Comparison.Ends (Comparison.workerCount processors jobs) Catalog.builtin data requested
        params (.error e) → e.isConfiguration = true) ∧
    (∀ (data other : List Document) requested params processors jobs processors' jobs' e,
      2 ≤ data.length → 2 ≤ other.length →
      (Comparison.Ends (Comparison.workerCount processors jobs) Catalog.builtin data requested
          params (.error e) ↔
        Comparison.Ends (Comparison.workerCount processors' jobs') Catalog.builtin other
          requested params (.error e))) ∧
    (∀ data requested params processors jobs results name text,
      Comparison.Ends (Comparison.workerCount processors jobs) Catalog.builtin data requested
        params (.ok results) → Fields.find? results name = some (.failed text) →
      ∃ fault, text = (Error.data fault).message) ∧
    ∀ text p data params e, Pipeline.parse Catalog.builtin text = .ok p →
      p.run data params = .error e →
      (e.isConfiguration = true ∧ (2 ≤ data.length → ∀ other : List Document,
          2 ≤ other.length → p.run other params = .error e)) ∨
        ∃ algorithm ∈ p.algorithmNames, ∃ fault,
          e = .stepFailed algorithm (.data fault) ∧ e.rootCause = .data fault := by
  refine ⟨?_, ?_, ?_, ?_⟩
  · intro data requested params processors jobs e h
    exact Comparison.failsOnly_prepare data requested params e (Comparison.ends_error_iff.mp h)
  · intro data other requested params processors jobs processors' jobs' e hdata hother
    rw [Comparison.ends_error_iff, Comparison.ends_error_iff,
      Comparison.prepare_congr Catalog.builtin hdata hother requested params]
  · intro data requested params processors jobs results name text h hfind
    exact Comparison.exists_fault_of_alone
      ((h.find?_eq_some_iff Catalog.built_builtin.isKeyed).mp hfind).2
  · intro text p data params e hparse hrun
    exact Pipeline.isConfiguration_or_isData_of_run (Pipeline.exists_builtin_of_parse hparse) hrun

end SurfaceDrift
