import SurfaceDrift.Proofs.Clustering.Run
import SurfaceDrift.Proofs.Clustering.Samples
import SurfaceDrift.Proofs.Pipeline.Composition
import SurfaceDrift.Proofs.Surface.Canonical

/-!
# Clustering the members of canonical surfaces

What clustering finds in written surfaces are their members (`samples_map_toDocument`).
A surface that is made canonical first is a surface still, so that
`canon:textnormalizer,cluster:dbscan` clusters the members of the canonical surfaces and not
whole documents (`clusters_canonical_members`).
-/

namespace SurfaceDrift

namespace Clustering

/-- The comparable members of surfaces as samples. -/
def memberSamples (surfaces : List Surface) : List Sample :=
  surfaces.zipIdx.flatMap fun entry =>
    entry.1.elements.map fun e => ⟨entry.2, e.qualifiedName, .text e.comparisonText⟩

/-- The samples of written surfaces are their members. -/
theorem samples_map_toDocument {surfaces : List Surface} (h : ∀ s ∈ surfaces, s ≠ []) :
    samples (surfaces.map Surface.toDocument) = memberSamples surfaces := by
  rw [samples, List.zipIdx_map, List.flatMap_map, memberSamples]
  refine List.flatMap_congr fun entry hentry => ?_
  have hne := h entry.1 (List.fst_mem_of_mem_zipIdx hentry)
  exact samplesOf_of_read? (Surface.read?_toDocument hne) entry.2

theorem samples_map_canonical {surfaces : List Surface} (h : ∀ s ∈ surfaces, s ≠ []) :
    samples ((surfaces.map Surface.toDocument).map canonical) =
      memberSamples (surfaces.map Surface.canonical) := by
  rw [Surface.map_canonical_toDocument, samples_map_toDocument]
  intro s hs
  obtain ⟨s, hmem, rfl⟩ := List.mem_map.mp hs
  exact Surface.canonical_ne_nil (h s hmem)

end Clustering

namespace Pipeline

variable {params : ParamSet} {data : List Document}

/-- A step of the library answers as the algorithm with the parameters of its name. -/
theorem fresh_eq_ok_iff {stage : String} {b : Builtin} {output : Document} :
    Step.fresh params ⟨stage, b.descriptor⟩ data = .ok output ↔
      ∃ c, b.configure (params.forAlgorithm b.descriptor.name) = .ok c ∧
        c.algorithm.answer data = .ok output := by
  have hbuild : b.descriptor.build (params.forAlgorithm b.descriptor.name) =
    (b.configure (params.forAlgorithm b.descriptor.name)).map Configured.algorithm := rfl
  rw [Step.fresh_eq_ok_iff, Step.algorithm, hbuild]
  simp only [map_eq_ok_iff]
  constructor
  · rintro ⟨algorithm, ⟨c, hc, rfl⟩, hanswer⟩
    exact ⟨c, hc, hanswer⟩
  · rintro ⟨c, hc, hanswer⟩
    exact ⟨c.algorithm, ⟨c, hc, rfl⟩, hanswer⟩

/-- A pipeline of one step of the library answers as the algorithm does. -/
theorem run_of_answer {stage : String} {b : Builtin} {c : SurfaceDrift.Configured}
    {output : Document} (hlen : 2 ≤ data.length)
    (hc : b.configure (params.forAlgorithm b.descriptor.name) = .ok c)
    (hanswer : c.algorithm.answer data = .ok output) :
    (Pipeline.mk [⟨stage, b.descriptor⟩]).run data params =
      .ok (output, [(stage, b.descriptor.name)]) := by
  have hconfigurable : ∀ s ∈ [Step.mk stage b.descriptor], s.IsConfigurable params := by
    intro s hs
    obtain rfl := List.mem_singleton.mp hs
    exact ⟨c.algorithm, map_eq_ok_iff.mpr ⟨c, hc, rfl⟩⟩
  have hsteps : [Step.mk stage b.descriptor] = [] ++ [⟨stage, b.descriptor⟩] := rfl
  exact run_of_answered hlen hconfigurable hsteps rfl (fresh_eq_ok_iff.mpr ⟨c, hc, hanswer⟩)

theorem parse_canonical_clustering :
    parse Catalog.builtin "canon:textnormalizer,cluster:dbscan" =
      .ok (canonicalAlone.followedBy clusteringAlone) := by
  rfl

/-- Whatever the parameters, an answer of both steps is the report on the canonical data. -/
theorem eq_of_output_canonical_clustering {o : Document}
    (h : (canonicalAlone.followedBy clusteringAlone).output data params = .ok o) :
    ∃ p, Clustering.Params.of (params.forAlgorithm Clustering.name) = .ok p ∧
      o = (Clustering.reportOn p (data.map canonical)).toDocument := by
  have hsteps : canonicalAlone.followedBy clusteringAlone = ⟨[] ++
      [⟨"canon", Builtin.canonicalization.descriptor⟩, ⟨"cluster", Builtin.clustering.descriptor⟩]⟩ :=
    rfl
  rw [hsteps] at h
  obtain ⟨mid, answer, hmid, hanswer, houtput⟩ := exists_of_output_append_pair h
  obtain rfl := Except.ok.inj hmid
  obtain ⟨c, hc, hanswer⟩ := fresh_eq_ok_iff.mp hanswer
  obtain ⟨policy, -, rfl⟩ := map_eq_ok_iff.mp hc
  obtain rfl := Canonicalization.eq_of_answer hanswer
  obtain ⟨c, hc, houtput⟩ := fresh_eq_ok_iff.mp houtput
  obtain ⟨p, hp, rfl⟩ := map_eq_ok_iff.mp hc
  exact ⟨p, hp, Clustering.eq_of_fitTransform houtput⟩

/-- Where names that fall together are no error, the first step hands the canonical data on. -/
theorem output_canonical_clustering
    (hpolicy : Canonicalization.policyOf (params.forAlgorithm Canonicalization.name) =
      .ok .lastWriteWins) :
    (canonicalAlone.followedBy clusteringAlone).output data params =
      clusteringAlone.output (data.map canonical) params := by
  rcases Nat.lt_or_ge data.length 2 with hlen | hlen
  · rw [output, output, run_of_tooFew hlen, run_of_tooFew (by rwa [List.length_map]),
      List.length_map]
  have hrun : canonicalAlone.run data params = _ :=
    run_of_answer hlen (b := .canonicalization) (map_eq_ok_iff.mpr ⟨_, hpolicy, rfl⟩)
      (Canonicalization.answer_lastWriteWins data)
  exact output_of_run_followedBy (q := clusteringAlone) (List.cons_ne_nil _ _) hrun
    (by simpa [Document.dataset] using hlen)

/-- The clustering alone answers on data with samples and finite distances. -/
theorem output_clusteringAlone {p : Clustering.Params}
    (hp : Clustering.Params.of (params.forAlgorithm Clustering.name) = .ok p)
    (hlen : 2 ≤ data.length) (hsome : Clustering.samples data ≠ [])
    (hfinite : ∀ row ∈ Clustering.distancesOf (Clustering.samples data), ∀ x ∈ row,
      Decimal.isFinite x) :
    clusteringAlone.output data params = .ok (Clustering.reportOn p data).toDocument := by
  have hrun : clusteringAlone.run data params = _ :=
    run_of_answer hlen (b := .clustering) (map_eq_ok_iff.mpr ⟨p, hp, rfl⟩)
      (Clustering.fitTransform_eq_ok hsome hfinite)
  exact map_eq_ok_iff.mpr ⟨_, hrun, rfl⟩

/-- Making a written surface canonical commutes with its typed view, at every depth, and
clustering after it finds the members of the canonical surfaces : where it answers, what it
reports are their labels, and it answers where there are any members and the distances
between them are finite. -/
theorem clusters_canonical_members :
    (∀ s : Surface, s ≠ [] → Surface.read? (canonical s.toDocument) = some s.canonical) ∧
    (∀ m : Member, m.canonical = ⟨m.kind, m.signature.map canonicalName,
      m.docstring.map canonicalName, m.members.map Surface.canonical⟩) ∧
    (∀ s : Surface, Fields.Ascending s → Fields.Ascending s.canonical ∧ ∀ name inner,
      (Fields.find? s.canonical name = some inner ↔
        ∃ original m, Fields.find? s original = some m ∧ canonicalName original = name ∧
          (∀ other ∈ Fields.names s, canonicalName other = name → other ≤ original) ∧
          m.canonical = inner)) ∧
    ∃ p, parse Catalog.builtin "canon:textnormalizer,cluster:dbscan" = .ok p ∧
      ∃ q, parse Catalog.builtin "cluster:dbscan" = .ok q ∧
      ∀ (surfaces : List Surface) (params : ParamSet), (∀ s ∈ surfaces, s ≠ []) →
        (∀ o, p.output (surfaces.map Surface.toDocument) params = .ok o → ∃ c,
          Clustering.Params.of (params.forAlgorithm Clustering.name) = .ok c ∧
            let found := Clustering.memberSamples (surfaces.map Surface.canonical)
            o = (Clustering.report c (Clustering.labelsOf c found) found).toDocument) ∧
        (Canonicalization.policyOf (params.forAlgorithm Canonicalization.name) =
            .ok .lastWriteWins →
          p.output (surfaces.map Surface.toDocument) params =
            q.output ((surfaces.map Surface.canonical).map Surface.toDocument) params ∧
          ∀ c, Clustering.Params.of (params.forAlgorithm Clustering.name) = .ok c →
            let found := Clustering.memberSamples (surfaces.map Surface.canonical)
            2 ≤ surfaces.length → found ≠ [] →
            (∀ row ∈ Clustering.distancesOf found, ∀ x ∈ row, Decimal.isFinite x) →
            p.output (surfaces.map Surface.toDocument) params =
              .ok (Clustering.report c (Clustering.labelsOf c found) found).toDocument) := by
  refine ⟨fun s => Surface.read?_canonical, Member.canonical_eq,
    fun s hs => ⟨s.ascending_canonical, fun name inner => Surface.find?_canonical_iff hs⟩,
    canonicalAlone.followedBy clusteringAlone, parse_canonical_clustering, clusteringAlone, rfl,
    fun surfaces params hsurfaces => ⟨fun o ho => ?_, fun hpolicy => ?_⟩⟩
  · obtain ⟨c, hc, rfl⟩ := eq_of_output_canonical_clustering ho
    refine ⟨c, hc, ?_⟩
    rw [Clustering.reportOn, Clustering.samples_map_canonical hsurfaces]
  · refine ⟨?_, fun c hc hlen hsome hfinite => ?_⟩
    · rw [output_canonical_clustering hpolicy, Surface.map_canonical_toDocument]
    · rw [← Clustering.samples_map_canonical hsurfaces] at hsome hfinite ⊢
      rw [output_canonical_clustering hpolicy,
        output_clusteringAlone hc (by simpa using hlen) hsome hfinite, Clustering.reportOn]

/-- Two names at the top fall together, and two inside a class. -/
def pool : Surface := [
  ("Pool", ⟨.classType, none, some "A  POOL", some [
    ("Get_", ⟨.method, none, none, none⟩),
    ("get", ⟨.asyncMethod, some "(_Me)", none, none⟩)]⟩),
  ("Run_", ⟨.function, some "(A)", none, none⟩),
  ("run", ⟨.asyncFunction, some "(B)", none, none⟩)]

theorem clusters_canonical_members_pool :
    Surface.read? (canonical pool.toDocument) = some [
      ("pool", ⟨.classType, none, some "a pool", some [
        ("get", ⟨.asyncMethod, some "(me)", none, none⟩)]⟩),
      ("run", ⟨.asyncFunction, some "(b)", none, none⟩)] ∧
    ∃ p, parse Catalog.builtin "canon:textnormalizer,cluster:dbscan" = .ok p ∧
      ∃ labels, p.output [pool.toDocument, pool.toDocument] [] =
        .ok (Clustering.report ⟨0.5, 2⟩ labels
          (Clustering.memberSamples [pool.canonical, pool.canonical])).toDocument := by
  have hnames : canonicalName "Pool" = "pool" ∧ canonicalName "Get_" = "get" ∧
      canonicalName "get" = "get" ∧ canonicalName "Run_" = "run" ∧ canonicalName "run" = "run" := by
    decide +kernel
  have htexts : canonicalName "A  POOL" = "a pool" ∧ canonicalName "(_Me)" = "(me)" ∧
      canonicalName "(A)" = "(a)" ∧ canonicalName "(B)" = "(b)" := by
    decide +kernel
  obtain ⟨hread, -, -, p, hparse, q, -, hall⟩ := clusters_canonical_members
  constructor
  · rw [hread pool (List.cons_ne_nil _ _), pool]
    simp only [Surface.canonical, canonicalMembers, Member.canonical, Option.map_some,
      Option.map_none, hnames, htexts]
    rfl
  · refine ⟨p, hparse, _, ((hall [pool, pool] [] ?_).2 rfl).2 ⟨0.5, 2⟩ rfl (Nat.le_refl 2) ?_ ?_⟩
    · simp [pool]
    · decide +kernel
    · decide +kernel

end Pipeline

end SurfaceDrift
