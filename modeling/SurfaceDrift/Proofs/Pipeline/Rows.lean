import SurfaceDrift.Proofs.Clustering.Groups
import SurfaceDrift.Proofs.Pipeline.Members
import SurfaceDrift.Proofs.Terms.Run

/-!
# Clustering the rows of features

What a weighing of terms answers is one document, and it is no surface : its first field
holds a matrix, which describes no member (`Terms.Features.read?_toDocument`). So clustering
reads the rows of the features in it, and gets all of them back as they were
(`Clustering.samples_features`), provided that their entries are finite and that there are
columns. A pipeline that ends in `extract:tfidf,cluster:dbscan` then tells one label for each
document that is weighed (`rows_reach_clustering`).
-/

namespace SurfaceDrift

/-! ## Features as a document -/

namespace Terms

/-- Every entry of every row is a number that can be written. -/
def Features.IsFinite (f : Features) : Prop :=
  ∀ row ∈ f.rows, ∀ x ∈ row, Decimal.isFinite x

theorem isFinite_of_rows {f : Features} {data : List Document} {rowOf : Document → List Float}
    (hrows : f.rows = data.map rowOf)
    (hfinite : ∀ d ∈ data, ∀ x ∈ rowOf d, Decimal.isFinite x) : f.IsFinite := by
  intro row hrow
  rw [hrows] at hrow
  obtain ⟨d, hd, rfl⟩ := List.mem_map.mp hrow
  exact hfinite d hd

/-- Rows describe no member, whether they stand for its parts or for anything else. -/
theorem member_read?_matrixDocument (rows : List (List Float)) :
    Member.read? (matrixDocument rows) = none := by
  unfold matrixDocument
  rcases rows with _ | ⟨a, _ | ⟨b, _ | ⟨c, _ | ⟨d, _ | ⟨e, rest⟩⟩⟩⟩⟩ <;>
    simp [Member.read?, MemberKind.read?]

theorem Features.read?_toDocument (f : Features) : Surface.read? f.toDocument = none := by
  have hfirst := member_read?_matrixDocument f.similarity
  rw [f.toDocument_eq, Surface.read?]
  · simp [readAllMembers?, hfirst]
  · simp

theorem Features.dataset_toDocument (f : Features) : f.toDocument.dataset = [f.toDocument] := by
  rw [f.toDocument_eq, Document.dataset]
  simp

/-! ## A row written and read -/

theorem float?_ofFloat {x : Float} (h : Decimal.isFinite x) : (Document.ofFloat x).float? = some x := by
  rw [Document.ofFloat, if_pos h]
  rfl

theorem vector?_map_ofFloat {row : List Float} (hne : row ≠ [])
    (hfinite : ∀ x ∈ row, Decimal.isFinite x) :
    (Document.list (row.map Document.ofFloat)).vector? = some row := by
  have hread : (row.map Document.ofFloat).mapM Document.float? = some row :=
    mapM_map_eq_some fun x hx => float?_ofFloat (hfinite x hx)
  cases row with
  | nil => exact absurd rfl hne
  | cons x rest => exact hread

theorem featureRows?_toDocument {f : Features} (hrows : f.rows ≠ [])
    (hwidth : ∀ row ∈ f.rows, row ≠ []) (hfinite : f.IsFinite) :
    Clustering.featureRows? f.toDocument = some f.rows := by
  have hread : (f.rows.map fun row => Document.list (row.map Document.ofFloat)).mapM
      Document.vector? = some f.rows :=
    mapM_map_eq_some fun row hrow => vector?_map_ofFloat (hwidth row hrow) (hfinite row hrow)
  rw [Clustering.featureRows?, f.get?_toDocument.2, matrixDocument]
  cases hcases : f.rows with
  | nil => exact absurd hcases hrows
  | cons first rest =>
    rw [hcases] at hread
    exact hread

end Terms

/-! ## Features as samples -/

namespace Clustering

/-- Rows as the samples of the first document, numbered from one on. -/
def rowSamples (rows : List (List Float)) : List Sample :=
  rows.zipIdx.map fun row =>
    ⟨0, "row_" ++ String.ofList (Decimal.digitsOf (row.2 + 1)), .vector row.1⟩

@[simp] theorem length_rowSamples (rows : List (List Float)) :
    (rowSamples rows).length = rows.length := by
  simp [rowSamples]

/-- The samples of features are their rows. -/
theorem samples_features {f : Terms.Features} (hrows : f.rows ≠ [])
    (hwidth : ∀ row ∈ f.rows, row ≠ []) (hfinite : f.IsFinite) :
    samples f.toDocument.dataset = rowSamples f.rows := by
  have hread := Terms.featureRows?_toDocument hrows hwidth hfinite
  rw [f.dataset_toDocument, samples]
  simp [samplesOf, f.read?_toDocument, hread, rowSamples]

/-- What is learned has a column, and there is a document that it is learned from. -/
theorem samples_featuresOn {log : Float → Float} {p : Terms.Params} {data : List Document}
    {f : Terms.Features} (h : Terms.featuresOn log p data = .ok f) (hfinite : f.IsFinite) :
    samples f.toDocument.dataset = rowSamples f.rows := by
  refine samples_features (Terms.rows_ne_nil_of_featuresOn h) (fun row hrow => ?_) hfinite
  have hwidth := Terms.length_of_mem_rows h hrow
  have hcolumns := List.length_pos_iff.mpr (Terms.names_ne_nil_of_featuresOn h)
  exact List.length_pos_iff.mp (hwidth ▸ hcolumns)

end Clustering

/-! ## The last two steps -/

namespace Terms

/-- The weighing of terms by a logarithm, as the catalog knows it. -/
def weighing (log : Float → Float) : Descriptor :=
  { Builtin.terms.descriptor with
    build := fun params => (Params.of params).map fun p => (learnerBy log p).algorithm }

/-- In the library's catalog it is the natural logarithm. -/
theorem weighing_log : weighing Float.log = Builtin.terms.descriptor := by
  have hbuild : (fun params => (Params.of params).map fun p => (learnerBy Float.log p).algorithm) =
      Builtin.terms.descriptor.build := by
    funext params
    cases hp : Params.of params with
    | error cause => simp [Builtin.descriptor, Builtin.configure, hp, Except.map]
    | ok p =>
      simp only [Builtin.descriptor, Builtin.configure, hp, Except.map]
      rfl
  exact congrArg (fun build => { Builtin.terms.descriptor with build := build }) hbuild

theorem name_weighing (log : Float → Float) : (weighing log).name = name := by
  have hlower : Text.lower "TFIDF" = "tfidf" := by decide +kernel
  exact hlower

/-- A fresh weighing answers the features. -/
theorem exists_of_fresh_weighing {log : Float → Float} {params : ParamSet} {stage : String}
    {data : List Document} {answer : Document}
    (h : Step.fresh params ⟨stage, weighing log⟩ data = .ok answer) :
    ∃ p f, Params.of (params.forAlgorithm name) = .ok p ∧ featuresOn log p data = .ok f ∧
      answer = f.toDocument := by
  obtain ⟨algorithm, hbuild, hanswer⟩ := Step.fresh_eq_ok_iff.mp h
  rw [Step.algorithm, name_weighing] at hbuild
  obtain ⟨p, hp, rfl⟩ := map_eq_ok_iff.mp hbuild
  obtain ⟨f, hf, rfl⟩ := exists_of_fitTransform hanswer
  exact ⟨p, f, hp, hf, rfl⟩

end Terms

namespace Pipeline

open Terms (weighing)

/-- The rows of the features reach the clustering as they are, a sample for each document
that is weighed, and a pipeline that ends with the two tells a label for each of them. -/
theorem rows_reach_clustering (log : Float → Float) :
    (∀ (p : Terms.Params) (data : List Document) (o : Document),
      (Terms.learnerBy log p).fitTransform data = .ok o → ∃ v, Terms.fit log p data = .ok v ∧
        let rowOf := fun d => Terms.row v (Terms.terms p.stopWords d)
        o.get? "feature_names" = some (.list (v.names.map Document.text)) ∧
        o.get? "tfidf_features" = some (Terms.matrixDocument (data.map rowOf)) ∧
        1 ≤ v.names.length ∧ (∀ d, (rowOf d).length = v.names.length) ∧
        ((∀ d ∈ data, ∀ x ∈ rowOf d, Decimal.isFinite x) →
          o.dataset = [o] ∧ Surface.read? o = none ∧
          Clustering.samples o.dataset = data.zipIdx.map fun entry =>
            ⟨0, "row_" ++ String.ofList (Decimal.digitsOf (entry.2 + 1)),
              .vector (rowOf entry.1)⟩)) ∧
    parse Catalog.builtin "extract:tfidf,cluster:dbscan" = .ok ⟨[
      ⟨"extract", weighing Float.log⟩, ⟨"cluster", Builtin.clustering.descriptor⟩]⟩ ∧
    ∀ (earlier : List Step) (stage stage' : String) (start : List Document) (params : ParamSet)
      (o : Document),
      (Pipeline.mk (earlier ++ [⟨stage, weighing log⟩,
        ⟨stage', Builtin.clustering.descriptor⟩])).output start params = .ok o →
      ∃ data p v, handedOn params start earlier = .ok data ∧
        Terms.Params.of (params.forAlgorithm Terms.name) = .ok p ∧
        Terms.fit log p data = .ok v ∧
        ((∀ d ∈ data, ∀ x ∈ Terms.row v (Terms.terms p.stopWords d), Decimal.isFinite x) →
          ∃ labels : List Int, o.get? "labels" = some (.list (labels.map Document.ofInt)) ∧
            labels.length = data.length) := by
  refine ⟨fun p data o h => ?_, ?_, fun earlier stage stage' start params o h => ?_⟩
  · obtain ⟨f, hf, rfl⟩ := Terms.exists_of_fitTransform h
    obtain ⟨v, hv, hnames, hrows⟩ := Terms.exists_rows_of_featuresOn hf
    have hcolumns := Terms.names_ne_nil_of_featuresOn hf
    rw [hnames] at hcolumns
    refine ⟨v, hv, ?_, ?_, List.length_pos_iff.mpr hcolumns, fun d => Terms.length_row v _, ?_⟩
    · rw [f.get?_toDocument.1, hnames]
    · rw [← hrows]
      exact f.get?_toDocument.2
    · intro hfinite
      have hsamples := Clustering.samples_featuresOn hf (Terms.isFinite_of_rows hrows hfinite)
      rw [hrows, Clustering.rowSamples, List.zipIdx_map, List.map_map] at hsamples
      exact ⟨f.dataset_toDocument, f.read?_toDocument, hsamples⟩
  · rw [Terms.weighing_log]
    rfl
  · obtain ⟨data, answer, hdata, hanswer, ho⟩ := exists_of_output_append_pair h
    obtain ⟨p, f, hp, hf, rfl⟩ := Terms.exists_of_fresh_weighing hanswer
    obtain ⟨v, hv, -, hrows⟩ := Terms.exists_rows_of_featuresOn hf
    refine ⟨data, p, v, hdata, hp, hv, fun hfinite => ?_⟩
    have hsamples := Clustering.samples_featuresOn hf (Terms.isFinite_of_rows hrows hfinite)
    obtain ⟨c, hc, hanswer⟩ := fresh_eq_ok_iff.mp ho
    obtain ⟨q, -, rfl⟩ := map_eq_ok_iff.mp hc
    obtain rfl := Clustering.eq_of_fitTransform hanswer
    refine ⟨_, (Clustering.get?_toDocument _).1, ?_⟩
    have hlength : f.rows.length = data.length := Terms.length_rows_of_featuresOn hf
    rw [Clustering.reportOn, Clustering.report, Clustering.length_labelsOf, hsamples,
      Clustering.length_rowSamples, hlength]

/-- Two texts that hold the same term. -/
def alphas : List Document := [.text "alpha", .text "alpha alpha"]

/-- The natural logarithm of one, which is all that is asked for where every text holds every
term. -/
def logOfOne : Float → Float := fun _ => 0.0

/-- The one term, with the weight `logOfOne 1.0 + 1.0`. -/
def alphaColumn : Terms.Vocabulary := ⟨[("alpha", 0.0 + 1.0)]⟩

theorem fit_alphas : Terms.fit logOfOne ⟨500, .english⟩ alphas = .ok alphaColumn := by
  have hterms : alphas.map (Terms.terms .english) = [["alpha"], ["alpha", "alpha"]] := by
    decide +kernel
  have hsorted : ["alpha", "alpha", "alpha"].mergeSort (fun a b => decide (a ≤ b)) =
      ["alpha", "alpha", "alpha"] :=
    List.mergeSort_of_pairwise (by decide)
  have hnames : Terms.mostFrequent 500 ["alpha", "alpha", "alpha"] = ["alpha"] := by
    simp [Terms.mostFrequent, Terms.counts, hsorted, Terms.countRuns]
  rw [Terms.fit, hterms, Terms.vocabulary]
  simp only [List.flatten_cons, List.flatten_nil, List.cons_append, List.nil_append, hnames]
  rfl

theorem row_alphas {d : Document} (h : d ∈ alphas) :
    Terms.row alphaColumn (Terms.terms .english d) = [1.0] := by
  have hrow : ∀ d ∈ alphas, Terms.row alphaColumn (Terms.terms .english d) = [1.0] := by
    decide +kernel
  exact hrow d h

theorem rows_reach_clustering_alphas :
    (∃ o, (Terms.learnerBy logOfOne ⟨500, .english⟩).fitTransform alphas = .ok o ∧
      Clustering.samples o.dataset = [⟨0, "row_1", .vector [1.0]⟩, ⟨0, "row_2", .vector [1.0]⟩]) ∧
    ∃ o, (Pipeline.mk [⟨"extract", weighing logOfOne⟩,
        ⟨"cluster", Builtin.clustering.descriptor⟩]).output alphas [] = .ok o ∧
      ∃ labels : List Int, o.get? "labels" = some (.list (labels.map Document.ofInt)) ∧
        labels.length = 2 := by
  obtain ⟨hrows, -, hlabels⟩ := rows_reach_clustering logOfOne
  obtain ⟨features, hfeatures⟩ : ∃ f, Terms.featuresOn logOfOne ⟨500, .english⟩ alphas = .ok f :=
    ⟨_, map_eq_ok_iff.mpr ⟨_, fit_alphas, rfl⟩⟩
  have hanswer := Terms.fitTransform_of_featuresOn hfeatures
  have hfinite : ∀ d ∈ alphas, ∀ x ∈ Terms.row alphaColumn (Terms.terms .english d),
      Decimal.isFinite x := by
    intro d hd
    rw [row_alphas hd]
    decide +kernel
  have hsamples : Clustering.samples features.toDocument.dataset =
      [⟨0, "row_1", .vector [1.0]⟩, ⟨0, "row_2", .vector [1.0]⟩] := by
    obtain ⟨v, hv, -, -, -, -, hsamples⟩ := hrows _ _ _ hanswer
    obtain rfl := Except.ok.inj (fit_alphas.symm.trans hv)
    obtain ⟨-, -, hsamples⟩ := hsamples hfinite
    have hnumbers : "row_" ++ String.ofList (Decimal.digitsOf (0 + 1)) = "row_1" ∧
        "row_" ++ String.ofList (Decimal.digitsOf (0 + 1 + 1)) = "row_2" := by
      decide +kernel
    rw [hsamples, alphas, List.zipIdx_cons, List.zipIdx_cons, List.zipIdx_nil]
    simp only [List.map_cons, List.map_nil, hnumbers, row_alphas List.mem_cons_self,
      row_alphas (List.mem_cons_of_mem _ List.mem_cons_self)]
  refine ⟨⟨_, hanswer, hsamples⟩, ?_⟩
  have hclustered : (Clustering.learner ⟨0.5, 2⟩).fitTransform features.toDocument.dataset =
      .ok (Clustering.reportOn ⟨0.5, 2⟩ features.toDocument.dataset).toDocument := by
    refine Clustering.fitTransform_eq_ok (hsamples ▸ List.cons_ne_nil _ _) ?_
    rw [hsamples]
    decide +kernel
  have hweighed : Step.fresh [] ⟨"extract", weighing logOfOne⟩ alphas = .ok features.toDocument :=
    Step.fresh_eq_ok_iff.mpr ⟨_, rfl, hanswer⟩
  have hmid : handedOn [] alphas ([] ++ [⟨"extract", weighing logOfOne⟩]) =
      .ok features.toDocument.dataset :=
    handedOn_append_singleton_eq_ok_iff.mpr ⟨alphas, _, rfl, hweighed, rfl⟩
  have hlast : Step.fresh [] ⟨"cluster", Builtin.clustering.descriptor⟩
      features.toDocument.dataset = .ok _ :=
    fresh_eq_ok_iff.mpr ⟨.clustering ⟨0.5, 2⟩, rfl, hclustered⟩
  have hconfigurable : ∀ s ∈ [Step.mk "extract" (weighing logOfOne),
      Step.mk "cluster" Builtin.clustering.descriptor], s.IsConfigurable [] := by
    intro s hs
    rcases List.mem_pair.mp hs with rfl | rfl
    · exact ⟨_, rfl⟩
    · exact ⟨_, rfl⟩
  have hlen : 2 ≤ alphas.length := Nat.le_refl 2
  have hrun := run_of_answered hlen hconfigurable rfl hmid hlast
  have houtput : (Pipeline.mk [⟨"extract", weighing logOfOne⟩,
      ⟨"cluster", Builtin.clustering.descriptor⟩]).output alphas [] = .ok _ :=
    map_eq_ok_iff.mpr ⟨_, hrun, rfl⟩
  refine ⟨_, houtput, ?_⟩
  obtain ⟨data, p, v, hdata, hp, hv, hcount⟩ := hlabels [] _ _ _ _ _ houtput
  obtain rfl := Except.ok.inj hdata
  obtain rfl : Terms.Params.mk 500 .english = p := Except.ok.inj hp
  obtain rfl := Except.ok.inj (fit_alphas.symm.trans hv)
  exact hcount hfinite

end Pipeline

end SurfaceDrift
