import SurfaceDrift.Cluster.Report
import SurfaceDrift.Proofs.Learner
import SurfaceDrift.Proofs.Sequence
import SurfaceDrift.Proofs.Terms.Bags

/-!
# What a weighing of terms comes to

Weighing the documents that it learns from gives their features (`featuresOn`,
`fitTransform_learnerBy`), and fails only where nothing can be learned. There are columns as
soon as there are terms and at least one column is asked for (`mostFrequent_eq_nil_iff`,
`exists_vocabulary`), every row has an entry for each column (`length_of_mem_rows`), and
there is a row for each document.
-/

namespace SurfaceDrift.Terms

variable {log : Float → Float} {params : Params} {data : List Document}

/-- The features of the documents that are learned from. -/
def featuresOn (log : Float → Float) (params : Params) (data : List Document) :
    Except Error Features :=
  (fit log params data).map fun v => features v (data.map (terms params.stopWords))

theorem fitTransform_learnerBy (log : Float → Float) (params : Params) (data : List Document) :
    (learnerBy log params).fitTransform data =
      ((featuresOn log params data).map Features.toDocument).mapError .error := by
  rw [Learner.fitTransform_of_remember rfl, featuresOn]
  cases fit log params data <;> rfl

theorem fitTransform_of_featuresOn {f : Features} (h : featuresOn log params data = .ok f) :
    (learnerBy log params).fitTransform data = .ok f.toDocument := by
  rw [fitTransform_learnerBy, h]
  rfl

theorem fitTransform_of_featuresOn_error {cause : Error}
    (h : featuresOn log params data = .error cause) :
    (learnerBy log params).fitTransform data = .error (.error cause) := by
  rw [fitTransform_learnerBy, h]
  rfl

/-- What a weighing answers are the features. -/
theorem exists_of_fitTransform {answer : Document}
    (h : (learnerBy log params).fitTransform data = .ok answer) :
    ∃ f, featuresOn log params data = .ok f ∧ answer = f.toDocument := by
  rw [fitTransform_learnerBy] at h
  cases hf : featuresOn log params data with
  | error cause =>
    rw [hf] at h
    cases h
  | ok f =>
    rw [hf, Except.map, Except.mapError] at h
    exact ⟨f, rfl, (Except.ok.inj h).symm⟩

theorem featuresOn_eq_ok_iff {f : Features} :
    featuresOn log params data = .ok f ↔ ∃ v,
      vocabulary log params.maxFeatures (data.map (terms params.stopWords)) = .ok v ∧
        features v (data.map (terms params.stopWords)) = f := by
  rw [featuresOn, map_eq_ok_iff, fit]

/-! ## Columns -/

theorem countRuns_eq_nil_iff {l : List String} : countRuns l = [] ↔ l = [] := by
  cases l with
  | nil => simp [countRuns]
  | cons term rest =>
    rw [countRuns]
    split
    · split_ifs <;> simp
    · simp

/-- There are columns as soon as there are terms. -/
theorem mostFrequent_eq_nil_iff {limit : Nat} {l : List String} :
    mostFrequent limit l = [] ↔ limit = 0 ∨ l = [] := by
  have hsorted : ∀ {α : Type} (le : α → α → Bool) (m : List α), m.mergeSort le = [] ↔ m = [] := by
    intro α le m
    rw [← List.length_eq_zero_iff, List.length_mergeSort, List.length_eq_zero_iff]
  unfold mostFrequent counts
  rw [hsorted, List.map_eq_nil_iff, List.take_eq_nil_iff, hsorted, countRuns_eq_nil_iff, hsorted]

/-- The columns for these terms, weighed by how few documents hold each of them. -/
def columnsFor (log : Float → Float) (bags : List (List String)) (kept : List String) :
    Vocabulary :=
  ⟨kept.map fun term =>
    (term, weight log bags.length (bags.filter fun bag => bag.contains term).length)⟩

@[simp] theorem names_columnsFor (log : Float → Float) (bags : List (List String))
    (kept : List String) : (columnsFor log bags kept).names = kept := by
  simp [columnsFor, Vocabulary.names, Function.comp_def]

theorem vocabulary_of_eq_nil (log : Float → Float) {limit : Nat} {bags : List (List String)}
    (h : mostFrequent limit bags.flatten = []) :
    vocabulary log limit bags = .error (.data .emptyVocabulary) := by
  rw [vocabulary, h]

theorem vocabulary_of_ne_nil (log : Float → Float) {limit : Nat} {bags : List (List String)}
    (h : mostFrequent limit bags.flatten ≠ []) :
    vocabulary log limit bags = .ok (columnsFor log bags (mostFrequent limit bags.flatten)) := by
  unfold vocabulary
  split
  · next hnone => exact absurd hnone h
  · rfl

theorem exists_vocabulary {limit : Nat} {bags : List (List String)} (hlimit : limit ≠ 0)
    (hterms : bags.flatten ≠ []) : ∃ v, vocabulary log limit bags = .ok v :=
  ⟨_, vocabulary_of_ne_nil log fun hnone => (mostFrequent_eq_nil_iff.mp hnone).elim hlimit hterms⟩

theorem names_ne_nil_of_vocabulary {limit : Nat} {bags : List (List String)} {v : Vocabulary}
    (h : vocabulary log limit bags = .ok v) : v.names ≠ [] := by
  by_cases hnone : mostFrequent limit bags.flatten = []
  · rw [vocabulary_of_eq_nil log hnone] at h
    cases h
  · rw [vocabulary_of_ne_nil log hnone] at h
    rwa [← Except.ok.inj h, names_columnsFor]

/-! ## Rows -/

theorem length_unitLength (entries : List Float) : (unitLength entries).length = entries.length := by
  unfold unitLength
  dsimp only
  split_ifs
  · rw [List.length_map]
  · rfl

theorem length_row (v : Vocabulary) (bag : List String) : (row v bag).length = v.names.length := by
  rw [row, length_unitLength, weighted, Vocabulary.names, List.length_map, List.length_map]

theorem length_rows_of_featuresOn {f : Features} (h : featuresOn log params data = .ok f) :
    f.rows.length = data.length := by
  obtain ⟨v, -, rfl⟩ := featuresOn_eq_ok_iff.mp h
  simp [features]

/-- Of no documents there is nothing to learn. -/
theorem featuresOn_nil (log : Float → Float) (params : Params) :
    featuresOn log params [] = .error (.data .emptyVocabulary) := by
  have hnone : mostFrequent params.maxFeatures [] = [] := mostFrequent_eq_nil_iff.mpr (Or.inr rfl)
  simp [featuresOn, fit, vocabulary, hnone, Except.map]

theorem rows_ne_nil_of_featuresOn {f : Features} (h : featuresOn log params data = .ok f) :
    f.rows ≠ [] := by
  intro hnone
  have hlength := length_rows_of_featuresOn h
  rw [hnone] at hlength
  obtain rfl := List.eq_nil_of_length_eq_zero hlength.symm
  rw [featuresOn_nil] at h
  cases h

theorem names_ne_nil_of_featuresOn {f : Features} (h : featuresOn log params data = .ok f) :
    f.names ≠ [] := by
  obtain ⟨v, hv, rfl⟩ := featuresOn_eq_ok_iff.mp h
  exact names_ne_nil_of_vocabulary hv

/-- The rows are those of the documents, by the vocabulary that is learned from all. -/
theorem exists_rows_of_featuresOn {f : Features} (h : featuresOn log params data = .ok f) :
    ∃ v, fit log params data = .ok v ∧ f.names = v.names ∧
      f.rows = data.map fun d => row v (terms params.stopWords d) := by
  obtain ⟨v, hv, rfl⟩ := featuresOn_eq_ok_iff.mp h
  refine ⟨v, hv, rfl, ?_⟩
  simp [features, Function.comp_def]

/-- Every row has an entry for each column. -/
theorem length_of_mem_rows {f : Features} (h : featuresOn log params data = .ok f)
    {row : List Float} (hrow : row ∈ f.rows) : row.length = f.names.length := by
  obtain ⟨v, -, rfl⟩ := featuresOn_eq_ok_iff.mp h
  obtain ⟨bag, -, rfl⟩ := List.mem_map.mp hrow
  exact length_row v bag

/-! ## The answer -/

theorem Features.toDocument_eq (f : Features) :
    f.toDocument = .object [
      ("cosine_similarity", matrixDocument f.similarity),
      ("feature_names", .list (f.names.map Document.text)),
      ("tfidf_features", matrixDocument f.rows)] := by
  have hsimilarity : "cosine_similarity" < "feature_names" := by decide
  have hnames : "feature_names" < "tfidf_features" := by decide
  simp [Features.toDocument, Document.ofFields, Fields.ofList, Fields.insertAll, Fields.insert,
    hsimilarity, hnames]

theorem Features.get?_toDocument (f : Features) :
    f.toDocument.get? "feature_names" = some (.list (f.names.map Document.text)) ∧
      f.toDocument.get? Clustering.featuresKey = some (matrixDocument f.rows) := by
  rw [f.toDocument_eq]
  exact ⟨rfl, rfl⟩

end SurfaceDrift.Terms
