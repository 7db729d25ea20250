import SurfaceDrift.Cluster.Report
import SurfaceDrift.Proofs.Density
import SurfaceDrift.Proofs.Learner

/-!
# What a clustering comes to

There are three ways for `fit` to end (`fit_cases`) : no samples, a distance that is not
finite, or a label for each sample. The matrix of distances is square, so that no cluster
spreads to a place without a sample, and there are as many labels as samples, so that
`transform` takes the labels of the data they were learned from. The clustering of one
dataset ends in the same three ways (`fitTransform_cases`).
-/

namespace SurfaceDrift.Clustering

/-- The distances between the points of samples. -/
def distancesOf (found : List Sample) : List (List Float) :=
  Point.distanceMatrix (found.map Sample.point)

/-- The labels of samples, from the distances between their points. -/
def labelsOf (params : Params) (found : List Sample) : List Int :=
  (Density.labels (distancesOf found) params.radius params.minSamples).map Density.number

@[simp] theorem length_labelsOf (params : Params) (found : List Sample) :
    (labelsOf params found).length = found.length := by
  simp [labelsOf, distancesOf, Density.length_labels]

/-- The report on data, by the labels learned from the same data. -/
def reportOn (params : Params) (data : List Document) : Report :=
  report params (labelsOf params (samples data)) (samples data)

/-- Learning fails on no samples or on a distance that is not finite, and gives a label for
each sample otherwise. -/
theorem fit_cases (params : Params) (data : List Document) :
    samples data = [] ∧ fit params data = .error (.error (.data .noElements)) ∨
    (∃ row ∈ distancesOf (samples data), ∃ x ∈ row, Decimal.isFinite x = false) ∧
      fit params data = .error (.error (.data .distanceNotFinite)) ∨
    samples data ≠ [] ∧ (∀ row ∈ distancesOf (samples data), ∀ x ∈ row, Decimal.isFinite x) ∧
      fit params data = .ok (labelsOf params (samples data)) := by
  unfold fit
  cases hfound : samples data with
  | nil => exact Or.inl ⟨rfl, rfl⟩
  | cons first rest =>
    refine Or.inr ?_
    unfold distancesOf
    simp only [Density.labels?_distanceMatrix]
    split_ifs with hfinite
    · refine Or.inr ⟨by simp, ?_, rfl⟩
      simpa only [List.all_eq_true] using hfinite
    · refine Or.inl ⟨?_, rfl⟩
      simpa only [List.all_eq_true, not_forall, exists_prop, Bool.not_eq_true] using hfinite

/-- The labels learned from data are taken back with the samples of the same data. -/
theorem transform_labelsOf (params : Params) (data : List Document) :
    transform params (some (labelsOf params (samples data))) data =
      .ok (reportOn params data).toDocument := by
  simp [transform, reportOn]

/-- The three ways in which the clustering of a dataset ends. -/
theorem fitTransform_cases (params : Params) (data : List Document) :
    samples data = [] ∧
      (learner params).fitTransform data = .error (.error (.data .noElements)) ∨
    (∃ row ∈ distancesOf (samples data), ∃ x ∈ row, Decimal.isFinite x = false) ∧
      (learner params).fitTransform data = .error (.error (.data .distanceNotFinite)) ∨
    samples data ≠ [] ∧ (∀ row ∈ distancesOf (samples data), ∀ x ∈ row, Decimal.isFinite x) ∧
      (learner params).fitTransform data = .ok (reportOn params data).toDocument := by
  have hrun : (learner params).fitTransform data = (fit params data).bind fun labels =>
      (transform params (some labels) data).mapError .error :=
    Learner.fitTransform_of_remember rfl
  rcases fit_cases params data with ⟨h, hfit⟩ | ⟨h, hfit⟩ | ⟨h, hfinite, hfit⟩
  · exact Or.inl ⟨h, by rw [hrun, hfit]; rfl⟩
  · exact Or.inr (Or.inl ⟨h, by rw [hrun, hfit]; rfl⟩)
  · refine Or.inr (Or.inr ⟨h, hfinite, ?_⟩)
    rw [hrun, hfit, Except.bind, transform_labelsOf]
    rfl

/-- Data with samples and finite distances are clustered. -/
theorem fitTransform_eq_ok {params : Params} {data : List Document} (hsome : samples data ≠ [])
    (hfinite : ∀ row ∈ distancesOf (samples data), ∀ x ∈ row, Decimal.isFinite x) :
    (learner params).fitTransform data = .ok (reportOn params data).toDocument := by
  rcases fitTransform_cases params data with ⟨hnone, -⟩ | ⟨⟨row, hrow, x, hx, hnot⟩, -⟩ | ⟨-, -, hok⟩
  · exact absurd hnone hsome
  · rw [hfinite row hrow x hx] at hnot
    cases hnot
  · exact hok

/-- What a clustering answers is the report on the data. -/
theorem eq_of_fitTransform {params : Params} {data : List Document} {output : Document}
    (h : (learner params).fitTransform data = .ok output) :
    output = (reportOn params data).toDocument := by
  rcases fitTransform_cases params data with ⟨-, herr⟩ | ⟨-, herr⟩ | ⟨-, -, hok⟩
  · rw [herr] at h
    cases h
  · rw [herr] at h
    cases h
  · rw [hok] at h
    exact (Except.ok.inj h).symm

end SurfaceDrift.Clustering
