import Mathlib.Data.List.FinRange
import SurfaceDrift.Proofs.Terms.Run

/-!
# Documents in any order, terms in any order

A weighing of terms takes each document for a bag of terms and makes no difference between
documents. `fitTransform_bags` : other documents with the same terms, document by document and
up to their order, have the same answer. The same documents in another order have the same
columns, the same rows in that order, and the same similarities with rows and columns in that
order, each of them the very same double; and nothing can be learned from them exactly if
nothing can be learned from the documents as they were.
-/

namespace SurfaceDrift.Terms

variable {n : ℕ}

/-- The features of numbered documents, entry by entry. -/
theorem features_ofFn (v : Vocabulary) (bag : Fin n → List String) :
    features v (List.ofFn bag) =
      ⟨List.ofFn fun i => row v (bag i), v.names,
        List.ofFn fun i => List.ofFn fun j => product (row v (bag i)) (row v (bag j))⟩ := by
  simp [features, List.map_ofFn, Function.comp_def]

/-- The features of numbered documents are told by the vocabulary of all of them. -/
theorem featuresOn_ofFn (log : Float → Float) (params : Params) (d : Fin n → Document) :
    featuresOn log params (List.ofFn d) =
      (vocabulary log params.maxFeatures (List.ofFn fun i => terms params.stopWords (d i))).map
        fun v => features v (List.ofFn fun i => terms params.stopWords (d i)) := by
  simp only [featuresOn, fit, List.map_ofFn, Function.comp_def]

/-- Documents in another order have the same vocabulary. -/
theorem vocabulary_ofFn_comp (log : Float → Float) (limit : ℕ) (bag : Fin n → List String)
    (σ : Equiv.Perm (Fin n)) :
    vocabulary log limit (List.ofFn fun i => bag (σ i)) = vocabulary log limit (List.ofFn bag) :=
  vocabulary_of_perm log limit (σ.ofFn_comp_perm bag)

/-- Documents with the same terms have the same features. -/
theorem featuresOn_of_forall₂ (log : Float → Float) (params : Params)
    {data others : List Document}
    (h : List.Forall₂
      (fun d e => (terms params.stopWords d).Perm (terms params.stopWords e)) data others) :
    featuresOn log params others = featuresOn log params data := by
  have hbags : List.Forall₂ List.Perm (data.map (terms params.stopWords))
      (others.map (terms params.stopWords)) :=
    List.forall₂_map_left_iff.mpr (List.forall₂_map_right_iff.mpr h)
  have hfeatures : ∀ v : Vocabulary, features v (data.map (terms params.stopWords)) =
      features v (others.map (terms params.stopWords)) := by
    intro v
    unfold features
    rw [map_row_of_forall₂ v hbags]
  simp only [featuresOn, fit, vocabulary_of_forall₂ log params.maxFeatures hbags, hfeatures]

/-- Documents in another order have no features either, or the same features in that order. -/
theorem featuresOn_ofFn_comp (log : Float → Float) (params : Params) (d : Fin n → Document)
    (σ : Equiv.Perm (Fin n)) :
    (∃ cause, featuresOn log params (List.ofFn d) = .error cause ∧
      featuresOn log params (List.ofFn fun i => d (σ i)) = .error cause) ∨
    ∃ (names : List String) (rows : Fin n → List Float) (similarity : Fin n → Fin n → Float),
      featuresOn log params (List.ofFn d) = .ok ⟨List.ofFn rows, names,
        List.ofFn fun i => List.ofFn fun j => similarity i j⟩ ∧
      featuresOn log params (List.ofFn fun i => d (σ i)) = .ok ⟨List.ofFn fun i => rows (σ i), names,
        List.ofFn fun i => List.ofFn fun j => similarity (σ i) (σ j)⟩ := by
  have hsame := vocabulary_ofFn_comp log params.maxFeatures
    (fun i => terms params.stopWords (d i)) σ
  rw [featuresOn_ofFn, featuresOn_ofFn, hsame]
  cases vocabulary log params.maxFeatures (List.ofFn fun i => terms params.stopWords (d i)) with
  | error cause => exact Or.inl ⟨cause, rfl, rfl⟩
  | ok v =>
    refine Or.inr ⟨v.names, fun i => row v (terms params.stopWords (d i)),
      fun i j => product (row v (terms params.stopWords (d i)))
        (row v (terms params.stopWords (d j))), ?_, ?_⟩
    · rw [Except.map, features_ofFn]
    · rw [Except.map, features_ofFn]

/-- Each document is a bag of terms, and the documents are treated alike. -/
theorem fitTransform_bags (params : Params) :
    (∀ data others : List Document,
      List.Forall₂ (fun d e => (terms params.stopWords d).Perm (terms params.stopWords e))
        data others →
      (learner params).fitTransform others = (learner params).fitTransform data) ∧
    ∀ (n : ℕ) (d : Fin n → Document) (σ : Equiv.Perm (Fin n)),
      (∀ failure, (learner params).fitTransform (List.ofFn fun i => d (σ i)) = .error failure ↔
        (learner params).fitTransform (List.ofFn d) = .error failure) ∧
      ∀ answer, (learner params).fitTransform (List.ofFn d) = .ok answer →
        ∃ (names : List String) (rows : Fin n → List Float) (similarity : Fin n → Fin n → Float),
          answer = (Features.mk (List.ofFn rows) names
            (List.ofFn fun i => List.ofFn fun j => similarity i j)).toDocument ∧
          (learner params).fitTransform (List.ofFn fun i => d (σ i)) =
            .ok (Features.mk (List.ofFn fun i => rows (σ i)) names
              (List.ofFn fun i => List.ofFn fun j => similarity (σ i) (σ j))).toDocument := by
  refine ⟨fun data others h => ?_, fun n d σ => ?_⟩
  · rw [learner, fitTransform_learnerBy, fitTransform_learnerBy,
      featuresOn_of_forall₂ Float.log params h]
  · rcases featuresOn_ofFn_comp Float.log params d σ with
      ⟨cause, hd, hσ⟩ | ⟨names, rows, similarity, hd, hσ⟩
    · have hanswer := fitTransform_of_featuresOn_error hd
      have hreordered := fitTransform_of_featuresOn_error hσ
      rw [learner, hanswer, hreordered]
      refine ⟨fun failure => Iff.rfl, fun answer h => ?_⟩
      exact absurd h (by simp)
    · have hanswer := fitTransform_of_featuresOn hd
      have hreordered := fitTransform_of_featuresOn hσ
      rw [learner, hanswer, hreordered]
      refine ⟨fun failure => by simp, fun answer h => ?_⟩
      exact ⟨names, rows, similarity, (Except.ok.inj h).symm, rfl⟩

/-- Two texts that share a term. -/
def alphaTexts : Fin 2 → Document
  | 0 => .text "beta alpha beta"
  | 1 => .text "gamma alpha"

theorem fitTransform_bags_alphaTexts :
    (learner ⟨500, .english⟩).fitTransform [.text "the Alpha: BETA, beta", .text "alpha/gamma x"] =
      (learner ⟨500, .english⟩).fitTransform (List.ofFn alphaTexts) ∧
    ∃ (names : List String) (rows : Fin 2 → List Float) (similarity : Fin 2 → Fin 2 → Float),
      (learner ⟨500, .english⟩).fitTransform [alphaTexts 1, alphaTexts 0] =
        .ok (Features.mk [rows 1, rows 0] names
          [[similarity 1 1, similarity 1 0], [similarity 0 1, similarity 0 0]]).toDocument := by
  have hterms : terms .english (alphaTexts 0) = ["beta", "alpha", "beta"] ∧
      terms .english (alphaTexts 1) = ["gamma", "alpha"] ∧
      terms .english (.text "the Alpha: BETA, beta") = ["alpha", "beta", "beta"] ∧
      terms .english (.text "alpha/gamma x") = ["alpha", "gamma"] := by
    decide +kernel
  obtain ⟨hfirst, hsecond, hfirst', hsecond'⟩ := hterms
  have hlist : List.ofFn alphaTexts = [alphaTexts 0, alphaTexts 1] := rfl
  obtain ⟨hbags, horder⟩ := fitTransform_bags ⟨500, .english⟩
  constructor
  · rw [hlist]
    refine hbags _ _ (.cons ?_ (.cons ?_ .nil))
    · rw [hfirst, hfirst']
      decide
    · rw [hsecond, hsecond']
      decide
  · have hlearned : ∃ v, vocabulary Float.log 500
        [terms .english (alphaTexts 0), terms .english (alphaTexts 1)] = .ok v :=
      exists_vocabulary (by decide) (by simp [hfirst])
    obtain ⟨v, hv⟩ := hlearned
    have hfeatures : featuresOn Float.log ⟨500, .english⟩ (List.ofFn alphaTexts) = .ok _ :=
      featuresOn_eq_ok_iff.mpr ⟨v, hv, rfl⟩
    obtain ⟨names, rows, similarity, -, hswapped⟩ :=
      (horder 2 alphaTexts (Equiv.swap 0 1)).2 _ (fitTransform_of_featuresOn hfeatures)
    exact ⟨names, rows, similarity, hswapped⟩

end SurfaceDrift.Terms
