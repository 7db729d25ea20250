import SurfaceDrift.Proofs.Builtin.Errors
import SurfaceDrift.Proofs.Canonical
import SurfaceDrift.Proofs.Terms.Run

/-!
# Outcomes written and read

Nothing marks a written outcome as a failure but its shape : a document that spells a failure is
an object with a text under `error` and nothing else (`Outcome.SpellsFailure`). Every document is
the written form of the outcome it is read as (`Outcome.toDocument_ofDocument`), and an outcome
is read as itself unless it is an answer of that shape (`Outcome.ofDocument_toDocument_iff`). The
library's algorithms answer with lists and with objects of other names
(`Configured.not_spellsFailure`), so that the results of a comparison on its catalog are read as
they were written (`Comparison.results_read_back`).
-/

namespace SurfaceDrift

namespace Outcome

/-- The document is what is written of a failure. -/
def SpellsFailure (d : Document) : Prop := ∃ text, d = .object [("error", .text text)]

/-! ## One outcome -/

theorem ofDocument_of_not_spellsFailure {d : Document} (h : ¬SpellsFailure d) :
    ofDocument d = .success d := by
  unfold ofDocument
  split
  · next key text =>
    rw [if_neg]
    rintro rfl
    exact h ⟨text, rfl⟩
  · rfl

/-- Writing what a document is read as gives the document. -/
theorem toDocument_ofDocument (d : Document) : (ofDocument d).toDocument = d := by
  by_cases h : SpellsFailure d
  · obtain ⟨text, rfl⟩ := h
    rfl
  · rw [ofDocument_of_not_spellsFailure h]
    rfl

/-- An outcome is read as itself unless it is an answer that looks like a failure. -/
theorem ofDocument_toDocument_iff (o : Outcome) :
    ofDocument o.toDocument = o ↔ ∀ d, o = .success d → ¬SpellsFailure d := by
  cases o with
  | failed text => exact iff_of_true rfl fun d h => by cases h
  | success d =>
    constructor
    · rintro h d' hd ⟨text, rfl⟩
      obtain rfl := Outcome.success.inj hd
      cases h
    · exact fun h => ofDocument_of_not_spellsFailure (h d rfl)

/-! ## Documents of other shapes -/

theorem not_spellsFailure_list (items : List Document) : ¬SpellsFailure (.list items) := by
  rintro ⟨text, h⟩
  cases h

/-- An object without the name `error` is no failure. -/
theorem not_spellsFailure_ofFields {entries : List (String × Document)}
    (h : "error" ∉ entries.map Prod.fst) : ¬SpellsFailure (Document.ofFields entries) := by
  rintro ⟨text, heq⟩
  have hfields : Fields.ofList entries = [("error", .text text)] := Document.object.inj heq
  have hmem : ("error", Document.text text) ∈ entries :=
    Fields.mem_of_mem_ofList (hfields ▸ List.mem_singleton_self _)
  exact h (List.mem_map_of_mem hmem)

end Outcome

/-! ## The answers of the library's algorithms -/

/-- A scaling answers with a list. -/
theorem Scaling.exists_list_of_fitTransform {params : Scaling.Params} {data : List Document}
    {output : Document} (h : (learner params).fitTransform data = .ok output) :
    ∃ items, output = .list items := by
  rw [Learner.fitTransform_of_remember rfl] at h
  obtain ⟨range, -, h⟩ := bind_eq_ok_iff.mp h
  cases hscaled : data.mapM (scaleDocument params range) with
  | ok scaled =>
    simp only [learner, transform, hscaled] at h
    exact ⟨scaled, (Except.ok.inj h).symm⟩
  | error payload =>
    simp only [learner, transform, hscaled] at h
    cases h

/-- No answer of an algorithm of the library looks like a failure. -/
theorem Configured.not_spellsFailure {c : Configured} {data : List Document} {output : Document}
    (h : c.algorithm.answer data = .ok output) : ¬Outcome.SpellsFailure output := by
  cases c with
  | clustering params =>
    rw [Clustering.eq_of_fitTransform h]
    exact Outcome.not_spellsFailure_ofFields (by simp)
  | scaling params =>
    obtain ⟨items, rfl⟩ := Scaling.exists_list_of_fitTransform h
    exact Outcome.not_spellsFailure_list items
  | terms params =>
    obtain ⟨f, -, rfl⟩ := Terms.exists_of_fitTransform h
    exact Outcome.not_spellsFailure_ofFields (by simp)
  | canonicalization policy =>
    rw [Canonicalization.eq_of_answer h]
    exact Outcome.not_spellsFailure_list _

namespace Comparison

variable {data : List Document} {requested : Option (List String)} {params : ParamSet}

/-- An outcome on the library's catalog is read as it was written. -/
theorem ofDocument_toDocument_of_alone {name : String} {o : Outcome}
    (h : Alone Catalog.builtin data params name o) : Outcome.ofDocument o.toDocument = o := by
  refine (Outcome.ofDocument_toDocument_iff o).mpr fun d hd => ?_
  subst hd
  cases h with
  | answers hget hbuild hanswer =>
    obtain ⟨b, rfl⟩ := Catalog.exists_builtin_of_get? hget
    obtain ⟨c, -, rfl⟩ := map_eq_ok_iff.mp hbuild
    exact Configured.not_spellsFailure hanswer

/-- Every document is what is written of the outcome that it is read as, and an outcome is read
as itself unless it is an answer that looks like a failure. No answer of the library's algorithms
does, so that the results of a comparison on its catalog are read as they were written. -/
theorem results_read_back :
    (∀ d, (Outcome.ofDocument d).toDocument = d) ∧
    (∀ o : Outcome, Outcome.ofDocument o.toDocument = o ↔
      ¬∃ text, o = .success (.object [("error", .text text)])) ∧
    (∀ (c : Configured) data output, c.algorithm.answer data = .ok output →
      ∀ text, output ≠ .object [("error", .text text)]) ∧
    ∀ data requested params processors jobs results,
      Ends (workerCount processors jobs) Catalog.builtin data requested params (.ok results) →
      Results.ofDocument? results.toDocument = some results := by
  refine ⟨Outcome.toDocument_ofDocument, fun o => ?_, fun c data output h text heq => ?_, ?_⟩
  · rw [Outcome.ofDocument_toDocument_iff]
    constructor
    · rintro h ⟨text, rfl⟩
      exact h _ rfl ⟨text, rfl⟩
    · rintro h d rfl ⟨text, rfl⟩
      exact h ⟨text, rfl⟩
  · exact Configured.not_spellsFailure h ⟨text, heq⟩
  · intro data requested params processors jobs results h
    have hread : ∀ entry ∈ results,
        (entry.1, Outcome.ofDocument entry.2.toDocument) = entry := by
      rintro ⟨name, o⟩ hentry
      have hfind := h.ascending.find?_of_mem hentry
      obtain ⟨-, halone⟩ := (h.find?_eq_some_iff Catalog.built_builtin.isKeyed).mp hfind
      rw [ofDocument_toDocument_of_alone halone]
    rw [Results.toDocument, Results.ofDocument?, Fields.mapValues, Fields.mapValues, List.map_map]
    exact congrArg some ((List.map_congr_left hread).trans (List.map_id results))

theorem results_read_back_oneOfTwo :
    ∃ results, Ends (workerCount 4 (some 2)) Catalog.builtin [.text "A_b", .text "c"]
        (some ["MinMaxScaler", "TextNormalizer"]) [] (.ok results) ∧
      results.map (fun entry => (entry.1, entry.2.error?)) =
        [("minmaxscaler", some (Error.data .noNumbers).message), ("textnormalizer", none)] ∧
      Results.ofDocument? results.toDocument = some results := by
  have hoks : (run Catalog.builtin [.text "A_b", .text "c"]
      (some ["MinMaxScaler", "TextNormalizer"]) []).toOption.map
        (fun results => results.map fun entry => (entry.1, entry.2.error?)) =
      some [("minmaxscaler", some (Error.data .noNumbers).message), ("textnormalizer", none)] := by
    decide +kernel
  obtain ⟨-, -, -, hback⟩ := results_read_back
  obtain ⟨results, hresults, houtcomes⟩ := Option.map_eq_some_iff.mp hoks
  have hends := (ends_iff_run Catalog.built_builtin.isKeyed
    (show 0 < workerCount 4 (some 2) by decide)).mpr (toOption_eq_some_iff.mp hresults)
  exact ⟨results, hends, houtcomes, hback _ _ _ _ _ results hends⟩

end Comparison

end SurfaceDrift
