import SurfaceDrift.Builtin
import SurfaceDrift.Pipeline
import SurfaceDrift.Proofs.Catalog.History
import SurfaceDrift.Proofs.Text.Pieces
import SurfaceDrift.Proofs.Text.Words

/-!
# Pipelines as they are displayed

A step is read exactly if it is two words with a colon between them, blanks around it apart
(`parseStep_eq_ok_iff`). A catalog has its algorithms under lowercase words, so that a step that
was read is listed (`Pipeline.IsListed`) : its label and the name of its algorithm are words, and
the name leads to the algorithm. The text of a listed step is read as the step, and the texts of
listed steps with commas between them as the pipeline (`Pipeline.parse_display`). Hence
`Pipeline.display_reads_back`.
-/

namespace SurfaceDrift

/-! ## One step -/

/-- A step is two words with a colon between them. -/
theorem parseStep_eq_ok_iff {text stage algorithm : String} :
    parseStep text = .ok (stage, algorithm) ↔ Text.isWord stage = true ∧
      Text.isWord algorithm = true ∧ Text.trim text = stage ++ ":" ++ algorithm := by
  have hcut : ∀ {before after : String},
      Text.cutString ':' (Text.trim text) = some (before, after) ↔
        Text.trim text = before ++ ":" ++ after ∧ ':' ∉ before.toList := by
    intro before after
    rw [Text.cutString_eq_some_iff, ← String.toList_inj]
    simp
  unfold parseStep
  constructor
  · intro h
    dsimp only at h
    split at h
    · next before after hparts =>
      split_ifs at h with hwords
      obtain ⟨rfl, rfl⟩ := Prod.mk.inj (Except.ok.inj h)
      rw [Bool.and_eq_true] at hwords
      exact ⟨hwords.1, hwords.2, (hcut.mp hparts).1⟩
    · cases h
  · rintro ⟨hstage, halgorithm, htrim⟩
    have hcolon : ':' ∉ stage.toList := Text.not_mem_of_isWord hstage (by decide +kernel)
    have hparts := hcut.mpr ⟨htrim, hcolon⟩
    dsimp only
    rw [hparts]
    simp [hstage, halgorithm]

theorem parseStep_text {stage algorithm : String} (hstage : Text.isWord stage = true)
    (halgorithm : Text.isWord algorithm = true) :
    parseStep (stage ++ ":" ++ algorithm) = .ok (stage, algorithm) :=
  parseStep_eq_ok_iff.mpr ⟨hstage, halgorithm, Text.trim_append_of_isWord hstage halgorithm ":"⟩

namespace Pipeline

variable {catalog : Catalog}

theorem step_eq_ok_iff {text : String} {s : Step} :
    step catalog text = .ok s ↔ ∃ algorithm, parseStep text = .ok (s.stage, algorithm) ∧
      catalog.get? algorithm = some s.descriptor := by
  unfold step
  simp only [bind_eq_ok_iff, pure_eq_ok_iff, Catalog.resolve_eq_ok_iff, Prod.exists]
  constructor
  · rintro ⟨stage, algorithm, hparse, d, hd, rfl⟩
    exact ⟨algorithm, hparse, hd⟩
  · rintro ⟨algorithm, hparse, hd⟩
    exact ⟨s.stage, algorithm, hparse, s.descriptor, hd, rfl⟩

/-! ## The text of a step -/

/-- The label and the name of the algorithm are words, and the name leads to the algorithm. -/
structure IsListed (catalog : Catalog) (s : Step) : Prop where
  stage : Text.isWord s.stage = true
  algorithm : Text.isWord s.algorithm = true
  get? : catalog.get? s.algorithm = some s.descriptor

/-- The name of an algorithm of a catalog is a word that leads to the algorithm. -/
theorem isListed_of_get? (h : catalog.IsKeyed) {name : String} {s : Step}
    (hstage : Text.isWord s.stage = true) (hget : catalog.get? name = some s.descriptor) :
    IsListed catalog s := by
  have hname : s.algorithm = Text.lower name := h.name_of_get? hget
  obtain ⟨-, hword, -⟩ := h.of_mem (Fields.mem_of_find? hget)
  refine ⟨hstage, hname ▸ hword, ?_⟩
  rw [hname, Catalog.get?_lower, hget]

theorem isListed_of_step (h : catalog.IsKeyed) {text : String} {s : Step}
    (hstep : step catalog text = .ok s) : IsListed catalog s := by
  obtain ⟨name, hparse, hget⟩ := step_eq_ok_iff.mp hstep
  exact isListed_of_get? h (parseStep_eq_ok_iff.mp hparse).1 hget

/-- What is displayed of a step is read as the step. -/
theorem IsListed.step_text {s : Step} (h : IsListed catalog s) :
    step catalog (s.stage ++ ":" ++ s.algorithm) = .ok s :=
  step_eq_ok_iff.mpr ⟨s.algorithm, parseStep_text h.stage h.algorithm, h.get?⟩

theorem IsListed.comma_not_mem {s : Step} (h : IsListed catalog s) :
    ',' ∉ (s.stage ++ ":" ++ s.algorithm).toList := by
  have hcomma : Text.isWordChar ',' = false := by decide +kernel
  simp [Text.not_mem_of_isWord h.stage hcomma, Text.not_mem_of_isWord h.algorithm hcomma]

/-! ## The text of a pipeline -/

theorem parse_eq_ok_iff {text : String} {p : Pipeline} :
    parse catalog text = .ok p ↔
      List.Forall₂ (fun piece s => step catalog piece = .ok s) (Text.split ',' text) p.steps := by
  simp only [parse, bind_eq_ok_iff, pure_eq_ok_iff, mapM_eq_ok_iff]
  constructor
  · rintro ⟨steps, hsteps, rfl⟩
    exact hsteps
  · exact fun h => ⟨p.steps, h, rfl⟩

/-- A pipeline that is read has a step, and all its steps are listed. -/
theorem isListed_of_parse (h : catalog.IsKeyed) {text : String} {p : Pipeline}
    (hparse : parse catalog text = .ok p) : p.steps ≠ [] ∧ ∀ s ∈ p.steps, IsListed catalog s := by
  have hall := parse_eq_ok_iff.mp hparse
  constructor
  · intro hnone
    rw [hnone, List.forall₂_nil_right_iff] at hall
    exact Text.split_ne_nil ',' text hall
  · intro s hs
    obtain ⟨piece, -, hpiece⟩ := exists_of_mem_forall₂ hall hs
    exact isListed_of_step h hpiece

/-- What is displayed of listed steps is read as these steps. -/
theorem parse_display {p : Pipeline} (hne : p.steps ≠ [])
    (h : ∀ s ∈ p.steps, IsListed catalog s) : parse catalog p.display = .ok p := by
  have hcomma : ∀ text ∈ p.steps.map (fun s => s.stage ++ ":" ++ s.algorithm),
      ',' ∉ text.toList := by
    intro text htext
    obtain ⟨s, hs, rfl⟩ := List.mem_map.mp htext
    exact (h s hs).comma_not_mem
  have hsplit : Text.split ',' p.display = p.steps.map fun s => s.stage ++ ":" ++ s.algorithm :=
    Text.split_intercalate hcomma (mt List.map_eq_nil_iff.mp hne)
  rw [parse_eq_ok_iff, hsplit, List.forall₂_map_left_iff, List.forall₂_same]
  exact fun s hs => (h s hs).step_text

/-- What is displayed of a pipeline that was read is read as the same pipeline, with the same
labels and descriptors in the same order. Every algorithm of a catalog can be asked for, by its
name after a colon and any word as the label. -/
theorem display_reads_back (h : catalog.Built) :
    (∀ text p, parse catalog text = .ok p → parse catalog p.display = .ok p) ∧
    ∀ name d, Fields.find? catalog.entries name = some d → ∀ stage : String,
      stage ≠ "" → (∀ c ∈ stage.toList, Text.isWordChar c = true) →
        parse catalog (stage ++ ":" ++ name) = .ok ⟨[⟨stage, d⟩]⟩ := by
  have hkeyed := h.isKeyed
  refine ⟨fun text p hparse => ?_, fun name d hfind stage hne hword => ?_⟩
  · obtain ⟨hne, hlisted⟩ := isListed_of_parse hkeyed hparse
    exact parse_display hne hlisted
  · have hname : name ∈ catalog.names := Fields.exists_find?_iff.mp ⟨d, hfind⟩
    have hget : catalog.get? name = some d := by
      rw [Catalog.get?, hkeyed.lower_of_mem_names hname, hfind]
    have hlisted := isListed_of_get? hkeyed (s := ⟨stage, d⟩)
      (Text.isWord_iff.mpr ⟨hne, hword⟩) hget
    have hdisplay : display ⟨[⟨stage, d⟩]⟩ = stage ++ ":" ++ name := by
      rw [display, List.map_singleton, String.intercalate_singleton, Step.algorithm,
        hkeyed.name_eq (name, d) (Fields.mem_of_find? hfind)]
    rw [← hdisplay]
    refine parse_display (List.cons_ne_nil _ _) fun s hs => ?_
    rwa [List.mem_singleton.mp hs]

theorem display_reads_back_builtin :
    ∃ p d, parse Catalog.builtin " canon:TextNormalizer, extract:TFIDF" = .ok p ∧
      p.display = "canon:textnormalizer,extract:tfidf" ∧
      parse Catalog.builtin p.display = .ok p ∧
      parse Catalog.builtin "größe_1:dbscan" = .ok ⟨[⟨"größe_1", d⟩]⟩ := by
  have hread : (parse Catalog.builtin " canon:TextNormalizer, extract:TFIDF").toOption.map display =
      some "canon:textnormalizer,extract:tfidf" := by
    decide +kernel
  have hfound : (Fields.find? Catalog.builtin.entries "dbscan").isSome = true := by decide +kernel
  obtain ⟨d, hd⟩ := Option.isSome_iff_exists.mp hfound
  obtain ⟨hdisplay, hasked⟩ := display_reads_back (Catalog.built_discover _)
  obtain ⟨p, hp, htext⟩ := Option.map_eq_some_iff.mp hread
  have hparse := toOption_eq_some_iff.mp hp
  have hword : Text.isWord "größe_1" = true := by decide +kernel
  obtain ⟨hne, hchars⟩ := Text.isWord_iff.mp hword
  exact ⟨p, d, hparse, htext, hdisplay _ p hparse, hasked "dbscan" d hd "größe_1" hne hchars⟩

end Pipeline

end SurfaceDrift
