import SurfaceDrift.Proofs.Pipeline.Display

/-!
# Which texts are pipelines

A step is spelled by two words with a colon between them (`Spells`). It is read if the second word
names an algorithm of the catalog (`Pipeline.Reads`), and else it is refused, with an error that
holds what was found in its place (`Pipeline.Refuses`). A pipeline is read piece by piece between
the commas, and the leftmost piece that is refused decides the error (`Pipeline.parse_spec`).
-/

namespace SurfaceDrift

/-! ## One step -/

/-- The piece is two words with a colon between them, blanks around it apart. -/
structure Spells (piece stage name : String) : Prop where
  stage_ne : stage ≠ ""
  stage_word : ∀ c ∈ stage.toList, Text.isWordChar c = true
  name_ne : name ≠ ""
  name_word : ∀ c ∈ name.toList, Text.isWordChar c = true
  trim_eq : Text.trim piece = stage ++ ":" ++ name

theorem parseStep_eq_ok_iff_spells {piece stage name : String} :
    parseStep piece = .ok (stage, name) ↔ Spells piece stage name := by
  rw [parseStep_eq_ok_iff, Text.isWord_iff, Text.isWord_iff]
  constructor
  · rintro ⟨⟨hstage, hstageWord⟩, ⟨hname, hnameWord⟩, htrim⟩
    exact ⟨hstage, hstageWord, hname, hnameWord, htrim⟩
  · rintro ⟨hstage, hstageWord, hname, hnameWord, htrim⟩
    exact ⟨⟨hstage, hstageWord⟩, ⟨hname, hnameWord⟩, htrim⟩

/-- What is no step is told without the blanks around it. -/
theorem parseStep_eq_error_iff {piece : String} {e : Error} :
    parseStep piece = .error e ↔
      (∀ stage name, ¬ Spells piece stage name) ∧ e = .badStep (Text.trim piece) := by
  simp only [← parseStep_eq_ok_iff_spells]
  cases hparse : parseStep piece with
  | ok parts =>
    refine iff_of_false (fun h => by cases h) fun h => h.1 parts.1 parts.2 rfl
  | error found =>
    have hfound : found = .badStep (Text.trim piece) := by
      unfold parseStep at hparse
      dsimp only at hparse
      split at hparse
      · split_ifs at hparse
        exact (Except.error.inj hparse).symm
      · exact (Except.error.inj hparse).symm
    constructor
    · intro h
      exact ⟨fun stage name h => (by cases h), (Except.error.inj h).symm.trans hfound⟩
    · rintro ⟨-, rfl⟩
      rw [hfound]

namespace Pipeline

variable {catalog : Catalog}

/-- The piece spells the step : its label as it is written, and the descriptor that the catalog has
for the name in any letter case. -/
def Reads (catalog : Catalog) (piece : String) (s : Step) : Prop :=
  ∃ name, Spells piece s.stage name ∧
    Fields.find? catalog.entries (Text.lower name) = some s.descriptor

/-- The error that the piece leads to : it is no step, or a step of an algorithm that the catalog
does not have. -/
inductive Refuses (catalog : Catalog) (piece : String) : Error → Prop
  | shape (hshape : ∀ stage name, ¬ Spells piece stage name) :
    Refuses catalog piece (.badStep (Text.trim piece))
  | unknown {stage name : String} (hspells : Spells piece stage name)
    (hunknown : Text.lower name ∉ catalog.names) :
    Refuses catalog piece (.unknownAlgorithm name catalog.names)

theorem step_eq_ok_iff_reads {piece : String} {s : Step} :
    step catalog piece = .ok s ↔ Reads catalog piece s := by
  simp only [step_eq_ok_iff, parseStep_eq_ok_iff_spells]
  rfl

theorem resolve_eq_error_iff {name : String} {e : Error} :
    catalog.resolve name = .error e ↔
      Text.lower name ∉ catalog.names ∧ e = .unknownAlgorithm name catalog.names := by
  rw [Catalog.names, ← Fields.find?_eq_none_iff, ← Catalog.get?, Catalog.resolve]
  cases catalog.get? name with
  | none => simp [Catalog.names, eq_comm]
  | some d => simp

theorem step_eq_error_iff {piece : String} {e : Error} :
    step catalog piece = .error e ↔ Refuses catalog piece e := by
  unfold step
  simp only [bind_eq_error_iff, parseStep_eq_error_iff, resolve_eq_error_iff, Prod.exists,
    parseStep_eq_ok_iff_spells]
  constructor
  · rintro (⟨hshape, rfl⟩ | ⟨stage, name, hspells, ⟨hunknown, rfl⟩ | ⟨d, -, h⟩⟩)
    · exact .shape hshape
    · exact .unknown hspells hunknown
    · cases h
  · rintro (hshape | ⟨hspells, hunknown⟩)
    · exact Or.inl ⟨hshape, rfl⟩
    · exact Or.inr ⟨_, _, hspells, Or.inl ⟨hunknown, rfl⟩⟩

/-- A piece is read exactly if the name in it is one of the catalog. -/
theorem exists_reads_iff {piece : String} :
    (∃ s, Reads catalog piece s) ↔
      ∃ stage name, Spells piece stage name ∧ Text.lower name ∈ catalog.names := by
  constructor
  · rintro ⟨s, name, hspells, hfind⟩
    exact ⟨s.stage, name, hspells, Fields.exists_find?_iff.mp ⟨s.descriptor, hfind⟩⟩
  · rintro ⟨stage, name, hspells, hname⟩
    obtain ⟨d, hfind⟩ := Fields.exists_find?_iff.mpr hname
    exact ⟨⟨stage, d⟩, name, hspells, hfind⟩

/-! ## All steps -/

theorem parse_eq_error_iff {text : String} {e : Error} :
    parse catalog text = .error e ↔ ∃ before piece after,
      Text.split ',' text = before ++ piece :: after ∧
        (∀ x ∈ before, ∃ s, step catalog x = .ok s) ∧ step catalog piece = .error e := by
  rw [parse, bind_eq_error_iff, ← mapM_eq_error_iff]
  refine or_iff_left ?_
  rintro ⟨steps, -, h⟩
  cases h

theorem exists_parse_eq_ok_iff {text : String} :
    (∃ p, parse catalog text = .ok p) ↔
      ∀ piece ∈ Text.split ',' text, ∃ s, step catalog piece = .ok s := by
  constructor
  · rintro ⟨p, hp⟩ piece hpiece
    obtain ⟨s, -, hs⟩ := exists_of_mem_forall₂ (parse_eq_ok_iff.mp hp).flip hpiece
    exact ⟨s, hs⟩
  · intro h
    obtain ⟨steps, hsteps⟩ := exists_mapM_eq_ok h
    exact ⟨⟨steps⟩, parse_eq_ok_iff.mpr (mapM_eq_ok_iff.mp hsteps)⟩

/-- A text is read piece by piece between its commas, each piece as a step with its label as it is
written, and the leftmost piece that is refused decides the error. The names that an error tells
ascend. -/
theorem parse_spec (h : catalog.Built) (text : String) :
    ∃ pieces, ",".intercalate pieces = text ∧ (∀ piece ∈ pieces, ',' ∉ piece.toList) ∧
      ((∃ p, parse catalog text = .ok p) ↔ ∀ piece ∈ pieces, ∃ stage name,
        Spells piece stage name ∧ Text.lower name ∈ catalog.names) ∧
      (∀ p, parse catalog text = .ok p ↔ List.Forall₂ (Reads catalog) pieces p.steps) ∧
      (∀ p, parse catalog text = .ok p → p.steps.length = text.toList.count ',' + 1) ∧
      (∀ e, parse catalog text = .error e ↔ ∃ before piece after,
        pieces = before ++ piece :: after ∧ (∀ x ∈ before, ∃ s, Reads catalog x s) ∧
          Refuses catalog piece e) ∧
      catalog.names.Pairwise (· < ·) ∧
      ∀ name, (Error.unknownAlgorithm name catalog.names).message =
        "Algorithm '" ++ name ++ "' not found in available algorithms: " ++
          ", ".intercalate catalog.names := by
  obtain ⟨hjoin, hcomma, hlength⟩ := Text.split_spec ',' text
  have hread (p : Pipeline) : parse catalog text = .ok p ↔
      List.Forall₂ (Reads catalog) (Text.split ',' text) p.steps := by
    simp only [parse_eq_ok_iff, step_eq_ok_iff_reads]
  refine ⟨Text.split ',' text, hjoin, hcomma, ?_, hread, fun p hp => ?_, fun e => ?_,
    h.isKeyed.ascending, fun name => rfl⟩
  · simp only [exists_parse_eq_ok_iff, step_eq_ok_iff_reads, exists_reads_iff]
  · rw [← hlength, ((hread p).mp hp).length_eq]
  · simp only [parse_eq_error_iff, step_eq_ok_iff_reads, step_eq_error_iff]

/-- The second piece is refused, and the third one has no part in it. -/
theorem parse_spec_builtin :
    Catalog.builtin.Built ∧ ∃ pieces before piece after,
      ",".intercalate pieces = " canon:TextNormalizer,x:Unknown ,y" ∧
        pieces = before ++ piece :: after ∧ (∀ x ∈ before, ∃ s, Reads Catalog.builtin x s) ∧
        Refuses Catalog.builtin piece
          (.unknownAlgorithm "Unknown" ["dbscan", "minmaxscaler", "textnormalizer", "tfidf"]) := by
  have hbuilt : Catalog.builtin.Built := Catalog.built_discover _
  obtain ⟨pieces, hjoin, -, -, -, -, herror, -⟩ :=
    parse_spec hbuilt " canon:TextNormalizer,x:Unknown ,y"
  have hparse : parse Catalog.builtin " canon:TextNormalizer,x:Unknown ,y" =
      .error (.unknownAlgorithm "Unknown" ["dbscan", "minmaxscaler", "textnormalizer", "tfidf"]) :=
    rfl
  obtain ⟨before, piece, after, hpieces, hbefore, hrefuses⟩ := (herror _).mp hparse
  exact ⟨hbuilt, pieces, before, piece, after, hjoin, hpieces, hbefore, hrefuses⟩

end Pipeline

end SurfaceDrift
