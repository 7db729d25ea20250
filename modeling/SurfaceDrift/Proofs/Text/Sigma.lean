import Mathlib.Data.List.Basic
import SurfaceDrift.Text.Casing

/-!
# Capital sigmas

In lowercase every character has a form of its own, except a capital sigma : it has one form where
it ends a word and another one elsewhere. So the lowercase of a text is spelled by its characters
and by which of its sigmas end a word (`lowerAfter_eq_spell`), and different ends are spelled
differently (`eq_of_filter_spell_eq`).

To both sides a sigma sees no farther than the nearest character that case does not ignore. What
comes after a text is seen by its last sigma only, and only if nothing but ignored characters
follows it (`sigmaEnds_after_iff`). What comes before a text is seen by the first one, likewise
(`sigmaEnds_before_iff`).
-/

namespace SurfaceDrift.Text

/-! ## The nearest character -/

/-- Case looks through the character. -/
def caseIgnores (c : Char) : Bool :=
  inRanges caseIgnorableRanges c.toNat

theorem casedNext_cons (c : Char) (cs : List Char) :
    casedNext (c :: cs) = if caseIgnores c then casedNext cs else inRanges casedRanges c.toNat :=
  rfl

theorem caseIgnores_sigma : caseIgnores 'Σ' = false := by
  decide +kernel

/-- What stands behind ignored characters counts, and what stands behind others does not. -/
theorem casedNext_append_eq_iff {cs after after' : List Char} :
    casedNext (cs ++ after) = casedNext (cs ++ after') ↔
      ((∀ c ∈ cs, caseIgnores c = true) → casedNext after = casedNext after') := by
  induction cs with
  | nil => simp
  | cons c cs ih =>
    rw [List.cons_append, List.cons_append, casedNext_cons, casedNext_cons, List.forall_mem_cons]
    split_ifs with hc
    · simp [ih, hc]
    · simp [hc]

/-! ## The sigmas that end a word -/

/-- Whether a sigma between these texts, of which the first is written backwards, ends a word. -/
def endsWord (before after : List Char) : Bool :=
  casedNext before && !casedNext after

/-- For each capital sigma of a text, in their order, whether it ends a word. The text stands
between `before`, which is written backwards, and `after`. -/
def sigmaEnds (before : List Char) : List Char → List Char → List Bool
  | [], _ => []
  | c :: cs, after =>
    if c = 'Σ' then endsWord before (cs ++ after) :: sigmaEnds (c :: before) cs after
    else sigmaEnds (c :: before) cs after

theorem sigmaEnds_sigma (before cs after : List Char) :
    sigmaEnds before ('Σ' :: cs) after =
      endsWord before (cs ++ after) :: sigmaEnds ('Σ' :: before) cs after :=
  rfl

theorem sigmaEnds_of_ne {c : Char} (h : c ≠ 'Σ') (before cs after : List Char) :
    sigmaEnds before (c :: cs) after = sigmaEnds (c :: before) cs after :=
  if_neg h

theorem length_sigmaEnds (before cs after : List Char) :
    (sigmaEnds before cs after).length = cs.count 'Σ' := by
  induction cs generalizing before with
  | nil => rfl
  | cons c cs ih =>
    by_cases hsigma : c = 'Σ'
    · subst hsigma
      rw [sigmaEnds_sigma, List.length_cons, ih, List.count_cons_self]
    · rw [sigmaEnds_of_ne hsigma, ih, List.count_cons_of_ne hsigma]

theorem sigmaEnds_append (before cs ds after : List Char) :
    sigmaEnds before (cs ++ ds) after =
      sigmaEnds before cs (ds ++ after) ++ sigmaEnds (cs.reverse ++ before) ds after := by
  induction cs generalizing before with
  | nil => rfl
  | cons c cs ih =>
    have hbefore : (c :: cs).reverse ++ before = cs.reverse ++ c :: before := by simp
    rw [List.cons_append, hbefore]
    by_cases hsigma : c = 'Σ'
    · subst hsigma
      rw [sigmaEnds_sigma, sigmaEnds_sigma, ih, List.append_assoc, List.cons_append]
    · rw [sigmaEnds_of_ne hsigma, sigmaEnds_of_ne hsigma, ih]

/-! ## What the sigmas see -/

/-- Only ignored characters follow the last sigma, and its word begins before it : whether it
ends the word is up to what comes after the text. -/
def EndsInSigma (before cs : List Char) : Prop :=
  ∃ start rest, cs = start ++ 'Σ' :: rest ∧ (∀ c ∈ rest, caseIgnores c = true) ∧
    casedNext (start.reverse ++ before) = true

/-- Only ignored characters precede the first sigma, and its word does not go on after it :
whether it ends a word is up to what comes before the text. -/
def BeginsWithSigma (cs after : List Char) : Prop :=
  ∃ start rest, cs = start ++ 'Σ' :: rest ∧ (∀ c ∈ start, caseIgnores c = true) ∧
    casedNext (rest ++ after) = false

theorem not_endsInSigma_nil (before : List Char) : ¬EndsInSigma before [] := by
  rintro ⟨start, rest, heq, -⟩
  simp at heq

theorem not_beginsWithSigma_nil (after : List Char) : ¬BeginsWithSigma [] after := by
  rintro ⟨start, rest, heq, -⟩
  simp at heq

theorem endsInSigma_cons {before cs : List Char} {c : Char} :
    EndsInSigma before (c :: cs) ↔
      (c = 'Σ' ∧ (∀ d ∈ cs, caseIgnores d = true) ∧ casedNext before = true) ∨
        EndsInSigma (c :: before) cs := by
  constructor
  · rintro ⟨_ | ⟨d, start⟩, rest, heq, hrest, hword⟩
    · obtain ⟨rfl, rfl⟩ := List.cons.inj heq
      exact Or.inl ⟨rfl, hrest, hword⟩
    · obtain ⟨rfl, rfl⟩ := List.cons.inj heq
      exact Or.inr ⟨start, rest, rfl, hrest, by simpa using hword⟩
  · rintro (⟨rfl, hrest, hword⟩ | ⟨start, rest, rfl, hrest, hword⟩)
    · exact ⟨[], cs, rfl, hrest, hword⟩
    · exact ⟨c :: start, rest, rfl, hrest, by simpa using hword⟩

theorem beginsWithSigma_cons {cs after : List Char} {c : Char} :
    BeginsWithSigma (c :: cs) after ↔
      (c = 'Σ' ∧ casedNext (cs ++ after) = false) ∨
        (caseIgnores c = true ∧ BeginsWithSigma cs after) := by
  constructor
  · rintro ⟨_ | ⟨d, start⟩, rest, heq, hstart, hword⟩
    · obtain ⟨rfl, rfl⟩ := List.cons.inj heq
      exact Or.inl ⟨rfl, hword⟩
    · obtain ⟨rfl, rfl⟩ := List.cons.inj heq
      obtain ⟨hc, hstart⟩ := List.forall_mem_cons.mp hstart
      exact Or.inr ⟨hc, start, rest, rfl, hstart, hword⟩
  · rintro (⟨rfl, hword⟩ | ⟨hc, start, rest, rfl, hstart, hword⟩)
    · exact ⟨[], cs, rfl, by simp, hword⟩
    · exact ⟨c :: start, rest, rfl, List.forall_mem_cons.mpr ⟨hc, hstart⟩, hword⟩

/-- What comes after a text counts for its last sigma, if for any. -/
theorem sigmaEnds_after_iff {before cs after after' : List Char} :
    sigmaEnds before cs after = sigmaEnds before cs after' ↔
      (EndsInSigma before cs → casedNext after = casedNext after') := by
  induction cs generalizing before with
  | nil => simp [sigmaEnds, not_endsInSigma_nil]
  | cons c cs ih =>
    rw [endsInSigma_cons]
    by_cases hsigma : c = 'Σ'
    · subst hsigma
      have hhere : endsWord before (cs ++ after) = endsWord before (cs ++ after') ↔
          (casedNext before = true → casedNext (cs ++ after) = casedNext (cs ++ after')) := by
        unfold endsWord
        cases casedNext before <;> simp
      rw [sigmaEnds_sigma, sigmaEnds_sigma, List.cons.injEq, hhere, ih, casedNext_append_eq_iff]
      tauto
    · rw [sigmaEnds_of_ne hsigma, sigmaEnds_of_ne hsigma, ih]
      tauto

/-- What comes before a text counts for its first sigma, if for any. -/
theorem sigmaEnds_before_iff {before before' cs after : List Char} :
    sigmaEnds before cs after = sigmaEnds before' cs after ↔
      (BeginsWithSigma cs after → casedNext before = casedNext before') := by
  induction cs generalizing before before' with
  | nil => simp [sigmaEnds, not_beginsWithSigma_nil]
  | cons c cs ih =>
    rw [beginsWithSigma_cons]
    by_cases hsigma : c = 'Σ'
    · subst hsigma
      have hhere : endsWord before (cs ++ after) = endsWord before' (cs ++ after) ↔
          (casedNext (cs ++ after) = false → casedNext before = casedNext before') := by
        unfold endsWord
        cases casedNext (cs ++ after) <;> simp
      -- What comes after a sigma sees that sigma and nothing before it.
      have hlater : sigmaEnds ('Σ' :: before) cs after = sigmaEnds ('Σ' :: before') cs after :=
        ih.mpr fun _ => rfl
      rw [sigmaEnds_sigma, sigmaEnds_sigma, List.cons.injEq, hhere, caseIgnores_sigma]
      simp [hlater]
    · rw [sigmaEnds_of_ne hsigma, sigmaEnds_of_ne hsigma, ih, casedNext_cons, casedNext_cons]
      cases caseIgnores c <;> simp [hsigma]

/-! ## Spelling -/

/-- The lowercase of the characters, where the flags tell which capital sigmas end a word. -/
def spell : List Char → List Bool → List Char
  | [], _ => []
  | c :: cs, ends =>
    if c = 'Σ' then (if ends.headD false then 'ς' else 'σ') :: spell cs ends.tail
    else lowerChar c ++ spell cs ends

theorem spell_sigma (cs : List Char) (last : Bool) (ends : List Bool) :
    spell ('Σ' :: cs) (last :: ends) = (if last then 'ς' else 'σ') :: spell cs ends :=
  rfl

theorem spell_of_ne {c : Char} (h : c ≠ 'Σ') (cs : List Char) (ends : List Bool) :
    spell (c :: cs) ends = lowerChar c ++ spell cs ends :=
  if_neg h

theorem lowerAfter_eq_spell (before cs : List Char) :
    lowerAfter before cs = spell cs (sigmaEnds before cs []) := by
  induction cs generalizing before with
  | nil => rfl
  | cons c cs ih =>
    rw [lowerAfter, ih]
    by_cases hsigma : c = 'Σ'
    · subst hsigma
      rw [sigmaEnds_sigma, spell_sigma, List.append_nil]
      rfl
    · rw [sigmaEnds_of_ne hsigma, spell_of_ne hsigma, if_neg hsigma]

/-- From what is spelled the ends can be read, also if other characters than sigmas are left
out. -/
theorem eq_of_filter_spell_eq {p : Char → Bool} (hfinal : p 'ς' = true) (hinner : p 'σ' = true)
    {cs : List Char} {ends ends' : List Bool} (hlength : ends.length = cs.count 'Σ')
    (hlength' : ends'.length = cs.count 'Σ')
    (h : (spell cs ends).filter p = (spell cs ends').filter p) : ends = ends' := by
  induction cs generalizing ends ends' with
  | nil => rw [List.eq_nil_of_length_eq_zero hlength, List.eq_nil_of_length_eq_zero hlength']
  | cons c cs ih =>
    by_cases hsigma : c = 'Σ'
    · subst hsigma
      rw [List.count_cons_self] at hlength hlength'
      obtain ⟨last, rest, rfl⟩ := List.exists_cons_of_length_eq_add_one hlength
      obtain ⟨last', rest', rfl⟩ := List.exists_cons_of_length_eq_add_one hlength'
      have hkept : ∀ b : Bool, p (if b then 'ς' else 'σ') = true := by simp [hfinal, hinner]
      rw [spell_sigma, spell_sigma, List.filter_cons_of_pos (hkept last),
        List.filter_cons_of_pos (hkept last')] at h
      obtain ⟨hhere, hlater⟩ := List.cons.inj h
      have hlast : last = last' := by
        cases last <;> cases last' <;> simp_all
      rw [hlast, ih (Nat.succ.inj hlength) (Nat.succ.inj hlength') hlater]
    · rw [List.count_cons_of_ne hsigma] at hlength hlength'
      rw [spell_of_ne hsigma, spell_of_ne hsigma, List.filter_append, List.filter_append] at h
      exact ih hlength hlength' (List.append_cancel_left h)

end SurfaceDrift.Text
