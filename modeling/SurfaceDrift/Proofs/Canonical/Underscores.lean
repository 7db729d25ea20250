import SurfaceDrift.Canonical
import SurfaceDrift.Proofs.Text.Blank
import SurfaceDrift.Proofs.Text.Casing
import SurfaceDrift.Proofs.Text.Sigma

/-!
# Names that differ in underscores

A name loses its underscores after it became lowercase. No other character has a lowercase form
with an underscore, but a capital sigma sees the underscores that are still there, and an
underscore ends a word. So names that differ in underscores only are the same name as long as the
same of their sigmas end a word (`canonicalName_eq_iff_sigmaEnds`), and one underscore more makes
another name in two cases only (`canonicalName_insert_iff`). Without a capital sigma underscores
do not matter.
-/

namespace SurfaceDrift

/-! ## Lowercase and underscores -/

/-- The table moves nothing to an underscore : all that it moves to lies behind. -/
theorem underscore_lt_of_mem_lowercaseRuns :
    ∀ r ∈ Text.lowercaseRuns, (95 : Int) < r.first + r.shift := by
  decide +kernel

theorem underscore_not_mem_lowerChar {c : Char} (h : c ≠ '_') : '_' ∉ Text.lowerChar c := by
  unfold Text.lowerChar
  split_ifs
  · decide
  · rw [List.mem_singleton]
    rcases Text.lowerCode_cases Text.lowercaseRuns c.toNat with hstays | ⟨r, hr, hholds, hmoves⟩
    · rw [hstays, Char.ofNat_toNat]
      exact Ne.symm h
    · intro heq
      have hvalid := (Text.settled_of_holds hr hholds).1
      have hcode : (c.toNat + r.shift).toNat = 95 := by
        rw [← Text.toNat_ofNat hvalid, ← hmoves, ← heq]
        rfl
      have hbehind := underscore_lt_of_mem_lowercaseRuns r hr
      simp only [Text.CaseRun.holds, Bool.and_eq_true, decide_eq_true_eq] at hholds
      omega

theorem filter_lowerChar {c : Char} (h : c ≠ '_') :
    (Text.lowerChar c).filter (· != '_') = Text.lowerChar c := by
  refine List.filter_eq_self.mpr fun d hd => bne_iff_ne.mpr ?_
  rintro rfl
  exact underscore_not_mem_lowerChar h hd

/-- The underscores can be dropped before the spelling, since they are spelled by themselves. -/
theorem filter_spell (cs : List Char) (ends : List Bool) :
    (Text.spell cs ends).filter (· != '_') = Text.spell (cs.filter (· != '_')) ends := by
  have hunderscore : Text.lowerChar '_' = ['_'] := by decide +kernel
  have hkeeps : ∀ {d : Char} {ds : List Char}, d ≠ '_' →
      (d :: ds).filter (· != '_') = d :: ds.filter (· != '_') := fun hd =>
    List.filter_cons_of_pos (bne_iff_ne.mpr hd)
  induction cs generalizing ends with
  | nil => rfl
  | cons c cs ih =>
    by_cases hline : c = '_'
    · subst hline
      rw [Text.spell_of_ne (by decide), List.filter_append, hunderscore, ih]
      rfl
    · rw [hkeeps hline]
      by_cases hsigma : c = 'Σ'
      · subst hsigma
        have hform : (if ends.headD false then 'ς' else 'σ') ≠ '_' := by
          split_ifs <;> decide
        exact (hkeeps hform).trans (congrArg _ (ih ends.tail))
      · rw [Text.spell_of_ne hsigma, Text.spell_of_ne hsigma, List.filter_append,
          filter_lowerChar hline, ih]

theorem canonicalName_eq_squeeze (s : String) :
    canonicalName s = String.ofList (Text.squeeze
      (Text.spell (s.toList.filter (· != '_')) (Text.sigmaEnds [] s.toList []))) := by
  rw [canonicalName, Text.lower, String.toList_ofList, Text.lowerAfter_eq_spell, filter_spell]

/-! ## The same characters but for underscores -/

/-- No sigma is dropped with the underscores. -/
theorem length_sigmaEnds_filter (s : String) :
    (Text.sigmaEnds [] s.toList []).length = (s.toList.filter (· != '_')).count 'Σ' := by
  rw [Text.length_sigmaEnds, List.count_filter (by decide)]

/-- Names that differ in underscores only become the same exactly if the same sigmas end a
word. -/
theorem canonicalName_eq_iff_sigmaEnds {s t : String}
    (h : s.toList.filter (· != '_') = t.toList.filter (· != '_')) :
    canonicalName s = canonicalName t ↔
      Text.sigmaEnds [] s.toList [] = Text.sigmaEnds [] t.toList [] := by
  rw [canonicalName_eq_squeeze, canonicalName_eq_squeeze, ← h]
  constructor
  · intro hname
    have hkept := congrArg (List.filter fun c => !Text.isBlank c) (String.ofList_injective hname)
    rw [Text.filter_squeeze, Text.filter_squeeze] at hkept
    exact Text.eq_of_filter_spell_eq rfl rfl (length_sigmaEnds_filter s)
      (h ▸ length_sigmaEnds_filter t) hkept
  · intro hends
    rw [hends]

theorem canonicalName_eq_of_no_sigma {s t : String}
    (h : s.toList.filter (· != '_') = t.toList.filter (· != '_')) (hnone : 'Σ' ∉ s.toList) :
    canonicalName s = canonicalName t := by
  have hcount : (s.toList.filter (· != '_')).count 'Σ' = 0 := by
    rw [List.count_filter (by decide)]
    exact List.count_eq_zero.mpr hnone
  have hs := (length_sigmaEnds_filter s).trans hcount
  have ht := (length_sigmaEnds_filter t).trans (h ▸ hcount)
  rw [canonicalName_eq_iff_sigmaEnds h, List.eq_nil_of_length_eq_zero hs,
    List.eq_nil_of_length_eq_zero ht]

/-! ## One underscore more -/

theorem filter_insert (x y : String) :
    (x ++ "_" ++ y).toList.filter (· != '_') = (x ++ y).toList.filter (· != '_') := by
  simp [String.toList_append]

/-- An underscore between two texts is a matter of the last sigma before it, which then has no
cased character next, and of the first sigma after it, which then has none before. -/
theorem canonicalName_insert_iff (x y : String) :
    canonicalName (x ++ "_" ++ y) = canonicalName (x ++ y) ↔
      (Text.EndsInSigma [] x.toList → Text.casedNext y.toList = false) ∧
        (Text.BeginsWithSigma y.toList [] → Text.casedNext x.toList.reverse = false) := by
  have hends : Text.sigmaEnds [] (x ++ "_" ++ y).toList [] =
      Text.sigmaEnds [] x.toList ('_' :: y.toList) ++
        Text.sigmaEnds ('_' :: x.toList.reverse) y.toList [] := by
    have hlist : (x ++ "_" ++ y).toList = x.toList ++ '_' :: y.toList := by
      simp [String.toList_append]
    rw [hlist, Text.sigmaEnds_append, List.append_nil, List.append_nil,
      Text.sigmaEnds_of_ne (by decide)]
  have hends' : Text.sigmaEnds [] (x ++ y).toList [] =
      Text.sigmaEnds [] x.toList y.toList ++ Text.sigmaEnds x.toList.reverse y.toList [] := by
    rw [String.toList_append, Text.sigmaEnds_append, List.append_nil, List.append_nil]
  have hlength : (Text.sigmaEnds [] x.toList ('_' :: y.toList)).length =
      (Text.sigmaEnds [] x.toList y.toList).length := by
    rw [Text.length_sigmaEnds, Text.length_sigmaEnds]
  have hstops : ∀ cs : List Char, Text.casedNext ('_' :: cs) = false := by
    intro cs
    have hplain : Text.caseIgnores '_' = false ∧
        Text.inRanges Text.casedRanges '_'.toNat = false := by
      decide +kernel
    rw [Text.casedNext_cons, hplain.1, hplain.2]
    rfl
  rw [canonicalName_eq_iff_sigmaEnds (filter_insert x y), hends, hends',
    List.append_eq_append_iff_of_size_eq_left hlength, Text.sigmaEnds_after_iff,
    Text.sigmaEnds_before_iff, hstops, hstops]
  exact and_congr (imp_congr_right fun _ => eq_comm) (imp_congr_right fun _ => eq_comm)

/-- Underscores matter to the canonical name exactly if they change which capital sigmas end a
word. An underscore between two texts does so to the last one before it or to the first one after
it, and two texts that differ in underscores only have the same canonical name if the same sigmas
end a word, hence without a capital sigma. -/
theorem canonicalName_underscores (x y : String) :
    (canonicalName (x ++ "_" ++ y) = canonicalName (x ++ y) ↔
      (Text.EndsInSigma [] x.toList → Text.casedNext y.toList = false) ∧
        (Text.BeginsWithSigma y.toList [] → Text.casedNext x.toList.reverse = false)) ∧
    (x.toList.filter (· != '_') = y.toList.filter (· != '_') →
      (canonicalName x = canonicalName y ↔
        Text.sigmaEnds [] x.toList [] = Text.sigmaEnds [] y.toList []) ∧
      ('Σ' ∉ x.toList → canonicalName x = canonicalName y)) :=
  ⟨canonicalName_insert_iff x y, fun h =>
    ⟨canonicalName_eq_iff_sigmaEnds h, canonicalName_eq_of_no_sigma h⟩⟩

theorem canonicalName_underscores_logos :
    ("ΛΟΓΟ_Σ".toList.filter (· != '_') = "ΛΟΓΟΣ".toList.filter (· != '_') ∧
      canonicalName "ΛΟΓΟ_Σ" ≠ canonicalName "ΛΟΓΟΣ") ∧
    ("_Λόγος__A".toList.filter (· != '_') = "Λόγ_οςA".toList.filter (· != '_') ∧
      canonicalName "_Λόγος__A" = canonicalName "Λόγ_οςA") := by
  have hlogos : "ΛΟΓΟ_Σ".toList.filter (· != '_') = "ΛΟΓΟΣ".toList.filter (· != '_') := by
    decide +kernel
  have hsmall : "_Λόγος__A".toList.filter (· != '_') = "Λόγ_οςA".toList.filter (· != '_') := by
    decide +kernel
  have hends : Text.sigmaEnds [] "ΛΟΓΟ_Σ".toList [] ≠ Text.sigmaEnds [] "ΛΟΓΟΣ".toList [] := by
    decide +kernel
  have hnone : 'Σ' ∉ "_Λόγος__A".toList := by decide +kernel
  obtain ⟨-, hcapital⟩ := canonicalName_underscores "ΛΟΓΟ_Σ" "ΛΟΓΟΣ"
  obtain ⟨-, hlower⟩ := canonicalName_underscores "_Λόγος__A" "Λόγ_οςA"
  exact ⟨⟨hlogos, mt (hcapital hlogos).1.mp hends⟩, hsmall, (hlower hsmall).2 hnone⟩

/-- A sigma inside a word ends one if an underscore follows it. -/
theorem canonicalName_insert_ne :
    canonicalName ("ΑΣ" ++ "_" ++ "Α") = "αςα" ∧ canonicalName ("ΑΣ" ++ "Α") = "ασα" ∧
      canonicalName ("ΑΣ" ++ "_" ++ "Α") ≠ canonicalName ("ΑΣ" ++ "Α") := by
  decide +kernel

end SurfaceDrift
