import SurfaceDrift.Proofs.Canonical.Underscores
import SurfaceDrift.Proofs.Text.Replacement

/-!
# Prose without underscores

Canonical prose keeps the underscores and folds the line breaks first, and a canonical name does
neither. Where a text holds no underscore, its lowercase form holds none either
(`filter_lower`), and folding makes no difference to the blanks that are left. So the two forms are
the same, which is the lowercase text with its chunks a space apart
(`canonicalProse_eq_canonicalName`).
-/

namespace SurfaceDrift

variable {s : String}

/-- No other character has a lowercase form with an underscore. -/
theorem filter_lower (h : '_' ∉ s.toList) :
    (Text.lower s).toList.filter (· != '_') = (Text.lower s).toList := by
  have hkept : s.toList.filter (· != '_') = s.toList := by
    refine List.filter_eq_self.mpr fun c hc => bne_iff_ne.mpr ?_
    rintro rfl
    exact h hc
  rw [Text.lower, String.toList_ofList, Text.lowerAfter_eq_spell, filter_spell, hkept]

/-- A text without underscores has one canonical form as prose and as a name : its chunks in
lowercase with a space between two of them. -/
theorem canonicalProse_eq_canonicalName (h : '_' ∉ s.toList) :
    canonicalProse s = canonicalName s ∧
      (canonicalName s).toList = [' '].intercalate (Text.chunks (Text.lower s).toList) := by
  have hname : canonicalName s = String.ofList (Text.squeeze (Text.lower s).toList) := by
    rw [canonicalName, filter_lower h]
  constructor
  · rw [hname, canonicalProse, Text.squeeze_foldBreaks]
  · rw [hname, String.toList_ofList, Text.squeeze_eq_intercalate]

/-- Several line breaks in one run of blanks, and blanks without one, at the ends too. -/
theorem canonicalProse_eq_canonicalName_wrapped :
    '_' ∉ "\n Load\t \r\n \n\u2003A ΛΟΓΟΣ\u00a0\u0085\n ".toList ∧
      canonicalProse "\n Load\t \r\n \n\u2003A ΛΟΓΟΣ\u00a0\u0085\n " = "load a λογος" := by
  have hnone : '_' ∉ "\n Load\t \r\n \n\u2003A ΛΟΓΟΣ\u00a0\u0085\n ".toList := by decide +kernel
  have hname : canonicalName "\n Load\t \r\n \n\u2003A ΛΟΓΟΣ\u00a0\u0085\n " = "load a λογος" := by
    decide +kernel
  exact ⟨hnone, (canonicalProse_eq_canonicalName hnone).1.trans hname⟩

end SurfaceDrift
