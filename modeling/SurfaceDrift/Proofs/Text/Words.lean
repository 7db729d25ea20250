import SurfaceDrift.Proofs.Text.Blank
import SurfaceDrift.Text.Word

/-!
# Words stay apart from what is around them

No blank is a word character (`isBlank_eq_false_of_isWordChar`), so that a text which begins
and ends in words has nothing to trim (`trim_append_of_isWord`). The separators of texts are no
word characters either (`not_mem_of_isWord`).
-/

namespace SurfaceDrift.Text

/-! ## Blanks -/

/-- The code points of the blanks. -/
def blankCodes : List Nat :=
  List.range' 9 5 ++ [0x20, 0x85, 0xA0, 0x1680] ++ List.range' 0x2000 11 ++
    [0x2028, 0x2029, 0x202F, 0x205F, 0x3000]

theorem mem_blankCodes_of_isBlank {c : Char} (h : isBlank c = true) : c.toNat ∈ blankCodes := by
  simp only [isBlank, Bool.or_eq_true, Bool.and_eq_true, decide_eq_true_eq, beq_iff_eq] at h
  simp only [blankCodes, List.mem_append, List.mem_range'_1, List.mem_cons, List.not_mem_nil,
    or_false]
  omega

theorem inRanges_blankCodes : ∀ n ∈ blankCodes, inRanges wordRanges n = false := by
  decide +kernel

theorem isBlank_eq_false_of_isWordChar {c : Char} (h : isWordChar c = true) :
    isBlank c = false := by
  by_contra hblank
  have hcode := mem_blankCodes_of_isBlank (by simpa using hblank)
  rw [isWordChar, inRanges_blankCodes _ hcode] at h
  cases h

/-! ## Words -/

theorem isWord_iff {s : String} :
    isWord s = true ↔ s ≠ "" ∧ ∀ c ∈ s.toList, isWordChar c = true := by
  simp [isWord]

/-- What separates words is in none of them. -/
theorem not_mem_of_isWord {s : String} (h : isWord s = true) {c : Char}
    (hc : isWordChar c = false) : c ∉ s.toList := by
  intro hmem
  rw [(isWord_iff.mp h).2 c hmem] at hc
  cases hc

theorem toList_ne_nil_of_isWord {s : String} (h : isWord s = true) : s.toList ≠ [] :=
  mt String.toList_eq_nil_iff.mp (isWord_iff.mp h).1

/-- A text that begins and ends in words has no blank at an end. -/
theorem trim_append_of_isWord {first last : String} (hfirst : isWord first = true)
    (hlast : isWord last = true) (between : String) :
    trim (first ++ between ++ last) = first ++ between ++ last := by
  have hword : ∀ {s : String} {c : Char}, isWord s = true → c ∈ s.toList → isBlank c = false :=
    fun hs hc => isBlank_eq_false_of_isWordChar ((isWord_iff.mp hs).2 _ hc)
  refine IsTrimmed.trim_eq ⟨fun c hc => ?_, fun c hc => ?_⟩
  · rw [String.append_assoc, String.toList_append,
      List.head?_append_of_ne_nil _ (toList_ne_nil_of_isWord hfirst)] at hc
    exact hword hfirst (List.mem_of_head? hc)
  · rw [String.toList_append, List.getLast?_append_of_ne_nil _ (toList_ne_nil_of_isWord hlast)]
      at hc
    exact hword hlast (List.mem_of_getLast? hc)

end SurfaceDrift.Text
