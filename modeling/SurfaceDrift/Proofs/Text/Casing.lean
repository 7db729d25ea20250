import Mathlib.Data.Nat.ModEq
import SurfaceDrift.Text.Casing

/-!
# Lowercase twice is lowercase

No run of the table holds a code point that another run moves to (`isSettled_lowercaseRuns`),
so that every character of a lowercase text is settled : it is its own lowercase form, and
it is no sigma whose form depends on its neighbours (`isSettled_of_mem_lowerAfter`). Hence
`lower_lower`.
-/

namespace SurfaceDrift.Text

/-! ## The table -/

/-- The code points `first`, `first + stride`, … `last` are in none of the runs, as the bounds
or the remainders by the stride show. -/
def avoids (first last stride : Nat) (runs : List CaseRun) : Bool :=
  runs.all fun r => Nat.blt last r.first || Nat.blt r.last first ||
    ((Nat.beq first last || Nat.beq (stride % r.stride) 0) &&
      !Nat.beq (first % r.stride) (r.first % r.stride))

/-- What a run moves to are code points of characters, and in lowercase. -/
def CaseRun.isSettled (r : CaseRun) : Bool :=
  let first := (r.first + r.shift).toNat
  let last := (r.last + r.shift).toNat
  0 ≤ r.first + r.shift && (last < 0xD800 || 0xDFFF < first && last < 0x110000) &&
    avoids first last r.stride (⟨0x130, 0x130, 1, 0⟩ :: lowercaseRuns)

theorem isSettled_lowercaseRuns : lowercaseRuns.all CaseRun.isSettled = true := by
  decide +kernel

theorem holds_eq_false_of_avoids {first last stride k : Nat} {runs : List CaseRun}
    (h : avoids first last stride runs = true) (hlast : first + k * stride ≤ last)
    {r : CaseRun} (hr : r ∈ runs) : r.holds (first + k * stride) = false := by
  have hapart := List.all_eq_true.mp h r hr
  simp only [Nat.blt_eq, Nat.beq_eq, Bool.or_eq_true, Bool.and_eq_true, Bool.not_eq_true']
    at hapart
  by_contra hholds
  simp only [CaseRun.holds, Bool.and_eq_true, decide_eq_true_eq, beq_iff_eq,
    Bool.not_eq_false] at hholds
  obtain ⟨⟨hfirst, hle⟩, hmod⟩ := hholds
  rcases hapart with (hlt | hlt) | ⟨hstride, hne⟩
  · omega
  · omega
  · have hsame : first + k * stride ≡ first [MOD r.stride] := by
      rcases hstride with heq | hstride
      · have hzero : k * stride = 0 := by omega
        rw [hzero, Nat.add_zero]
      · have hdvd : r.stride ∣ k * stride := (Nat.dvd_of_mod_eq_zero hstride).mul_left k
        exact (Nat.modEq_zero_iff_dvd.mpr hdvd).add_left first
    have hmoved : first + k * stride ≡ r.first [MOD r.stride] :=
      ((Nat.modEq_iff_dvd' hfirst).mpr (Nat.dvd_of_mod_eq_zero hmod)).symm
    exact Nat.ne_of_beq_eq_false hne (hsame.symm.trans hmoved)

theorem lowerCode_of_not_holds {runs : List CaseRun} {n : Nat}
    (h : ∀ r ∈ runs, r.holds n = false) : lowerCode runs n = n := by
  induction runs with
  | nil => rfl
  | cons r rest ih =>
    rw [lowerCode, h r List.mem_cons_self, ih fun r hr => h r (List.mem_cons_of_mem _ hr)]
    simp

/-- A code point stays, or the run that holds it moves it. -/
theorem lowerCode_cases (runs : List CaseRun) (n : Nat) :
    lowerCode runs n = n ∨
      ∃ r ∈ runs, r.holds n = true ∧ lowerCode runs n = (n + r.shift).toNat := by
  induction runs with
  | nil => exact Or.inl rfl
  | cons r rest ih =>
    rw [lowerCode]
    split_ifs with hlt hholds
    · exact Or.inl rfl
    · exact Or.inr ⟨r, List.mem_cons_self, hholds, rfl⟩
    · rcases ih with h | ⟨q, hq, h⟩
      · exact Or.inl h
      · exact Or.inr ⟨q, List.mem_cons_of_mem r hq, h⟩

/-- What a run moves to is a character, is not `İ`, and is in no run. -/
theorem settled_of_holds {r : CaseRun} (hr : r ∈ lowercaseRuns) {n : Nat}
    (hn : r.holds n = true) :
    (n + r.shift).toNat.isValidChar ∧ (n + r.shift).toNat ≠ 0x130 ∧
      lowerCode lowercaseRuns (n + r.shift).toNat = (n + r.shift).toNat := by
  have hsettled := List.all_eq_true.mp isSettled_lowercaseRuns r hr
  simp only [CaseRun.isSettled, Bool.and_eq_true, decide_eq_true_eq, Bool.or_eq_true] at hsettled
  obtain ⟨⟨hpos, hvalid⟩, havoids⟩ := hsettled
  simp only [CaseRun.holds, Bool.and_eq_true, decide_eq_true_eq, beq_iff_eq] at hn
  obtain ⟨⟨hfirst, hlast⟩, hmod⟩ := hn
  obtain ⟨k, hk⟩ := Nat.dvd_of_mod_eq_zero hmod
  have htarget : (n + r.shift).toNat = (r.first + r.shift).toNat + k * r.stride := by
    have hn : n = r.first + k * r.stride := by
      rw [Nat.mul_comm] at hk
      omega
    rw [hn]
    push_cast
    omega
  have hle : (r.first + r.shift).toNat + k * r.stride ≤ (r.last + r.shift).toNat := by omega
  have hfree := fun q hq => holds_eq_false_of_avoids havoids hle (r := q) hq
  rw [htarget]
  refine ⟨?_, ?_, ?_⟩
  · rcases hvalid with hsmall | ⟨hlarge, hbound⟩
    · exact Or.inl (by omega)
    · exact Or.inr ⟨by omega, by omega⟩
  · intro heq
    have h := hfree _ List.mem_cons_self
    rw [heq] at h
    exact absurd h (by decide)
  · exact lowerCode_of_not_holds fun q hq => hfree q (List.mem_cons_of_mem _ hq)

/-! ## Characters and texts -/

theorem toNat_ofNat {n : Nat} (h : n.isValidChar) : (Char.ofNat n).toNat = n := by
  rw [Char.ofNat, dif_pos h]
  rfl

/-- The character is its own lowercase form, and not the sigma that looks at its neighbours. -/
def IsSettled (c : Char) : Prop := c ≠ 'Σ' ∧ lowerChar c = [c]

instance : DecidablePred IsSettled := fun _ => inferInstanceAs (Decidable (_ ∧ _))

theorem isSettled_of_lowerCode {c : Char} (hne : c.toNat ≠ 0x130)
    (h : lowerCode lowercaseRuns c.toNat = c.toNat) : IsSettled c := by
  refine ⟨?_, ?_⟩
  · rintro rfl
    exact absurd h (by decide +kernel)
  · have hdotted : c ≠ 'İ' := fun heq => hne (heq ▸ rfl)
    rw [lowerChar, if_neg hdotted, h, Char.ofNat_toNat]

theorem isSettled_of_mem_lowerChar {c d : Char} (h : d ∈ lowerChar c) : IsSettled d := by
  unfold lowerChar at h
  split_ifs at h with hdotted
  · rcases List.mem_cons.mp h with rfl | h
    · decide +kernel
    · rw [List.mem_singleton.mp h]
      decide +kernel
  · rw [List.mem_singleton.mp h]
    rcases lowerCode_cases lowercaseRuns c.toNat with hstays | ⟨r, hr, hholds, hmoves⟩
    · rw [hstays, Char.ofNat_toNat]
      exact isSettled_of_lowerCode (fun heq => hdotted (Char.toNat_inj.mp heq)) hstays
    · obtain ⟨hvalid, hne, hsettled⟩ := settled_of_holds hr hholds
      rw [hmoves]
      have htoNat := toNat_ofNat hvalid
      exact isSettled_of_lowerCode (by rwa [htoNat]) (by rwa [htoNat])

/-- All characters of a lowercase text are settled. -/
theorem isSettled_of_mem_lowerAfter {before cs : List Char} {d : Char}
    (h : d ∈ lowerAfter before cs) : IsSettled d := by
  induction cs generalizing before with
  | nil => cases h
  | cons c cs ih =>
    rw [lowerAfter] at h
    rcases List.mem_append.mp h with h | h
    · split_ifs at h
      · rw [List.mem_singleton.mp h]
        decide +kernel
      · rw [List.mem_singleton.mp h]
        decide +kernel
      · exact isSettled_of_mem_lowerChar h
    · exact ih h

theorem lowerAfter_of_isSettled {before cs : List Char} (h : ∀ c ∈ cs, IsSettled c) :
    lowerAfter before cs = cs := by
  induction cs generalizing before with
  | nil => rfl
  | cons c cs ih =>
    obtain ⟨hsigma, hform⟩ := h c List.mem_cons_self
    rw [lowerAfter, if_neg hsigma, hform, ih fun d hd => h d (List.mem_cons_of_mem c hd)]
    rfl

/-- A text in lowercase is its own lowercase. -/
@[simp] theorem lower_lower (s : String) : lower (lower s) = lower s := by
  have hsettled : lowerAfter [] (lower s).toList = (lower s).toList :=
    lowerAfter_of_isSettled fun c hc => isSettled_of_mem_lowerAfter (by
      rwa [lower, String.toList_ofList] at hc)
  rw [lower, hsettled, String.ofList_toList]

end SurfaceDrift.Text
