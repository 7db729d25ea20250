import SurfaceDrift.Proofs.Decimal.Rounding

/-!
# Arithmetic of doubles

A double that is taken apart is a number (`exact`) with the digits of a double (`IsCanonical`).
Sums, differences, products and quotients of two such numbers are the exact result, rounded :
the digits that are kept and what is said about the others tell where the result lies
(`Stands`), which is all that rounding needs (`roundWithAccuracy_spec`). Two such numbers compare
by the place of their last digits and then by their digits, which is the order of the numbers
(`compare_spec`).
-/

namespace SurfaceDrift.Decimal

open Float.Model Float.Model.UnpackedFloat

/-! ## Digits that are dropped -/

/-- What is left of the digits of a number when the others are dropped : the whole part, whether
the rest is at least a half, and whether there is more. -/
def Stands (em : ExtendedMantissa) (x : ℚ) : Prop :=
  match em with
  | ⟨m, false, false⟩ => x = m
  | ⟨m, false, true⟩ => m < x ∧ x < m + 1 / 2
  | ⟨m, true, false⟩ => x = m + 1 / 2
  | ⟨m, true, true⟩ => m + 1 / 2 < x ∧ x < m + 1

theorem Stands.bounds {em : ExtendedMantissa} {x : ℚ} (h : Stands em x) :
    em.mantissa ≤ x ∧ x < em.mantissa + 1 := by
  obtain ⟨m, _ | _, _ | _⟩ := em <;> simp only [Stands] at h ⊢
  · exact ⟨h.ge, h ▸ lt_add_one _⟩
  · constructor <;> linarith
  · constructor <;> linarith
  · constructor <;> linarith

/-- The rounded mantissa is the whole number next to the number. -/
theorem Stands.isNearest {em : ExtendedMantissa} {x : ℚ} (h : Stands em x) :
    IsNearest x em.roundedMantissa := by
  obtain ⟨m, _ | _, _ | _⟩ := em
  · obtain rfl : x = m := h
    exact isNearest_intCast m
  · obtain ⟨hlow, hhigh⟩ : (m : ℚ) < x ∧ x < m + 1 / 2 := h
    refine isNearest_of_abs_lt (n := m) (abs_lt.mpr ?_)
    constructor <;> push_cast <;> linarith
  · obtain rfl : x = m + 1 / 2 := h
    exact_mod_cast isNearest_add_half m
  · obtain ⟨hlow, hhigh⟩ : (m : ℚ) + 1 / 2 < x ∧ x < m + 1 := h
    refine isNearest_of_abs_lt (n := (m + 1 : ℕ)) (abs_lt.mpr ?_)
    constructor <;> push_cast <;> linarith

/-- The dropped digit tells the half, and what was dropped before it whether there is more. -/
theorem Stands.shiftRightOne {em : ExtendedMantissa} {x : ℚ} (h : Stands em x) :
    Stands em.shiftRightOne (x / 2) := by
  obtain ⟨m, r, s⟩ := em
  obtain ⟨k, rfl | rfl⟩ := Nat.even_or_odd' m
  · have hshift : ExtendedMantissa.shiftRightOne ⟨2 * k, r, s⟩ = ⟨k, false, r || s⟩ := by
      simp [ExtendedMantissa.shiftRightOne]
    rw [hshift]
    cases r <;> cases s <;> simp only [Stands, Bool.or_false, Bool.or_true] at h ⊢ <;>
      push_cast at h
    · linarith
    · constructor <;> linarith
    · constructor <;> linarith
    · constructor <;> linarith
  · have hshift : ExtendedMantissa.shiftRightOne ⟨2 * k + 1, r, s⟩ = ⟨k, true, r || s⟩ := by
      simp [ExtendedMantissa.shiftRightOne, Nat.mul_add_div]
    rw [hshift]
    cases r <;> cases s <;> simp only [Stands, Bool.or_false, Bool.or_true] at h ⊢ <;>
      push_cast at h
    · linarith
    · constructor <;> linarith
    · constructor <;> linarith
    · constructor <;> linarith

theorem Stands.shiftRight {em : ExtendedMantissa} {x : ℚ} (h : Stands em x) (n : ℕ) :
    Stands (em >>> n) (x / 2 ^ n) := by
  induction n with
  | zero =>
    rw [pow_zero, div_one]
    exact h
  | succ n ih =>
    rw [pow_succ, ← div_div]
    exact ih.shiftRightOne

theorem stands_exact (m : ℕ) : Stands (.ofMantissaAndAccuracy m .exact) m := rfl

/-! ## Numbers with a sign -/

/-- A number with a sign put before it. -/
def signed : Sign → ℚ → ℚ
  | .negative, x => -x
  | .positive, x => x

theorem abs_signed (s : Sign) (x : ℚ) : |signed s x| = |x| := by
  cases s
  · exact abs_neg x
  · rfl

theorem signed_mul (s t : Sign) (x y : ℚ) : signed (s * t) (x * y) = signed s x * signed t y := by
  cases s <;> cases t
  · exact (neg_mul_neg x y).symm
  · exact (neg_mul x y).symm
  · exact (mul_neg x y).symm
  · rfl

theorem signed_div (s t : Sign) (x y : ℚ) : signed (s / t) (x / y) = signed s x / signed t y := by
  cases s <;> cases t
  · exact (neg_div_neg_eq x y).symm
  · exact (neg_div y x).symm
  · exact (div_neg x).symm
  · rfl

theorem signed_apply (s : Sign) (m e : ℤ) : signed s (m * 2 ^ e) = (s.apply m : ℤ) * 2 ^ e := by
  cases s
  · simp [signed, Sign.apply]
  · rfl

theorem Rounds.signed {q y : ℚ} (h : Rounds q y) (s : Sign) :
    Rounds (Decimal.signed s q) (Decimal.signed s y) := by
  cases s
  · exact h.neg
  · exact h

theorem IsDouble.signed {y : ℚ} (h : IsDouble y) (s : Sign) : IsDouble (Decimal.signed s y) := by
  cases s
  · exact h.neg
  · exact h

/-! ## The digits of a result -/

/-- The digits that a double has, of the place of the last one. -/
structure AreDigits (m : ℕ) (e : ℤ) : Prop where
  least : -1074 ≤ e
  lt : m < 2 ^ 53
  le : 2 ^ 52 ≤ m ∨ e = -1074

theorem AreDigits.isDouble {m : ℕ} {e : ℤ} (h : AreDigits m e) : IsDouble (m * 2 ^ e) :=
  ⟨e, m, h.least, by rw [Nat.abs_cast]; exact_mod_cast h.lt,
    h.le.imp_left fun hle => by rw [Nat.abs_cast]; exact_mod_cast hle, rfl⟩

/-- A number is taken apart as a double is : it is zero, or it has the digits of a double. -/
def IsCanonical : UnpackedFloat → Prop
  | .zero _ => True
  | .finite _ m e _ => AreDigits m e
  | _ => False

/-- The number that is taken apart, where it is finite. -/
def exact : UnpackedFloat → ℚ
  | .finite s m e _ => signed s (m * 2 ^ e)
  | _ => 0

theorem IsCanonical.isDouble {u : UnpackedFloat} (h : IsCanonical u) : IsDouble (exact u) := by
  cases u with
  | zero => exact isDouble_zero
  | finite s => exact AreDigits.isDouble h |>.signed s
  | infinity => exact h.elim
  | notANumber => exact h.elim

/-! ## Rounding to the digits of a double -/

theorem targetExponent_eq (t : ℤ) : Format.binary64.targetExponent t = max (t - 53) (-1074) := by
  simp [Format.targetExponent, Format.mantissaBits, Format.minExponent]

/-- The place that is aimed at is the one of the last digit. -/
theorem isPlace_targetExponent {m : ℕ} {e : ℤ} {x : ℚ} (hlow : m ≤ x) (hhigh : x < m + 1)
    (he : e ≤ Format.binary64.targetExponent (totalExponent m e)) :
    IsPlace (Format.binary64.targetExponent (totalExponent m e)) (x * 2 ^ e) := by
  have hnonneg : 0 ≤ x * 2 ^ e :=
    mul_nonneg ((Nat.cast_nonneg m).trans hlow) (two_zpow_pos e).le
  rw [targetExponent_eq, totalExponent] at he ⊢
  refine ⟨le_max_right _ _, ?_, ?_⟩
  · rw [abs_of_nonneg hnonneg]
    have hm : (m : ℚ) + 1 ≤ 2 ^ (m.log2 + 1) := by exact_mod_cast Nat.lt_log2_self
    calc x * 2 ^ e < 2 ^ (m.log2 + 1) * 2 ^ e :=
          mul_lt_mul_of_pos_right (hhigh.trans_le hm) (two_zpow_pos e)
      _ = 2 ^ ((m.log2 : ℤ) + 1 + e) := by
          rw [zpow_add₀ (by norm_num)]
          norm_cast
      _ ≤ _ := zpow_le_zpow_right₀ (by norm_num) (by omega)
  · rcases max_choice ((m.log2 : ℤ) + 1 + e - 53) (-1074) with hmax | hmax
    · left
      rw [hmax] at he ⊢
      have hm0 : m ≠ 0 := by
        rintro rfl
        rw [Nat.log2_zero] at he
        omega
      have hm : (2 : ℚ) ^ m.log2 ≤ m := by exact_mod_cast Nat.log2_self_le hm0
      rw [abs_of_nonneg hnonneg]
      calc (2 : ℚ) ^ ((m.log2 : ℤ) + 1 + e - 53 + 52) = 2 ^ m.log2 * 2 ^ e := by
            rw [← zpow_natCast, ← zpow_add₀ (by norm_num)]
            congr 1
            ring
        _ ≤ x * 2 ^ e := mul_le_mul_of_nonneg_right (hm.trans hlow) (two_zpow_pos e).le
    · exact Or.inr hmax

/-- Where the rounded digits reach the next power of two, one digit more is dropped, a zero. -/
theorem carry {r : ℕ} {e : ℤ} (he : -1074 ≤ e) (hr : r ≤ 2 ^ 53)
    (hle : 2 ^ 52 ≤ r ∨ e = -1074) :
    ∃ m f, shiftToTargetExponent .binary64 r e .exact = (⟨m, false, false⟩, f) ∧
      AreDigits m f ∧ (m : ℚ) * 2 ^ f = r * 2 ^ e := by
  rcases hr.lt_or_eq with hlt | rfl
  · refine ⟨r, e, ?_, ⟨he, hlt, hle⟩, rfl⟩
    have hlog : r.log2 ≤ 52 := by
      rcases Nat.eq_zero_or_pos r with rfl | hpos
      · exact Nat.zero_le _
      · exact Nat.lt_succ_iff.mp ((Nat.log2_lt hpos.ne').mpr hlt)
    have hshift : (max ((r.log2 : ℤ) + 1 + e - 53) (-1074) - e).toNat = 0 := by omega
    simp only [shiftToTargetExponent, shiftToExponent, targetExponent_eq, totalExponent, hshift]
    simp [ExtendedMantissa.ofMantissaAndAccuracy, HShiftRight.hShiftRight, Nat.repeat]
  · refine ⟨2 ^ 52, e + 1, ?_, ⟨by omega, by norm_num, Or.inl le_rfl⟩, ?_⟩
    · have hlog : (2 ^ 53).log2 = 53 := Nat.log2_two_pow
      have hshift : (max (((2 ^ 53).log2 : ℤ) + 1 + e - 53) (-1074) - e).toNat = 1 := by omega
      simp only [shiftToTargetExponent, shiftToExponent, targetExponent_eq, totalExponent, hshift]
      rfl
    · rw [zpow_add_one₀ (by norm_num)]
      push_cast
      ring

/-- The digits that were computed are rounded to those of a double. -/
theorem roundWithAccuracy_spec (s : Sign) {m : ℕ} {e : ℤ} {a : Accuracy} {x : ℚ}
    (hx : Stands (ExtendedMantissa.ofMantissaAndAccuracy m a) x)
    (he : e ≤ Format.binary64.targetExponent (totalExponent m e)) :
    IsCanonical (roundWithAccuracy .binary64 s m e a) ∧
      Rounds (signed s (x * 2 ^ e)) (exact (roundWithAccuracy .binary64 s m e a)) := by
  have hmantissa : (ExtendedMantissa.ofMantissaAndAccuracy m a).mantissa = m := by
    rcases a with _ | _ | _ | _ <;> rfl
  obtain ⟨hlow, hhigh⟩ := hx.bounds
  rw [hmantissa] at hlow hhigh
  have hnonneg : 0 ≤ x * 2 ^ e :=
    mul_nonneg ((Nat.cast_nonneg m).trans hlow) (two_zpow_pos e).le
  have hplace := isPlace_targetExponent hlow hhigh he
  obtain ⟨n, hn⟩ := Int.le.dest he
  generalize ht : Format.binary64.targetExponent (totalExponent m e) = t at hplace hn
  -- The first shift brings the digits to the place that is aimed at.
  have hshift : shiftToTargetExponent .binary64 m e a =
      (ExtendedMantissa.ofMantissaAndAccuracy m a >>> n, t) := by
    have htoNat : (t - e).toNat = n := by omega
    simp only [shiftToTargetExponent, shiftToExponent, ht, htoNat, hn]
  have hnearest := (hx.shiftRight n).isNearest
  generalize hr : (ExtendedMantissa.ofMantissaAndAccuracy m a >>> n).roundedMantissa = r
    at hnearest
  have hquotient : x * 2 ^ e / 2 ^ t = x / 2 ^ n := by
    rw [← hn, zpow_add₀ (by norm_num), zpow_natCast, mul_comm x,
      mul_div_mul_left _ _ (two_zpow_pos e).ne']
  rw [← hquotient] at hnearest
  have hle : (r : ℤ) ≤ 2 ^ 53 := hplace.le_two_pow hnonneg hnearest
  have hge : 2 ^ 52 ≤ (r : ℤ) ∨ t = -1074 := hplace.two_pow_le hnonneg hnearest
  obtain ⟨k, f, hcarry, hdigits, hvalue⟩ :=
    carry hplace.least (by exact_mod_cast hle) (hge.imp_left (by exact_mod_cast ·))
  have hrounds : Rounds (x * 2 ^ e) (k * 2 ^ f) :=
    ⟨t, r, hplace, hnearest, by rw [hvalue, Int.cast_natCast]⟩
  simp only [roundWithAccuracy, hshift, hr, hcarry]
  split_ifs with hk
  · rw [hk, Nat.cast_zero, zero_mul] at hrounds
    refine ⟨trivial, ?_⟩
    cases s
    · simpa [exact, signed] using hrounds.neg
    · exact hrounds
  · exact ⟨hdigits, hrounds.signed s⟩

/-- As many digits more as zeros are put after the number. -/
theorem log2_shiftLeft {m : ℕ} (hm : 0 < m) (k : ℕ) : (m <<< k).log2 = m.log2 + k := by
  have hne : m <<< k ≠ 0 := by
    rw [Nat.shiftLeft_eq]
    positivity
  rw [Nat.log2_eq_iff hne, Nat.shiftLeft_eq, pow_add, add_right_comm, pow_add _ (_ + 1)]
  exact ⟨Nat.mul_le_mul_right _ (Nat.log2_self_le hm.ne'),
    Nat.mul_lt_mul_of_pos_right Nat.lt_log2_self (Nat.two_pow_pos k)⟩

/-- A whole number of units of any place is rounded to the digits of a double. -/
theorem round_spec (s : Sign) {m : ℕ} (hm : 0 < m) (e : ℤ) :
    IsCanonical (UnpackedFloat.round .binary64 s m e) ∧
      Rounds (signed s (m * 2 ^ e)) (exact (UnpackedFloat.round .binary64 s m e)) := by
  set t := Format.binary64.targetExponent (totalExponent m e) with ht
  set k := (e - t).toNat with hk
  have htotal : totalExponent (m <<< k) (e - k) = totalExponent m e := by
    rw [totalExponent, totalExponent, log2_shiftLeft hm]
    push_cast
    ring
  have hvalue : ((m <<< k : ℕ) : ℚ) * 2 ^ (e - k) = m * 2 ^ e := by
    rw [Nat.shiftLeft_eq, zpow_sub₀ (by norm_num), zpow_natCast]
    push_cast
    field_simp
  have hspec := roundWithAccuracy_spec s (stands_exact (m <<< k)) (e := e - k)
    (by rw [htotal, ← ht]; omega)
  rwa [hvalue] at hspec

theorem normalize_spec (n e : ℤ) (z : Sign) :
    IsCanonical (UnpackedFloat.normalize .binary64 n e z) ∧
      Rounds (n * 2 ^ e) (exact (UnpackedFloat.normalize .binary64 n e z)) := by
  rcases Int.lt_trichotomy n 0 with hneg | rfl | hpos
  · have hcompare : compare n 0 = .lt := Int.compare_eq_lt.mpr hneg
    have hspec := round_spec .negative (m := (-n).toNat) (by omega) e
    have hn : (((-n).toNat : ℕ) : ℚ) = -n := by exact_mod_cast Int.toNat_of_nonneg (by omega)
    rw [hn, signed, neg_mul, neg_neg] at hspec
    simp only [UnpackedFloat.normalize, hcompare]
    exact hspec
  · refine ⟨trivial, ?_⟩
    rw [Int.cast_zero, zero_mul]
    exact isDouble_zero.rounds
  · have hcompare : compare n 0 = .gt := Int.compare_eq_gt.mpr hpos
    have hspec := round_spec .positive (m := n.toNat) (by omega) e
    have hn : ((n.toNat : ℕ) : ℚ) = n := by exact_mod_cast Int.toNat_of_nonneg (by omega)
    rw [hn] at hspec
    simp only [UnpackedFloat.normalize, hcompare]
    exact hspec

/-! ## Sums and differences -/

/-- A number of units of a place is a whole number of units of a smaller place. -/
theorem decreaseExponent_spec (s : Sign) (m : ℕ) {e t : ℤ} (h : t ≤ e) :
    signed s (m * 2 ^ e) = (s.apply (decreaseExponent m e t).1 : ℤ) * 2 ^ t := by
  obtain ⟨k, rfl⟩ := Int.le.dest h
  have hshift : (t + k - t).toNat = k := by omega
  have hvalue : (m : ℚ) * 2 ^ (t + k) = ((m <<< k : ℕ) : ℤ) * 2 ^ t := by
    rw [Nat.shiftLeft_eq, zpow_add₀ (by norm_num), zpow_natCast]
    push_cast
    ring
  rw [decreaseExponent, hshift, hvalue, signed_apply]

theorem IsCanonical.rounds {u : UnpackedFloat} (h : IsCanonical u) : Rounds (exact u) (exact u) :=
  h.isDouble.rounds

theorem exact_zero (s : Sign) : exact (.zero s) = 0 := rfl

theorem add_spec {u v : UnpackedFloat} (hu : IsCanonical u) (hv : IsCanonical v) :
    IsCanonical (UnpackedFloat.add .binary64 u v) ∧
      Rounds (exact u + exact v) (exact (UnpackedFloat.add .binary64 u v)) := by
  cases u with
  | infinity | notANumber => exact hu.elim
  | zero s =>
    rw [exact_zero, zero_add]
    cases v with
    | infinity | notANumber => exact hv.elim
    | zero t => cases s <;> cases t <;> exact ⟨trivial, isDouble_zero.rounds⟩
    | finite => exact ⟨hv, hv.rounds⟩
  | finite s m e hm =>
    cases v with
    | infinity | notANumber => exact hv.elim
    | zero t =>
      rw [exact_zero, add_zero]
      exact ⟨hu, hu.rounds⟩
    | finite t n f hn =>
      have hsum := normalize_spec (s.apply (decreaseExponent m e (min e f)).1 +
        t.apply (decreaseExponent n f (min e f)).1) (min e f) .positive
      rwa [Int.cast_add, add_mul, ← decreaseExponent_spec s m (min_le_left e f),
        ← decreaseExponent_spec t n (min_le_right e f)] at hsum

theorem neg_apply (s : Sign) (n : ℤ) : (-s).apply n = -s.apply n := by
  cases s
  · exact (neg_neg n).symm
  · rfl

/-- A difference is the sum with the opposite number. -/
theorem sub_eq_add_opposite (u v : UnpackedFloat) :
    UnpackedFloat.sub .binary64 u v = UnpackedFloat.add .binary64 u (UnpackedFloat.neg v) := by
  -- Two finite numbers are the one case in which anything is computed.
  rcases u with ⟨_ | _⟩ | _ | ⟨_ | _⟩ | ⟨s, m, e, hm⟩ <;>
    rcases v with ⟨_ | _⟩ | _ | ⟨_ | _⟩ | ⟨t, n, f, hn⟩ <;>
    try rfl
  simp only [UnpackedFloat.sub, UnpackedFloat.add, UnpackedFloat.neg, neg_apply, sub_eq_add_neg]

theorem IsCanonical.neg {u : UnpackedFloat} (h : IsCanonical u) :
    IsCanonical (UnpackedFloat.neg u) ∧ exact (UnpackedFloat.neg u) = -exact u := by
  cases u with
  | infinity | notANumber => exact h.elim
  | zero s => exact ⟨trivial, neg_zero.symm⟩
  | finite s m e hm =>
    refine ⟨h, ?_⟩
    cases s
    · exact (neg_neg _).symm
    · rfl

theorem sub_spec {u v : UnpackedFloat} (hu : IsCanonical u) (hv : IsCanonical v) :
    IsCanonical (UnpackedFloat.sub .binary64 u v) ∧
      Rounds (exact u - exact v) (exact (UnpackedFloat.sub .binary64 u v)) := by
  rw [sub_eq_add_opposite, sub_eq_add_neg, ← hv.neg.2]
  exact add_spec hu hv.neg.1

/-! ## Products and quotients -/

/-- The product of the digits of two doubles has no place that is too great. -/
theorem add_le_targetExponent {m n : ℕ} {e f : ℤ} (hm : AreDigits m e) (hn : AreDigits n f)
    (hmpos : 0 < m) (hnpos : 0 < n) :
    e + f ≤ Format.binary64.targetExponent (totalExponent (m * n) (e + f)) := by
  rw [targetExponent_eq, totalExponent]
  have hlarge (hproduct : 2 ^ 52 ≤ m * n) : 52 ≤ (m * n).log2 :=
    (Nat.le_log2 (Nat.mul_pos hmpos hnpos).ne').mpr hproduct
  rcases hm.le with hle | rfl
  · have := hlarge (hle.trans (Nat.le_mul_of_pos_right m hnpos))
    omega
  rcases hn.le with hle | rfl
  · have := hlarge (hle.trans (Nat.le_mul_of_pos_left n hmpos))
    omega
  · omega

theorem mul_spec {u v : UnpackedFloat} (hu : IsCanonical u) (hv : IsCanonical v) :
    IsCanonical (UnpackedFloat.mul .binary64 u v) ∧
      Rounds (exact u * exact v) (exact (UnpackedFloat.mul .binary64 u v)) := by
  cases u with
  | infinity | notANumber => exact hu.elim
  | zero s =>
    rw [exact_zero, zero_mul]
    cases v with
    | infinity | notANumber => exact hv.elim
    | zero | finite => exact ⟨trivial, isDouble_zero.rounds⟩
  | finite s m e hm =>
    cases v with
    | infinity | notANumber => exact hv.elim
    | zero t =>
      rw [exact_zero, mul_zero]
      exact ⟨trivial, isDouble_zero.rounds⟩
    | finite t n f hn =>
      have hproduct := roundWithAccuracy_spec (s * t) (stands_exact (m * n))
        (add_le_targetExponent hu hv hm hn)
      have hvalue : ((m * n : ℕ) : ℚ) * 2 ^ (e + f) = m * 2 ^ e * (n * 2 ^ f) := by
        rw [zpow_add₀ (by norm_num)]
        push_cast
        ring
      rwa [hvalue, signed_mul] at hproduct

/-- What is left over by a division tells what the whole quotient lacks. -/
theorem stands_div (m : ℕ) {n : ℕ} (hn : 0 < n) :
    Stands (.ofMantissaAndAccuracy (m / n) (accuracyOfFraction (m % n) n)) ((m : ℚ) / n) := by
  have hnpos : (0 : ℚ) < n := by exact_mod_cast hn
  have hdivision : (m : ℚ) / n = (m / n : ℕ) + ((m % n : ℕ) : ℚ) / n := by
    rw [div_eq_iff hnpos.ne', add_mul, div_mul_cancel₀ _ hnpos.ne']
    exact_mod_cast (Nat.div_add_mod' m n).symm
  have hlt : ((m % n : ℕ) : ℚ) / n < 1 :=
    (div_lt_one hnpos).mpr (by exact_mod_cast Nat.mod_lt m hn)
  rw [hdivision]
  generalize m % n = r at hlt ⊢
  rcases Nat.eq_zero_or_pos r with rfl | hr
  · simp [accuracyOfFraction, ExtendedMantissa.ofMantissaAndAccuracy, Stands]
  have hpos : (0 : ℚ) < r / n := div_pos (by exact_mod_cast hr) hnpos
  rw [accuracyOfFraction, if_neg hr.ne']
  -- Twice of the rest against the divisor is the rest of the quotient against a half.
  rcases Nat.lt_trichotomy (2 * r) n with hhalf | hhalf | hhalf
  · have hless : (r : ℚ) / n < 1 / 2 := by
      rw [div_lt_div_iff₀ hnpos two_pos]
      exact_mod_cast (by omega : r * 2 < 1 * n)
    rw [Nat.compare_eq_lt.mpr hhalf]
    exact ⟨by linarith, by linarith⟩
  · have heq : (r : ℚ) / n = 1 / 2 := by
      rw [div_eq_div_iff hnpos.ne' two_ne_zero]
      exact_mod_cast (by omega : r * 2 = 1 * n)
    rw [Nat.compare_eq_eq.mpr hhalf, heq]
    rfl
  · have hmore : 1 / 2 < (r : ℚ) / n := by
      rw [div_lt_div_iff₀ two_pos hnpos]
      exact_mod_cast (by omega : 1 * n < r * 2)
    rw [Nat.compare_eq_gt.mpr hhalf]
    exact ⟨by linarith, by linarith⟩

/-- The digits of the dividend are followed by as many zeros as the quotient needs. -/
theorem le_targetExponent_div {m n k : ℕ} {t : ℤ} (hm : 0 < m) (hn : 0 < n)
    (ht : t ≤ -1074 ∨ (n.log2 : ℤ) + 53 ≤ m.log2 + k) :
    t ≤ Format.binary64.targetExponent (totalExponent ((m <<< k) / n) t) := by
  rw [targetExponent_eq, totalExponent]
  rcases ht with ht | ht
  · omega
  have hshifted : 2 ^ (n.log2 + 53) ≤ m <<< k := by
    refine (Nat.le_log2 ?_).mp ?_
    · rw [Nat.shiftLeft_eq]
      positivity
    · rw [log2_shiftLeft hm]
      omega
  have hquotient : 2 ^ 52 ≤ (m <<< k) / n := by
    rw [Nat.le_div_iff_mul_le hn]
    refine le_trans ?_ hshifted
    calc 2 ^ 52 * n ≤ 2 ^ 52 * 2 ^ (n.log2 + 1) := Nat.mul_le_mul_left _ Nat.lt_log2_self.le
      _ = 2 ^ (n.log2 + 53) := by rw [← pow_add]; congr 1; omega
  have : 52 ≤ ((m <<< k) / n).log2 := (Nat.le_log2 (by omega)).mpr hquotient
  omega

theorem div_spec {u v : UnpackedFloat} (hu : IsCanonical u) (hv : IsCanonical v)
    (hzero : exact v ≠ 0) :
    IsCanonical (UnpackedFloat.div .binary64 u v) ∧
      Rounds (exact u / exact v) (exact (UnpackedFloat.div .binary64 u v)) := by
  cases v with
  | infinity | notANumber => exact hv.elim
  | zero => exact absurd rfl hzero
  | finite t n f hn =>
    cases u with
    | infinity | notANumber => exact hu.elim
    | zero s =>
      rw [exact_zero, zero_div]
      exact ⟨trivial, isDouble_zero.rounds⟩
    | finite s m e hm =>
      set place := min (e - f)
        (Format.binary64.targetExponent (totalExponent m e - totalExponent n f)) with hplace
      set k := (e - f - place).toNat with hk
      have hshift : place + k = e - f := by omega
      have hlarge : place ≤ -1074 ∨ (n.log2 : ℤ) + 53 ≤ m.log2 + k := by
        rw [targetExponent_eq, totalExponent, totalExponent] at hplace
        omega
      have hquotient := roundWithAccuracy_spec (s / t) (stands_div (m <<< k) hn)
        (le_targetExponent_div hm hn hlarge)
      have hvalue : ((m <<< k : ℕ) : ℚ) / n * 2 ^ place = m * 2 ^ e / (n * 2 ^ f) := by
        have he : (2 : ℚ) ^ e = 2 ^ k * 2 ^ place * 2 ^ f := by
          rw [← zpow_natCast, ← zpow_add₀ (by norm_num), ← zpow_add₀ (by norm_num)]
          congr 1
          omega
        have := (two_zpow_pos f).ne'
        rw [Nat.shiftLeft_eq, he]
        push_cast
        field_simp
      rwa [hvalue, signed_div] at hquotient

/-! ## Order -/

theorem AreDigits.lt_of_lt {m n : ℕ} {e f : ℤ} (hm : AreDigits m e) (hn : AreDigits n f)
    (h : e < f) : (m : ℚ) * 2 ^ e < n * 2 ^ f := by
  have hle : 2 ^ 52 ≤ n := hn.le.resolve_right (by have := hm.least; omega)
  calc (m : ℚ) * 2 ^ e < 2 ^ 53 * 2 ^ e :=
        mul_lt_mul_of_pos_right (by exact_mod_cast hm.lt) (two_zpow_pos e)
    _ = 2 ^ 52 * 2 ^ (e + 1) := by rw [zpow_add_one₀ (by norm_num)]; ring
    _ ≤ 2 ^ 52 * 2 ^ f :=
        mul_le_mul_of_nonneg_left (zpow_le_zpow_right₀ (by norm_num) (by omega)) (by norm_num)
    _ ≤ n * 2 ^ f := mul_le_mul_of_nonneg_right (by exact_mod_cast hle) (two_zpow_pos f).le

/-- The greater place decides, and between equal places the digits. -/
theorem AreDigits.compare_eq {m n : ℕ} {e f : ℤ} (hm : AreDigits m e) (hn : AreDigits n f) :
    (compare e f).then (compare m n) = compare ((m : ℚ) * 2 ^ e) (n * 2 ^ f) := by
  rcases lt_trichotomy e f with hlt | rfl | hgt
  · rw [compare_lt_iff_lt.mpr hlt, compare_lt_iff_lt.mpr (hm.lt_of_lt hn hlt)]
    rfl
  · rw [compare_eq_iff_eq.mpr rfl, Ordering.eq_then]
    rcases lt_trichotomy m n with hlt | rfl | hgt
    · rw [compare_lt_iff_lt.mpr hlt, compare_lt_iff_lt.mpr]
      exact mul_lt_mul_of_pos_right (by exact_mod_cast hlt) (two_zpow_pos e)
    · rw [compare_eq_iff_eq.mpr rfl, compare_eq_iff_eq.mpr rfl]
    · rw [compare_gt_iff_gt.mpr hgt, compare_gt_iff_gt.mpr]
      exact mul_lt_mul_of_pos_right (by exact_mod_cast hgt) (two_zpow_pos e)
  · rw [compare_gt_iff_gt.mpr hgt, compare_gt_iff_gt.mpr (hn.lt_of_lt hm hgt)]
    rfl

theorem compare_neg_neg (x y : ℚ) : compare (-x) (-y) = (compare x y).swap := by
  rcases lt_trichotomy x y with h | rfl | h
  · rw [compare_lt_iff_lt.mpr h, compare_gt_iff_gt.mpr (neg_lt_neg h)]
    rfl
  · rw [compare_eq_iff_eq.mpr rfl, compare_eq_iff_eq.mpr rfl]
    rfl
  · rw [compare_gt_iff_gt.mpr h, compare_lt_iff_lt.mpr (neg_lt_neg h)]
    rfl

theorem finite_pos {m : ℕ} (hm : 0 < m) (e : ℤ) : (0 : ℚ) < m * 2 ^ e :=
  mul_pos (by exact_mod_cast hm) (two_zpow_pos e)

/-- Numbers that are taken apart compare as the numbers that they are. -/
theorem compare_spec {u v : UnpackedFloat} (hu : IsCanonical u) (hv : IsCanonical v) :
    UnpackedFloat.compare u v = some (compare (exact u) (exact v)) := by
  cases u with
  | infinity | notANumber => exact hu.elim
  | zero s =>
    cases v with
    | infinity | notANumber => exact hv.elim
    | zero t => exact congrArg some (compare_eq_iff_eq.mpr rfl).symm
    | finite t n f hn =>
      cases t
      · exact congrArg some (compare_gt_iff_gt.mpr (neg_neg_of_pos (finite_pos hn f))).symm
      · exact congrArg some (compare_lt_iff_lt.mpr (finite_pos hn f)).symm
  | finite s m e hm =>
    cases v with
    | infinity | notANumber => exact hv.elim
    | zero t =>
      cases s
      · exact congrArg some (compare_lt_iff_lt.mpr (neg_neg_of_pos (finite_pos hm e))).symm
      · exact congrArg some (compare_gt_iff_gt.mpr (finite_pos hm e)).symm
    | finite t n f hn =>
      cases s <;> cases t
      · show some ((compare e f).then (compare m n)).swap =
          some (compare (-((m : ℚ) * 2 ^ e)) (-(n * 2 ^ f)))
        rw [compare_neg_neg, AreDigits.compare_eq hu hv]
      · exact congrArg some (compare_lt_iff_lt.mpr
          ((neg_neg_of_pos (finite_pos hm e)).trans (finite_pos hn f))).symm
      · exact congrArg some (compare_gt_iff_gt.mpr
          ((neg_neg_of_pos (finite_pos hn f)).trans (finite_pos hm e))).symm
      · exact congrArg some (AreDigits.compare_eq hu hv)

end SurfaceDrift.Decimal
