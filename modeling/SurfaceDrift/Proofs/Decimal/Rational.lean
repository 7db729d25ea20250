import SurfaceDrift.Proofs.Decimal.Arithmetic
import SurfaceDrift.Proofs.Decimal.Order

/-!
# The rational number that a double is

A finite double is a rational number (`rational`), and an operation on finite doubles has the
exact result rounded, if that is not greater than the greatest double (`add_spec_of_le` and the
like). For this the digits of a result are read back from its bits (`unpack_pack`). Doubles
compare as the numbers that they are (`le_iff_rational`), and what is between two of them is
finite (`isFinite_of_mem`). The double next to a whole number of 64 bits is finite too
(`isFinite_ofInteger`).
-/

namespace SurfaceDrift.Decimal
open Float.Model Float.Model.UnpackedFloat

theorem greatest_eq : greatest = ((2 ^ 53 - 1 : ℕ) : ℚ) * 2 ^ (971 : ℤ) := by
  rw [greatest]
  norm_num

theorem areDigits_greatest : AreDigits (2 ^ 53 - 1) 971 :=
  ⟨by norm_num, by norm_num, Or.inl (by norm_num)⟩

theorem AreDigits.le_greatest {m : ℕ} {e : ℤ} (h : AreDigits m e) (he : e ≤ 971) :
    (m : ℚ) * 2 ^ e ≤ greatest := by
  rw [greatest_eq]
  rcases he.lt_or_eq with hlt | rfl
  · exact (h.lt_of_lt areDigits_greatest hlt).le
  · exact mul_le_mul_of_nonneg_right (by exact_mod_cast Nat.le_pred_of_lt h.lt)
      (two_zpow_pos _).le

theorem AreDigits.greatest_lt {m : ℕ} {e : ℤ} (h : AreDigits m e) (he : 971 < e) :
    greatest < m * 2 ^ e := by
  rw [greatest_eq]
  exact areDigits_greatest.lt_of_lt h he

/-! ## Bits -/

theorem finite_le_greatest (s : Sign) {m : ℕ} {e : ℤ} (hm : 0 < m) (h : AreDigits m e)
    (he : e ≤ 971) : |exact (.finite s m e hm)| ≤ greatest := by
  rw [exact, abs_signed, abs_of_pos (finite_pos hm e)]
  exact h.le_greatest he

theorem exponentBias_eq : Format.binary64.exponentBias = 1023 := rfl

theorem mantissaBits_eq : Format.binary64.mantissaBits = 53 := rfl

/-- Where the exponent is neither the least nor the greatest, a digit is left out. -/
theorem unpack_normal {b : BitVec 64} (hleast : @unpackExponent .binary64 b ≠ 0#_)
    (hgreatest : @unpackExponent .binary64 b ≠ -1#_) :
    UnpackedFloat.unpack .binary64 b = .finite (.ofBitVec (@unpackSign .binary64 b))
      (2 ^ 52 + (@unpackMantissa .binary64 b).toNat)
      ((@unpackExponent .binary64 b).toNat - 1075) (by omega) := by
  have hjoined : (1#1 ++ @unpackMantissa .binary64 b).toNat =
      2 ^ 52 + (@unpackMantissa .binary64 b).toNat := by
    rw [BitVec.toNat_append, ← Nat.shiftLeft_add_eq_or_of_lt (BitVec.isLt _)]
    rfl
  unfold UnpackedFloat.unpack
  dsimp only
  rw [if_neg hgreatest, if_neg hleast]
  congr 1

theorem unpack_subnormal {b : BitVec 64} (hleast : @unpackExponent .binary64 b = 0#_)
    (hmantissa : 0 < (@unpackMantissa .binary64 b).toNat) :
    UnpackedFloat.unpack .binary64 b = .finite (.ofBitVec (@unpackSign .binary64 b))
      (@unpackMantissa .binary64 b).toNat (-1074) hmantissa := by
  have hgreatest : ¬ @unpackExponent .binary64 b = -1#_ := by
    rw [hleast]
    decide
  have hempty : ¬ @unpackMantissa .binary64 b = 0#_ := fun heq => by
    rw [heq] at hmantissa
    exact hmantissa.ne rfl
  unfold UnpackedFloat.unpack
  dsimp only
  rw [if_neg hgreatest, if_pos hleast, dif_neg hempty]
  congr 1
  rw [hleast]
  rfl

theorem unpack_zero {b : BitVec 64} (hleast : @unpackExponent .binary64 b = 0#_)
    (hmantissa : @unpackMantissa .binary64 b = 0#_) :
    UnpackedFloat.unpack .binary64 b = .zero (.ofBitVec (@unpackSign .binary64 b)) := by
  have hgreatest : ¬ @unpackExponent .binary64 b = -1#_ := by
    rw [hleast]
    decide
  unfold UnpackedFloat.unpack
  dsimp only
  rw [if_neg hgreatest, if_pos hleast, dif_pos hmantissa]

/-- Bits whose exponent is not the greatest one are a double. -/
theorem canonical_unpack {b : BitVec 64} (h : @unpackExponent .binary64 b ≠ -1#_) :
    IsCanonical (UnpackedFloat.unpack .binary64 b) ∧
      |exact (UnpackedFloat.unpack .binary64 b)| ≤ greatest := by
  have hmantissa : (@unpackMantissa .binary64 b).toNat < 2 ^ 52 := BitVec.isLt _
  by_cases hleast : @unpackExponent .binary64 b = 0#_
  · rcases Nat.eq_zero_or_pos (@unpackMantissa .binary64 b).toNat with hempty | hpos
    · rw [unpack_zero hleast (BitVec.eq_of_toNat_eq hempty), exact_zero, abs_zero, greatest_eq]
      exact ⟨trivial, by positivity⟩
    · rw [unpack_subnormal hleast hpos]
      have hdigits : AreDigits (@unpackMantissa .binary64 b).toNat (-1074) :=
        ⟨le_rfl, by omega, Or.inr rfl⟩
      exact ⟨hdigits, finite_le_greatest _ hpos hdigits (by norm_num)⟩
  · rw [unpack_normal hleast h]
    have hlt : (@unpackExponent .binary64 b).toNat < 2 ^ 11 := BitVec.isLt _
    have hne : (@unpackExponent .binary64 b).toNat ≠ 2047 :=
      fun heq => h (BitVec.eq_of_toNat_eq heq)
    have hpos : (@unpackExponent .binary64 b).toNat ≠ 0 :=
      fun heq => hleast (BitVec.eq_of_toNat_eq heq)
    have hdigits : AreDigits (2 ^ 52 + (@unpackMantissa .binary64 b).toNat)
        ((@unpackExponent .binary64 b).toNat - 1075) := ⟨by omega, by omega, Or.inl (by omega)⟩
    exact ⟨hdigits, finite_le_greatest _ _ hdigits (by omega)⟩

theorem finite_congr {s t : Sign} {m n : ℕ} {e f : ℤ} {hm : 0 < m} {hn : 0 < n} (hst : s = t)
    (hmn : m = n) (hef : e = f) : UnpackedFloat.finite s m e hm = .finite t n f hn := by
  subst hst hmn hef
  rfl

/-- The digits of a double are read back from its bits. -/
theorem unpack_pack_finite (s : Sign) {m : ℕ} {e : ℤ} (hm : 0 < m) (h : AreDigits m e)
    (he : e ≤ 971) :
    UnpackedFloat.unpack .binary64 (UnpackedFloat.pack .binary64 (.finite s m e hm)) =
      .finite s m e hm := by
  have hleast := h.least
  have hlt := h.lt
  obtain ⟨biased, hbiased⟩ : ∃ k : ℕ, e + 1075 = k := ⟨(e + 1075).toNat, by omega⟩
  have hsum : (e + (Format.binary64.exponentBias : ℤ) +
      (Format.binary64.mantissaBitsWithoutImplicit : ℤ)).toNat = biased := by
    rw [exponentBias_eq]
    show (e + 1023 + 52).toNat = biased
    omega
  have htop : ¬ 2 ^ Format.binary64.exponentBits ≤ biased + 1 := by
    show ¬ 2 ^ 11 ≤ biased + 1
    omega
  have hexponent : (BitVec.ofNat 11 biased).toNat = biased :=
    (BitVec.toNat_ofNat biased 11).trans (Nat.mod_eq_of_lt (by omega))
  have hne (k : BitVec 11) (hk : k.toNat ≠ biased) : BitVec.ofNat 11 biased ≠ k :=
    fun heq => hk (by rw [← heq, hexponent])
  simp only [UnpackedFloat.pack, hsum, htop, if_false]
  split_ifs with hlog
  · have hlarge : 2 ^ 52 ≤ m := (Nat.le_log2 hm.ne').mp (by
      rw [mantissaBits_eq] at hlog
      omega)
    refine (unpack_normal ?_ ?_).trans (finite_congr ?_ ?_ ?_)
    · rw [unpackExponent_packComponents]
      exact hne _ (show 0 ≠ biased by omega)
    · rw [unpackExponent_packComponents]
      exact hne _ (show 2047 ≠ biased by omega)
    · rw [unpackSign_packComponents, Sign.ofBitVec_toBitVec]
    · rw [unpackMantissa_packComponents, BitVec.toNat_ofNat]
      show 2 ^ 52 + m % 2 ^ 52 = m
      omega
    · rw [unpackExponent_packComponents]
      show ((BitVec.ofNat 11 biased).toNat : ℤ) - 1075 = e
      omega
  · have hsmall : m < 2 ^ 52 := by
      by_contra hlarge
      have hdigits : m.log2 < 53 := (Nat.log2_lt hm.ne').mpr hlt
      have := (Nat.le_log2 hm.ne').mpr (not_lt.mp hlarge)
      exact hlog (by rw [mantissaBits_eq]; omega)
    obtain rfl : e = -1074 := h.le.resolve_left (by omega)
    have hmantissa : (BitVec.ofNat 52 m).toNat = m :=
      (BitVec.toNat_ofNat m 52).trans (Nat.mod_eq_of_lt hsmall)
    refine (unpack_subnormal ?_ ?_).trans (finite_congr ?_ ?_ rfl)
    · exact unpackExponent_packComponents
    · rw [unpackMantissa_packComponents]
      exact hm.trans_eq hmantissa.symm
    · rw [unpackSign_packComponents, Sign.ofBitVec_toBitVec]
    · rw [unpackMantissa_packComponents]
      exact hmantissa

/-- A number that is a double is read back from its bits, and a greater one is infinite there. -/
theorem unpack_pack {u : UnpackedFloat} (h : IsCanonical u) :
    UnpackedFloat.unpack .binary64 (UnpackedFloat.pack .binary64 u) = u ∨
      greatest < |exact u| ∧
        ∃ s, UnpackedFloat.unpack .binary64 (UnpackedFloat.pack .binary64 u) = .infinity s := by
  cases u with
  | infinity | notANumber => exact h.elim
  | zero s => cases s <;> exact Or.inl rfl
  | finite s m e hm =>
    have hdigits : AreDigits m e := h
    rcases le_or_gt e 971 with he | he
    · exact Or.inl (unpack_pack_finite s hm hdigits he)
    · refine Or.inr ⟨?_, s, ?_⟩
      · rw [exact, abs_signed, abs_of_pos (finite_pos hm e)]
        exact hdigits.greatest_lt he
      · have htop : 2 ^ Format.binary64.exponentBits ≤ (e + (Format.binary64.exponentBias : ℤ) +
            (Format.binary64.mantissaBitsWithoutImplicit : ℤ)).toNat + 1 := by
          show 2 ^ 11 ≤ (e + 1023 + 52).toNat + 1
          omega
        simp only [UnpackedFloat.pack, htop, if_true]
        cases s <;> rfl

/-! ## Finite doubles -/

/-- The number that a finite double is. -/
def rational (x : Float) : ℚ := exact x.toModel.unpack

theorem toNat_unpackExponent (b : UInt64) :
    (@unpackExponent .binary64 b.toBitVec).toNat = b.toNat / twoTo 52 % 2048 := by
  rw [unpackExponent, BitVec.toNat_cast, BitVec.extractLsb_toNat, Nat.shiftRight_eq_div_pow]
  rfl

theorem isCanonical_of_isFinite {x : Float} (h : isFinite x = true) :
    IsCanonical x.toModel.unpack :=
  (canonical_unpack (unpackExponent_ne_of_isFinite h)).1

theorem unpack_of_not_isFinite {x : Float} (h : ¬ isFinite x = true) :
    (∃ s, x.toModel.unpack = .infinity s) ∨ x.toModel.unpack = .notANumber := by
  have hbits : x.toBits.toNat / twoTo 52 % 2048 = 2047 := by
    by_contra hne
    refine h ?_
    rw [isFinite, Reading.of]
    simp only [if_neg hne]
    split_ifs <;> rfl
  have hexponent : @unpackExponent .binary64 x.toModel.toBits.toBitVec = -1#_ :=
    BitVec.eq_of_toNat_eq ((toNat_unpackExponent x.toModel.toBits).trans hbits)
  unfold Float.Model.unpack UnpackedFloat.unpack
  dsimp only
  rw [if_pos hexponent]
  split_ifs
  · exact Or.inl ⟨_, rfl⟩
  · exact Or.inr rfl

theorem isFinite_of_isCanonical {x : Float} (h : IsCanonical x.toModel.unpack) :
    isFinite x = true := by
  by_contra hnot
  rcases unpack_of_not_isFinite hnot with ⟨s, hx⟩ | hx
  · rw [hx] at h
    exact h
  · rw [hx] at h
    exact h

theorem isDouble_rational {x : Float} (h : isFinite x = true) : IsDouble (rational x) :=
  (isCanonical_of_isFinite h).isDouble

theorem abs_rational_le {x : Float} (h : isFinite x = true) : |rational x| ≤ greatest :=
  (canonical_unpack (unpackExponent_ne_of_isFinite h)).2

theorem isFinite_ofBits {b : UInt64} (h : b.toNat / twoTo 52 % 2048 ≠ 2047) :
    isFinite (Float.ofBits b) = true := by
  have hexponent : @unpackExponent .binary64 b.toBitVec ≠ -1#_ :=
    fun heq => h ((toNat_unpackExponent b).symm.trans (congrArg BitVec.toNat heq))
  obtain ⟨hcanonical, hle⟩ := canonical_unpack hexponent
  refine isFinite_of_isCanonical ?_
  have hread : (Float.ofBits b).toModel.unpack = UnpackedFloat.unpack .binary64 b.toBitVec :=
    (unpack_pack hcanonical).resolve_right fun hgreat => hgreat.1.not_ge hle
  rw [hread]
  exact hcanonical

/-! ## Arithmetic -/

/-- A result that is not greater than the doubles is finite. -/
theorem finite_of_rounds {u : UnpackedFloat} {q : ℚ}
    (h : IsCanonical u ∧ Rounds q (exact u)) (hq : |q| ≤ greatest) :
    isFinite ⟨pack u⟩ = true ∧ Rounds q (rational ⟨pack u⟩) := by
  have hle : |exact u| ≤ greatest := h.2.abs_le_of_abs_le isDouble_greatest hq
  have hread : (⟨pack u⟩ : Float).toModel.unpack = u :=
    (unpack_pack h.1).resolve_right fun hgreat => hgreat.1.not_ge hle
  refine ⟨isFinite_of_isCanonical (by rw [hread]; exact h.1), ?_⟩
  rw [rational, hread]
  exact h.2

section

variable {x y : Float} (hx : isFinite x = true) (hy : isFinite y = true)

include hx hy

theorem add_spec_of_le (h : |rational x + rational y| ≤ greatest) :
    isFinite (x + y) = true ∧ Rounds (rational x + rational y) (rational (x + y)) :=
  finite_of_rounds (add_spec (isCanonical_of_isFinite hx) (isCanonical_of_isFinite hy)) h

theorem sub_spec_of_le (h : |rational x - rational y| ≤ greatest) :
    isFinite (x - y) = true ∧ Rounds (rational x - rational y) (rational (x - y)) :=
  finite_of_rounds (sub_spec (isCanonical_of_isFinite hx) (isCanonical_of_isFinite hy)) h

theorem mul_spec_of_le (h : |rational x * rational y| ≤ greatest) :
    isFinite (x * y) = true ∧ Rounds (rational x * rational y) (rational (x * y)) :=
  finite_of_rounds (mul_spec (isCanonical_of_isFinite hx) (isCanonical_of_isFinite hy)) h

theorem div_spec_of_le (hzero : rational y ≠ 0) (h : |rational x / rational y| ≤ greatest) :
    isFinite (x / y) = true ∧ Rounds (rational x / rational y) (rational (x / y)) :=
  finite_of_rounds (div_spec (isCanonical_of_isFinite hx) (isCanonical_of_isFinite hy) hzero) h

/-- A sum of finite doubles is a number, which may be infinite. -/
theorem add_ne_notANumber : (x + y).toModel.unpack ≠ .notANumber := by
  have hsum := add_spec (isCanonical_of_isFinite hx) (isCanonical_of_isFinite hy)
  have hunpack : (x + y).toModel.unpack = UnpackedFloat.unpack .binary64 (UnpackedFloat.pack
      .binary64 (UnpackedFloat.add .binary64 x.toModel.unpack y.toModel.unpack)) := rfl
  rw [hunpack]
  rcases unpack_pack hsum.1 with heq | ⟨-, s, heq⟩
  · rw [heq]
    exact fun hnan => by rw [hnan] at hsum; exact hsum.1
  · rw [heq]
    exact nofun

/-! ## Order -/

theorem compare_eq_rational :
    x.toModel.unpack.compare y.toModel.unpack = some (compare (rational x) (rational y)) :=
  compare_spec (isCanonical_of_isFinite hx) (isCanonical_of_isFinite hy)

theorem le_iff_rational : x ≤ y ↔ rational x ≤ rational y := by
  rw [le_iff_compare, compare_eq_rational hx hy, Option.any_some, Ordering.isLE_iff_ne_gt,
    ← compare_le_iff_le]

theorem lt_iff_rational : x < y ↔ rational x < rational y := by
  rw [lt_iff_compare, compare_eq_rational hx hy, Option.some_inj, compare_lt_iff_lt]

theorem beq_iff_rational : (x == y) = true ↔ rational x = rational y := by
  rw [beq_iff_compare, compare_eq_rational hx hy, Option.some_inj, compare_eq_iff_eq]

theorem le_of_lt (h : x < y) : x ≤ y :=
  (le_iff_rational hx hy).mpr ((lt_iff_rational hx hy).mp h).le

theorem lt_of_not_le (h : ¬ y ≤ x) : x < y :=
  (lt_iff_rational hx hy).mpr (not_le.mp fun hle => h ((le_iff_rational hy hx).mpr hle))

theorem le_trans {z : Float} (hz : isFinite z = true) (hxy : x ≤ y) (hyz : y ≤ z) : x ≤ z :=
  (le_iff_rational hx hz).mpr
    (((le_iff_rational hx hy).mp hxy).trans ((le_iff_rational hy hz).mp hyz))

end

theorem le_self {x : Float} (hx : isFinite x = true) : x ≤ x :=
  (le_iff_rational hx hx).mpr le_rfl

theorem compare_infinity {u : UnpackedFloat} (h : IsCanonical u) :
    UnpackedFloat.compare u (.infinity .negative) = some .gt ∧
      UnpackedFloat.compare (.infinity .positive) u = some .gt := by
  cases u with
  | infinity | notANumber => exact h.elim
  | zero s => cases s <;> exact ⟨rfl, rfl⟩
  | finite s => cases s <;> exact ⟨rfl, rfl⟩

/-- What lies between two finite doubles is finite. -/
theorem isFinite_of_mem {lo hi x : Float} (hlo : isFinite lo = true) (hhi : isFinite hi = true)
    (hlox : lo ≤ x) (hxhi : x ≤ hi) : isFinite x = true := by
  by_contra hnot
  rw [le_iff_compare] at hlox hxhi
  rcases unpack_of_not_isFinite hnot with ⟨s, hx⟩ | hx
  · cases s with
    | negative =>
      rw [hx, (compare_infinity (isCanonical_of_isFinite hlo)).1] at hlox
      exact absurd hlox (by decide)
    | positive =>
      rw [hx, (compare_infinity (isCanonical_of_isFinite hhi)).2] at hxhi
      exact absurd hxhi (by decide)
  · rw [hx] at hxhi
    exact Bool.false_ne_true hxhi

/-! ## Halves -/

theorem rational_zero : rational 0.0 = 0 := rfl

theorem rational_one : rational 1.0 = 1 := by
  have hunpack : (1.0 : Float).toModel.unpack = .finite .positive (2 ^ 52) (-52) (by decide) := rfl
  rw [rational, hunpack, exact, signed]
  norm_num

theorem rational_two : rational 2.0 = 2 := by
  have hunpack : (2.0 : Float).toModel.unpack = .finite .positive (2 ^ 52) (-51) (by decide) := rfl
  rw [rational, hunpack, exact, signed]
  norm_num

/-- Half of a double is rounded, and is at most half of the greatest one. -/
theorem half_spec {x : Float} (hx : isFinite x = true) :
    isFinite (x / 2.0) = true ∧ Rounds (rational x / 2) (rational (x / 2.0)) ∧
      |rational (x / 2.0)| ≤ greatest / 2 := by
  have hhalf : |rational x / 2| ≤ greatest / 2 := by
    rw [abs_div, abs_two]
    exact div_le_div_of_nonneg_right (abs_rational_le hx) zero_le_two
  have hspec := div_spec_of_le hx (y := 2.0) (by decide) (by rw [rational_two]; exact two_ne_zero)
    (by rw [rational_two]; exact hhalf.trans (half_le_self greatest_pos.le))
  rw [rational_two] at hspec
  exact ⟨hspec.1, hspec.2, hspec.2.abs_le_of_abs_le isDouble_half_greatest hhalf⟩

/-! ## Whole numbers -/

theorem divideToEven_le (num den : Nat) : divideToEven num den ≤ num / den + 1 := by
  unfold divideToEven
  dsimp only
  split <;> omega

/-- The units of a place that is not far below the first digit. -/
theorem unitsOf_le {n : ℕ} {place : ℤ} (hplace : (n.log2 : ℤ) - 53 ≤ place) :
    unitsOf n 1 place ≤ 2 ^ 54 + 1 := by
  have hlog : n ≤ 2 ^ (n.log2 + 1) := Nat.lt_log2_self.le
  unfold unitsOf
  split_ifs with hneg
  · refine (divideToEven_le _ _).trans (Nat.succ_le_succ ?_)
    rw [Nat.div_one]
    calc n * 2 ^ place.natAbs ≤ 2 ^ (n.log2 + 1) * 2 ^ place.natAbs := Nat.mul_le_mul_right _ hlog
      _ = 2 ^ (n.log2 + 1 + place.natAbs) := (pow_add _ _ _).symm
      _ ≤ 2 ^ 54 := Nat.pow_le_pow_right two_pos (by omega)
  · refine (divideToEven_le _ _).trans (Nat.succ_le_succ (Nat.div_le_of_le_mul ?_))
    rw [one_mul]
    calc n ≤ 2 ^ (n.log2 + 1) := hlog
      _ ≤ 2 ^ (place.natAbs + 54) := Nat.pow_le_pow_right two_pos (by omega)
      _ = 2 ^ place.natAbs * 2 ^ 54 := pow_add _ _ _

theorem nearestBits_lt {n : ℕ} (h : n ≤ 2 ^ 64) : nearestBits n 1 < 2047 * twoTo 52 := by
  have hlog : n.log2 ≤ 64 := by
    rcases Nat.eq_zero_or_pos n with rfl | hpos
    · exact Nat.zero_le _
    · exact Nat.lt_succ_iff.mp ((Nat.log2_lt hpos.ne').mpr (h.trans_lt (by norm_num)))
  have hone : Nat.log2 1 = 0 := rfl
  have hsized (size : ℤ) (hlow : (n.log2 : ℤ) - 1 ≤ size) (hhigh : size ≤ n.log2) :
      (max (size - 52) (-1074) + 1074).toNat * twoTo 52 +
        unitsOf n 1 (max (size - 52) (-1074)) < 2047 * twoTo 52 := by
    have hunits : unitsOf n 1 (max (size - 52) (-1074)) ≤ 2 ^ 54 + 1 := unitsOf_le (by omega)
    have hplace : (max (size - 52) (-1074) + 1074).toNat ≤ 1086 := by omega
    calc _ ≤ 1086 * twoTo 52 + (2 ^ 54 + 1) :=
          Nat.add_le_add (Nat.mul_le_mul_right _ hplace) hunits
      _ < 2047 * twoTo 52 := by decide
  unfold nearestBits
  split_ifs with hzero
  · decide
  · refine (min_le_right _ _).trans_lt (hsized _ ?_ ?_)
    · rw [hone]
      split_ifs <;> omega
    · rw [hone]
      split_ifs <;> omega

/-- Whole numbers of 64 bits are far from the greatest double. -/
theorem isFinite_ofInteger {n : ℤ} (h : n.natAbs ≤ 2 ^ 64) : isFinite (ofInteger n) = true := by
  have hbits := nearestBits_lt h
  rw [ofInteger, ofFraction]
  refine isFinite_ofBits ?_
  rw [UInt64.toNat_ofNat']
  have h52 : twoTo 52 = 2 ^ 52 := rfl
  have h63 : twoTo 63 = 2 ^ 63 := rfl
  rw [h52] at hbits ⊢
  split_ifs
  · omega
  · omega

end SurfaceDrift.Decimal
