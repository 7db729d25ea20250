import SurfaceDrift.Decimal.Numeral
import SurfaceDrift.Proofs.Decimal.Rational

/-!
# Whole numbers and doubles

What the bits of a finite double stand for is the number that it is (`rational_eq_value`), so that
`integer?` tells the whole number that a double is, and only that one (`integer?_eq_some_iff`). The
double next to a whole number of 64 bits is this number rounded (`rounds_ofInteger`). A double from
`2 ^ 52` on is a whole number, and hence the double next to a whole number from there on is one too,
which is not on the other side of a double (`exists_integer?_ofInteger`).
-/

namespace SurfaceDrift.Decimal
open Float.Model Float.Model.UnpackedFloat

/-! ## The fields of a double -/

theorem signed_zero (s : Sign) : signed s 0 = 0 := by
  cases s <;> simp [signed]

/-- The number that bits stand for, where it is finite. -/
def Reading.value : Reading → ℚ
  | .finite negative m =>
    signed (if negative then .negative else .positive) (m.significand * 2 ^ m.exponent)
  | _ => 0

theorem toNat_unpackMantissa (b : UInt64) :
    (@unpackMantissa .binary64 b.toBitVec).toNat = b.toNat % twoTo 52 := by
  rw [unpackMantissa, BitVec.toNat_cast, BitVec.extractLsb_toNat, Nat.shiftRight_eq_div_pow,
    Nat.pow_zero, Nat.div_one]
  rfl

theorem ofBitVec_unpackSign (b : UInt64) :
    Sign.ofBitVec (@unpackSign .binary64 b.toBitVec) =
      if b.toNat / twoTo 63 == 1 then .negative else .positive := by
  have hsign : (@unpackSign .binary64 b.toBitVec).toNat = b.toNat / twoTo 63 % 2 := by
    rw [unpackSign, BitVec.toNat_cast, BitVec.extractLsb_toNat, Nat.shiftRight_eq_div_pow]
    rfl
  have hbits : b.toNat / twoTo 63 < 2 := Nat.div_lt_of_lt_mul b.toNat_lt
  rw [Nat.mod_eq_of_lt hbits] at hsign
  have hzero : @unpackSign .binary64 b.toBitVec = 0#1 ↔ b.toNat / twoTo 63 = 0 := by
    rw [← hsign]
    exact ⟨congrArg BitVec.toNat, fun heq => BitVec.eq_of_toNat_eq heq⟩
  simp only [Sign.ofBitVec, hzero, beq_iff_eq]
  split_ifs with hpositive hnegative <;> first | rfl | omega

/-- What the bits of a finite double stand for is the number that it is. -/
theorem rational_eq_value {x : Float} (h : isFinite x = true) :
    rational x = (Reading.of x).value := by
  have hexponent := exponent_ne_of_isFinite h
  have hfields := toNat_unpackExponent x.toBits
  have hmantissa := toNat_unpackMantissa x.toBits
  have hsign := ofBitVec_unpackSign x.toBits
  have hnormal : @unpackExponent .binary64 x.toBits.toBitVec ≠ -1#_ :=
    unpackExponent_ne_of_isFinite h
  have hunpack : x.toModel.unpack = UnpackedFloat.unpack .binary64 x.toBits.toBitVec := rfl
  rw [rational, hunpack, Reading.of]
  simp only [if_neg hexponent]
  split_ifs with hzero
  · have hleast : @unpackExponent .binary64 x.toBits.toBitVec = 0#_ :=
      BitVec.eq_of_toNat_eq (hfields.trans hzero)
    rcases Nat.eq_zero_or_pos (x.toBits.toNat % twoTo 52) with hempty | hpos
    · rw [unpack_zero hleast (BitVec.eq_of_toNat_eq (hmantissa.trans hempty)), exact_zero, hempty]
      simp [Reading.value, signed_zero]
    · rw [unpack_subnormal hleast (hmantissa ▸ hpos), exact, hsign, hmantissa]
      rfl
  · have hleast : @unpackExponent .binary64 x.toBits.toBitVec ≠ 0#_ := fun heq =>
      hzero (hfields.symm.trans (congrArg BitVec.toNat heq))
    rw [unpack_normal hleast hnormal, exact, hsign, hmantissa, hfields, Nat.add_comm (2 ^ 52)]
    rfl

theorem exists_reading {x : Float} (h : isFinite x = true) :
    ∃ negative m, Reading.of x = .finite negative m := by
  rw [isFinite] at h
  split at h
  · next negative m hreading => exact ⟨negative, m, hreading⟩
  · cases h

/-! ## The whole number that a double is -/

theorem signed_natCast (negative : Bool) (n : ℕ) :
    signed (if negative then .negative else .positive) (n : ℚ) =
      ((if negative then -(n : ℤ) else n : ℤ) : ℚ) := by
  cases negative <;> simp [signed]

theorem cast_twoTo (k : ℕ) : ((twoTo k : ℕ) : ℚ) = 2 ^ k := by
  rw [show twoTo k = 2 ^ k from rfl]
  push_cast
  rfl

/-- A fraction that is a whole number loses its denominator. -/
theorem signed_div_twoTo_eq_iff (negative : Bool) (m k : ℕ) (n : ℤ) :
    signed (if negative then .negative else .positive) (m * 2 ^ (-(k : ℤ))) = n ↔
      m % twoTo k = 0 ∧ (if negative then -((m / twoTo k : ℕ) : ℤ) else (m / twoTo k : ℕ)) = n := by
  have hpos : 0 < twoTo k := Nat.pow_pos two_pos
  have hfraction : (m : ℚ) * 2 ^ (-(k : ℤ)) = m / twoTo k := by
    rw [zpow_neg, zpow_natCast, ← cast_twoTo, div_eq_mul_inv]
  rw [hfraction]
  constructor
  · intro h
    have hmul : m = n.natAbs * twoTo k := by
      have habs : (m : ℚ) / twoTo k = (n.natAbs : ℚ) := by
        rw [Nat.cast_natAbs, Int.cast_abs, ← h, abs_signed, abs_of_nonneg (by positivity)]
      rw [div_eq_iff (by positivity)] at habs
      exact_mod_cast habs
    have hmod : m % twoTo k = 0 := by rw [hmul, Nat.mul_mod_left]
    obtain ⟨q, rfl⟩ := Nat.dvd_of_mod_eq_zero hmod
    rw [Nat.cast_mul, mul_div_cancel_left₀ _ (by positivity), signed_natCast, Int.cast_inj] at h
    rw [Nat.mul_div_cancel_left _ hpos]
    exact ⟨hmod, h⟩
  · rintro ⟨hmod, h⟩
    obtain ⟨q, rfl⟩ := Nat.dvd_of_mod_eq_zero hmod
    rw [Nat.mul_div_cancel_left _ hpos] at h
    rw [Nat.cast_mul, mul_div_cancel_left₀ _ (by positivity), signed_natCast, h]

/-- `integer?` gives the whole number that a finite double is, if it is one. -/
theorem integer?_eq_some_iff {x : Float} {n : ℤ} :
    integer? x = some n ↔ isFinite x = true ∧ rational x = n := by
  by_cases hx : isFinite x = true
  · obtain ⟨negative, ⟨m, e⟩, hreading⟩ := exists_reading hx
    rw [rational_eq_value hx, integer?, hreading, Reading.value]
    simp only [hx, true_and]
    rcases le_or_gt 0 e with he | he
    · obtain ⟨k, rfl⟩ := Int.eq_ofNat_of_zero_le he
      have hwhole : (m : ℚ) * 2 ^ (k : ℤ) = ((m * twoTo k : ℕ) : ℚ) := by
        rw [zpow_natCast, Nat.cast_mul, cast_twoTo]
      rw [if_pos he, hwhole, signed_natCast, Int.cast_inj, Option.some_inj, Int.natAbs_natCast]
    · obtain ⟨k, rfl⟩ : ∃ k : ℕ, e = -(k : ℤ) := ⟨e.natAbs, by omega⟩
      rw [if_neg (not_le.mpr he), signed_div_twoTo_eq_iff, Int.natAbs_neg, Int.natAbs_natCast]
      split_ifs with hmod <;> simp [hmod]
  · have hnone : integer? x = none := by
      rw [integer?]
      split
      · next negative m e hreading =>
        rw [isFinite, hreading] at hx
        exact absurd rfl hx
      · rfl
    simp [hnone, hx]

/-! ## Rounding a whole number -/

theorem isNearest_add {n : ℤ} {r : ℚ} (h : |r| ≤ 1 / 2) (htie : |r| = 1 / 2 → Even n) :
    IsNearest (n + r) n := by
  rw [IsNearest, add_sub_cancel_left]
  exact ⟨h, htie⟩

theorem isNearest_divideToEven (num : ℕ) {den : ℕ} (hden : 0 < den) :
    IsNearest ((num : ℚ) / den) (divideToEven num den : ℕ) := by
  have hden' : (0 : ℚ) < den := by exact_mod_cast hden
  have hlt : num % den < den := Nat.mod_lt num hden
  have hquotient : (num : ℚ) / den = (num / den : ℕ) + (num % den : ℕ) / den := by
    have hsplit : (num : ℚ) = den * (num / den : ℕ) + (num % den : ℕ) := by
      exact_mod_cast (Nat.div_add_mod num den).symm
    rw [hsplit]
    field_simp
  -- The remainder is told in the unit of the quotient.
  have hhalf : (1 / 2 : ℚ) ≤ (num % den : ℕ) / den ↔ den ≤ 2 * (num % den) := by
    rw [le_div_iff₀ hden', ← @Nat.cast_le ℚ]
    push_cast
    constructor <;> intro h <;> linarith
  have hhalf' : ((num % den : ℕ) / den : ℚ) ≤ 1 / 2 ↔ 2 * (num % den) ≤ den := by
    rw [div_le_iff₀ hden', ← @Nat.cast_le ℚ]
    push_cast
    constructor <;> intro h <;> linarith
  have hone : ((num % den : ℕ) / den : ℚ) < 1 := by
    rw [div_lt_one hden']
    exact_mod_cast hlt
  have hzero : (0 : ℚ) ≤ (num % den : ℕ) / den := by positivity
  rw [hquotient]
  unfold divideToEven
  dsimp only
  generalize ((num % den : ℕ) / den : ℚ) = part at *
  generalize num / den = whole, num % den = rest at *
  split
  · next hup =>
    have hup : den < 2 * rest ∨ 2 * rest = den ∧ whole % 2 = 1 := by simpa using hup
    have hpart : 1 / 2 ≤ part := hhalf.mpr (by omega)
    have habs : |part - 1| = 1 - part := by rw [abs_sub_comm, abs_of_nonneg (by linarith)]
    have hsum : (whole : ℚ) + part = ((whole + 1 : ℕ) : ℤ) + (part - 1) := by
      push_cast
      ring
    rw [hsum]
    refine isNearest_add (by rw [habs]; linarith) fun htie => ?_
    have hrest := hhalf'.mp (by linarith)
    rw [Int.even_iff]
    omega
  · next hdown =>
    have hdown : ¬ (den < 2 * rest ∨ 2 * rest = den ∧ whole % 2 = 1) := by simpa using hdown
    have habs : |part| = part := abs_of_nonneg hzero
    rw [← Int.cast_natCast whole]
    refine isNearest_add (by rw [habs]; exact hhalf'.mpr (by omega)) fun htie => ?_
    have hrest := hhalf.mp (by linarith)
    rw [Int.even_iff]
    omega

theorem isNearest_unitsOf (num : ℕ) (place : ℤ) :
    IsNearest ((num : ℚ) / 2 ^ place) (unitsOf num 1 place : ℕ) := by
  unfold unitsOf
  split_ifs with hneg
  · obtain ⟨k, rfl⟩ : ∃ k : ℕ, place = -(k : ℤ) := ⟨place.natAbs, by omega⟩
    have hnearest := isNearest_divideToEven (num * twoTo k) one_pos
    rw [Nat.cast_mul, Nat.cast_one, div_one, cast_twoTo] at hnearest
    rwa [zpow_neg, zpow_natCast, div_inv_eq_mul, Int.natAbs_neg, Int.natAbs_natCast]
  · obtain ⟨k, rfl⟩ := Int.eq_ofNat_of_zero_le (not_lt.mp hneg)
    have hnearest := isNearest_divideToEven num (Nat.pow_pos (n := k) two_pos)
    rw [Nat.cast_pow, Nat.cast_two] at hnearest
    rwa [zpow_natCast, Int.natAbs_natCast, Nat.one_mul]

/-- The place of the last digit that is left of a whole number. -/
theorem isPlace_log2 {n : ℕ} (hn : n ≠ 0) : IsPlace ((n.log2 : ℤ) - 52) n := by
  have hlow : (2 : ℚ) ^ n.log2 ≤ n := by exact_mod_cast Nat.log2_self_le hn
  have hhigh : (n : ℚ) < 2 ^ (n.log2 + 1) := by exact_mod_cast Nat.lt_log2_self
  refine ⟨by omega, ?_, Or.inl ?_⟩
  · rw [Nat.abs_cast, show (n.log2 : ℤ) - 52 + 53 = ((n.log2 + 1 : ℕ) : ℤ) by push_cast; ring,
      zpow_natCast]
    exact hhigh
  · rw [Nat.abs_cast, sub_add_cancel, zpow_natCast]
    exact hlow

/-- The bits next to a whole number are its units, after the exponent of their place. -/
theorem nearestBits_eq {n : ℕ} (hn : n ≠ 0) (h : n ≤ 2 ^ 64) :
    ∃ e u : ℕ, nearestBits n 1 = e * twoTo 52 + u ∧ 1 ≤ e ∧ e ≤ 1086 ∧ 2 ^ 52 ≤ u ∧ u ≤ 2 ^ 53 ∧
      Rounds n (u * 2 ^ ((e : ℤ) - 1074)) := by
  have hlog : n.log2 ≤ 64 := Nat.lt_succ_iff.mp ((Nat.log2_lt hn).mpr (h.trans_lt (by norm_num)))
  have hone : Nat.log2 1 = 0 := rfl
  have hplace := isPlace_log2 hn
  have hnearest := isNearest_unitsOf n ((n.log2 : ℤ) - 52)
  have hu : unitsOf n 1 ((n.log2 : ℤ) - 52) ≤ 2 ^ 53 := by
    exact_mod_cast hplace.le_two_pow (Nat.cast_nonneg n) hnearest
  have hu' : 2 ^ 52 ≤ unitsOf n 1 ((n.log2 : ℤ) - 52) := by
    exact_mod_cast (hplace.two_pow_le (Nat.cast_nonneg n) hnearest).resolve_right (by omega)
  refine ⟨n.log2 + 1022, _, ?_, by omega, by omega, hu', hu, ?_⟩
  · have hbelow : ¬ n < 1 * twoTo n.log2 := by
      rw [one_mul]
      exact not_lt.mpr (Nat.log2_self_le hn)
    have hmax : max ((n.log2 : ℤ) - 52) (-1074) = n.log2 - 52 := by omega
    have hexponent : ((n.log2 : ℤ) - 52 + 1074).toNat = n.log2 + 1022 := by omega
    rw [nearestBits, if_neg hn]
    simp only [hone, Nat.cast_zero, sub_zero, Int.natCast_nonneg, if_true, Int.natAbs_natCast,
      hbelow, decide_false, Bool.false_eq_true, if_false, hmax, hexponent]
    refine Nat.min_eq_right ?_
    rw [show infinityBits = 2047 * 2 ^ 52 from rfl, show twoTo 52 = 2 ^ 52 from rfl]
    omega
  · rw [show ((n.log2 + 1022 : ℕ) : ℤ) - 1074 = (n.log2 : ℤ) - 52 by omega]
    exact ⟨_, _, hplace, hnearest, by rw [Int.cast_natCast]⟩

theorem toBits_ofBits {b : UInt64} (h : b.toNat / twoTo 52 % 2048 ≠ 2047) :
    (Float.ofBits b).toBits = b := by
  have hnot : ¬ @isNaNBits .binary64 b.toBitVec = true := by
    rw [isNaNBits, decide_eq_true_eq, not_and_or]
    exact Or.inl fun heq => h ((toNat_unpackExponent b).symm.trans (congrArg BitVec.toNat heq))
  have hbits : UnpackedFloat.pack .binary64 (UnpackedFloat.unpack .binary64 b.toBitVec) =
      b.toBitVec := by
    rw [pack_unpack, if_neg hnot]
  exact congrArg UInt64.ofBitVec hbits

/-- Units of a place with the exponent before them, where all units may carry into the exponent. -/
theorem ofBits_units (negative : Bool) {e u : ℕ} (he : 1 ≤ e) (he' : e ≤ 1086) (hu : 2 ^ 52 ≤ u)
    (hu' : u ≤ 2 ^ 53) :
    isFinite (Float.ofBits (UInt64.ofNat (e * twoTo 52 + u + if negative then twoTo 63 else 0))) =
        true ∧
      rational (Float.ofBits (UInt64.ofNat (e * twoTo 52 + u + if negative then twoTo 63 else 0))) =
        signed (if negative then .negative else .positive) (u * 2 ^ ((e : ℤ) - 1074)) := by
  have h52 : twoTo 52 = 2 ^ 52 := rfl
  have h63 : twoTo 63 = 2 ^ 63 := rfl
  obtain ⟨sign, hsign, hnegative⟩ : ∃ sign : ℕ, (if negative then twoTo 63 else 0) = sign * 2 ^ 63 ∧
      sign = if negative then 1 else 0 := ⟨_, by cases negative <;> rfl, rfl⟩
  have hone : sign ≤ 1 := by rw [hnegative]; split_ifs <;> omega
  obtain ⟨bits, hbits⟩ : ∃ bits, bits = e * 2 ^ 52 + u + sign * 2 ^ 63 := ⟨_, rfl⟩
  rw [hsign, h52, ← hbits]
  have hnat : (UInt64.ofNat bits).toNat = bits := by
    rw [UInt64.toNat_ofNat']
    exact Nat.mod_eq_of_lt (by omega)
  have hread : (bits / twoTo 63 == 1) = negative := by
    rw [h63, show bits / 2 ^ 63 = sign by omega, hnegative]
    cases negative <;> rfl
  have hexponent : bits / twoTo 52 % 2048 = if u = 2 ^ 53 then e + 2 else e + 1 := by
    rw [h52]
    split_ifs <;> omega
  have hfraction : bits % twoTo 52 = if u = 2 ^ 53 then 0 else u - 2 ^ 52 := by
    rw [h52]
    split_ifs <;> omega
  have hne : (UInt64.ofNat bits).toNat / twoTo 52 % 2048 ≠ 2047 := by
    rw [hnat, hexponent]
    split_ifs <;> omega
  have hfinite := isFinite_ofBits hne
  refine ⟨hfinite, ?_⟩
  rw [rational_eq_value hfinite, Reading.of]
  simp only [toBits_ofBits hne, hnat, hexponent, hfraction, hread]
  by_cases hcarry : u = 2 ^ 53
  · rw [if_pos hcarry, if_pos hcarry, if_neg (by omega), if_neg (by omega)]
    refine congrArg (signed _) ?_
    rw [hcarry, show ((e + 2 : ℕ) : ℤ) - 1075 = 1 + ((e : ℤ) - 1074) by push_cast; ring,
      zpow_add₀ two_ne_zero, h52]
    push_cast
    ring
  · rw [if_neg hcarry, if_neg hcarry, if_neg (by omega), if_neg (by omega)]
    refine congrArg (signed _) ?_
    dsimp only
    rw [h52, Nat.sub_add_cancel hu,
      show ((e + 1 : ℕ) : ℤ) - 1075 = (e : ℤ) - 1074 by push_cast; ring]

/-! ## The double next to a whole number -/

/-- The double next to a whole number of 64 bits is this number rounded. -/
theorem rounds_ofInteger {n : ℤ} (h : n.natAbs ≤ 2 ^ 64) : Rounds n (rational (ofInteger n)) := by
  rcases eq_or_ne n 0 with rfl | hn
  · rw [show rational (ofInteger 0) = 0 from rfl, Int.cast_zero]
    exact isDouble_zero.rounds
  · obtain ⟨e, u, hbits, he, he', hu, hu', hrounds⟩ := nearestBits_eq (Int.natAbs_ne_zero.mpr hn) h
    have hsigned : signed (if decide (n < 0) then .negative else .positive) (n.natAbs : ℚ) = n := by
      rw [signed_natCast, Int.cast_inj]
      split_ifs with hneg <;> simp at hneg <;> omega
    rw [ofInteger, ofFraction, hbits, (ofBits_units _ he he' hu hu').2, ← hsigned]
    exact hrounds.signed _

/-- The last digit of a double from `2 ^ 52` on does not stand behind the point. -/
theorem IsDouble.exists_intCast {y : ℚ} (h : IsDouble y) (hy : 2 ^ 52 ≤ |y|) : ∃ m : ℤ, y = m := by
  obtain ⟨e, n, -, hlt, -, rfl⟩ := h
  have he : 0 ≤ e := by
    by_contra hneg
    have hn : (|n| : ℚ) < 2 ^ 53 := by exact_mod_cast hlt
    have hpow : (2 : ℚ) ^ e ≤ 2 ^ (-1 : ℤ) := zpow_le_zpow_right₀ (by norm_num) (by omega)
    have hsmall : |(n : ℚ) * 2 ^ e| < 2 ^ 52 := by
      calc |(n : ℚ) * 2 ^ e| = |n| * 2 ^ e := by
            rw [abs_mul, abs_of_pos (two_zpow_pos e), Int.cast_abs]
        _ < 2 ^ 53 * 2 ^ e := mul_lt_mul_of_pos_right (by rwa [Int.cast_abs]) (two_zpow_pos e)
        _ ≤ 2 ^ 53 * 2 ^ (-1 : ℤ) := mul_le_mul_of_nonneg_left hpow (by norm_num)
        _ = 2 ^ 52 := by norm_num
    exact absurd hy (not_le.mpr hsmall)
  obtain ⟨k, rfl⟩ := Int.eq_ofNat_of_zero_le he
  exact ⟨n * 2 ^ k, by push_cast; rw [zpow_natCast]⟩

theorem isDouble_two_pow_63 : IsDouble (2 ^ 63) := by
  refine ⟨11, 2 ^ 52, by norm_num, by norm_num, Or.inl (by norm_num), ?_⟩
  norm_num

/-- The double next to a word beyond the signed ones is a whole number beyond them. -/
theorem exists_integer?_ofInteger {n : ℤ} (hn : maxInt64 < n) (hn' : n ≤ maxUInt64) :
    ∃ m, integer? (ofInteger n) = some m ∧ maxInt64 < m := by
  have hmax : maxInt64 = 2 ^ 63 - 1 := rfl
  have hmax' : maxUInt64 = 2 ^ 64 - 1 := rfl
  have hbound : n.natAbs ≤ 2 ^ 64 := by omega
  have hfinite := isFinite_ofInteger hbound
  have hbeyond : 2 ^ 63 ≤ rational (ofInteger n) := by
    refine (rounds_ofInteger hbound).ge_of_ge isDouble_two_pow_63 ?_
    exact_mod_cast (show (2 ^ 63 : ℤ) ≤ n by omega)
  have hlarge : (2 : ℚ) ^ 52 ≤ 2 ^ 63 := by norm_num
  obtain ⟨m, hm⟩ := (isDouble_rational hfinite).exists_intCast
    (hlarge.trans (hbeyond.trans (le_abs_self _)))
  rw [hm] at hbeyond
  have hm' : (2 ^ 63 : ℤ) ≤ m := by exact_mod_cast hbeyond
  exact ⟨m, integer?_eq_some_iff.mpr ⟨hfinite, hm⟩, by omega⟩

end SurfaceDrift.Decimal
