import Mathlib

/-!
# Rounding to the numbers of a format

A double has 53 binary digits, of which the last one has a place of at least `-1074`. The place
of the last digit that is left of a number hangs on its size (`IsPlace`), and rounding takes the
whole number of units of that place which is next to it, the even one of two that are equally
near (`Rounds`). A bound on the places from above has no part in this : what is too great for a
double is rounded all the same.

Rounding keeps the order (`Rounds.mono`) and what is a double already (`IsDouble.rounds`), so that
it does not cross a double. Half of a double is a double again unless its last digit is lost, and
so the halves of two doubles, rounded, make a number between the two (`halves_mem`).
-/

namespace SurfaceDrift.Decimal

/-! ## Whole numbers -/

/-- The whole number next to a rational one, of two that are equally near the even one. -/
def IsNearest (q : ℚ) (n : ℤ) : Prop := |q - n| ≤ 1 / 2 ∧ (|q - n| = 1 / 2 → Even n)

theorem isNearest_intCast (n : ℤ) : IsNearest n n := by
  constructor
  · rw [sub_self, abs_zero]
    norm_num
  · intro h
    rw [sub_self, abs_zero] at h
    norm_num at h

theorem isNearest_of_abs_lt {q : ℚ} {n : ℤ} (h : |q - n| < 1 / 2) : IsNearest q n :=
  ⟨h.le, fun htie => absurd htie h.ne⟩

/-- In the middle between two whole numbers the even one is the nearest. -/
theorem isNearest_add_half (m : ℤ) : IsNearest (m + 1 / 2) (m + m % 2) := by
  have hmod : m % 2 = 0 ∨ m % 2 = 1 := by omega
  constructor
  · rcases hmod with h | h <;> rw [h] <;> push_cast <;> norm_num
  · intro _
    rw [Int.even_iff]
    omega

theorem IsNearest.neg {q : ℚ} {n : ℤ} (h : IsNearest q n) : IsNearest (-q) (-n) := by
  have habs : |-q - ((-n : ℤ) : ℚ)| = |q - n| := by
    rw [Int.cast_neg, neg_sub_neg, abs_sub_comm]
  exact ⟨habs ▸ h.1, fun htie => (h.2 (habs ▸ htie)).neg⟩

theorem IsNearest.mono {q r : ℚ} {m n : ℤ} (hm : IsNearest q m) (hn : IsNearest r n)
    (h : q ≤ r) : m ≤ n := by
  by_contra hlt
  have hgap : (n : ℚ) + 1 ≤ m := by exact_mod_cast (not_le.mp hlt)
  have hq := abs_le.mp hm.1
  have hr := abs_le.mp hn.1
  -- Both numbers are in the middle of the gap, which cannot be resolved in two ways.
  have hmq : m - q = 1 / 2 := by linarith
  have hrn : r - n = 1 / 2 := by linarith
  have heven : Even m := hm.2 (by rw [abs_sub_comm, hmq]; norm_num)
  have heven' : Even n := hn.2 (by rw [hrn]; norm_num)
  have hsucc : m = n + 1 := by
    have : (m : ℚ) = ((n + 1 : ℤ) : ℚ) := by push_cast; linarith
    exact_mod_cast this
  rw [hsucc, Int.even_add_one] at heven
  exact heven heven'

/-! ## Places -/

/-- The place of the last digit that is left of a number. -/
structure IsPlace (e : ℤ) (q : ℚ) : Prop where
  least : -1074 ≤ e
  lt : |q| < 2 ^ (e + 53)
  le : 2 ^ (e + 52) ≤ |q| ∨ e = -1074

theorem IsPlace.neg {e : ℤ} {q : ℚ} (h : IsPlace e q) : IsPlace e (-q) :=
  ⟨h.least, by rw [abs_neg]; exact h.lt, by rw [abs_neg]; exact h.le⟩

/-- The place of a smaller number is not greater. -/
theorem IsPlace.mono {e f : ℤ} {q r : ℚ} (he : IsPlace e q) (hf : IsPlace f r)
    (h : |q| ≤ |r|) : e ≤ f := by
  rcases he.le with hle | rfl
  · have hlt : (2 : ℚ) ^ (e + 52) < 2 ^ (f + 53) := hle.trans_lt (h.trans_lt hf.lt)
    have := (zpow_lt_zpow_iff_right₀ (by norm_num : (1 : ℚ) < 2)).mp hlt
    omega
  · exact hf.least

theorem two_zpow_pos (e : ℤ) : (0 : ℚ) < 2 ^ e := zpow_pos (by norm_num) e

/-- The number of units of the place, rounded, has at most one digit more than there are. -/
theorem IsPlace.le_two_pow {e n : ℤ} {q : ℚ} (h : IsPlace e q) (hq : 0 ≤ q)
    (hn : IsNearest (q / 2 ^ e) n) : n ≤ 2 ^ 53 := by
  refine hn.mono (isNearest_intCast _) ?_
  have hbound := h.lt.le
  rw [abs_of_nonneg hq, zpow_add₀ (by norm_num)] at hbound
  rw [div_le_iff₀ (two_zpow_pos e)]
  push_cast
  linarith

/-- The number of units of the place has all digits, but for the least place. -/
theorem IsPlace.two_pow_le {e n : ℤ} {q : ℚ} (h : IsPlace e q) (hq : 0 ≤ q)
    (hn : IsNearest (q / 2 ^ e) n) : 2 ^ 52 ≤ n ∨ e = -1074 := by
  refine h.le.imp_left fun hbound => (isNearest_intCast _).mono hn ?_
  rw [abs_of_nonneg hq, zpow_add₀ (by norm_num)] at hbound
  rw [le_div_iff₀ (two_zpow_pos e)]
  push_cast
  linarith

/-! ## Rounding -/

/-- The second number is the first one rounded. -/
def Rounds (q y : ℚ) : Prop :=
  ∃ (e n : ℤ), IsPlace e q ∧ IsNearest (q / 2 ^ e) n ∧ y = n * 2 ^ e

theorem Rounds.neg {q y : ℚ} (h : Rounds q y) : Rounds (-q) (-y) := by
  obtain ⟨e, n, hplace, hnearest, rfl⟩ := h
  refine ⟨e, -n, hplace.neg, ?_, by push_cast; ring⟩
  rw [neg_div]
  exact hnearest.neg

theorem Rounds.nonneg {q y : ℚ} (h : Rounds q y) (hq : 0 ≤ q) : 0 ≤ y := by
  obtain ⟨e, n, -, hnearest, rfl⟩ := h
  have hzero : IsNearest 0 0 := by simpa using isNearest_intCast 0
  have hn : 0 ≤ n := hzero.mono hnearest (div_nonneg hq (two_zpow_pos e).le)
  exact mul_nonneg (by exact_mod_cast hn) (two_zpow_pos e).le

theorem Rounds.mono_of_nonneg {q r y z : ℚ} (hy : Rounds q y) (hz : Rounds r z) (hq : 0 ≤ q)
    (h : q ≤ r) : y ≤ z := by
  obtain ⟨e, m, hplace, hnearest, rfl⟩ := hy
  obtain ⟨f, n, hplace', hnearest', rfl⟩ := hz
  have hef : e ≤ f := hplace.mono hplace' (abs_le_abs_of_nonneg hq h)
  rcases hef.eq_or_lt with rfl | hlt
  · have hmn : m ≤ n := hnearest.mono hnearest' (div_le_div_of_nonneg_right h (two_zpow_pos e).le)
    exact mul_le_mul_of_nonneg_right (by exact_mod_cast hmn) (two_zpow_pos e).le
  · -- Between the two places lies a power of two, which is a whole number of units of either.
    have hm : m ≤ 2 ^ 53 := hplace.le_two_pow hq hnearest
    have hn : 2 ^ 52 ≤ n := (hplace'.two_pow_le (hq.trans h) hnearest').resolve_right
      (by have := hplace.least; omega)
    calc (m : ℚ) * 2 ^ e ≤ 2 ^ 53 * 2 ^ e :=
          mul_le_mul_of_nonneg_right (by exact_mod_cast hm) (two_zpow_pos e).le
      _ = 2 ^ (e + 1) * 2 ^ 52 := by rw [zpow_add₀ (by norm_num)]; ring
      _ ≤ 2 ^ f * 2 ^ 52 := mul_le_mul_of_nonneg_right
          (zpow_le_zpow_right₀ (by norm_num) (by omega)) (by norm_num)
      _ ≤ n * 2 ^ f := by
          rw [mul_comm]
          exact mul_le_mul_of_nonneg_right (by exact_mod_cast hn) (two_zpow_pos f).le

/-- Rounding keeps the order. -/
theorem Rounds.mono {q r y z : ℚ} (hy : Rounds q y) (hz : Rounds r z) (h : q ≤ r) : y ≤ z := by
  rcases le_total 0 q with hq | hq
  · exact hy.mono_of_nonneg hz hq h
  rcases le_total 0 r with hr | hr
  · have hyneg : 0 ≤ -y := hy.neg.nonneg (neg_nonneg.mpr hq)
    exact (neg_nonneg.mp hyneg).trans (hz.nonneg hr)
  · exact neg_le_neg_iff.mp (hz.neg.mono_of_nonneg hy.neg (neg_nonneg.mpr hr) (neg_le_neg h))

theorem Rounds.unique {q y z : ℚ} (hy : Rounds q y) (hz : Rounds q z) : y = z :=
  le_antisymm (hy.mono hz le_rfl) (hz.mono hy le_rfl)

/-! ## Doubles -/

/-- A number of at most 53 digits, of which the last one has a place of its own : nothing of it
is lost by rounding. -/
def IsDouble (y : ℚ) : Prop :=
  ∃ (e n : ℤ), -1074 ≤ e ∧ |n| < 2 ^ 53 ∧ (2 ^ 52 ≤ |n| ∨ e = -1074) ∧ y = n * 2 ^ e

theorem IsDouble.neg {y : ℚ} (h : IsDouble y) : IsDouble (-y) := by
  obtain ⟨e, n, he, hlt, hle, rfl⟩ := h
  exact ⟨e, -n, he, by rwa [abs_neg], by rwa [abs_neg], by push_cast; ring⟩

theorem isPlace_of_digits {e n : ℤ} (he : -1074 ≤ e) (hlt : |n| < 2 ^ 53)
    (hle : 2 ^ 52 ≤ |n| ∨ e = -1074) : IsPlace e (n * 2 ^ e) := by
  have habs : |(n : ℚ) * 2 ^ e| = (|n| : ℤ) * 2 ^ e := by
    rw [abs_mul, abs_of_pos (two_zpow_pos e), Int.cast_abs]
  refine ⟨he, ?_, hle.imp_left fun hle => ?_⟩
  · rw [habs, add_comm, zpow_add₀ (by norm_num)]
    exact mul_lt_mul_of_pos_right (by exact_mod_cast hlt) (two_zpow_pos e)
  · rw [habs, add_comm, zpow_add₀ (by norm_num)]
    exact mul_le_mul_of_nonneg_right (by exact_mod_cast hle) (two_zpow_pos e).le

theorem IsDouble.rounds {y : ℚ} (h : IsDouble y) : Rounds y y := by
  obtain ⟨e, n, he, hlt, hle, rfl⟩ := h
  refine ⟨e, n, isPlace_of_digits he hlt hle, ?_, rfl⟩
  rw [mul_div_cancel_right₀ _ (two_zpow_pos e).ne']
  exact isNearest_intCast n

/-- Rounding does not cross a double. -/
theorem Rounds.le_of_le {q y z : ℚ} (hy : Rounds q y) (hz : IsDouble z) (h : q ≤ z) : y ≤ z :=
  hy.mono hz.rounds h

theorem Rounds.ge_of_ge {q y z : ℚ} (hy : Rounds q y) (hz : IsDouble z) (h : z ≤ q) : z ≤ y :=
  hz.rounds.mono hy h

theorem Rounds.abs_le_of_abs_le {q y z : ℚ} (hy : Rounds q y) (hz : IsDouble z) (h : |q| ≤ z) :
    |y| ≤ z :=
  abs_le.mpr ⟨hy.ge_of_ge hz.neg (abs_le.mp h).1, hy.le_of_le hz (abs_le.mp h).2⟩

theorem isDouble_zero : IsDouble 0 :=
  ⟨-1074, 0, le_rfl, by norm_num, Or.inr rfl, by norm_num⟩

theorem isDouble_one : IsDouble 1 := by
  refine ⟨-52, 2 ^ 52, by norm_num, by norm_num, Or.inl (by norm_num), ?_⟩
  norm_num

/-- The greatest double. -/
def greatest : ℚ := ((2 ^ 53 - 1 : ℤ) : ℚ) * 2 ^ (971 : ℤ)

theorem one_le_greatest : 1 ≤ greatest := by
  rw [greatest]
  exact one_le_mul_of_one_le_of_one_le (by norm_num) (one_le_zpow₀ (by norm_num) (by norm_num))

theorem greatest_pos : 0 < greatest := zero_lt_one.trans_le one_le_greatest

theorem isDouble_greatest : IsDouble greatest :=
  ⟨971, 2 ^ 53 - 1, by norm_num, by norm_num, Or.inl (by norm_num), rfl⟩

theorem two_zpow_div_two (e : ℤ) : (2 : ℚ) ^ e / 2 = 2 ^ (e - 1) :=
  (zpow_sub_one₀ (by norm_num) e).symm

theorem isDouble_half_greatest : IsDouble (greatest / 2) := by
  refine ⟨970, 2 ^ 53 - 1, by norm_num, by norm_num, Or.inl (by norm_num), ?_⟩
  rw [greatest, mul_div_assoc, two_zpow_div_two]
  rfl

/-! ## Halves -/

/-- The unit of the least place. -/
def unit : ℚ := 2 ^ (-1074 : ℤ)

theorem unit_pos : 0 < unit := two_zpow_pos _

/-- Every double is a whole number of units of the least place. -/
theorem IsDouble.exists_units {y : ℚ} (h : IsDouble y) : ∃ n : ℤ, y = n * unit := by
  obtain ⟨e, n, he, -, -, rfl⟩ := h
  obtain ⟨k, hk⟩ := Int.le.dest he
  refine ⟨n * 2 ^ k, ?_⟩
  rw [← hk, zpow_add₀ (by norm_num), zpow_natCast, ← unit]
  push_cast
  ring

/-- Half of a double, rounded, loses at most one of the units that it has. -/
theorem IsDouble.half {n : ℤ} {h : ℚ} (hy : IsDouble (n * unit))
    (hhalf : Rounds (n * unit / 2) h) : ∃ a : ℤ, h = a * unit ∧ |2 * a - n| ≤ 1 := by
  obtain ⟨e, m, he, hlt, hle, hm⟩ := hy
  by_cases hleast : e = -1074
  · -- The unit is the place of the last digit, and stays it.
    obtain ⟨f, a, hplace, hnearest, rfl⟩ := hhalf
    have hplace' : IsPlace e (n * unit) := hm ▸ isPlace_of_digits he hlt hle
    have hsmaller : |(n : ℚ) * unit / 2| ≤ |n * unit| := by
      rw [abs_div, abs_two]
      exact div_le_self (abs_nonneg _) (by norm_num)
    obtain rfl : f = -1074 :=
      le_antisymm (hleast ▸ hplace.mono hplace' hsmaller) hplace.least
    refine ⟨a, rfl, ?_⟩
    have hquotient : (n : ℚ) * unit / 2 / 2 ^ (-1074 : ℤ) = n / 2 := by
      rw [← unit, div_right_comm, mul_div_cancel_right₀ _ unit_pos.ne']
    have hclose := hnearest.1
    rw [hquotient] at hclose
    have hdouble : |(2 * a - n : ℚ)| ≤ 1 := by
      rw [abs_le] at hclose ⊢
      constructor <;> linarith
    exact_mod_cast hdouble
  · -- Nothing is lost.
    have hhalfDouble : IsDouble (n * unit / 2) :=
      ⟨e - 1, m, by omega, hlt, Or.inl (hle.resolve_right hleast), by
        rw [hm, mul_div_assoc, two_zpow_div_two]⟩
    obtain ⟨a, ha⟩ := hhalfDouble.exists_units
    refine ⟨a, (hhalf.unique hhalfDouble.rounds).trans ha, ?_⟩
    have htwice : (n : ℚ) = 2 * a := by
      have := mul_right_cancel₀ unit_pos.ne' (ha.symm.trans (by rw [mul_div_right_comm]))
      linarith
    have : n = 2 * a := by exact_mod_cast htwice
    rw [this, sub_self, abs_zero]
    norm_num

/-- The rounded halves of two doubles make a number that is not outside of them. -/
theorem halves_mem {y z h k : ℚ} (hy : IsDouble y) (hz : IsDouble z) (hlt : y < z)
    (hh : Rounds (y / 2) h) (hk : Rounds (z / 2) k) : y ≤ h + k ∧ h + k ≤ z := by
  obtain ⟨m, rfl⟩ := hy.exists_units
  obtain ⟨n, rfl⟩ := hz.exists_units
  obtain ⟨a, rfl, ha⟩ := hy.half hh
  obtain ⟨b, rfl, hb⟩ := hz.half hk
  have hmn : m < n := by exact_mod_cast lt_of_mul_lt_mul_right hlt unit_pos.le
  rw [abs_le] at ha hb
  have hlow : m ≤ a + b := by omega
  have hhigh : a + b ≤ n := by omega
  rw [← add_mul]
  constructor
  · exact mul_le_mul_of_nonneg_right (by exact_mod_cast hlow) unit_pos.le
  · exact mul_le_mul_of_nonneg_right (by exact_mod_cast hhigh) unit_pos.le

end SurfaceDrift.Decimal
