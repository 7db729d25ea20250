import Mathlib.Order.Compare
import SurfaceDrift.Decimal.Double

/-!
# The order of finite doubles

Two doubles of which neither is no number compare, and the other way round with the opposite
answer (`compare_swap`). A finite double is no such exception, so that of two finite doubles
one is at most the other (`le_of_not_le`). A quotient of zero is a zero of either sign or no
number, so that what is at least zero is at least such a quotient (`zero_div_le`).
-/

namespace SurfaceDrift.Decimal

open Float.Model

/-- Two magnitudes compare the other way round with the opposite answer. -/
theorem compare_then_swap (e f : Int) (m n : Nat) :
    (Ord.compare f e).then (Ord.compare n m) =
      ((Ord.compare e f).then (Ord.compare m n)).swap := by
  rw [Ordering.swap_then, Int.compare_swap, Nat.compare_swap]

/-- The other way round, the opposite answer. -/
theorem compare_swap (a b : UnpackedFloat) :
    b.compare a = (a.compare b).map Ordering.swap := by
  -- The magnitudes count for two finite numbers of one sign only.
  rcases a with ⟨_ | _⟩ | _ | _ | ⟨_ | _, m, e, _⟩ <;>
    rcases b with ⟨_ | _⟩ | _ | _ | ⟨_ | _, n, f, _⟩ <;>
    first
      | rfl
      | exact congrArg some (compare_then_swap e f m n)
      | exact congrArg (some ·.swap) (compare_then_swap e f m n)

/-- Only what is no number does not compare. -/
theorem exists_compare_eq {a b : UnpackedFloat} (ha : a ≠ .notANumber) (hb : b ≠ .notANumber) :
    ∃ o, a.compare b = some o := by
  rcases a with ⟨_ | _⟩ | _ | _ | ⟨_ | _, m, e, _⟩ <;>
    rcases b with ⟨_ | _⟩ | _ | _ | ⟨_ | _, n, f, _⟩ <;>
    first
      | exact absurd rfl ha
      | exact absurd rfl hb
      | exact ⟨_, rfl⟩

/-- The exponent's bits of a finite double are not all set. -/
theorem exponent_ne_of_isFinite {x : Float} (h : isFinite x = true) :
    x.toBits.toNat / twoTo 52 % 2048 ≠ 2047 := by
  intro hbits
  rw [isFinite, Reading.of] at h
  simp only [if_pos hbits] at h
  split_ifs at h

theorem unpackExponent_ne_of_isFinite {x : Float} (h : isFinite x = true) :
    @UnpackedFloat.unpackExponent Format.binary64 x.toModel.toBits.toBitVec ≠ -1#_ := by
  intro hexponent
  have hall := congrArg BitVec.toNat hexponent
  rw [UnpackedFloat.unpackExponent, BitVec.toNat_cast, BitVec.extractLsb_toNat,
    Nat.shiftRight_eq_div_pow] at hall
  exact exponent_ne_of_isFinite h hall

theorem unpack_ne_notANumber {x : Float} (h : isFinite x = true) :
    x.toModel.unpack ≠ .notANumber := by
  have hexponent := unpackExponent_ne_of_isFinite h
  unfold Float.Model.unpack UnpackedFloat.unpack
  dsimp only
  rw [if_neg hexponent]
  by_cases hzero : @UnpackedFloat.unpackExponent Format.binary64 x.toModel.toBits.toBitVec = 0#_
  · rw [if_pos hzero]
    by_cases hmantissa :
        @UnpackedFloat.unpackMantissa Format.binary64 x.toModel.toBits.toBitVec = 0#_
    · rw [dif_pos hmantissa]
      exact nofun
    · rw [dif_neg hmantissa]
      exact nofun
  · rw [if_neg hzero]
    exact nofun

theorem le_iff_compare {x y : Float} :
    x ≤ y ↔ (x.toModel.unpack.compare y.toModel.unpack).any Ordering.isLE = true :=
  decide_eq_true_iff

theorem lt_iff_compare {x y : Float} :
    x < y ↔ x.toModel.unpack.compare y.toModel.unpack = some .lt :=
  decide_eq_true_iff.trans beq_iff_eq

theorem beq_iff_compare {x y : Float} :
    (x == y) = true ↔ x.toModel.unpack.compare y.toModel.unpack = some .eq := by
  show ((x.toModel.unpack.compare y.toModel.unpack) == some .eq) = true ↔ _
  exact beq_iff_eq

/-- What is not less than a number is at least it, unless one of them is no number. -/
theorem le_of_not_lt {x y : Float} (hx : x.toModel.unpack ≠ .notANumber)
    (hy : y.toModel.unpack ≠ .notANumber) (h : ¬ x < y) : y ≤ x := by
  obtain ⟨o, ho⟩ := exists_compare_eq hx hy
  rw [lt_iff_compare, ho, Option.some_inj] at h
  rw [le_iff_compare, compare_swap, ho]
  cases o with
  | lt => exact absurd rfl h
  | eq => rfl
  | gt => rfl

/-- Of two finite doubles one is at most the other. -/
theorem le_of_not_le {x y : Float} (hx : isFinite x = true) (hy : isFinite y = true)
    (h : ¬ y ≤ x) : x ≤ y := by
  obtain ⟨o, ho⟩ := exists_compare_eq (unpack_ne_notANumber hx) (unpack_ne_notANumber hy)
  rw [le_iff_compare, compare_swap, ho] at h
  rw [le_iff_compare, ho]
  cases o with
  | lt => rfl
  | eq => rfl
  | gt => exact absurd rfl h

/-! ## Quotients of zero -/

/-- A quotient of zero is a zero, unless it is no number. -/
theorem zero_div_eq {x : Float} (h : isFinite (0.0 / x) = true) :
    0.0 / x = 0.0 ∨ 0.0 / x = -0.0 := by
  have hquotient : 0.0 / x =
      ⟨pack (UnpackedFloat.div Format.binary64 (.zero .positive) x.toModel.unpack)⟩ := rfl
  rw [hquotient] at h ⊢
  generalize x.toModel.unpack = u at h ⊢
  cases u with
  | infinity sign | finite sign =>
    cases sign with
    | positive => exact Or.inl rfl
    | negative => exact Or.inr rfl
  | notANumber => exact absurd h (by decide)
  | zero sign => cases sign <;> exact absurd h (by decide)

/-- What is at least zero is at least the other zero. -/
theorem neg_zero_le {y : Float} (h : 0.0 ≤ y) : -0.0 ≤ y := by
  have hpositive : (0.0 : Float).toModel.unpack = .zero .positive := rfl
  have hnegative : (-0.0 : Float).toModel.unpack = .zero .negative := rfl
  rw [le_iff_compare, hpositive] at h
  rw [le_iff_compare, hnegative]
  generalize y.toModel.unpack = u at h ⊢
  cases u with
  | infinity sign | zero sign | finite sign => cases sign <;> exact h
  | notANumber => exact h

/-- A quotient of zero that is a number is at most any double from zero on. -/
theorem zero_div_le {x y : Float} (h : isFinite (0.0 / x) = true) (hy : 0.0 ≤ y) :
    0.0 / x ≤ y := by
  rcases zero_div_eq h with heq | heq
  · rwa [heq]
  · rw [heq]
    exact neg_zero_le hy

end SurfaceDrift.Decimal
