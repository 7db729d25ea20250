import Mathlib
import SurfaceDrift.Cluster.Point

/-!
# Squares of differences

The two differences of doubles are alike up to their sign (`magnitude_sub_comm`) : the exact
differences are opposite, and rounding looks at their magnitude. Writing bits and reading them
back keeps that (`magnitude_unpack_pack_magnitude`), and a square forgets the sign
(`mul_self_eq_of_magnitude`). So the two squares are the same double (`square_sub_comm`), and
the distance between two vectors is the same from either end (`Point.euclidean_comm`).
-/

namespace SurfaceDrift

namespace Decimal

open Float.Model Float.Model.UnpackedFloat

/-- The same number without its sign. -/
def magnitude : UnpackedFloat → UnpackedFloat
  | .infinity _ => .infinity .positive
  | .notANumber => .notANumber
  | .zero _ => .zero .positive
  | .finite _ m e h => .finite .positive m e h

/-! ## Differences -/

theorem magnitude_round (spec : Format) (s t : Sign) (m : Nat) (e : Int) :
    magnitude (UnpackedFloat.round spec s m e) = magnitude (UnpackedFloat.round spec t m e) := by
  unfold UnpackedFloat.round roundWithAccuracy
  dsimp only
  split <;> rfl

/-- Opposite integers are rounded to numbers of one magnitude. -/
theorem magnitude_normalize_neg (spec : Format) (m e : Int) (s : Sign) :
    magnitude (UnpackedFloat.normalize spec (-m) e s) =
      magnitude (UnpackedFloat.normalize spec m e s) := by
  rcases Int.lt_trichotomy m 0 with hneg | rfl | hpos
  · have hm : compare m 0 = .lt := Int.compare_eq_lt.mpr hneg
    have hopposite : compare (-m) 0 = .gt := Int.compare_eq_gt.mpr (by omega)
    simp only [UnpackedFloat.normalize, hm, hopposite]
    exact magnitude_round spec _ _ _ e
  · rfl
  · have hm : compare m 0 = .gt := Int.compare_eq_gt.mpr hpos
    have hopposite : compare (-m) 0 = .lt := Int.compare_eq_lt.mpr (by omega)
    simp only [UnpackedFloat.normalize, hm, hopposite, Int.neg_neg]
    exact magnitude_round spec _ _ _ e

theorem magnitude_sub_comm (spec : Format) (a b : UnpackedFloat) :
    magnitude (UnpackedFloat.sub spec a b) = magnitude (UnpackedFloat.sub spec b a) := by
  -- Two finite numbers are the one case in which anything is rounded.
  rcases a with ⟨_ | _⟩ | _ | ⟨_ | _⟩ | ⟨s, m, e, hm⟩ <;>
    rcases b with ⟨_ | _⟩ | _ | ⟨_ | _⟩ | ⟨t, n, f, hn⟩ <;>
    try rfl
  simp only [UnpackedFloat.sub, Int.min_comm f e]
  rw [← magnitude_normalize_neg, Int.neg_sub]

/-! ## Bits -/

/-- The sign's bit is read as the sign and nothing else. -/
theorem magnitude_unpack_packComponents (spec : Format) (s t : Sign)
    (e : BitVec spec.exponentBits) (m : BitVec spec.mantissaBitsWithoutImplicit) :
    magnitude (UnpackedFloat.unpack spec (packComponents spec s e m)) =
      magnitude (UnpackedFloat.unpack spec (packComponents spec t e m)) := by
  unfold UnpackedFloat.unpack
  simp only [unpackExponent_packComponents, unpackMantissa_packComponents]
  split
  · split <;> rfl
  · split
    · split <;> rfl
    · rfl

/-- What is read back from the bits of a number has a magnitude that its sign is no part of. -/
theorem magnitude_unpack_pack_magnitude (spec : Format) (u : UnpackedFloat) :
    magnitude (UnpackedFloat.unpack spec (UnpackedFloat.pack spec (magnitude u))) =
      magnitude (UnpackedFloat.unpack spec (UnpackedFloat.pack spec u)) := by
  cases u with
  | notANumber => rfl
  | infinity s => exact magnitude_unpack_packComponents spec _ _ _ _
  | zero s => exact magnitude_unpack_packComponents spec _ _ _ _
  | finite s m e hm =>
    rw [magnitude, UnpackedFloat.pack, UnpackedFloat.pack]
    split_ifs
    · exact magnitude_unpack_packComponents spec _ _ _ _
    · exact magnitude_unpack_packComponents spec _ _ _ _
    · exact magnitude_unpack_packComponents spec _ _ _ _

/-! ## Squares -/

theorem mul_self_eq_of_magnitude {spec : Format} {u v : UnpackedFloat}
    (h : magnitude u = magnitude v) :
    UnpackedFloat.mul spec u u = UnpackedFloat.mul spec v v := by
  have hself : ∀ w, UnpackedFloat.mul spec w w =
      UnpackedFloat.mul spec (magnitude w) (magnitude w) := by
    rintro (⟨_ | _⟩ | _ | ⟨_ | _⟩ | ⟨_ | _, m, e, hm⟩) <;> rfl
  rw [hself u, hself v, h]

theorem square_sub_comm (x y : Float) : (x - y) * (x - y) = (y - x) * (y - x) := by
  have hsub : magnitude (x - y).toModel.unpack = magnitude (y - x).toModel.unpack := by
    show magnitude (UnpackedFloat.unpack _ (UnpackedFloat.pack _ (UnpackedFloat.sub _ _ _))) =
      magnitude (UnpackedFloat.unpack _ (UnpackedFloat.pack _ (UnpackedFloat.sub _ _ _)))
    rw [← magnitude_unpack_pack_magnitude, magnitude_sub_comm, magnitude_unpack_pack_magnitude]
  exact congrArg (fun u => Float.ofModel (Float.Model.pack u)) (mul_self_eq_of_magnitude hsub)

end Decimal

theorem Point.euclidean_comm (a b : List Float) : euclidean a b = euclidean b a := by
  have hsquares : List.zipWith (fun x y => (x - y) * (x - y)) a b =
      List.zipWith (fun x y => (x - y) * (x - y)) b a := by
    rw [List.zipWith_comm]
    exact congrArg (fun f => List.zipWith f b a)
      (funext fun y => funext fun x => Decimal.square_sub_comm x y)
  rw [euclidean, hsquares, euclidean]

end SurfaceDrift
