import SurfaceDrift.Proofs.Decimal.Rational
import SurfaceDrift.Scaling

/-!
# Interpolation between the ends of a range

The range of finite numbers has the least and the greatest of them for its ends (`Range.spans_of?`).
A number of the range is some part of the way from one end to the other (`Range.Proper.place_spec`),
since no half of a double is so great that a difference of two of them is infinite. So there is a
number as far on the way between the ends of the target, which is clamped (`clamp_mem`), and where
the range has no width there is the middle of the target (`middle_mem`) : a number of the range
goes into the target (`Range.Proper.scale_mem`). Outside of the range nothing of this is sure.
-/

namespace SurfaceDrift.Scaling

open Decimal

/-! ## The range of some numbers -/

/-- The least and the greatest of these numbers are the ends of the range. -/
structure Range.Spans (r : Range) (xs : List Float) : Prop where
  min_mem : r.min ∈ xs
  max_mem : r.max ∈ xs
  min_le : ∀ x ∈ xs, r.min ≤ x
  le_max : ∀ x ∈ xs, x ≤ r.max

theorem min_spec {a b : Float} (ha : isFinite a = true) (hb : isFinite b = true) :
    (if a < b then a else b) ≤ a ∧ (if a < b then a else b) ≤ b := by
  split_ifs with h
  · exact ⟨le_self ha, le_of_lt ha hb h⟩
  · exact ⟨le_of_not_lt (unpack_ne_notANumber ha) (unpack_ne_notANumber hb) h, le_self hb⟩

theorem max_spec {a b : Float} (ha : isFinite a = true) (hb : isFinite b = true) :
    a ≤ (if b < a then a else b) ∧ b ≤ (if b < a then a else b) := by
  split_ifs with h
  · exact ⟨le_self ha, le_of_lt hb ha h⟩
  · exact ⟨le_of_not_lt (unpack_ne_notANumber hb) (unpack_ne_notANumber ha) h, le_self hb⟩

theorem Range.Spans.extend {r : Range} {xs : List Float} {x : Float} (h : r.Spans xs)
    (hfinite : ∀ y ∈ xs ++ [x], isFinite y = true) : (r.extend x).Spans (xs ++ [x]) := by
  have hx : isFinite x = true := hfinite x (by simp)
  have hmin : isFinite r.min = true := hfinite _ (List.mem_append_left _ h.min_mem)
  have hmax : isFinite r.max = true := hfinite _ (List.mem_append_left _ h.max_mem)
  have hleast : (r.extend x).min ∈ xs ++ [x] := by
    unfold Range.extend
    dsimp only
    split_ifs
    · exact List.mem_append_left _ h.min_mem
    · simp
  have hgreatest : (r.extend x).max ∈ xs ++ [x] := by
    unfold Range.extend
    dsimp only
    split_ifs
    · exact List.mem_append_left _ h.max_mem
    · simp
  refine ⟨hleast, hgreatest, fun y hy => ?_, fun y hy => ?_⟩
  · rcases List.mem_append.mp hy with hold | hnew
    · exact le_trans (hfinite _ hleast) hmin (hfinite y hy) (min_spec hmin hx).1 (h.min_le y hold)
    · obtain rfl := List.mem_singleton.mp hnew
      exact (min_spec hmin hx).2
  · rcases List.mem_append.mp hy with hold | hnew
    · exact le_trans (hfinite y hy) hmax (hfinite _ hgreatest) (h.le_max y hold)
        (max_spec hmax hx).1
    · obtain rfl := List.mem_singleton.mp hnew
      exact (max_spec hmax hx).2

/-- A range goes on to span what it is extended by. -/
theorem Range.Spans.foldl {r : Range} {seen rest : List Float} (h : r.Spans seen)
    (hfinite : ∀ x ∈ seen ++ rest, isFinite x = true) :
    (rest.foldl Range.extend r).Spans (seen ++ rest) := by
  induction rest generalizing seen r with
  | nil => rwa [List.append_nil]
  | cons x rest ih =>
    rw [List.append_cons] at hfinite ⊢
    exact ih (h.extend fun y hy => hfinite y (List.mem_append_left _ hy)) hfinite

/-- The range of finite numbers spans them. -/
theorem Range.spans_of? {xs : List Float} {r : Range} (h : Range.of? xs = some r)
    (hfinite : ∀ x ∈ xs, isFinite x = true) : r.Spans xs := by
  cases xs with
  | nil => cases h
  | cons first rest =>
    obtain rfl := Option.some.inj h
    have hself := le_self (hfinite first List.mem_cons_self)
    have hfirst : Range.Spans ⟨first, first⟩ [first] :=
      ⟨List.mem_cons_self, List.mem_cons_self, by simpa using hself, by simpa using hself⟩
    exact hfirst.foldl hfinite

/-- The ends of the range are finite, and in order. -/
structure Range.Proper (r : Range) : Prop where
  min_finite : isFinite r.min = true
  max_finite : isFinite r.max = true
  min_le_max : r.min ≤ r.max

theorem Range.Spans.proper {r : Range} {xs : List Float} (h : r.Spans xs)
    (hfinite : ∀ x ∈ xs, isFinite x = true) : r.Proper :=
  ⟨hfinite _ h.min_mem, hfinite _ h.max_mem, h.min_le _ h.max_mem⟩

theorem Range.holds_iff {r : Range} {x : Float} : r.holds x = true ↔ r.min ≤ x ∧ x ≤ r.max := by
  rw [Range.holds, Bool.and_eq_true, decide_eq_true_iff, decide_eq_true_iff]

/-! ## Clamping -/

/-- What is clamped between two finite ends lies between them, unless it is no number. -/
theorem clamp_mem {lo hi x : Float} (hlo : isFinite lo = true) (hhi : isFinite hi = true)
    (hle : lo ≤ hi) (hx : x.toModel.unpack ≠ .notANumber) :
    lo ≤ clamp lo hi x ∧ clamp lo hi x ≤ hi := by
  have hlo' := unpack_ne_notANumber hlo
  have hhi' := unpack_ne_notANumber hhi
  have hraised : lo ≤ (if x < lo then lo else x) ∧
      (if x < lo then lo else x).toModel.unpack ≠ .notANumber := by
    split_ifs with h
    · exact ⟨le_self hlo, hlo'⟩
    · exact ⟨le_of_not_lt hx hlo' h, hx⟩
  unfold clamp
  dsimp only
  generalize (if x < lo then lo else x) = raised at hraised ⊢
  split_ifs with h
  · exact ⟨hle, le_self hhi⟩
  · exact ⟨hraised.1, le_of_not_lt hhi' hraised.2 h⟩

/-! ## Interpolation -/

/-- How far `x` is on the way from the least to the greatest number of the range. -/
def Range.place (source : Range) (x : Float) : Float :=
  (x / 2.0 - source.min / 2.0) / source.halfWidth

/-- The number between the ends of the target that is as far on the way as `x` is. -/
def Range.interpolate (source : Range) (lo hi x : Float) : Float :=
  lo * (1.0 - source.place x) + hi * source.place x

theorem scale_eq (source : Range) (lo hi x : Float) : scale source lo hi x =
    if source.halfWidth == 0.0 then lo / 2.0 + hi / 2.0
    else if source.holds x then clamp lo hi (source.interpolate lo hi x)
    else source.interpolate lo hi x :=
  rfl

/-- The halves of two doubles in order have a difference that is finite and not negative. -/
theorem sub_halves_spec {x y : Float} (hx : isFinite x = true) (hy : isFinite y = true)
    (hle : x ≤ y) : isFinite (y / 2.0 - x / 2.0) = true ∧
      Rounds (rational (y / 2.0) - rational (x / 2.0)) (rational (y / 2.0 - x / 2.0)) ∧
        0 ≤ rational (y / 2.0 - x / 2.0) := by
  obtain ⟨hxhalf, hxrounds, hxle⟩ := half_spec hx
  obtain ⟨hyhalf, hyrounds, hyle⟩ := half_spec hy
  have hhalves : rational (x / 2.0) ≤ rational (y / 2.0) :=
    hxrounds.mono hyrounds (div_le_div_of_nonneg_right ((le_iff_rational hx hy).mp hle) zero_le_two)
  have hdifference : |rational (y / 2.0) - rational (x / 2.0)| ≤ greatest := by
    rw [abs_le] at hxle hyle ⊢
    constructor <;> linarith
  obtain ⟨hfinite, hrounds⟩ := sub_spec_of_le hyhalf hxhalf hdifference
  exact ⟨hfinite, hrounds, hrounds.nonneg (sub_nonneg.mpr hhalves)⟩

/-- A number of the range has its place between zero and one. -/
theorem Range.Proper.place_spec {r : Range} (h : r.Proper) {x : Float} (hx : isFinite x = true)
    (hholds : r.holds x = true) (hwidth : (r.halfWidth == 0.0) = false) :
    isFinite (r.place x) = true ∧ 0 ≤ rational (r.place x) ∧ rational (r.place x) ≤ 1 := by
  obtain ⟨hmin, hmax⟩ := Range.holds_iff.mp hholds
  obtain ⟨hoffset, hoffsetRounds, hoffsetNonneg⟩ := sub_halves_spec h.min_finite hx hmin
  obtain ⟨hfinite, hrounds, hnonneg⟩ := sub_halves_spec h.min_finite h.max_finite h.min_le_max
  rw [← Range.halfWidth] at hfinite hrounds hnonneg
  have hhalves : rational (x / 2.0) ≤ rational (r.max / 2.0) :=
    (half_spec hx).2.1.mono (half_spec h.max_finite).2.1
      (div_le_div_of_nonneg_right ((le_iff_rational hx h.max_finite).mp hmax) zero_le_two)
  have hle : rational (x / 2.0 - r.min / 2.0) ≤ rational r.halfWidth :=
    hoffsetRounds.mono hrounds (sub_le_sub_right hhalves _)
  have hne : rational r.halfWidth ≠ 0 := fun hzero => by
    have := (beq_iff_rational hfinite (y := 0.0) (by decide)).mpr (hzero.trans rational_zero.symm)
    rw [hwidth] at this
    cases this
  have hquotient : 0 ≤ rational (x / 2.0 - r.min / 2.0) / rational r.halfWidth ∧
      rational (x / 2.0 - r.min / 2.0) / rational r.halfWidth ≤ 1 :=
    ⟨div_nonneg hoffsetNonneg hnonneg, div_le_one_of_le₀ hle hnonneg⟩
  have hsmall : |rational (x / 2.0 - r.min / 2.0) / rational r.halfWidth| ≤ greatest := by
    rw [abs_of_nonneg hquotient.1]
    exact hquotient.2.trans one_le_greatest
  obtain ⟨hplace, hplaceRounds⟩ := div_spec_of_le hoffset hfinite hne hsmall
  exact ⟨hplace, hplaceRounds.nonneg hquotient.1, hplaceRounds.le_of_le isDouble_one hquotient.2⟩

theorem isFinite_mul {x t : Float} (hx : isFinite x = true) (ht : isFinite t = true)
    (hnonneg : 0 ≤ rational t) (hle : rational t ≤ 1) : isFinite (x * t) = true := by
  refine (mul_spec_of_le hx ht ?_).1
  rw [abs_mul, abs_of_nonneg hnonneg]
  exact (mul_le_of_le_one_right (abs_nonneg _) hle).trans (abs_rational_le hx)

/-- A number of the source range has a number to it in the target, if perhaps an infinite one. -/
theorem Range.Proper.interpolate_ne_notANumber {r : Range} (h : r.Proper) {lo hi x : Float}
    (hlo : isFinite lo = true) (hhi : isFinite hi = true) (hx : isFinite x = true)
    (hholds : r.holds x = true) (hwidth : (r.halfWidth == 0.0) = false) :
    (r.interpolate lo hi x).toModel.unpack ≠ .notANumber := by
  obtain ⟨hplace, hnonneg, hle⟩ := h.place_spec hx hholds hwidth
  unfold Range.interpolate
  generalize r.place x = t at hplace hnonneg hle ⊢
  have hrest : isFinite (1.0 - t) = true ∧ 0 ≤ rational (1.0 - t) ∧ rational (1.0 - t) ≤ 1 := by
    obtain ⟨hfinite, hrounds⟩ := sub_spec_of_le (x := 1.0) (by decide) hplace (by
      rw [rational_one, abs_of_nonneg (sub_nonneg.mpr hle)]
      exact (sub_le_self 1 hnonneg).trans one_le_greatest)
    rw [rational_one] at hrounds
    exact ⟨hfinite, hrounds.nonneg (sub_nonneg.mpr hle),
      hrounds.le_of_le isDouble_one (sub_le_self 1 hnonneg)⟩
  exact add_ne_notANumber (isFinite_mul hlo hrest.1 hrest.2.1 hrest.2.2)
    (isFinite_mul hhi hplace hnonneg hle)

/-- The middle of the target lies in it. -/
theorem middle_mem {lo hi : Float} (hlo : isFinite lo = true) (hhi : isFinite hi = true)
    (hlt : lo < hi) : lo ≤ lo / 2.0 + hi / 2.0 ∧ lo / 2.0 + hi / 2.0 ≤ hi := by
  obtain ⟨hlohalf, hlorounds, -⟩ := half_spec hlo
  obtain ⟨hhihalf, hhirounds, -⟩ := half_spec hhi
  have hmem := halves_mem (isDouble_rational hlo) (isDouble_rational hhi)
    ((lt_iff_rational hlo hhi).mp hlt) hlorounds hhirounds
  have hsum : |rational (lo / 2.0) + rational (hi / 2.0)| ≤ greatest :=
    abs_le.mpr ⟨(abs_le.mp (abs_rational_le hlo)).1.trans hmem.1,
      hmem.2.trans (abs_le.mp (abs_rational_le hhi)).2⟩
  obtain ⟨hfinite, hrounds⟩ := add_spec_of_le hlohalf hhihalf hsum
  exact ⟨(le_iff_rational hlo hfinite).mpr (hrounds.ge_of_ge (isDouble_rational hlo) hmem.1),
    (le_iff_rational hfinite hhi).mpr (hrounds.le_of_le (isDouble_rational hhi) hmem.2)⟩

/-- A number of the source range goes into the target. -/
theorem Range.Proper.scale_mem {r : Range} (h : r.Proper) {lo hi x : Float}
    (hlo : isFinite lo = true) (hhi : isFinite hi = true) (hlt : lo < hi)
    (hx : isFinite x = true) (hholds : r.holds x = true) :
    lo ≤ scale r lo hi x ∧ scale r lo hi x ≤ hi := by
  rw [scale_eq, if_pos hholds]
  split_ifs with hwidth
  · exact middle_mem hlo hhi hlt
  · exact clamp_mem hlo hhi (le_of_lt hlo hhi hlt)
      (h.interpolate_ne_notANumber hlo hhi hx hholds (Bool.eq_false_iff.mpr hwidth))

end SurfaceDrift.Scaling
