import SurfaceDrift.Proofs.Builtin.Answers
import SurfaceDrift.Proofs.Document.Leaves
import SurfaceDrift.Proofs.Scaling.Interpolation

/-!
# Scaled documents

Scaling visits the leaves that the ranges were taken from, and no others : each document becomes
itself with other leaves in the places of its numbers (`transform_rewritten`). The numbers that a
range was taken from go into the target, so that data scaled after a fit to itself has numbers of
the target in all these places (`fitTransform_mem_target`).

Other data may lie beyond the range that it is scaled from. There the number in the place of a leaf
need not be a double, and then the leaf is null. Nothing else becomes null
(`transform_keeps_numbers`).
-/

namespace SurfaceDrift.Scaling

open Decimal

/-! ## The source of a document -/

/-- The range that the numbers of a document are moved from. -/
def source (p : Params) (global : Range) (d : Document) : Range :=
  if p.perStructure then (Range.of? d.numbers).getD global else global

theorem scaleDocument_eq {p : Params} (h : p.lo ≤ p.hi) (global : Range) (d : Document) :
    scaleDocument p global d = .ok (d.mapNumbers (scale (source p global d) p.lo p.hi)) := by
  unfold scaleDocument source
  split_ifs
  · cases hrange : Range.of? d.numbers with
    | some range => exact rescale_of_le h range d
    | none =>
      have hempty : d.numbers = [] := by
        cases hnumbers : d.numbers with
        | nil => rfl
        | cons x rest => rw [hnumbers] at hrange; cases hrange
      exact congrArg Except.ok (Document.mapNumbers_eq_self _ hempty).symm
  · exact rescale_of_le h global d

/-- Every leaf is scaled from the source of its document, and all else stays. -/
theorem transform_rewritten {p : Params} (h : p.lo ≤ p.hi) (global : Range)
    {data : List Document} {R : Number → Document → Prop}
    (hleaf : ∀ d ∈ data, ∀ n : Number, n.toFloat ∈ d.numbers →
      R n (.ofFloat (scale (source p global d) p.lo p.hi n.toFloat))) :
    ∃ scaled, transform p (some global) data = .ok (.list scaled) ∧
      List.Forall₂ (Document.Rewritten R) data scaled := by
  have hscaled : data.mapM (scaleDocument p global) =
      .ok (data.map fun d => d.mapNumbers (scale (source p global d) p.lo p.hi)) := by
    rw [mapM_eq_ok_iff, List.forall₂_map_right_iff, List.forall₂_same]
    exact fun d _ => scaleDocument_eq h global d
  refine ⟨_, by rw [transform, hscaled], ?_⟩
  rw [List.forall₂_map_right_iff, List.forall₂_same]
  exact fun d hd => Document.rewritten_mapNumbers _ d (hleaf d hd)

theorem exists_of? {xs : List Float} (h : xs ≠ []) : ∃ r, Range.of? xs = some r := by
  cases xs with
  | nil => exact absurd rfl h
  | cons x rest => exact ⟨_, rfl⟩

/-- The numbers of a document that is scaled by itself are in its range. -/
theorem holds_source {p : Params} (hp : p.perStructure = true) (global : Range) {d : Document}
    (hd : d.Writable) {x : Float} (hx : x ∈ d.numbers) :
    (source p global d).Proper ∧ (source p global d).holds x = true := by
  have hfinite := Document.isFinite_of_mem_numbers hd
  obtain ⟨range, hrange⟩ := exists_of? (List.ne_nil_of_mem hx)
  have hspans := Range.spans_of? hrange hfinite
  rw [source, if_pos hp, hrange, Option.getD_some]
  exact ⟨hspans.proper hfinite, Range.holds_iff.mpr ⟨hspans.min_le x hx, hspans.le_max x hx⟩⟩

/-- The range that is fitted spans the numbers of all documents. -/
theorem spans_of_fit {data : List Document} (hdata : ∀ d ∈ data, d.Writable) {global : Range}
    (h : fit data = .ok global) :
    global.Proper ∧ ∀ d ∈ data, ∀ x ∈ d.numbers, global.holds x = true := by
  have hfinite : ∀ x ∈ data.flatMap Document.numbers, isFinite x = true := fun x hx => by
    obtain ⟨d, hd, hx⟩ := List.mem_flatMap.mp hx
    exact Document.isFinite_of_mem_numbers (hdata d hd) x hx
  unfold fit at h
  split at h
  · next range hrange =>
    obtain rfl := Except.ok.inj h
    have hspans := Range.spans_of? hrange hfinite
    refine ⟨hspans.proper hfinite, fun d hd x hx => ?_⟩
    have hmem : x ∈ data.flatMap Document.numbers := List.mem_flatMap.mpr ⟨d, hd, hx⟩
    exact Range.holds_iff.mpr ⟨hspans.min_le x hmem, hspans.le_max x hmem⟩
  · cases h

theorem exists_fit {data : List Document} (h : ∃ d ∈ data, d.numbers ≠ []) :
    ∃ global, fit data = .ok global := by
  obtain ⟨d, hd, hnumbers⟩ := h
  have hsome : data.flatMap Document.numbers ≠ [] := fun hnil =>
    hnumbers (List.flatMap_eq_nil_iff.mp hnil d hd)
  obtain ⟨global, hglobal⟩ := exists_of? hsome
  exact ⟨global, by rw [fit, hglobal]⟩

/-! ## Scaled to its own numbers -/

theorem ofFloat_of_mem {lo hi x : Float} (hlo : isFinite lo = true) (hhi : isFinite hi = true)
    (hx : lo ≤ x ∧ x ≤ hi) : Document.ofFloat x = .number (.double x) := by
  rw [Document.ofFloat, if_pos (isFinite_of_mem hlo hhi hx.1 hx.2)]

/-- Data with a number in it is scaled into the target, leaf by leaf, and is else as before. -/
theorem fitTransform_mem_target {given : SurfaceDrift.Params} {p : Params}
    (hp : Params.of given = .ok p) {data : List Document} (hdata : ∀ d ∈ data, d.Writable)
    (hnumber : ∃ d ∈ data, d.numbers ≠ []) :
    ∃ scaled, (learner p).fitTransform data = .ok (.list scaled) ∧
      List.Forall₂ (Document.Rewritten fun _ d' =>
        ∃ x, d' = .number (.double x) ∧ p.lo ≤ x ∧ x ≤ p.hi) data scaled := by
  obtain ⟨hlo, hhi, hempty⟩ := target_of_paramsOf hp
  obtain ⟨global, hfit⟩ := exists_fit hnumber
  obtain ⟨hproper, hholds⟩ := spans_of_fit hdata hfit
  rw [Learner.fitTransform_of_remember rfl, hfit]
  refine transform_rewritten (lo_le_hi_of_paramsOf hp) global fun d hd n hn => ?_
  have hsource : (source p global d).Proper ∧ (source p global d).holds n.toFloat = true := by
    cases hmode : p.perStructure with
    | true => exact holds_source hmode global (hdata d hd) hn
    | false =>
      rw [source, hmode, if_neg Bool.false_ne_true]
      exact ⟨hproper, hholds d hd _ hn⟩
  have hmem := hsource.1.scale_mem hlo hhi (lt_of_not_le hlo hhi hempty)
    (Document.isFinite_of_mem_numbers (hdata d hd) _ hn) hsource.2
  exact ⟨_, ofFloat_of_mem hlo hhi hmem, hmem⟩

/-- Two documents, of which one has two numbers. -/
def mixed : List Document := [.object [("a", .ofInt 1), ("b", .list [.text "x", .ofInt 3])], .null]

theorem fitTransform_mem_target_mixed :
    Params.of [] = .ok ⟨0.0, 1.0, true⟩ ∧ (∀ d ∈ mixed, d.Writable) ∧
      (∃ d ∈ mixed, d.numbers ≠ []) ∧
      ∃ scaled, (learner ⟨0.0, 1.0, true⟩).fitTransform mixed = .ok (.list scaled) ∧
        List.Forall₂ (Document.Rewritten fun _ d' =>
          ∃ x, d' = .number (.double x) ∧ 0.0 ≤ x ∧ x ≤ 1.0) mixed scaled := by
  have hparams : Params.of [] = .ok ⟨0.0, 1.0, true⟩ := rfl
  have hwritable : ∀ d ∈ mixed, d.Writable := by
    refine List.forall_mem_cons.mpr ⟨.object ?_, List.forall_mem_singleton.mpr .null⟩
    refine List.forall_mem_cons.mpr ⟨Document.writable_ofInt (by decide), ?_⟩
    refine List.forall_mem_singleton.mpr (.list (List.forall_mem_cons.mpr ⟨.text "x", ?_⟩))
    exact List.forall_mem_singleton.mpr (Document.writable_ofInt (by decide))
  have hnumber : ∃ d ∈ mixed, d.numbers ≠ [] := ⟨_, List.mem_cons_self, List.cons_ne_nil _ _⟩
  exact ⟨hparams, hwritable, hnumber, fitTransform_mem_target hparams hwritable hnumber⟩

/-! ## Scaled to other numbers -/

/-- The number is beyond the range that is shared by all documents, so far that the number in its
place beyond the target is not finite. -/
structure Params.Loses (p : Params) (global : Range) (x : Float) : Prop where
  shared : p.perStructure = false
  outside : global.holds x = false
  wide : (global.halfWidth == 0.0) = false
  beyond : isFinite (global.interpolate p.lo p.hi x) = false

/-- A leaf is null exactly if its number is lost. -/
theorem ofFloat_scale {given : SurfaceDrift.Params} {p : Params} (hp : Params.of given = .ok p)
    {global : Range} (hglobal : global.Proper) {d : Document} (hd : d.Writable) {x : Float}
    (hx : x ∈ d.numbers) :
    (p.Loses global x ∧ Document.ofFloat (scale (source p global d) p.lo p.hi x) = .null) ∨
      ¬ p.Loses global x ∧
        ∃ y, Document.ofFloat (scale (source p global d) p.lo p.hi x) = .number (.double y) := by
  obtain ⟨hlo, hhi, hempty⟩ := target_of_paramsOf hp
  have hlt := lt_of_not_le hlo hhi hempty
  have hfinite := Document.isFinite_of_mem_numbers hd x hx
  cases hmode : p.perStructure with
  | true =>
    obtain ⟨hproper, hholds⟩ := holds_source hmode global hd hx
    exact Or.inr ⟨fun hloses => Bool.false_ne_true (hloses.shared.symm.trans hmode), _,
      ofFloat_of_mem hlo hhi (hproper.scale_mem hlo hhi hlt hfinite hholds)⟩
  | false =>
    rw [source, hmode, if_neg Bool.false_ne_true]
    by_cases hholds : global.holds x = true
    · exact Or.inr ⟨fun hloses => Bool.false_ne_true (hloses.outside.symm.trans hholds), _,
        ofFloat_of_mem hlo hhi (hglobal.scale_mem hlo hhi hlt hfinite hholds)⟩
    by_cases hwidth : (global.halfWidth == 0.0) = true
    · rw [scale_eq, if_pos hwidth]
      exact Or.inr ⟨fun hloses => Bool.false_ne_true (hloses.wide.symm.trans hwidth), _,
        ofFloat_of_mem hlo hhi (middle_mem hlo hhi hlt)⟩
    rw [scale_eq, if_neg hwidth, if_neg hholds, Document.ofFloat]
    by_cases hbeyond : isFinite (global.interpolate p.lo p.hi x) = true
    · rw [if_pos hbeyond]
      exact Or.inr ⟨fun hloses => Bool.false_ne_true (hloses.beyond.symm.trans hbeyond), _, rfl⟩
    · rw [if_neg hbeyond]
      exact Or.inl ⟨⟨hmode, Bool.eq_false_iff.mpr hholds, Bool.eq_false_iff.mpr hwidth,
        Bool.eq_false_iff.mpr hbeyond⟩, rfl⟩

/-- What was fitted scales all data into documents of the same shape, in which a leaf is null
exactly if its number is lost, and else is a number. -/
theorem transform_keeps_numbers {given : SurfaceDrift.Params} {p : Params}
    (hp : Params.of given = .ok p) {fitted : List Document} (hfitted : ∀ d ∈ fitted, d.Writable)
    {state after : Option Range} (hfit : (learner p).fit fitted state = (.ok (), after))
    {data : List Document} (hdata : ∀ d ∈ data, d.Writable) :
    ∃ global, after = some global ∧
      ∃ scaled, (learner p).transform after data = .ok (.list scaled) ∧
        List.Forall₂ (Document.Rewritten fun n d' =>
          (p.Loses global n.toFloat ∧ d' = .null) ∨
            ¬ p.Loses global n.toFloat ∧ ∃ x, d' = .number (.double x)) data scaled := by
  have hlearned : (learner p).fit fitted state =
      Learner.remember ((fit fitted).mapError .error) state := rfl
  rw [hlearned] at hfit
  cases hglobal : fit fitted with
  | error e =>
    rw [hglobal] at hfit
    cases hfit
  | ok global =>
    rw [hglobal] at hfit
    obtain rfl : some global = after := (Prod.mk.inj hfit).2
    exact ⟨global, rfl, transform_rewritten (lo_le_hi_of_paramsOf hp) global fun d hd n hn =>
      ofFloat_scale hp (spans_of_fit hfitted hglobal).1 (hdata d hd) hn⟩

/-- A target near the greatest double, for all documents together. -/
def nearGreatest : Params :=
  ⟨Float.ofBits 0x7FE0000000000000, Float.ofBits 0x7FE8000000000000, false⟩

/-- Its spelling. -/
def nearGreatestParams : SurfaceDrift.Params :=
  [("feature_range", .list [.ofFloat nearGreatest.lo, .ofFloat nearGreatest.hi]),
    ("per_structure", .bool false)]

theorem transform_keeps_numbers_nearGreatest :
    Params.of nearGreatestParams = .ok nearGreatest ∧
      (learner nearGreatest).fit [.list [.ofInt 0, .ofInt 2]] none = (.ok (), some ⟨0.0, 2.0⟩) ∧
      ∃ global, some ⟨0.0, 2.0⟩ = some global ∧
        ∃ scaled, (learner nearGreatest).transform (some ⟨0.0, 2.0⟩)
            [.list [.ofInt 3, .ofInt 1]] = .ok (.list scaled) ∧
          List.Forall₂ (Document.Rewritten fun n d' =>
            (nearGreatest.Loses global n.toFloat ∧ d' = .null) ∨
              ¬ nearGreatest.Loses global n.toFloat ∧ ∃ x, d' = .number (.double x))
            [.list [.ofInt 3, .ofInt 1]] scaled := by
  have hparams : Params.of nearGreatestParams = .ok nearGreatest := rfl
  have hfit : (learner nearGreatest).fit [.list [.ofInt 0, .ofInt 2]] none =
      (.ok (), some ⟨0.0, 2.0⟩) := rfl
  have hwritable (m n : Int) (hm : Decimal.minInt64 ≤ m ∧ m ≤ Decimal.maxUInt64)
      (hn : Decimal.minInt64 ≤ n ∧ n ≤ Decimal.maxUInt64) :
      ∀ d ∈ [Document.list [.ofInt m, .ofInt n]], d.Writable :=
    List.forall_mem_singleton.mpr (.list (List.forall_mem_cons.mpr ⟨Document.writable_ofInt hm,
      List.forall_mem_singleton.mpr (Document.writable_ofInt hn)⟩))
  exact ⟨hparams, hfit, transform_keeps_numbers hparams (hwritable 0 2 (by decide) (by decide)) hfit
    (hwritable 3 1 (by decide) (by decide))⟩

/-- Three is half as far beyond the range as the range is wide, and the number in its place is a
double, but the product with the upper end of the target is not. -/
theorem transform_loses_number :
    Params.of nearGreatestParams = .ok nearGreatest ∧
      (learner nearGreatest).fit [.list [.ofInt 0, .ofInt 2]] none = (.ok (), some ⟨0.0, 2.0⟩) ∧
      (learner nearGreatest).transform (some ⟨0.0, 2.0⟩) [.list [.ofInt 3]] =
        .ok (.list [.list [.null]]) ∧
      ¬ Document.Rewritten (fun _ d' => ∃ x, d' = .number (.double x)) (.list [.ofInt 3])
        (.list [.null]) := by
  refine ⟨rfl, rfl, rfl, fun h => ?_⟩
  cases h with
  | list hlength hitems =>
    cases hitems 0 _ _ rfl rfl with
    | number hleaf =>
      obtain ⟨x, hx⟩ := hleaf
      cases hx

end SurfaceDrift.Scaling
