import SurfaceDrift.Canonical.Learner
import SurfaceDrift.Proofs.Sequence

/-!
# Canonical documents

A list becomes canonical item by item and an object field by field, before the fields that
fall together are merged (`canonicalItems_eq_map`, `canonicalFields_eq_map`). The policies
do not disagree : what the stricter one accepts it makes canonical in the same way
(`eq_canonical_of_canonicalWith`).
-/

namespace SurfaceDrift

theorem canonicalItems_eq_map (items : List Document) :
    canonicalItems items = items.map canonical := by
  induction items with
  | nil => rfl
  | cons d rest ih => rw [canonicalItems, ih, List.map_cons]

theorem canonicalFields_eq_map (fields : List (String × Document)) :
    canonicalFields fields = fields.map fun entry => (canonicalName entry.1, canonical entry.2) := by
  induction fields with
  | nil => rfl
  | cons entry rest ih =>
    obtain ⟨name, d⟩ := entry
    rw [canonicalFields, ih, List.map_cons]

theorem canonicalFields_append (fields others : List (String × Document)) :
    canonicalFields (fields ++ others) = canonicalFields fields ++ canonicalFields others := by
  rw [canonicalFields_eq_map, canonicalFields_eq_map, canonicalFields_eq_map, List.map_append]

/-! ## The stricter policy -/

mutual

/-- A document that is not refused becomes canonical. -/
theorem eq_canonical_of_canonicalDistinct :
    ∀ {d d' : Document}, canonicalDistinct d = .ok d' → d' = canonical d
  | .list items, d', h => by
    obtain ⟨others, hothers, h⟩ := bind_eq_ok_iff.mp h
    rw [← pure_eq_ok_iff.mp h, canonical, eq_canonicalItems_of_canonicalDistinctItems hothers]
  | .object fields, d', h => by
    obtain ⟨others, hothers, h⟩ := bind_eq_ok_iff.mp h
    rw [← pure_eq_ok_iff.mp h, canonical, eq_canonicalFields_of_canonicalDistinctFields hothers]
  | .null, _, h => (Except.ok.inj h).symm
  | .bool _, _, h => (Except.ok.inj h).symm
  | .number _, _, h => (Except.ok.inj h).symm
  | .text _, _, h => (Except.ok.inj h).symm

theorem eq_canonicalItems_of_canonicalDistinctItems :
    ∀ {items items' : List Document}, canonicalDistinctItems items = .ok items' →
      items' = canonicalItems items
  | [], _, h => (Except.ok.inj h).symm
  | d :: rest, _, h => by
    obtain ⟨first, hfirst, h⟩ := bind_eq_ok_iff.mp h
    obtain ⟨others, hothers, h⟩ := bind_eq_ok_iff.mp h
    rw [← pure_eq_ok_iff.mp h, canonicalItems, eq_canonical_of_canonicalDistinct hfirst,
      eq_canonicalItems_of_canonicalDistinctItems hothers]

theorem eq_canonicalFields_of_canonicalDistinctFields :
    ∀ {seen : List (String × String)} {fields fields' : List (String × Document)},
      canonicalDistinctFields seen fields = .ok fields' → fields' = canonicalFields fields
  | _, [], _, h => (Except.ok.inj h).symm
  | seen, (name, d) :: rest, _, h => by
    rw [canonicalDistinctFields] at h
    split at h
    · cases h
    · obtain ⟨value, hvalue, h⟩ := bind_eq_ok_iff.mp h
      obtain ⟨others, hothers, h⟩ := bind_eq_ok_iff.mp h
      rw [← pure_eq_ok_iff.mp h, canonicalFields, eq_canonical_of_canonicalDistinct hvalue,
        eq_canonicalFields_of_canonicalDistinctFields hothers]

end

theorem eq_canonical_of_canonicalWith {policy : CollisionPolicy} {d d' : Document}
    (h : canonicalWith policy d = .ok d') : d' = canonical d := by
  cases policy with
  | lastWriteWins => exact (Except.ok.inj h).symm
  | reject => exact eq_canonical_of_canonicalDistinct h

namespace Canonicalization

/-- Whatever the policy, an answer is the list of the canonical documents. -/
theorem eq_of_transform {policy : CollisionPolicy} {data : List Document} {output : Document}
    (h : transform policy data = .ok output) : output = .list (data.map canonical) := by
  obtain ⟨items, hitems, h⟩ := bind_eq_ok_iff.mp h
  have hsame : List.Forall₂ Eq (data.map canonical) items :=
    List.forall₂_map_left_iff.mpr ((mapM_eq_ok_iff.mp hitems).imp fun _ _ hd =>
      (eq_canonical_of_canonicalWith hd).symm)
  rw [List.forall₂_eq_eq_eq] at hsame
  rw [← pure_eq_ok_iff.mp h, hsame]

theorem eq_of_answer {policy : CollisionPolicy} {data : List Document} {output : Document}
    (h : (learner policy).algorithm.answer data = .ok output) :
    output = .list (data.map canonical) := by
  have hrun : (transform policy data).mapError Failure.error = .ok output := h
  cases htransform : transform policy data with
  | error cause =>
    rw [htransform] at hrun
    cases hrun
  | ok answer =>
    rw [htransform] at hrun
    exact Except.ok.inj hrun ▸ eq_of_transform htransform

/-- The policy that keeps the last of several names refuses nothing. -/
theorem answer_lastWriteWins (data : List Document) :
    (learner .lastWriteWins).algorithm.answer data = .ok (.list (data.map canonical)) := by
  have hitems : data.mapM (canonicalWith .lastWriteWins) = .ok (data.map canonical) :=
    mapM_eq_ok_iff.mpr (List.forall₂_map_right_iff.mpr (List.forall₂_same.mpr fun _ _ => rfl))
  show (transform .lastWriteWins data).mapError Failure.error = _
  rw [transform, hitems]
  rfl

end Canonicalization

end SurfaceDrift
