import Mathlib.Data.List.Basic
import SurfaceDrift.Text.Blank

/-!
# Cutting a text

A text is cut at the first separator : what comes before it holds no separator, and the two
parts with the separator between them are the text (`cutString_eq_some_iff`). Only a text
without any separator is not cut. Cut at every separator, a text falls into pieces without one
(`split_spec`), and a text of such pieces falls into these pieces again (`split_intercalate`).
-/

namespace SurfaceDrift.Text

variable {separator : Char}

theorem cut_cons_of_ne {c : Char} (h : c ≠ separator) (cs : List Char) :
    cut separator (c :: cs) = (cut separator cs).map fun p => (c :: p.1, p.2) := by
  rw [cut, if_neg h]

theorem cut_eq_some_iff {cs before after : List Char} :
    cut separator cs = some (before, after) ↔
      cs = before ++ separator :: after ∧ separator ∉ before := by
  induction cs generalizing before with
  | nil => simp [cut]
  | cons c cs ih =>
    by_cases hc : c = separator
    · cases before with
      | nil => simp [cut, hc]
      | cons d before =>
        simp only [cut, hc, if_true, Option.some.injEq, Prod.mk.injEq, List.cons_append,
          List.mem_cons, not_or]
        constructor
        · rintro ⟨h, -⟩
          cases h
        · rintro ⟨h, hd, -⟩
          exact absurd (List.cons.inj h).1 hd
    · rw [cut_cons_of_ne hc, Option.map_eq_some_iff]
      constructor
      · rintro ⟨⟨first, rest⟩, hcut, hpair⟩
        obtain ⟨rfl, rfl⟩ := Prod.mk.inj hpair
        obtain ⟨rfl, hfirst⟩ := ih.mp hcut
        exact ⟨rfl, by simpa [Ne.symm hc] using hfirst⟩
      · rintro ⟨hcs, hbefore⟩
        cases before with
        | nil => exact absurd (List.cons.inj hcs).1 hc
        | cons d before =>
          obtain ⟨rfl, rfl⟩ := List.cons.inj hcs
          have hrest : separator ∉ before := fun h => hbefore (List.mem_cons_of_mem _ h)
          exact ⟨(before, after), ih.mpr ⟨rfl, hrest⟩, rfl⟩

/-- The parts before and after the first separator. -/
theorem cutString_eq_some_iff {s before after : String} :
    cutString separator s = some (before, after) ↔
      s.toList = before.toList ++ separator :: after.toList ∧ separator ∉ before.toList := by
  rw [← cut_eq_some_iff, cutString, Option.map_eq_some_iff]
  constructor
  · rintro ⟨⟨first, rest⟩, hcut, hpair⟩
    obtain ⟨rfl, rfl⟩ := Prod.mk.inj hpair
    simpa using hcut
  · intro hcut
    exact ⟨_, hcut, by simp⟩

/-! ## Every separator -/

theorem pieces_eq_splitOn (separator : Char) (cs : List Char) :
    pieces separator cs = cs.splitOn separator := by
  induction cs with
  | nil => rw [pieces, List.splitOn_nil]
  | cons c cs ih =>
    rw [pieces, List.splitOn_cons_eq_if_modifyHead, ih]
    by_cases hc : c = separator
    · rw [if_pos hc, if_pos (beq_iff_eq.mpr hc)]
    · rw [if_neg hc, if_neg (mt beq_iff_eq.mp hc)]
      cases hpieces : cs.splitOn separator with
      | nil => exact absurd hpieces (List.splitOn_ne_nil separator cs)
      | cons piece rest => rfl

theorem split_ne_nil (separator : Char) (s : String) : split separator s ≠ [] := by
  rw [split, pieces_eq_splitOn]
  exact mt List.map_eq_nil_iff.mp (List.splitOn_ne_nil separator s.toList)

/-- A character that is no separator goes before the first piece. -/
theorem pieces_cons_of_ne {c : Char} (hc : c ≠ separator) (cs : List Char) :
    ∃ piece rest, pieces separator cs = piece :: rest ∧
      pieces separator (c :: cs) = (c :: piece) :: rest := by
  have hne : pieces separator cs ≠ [] := by
    rw [pieces_eq_splitOn]
    exact List.splitOn_ne_nil separator cs
  obtain ⟨piece, rest, hpieces⟩ := List.exists_cons_of_ne_nil hne
  exact ⟨piece, rest, hpieces, by rw [pieces, if_neg hc, hpieces]⟩

theorem not_mem_of_mem_pieces {cs piece : List Char} (h : piece ∈ pieces separator cs) :
    separator ∉ piece := by
  induction cs generalizing piece with
  | nil =>
    obtain rfl := List.mem_singleton.mp h
    exact List.not_mem_nil
  | cons c cs ih =>
    by_cases hc : c = separator
    · rw [pieces, if_pos hc] at h
      rcases List.mem_cons.mp h with rfl | hrest
      · exact List.not_mem_nil
      · exact ih hrest
    · obtain ⟨first, rest, hpieces, hcons⟩ := pieces_cons_of_ne hc cs
      rw [hcons] at h
      rw [hpieces] at ih
      rcases List.mem_cons.mp h with rfl | hrest
      · exact List.not_mem_cons_of_ne_of_not_mem (Ne.symm hc) (ih List.mem_cons_self)
      · exact ih (List.mem_cons_of_mem first hrest)

/-- One piece more than there are separators. -/
theorem length_pieces (separator : Char) (cs : List Char) :
    (pieces separator cs).length = cs.count separator + 1 := by
  induction cs with
  | nil => rfl
  | cons c cs ih =>
    by_cases hc : c = separator
    · rw [pieces, if_pos hc, List.length_cons, ih, hc, List.count_cons_self]
    · obtain ⟨first, rest, hpieces, hcons⟩ := pieces_cons_of_ne hc cs
      rw [hpieces] at ih
      rw [hcons, List.count_cons_of_ne hc, ← ih]
      rfl

/-- The pieces with separators between them are the text, and no piece holds a separator. -/
theorem split_spec (separator : Char) (s : String) :
    (String.singleton separator).intercalate (split separator s) = s ∧
      (∀ piece ∈ split separator s, separator ∉ piece.toList) ∧
        (split separator s).length = s.toList.count separator + 1 := by
  refine ⟨?_, fun piece hpiece => ?_, ?_⟩
  · rw [← String.toList_inj, String.toList_intercalate, String.toList_singleton, split,
      List.map_map]
    simp only [Function.comp_def, String.toList_ofList, List.map_id']
    rw [pieces_eq_splitOn, List.intercalate_splitOn]
  · obtain ⟨cs, hcs, rfl⟩ := List.mem_map.mp hpiece
    rw [String.toList_ofList]
    exact not_mem_of_mem_pieces hcs
  · rw [split, List.length_map, length_pieces]

/-- Pieces without a separator are found again in the text that they make. -/
theorem split_intercalate {parts : List String} (h : ∀ part ∈ parts, separator ∉ part.toList)
    (hne : parts ≠ []) : split separator ((String.singleton separator).intercalate parts) = parts := by
  have hpieces : ∀ piece ∈ parts.map String.toList, separator ∉ piece := by
    intro piece hpiece
    obtain ⟨part, hpart, rfl⟩ := List.mem_map.mp hpiece
    exact h part hpart
  rw [split, pieces_eq_splitOn, String.toList_intercalate, String.toList_singleton,
    List.splitOn_intercalate separator hpieces (mt List.map_eq_nil_iff.mp hne), List.map_map]
  simp [Function.comp_def]

end SurfaceDrift.Text
