import Mathlib.Order.Bounds.Basic
import Mathlib.Order.MinMax
import SurfaceDrift.Proofs.Text.Edits

/-!
# The edit distance is the length of a shortest script

An edit inserts, drops or replaces one character anywhere (`Edit.after?`), and a script is a
list of edits, each made on what the one before it left (`afterAll?`). `editDistance_isLeast`
says that some script as long as the edit distance turns one text into the other and that no
shorter one does, whatever texts it goes through. So the distance is the same both ways, zero
only between equal texts, and no longer than any way round.

No script is shorter, since one edit changes the cost against any text by at most one
(`Single.cost_le`). There is a script as long, since each step of the recursion is an edit or
goes on behind an equal character (`hasScript_cost`). The costs are those of the reversed texts,
and a script for these has the same edits seen from the other end (`HasScript.reverse`).
-/

namespace SurfaceDrift.Text

/-! ## Edits and scripts -/

/-- The insertion of a character before a place, or a place dropped or replaced. -/
inductive Edit where
  | insert (place : Nat) (c : Char)
  | drop (place : Nat)
  | replace (place : Nat) (c : Char)

/-- The text after an edit, if it has the place. -/
def Edit.after? : Edit → List Char → Option (List Char)
  | insert place c, cs =>
    if place ≤ cs.length then some (cs.take place ++ c :: cs.drop place) else none
  | drop place, cs =>
    if place < cs.length then some (cs.take place ++ cs.drop (place + 1)) else none
  | replace place c, cs =>
    if place < cs.length then some (cs.take place ++ c :: cs.drop (place + 1)) else none

/-- The text after all edits of a script, in order. -/
def afterAll? (script : List Edit) (cs : List Char) : Option (List Char) :=
  script.foldlM (fun cs edit => edit.after? cs) cs

/-- Some script of `n` edits turns `x` into `y`. -/
def HasScript (n : Nat) (x y : List Char) : Prop :=
  ∃ script : List Edit, script.length = n ∧ afterAll? script x = some y

/-- The two texts differ in one place. -/
inductive Single : List Char → List Char → Prop where
  | insert (before : List Char) (c : Char) (after : List Char) :
      Single (before ++ after) (before ++ c :: after)
  | drop (before : List Char) (c : Char) (after : List Char) :
      Single (before ++ c :: after) (before ++ after)
  | replace (before : List Char) (c d : Char) (after : List Char) :
      Single (before ++ c :: after) (before ++ d :: after)

theorem exists_after?_iff {x y : List Char} :
    (∃ edit : Edit, edit.after? x = some y) ↔ Single x y := by
  constructor
  · rintro ⟨⟨place, c⟩ | ⟨place⟩ | ⟨place, c⟩, h⟩ <;>
      simp only [Edit.after?, Option.ite_none_right_eq_some, Option.some.injEq] at h <;>
      obtain ⟨hplace, rfl⟩ := h
    · have hinsert := Single.insert (x.take place) c (x.drop place)
      rwa [List.take_append_drop] at hinsert
    · have hdrop := Single.drop (x.take place) x[place] (x.drop (place + 1))
      rwa [← List.drop_eq_getElem_cons hplace, List.take_append_drop] at hdrop
    · have hreplace := Single.replace (x.take place) x[place] c (x.drop (place + 1))
      rwa [← List.drop_eq_getElem_cons hplace, List.take_append_drop] at hreplace
  · rintro (⟨before, c, after⟩ | ⟨before, c, after⟩ | ⟨before, c, d, after⟩)
    · exact ⟨.insert before.length c, by simp [Edit.after?]⟩
    · exact ⟨.drop before.length, by simp [Edit.after?]⟩
    · exact ⟨.replace before.length d, by simp [Edit.after?]⟩

theorem Single.symm {x y : List Char} (h : Single x y) : Single y x := by
  cases h with
  | insert before c after => exact .drop before c after
  | drop before c after => exact .insert before c after
  | replace before c d after => exact .replace before d c after

theorem Single.cons (c : Char) {x y : List Char} (h : Single x y) : Single (c :: x) (c :: y) := by
  cases h with
  | insert before d after => exact .insert (c :: before) d after
  | drop before d after => exact .drop (c :: before) d after
  | replace before d e after => exact .replace (c :: before) d e after

/-- An edit is an edit also from the other end. -/
theorem Single.reverse {x y : List Char} (h : Single x y) : Single x.reverse y.reverse := by
  cases h with
  | insert before c after => simpa using Single.insert after.reverse c before.reverse
  | drop before c after => simpa using Single.drop after.reverse c before.reverse
  | replace before c d after => simpa using Single.replace after.reverse c d before.reverse

/-! ## Scripts, edit by edit -/

namespace HasScript

variable {n m : Nat} {x y z : List Char}

theorem zero_iff : HasScript 0 x y ↔ x = y := by
  constructor
  · rintro ⟨script, hlength, h⟩
    rw [List.length_eq_zero_iff.mp hlength] at h
    exact Option.some.inj h
  · rintro rfl
    exact ⟨[], rfl, rfl⟩

theorem succ_iff : HasScript (n + 1) x z ↔ ∃ y, Single x y ∧ HasScript n y z := by
  constructor
  · rintro ⟨script, hlength, h⟩
    obtain ⟨edit, rest, rfl⟩ := List.exists_cons_of_length_eq_add_one hlength
    obtain ⟨y, hedit, hrest⟩ := Option.bind_eq_some_iff.mp h
    exact ⟨y, exists_after?_iff.mp ⟨edit, hedit⟩, rest, Nat.succ.inj hlength, hrest⟩
  · rintro ⟨y, hsingle, script, rfl, h⟩
    obtain ⟨edit, hedit⟩ := exists_after?_iff.mpr hsingle
    exact ⟨edit :: script, rfl, Option.bind_eq_some_iff.mpr ⟨y, hedit, h⟩⟩

theorem refl (x : List Char) : HasScript 0 x x := zero_iff.mpr rfl

theorem trans (hxy : HasScript n x y) (hyz : HasScript m y z) : HasScript (n + m) x z := by
  induction n generalizing x with
  | zero =>
    rw [zero_iff.mp hxy, Nat.zero_add]
    exact hyz
  | succ n ih =>
    obtain ⟨w, hsingle, hrest⟩ := succ_iff.mp hxy
    rw [Nat.succ_add]
    exact succ_iff.mpr ⟨w, hsingle, ih hrest⟩

theorem of_single (h : Single x y) : HasScript 1 x y := succ_iff.mpr ⟨y, h, refl y⟩

/-- What carries each edit over carries a script over. -/
theorem map {f : List Char → List Char} (hf : ∀ {x y}, Single x y → Single (f x) (f y))
    (h : HasScript n x y) : HasScript n (f x) (f y) := by
  induction n generalizing x with
  | zero => exact zero_iff.mpr (congrArg f (zero_iff.mp h))
  | succ n ih =>
    obtain ⟨w, hsingle, hrest⟩ := succ_iff.mp h
    exact succ_iff.mpr ⟨f w, hf hsingle, ih hrest⟩

theorem symm (h : HasScript n x y) : HasScript n y x := by
  induction n generalizing x with
  | zero => exact zero_iff.mpr (zero_iff.mp h).symm
  | succ n ih =>
    obtain ⟨w, hsingle, hrest⟩ := succ_iff.mp h
    exact (ih hrest).trans (of_single hsingle.symm)

theorem min (hn : HasScript n x y) (hm : HasScript m x y) : HasScript (Min.min n m) x y := by
  rcases min_choice n m with h | h <;> rwa [h]

theorem reverse_iff : HasScript n x.reverse y.reverse ↔ HasScript n x y := by
  refine ⟨fun h => ?_, map Single.reverse⟩
  simpa using h.map Single.reverse

end HasScript

/-! ## No script is shorter than the cost -/

theorem cost_le_cons (c : Char) (x y : List Char) : cost (c :: x) y ≤ cost x y + 1 := by
  cases y with
  | nil => simp [cost_nil_right]
  | cons d y =>
    rw [cost]
    omega

theorem cost_le_cons_right (x : List Char) (d : Char) (y : List Char) :
    cost x (d :: y) ≤ cost x y + 1 := by
  cases x with
  | nil => simp [cost_nil_left]
  | cons c x =>
    rw [cost]
    omega

theorem cost_cons_ge (c : Char) (x y : List Char) : cost x y ≤ cost (c :: x) y + 1 := by
  induction y with
  | nil => simp [cost_nil_right]; omega
  | cons d y ih =>
    have hright := cost_le_cons_right x d y
    rw [cost]
    omega

theorem cost_replace_le (c d : Char) (x z : List Char) : cost (c :: x) z ≤ cost (d :: x) z + 1 := by
  induction z with
  | nil => simp [cost_nil_right]
  | cons e z ih =>
    rw [cost, cost]
    split_ifs <;> omega

/-- A character in front of both texts changes nothing of this. -/
theorem cost_cons_le_cons (c : Char) {x y : List Char} (h : ∀ z, cost x z ≤ cost y z + 1)
    (z : List Char) : cost (c :: x) z ≤ cost (c :: y) z + 1 := by
  induction z with
  | nil =>
    have hnil := h []
    simp only [cost_nil_right, List.length_cons] at hnil ⊢
    omega
  | cons d z ih =>
    have hboth := h z
    have hfirst := h (d :: z)
    rw [cost, cost]
    omega

theorem cost_append_le_append {x y : List Char} (h : ∀ z, cost x z ≤ cost y z + 1)
    (before z : List Char) : cost (before ++ x) z ≤ cost (before ++ y) z + 1 := by
  induction before generalizing z with
  | nil => exact h z
  | cons c before ih => exact cost_cons_le_cons c ih z

/-- One edit changes the cost by at most one. -/
theorem Single.cost_le {x y : List Char} (h : Single x y) (z : List Char) :
    cost x z ≤ cost y z + 1 := by
  cases h with
  | insert before c after => exact cost_append_le_append (cost_cons_ge c after) before z
  | drop before c after => exact cost_append_le_append (cost_le_cons c after) before z
  | replace before c d after => exact cost_append_le_append (cost_replace_le c d after) before z

theorem HasScript.cost_le {n : Nat} {x y : List Char} (h : HasScript n x y) : cost x y ≤ n := by
  induction n generalizing x with
  | zero => rw [zero_iff.mp h, cost_self]
  | succ n ih =>
    obtain ⟨w, hsingle, hrest⟩ := succ_iff.mp h
    exact (hsingle.cost_le y).trans (Nat.succ_le_succ (ih hrest))

/-! ## A script as long as the cost -/

theorem hasScript_nil_left (y : List Char) : HasScript y.length [] y := by
  induction y with
  | nil => exact .refl []
  | cons d y ih => exact ih.trans (.of_single (.insert [] d y))

theorem hasScript_cost (x y : List Char) : HasScript (cost x y) x y := by
  induction x, y using cost.induct with
  | case1 y =>
    rw [cost_nil_left]
    exact hasScript_nil_left y
  | case2 x hx =>
    rw [cost_nil_right]
    exact (hasScript_nil_left x).symm
  | case3 c x d y hboth hfirst hsecond =>
    have hreplace : HasScript (cost x y + if c = d then 0 else 1) (c :: x) (d :: y) := by
      split_ifs with hcd
      · rw [hcd]
        exact hboth.map (Single.cons d)
      · exact (hboth.map (Single.cons c)).trans (.of_single (.replace [] c d y))
    have hdrop : HasScript (cost x (d :: y) + 1) (c :: x) (d :: y) :=
      HasScript.succ_iff.mpr ⟨x, .drop [] c x, hfirst⟩
    have hinsert : HasScript (cost (c :: x) y + 1) (c :: x) (d :: y) :=
      hsecond.trans (.of_single (.insert [] d y))
    rw [cost]
    exact (hreplace.min hdrop).min hinsert

/-! ## The distance -/

theorem editDistance_isLeast_hasScript (a b : String) :
    IsLeast {n | HasScript n a.toList b.toList} (editDistance a b) := by
  rw [editDistance_eq_cost]
  exact ⟨HasScript.reverse_iff.mp (hasScript_cost _ _),
    fun n h => (HasScript.reverse_iff.mpr h).cost_le⟩

theorem editDistance_comm (a b : String) : editDistance a b = editDistance b a := by
  have hab := editDistance_isLeast_hasScript a b
  have hba := editDistance_isLeast_hasScript b a
  exact (hab.2 hba.1.symm).antisymm (hba.2 hab.1.symm)

/-- The edit distance is the length of a shortest script, and so a metric. -/
theorem editDistance_isLeast (a b c : String) :
    IsLeast {n | ∃ script : List Edit, script.length = n ∧
      afterAll? script a.toList = some b.toList} (editDistance a b) ∧
      editDistance a b = editDistance b a ∧ (editDistance a b = 0 ↔ a = b) ∧
      editDistance a c ≤ editDistance a b + editDistance b c := by
  have hab := editDistance_isLeast_hasScript a b
  have hbc := editDistance_isLeast_hasScript b c
  have hac := editDistance_isLeast_hasScript a c
  refine ⟨hab, editDistance_comm a b, ⟨fun hzero => ?_, ?_⟩, hac.2 (hab.1.trans hbc.1)⟩
  · have hnone : HasScript 0 a.toList b.toList := hzero ▸ hab.1
    exact String.toList_inj.mp (HasScript.zero_iff.mp hnone)
  · rintro rfl
    exact editDistance_self a

example : editDistance "kitten" "sitting" = 3 := by decide +kernel

end SurfaceDrift.Text
