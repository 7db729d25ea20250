import Mathlib.Data.Set.Card
import Mathlib.Order.Interval.Finset.Nat
import SurfaceDrift.Text.Word

/-!
# Where words stand in a text

A word stands in a text where it is written and no word character carries it on to either
side (`IsRun`). `words` lists every word once for each place where it stands (`count_words`).
A character that is in no word keeps apart what is on either side of it, both for `words`
(`wordsFrom_append_cons`) and for the places (`placesOf_append_cons`).
-/

namespace SurfaceDrift.Text

/-! ## Reading words -/

theorem wordsFrom_append_cons {c : Char} (hc : isWordChar c = false) (word cs ds : List Char) :
    wordsFrom word (cs ++ c :: ds) = wordsFrom word cs ++ wordsFrom [] ds := by
  induction cs generalizing word with
  | nil =>
    rw [List.nil_append, wordsFrom, wordsFrom, hc]
    split_ifs <;> simp_all
  | cons d cs ih =>
    rw [List.cons_append, wordsFrom, wordsFrom, ih, ih]
    split_ifs <;> rfl

theorem wordsFrom_of_forall {word cs : List Char} (h : ∀ c ∈ cs, isWordChar c = true) :
    wordsFrom word cs = if word ++ cs = [] then [] else [word ++ cs] := by
  induction cs generalizing word with
  | nil => simp [wordsFrom]
  | cons c cs ih =>
    rw [wordsFrom, if_pos (h c List.mem_cons_self), ih fun d hd => h d (List.mem_cons_of_mem c hd),
      List.append_assoc, List.singleton_append]

/-! ## Places -/

/-- A word between what is before it and what is after it, neither of which carries it on. -/
structure IsRun (before word after : List Char) : Prop where
  nonempty : word ≠ []
  chars : ∀ c ∈ word, isWordChar c = true
  left : ∀ c ∈ before.getLast?, isWordChar c = false
  right : ∀ c ∈ after.head?, isWordChar c = false

variable {before word after text : List Char} {c : Char}

theorem isRun_append_cons_left (hc : isWordChar c = false) (cs : List Char) :
    IsRun (cs ++ c :: before) word after ↔ IsRun before word after := by
  have hleft : (∀ d ∈ (cs ++ c :: before).getLast?, isWordChar d = false) ↔
      ∀ d ∈ before.getLast?, isWordChar d = false := by
    rw [List.getLast?_append_cons, List.getLast?_cons]
    cases before.getLast? <;> simp [hc]
  exact ⟨fun h => ⟨h.nonempty, h.chars, hleft.mp h.left, h.right⟩,
    fun h => ⟨h.nonempty, h.chars, hleft.mpr h.left, h.right⟩⟩

theorem isRun_append_cons_right (hc : isWordChar c = false) (ds : List Char) :
    IsRun before word (after ++ c :: ds) ↔ IsRun before word after := by
  have hright : (∀ d ∈ (after ++ c :: ds).head?, isWordChar d = false) ↔
      ∀ d ∈ after.head?, isWordChar d = false := by
    cases after <;> simp [hc]
  exact ⟨fun h => ⟨h.nonempty, h.chars, h.left, hright.mp h.right⟩,
    fun h => ⟨h.nonempty, h.chars, h.left, hright.mpr h.right⟩⟩

/-- A character of a text that is put together from two is in the one or in the other. -/
theorem append_cons_eq_append_iff {cs ds left right : List Char} :
    cs ++ c :: ds = left ++ right ↔
      (∃ rest, cs = left ++ rest ∧ right = rest ++ c :: ds) ∨
        ∃ rest, left = cs ++ c :: rest ∧ ds = rest ++ right := by
  constructor
  · intro h
    rcases List.append_eq_append_iff.mp h with ⟨rest, rfl, hrest⟩ | ⟨rest, rfl, rfl⟩
    · rcases rest with _ | ⟨d, rest⟩
      · exact Or.inl ⟨[], by simp, by simpa using hrest.symm⟩
      · obtain ⟨rfl, rfl⟩ := List.cons.inj hrest
        exact Or.inr ⟨rest, rfl, rfl⟩
    · exact Or.inl ⟨rest, rfl, rfl⟩
  · rintro (⟨rest, rfl, rfl⟩ | ⟨rest, rfl, rfl⟩) <;> simp

/-- The places of a text where a word stands, told by the number of characters before it. -/
def placesOf (word text : List Char) : Set ℕ :=
  {place | ∃ before after, text = before ++ word ++ after ∧ before.length = place ∧
    IsRun before word after}

theorem le_length_of_mem_placesOf {place : ℕ} (h : place ∈ placesOf word text) :
    place ≤ text.length := by
  obtain ⟨before, after, rfl, rfl, -⟩ := h
  simp only [List.length_append]
  omega

theorem finite_placesOf (word text : List Char) : (placesOf word text).Finite :=
  (Set.finite_Iic text.length).subset fun _ => le_length_of_mem_placesOf

/-- In a text of word characters nothing stands but the text itself. -/
theorem mem_placesOf_of_forall (h : ∀ c ∈ text, isWordChar c = true) {place : ℕ} :
    place ∈ placesOf word text ↔ place = 0 ∧ word = text ∧ text ≠ [] := by
  constructor
  · rintro ⟨before, after, htext, rfl, hrun⟩
    have hbefore : before = [] := by
      rcases List.eq_nil_or_concat before with hnil | ⟨first, c, rfl⟩
      · exact hnil
      · have hword := h c (by simp [htext])
        rw [hrun.left c (by simp)] at hword
        cases hword
    have hafter : after = [] := by
      rcases after with _ | ⟨c, rest⟩
      · rfl
      · have hword := h c (by simp [htext])
        rw [hrun.right c (by simp)] at hword
        cases hword
    subst hbefore hafter
    rw [List.nil_append, List.append_nil] at htext
    exact ⟨rfl, htext.symm, htext ▸ hrun.nonempty⟩
  · rintro ⟨rfl, rfl, hne⟩
    exact ⟨[], [], by simp, rfl, hne, h, by simp, by simp⟩

/-- A character that is in no word keeps the places before it and after it apart. -/
theorem placesOf_append_cons (hc : isWordChar c = false) (cs ds : List Char) :
    placesOf word (cs ++ c :: ds) =
      placesOf word cs ∪ (fun place => cs.length + 1 + place) '' placesOf word ds := by
  ext place
  constructor
  · rintro ⟨before, after, htext, rfl, hrun⟩
    rcases append_cons_eq_append_iff.mp htext with ⟨rest, rfl, rfl⟩ | ⟨rest, hleft, rfl⟩
    · exact Or.inl ⟨before, rest, rfl, rfl, (isRun_append_cons_right hc ds).mp hrun⟩
    · rcases append_cons_eq_append_iff.mp hleft.symm with ⟨more, rfl, rfl⟩ | ⟨more, rfl, rfl⟩
      · have hword := hrun.chars c (by simp)
        rw [hc] at hword
        cases hword
      · refine Or.inr ⟨more.length, ⟨more, after, rfl, rfl,
          (isRun_append_cons_left hc cs).mp hrun⟩, ?_⟩
        simp only [List.length_append, List.length_cons]
        omega
  · rintro (⟨before, after, rfl, rfl, hrun⟩ | ⟨_, ⟨before, after, rfl, rfl, hrun⟩, rfl⟩)
    · exact ⟨before, after ++ c :: ds, by simp, rfl, (isRun_append_cons_right hc ds).mpr hrun⟩
    · refine ⟨cs ++ c :: before, after, by simp, ?_, (isRun_append_cons_left hc cs).mpr hrun⟩
      simp only [List.length_append, List.length_cons]
      omega

theorem ncard_placesOf_append_cons (hc : isWordChar c = false) (cs ds : List Char) :
    (placesOf word (cs ++ c :: ds)).ncard =
      (placesOf word cs).ncard + (placesOf word ds).ncard := by
  have hapart : Disjoint (placesOf word cs)
      ((fun place => cs.length + 1 + place) '' placesOf word ds) := by
    refine Set.disjoint_left.mpr ?_
    rintro _ hfirst ⟨place, -, rfl⟩
    have hle := le_length_of_mem_placesOf hfirst
    dsimp only at hle
    omega
  rw [placesOf_append_cons hc, Set.ncard_union_eq hapart (finite_placesOf word cs)
    ((finite_placesOf word ds).image _), Set.ncard_image_of_injective _ (add_right_injective _)]

/-! ## Every word at every place -/

theorem count_wordsFrom_of_forall (h : ∀ c ∈ text, isWordChar c = true) :
    (wordsFrom [] text).count word = (placesOf word text).ncard := by
  have hplaces : placesOf word text = {place | place = 0 ∧ word = text ∧ text ≠ []} :=
    Set.ext fun _ => mem_placesOf_of_forall h
  rw [wordsFrom_of_forall h, List.nil_append, hplaces]
  by_cases hnil : text = []
  · simp [hnil]
  · rw [if_neg hnil]
    by_cases hword : word = text
    · simp [hnil, hword]
    · simp [hword, Ne.symm hword]

theorem count_wordsFrom (word text : List Char) :
    (wordsFrom [] text).count word = (placesOf word text).ncard := by
  by_cases h : ∀ c ∈ text, isWordChar c = true
  · exact count_wordsFrom_of_forall h
  · push Not at h
    obtain ⟨c, hmem, hc⟩ := h
    rw [← Bool.eq_false_iff] at hc
    obtain ⟨cs, ds, htext⟩ := List.append_of_mem hmem
    have hcs : cs.length < text.length := by simp [htext]
    have hds : ds.length < text.length := by simp [htext]; omega
    rw [htext, wordsFrom_append_cons hc, List.count_append, ncard_placesOf_append_cons hc,
      count_wordsFrom word cs, count_wordsFrom word ds]
termination_by text.length

/-- Every word is listed once for each place where it stands. -/
theorem count_words (word text : String) :
    (words text).count word = (placesOf word.toList text.toList).ncard := by
  have hinj : Function.Injective String.ofList := fun _ _ h => String.ofList_inj.mp h
  conv_lhs => rw [words, ← String.ofList_toList (s := word)]
  rw [List.count_map_of_injective _ _ hinj, count_wordsFrom]

end SurfaceDrift.Text
