import Mathlib.Data.List.Forall2

/-!
# Sequences of calls that may fail

Calls made one after another stop at the first that fails (`bind_eq_ok_iff`,
`bind_eq_error_iff`). `mapM` over a list answers if every call does (`mapM_eq_ok_iff`), and
its error is that of the first call that fails (`mapM_eq_error_iff`); for `foldlM` the calls
before it also say on what it was made (`foldlM_eq_error_iff`). `FailsOnly` bounds what a
call may fail with, and a sequence of calls fails with nothing else than its calls do.
-/

namespace SurfaceDrift

variable {α β ε ζ : Type}

/-! ## Two calls -/

theorem bind_eq_ok_iff {x : Except ε α} {f : α → Except ε β} {b : β} :
    (x >>= f) = .ok b ↔ ∃ a, x = .ok a ∧ f a = .ok b := by
  cases x with
  | error e =>
    refine iff_of_false (fun h => by cases h) ?_
    rintro ⟨a, ha, -⟩
    cases ha
  | ok a =>
    refine ⟨fun h => ⟨a, rfl, h⟩, ?_⟩
    rintro ⟨a', ha, h⟩
    obtain rfl := Except.ok.inj ha
    exact h

theorem bind_eq_error_iff {x : Except ε α} {f : α → Except ε β} {e : ε} :
    (x >>= f) = .error e ↔ x = .error e ∨ ∃ a, x = .ok a ∧ f a = .error e := by
  cases x with
  | error e' =>
    constructor
    · intro h
      exact Or.inl (congrArg Except.error (Except.error.inj h))
    · rintro (h | ⟨a, ha, -⟩)
      · exact congrArg Except.error (Except.error.inj h)
      · cases ha
  | ok a =>
    constructor
    · exact fun h => Or.inr ⟨a, rfl, h⟩
    · rintro (h | ⟨a', ha, h⟩)
      · cases h
      · obtain rfl := Except.ok.inj ha
        exact h

theorem pure_eq_ok_iff {a b : α} : (pure a : Except ε α) = .ok b ↔ a = b :=
  ⟨fun h => Except.ok.inj h, fun h => congrArg Except.ok h⟩

theorem map_eq_ok_iff {x : Except ε α} {f : α → β} {b : β} :
    x.map f = .ok b ↔ ∃ a, x = .ok a ∧ f a = b := by
  cases x <;> simp [Except.map]

theorem map_eq_error_iff {x : Except ε α} {f : α → β} {e : ε} :
    x.map f = .error e ↔ x = .error e := by
  cases x <;> simp [Except.map]

theorem toOption_eq_some_iff {x : Except ε α} {a : α} : x.toOption = some a ↔ x = .ok a := by
  cases x <;> simp [Except.toOption]

/-! ## A call for each item -/

/-- What is in one of two related lists is related to something in the other. -/
theorem exists_of_mem_forall₂ {r : α → β → Prop} {l : List α} {m : List β}
    (h : List.Forall₂ r l m) {b : β} (hb : b ∈ m) : ∃ a ∈ l, r a b := by
  induction h with
  | nil => cases hb
  | @cons a b' l m hab _ ih =>
    rcases List.mem_cons.mp hb with rfl | hb
    · exact ⟨a, List.mem_cons_self, hab⟩
    · obtain ⟨x, hx, hxb⟩ := ih hb
      exact ⟨x, List.mem_cons_of_mem a hx, hxb⟩

/-- All calls answer, each with the answer in its place. -/
theorem mapM_eq_ok_iff {f : α → Except ε β} {l : List α} {answers : List β} :
    l.mapM f = .ok answers ↔ List.Forall₂ (fun a b => f a = .ok b) l answers := by
  induction l generalizing answers with
  | nil =>
    rw [List.mapM_nil, List.forall₂_nil_left_iff, pure_eq_ok_iff]
    exact eq_comm
  | cons a rest ih =>
    rw [List.mapM_cons, List.forall₂_cons_left_iff]
    simp only [bind_eq_ok_iff, pure_eq_ok_iff, ih]
    constructor
    · rintro ⟨b, hb, bs, hbs, rfl⟩
      exact ⟨b, bs, hb, hbs, rfl⟩
    · rintro ⟨b, bs, hb, hbs, rfl⟩
      exact ⟨b, hb, bs, hbs, rfl⟩

/-- Calls that undo what was done to each item give the items back. -/
theorem mapM_map_eq_some {f : α → Option β} {g : β → α} {l : List β}
    (h : ∀ b ∈ l, f (g b) = some b) : (l.map g).mapM f = some l := by
  induction l with
  | nil => rfl
  | cons b rest ih =>
    have hb := h b List.mem_cons_self
    have hrest := ih fun c hc => h c (List.mem_cons_of_mem b hc)
    rw [List.map_cons, List.mapM_cons, hb, hrest]
    rfl

/-- The first call that fails decides the error. -/
theorem mapM_eq_error_iff {f : α → Except ε β} {l : List α} {e : ε} :
    l.mapM f = .error e ↔ ∃ before a after, l = before ++ a :: after ∧
      (∀ x ∈ before, ∃ b, f x = .ok b) ∧ f a = .error e := by
  induction l with
  | nil =>
    refine iff_of_false (fun h => by cases h) ?_
    rintro ⟨before, a, after, h, -, -⟩
    exact List.append_ne_nil_of_right_ne_nil before (List.cons_ne_nil a after) h.symm
  | cons a rest ih =>
    rw [List.mapM_cons]
    simp only [bind_eq_error_iff, ih]
    constructor
    · rintro (ha | ⟨b, hb, ⟨before, x, after, rfl, hbefore, hx⟩ | ⟨bs, -, h⟩⟩)
      · exact ⟨[], a, rest, rfl, by simp, ha⟩
      · refine ⟨a :: before, x, after, rfl, fun y hy => ?_, hx⟩
        rcases List.mem_cons.mp hy with rfl | hy
        · exact ⟨b, hb⟩
        · exact hbefore y hy
      · cases h
    · rintro ⟨before, x, after, hl, hbefore, hx⟩
      cases before with
      | nil =>
        obtain ⟨rfl, rfl⟩ := List.cons.inj hl
        exact Or.inl hx
      | cons y before =>
        obtain ⟨rfl, rfl⟩ := List.cons.inj hl
        obtain ⟨b, hb⟩ := hbefore a List.mem_cons_self
        exact Or.inr ⟨b, hb, Or.inl ⟨before, x, after, rfl,
          fun y hy => hbefore y (List.mem_cons_of_mem a hy), hx⟩⟩

/-- If every call answers, all of them do. -/
theorem exists_mapM_eq_ok {f : α → Except ε β} {l : List α} (h : ∀ a ∈ l, ∃ b, f a = .ok b) :
    ∃ answers, l.mapM f = .ok answers := by
  cases hcalls : l.mapM f with
  | ok answers => exact ⟨answers, rfl⟩
  | error e =>
    obtain ⟨before, a, after, rfl, -, ha⟩ := mapM_eq_error_iff.mp hcalls
    obtain ⟨b, hb⟩ := h a (List.mem_append_right before List.mem_cons_self)
    rw [hb] at ha
    cases ha

/-! ## Calls on what the ones before come to -/

/-- The first call that fails decides the error, made on what the calls before it come to. -/
theorem foldlM_eq_error_iff {f : β → α → Except ε β} {l : List α} {b : β} {e : ε} :
    l.foldlM f b = .error e ↔ ∃ before a after c, l = before ++ a :: after ∧
      before.foldlM f b = .ok c ∧ f c a = .error e := by
  induction l generalizing b with
  | nil =>
    refine iff_of_false (fun h => by cases h) ?_
    rintro ⟨before, a, after, c, h, -, -⟩
    exact List.append_ne_nil_of_right_ne_nil before (List.cons_ne_nil a after) h.symm
  | cons a rest ih =>
    rw [List.foldlM_cons]
    simp only [bind_eq_error_iff, ih]
    constructor
    · rintro (ha | ⟨c, hc, before, x, after, d, rfl, hbefore, hx⟩)
      · exact ⟨[], a, rest, b, rfl, rfl, ha⟩
      · refine ⟨a :: before, x, after, d, rfl, ?_, hx⟩
        rw [List.foldlM_cons, bind_eq_ok_iff]
        exact ⟨c, hc, hbefore⟩
    · rintro ⟨before, x, after, d, hl, hbefore, hx⟩
      cases before with
      | nil =>
        obtain ⟨rfl, rfl⟩ := List.cons.inj hl
        obtain rfl := Except.ok.inj hbefore
        exact Or.inl hx
      | cons y before =>
        obtain ⟨rfl, rfl⟩ := List.cons.inj hl
        rw [List.foldlM_cons, bind_eq_ok_iff] at hbefore
        obtain ⟨c, hc, hbefore⟩ := hbefore
        exact Or.inr ⟨c, hc, before, x, after, d, rfl, hbefore, hx⟩

/-! ## What calls fail with -/

/-- The call fails with nothing else than `P`. -/
def FailsOnly (P : ε → Prop) (x : Except ε α) : Prop := ∀ e, x = .error e → P e

namespace FailsOnly

variable {P : ε → Prop} {Q : ζ → Prop}

theorem ok (a : α) : FailsOnly P (.ok a : Except ε α) := fun _ h => by cases h

theorem error {e : ε} (h : P e) : FailsOnly P (.error e : Except ε α) := fun _ he =>
  Except.error.inj he ▸ h

theorem bind {x : Except ε α} {f : α → Except ε β} (hx : FailsOnly P x)
    (hf : ∀ a, x = .ok a → FailsOnly P (f a)) : FailsOnly P (x >>= f) := by
  intro e h
  rcases bind_eq_error_iff.mp h with h | ⟨a, ha, h⟩
  · exact hx e h
  · exact hf a ha e h

theorem map {x : Except ε α} (hx : FailsOnly P x) (f : α → β) : FailsOnly P (x.map f) :=
  fun e h => hx e (map_eq_error_iff.mp h)

theorem mapM {f : α → Except ε β} {l : List α} (hf : ∀ a ∈ l, FailsOnly P (f a)) :
    FailsOnly P (l.mapM f) := by
  intro e h
  obtain ⟨before, a, after, rfl, -, ha⟩ := mapM_eq_error_iff.mp h
  exact hf a (List.mem_append_right before List.mem_cons_self) e ha

theorem mapError {x : Except ε α} {g : ε → ζ} (hx : FailsOnly P x) (hg : ∀ e, P e → Q (g e)) :
    FailsOnly Q (x.mapError g) := by
  intro e h
  cases x with
  | error cause => exact Except.error.inj h ▸ hg cause (hx cause rfl)
  | ok a => cases h

end FailsOnly

end SurfaceDrift
