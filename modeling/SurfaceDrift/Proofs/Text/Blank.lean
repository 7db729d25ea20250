import Mathlib.Data.List.Chain
import Mathlib.Data.List.Infix
import Mathlib.Data.List.TakeWhile
import SurfaceDrift.Text.Blank

/-!
# Trimmed texts, and texts with single spaces

A text is trimmed (`IsTrimmed`) if it has no blank at an end. What `trim` returns is trimmed, with
nothing but blanks around it in the text that it comes from (`exists_append_trim`), and more blanks
around a text do not matter (`trim_append`).

A text is spaced (`IsSpaced`) if its only blanks are spaces, no two of them are neighbours, and
there is none at an end. What `squeeze` returns is spaced (`isSpaced_squeeze`), and it changes
nothing in a text that is (`IsSpaced.squeeze_eq`). All characters but blanks stay
(`filter_squeeze`). A text without a line break, such as a spaced one, is nothing to fold
(`foldBreaks_eq_self`).
-/

namespace SurfaceDrift.Text

variable {c : Char} {cs : List Char}

/-! ## Blanks at the ends -/

theorem head?_dropWhile_eq_false {p : Char → Bool} (h : c ∈ (cs.dropWhile p).head?) :
    p c = false := by
  have hhead := List.head?_dropWhile_not p cs
  rwa [Option.mem_def.mp h] at hhead

/-- Nothing is stripped off a text whose first and last characters stay. -/
theorem stripBoth_eq_self {p : Char → Bool} {cs : List Char} (hfirst : ∀ c ∈ cs.head?, p c = false)
    (hlast : ∀ c ∈ cs.getLast?, p c = false) : stripBoth p cs = cs := by
  have hkeeps : ∀ {l : List Char}, (∀ c ∈ l.head?, p c = false) → l.dropWhile p = l := by
    intro l hl
    cases l with
    | nil => rfl
    | cons c rest => simp [hl c rfl]
  rw [← List.head?_reverse] at hlast
  rw [stripBoth, hkeeps hfirst, hkeeps hlast, List.reverse_reverse]

theorem isPrefix_stripBoth (p : Char → Bool) (cs : List Char) :
    stripBoth p cs <+: cs.dropWhile p := by
  rw [stripBoth, ← List.reverse_suffix, List.reverse_reverse]
  exact List.dropWhile_suffix p

theorem isInfix_stripBoth (p : Char → Bool) (cs : List Char) : stripBoth p cs <:+: cs :=
  (isPrefix_stripBoth p cs).isInfix.trans (List.dropWhile_suffix p).isInfix

theorem head?_stripBoth_eq_false {p : Char → Bool} (h : c ∈ (stripBoth p cs).head?) :
    p c = false := by
  obtain ⟨rest, hrest⟩ := isPrefix_stripBoth p cs
  have hhead : c ∈ (cs.dropWhile p).head? := by
    rw [← hrest, List.head?_append, Option.mem_def.mp h]
    rfl
  exact head?_dropWhile_eq_false hhead

theorem getLast?_stripBoth_eq_false {p : Char → Bool} (h : c ∈ (stripBoth p cs).getLast?) :
    p c = false := by
  rw [stripBoth, List.getLast?_reverse] at h
  exact head?_dropWhile_eq_false h

/-- What would be stripped off anyway may stand around a text. -/
theorem stripBoth_append {p : Char → Bool} {before after : List Char}
    (hbefore : ∀ c ∈ before, p c = true) (hafter : ∀ c ∈ after, p c = true) (cs : List Char) :
    stripBoth p (before ++ cs ++ after) = stripBoth p cs := by
  have hreverse : ∀ c ∈ after.reverse, p c = true := fun c hc =>
    hafter c (List.mem_reverse.mp hc)
  rw [stripBoth, stripBoth, List.append_assoc, List.dropWhile_append_of_pos hbefore,
    List.dropWhile_append]
  split_ifs with hblank
  · rw [List.isEmpty_iff.mp hblank, List.dropWhile_eq_nil_iff.mpr hafter]
  · rw [List.reverse_append, List.dropWhile_append_of_pos hreverse]

/-- Only what was to be stripped off stood around what is left. -/
theorem exists_append_stripBoth (p : Char → Bool) (cs : List Char) :
    ∃ before after, cs = before ++ stripBoth p cs ++ after ∧ (∀ c ∈ before, p c = true) ∧
      ∀ c ∈ after, p c = true := by
  have hend : stripBoth p cs ++ ((cs.dropWhile p).reverse.takeWhile p).reverse =
      cs.dropWhile p := by
    rw [stripBoth, ← List.reverse_append, List.takeWhile_append_dropWhile, List.reverse_reverse]
  refine ⟨cs.takeWhile p, ((cs.dropWhile p).reverse.takeWhile p).reverse, ?_, fun c hc => ?_,
    fun c hc => ?_⟩
  · rw [List.append_assoc, hend, List.takeWhile_append_dropWhile]
  · exact List.mem_takeWhile_imp hc
  · exact List.mem_takeWhile_imp (List.mem_reverse.mp hc)

theorem filter_dropWhile (p : Char → Bool) (cs : List Char) :
    (cs.dropWhile p).filter (fun c => !p c) = cs.filter fun c => !p c := by
  induction cs with
  | nil => rfl
  | cons c cs ih =>
    cases hc : p c with
    | true => simpa [hc] using ih
    | false => simp [hc]

/-! ## Trimmed texts -/

/-- A text of blanks alone. -/
def IsBlankText (s : String) : Prop := ∀ c ∈ s.toList, isBlank c = true

/-- A text without a blank at an end. -/
structure IsTrimmed (s : String) : Prop where
  first : ∀ c ∈ s.toList.head?, isBlank c = false
  last : ∀ c ∈ s.toList.getLast?, isBlank c = false

theorem isTrimmed_trim (s : String) : IsTrimmed (trim s) where
  first c hc := by
    rw [trim, String.toList_ofList] at hc
    exact head?_stripBoth_eq_false hc
  last c hc := by
    rw [trim, String.toList_ofList] at hc
    exact getLast?_stripBoth_eq_false hc

theorem IsTrimmed.trim_eq {s : String} (h : IsTrimmed s) : trim s = s := by
  rw [trim, stripBoth_eq_self h.first h.last, String.ofList_toList]

theorem trim_append {before after : String} (hbefore : IsBlankText before)
    (hafter : IsBlankText after) (s : String) : trim (before ++ s ++ after) = trim s := by
  rw [trim, trim, String.toList_append, String.toList_append, stripBoth_append hbefore hafter]

theorem exists_append_trim (s : String) :
    ∃ before after, s = before ++ trim s ++ after ∧ IsBlankText before ∧ IsBlankText after := by
  obtain ⟨before, after, hs, hbefore, hafter⟩ := exists_append_stripBoth isBlank s.toList
  refine ⟨String.ofList before, String.ofList after, ?_, ?_, ?_⟩
  · rw [trim, ← String.ofList_append, ← String.ofList_append, ← hs, String.ofList_toList]
  · rwa [IsBlankText, String.toList_ofList]
  · rwa [IsBlankText, String.toList_ofList]

theorem trim_eq_empty_iff {s : String} : trim s = "" ↔ IsBlankText s := by
  constructor
  · intro h
    obtain ⟨before, after, hs, hbefore, hafter⟩ := exists_append_trim s
    rw [h, String.append_empty] at hs
    intro c hc
    rw [hs, String.toList_append] at hc
    exact (List.mem_append.mp hc).elim (hbefore c) (hafter c)
  · intro h
    have hempty : IsBlankText "" := fun c hc => by cases hc
    have htrim := trim_append h hempty ""
    rwa [String.append_empty, String.append_empty] at htrim

/-! ## Runs of blanks -/

theorem collapse_cons (c : Char) (cs : List Char) :
    collapse (c :: cs) =
      if isBlank c then
        if cs.head?.any isBlank then collapse cs else ' ' :: collapse cs
      else c :: collapse cs := by
  cases cs <;> rfl

theorem head?_collapse (h : cs.head?.any isBlank = false) : (collapse cs).head? = cs.head? := by
  cases cs with
  | nil => rfl
  | cons c cs => simp_all [collapse_cons]

/-- What is left are spaces, and characters that are no blanks. -/
theorem mem_collapse (h : c ∈ collapse cs) : c = ' ' ∨ c ∈ cs ∧ isBlank c = false := by
  induction cs with
  | nil => cases h
  | cons d cs ih =>
    have hlater : c ∈ collapse cs → c = ' ' ∨ c ∈ d :: cs ∧ isBlank c = false := fun h =>
      (ih h).imp_right (And.imp_left (List.mem_cons_of_mem d))
    rw [collapse_cons] at h
    split_ifs at h with hd hnext
    · exact hlater h
    · rcases List.mem_cons.mp h with rfl | h
      · exact Or.inl rfl
      · exact hlater h
    · rcases List.mem_cons.mp h with rfl | h
      · exact Or.inr ⟨List.mem_cons_self, Bool.eq_false_iff.mpr hd⟩
      · exact hlater h

theorem filter_collapse (cs : List Char) :
    (collapse cs).filter (fun c => !isBlank c) = cs.filter fun c => !isBlank c := by
  have hspace : isBlank ' ' = true := rfl
  induction cs with
  | nil => rfl
  | cons c cs ih =>
    rw [collapse_cons]
    split_ifs with hc hnext
    · rw [ih, List.filter_cons_of_neg (by simp [hc])]
    · rw [List.filter_cons_of_neg (by simp [hspace]), ih, List.filter_cons_of_neg (by simp [hc])]
    · rw [List.filter_cons_of_pos (by simp [hc]), ih, List.filter_cons_of_pos (by simp [hc])]

/-- No two blanks are neighbours. -/
def BlanksApart (cs : List Char) : Prop :=
  cs.IsChain fun c d => isBlank c = true → isBlank d = false

theorem blanksApart_collapse (cs : List Char) : BlanksApart (collapse cs) := by
  induction cs with
  | nil => exact List.isChain_nil
  | cons c cs ih =>
    rw [collapse_cons]
    split_ifs with hc hnext
    · exact ih
    · refine List.isChain_cons.mpr ⟨fun d hd _ => ?_, ih⟩
      rw [head?_collapse (Bool.eq_false_iff.mpr hnext)] at hd
      by_contra hblank
      rw [Option.mem_def.mp hd] at hnext
      exact hnext (by simpa using hblank)
    · exact List.isChain_cons.mpr ⟨fun _ _ hblank => absurd hblank hc, ih⟩

theorem collapse_eq_self (hspaces : ∀ c ∈ cs, isBlank c = true → c = ' ')
    (hapart : BlanksApart cs) : collapse cs = cs := by
  induction cs with
  | nil => rfl
  | cons c cs ih =>
    obtain ⟨hnext, hrest⟩ := List.isChain_cons.mp hapart
    rw [collapse_cons, ih (fun d hd => hspaces d (List.mem_cons_of_mem c hd)) hrest]
    split_ifs with hc hblank
    · cases cs with
      | nil => cases hblank
      | cons d cs => exact absurd ((hnext d rfl hc).symm.trans hblank) Bool.false_ne_true
    · rw [hspaces c List.mem_cons_self hc]
    · rfl

/-! ## Single spaces -/

/-- A text with single spaces between words, and no blank anywhere else. -/
structure IsSpaced (cs : List Char) : Prop where
  spaces : ∀ c ∈ cs, isBlank c = true → c = ' '
  apart : BlanksApart cs
  first : ∀ c ∈ cs.head?, isBlank c = false
  last : ∀ c ∈ cs.getLast?, isBlank c = false

theorem mem_squeeze (h : c ∈ squeeze cs) : c = ' ' ∨ c ∈ cs ∧ isBlank c = false :=
  mem_collapse ((isInfix_stripBoth isBlank _).subset h)

theorem isSpaced_squeeze (cs : List Char) : IsSpaced (squeeze cs) where
  spaces c hc hblank := (mem_squeeze hc).resolve_right fun h => by simp [hblank] at h
  apart := List.IsChain.infix (blanksApart_collapse cs) (isInfix_stripBoth isBlank _)
  first _ := head?_stripBoth_eq_false
  last _ := getLast?_stripBoth_eq_false

theorem IsSpaced.squeeze_eq (h : IsSpaced cs) : squeeze cs = cs := by
  rw [squeeze, collapse_eq_self h.spaces h.apart, stripBoth_eq_self h.first h.last]

/-- The characters that are no blanks stay. -/
theorem filter_squeeze (cs : List Char) :
    (squeeze cs).filter (fun c => !isBlank c) = cs.filter fun c => !isBlank c := by
  rw [squeeze, stripBoth, List.filter_reverse, filter_dropWhile, List.filter_reverse,
    filter_dropWhile, List.reverse_reverse, filter_collapse]

theorem IsSpaced.not_mem_break (h : IsSpaced cs) : '\n' ∉ cs := fun hmem => by
  have hspace := h.spaces '\n' hmem (by decide)
  cases hspace

/-! ## Line breaks -/

theorem foldRun_eq_self {run : List Char} (h : '\n' ∉ run) : foldRun run = run := by
  simp [foldRun, h]

theorem foldBreaksFrom_eq_append {run : List Char} (hrun : '\n' ∉ run) (h : '\n' ∉ cs) :
    foldBreaksFrom run cs = run ++ cs := by
  induction cs generalizing run with
  | nil => rw [foldBreaksFrom, foldRun_eq_self hrun, List.append_nil]
  | cons c cs ih =>
    obtain ⟨hc, hrest⟩ := not_or.mp (mt List.mem_cons.mpr h)
    rw [foldBreaksFrom]
    split_ifs
    · rw [ih (by simp [hrun, hc]) hrest, List.append_assoc]
      rfl
    · rw [foldRun_eq_self hrun, ih List.not_mem_nil hrest]
      rfl

/-- Without a line break nothing is folded. -/
theorem foldBreaks_eq_self (h : '\n' ∉ cs) : foldBreaks cs = cs :=
  foldBreaksFrom_eq_append List.not_mem_nil h

theorem mem_foldRun {run : List Char} (h : c ∈ foldRun run) : c = ' ' ∨ c ∈ run := by
  unfold foldRun at h
  split_ifs at h
  · exact Or.inl (List.mem_singleton.mp h)
  · exact Or.inr h

theorem mem_foldBreaksFrom {run : List Char} (h : c ∈ foldBreaksFrom run cs) :
    c = ' ' ∨ c ∈ run ++ cs := by
  induction cs generalizing run with
  | nil => exact (mem_foldRun h).imp_right (List.mem_append_left [])
  | cons d cs ih =>
    rw [foldBreaksFrom] at h
    split_ifs at h
    · simpa using ih h
    · rcases List.mem_append.mp h with h | h
      · exact (mem_foldRun h).imp_right (List.mem_append_left _)
      · rcases List.mem_cons.mp h with rfl | h
        · simp
        · rcases ih h with h | h
          · exact Or.inl h
          · simp_all

theorem mem_foldBreaks (h : c ∈ foldBreaks cs) : c = ' ' ∨ c ∈ cs :=
  mem_foldBreaksFrom h

end SurfaceDrift.Text
