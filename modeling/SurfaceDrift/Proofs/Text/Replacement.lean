import Mathlib.Data.List.DropRight
import SurfaceDrift.Proofs.Text.Blank

/-!
# Blanks between the chunks of a text

A text is read from left to right, and where a match begins, the longest one becomes a space
(`Replaced`). `collapse` does so with the runs of blanks, and `foldBreaks` with the line breaks and
the blanks around them : a run that holds a line break is one match from its beginning on, however
many breaks are in it, and in any other run there is no match at all.

Replacing blanks by a space moves no border between the chunks of a text, which are its longest
parts without a blank (`Replaced.chunks_eq`). A text with single spaces is its chunks with a space
between two of them (`IsSpaced.intercalate_chunks`), and so is what `squeeze` makes of any text
(`squeeze_eq_intercalate`). The line breaks need not be folded before (`squeeze_foldBreaks`).
-/

namespace SurfaceDrift.Text

variable {c : Char} {cs ds out run m : List Char}

/-! ## Matches -/

/-- One or more blanks. -/
def IsBlankRun (m : List Char) : Prop := m ≠ [] ∧ ∀ c ∈ m, isBlank c = true

/-- A line break with any blanks around it. -/
def IsLineBreak (m : List Char) : Prop :=
  ∃ before after, m = before ++ '\n' :: after ∧ ∀ c ∈ before ++ after, isBlank c = true

theorem isLineBreak_iff : IsLineBreak m ↔ '\n' ∈ m ∧ ∀ c ∈ m, isBlank c = true := by
  constructor
  · rintro ⟨before, after, rfl, hblank⟩
    refine ⟨by simp, fun c hc => ?_⟩
    simp only [List.mem_append, List.mem_cons] at hc hblank
    rcases hc with hc | rfl | hc
    · exact hblank c (Or.inl hc)
    · decide
    · exact hblank c (Or.inr hc)
  · rintro ⟨hmem, hblank⟩
    obtain ⟨before, after, rfl⟩ := List.append_of_mem hmem
    refine ⟨before, after, rfl, fun c hc => hblank c ?_⟩
    simp only [List.mem_append, List.mem_cons] at hc ⊢
    tauto

theorem IsLineBreak.isBlankRun (h : IsLineBreak m) : IsBlankRun m :=
  ⟨List.ne_nil_of_mem (isLineBreak_iff.mp h).1, (isLineBreak_iff.mp h).2⟩

/-- The second text is the first one with a space for every match, taken from left to right, of
those that begin at one place the longest. -/
inductive Replaced (Matches : List Char → Prop) : List Char → List Char → Prop
  | nil : Replaced Matches [] []
  | keep {c : Char} {cs out : List Char} (hnone : ∀ m, m <+: c :: cs → ¬ Matches m)
    (hrest : Replaced Matches cs out) : Replaced Matches (c :: cs) (c :: out)
  | replace {m cs out : List Char} (hmatch : Matches m)
    (hlongest : ∀ m', m' <+: m ++ cs → Matches m' → m' <+: m)
    (hrest : Replaced Matches cs out) : Replaced Matches (m ++ cs) (' ' :: out)

/-! ## Runs of blanks -/

/-- A text comes apart into characters that are no blanks and runs of blanks that nothing
carries on. -/
theorem inductByRuns {motive : List Char → Prop} (nil : motive [])
    (keep : ∀ c cs, isBlank c = false → motive cs → motive (c :: cs))
    (run : ∀ run rest, IsBlankRun run → (∀ c ∈ rest.head?, isBlank c = false) → motive rest →
      motive (run ++ rest)) (cs : List Char) : motive cs := by
  rcases cs with _ | ⟨c, cs⟩
  · exact nil
  · cases hc : isBlank c with
    | false => exact keep c cs hc (inductByRuns nil keep run cs)
    | true =>
      have hsplit : c :: cs = (c :: cs.takeWhile isBlank) ++ cs.dropWhile isBlank := by
        rw [List.cons_append, List.takeWhile_append_dropWhile]
      have hshorter : (cs.dropWhile isBlank).length ≤ cs.length :=
        (List.dropWhile_suffix _).length_le
      rw [hsplit]
      refine run _ _ ⟨by simp, ?_⟩ (fun d hd => head?_dropWhile_eq_false hd)
        (inductByRuns nil keep run (cs.dropWhile isBlank))
      intro d hd
      rcases List.mem_cons.mp hd with rfl | hd
      · exact hc
      · exact List.mem_takeWhile_imp hd
termination_by cs.length

/-- Blanks at the beginning of a text are in its first run. -/
theorem isPrefix_run (hrest : ∀ c ∈ cs.head?, isBlank c = false)
    (hm : ∀ c ∈ m, isBlank c = true) (h : m <+: run ++ cs) : m <+: run := by
  induction run generalizing m with
  | nil =>
    cases m with
    | nil => exact List.prefix_refl []
    | cons d m =>
      obtain ⟨rest, rfl⟩ := h
      have hd := hrest d rfl
      rw [hm d List.mem_cons_self] at hd
      cases hd
  | cons d run ih =>
    cases m with
    | nil => exact List.nil_prefix
    | cons e m =>
      rw [List.cons_append, List.cons_prefix_cons] at h
      rw [List.cons_prefix_cons]
      exact ⟨h.1, ih (fun c hc => hm c (List.mem_cons_of_mem e hc)) h.2⟩

/-- No match of blanks begins with another character. -/
theorem not_of_isBlank_eq_false {Matches : List Char → Prop}
    (hblank : ∀ m, Matches m → IsBlankRun m) (hc : isBlank c = false) (h : m <+: c :: cs) :
    ¬ Matches m := by
  intro hmatch
  obtain ⟨hne, hm⟩ := hblank m hmatch
  obtain ⟨d, m, rfl⟩ := List.exists_cons_of_ne_nil hne
  have hd := hm d List.mem_cons_self
  rw [(List.cons_prefix_cons.mp h).1, hc] at hd
  cases hd

theorem collapse_append (hrun : IsBlankRun run) (hrest : ∀ c ∈ cs.head?, isBlank c = false) :
    collapse (run ++ cs) = ' ' :: collapse cs := by
  obtain ⟨hne, hblank⟩ := hrun
  induction run with
  | nil => exact absurd rfl hne
  | cons d run ih =>
    have hd := hblank d List.mem_cons_self
    rw [List.cons_append, collapse_cons, if_pos hd]
    rcases run with _ | ⟨e, run⟩
    · have hhead : ¬ cs.head?.any isBlank = true := by
        cases hcs : cs.head? with
        | none => simp
        | some c => simp [hrest c hcs]
      rw [List.nil_append, if_neg hhead]
    · have hnext : ((e :: run) ++ cs).head?.any isBlank = true := by simp [hblank e (by simp)]
      rw [if_pos hnext]
      exact ih (by simp) fun c hc => hblank c (List.mem_cons_of_mem d hc)

/-- `collapse` replaces the runs of blanks. -/
theorem replaced_collapse (cs : List Char) : Replaced IsBlankRun cs (collapse cs) := by
  induction cs using inductByRuns with
  | nil => exact .nil
  | keep c cs hc ih =>
    rw [collapse_cons, hc]
    exact .keep (fun m hm => not_of_isBlank_eq_false (fun _ => id) hc hm) ih
  | run run rest hrun hrest ih =>
    rw [collapse_append hrun hrest]
    exact .replace hrun (fun m hm hmatch => isPrefix_run hrest hmatch.2 hm) ih

theorem foldBreaksFrom_append (hblank : ∀ c ∈ run, isBlank c = true)
    (hrest : ∀ c ∈ cs.head?, isBlank c = false) (before : List Char) :
    foldBreaksFrom before (run ++ cs) = foldRun (before ++ run) ++ foldBreaks cs := by
  induction run generalizing before with
  | nil =>
    cases cs with
    | nil => simp [foldBreaks, foldBreaksFrom, foldRun]
    | cons c cs => simp [foldBreaks, foldBreaksFrom, foldRun, hrest c rfl]
  | cons d run ih =>
    rw [List.cons_append, foldBreaksFrom, if_pos (hblank d List.mem_cons_self),
      ih fun c hc => hblank c (List.mem_cons_of_mem d hc), List.append_assoc, List.singleton_append]

theorem foldBreaks_append (hblank : ∀ c ∈ run, isBlank c = true)
    (hrest : ∀ c ∈ cs.head?, isBlank c = false) :
    foldBreaks (run ++ cs) = foldRun run ++ foldBreaks cs :=
  foldBreaksFrom_append hblank hrest []

/-- A run of blanks without a line break stays, since no match begins in it. -/
theorem Replaced.keep_run (hbreak : '\n' ∉ run) (hrest : ∀ c ∈ cs.head?, isBlank c = false)
    (h : Replaced IsLineBreak cs out) : Replaced IsLineBreak (run ++ cs) (run ++ out) := by
  induction run with
  | nil => exact h
  | cons d run ih =>
    refine .keep (fun m hm hmatch => ?_) (ih (mt (List.mem_cons_of_mem d) hbreak))
    obtain ⟨hmem, hm'⟩ := isLineBreak_iff.mp hmatch
    exact hbreak ((isPrefix_run hrest hm' hm).subset hmem)

/-- `foldBreaks` replaces the line breaks with the blanks around them. -/
theorem replaced_foldBreaks (cs : List Char) : Replaced IsLineBreak cs (foldBreaks cs) := by
  induction cs using inductByRuns with
  | nil => exact .nil
  | keep c cs hc ih =>
    have hfold : foldBreaks (c :: cs) = c :: foldBreaks cs := by
      simp [foldBreaks, foldBreaksFrom, foldRun, hc]
    rw [hfold]
    exact .keep (fun m hm => not_of_isBlank_eq_false (fun _ => IsLineBreak.isBlankRun) hc hm) ih
  | run run rest hrun hrest ih =>
    rw [foldBreaks_append hrun.2 hrest]
    by_cases hbreak : '\n' ∈ run
    · rw [foldRun, if_pos (List.contains_iff_mem.mpr hbreak)]
      exact .replace (isLineBreak_iff.mpr ⟨hbreak, hrun.2⟩)
        (fun m hm hmatch => isPrefix_run hrest hmatch.isBlankRun.2 hm) ih
    · rw [foldRun_eq_self hbreak]
      exact ih.keep_run hbreak hrest

/-! ## Chunks -/

/-- The longest parts of a text without a blank. -/
def chunks (cs : List Char) : List (List Char) :=
  (cs.splitOnP isBlank).filter fun chunk => !chunk.isEmpty

@[simp]
theorem chunks_nil : chunks [] = [] := by simp [chunks]

/-- A blank keeps apart what is on either side of it. -/
theorem chunks_append_cons (hc : isBlank c = true) (cs ds : List Char) :
    chunks (cs ++ c :: ds) = chunks cs ++ chunks ds := by
  rw [chunks, List.splitOnP_append_cons _ _ hc, List.filter_append]
  rfl

theorem chunks_cons (hc : isBlank c = true) (cs : List Char) : chunks (c :: cs) = chunks cs := by
  simpa using chunks_append_cons hc [] cs

theorem chunks_append_run (hrun : IsBlankRun run) (cs ds : List Char) :
    chunks (cs ++ (run ++ ds)) = chunks cs ++ chunks ds := by
  obtain ⟨hne, hblank⟩ := hrun
  obtain ⟨c, run, rfl⟩ := List.exists_cons_of_ne_nil hne
  rw [List.cons_append, chunks_append_cons (hblank c List.mem_cons_self)]
  congr 1
  induction run with
  | nil => rfl
  | cons d run ih =>
    rw [List.cons_append, chunks_cons (hblank d (by simp))]
    exact ih (by simp) fun e he => hblank e (by simp at he ⊢; tauto)

/-- A space in the place of blanks keeps the same chunks apart. -/
theorem Replaced.chunks_eq {Matches : List Char → Prop} (hblank : ∀ m, Matches m → IsBlankRun m)
    (h : Replaced Matches cs out) : chunks out = chunks cs := by
  -- What was read before the place of the next match is carried along : a chunk may begin there.
  suffices hbefore : ∀ before, chunks (before ++ out) = chunks (before ++ cs) from hbefore []
  induction h with
  | nil => exact fun _ => rfl
  | @keep c cs out _ _ ih =>
    intro before
    simpa using ih (before ++ [c])
  | replace hmatch _ _ ih =>
    intro before
    rw [chunks_append_cons rfl, chunks_append_run (hblank _ hmatch)]
    exact congrArg _ (ih [])

/-! ## Single spaces -/

theorem chunks_dropWhile (cs : List Char) : chunks (cs.dropWhile isBlank) = chunks cs := by
  induction cs with
  | nil => rfl
  | cons c cs ih =>
    rw [List.dropWhile_cons]
    split_ifs with hc
    · rw [ih, chunks_cons hc]
    · rfl

theorem chunks_rdropWhile (cs : List Char) : chunks (cs.rdropWhile isBlank) = chunks cs := by
  induction cs using List.reverseRecOn with
  | nil => rfl
  | append_singleton cs c ih =>
    rw [List.rdropWhile_concat]
    split_ifs with hc
    · rw [ih, chunks_append_cons hc, chunks_nil, List.append_nil]
    · rfl

theorem chunks_squeeze (cs : List Char) : chunks (squeeze cs) = chunks cs := by
  have hstrip : squeeze cs = ((collapse cs).dropWhile isBlank).rdropWhile isBlank := rfl
  rw [hstrip, chunks_rdropWhile, chunks_dropWhile, (replaced_collapse cs).chunks_eq fun _ => id]

/-- Between blanks that are not neighbours something stands, and also after the last one. -/
theorem splitOnP_of_blanksApart (hapart : BlanksApart cs)
    (hlast : ∀ c ∈ cs.getLast?, isBlank c = false) :
    ∃ first rest, cs.splitOnP isBlank = first :: rest ∧ [] ∉ rest ∧
      (first = [] → cs = [] ∨ cs.head?.any isBlank = true) := by
  induction cs with
  | nil => exact ⟨[], [], by simp, by simp, by simp⟩
  | cons c cs ih =>
    obtain ⟨hnext, hapart⟩ := List.isChain_cons.mp hapart
    have hlast' : ∀ d ∈ cs.getLast?, isBlank d = false := by
      intro d hd
      refine hlast d ?_
      rw [List.getLast?_cons, Option.mem_def.mp hd]
      rfl
    obtain ⟨first, rest, hsplit, hrest, hfirst⟩ := ih hapart hlast'
    rw [List.splitOnP_cons_eq_if_modifyHead, hsplit]
    cases hc : isBlank c with
    | false => exact ⟨c :: first, rest, by simp, hrest, by simp⟩
    | true =>
      refine ⟨[], first :: rest, by simp, ?_, by simp [hc]⟩
      have hne : first ≠ [] := by
        intro hnil
        rcases hfirst hnil with rfl | hhead
        · simpa [hc] using hlast c (by simp)
        · cases hcs : cs.head? with
          | none => simp [hcs] at hhead
          | some d => simp [hcs, hnext d hcs hc] at hhead
      simp [hne.symm, hrest]

theorem splitOnP_eq_splitOn (h : ∀ c ∈ cs, isBlank c = true → c = ' ') :
    cs.splitOnP isBlank = cs.splitOn ' ' := by
  induction cs with
  | nil => simp
  | cons c cs ih =>
    have hc : isBlank c = (c == ' ') := by
      rw [Bool.eq_iff_iff, beq_iff_eq]
      refine ⟨h c List.mem_cons_self, ?_⟩
      rintro rfl
      rfl
    rw [List.splitOnP_cons_eq_if_modifyHead, List.splitOn_cons_eq_if_modifyHead, hc,
      ih fun d hd => h d (List.mem_cons_of_mem c hd)]

/-- A text with single spaces is its chunks with a space between two of them. -/
theorem IsSpaced.intercalate_chunks (h : IsSpaced cs) : [' '].intercalate (chunks cs) = cs := by
  rcases eq_or_ne cs [] with rfl | hne
  · rfl
  obtain ⟨first, rest, hsplit, hrest, hfirst⟩ := splitOnP_of_blanksApart h.apart h.last
  have hfirst' : first ≠ [] := by
    intro hnil
    rcases hfirst hnil with hnil | hhead
    · exact hne hnil
    · cases hc : cs.head? with
      | none => simp [hc] at hhead
      | some c => simp [hc, h.first c hc] at hhead
  have hall : chunks cs = cs.splitOnP isBlank := by
    refine List.filter_eq_self.mpr fun chunk hchunk => ?_
    rw [hsplit, List.mem_cons] at hchunk
    rcases hchunk with rfl | hchunk
    · simpa using hfirst'
    · simpa using ne_of_mem_of_not_mem hchunk hrest
  rw [hall, splitOnP_eq_splitOn h.spaces, List.intercalate_splitOn]

/-- The chunks of a text with a space between two of them are what is left of it. -/
theorem squeeze_eq_intercalate (cs : List Char) : squeeze cs = [' '].intercalate (chunks cs) := by
  rw [← chunks_squeeze, (isSpaced_squeeze cs).intercalate_chunks]

/-- Line breaks that become spaces first make no difference. -/
theorem squeeze_foldBreaks (cs : List Char) : squeeze (foldBreaks cs) = squeeze cs := by
  rw [squeeze_eq_intercalate, squeeze_eq_intercalate,
    (replaced_foldBreaks cs).chunks_eq fun _ => IsLineBreak.isBlankRun]

end SurfaceDrift.Text
