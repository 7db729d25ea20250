import Mathlib.Data.List.Sort
import Mathlib.Data.String.Basic
import SurfaceDrift.Terms.Weights

/-!
# Documents as bags of terms

What is learned from documents and what a document is weighed as count terms and nothing
else. Sorting forgets the order of the terms (`counts_eq_of_perm`), so the columns depend on
the terms of all documents together, up to their order (`mostFrequent_eq_of_perm`), and a row
on the terms of its document (`row_eq_of_perm`). A vocabulary further looks at how many
documents there are and how many of them hold a term (`vocabulary_congr`). Hence it stays the
same when the terms of each document change their order (`vocabulary_of_forall₂`) and when
the documents do (`vocabulary_of_perm`).
-/

namespace SurfaceDrift.Terms

/-! ## The columns -/

/-- Equal terms in other places are sorted into the same list. -/
theorem mergeSort_eq_of_perm {l m : List String} (h : l.Perm m) :
    l.mergeSort (fun a b => a ≤ b) = m.mergeSort fun a b => a ≤ b := by
  have hperm : (l.mergeSort fun a b => a ≤ b).Perm (m.mergeSort fun a b => a ≤ b) :=
    (List.mergeSort_perm l _).trans (h.trans (List.mergeSort_perm m _).symm)
  exact hperm.eq_of_pairwise (fun a b _ _ hab hba => le_antisymm hab hba)
    (List.pairwise_mergeSort' (· ≤ ·) l) (List.pairwise_mergeSort' (· ≤ ·) m)

theorem counts_eq_of_perm {l m : List String} (h : l.Perm m) : counts l = counts m := by
  unfold counts
  rw [mergeSort_eq_of_perm h]

theorem mostFrequent_eq_of_perm (limit : Nat) {l m : List String} (h : l.Perm m) :
    mostFrequent limit l = mostFrequent limit m := by
  unfold mostFrequent
  rw [counts_eq_of_perm h]

/-! ## The rows -/

theorem row_eq_of_perm (v : Vocabulary) {bag other : List String} (h : bag.Perm other) :
    row v bag = row v other := by
  have hcount : weighted v bag = weighted v other := by
    unfold weighted
    refine List.map_congr_left fun column _ => ?_
    rw [h.count_eq]
  unfold row
  rw [hcount]

theorem map_row_of_forall₂ (v : Vocabulary) {bags others : List (List String)}
    (h : List.Forall₂ List.Perm bags others) : bags.map (row v) = others.map (row v) := by
  induction h with
  | nil => rfl
  | cons hbag _ ih => rw [List.map_cons, List.map_cons, row_eq_of_perm v hbag, ih]

/-! ## The vocabulary -/

/-- A vocabulary looks at the terms of all documents, at the number of documents, and at the
number of those that hold a term. -/
theorem vocabulary_congr (log : Float → Float) (limit : Nat) {bags others : List (List String)}
    (hterms : bags.flatten.Perm others.flatten) (hlength : bags.length = others.length)
    (hholding : ∀ term : String, (bags.filter fun bag => bag.contains term).length =
      (others.filter fun bag => bag.contains term).length) :
    vocabulary log limit bags = vocabulary log limit others := by
  unfold vocabulary
  rw [mostFrequent_eq_of_perm limit hterms]
  simp only [hlength, hholding]

/-- The terms of each document in another order are the same to a vocabulary. -/
theorem vocabulary_of_forall₂ (log : Float → Float) (limit : Nat)
    {bags others : List (List String)} (h : List.Forall₂ List.Perm bags others) :
    vocabulary log limit bags = vocabulary log limit others := by
  refine vocabulary_congr log limit ?_ h.length_eq fun term => ?_
  · induction h with
    | nil => exact List.Perm.refl _
    | cons hbag _ ih =>
      simp only [List.flatten_cons]
      exact hbag.append ih
  · induction h with
    | nil => rfl
    | @cons bag other _ _ hbag _ ih =>
      have hsame : bag.contains term = other.contains term := by
        simp only [List.contains_eq_mem, hbag.mem_iff]
      simp only [List.filter_cons, hsame]
      split_ifs
      · simp only [List.length_cons, ih]
      · exact ih

/-- The documents in another order are the same to a vocabulary. -/
theorem vocabulary_of_perm (log : Float → Float) (limit : Nat) {bags others : List (List String)}
    (h : bags.Perm others) : vocabulary log limit bags = vocabulary log limit others :=
  vocabulary_congr log limit h.flatten h.length_eq fun _ => (h.filter _).length_eq

end SurfaceDrift.Terms
