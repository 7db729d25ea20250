import Mathlib.Data.Set.Card
import SurfaceDrift.Proofs.Terms.Run
import SurfaceDrift.Proofs.Text.Bytes
import SurfaceDrift.Proofs.Text.Runs

/-!
# Which terms are columns

A term occurs in documents where it stands as a word in their texts (`occurrences`), and
counting lists every term once, with the number of its places (`isListing_terms`). Of such a
listing, in whatever order it is read, a number of terms is chosen (`chosen`). Which ones
these are is told by the numbers alone (`Selects`) : no other terms can be chosen
(`Selects.unique`), so that the order of the listing has no part in it. `fit_selects` : a
weighing fails to learn only where no term occurs, and else its columns are these terms.
-/

namespace SurfaceDrift.Terms

/-! ## Listings of what is counted -/

/-- A listing of all that occurs, each term once and with its number, in any order : what a
table without an order is read as. -/
structure IsListing (count : String → ℕ) (listed : List (String × ℕ)) : Prop where
  nodup : (listed.map Prod.fst).Nodup
  mem_iff : ∀ entry, entry ∈ listed ↔ 0 < entry.2 ∧ count entry.1 = entry.2

namespace IsListing

variable {count : String → ℕ} {listed : List (String × ℕ)}

theorem mem_names_iff (h : IsListing count listed) {term : String} :
    term ∈ listed.map Prod.fst ↔ 0 < count term := by
  constructor
  · intro hterm
    obtain ⟨entry, hentry, rfl⟩ := List.mem_map.mp hterm
    obtain ⟨hpos, hcount⟩ := (h.mem_iff entry).mp hentry
    rwa [hcount]
  · intro hpos
    exact List.mem_map_of_mem (f := Prod.fst) ((h.mem_iff (term, count term)).mpr ⟨hpos, rfl⟩)

theorem setOf_eq (h : IsListing count listed) :
    {term | 0 < count term} = ((listed.map Prod.fst).toFinset : Set String) := by
  ext term
  rw [Finset.mem_coe, List.mem_toFinset, h.mem_names_iff, Set.mem_ofPred_eq]

theorem ncard_eq (h : IsListing count listed) :
    {term | 0 < count term}.ncard = listed.length := by
  rw [h.setOf_eq, Set.ncard_coe_finset, List.toFinset_card_of_nodup h.nodup, List.length_map]

end IsListing

/-! ## Counting in a sorted list -/

/-- A term is counted with an equal one right after it, or begins to be counted. -/
theorem countRuns_cons_cases (first : String) (rest : List String) :
    (∃ n runs, countRuns rest = (first, n) :: runs ∧
      countRuns (first :: rest) = (first, n + 1) :: runs) ∨
    (∀ entry ∈ (countRuns rest).head?, first ≠ entry.1) ∧
      countRuns (first :: rest) = (first, 1) :: countRuns rest := by
  rw [countRuns]
  rcases countRuns rest with _ | ⟨⟨next, n⟩, runs⟩
  · exact Or.inr ⟨by simp, rfl⟩
  · by_cases heq : first = next
    · exact Or.inl ⟨n, runs, by rw [heq], by rw [heq]; exact if_pos rfl⟩
    · exact Or.inr ⟨by simpa using heq, if_neg heq⟩

theorem mem_names_countRuns {l : List String} {term : String} :
    term ∈ (countRuns l).map Prod.fst ↔ term ∈ l := by
  induction l with
  | nil => simp [countRuns]
  | cons first rest ih =>
    rw [List.mem_cons, ← ih]
    rcases countRuns_cons_cases first rest with ⟨n, runs, hrest, hcons⟩ | ⟨-, hcons⟩
    · simp [hrest, hcons]
    · rw [hcons, List.map_cons, List.mem_cons]

theorem ascending_countRuns {l : List String} (h : l.Pairwise (· ≤ ·)) :
    ((countRuns l).map Prod.fst).Pairwise (· < ·) := by
  induction l with
  | nil => exact List.Pairwise.nil
  | cons first rest ih =>
    obtain ⟨hfirst, hrest⟩ := List.pairwise_cons.mp h
    have ih := ih hrest
    have hle : ∀ term ∈ (countRuns rest).map Prod.fst, first ≤ term := fun term hterm =>
      hfirst term (mem_names_countRuns.mp hterm)
    rcases countRuns_cons_cases first rest with ⟨n, runs, hruns, hcons⟩ | ⟨hne, hcons⟩
    · rw [hruns] at ih
      rw [hcons]
      exact ih
    · rw [hcons, List.map_cons]
      refine List.pairwise_cons.mpr ⟨fun term hterm => ?_, ih⟩
      -- the first of the others comes later, and all others later still
      rcases hruns : countRuns rest with _ | ⟨next, runs⟩
      · rw [hruns] at hterm
        cases hterm
      · rw [hruns] at hne hle hterm ih
        have hlt : first < next.1 := lt_of_le_of_ne (hle _ List.mem_cons_self) (hne next rfl)
        rcases List.mem_cons.mp hterm with rfl | hterm
        · exact hlt
        · exact hlt.trans ((List.pairwise_cons.mp ih).1 term hterm)

/-- In a sorted list equal terms are neighbours, so that they are counted together. -/
theorem snd_of_mem_countRuns {l : List String} (h : l.Pairwise (· ≤ ·)) {entry : String × ℕ}
    (hentry : entry ∈ countRuns l) : entry.2 = l.count entry.1 := by
  induction l generalizing entry with
  | nil => cases hentry
  | cons first rest ih =>
    have hrest := (List.pairwise_cons.mp h).2
    have hascending := ascending_countRuns h
    rcases countRuns_cons_cases first rest with ⟨n, runs, hruns, hcons⟩ | ⟨-, hcons⟩
    · rw [hcons, List.map_cons, List.pairwise_cons] at hascending
      rw [hcons] at hentry
      rcases List.mem_cons.mp hentry with rfl | hentry
      · have hcount := ih hrest (hruns ▸ List.mem_cons_self)
        rw [List.count_cons_self, ← hcount]
      · have hlt := hascending.1 _ (List.mem_map_of_mem hentry)
        have hcount := ih hrest (hruns ▸ List.mem_cons_of_mem _ hentry)
        rw [List.count_cons_of_ne hlt.ne, hcount]
    · rw [hcons, List.map_cons, List.pairwise_cons] at hascending
      rw [hcons] at hentry
      rcases List.mem_cons.mp hentry with rfl | hentry
      · have hnot : first ∉ rest := fun hmem =>
          (hascending.1 first (mem_names_countRuns.mpr hmem)).false
        rw [List.count_cons_self, List.count_eq_zero_of_not_mem hnot]
      · have hlt := hascending.1 _ (List.mem_map_of_mem hentry)
        rw [List.count_cons_of_ne hlt.ne, ih hrest hentry]

/-- The distinct terms with their numbers are a listing. -/
theorem isListing_counts (l : List String) : IsListing l.count (counts l) := by
  have hsorted : (l.mergeSort fun a b => a ≤ b).Pairwise (· ≤ ·) :=
    List.pairwise_mergeSort' (· ≤ ·) l
  have hperm := List.mergeSort_perm l fun a b => a ≤ b
  have hnodup : ((counts l).map Prod.fst).Nodup := (ascending_countRuns hsorted).imp ne_of_lt
  have hcount : ∀ entry ∈ counts l, entry.2 = l.count entry.1 := fun entry hentry => by
    rw [snd_of_mem_countRuns hsorted hentry, hperm.count_eq]
  have hnames : ∀ term, term ∈ (counts l).map Prod.fst ↔ term ∈ l := fun term =>
    mem_names_countRuns.trans hperm.mem_iff
  refine ⟨hnodup, fun entry => ⟨fun hentry => ?_, fun ⟨hpos, heq⟩ => ?_⟩⟩
  · have hmem := (hnames entry.1).mp (List.mem_map_of_mem hentry)
    exact ⟨hcount entry hentry ▸ List.count_pos_iff.mpr hmem, (hcount entry hentry).symm⟩
  · have hmem := (hnames entry.1).mpr (List.count_pos_iff.mp (heq ▸ hpos))
    obtain ⟨found, hfound, hname⟩ := List.mem_map.mp hmem
    have hsame : found = entry := Prod.ext hname (by rw [hcount found hfound, hname, heq])
    exact hsame ▸ hfound

/-! ## The most frequent ones -/

theorem ranksBefore_iff {a b : String × ℕ} :
    ranksBefore a b = true ↔ b.2 < a.2 ∨ a.2 = b.2 ∧ a.1 ≤ b.1 := by
  simp [ranksBefore]

theorem ranksBefore_trans (a b c : String × ℕ) (hab : ranksBefore a b = true)
    (hbc : ranksBefore b c = true) : ranksBefore a c = true := by
  rw [ranksBefore_iff] at *
  rcases hab with hab | ⟨hab, hle⟩
  · left
    omega
  · rcases hbc with hbc | ⟨hbc, hle'⟩
    · left
      omega
    · exact Or.inr ⟨hab.trans hbc, hle.trans hle'⟩

theorem ranksBefore_total (a b : String × ℕ) : (ranksBefore a b || ranksBefore b a) = true := by
  rw [Bool.or_eq_true, ranksBefore_iff, ranksBefore_iff]
  rcases lt_trichotomy a.2 b.2 with h | h | h
  · exact Or.inr (Or.inl h)
  · rcases le_total a.1 b.1 with hle | hle
    · exact Or.inl (Or.inr ⟨h, hle⟩)
    · exact Or.inr (Or.inr ⟨h.symm, hle⟩)
  · exact Or.inl (Or.inl h)

/-- The names that a limit leaves of a listing. -/
def chosen (limit : ℕ) (listed : List (String × ℕ)) : List String :=
  (((listed.mergeSort ranksBefore).take limit).map Prod.fst).mergeSort fun a b => a ≤ b

theorem mostFrequent_eq_chosen (limit : ℕ) (l : List String) :
    mostFrequent limit l = chosen limit (counts l) := rfl

/-- The names are those that a limit leaves of all that occurs, in the order of their bytes. -/
structure Selects (count : String → ℕ) (limit : ℕ) (names : List String) : Prop where
  finite : {term | 0 < count term}.Finite
  ascending : names.Pairwise fun s t => Text.bytes s < Text.bytes t
  length_eq : names.length = min limit {term | 0 < count term}.ncard
  occurs : ∀ s ∈ names, 0 < count s
  /-- What is left out occurs less often, or as often and is later in the order of bytes. -/
  first : ∀ s ∈ names, ∀ t ∉ names, 0 < count t →
    count t < count s ∨ count s = count t ∧ Text.bytes s < Text.bytes t

theorem mem_chosen_iff {limit : ℕ} {listed : List (String × ℕ)} {term : String} :
    term ∈ chosen limit listed ↔
      term ∈ ((listed.mergeSort ranksBefore).take limit).map Prod.fst := by
  rw [chosen, List.mem_mergeSort]

theorem ascending_chosen {count : String → ℕ} {listed : List (String × ℕ)}
    (h : IsListing count listed) (limit : ℕ) : (chosen limit listed).Pairwise (· < ·) := by
  have hranked : ((listed.mergeSort ranksBefore).map Prod.fst).Nodup :=
    ((List.mergeSort_perm listed ranksBefore).map Prod.fst).nodup_iff.mpr h.nodup
  have hkept : (((listed.mergeSort ranksBefore).take limit).map Prod.fst).Nodup :=
    hranked.sublist ((List.take_sublist limit _).map Prod.fst)
  have hnodup : (chosen limit listed).Nodup := (List.mergeSort_perm _ _).nodup_iff.mpr hkept
  have hsorted : (chosen limit listed).Pairwise (· ≤ ·) := List.pairwise_mergeSort' (· ≤ ·) _
  exact hsorted.imp₂ (fun _ _ => lt_of_le_of_ne) hnodup

theorem selects_chosen {count : String → ℕ} {listed : List (String × ℕ)}
    (h : IsListing count listed) (limit : ℕ) : Selects count limit (chosen limit listed) := by
  have hranked := List.pairwise_mergeSort ranksBefore_trans ranksBefore_total listed
  have hkept : ∀ s ∈ chosen limit listed,
      (s, count s) ∈ (listed.mergeSort ranksBefore).take limit := fun s hs => by
    obtain ⟨entry, hentry, rfl⟩ := List.mem_map.mp (mem_chosen_iff.mp hs)
    have hlisted := List.mem_mergeSort.mp (List.mem_of_mem_take hentry)
    rwa [((h.mem_iff entry).mp hlisted).2]
  refine ⟨?_, ?_, ?_, fun s hs => ?_, fun s hs t ht hpos => ?_⟩
  · rw [h.setOf_eq]
    exact Finset.finite_toSet _
  · exact (ascending_chosen h limit).imp Text.bytes_lt_bytes_iff.mpr
  · rw [chosen, List.length_mergeSort, List.length_map, List.length_take, List.length_mergeSort,
      h.ncard_eq]
  · have hlisted := List.mem_mergeSort.mp (List.mem_of_mem_take (hkept s hs))
    exact ((h.mem_iff _).mp hlisted).1
  · have hmem : (t, count t) ∈ listed.mergeSort ranksBefore :=
      List.mem_mergeSort.mpr ((h.mem_iff _).mpr ⟨hpos, rfl⟩)
    rw [← List.take_append_drop limit (listed.mergeSort ranksBefore)] at hmem hranked
    have hleft : (t, count t) ∈ (listed.mergeSort ranksBefore).drop limit := by
      refine (List.mem_append.mp hmem).resolve_left fun htake => ht ?_
      exact mem_chosen_iff.mpr (List.mem_map_of_mem (f := Prod.fst) htake)
    have hbefore := (List.pairwise_append.mp hranked).2.2 _ (hkept s hs) _ hleft
    rcases ranksBefore_iff.mp hbefore with hless | ⟨heq, hle⟩
    · exact Or.inl hless
    · have hne : s ≠ t := fun heq => ht (heq ▸ hs)
      exact Or.inr ⟨heq, Text.bytes_lt_bytes_iff.mpr (lt_of_le_of_ne hle hne)⟩

theorem Selects.nodup {count : String → ℕ} {limit : ℕ} {names : List String}
    (h : Selects count limit names) : names.Nodup := by
  refine h.ascending.imp fun {s t} hlt heq => ?_
  rw [heq] at hlt
  exact List.lt_irrefl _ hlt

/-- No other names are left : of two that are not in both, each would come before the other. -/
theorem Selects.unique {count : String → ℕ} {limit : ℕ} {names others : List String}
    (h : Selects count limit names) (hothers : Selects count limit others) : names = others := by
  have hlength : names.length = others.length := h.length_eq.trans hothers.length_eq.symm
  have hperm : names.Perm others := by
    by_cases hsubset : names ⊆ others
    · exact (h.nodup.subperm hsubset).perm_of_length_le hlength.ge
    by_cases hback : others ⊆ names
    · exact ((hothers.nodup.subperm hback).perm_of_length_le hlength.le).symm
    obtain ⟨s, hs, hnot⟩ : ∃ s ∈ names, s ∉ others := by simpa [List.subset_def] using hsubset
    obtain ⟨t, ht, hnot'⟩ : ∃ t ∈ others, t ∉ names := by simpa [List.subset_def] using hback
    rcases h.first s hs t hnot' (hothers.occurs t ht) with hst | ⟨hst, hlt⟩ <;>
      rcases hothers.first t ht s hnot (h.occurs s hs) with hts | ⟨hts, hlt'⟩
    · omega
    · omega
    · omega
    · exact absurd hlt' (List.lt_asymm hlt)
  exact hperm.eq_of_pairwise (fun _ _ _ _ hlt hlt' => absurd hlt' (List.lt_asymm hlt))
    h.ascending hothers.ascending

/-! ## What occurs in documents -/

/-- How often a word occurs as a term in documents : once at each place where it stands in
their texts in lowercase, but nowhere if it is a single character or a stop word. -/
noncomputable def occurrences (stopWords : StopWords) (data : List Document) (word : String) : ℕ :=
  if 2 ≤ word.length ∧ stopWords.contains word = false then
    (data.map fun d => (Text.placesOf word.toList (Text.lower d.plainText).toList).ncard).sum
  else 0

theorem count_terms (stopWords : StopWords) (d : Document) (word : String) :
    (terms stopWords d).count word =
      if 2 ≤ word.length ∧ stopWords.contains word = false then
        (Text.placesOf word.toList (Text.lower d.plainText).toList).ncard
      else 0 := by
  rw [← Text.count_words, terms]
  split_ifs with h
  · exact List.count_filter (by simpa using h)
  · refine List.count_eq_zero_of_not_mem fun hmem => h ?_
    simpa using (List.mem_filter.mp hmem).2

/-- The terms of all documents are counted by where they stand. -/
theorem count_flatten_terms (stopWords : StopWords) (data : List Document) (word : String) :
    (data.map (terms stopWords)).flatten.count word = occurrences stopWords data word := by
  rw [List.count_flatten, List.map_map, occurrences]
  split_ifs with h <;> simp [Function.comp_def, count_terms, h]

theorem isListing_terms (stopWords : StopWords) (data : List Document) :
    IsListing (occurrences stopWords data) (counts (data.map (terms stopWords)).flatten) := by
  rw [← funext (count_flatten_terms stopWords data)]
  exact isListing_counts _

/-! ## What is learned -/

theorem fit_of_vocabulary {params : Params} {data : List Document}
    {learned : Except Error Vocabulary}
    (h : vocabulary Float.log params.maxFeatures (data.map (terms params.stopWords)) = learned)
    (state : Option Vocabulary) :
    (learner params).fit data state = Learner.remember (learned.mapError .error) state :=
  h ▸ rfl

theorem transform_told (params : Params) (v : Vocabulary) (data : List Document) :
    ∃ answer, (learner params).transform (some v) data = .ok answer ∧
      answer.get? "feature_names" = some (.list (v.names.map Document.text)) :=
  ⟨_, rfl, (features v (data.map (terms params.stopWords))).get?_toDocument.1⟩

theorem one_le_maxFeatures {given : SurfaceDrift.Params} {params : Params}
    (h : Params.of given = .ok params) : 1 ≤ params.maxFeatures := by
  rw [Params.of, bind_eq_ok_iff] at h
  obtain ⟨options, -, h⟩ := h
  obtain ⟨maxFeatures, -, h⟩ := bind_eq_ok_iff.mp h
  split_ifs at h with hless
  obtain ⟨words, -, h⟩ := bind_eq_ok_iff.mp h
  obtain rfl := Except.ok.inj h
  dsimp only
  omega

/-- Where no term occurs, there is nothing to learn and what was held stays. Else the most
frequent terms are learned as columns, in the order of their bytes, and they are the same from
every listing of what occurs. -/
theorem fit_selects {given : SurfaceDrift.Params} {params : Params}
    (h : Params.of given = .ok params) (data : List Document) (state : Option Vocabulary) :
    let count := occurrences params.stopWords data
    let result := (learner params).fit data state
    (∀ t, count t = 0) ∧ result = (.error (.error (.data .emptyVocabulary)), state) ∨
    (∃ t, 0 < count t) ∧ ∃ v, result = (.ok (), some v) ∧
      Selects count params.maxFeatures v.names ∧
      (∀ listed, IsListing count listed →
        v = columnsFor Float.log (data.map (terms params.stopWords))
          (chosen params.maxFeatures listed)) ∧
      ∀ others, ∃ answer, (learner params).transform (some v) others = .ok answer ∧
        answer.get? "feature_names" = some (.list (v.names.map Document.text)) := by
  have hlimit := one_le_maxFeatures h
  have hcount := count_flatten_terms params.stopWords data
  have hlisting := isListing_terms params.stopWords data
  dsimp only
  rcases hbag : (data.map (terms params.stopWords)).flatten with _ | ⟨term, rest⟩
  · have hnone : mostFrequent params.maxFeatures (data.map (terms params.stopWords)).flatten = [] :=
      mostFrequent_eq_nil_iff.mpr (Or.inr hbag)
    refine Or.inl ⟨fun t => ?_, fit_of_vocabulary (vocabulary_of_eq_nil Float.log hnone) state⟩
    rw [← hcount, hbag, List.count_nil]
  · have hne : mostFrequent params.maxFeatures (data.map (terms params.stopWords)).flatten ≠ [] :=
      fun hnone => by
        rcases mostFrequent_eq_nil_iff.mp hnone with hzero | hnil
        · omega
        · exact absurd (hbag.symm.trans hnil) (List.cons_ne_nil _ _)
    refine Or.inr ⟨⟨term, ?_⟩, _, fit_of_vocabulary (vocabulary_of_ne_nil Float.log hne) state,
      ?_, fun listed hlisted => ?_, transform_told params _⟩
    · rw [← hcount, hbag, List.count_cons_self]
      exact Nat.succ_pos _
    · rw [names_columnsFor, mostFrequent_eq_chosen]
      exact selects_chosen hlisting params.maxFeatures
    · have hsame := (selects_chosen hlisting params.maxFeatures).unique (selects_chosen hlisted _)
      rw [mostFrequent_eq_chosen, hsame]

theorem fit_selects_two :
    Params.of [("max_features", .ofNat 2)] = .ok ⟨2, .english⟩ ∧
      ∃ v, (learner ⟨2, .english⟩).fit
          [.text "zeta zeta zeta alpha", .text "beta beta mu"] none = (.ok (), some v) ∧
        v.names = ["beta", "zeta"] ∧
        Selects (occurrences .english [.text "zeta zeta zeta alpha", .text "beta beta mu"]) 2
          ["beta", "zeta"] := by
  have hparams : Params.of [("max_features", .ofNat 2)] = .ok ⟨2, .english⟩ := rfl
  have hbag : ([.text "zeta zeta zeta alpha", .text "beta beta mu"].map (terms .english)).flatten =
      ["zeta", "zeta", "zeta", "alpha", "beta", "beta", "mu"] := by decide +kernel
  have hkept : mostFrequent 2 ["zeta", "zeta", "zeta", "alpha", "beta", "beta", "mu"] =
      ["beta", "zeta"] := by
    simp [mostFrequent, counts, List.mergeSort, List.MergeSort.Internal.splitInTwo, countRuns,
      ranksBefore]
  refine ⟨hparams, ?_⟩
  rcases fit_selects hparams [.text "zeta zeta zeta alpha", .text "beta beta mu"] none with
    ⟨hnone, -⟩ | ⟨-, v, hfit, hselects, hlisted, -⟩
  · have hzeta := hnone "zeta"
    rw [← count_flatten_terms, hbag] at hzeta
    exact absurd hzeta (by decide)
  · have hnames : v.names = ["beta", "zeta"] := by
      rw [hlisted _ (isListing_terms .english _), names_columnsFor, hbag, ← mostFrequent_eq_chosen,
        hkept]
    rw [hnames] at hselects
    exact ⟨v, hfit, hnames, hselects⟩

end SurfaceDrift.Terms
