import SurfaceDrift.Proofs.Canonical
import SurfaceDrift.Proofs.Fields
import SurfaceDrift.Proofs.Text.Blank
import SurfaceDrift.Proofs.Text.Casing

/-!
# Canonical forms are normal forms

A canonical text is tidy (`Text.IsTidy`) : no character has another lowercase form, not even a
sigma in any context, and there are single spaces only. A canonical name has no underscore
either. These are the texts that stay as they are (`canonicalProse_eq_self_iff`,
`canonicalName_eq_self_iff`).

A document is canonical (`Document.IsCanonical`) if its texts and names stay and the names in
every object ascend. Then no two names fall together, so that either policy returns the document
as it is (`canonicalDistinct_eq_ok`), and what either policy returns is canonical
(`isCanonical_canonical`). Hence `canonical_idempotent`.
-/

namespace SurfaceDrift

/-! ## Texts -/

/-- Lowercase whatever comes before or after, with single spaces between words. -/
structure Text.IsTidy (cs : List Char) : Prop where
  settled : ∀ c ∈ cs, IsSettled c
  spaced : IsSpaced cs

namespace Text

theorem isSettled_space : IsSettled ' ' := by
  decide +kernel

theorem isTidy_squeeze {cs : List Char} (h : ∀ c ∈ cs, IsSettled c) : IsTidy (squeeze cs) where
  settled c hc := by
    rcases mem_squeeze hc with rfl | ⟨hmem, -⟩
    · exact isSettled_space
    · exact h c hmem
  spaced := isSpaced_squeeze cs

theorem isSettled_of_mem_lower {s : String} {c : Char} (h : c ∈ (lower s).toList) :
    IsSettled c := by
  rw [lower, String.toList_ofList] at h
  exact isSettled_of_mem_lowerAfter h

theorem IsTidy.lower_eq {s : String} (h : IsTidy s.toList) : lower s = s := by
  rw [lower, lowerAfter_of_isSettled h.settled, String.ofList_toList]

end Text

theorem isTidy_canonicalName (s : String) : Text.IsTidy (canonicalName s).toList := by
  rw [canonicalName, String.toList_ofList]
  exact Text.isTidy_squeeze fun c hc => Text.isSettled_of_mem_lower (List.mem_of_mem_filter hc)

theorem underscore_not_mem_canonicalName (s : String) : '_' ∉ (canonicalName s).toList := by
  rw [canonicalName, String.toList_ofList]
  intro hmem
  rcases Text.mem_squeeze hmem with hspace | ⟨hmem, -⟩
  · cases hspace
  · simp at hmem

theorem canonicalName_eq_self_iff {s : String} :
    canonicalName s = s ↔ Text.IsTidy s.toList ∧ '_' ∉ s.toList := by
  constructor
  · intro h
    rw [← h]
    exact ⟨isTidy_canonicalName s, underscore_not_mem_canonicalName s⟩
  · rintro ⟨htidy, hnone⟩
    have hkept : s.toList.filter (· != '_') = s.toList := by
      refine List.filter_eq_self.mpr fun c hc => ?_
      rw [bne_iff_ne]
      rintro rfl
      exact hnone hc
    rw [canonicalName, htidy.lower_eq, hkept, htidy.spaced.squeeze_eq, String.ofList_toList]

theorem canonicalName_canonicalName (s : String) :
    canonicalName (canonicalName s) = canonicalName s :=
  canonicalName_eq_self_iff.mpr ⟨isTidy_canonicalName s, underscore_not_mem_canonicalName s⟩

theorem isTidy_canonicalProse (s : String) : Text.IsTidy (canonicalProse s).toList := by
  rw [canonicalProse, String.toList_ofList]
  refine Text.isTidy_squeeze fun c hc => ?_
  rcases Text.mem_foldBreaks hc with rfl | hmem
  · exact Text.isSettled_space
  · exact Text.isSettled_of_mem_lower hmem

theorem canonicalProse_eq_self_iff {s : String} :
    canonicalProse s = s ↔ Text.IsTidy s.toList := by
  constructor
  · intro h
    rw [← h]
    exact isTidy_canonicalProse s
  · intro htidy
    rw [canonicalProse, htidy.lower_eq, Text.foldBreaks_eq_self htidy.spaced.not_mem_break,
      htidy.spaced.squeeze_eq, String.ofList_toList]

theorem canonicalProse_canonicalProse (s : String) :
    canonicalProse (canonicalProse s) = canonicalProse s :=
  canonicalProse_eq_self_iff.mpr (isTidy_canonicalProse s)

/-! ## Documents -/

mutual

/-- Texts and names are canonical, and the names in every object ascend. -/
def Document.IsCanonical : Document → Prop
  | .list items => Document.AllCanonical items
  | .object fields => Fields.Ascending fields ∧ Document.AllCanonicalFields fields
  | .text s => canonicalName s = s
  | _ => True

/-- Every one of the documents is canonical. -/
def Document.AllCanonical : List Document → Prop
  | [] => True
  | d :: rest => d.IsCanonical ∧ Document.AllCanonical rest

/-- Every one of the documents is canonical, and so is its name. -/
def Document.AllCanonicalFields : List (String × Document) → Prop
  | [] => True
  | (name, d) :: rest =>
    (canonicalName name = name ∧ d.IsCanonical) ∧ Document.AllCanonicalFields rest

end

namespace Document

theorem allCanonicalFields_iff {fields : List (String × Document)} :
    AllCanonicalFields fields ↔
      ∀ entry ∈ fields, canonicalName entry.1 = entry.1 ∧ entry.2.IsCanonical := by
  induction fields with
  | nil => simp [AllCanonicalFields]
  | cons entry rest ih =>
    obtain ⟨name, d⟩ := entry
    rw [AllCanonicalFields, ih, List.forall_mem_cons]

end Document

mutual

/-- What is made canonical is canonical, at every depth. -/
theorem isCanonical_canonical : ∀ d : Document, (canonical d).IsCanonical
  | .list items => allCanonical_canonicalItems items
  | .object fields => by
    refine ⟨Fields.ascending_ofList _, Document.allCanonicalFields_iff.mpr fun entry hentry => ?_⟩
    exact Document.allCanonicalFields_iff.mp (allCanonicalFields_canonicalFields fields) entry
      (Fields.mem_of_mem_ofList hentry)
  | .text s => canonicalName_canonicalName s
  | .null | .bool _ | .number _ => trivial

theorem allCanonical_canonicalItems :
    ∀ items : List Document, Document.AllCanonical (canonicalItems items)
  | [] => trivial
  | d :: rest => ⟨isCanonical_canonical d, allCanonical_canonicalItems rest⟩

theorem allCanonicalFields_canonicalFields :
    ∀ fields : List (String × Document), Document.AllCanonicalFields (canonicalFields fields)
  | [] => trivial
  | (name, d) :: rest => ⟨⟨canonicalName_canonicalName name, isCanonical_canonical d⟩,
      allCanonicalFields_canonicalFields rest⟩

end

/-! ## Either policy -/

theorem collidesWith_eq_none {common : String} {seen : List (String × String)}
    (h : common ∉ seen.map Prod.fst) : collidesWith common seen = none := by
  induction seen with
  | nil => rfl
  | cons entry rest ih =>
    obtain ⟨form, name⟩ := entry
    rw [List.map_cons, List.mem_cons, not_or] at h
    rw [collidesWith, if_neg (Ne.symm h.1), ih h.2]

mutual

/-- A canonical document is not refused, and stays as it is. -/
theorem canonicalDistinct_eq_ok :
    ∀ {d : Document}, d.IsCanonical → canonicalDistinct d = .ok d
  | .list items, h => by
    rw [canonicalDistinct, canonicalDistinctItems_eq_ok h]
    rfl
  | .object fields, ⟨hascending, hfields⟩ => by
    have hnone : ∀ name ∈ Fields.names fields, name ∉ ([] : List (String × String)).map Prod.fst :=
      fun _ _ => List.not_mem_nil
    rw [canonicalDistinct, canonicalDistinctFields_eq_ok hfields hascending hnone]
    show Except.ok (Document.object (Fields.ofList fields)) = _
    rw [hascending.ofList_eq]
  | .text s, h => congrArg (fun t => Except.ok (Document.text t)) h
  | .null, _ | .bool _, _ | .number _, _ => rfl

theorem canonicalDistinctItems_eq_ok :
    ∀ {items : List Document}, Document.AllCanonical items →
      canonicalDistinctItems items = .ok items
  | [], _ => rfl
  | d :: rest, ⟨hd, hrest⟩ => by
    rw [canonicalDistinctItems, canonicalDistinct_eq_ok hd, canonicalDistinctItems_eq_ok hrest]
    rfl

/-- Canonical names that ascend, and that differ from those seen, do not fall together. -/
theorem canonicalDistinctFields_eq_ok :
    ∀ {seen : List (String × String)} {fields : List (String × Document)},
      Document.AllCanonicalFields fields → Fields.Ascending fields →
      (∀ name ∈ Fields.names fields, name ∉ seen.map Prod.fst) →
      canonicalDistinctFields seen fields = .ok fields
  | _, [], _, _, _ => rfl
  | seen, (name, d) :: rest, ⟨⟨hname, hd⟩, hrest⟩, hascending, hseen => by
    obtain ⟨hlater, hascending⟩ := Fields.ascending_cons.mp hascending
    have hfresh : collidesWith name seen = none :=
      collidesWith_eq_none (hseen name List.mem_cons_self)
    have hrestSeen : ∀ other ∈ Fields.names rest, other ∉ ((name, name) :: seen).map Prod.fst := by
      intro other hother hmem
      rcases List.mem_cons.mp hmem with rfl | hmem
      · exact lt_irrefl _ (hlater _ hother)
      · exact hseen other (List.mem_cons_of_mem name hother) hmem
    rw [canonicalDistinctFields, hname]
    simp only [hfresh]
    rw [canonicalDistinct_eq_ok hd, canonicalDistinctFields_eq_ok hrest hascending hrestSeen]
    rfl

end

theorem canonicalWith_eq_ok {d : Document} (h : d.IsCanonical) (policy : CollisionPolicy) :
    canonicalWith policy d = .ok d := by
  have hdistinct := canonicalDistinct_eq_ok h
  cases policy with
  | lastWriteWins => rw [canonicalWith, ← eq_canonical_of_canonicalDistinct hdistinct]
  | reject => exact hdistinct

/-- What is canonical stays as it is : names, prose, and documents under either policy. -/
theorem canonical_idempotent :
    (∀ s, canonicalName (canonicalName s) = canonicalName s) ∧
      (∀ s, canonicalProse (canonicalProse s) = canonicalProse s) ∧
      (∀ d, canonical (canonical d) = canonical d) ∧
      ∀ d policy d', canonicalWith policy d = .ok d' →
        ∀ policy', canonicalWith policy' d' = .ok d' := by
  refine ⟨canonicalName_canonicalName, canonicalProse_canonicalProse, fun d => ?_,
    fun d policy d' h policy' => ?_⟩
  · exact Except.ok.inj (canonicalWith_eq_ok (isCanonical_canonical d) .lastWriteWins)
  · rw [eq_canonical_of_canonicalWith h]
    exact canonicalWith_eq_ok (isCanonical_canonical d) policy'

/-- Names with underscores in an order that changes, and texts whose lowercase depends on what
is around a sigma or is longer. -/
def greek : Document :=
  .object [("LOGOS", .text "ΛΟΓΟΣ_  Σ"), ("_Items", .list [.text "İ_Σ", .object [("A B", .null)]])]

/-- The canonical document. -/
def greekCanonical : Document :=
  .object [("items", .list [.text "i̇σ", .object [("a b", .null)]]), ("logos", .text "λογος σ")]

theorem canonical_idempotent_greek :
    canonicalWith .reject greek = .ok greekCanonical ∧
      ∀ policy, canonicalWith policy greekCanonical = .ok greekCanonical := by
  have hnames : canonicalName "LOGOS" = "logos" ∧ canonicalName "_Items" = "items" ∧
      canonicalName "A B" = "a b" := by
    decide +kernel
  have htexts : canonicalName "ΛΟΓΟΣ_  Σ" = "λογος σ" ∧ canonicalName "İ_Σ" = "i̇σ" := by
    decide +kernel
  have hgreek : canonicalWith .reject greek = .ok greekCanonical := by
    simp only [canonicalWith, greek, canonicalDistinct, canonicalDistinctFields,
      canonicalDistinctItems, canonicalScalar, collidesWith, hnames, htexts]
    rfl
  obtain ⟨-, -, -, hstays⟩ := canonical_idempotent
  exact ⟨hgreek, hstays greek .reject greekCanonical hgreek⟩

end SurfaceDrift
