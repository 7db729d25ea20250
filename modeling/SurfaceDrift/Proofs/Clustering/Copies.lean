import SurfaceDrift.Proofs.Clustering.Mapping
import SurfaceDrift.Proofs.Decimal.Order
import SurfaceDrift.Proofs.Density.Reach
import SurfaceDrift.Proofs.Options
import SurfaceDrift.Proofs.Text.Edits

/-!
# Copies of a surface

Samples of one text are at distance zero from each other. Where there are as many of them as
a core point needs neighbours, each of them is a core point and all are neighbours, so that
they share the number of a cluster (`exists_label_of_text`). A surface that stands among the
data that often gives every one of its elements that many samples of one text
(`fitTransform_copies`) : whatever else there is among the data, an element has one label in
all copies, and it is not noise.
-/

namespace SurfaceDrift.Clustering

open Density

/-! ## Samples of one text -/

/-- A radius that is accepted is at least zero. -/
theorem zero_le_radius_of_paramsOf {given : SurfaceDrift.Params} {params : Params}
    (h : Params.of given = .ok params) : 0.0 ≤ params.radius := by
  rw [Params.of, bind_eq_ok_iff] at h
  obtain ⟨options, -, h⟩ := h
  obtain ⟨radius, hradius, h⟩ := bind_eq_ok_iff.mp h
  split_ifs at h with hle
  obtain ⟨minSamples, -, h⟩ := bind_eq_ok_iff.mp h
  split_ifs at h
  obtain rfl := Except.ok.inj h
  exact Decimal.le_of_not_le (by decide) (Options.isFinite_of_float (by decide) hradius) hle

/-- A text is at distance zero from itself, unless the quotient is no number. -/
theorem relativeEditDistance_self_le {text : String} {radius : Float}
    (hfinite : Decimal.isFinite (Text.relativeEditDistance text text) = true)
    (hradius : 0.0 ≤ radius) : Text.relativeEditDistance text text ≤ radius := by
  have hzero : Float.ofNat 0 = 0.0 := by decide
  unfold Text.relativeEditDistance at hfinite ⊢
  dsimp only at hfinite ⊢
  split_ifs at hfinite ⊢
  · exact hradius
  · rw [Text.editDistance_self, hzero] at hfinite ⊢
    exact Decimal.zero_div_le hfinite hradius

/-- The sample at a place is compared by this text. -/
def HasText (found : List Sample) (text : String) (place : Nat) : Prop :=
  (found[place]?).map Sample.point = some (.text text)

/-- Samples of one text are neighbours. -/
theorem mem_of?_of_hasText {params : Params} {found : List Sample} {text : String} {p q : Nat}
    (hradius : 0.0 ≤ params.radius)
    (hfinite : ∀ row ∈ distancesOf found, ∀ x ∈ row, Decimal.isFinite x)
    (hp : HasText found text p) (hq : HasText found text q) :
    q ∈ (Neighbourhoods.of (distancesOf found) params.radius params.minSamples).of? p := by
  rw [HasText, ← List.getElem?_map] at hp hq
  have hrow : (distancesOf found)[p]? = some _ := Point.getElem?_distanceMatrix hp
  have hentry := Point.getElem?_distanceRow (p := p) (a := .text text) hq
  refine mem_of?_of_iff.mpr ⟨_, _, hrow, hentry, ?_⟩
  split_ifs at hentry ⊢ with hpq
  · exact hradius
  · have hfin := hfinite _ (List.mem_of_getElem? hrow) _ (List.mem_of_getElem? hentry)
    exact relativeEditDistance_self_le hfin hradius

/-- Samples of one text, as many as a core point needs neighbours, are in one cluster. -/
theorem exists_label_of_text {params : Params} {found : List Sample} {text : String}
    {places : List Nat} (hradius : 0.0 ≤ params.radius)
    (hfinite : ∀ row ∈ distancesOf found, ∀ x ∈ row, Decimal.isFinite x)
    (hnodup : places.Nodup) (htext : ∀ p ∈ places, HasText found text p)
    (hcount : params.minSamples ≤ places.length) :
    ∃ label, label ≠ noise ∧
      ∀ p, HasText found text p → (labelsOf params found)[p]? = some label := by
  let g := Neighbourhoods.of (distancesOf found) params.radius params.minSamples
  have hnear : ∀ p q, HasText found text p → HasText found text q → q ∈ g.of? p :=
    fun p q hp hq => mem_of?_of_hasText hradius hfinite hp hq
  have hcore : ∀ p, HasText found text p → g.isCore p = true := by
    intro p hp
    have hlength : places.length ≤ (g.of? p).length :=
      (List.subperm_of_subset hnodup fun q hq => hnear p q hp (htext q hq)).length_le
    exact decide_eq_true (hcount.trans hlength)
  by_cases hsome : ∃ p, HasText found text p
  · obtain ⟨p, hp⟩ := hsome
    have hself : g.Leads p p := ⟨hcore p hp, hnear p p hp hp⟩
    obtain ⟨c, hc⟩ := exists_label_of_isCore (Neighbourhoods.lt_of_leads hself) (hcore p hp)
    refine ⟨number (some c), ?_, fun q hq => ?_⟩
    · show (c : Int) ≠ -1
      omega
    · have hq' := hc q (.single ⟨hcore p hp, hnear p q hp hq⟩)
        (.single ⟨hcore q hq, hnear q p hq hp⟩)
      rw [labelsOf, List.getElem?_map]
      exact congrArg (Option.map number) hq'
  · exact ⟨0, by decide, fun p hp => absurd ⟨p, hp⟩ hsome⟩

/-! ## Surfaces among the data -/

/-- The document at a place describes the surface. -/
def HoldsAt (data : List Document) (index : Nat) (surface : Surface) : Prop :=
  ∃ d, data[index]? = some d ∧ Surface.read? d = some surface

/-- An element of a surface among the data gives a sample of its text. -/
theorem HoldsAt.hasText {data : List Document} {index : Nat} {surface : Surface}
    (h : HoldsAt data index surface) {k : Nat} {e : Element}
    (he : surface.elements[k]? = some e) :
    HasText (samples data) e.comparisonText (samplesBefore data index + k) := by
  obtain ⟨d, hd, hread⟩ := h
  have hk : k < (samplesOf index d).length := by
    rw [samplesOf_of_read? hread, List.length_map]
    exact (List.getElem?_eq_some_iff.mp he).1
  rw [HasText, getElem?_samples hd hk, samplesOf_of_read? hread, List.getElem?_map, he]
  rfl

/-- Elements of copies stand at different places. -/
theorem HoldsAt.index_eq {data : List Document} {index other : Nat} {surface : Surface}
    (h : HoldsAt data index surface) (hother : HoldsAt data other surface) {k : Nat}
    (hk : k < surface.elements.length)
    (heq : samplesBefore data index + k = samplesBefore data other + k) : index = other := by
  obtain ⟨d, hd, hread⟩ := h
  obtain ⟨d', hd', hread'⟩ := hother
  have hplace := getElem?_samples hd (k := k) (by rwa [samplesOf_of_read? hread, List.length_map])
  have hplace' := getElem?_samples hd' (k := k)
    (by rwa [samplesOf_of_read? hread', List.length_map])
  rw [heq, hplace', samplesOf_of_read? hread, samplesOf_of_read? hread', List.getElem?_map,
    List.getElem?_map, List.getElem?_eq_getElem hk] at hplace
  exact (congrArg Sample.origin (Option.some.inj hplace)).symm

/-! ## Copies -/

/-- The distances are finite where a clustering answers. -/
theorem isFinite_of_fitTransform {params : Params} {data : List Document} {output : Document}
    (h : (learner params).fitTransform data = .ok output) :
    ∀ row ∈ distancesOf (samples data), ∀ x ∈ row, Decimal.isFinite x := by
  rcases fitTransform_cases params data with ⟨-, herr⟩ | ⟨-, herr⟩ | ⟨-, hfinite, -⟩
  · rw [herr] at h
    cases h
  · rw [herr] at h
    cases h
  · exact hfinite

/-- An element of a surface that stands among the data often enough has one label wherever
the surface stands. -/
theorem exists_label_of_element {params : Params} {data : List Document} {surface : Surface}
    {places : List Nat} (hradius : 0.0 ≤ params.radius)
    (hfinite : ∀ row ∈ distancesOf (samples data), ∀ x ∈ row, Decimal.isFinite x)
    (hnodup : places.Nodup) (hcopies : ∀ index ∈ places, HoldsAt data index surface)
    (hcount : params.minSamples ≤ places.length) (k : Fin surface.elements.length) :
    ∃ label, label ≠ noise ∧ ∀ index, HoldsAt data index surface →
      (labelsOf params (samples data))[samplesBefore data index + k]? = some label := by
  have he : surface.elements[k.1]? = some surface.elements[k] := List.getElem?_eq_getElem k.2
  have hdistinct : (places.map fun index => samplesBefore data index + k).Nodup :=
    hnodup.map_on fun index hindex other hother heq =>
      (hcopies index hindex).index_eq (hcopies other hother) k.2 heq
  have htext : ∀ p ∈ places.map fun index => samplesBefore data index + k,
      HasText (samples data) surface.elements[k].comparisonText p := by
    intro p hp
    obtain ⟨index, hindex, rfl⟩ := List.mem_map.mp hp
    exact (hcopies index hindex).hasText he
  obtain ⟨label, hne, hlabel⟩ := exists_label_of_text hradius hfinite hdistinct htext
    (by rwa [List.length_map])
  exact ⟨label, hne, fun index hindex => hlabel _ (hindex.hasText he)⟩

/-- A surface that stands among the data as often as a core point needs neighbours : its
elements have the same labels wherever it stands, and none of them is noise. -/
theorem fitTransform_copies {given : SurfaceDrift.Params} {params : Params}
    {data : List Document} {surface : Surface} {places : List Nat} {output : Document}
    (hparams : Params.of given = .ok params) (hnodup : places.Nodup)
    (hcopies : ∀ index ∈ places, HoldsAt data index surface)
    (hcount : params.minSamples ≤ places.length)
    (hrun : (learner params).fitTransform data = .ok output) :
    output = (reportOn params data).toDocument ∧
      ∃ labels : List Int, labels.length = surface.elements.length ∧ noise ∉ labels ∧
        ∀ index, HoldsAt data index surface →
          namedLabels ((samples data).zip (reportOn params data).labels) (structureLabel index) =
            (surface.elements.map Element.qualifiedName).zip labels ∧
          (reportOn params data).entry index =
            Fields.ofList ((surface.elements.map Element.qualifiedName).zip labels) := by
  refine ⟨eq_of_fitTransform hrun, ?_⟩
  choose label hne hlabel using exists_label_of_element (zero_le_radius_of_paramsOf hparams)
    (isFinite_of_fitTransform hrun) hnodup hcopies hcount
  refine ⟨List.ofFn label, List.length_ofFn, fun hnoise => ?_, fun index hindex => ?_⟩
  · obtain ⟨k, hk⟩ := List.mem_ofFn.mp hnoise
    exact hne k hk
  obtain ⟨d, hd, hread⟩ := id hindex
  have hsamples := samplesOf_of_read? hread index
  have hlabels : ((reportOn params data).labels.drop (samplesBefore data index)).take
      (samplesOf index d).length = List.ofFn label := by
    refine List.ext_getElem? fun k => ?_
    rw [hsamples, List.length_map, List.getElem?_take, List.getElem?_drop, List.getElem?_ofFn]
    split_ifs with hk
    · exact hlabel ⟨k, hk⟩ index hindex
    · rfl
  have hnames : (samplesOf index d).map Sample.name =
      surface.elements.map Element.qualifiedName := by
    rw [hsamples, List.map_map]
    rfl
  have hzip := namedLabels_samples_zip (length_labels_reportOn params data) hd
  rw [hlabels, hnames] at hzip
  exact ⟨hzip, by rw [entry_reportOn, hzip]⟩

/-- A surface of a class with a method. -/
def store : Surface :=
  [("Store", ⟨.classType, none, none, some [("get", ⟨.method, none, none, none⟩)]⟩)]

/-- Three copies of the surface, with a text between the first two. -/
def storeThrice : List Document :=
  [store.toDocument, .text "Stores", store.toDocument, store.toDocument]

theorem fitTransform_copies_storeThrice :
    Params.of [("min_samples", .ofNat 3)] = .ok ⟨0.5, 3⟩ ∧
      (∃ output, (learner ⟨0.5, 3⟩).fitTransform storeThrice = .ok output) ∧
      ∃ first second, first ≠ noise ∧ second ≠ noise ∧ ∀ index ∈ [0, 2, 3],
        (reportOn ⟨0.5, 3⟩ storeThrice).entry index =
          [("Store", first), ("Store.get", second)] := by
  have hparams : Params.of [("min_samples", .ofNat 3)] = .ok ⟨0.5, 3⟩ := rfl
  have hcopies : ∀ index ∈ [0, 2, 3], HoldsAt storeThrice index store := by
    intro index hindex
    simp only [List.mem_cons, List.not_mem_nil, or_false] at hindex
    rcases hindex with rfl | rfl | rfl <;> exact ⟨store.toDocument, rfl, rfl⟩
  have hok : ((learner ⟨0.5, 3⟩).fitTransform storeThrice).toOption.isSome = true := by
    decide +kernel
  cases hrun : (learner ⟨0.5, 3⟩).fitTransform storeThrice with
  | error failure => rw [hrun] at hok; cases hok
  | ok output =>
    obtain ⟨-, labels, hlength, hnoise, hlabels⟩ :=
      fitTransform_copies hparams (by decide) hcopies (Nat.le_refl 3) hrun
    have helements : store.elements.map Element.qualifiedName = ["Store", "Store.get"] := by
      decide +kernel
    have htwo : store.elements.length = 2 := by
      rw [← List.length_map Element.qualifiedName, helements]
      rfl
    obtain ⟨first, second, rfl⟩ := List.length_eq_two.mp (hlength.trans htwo)
    refine ⟨hparams, ⟨output, rfl⟩, first, second, ?_, ?_, fun index hindex => ?_⟩
    · exact fun h => hnoise (h ▸ List.mem_cons_self)
    · exact fun h => hnoise (h ▸ List.mem_cons_of_mem first List.mem_cons_self)
    · have hascending : Fields.Ascending [("Store", first), ("Store.get", second)] := by
        simp only [Fields.Ascending, Fields.names, List.map_cons, List.map_nil]
        decide +kernel
      rw [(hlabels index (hcopies index hindex)).2, helements]
      exact hascending.ofList_eq

end SurfaceDrift.Clustering
