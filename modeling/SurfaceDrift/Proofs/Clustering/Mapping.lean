import Mathlib.Algebra.Ring.Nat
import Mathlib.Data.List.Induction
import SurfaceDrift.Proofs.Clustering.Run
import SurfaceDrift.Proofs.Clustering.Samples
import SurfaceDrift.Proofs.Fields

/-!
# The detailed mapping

The detailed mapping files the label of each sample under its document and its name. What
it holds for a document are the labels of that document's samples, put in one by one
(`entryOf_detailedMapping`), so that of two samples of one name only the later one's label is
told. All in all it tells as many labels as there are distinct pairs of a document and a
name (`told_detailedMapping`).

A report is complete (`Report.IsComplete`) if its detailed mapping tells the label of every
sample. `isComplete_reportOn_iff` : that is so exactly if no surface among the data has two
comparable members of one qualified name. A class `a` with a member `b` beside a member
named `a.b` makes such a surface (`dotted`).
-/

namespace SurfaceDrift.Clustering

/-- What a mapping holds for a document. -/
def entryOf (mapping : Fields (Fields Int)) (label : String) : Fields Int :=
  (Fields.find? mapping label).getD []

/-- How many labels a mapping tells. -/
def told (mapping : Fields (Fields Int)) : Nat :=
  (mapping.map fun entry => entry.2.length).sum

/-! ## One document's labels -/

/-- The names and labels that go under the name of a document, in order. -/
def namedLabels (labelled : List (Sample × Int)) (label : String) : List (String × Int) :=
  (labelled.filter fun entry => structureLabel entry.1.origin = label).map fun entry =>
    (entry.1.name, entry.2)

theorem mem_namedLabels {labelled : List (Sample × Int)} {label name : String} {value : Int} :
    (name, value) ∈ namedLabels labelled label ↔
      ∃ s, (s, value) ∈ labelled ∧ structureLabel s.origin = label ∧ s.name = name := by
  simp only [namedLabels, List.mem_map, List.mem_filter, decide_eq_true_eq]
  constructor
  · rintro ⟨⟨s, v⟩, ⟨hmem, hlabel⟩, heq⟩
    obtain ⟨rfl, rfl⟩ := Prod.mk.inj heq
    exact ⟨s, hmem, hlabel, rfl⟩
  · rintro ⟨s, hmem, hlabel, rfl⟩
    exact ⟨(s, value), ⟨hmem, hlabel⟩, rfl⟩

theorem namedLabels_append (a b : List (Sample × Int)) (label : String) :
    namedLabels (a ++ b) label = namedLabels a label ++ namedLabels b label := by
  simp [namedLabels]

theorem namedLabels_eq_nil {found : List Sample} {index : Nat}
    (h : ∀ s ∈ found, s.origin ≠ index) (labels : List Int) :
    namedLabels (found.zip labels) (structureLabel index) = [] := by
  rw [namedLabels, List.map_eq_nil_iff, List.filter_eq_nil_iff]
  intro entry hentry
  rw [decide_eq_true_eq, structureLabel_injective.eq_iff]
  exact h entry.1 (List.of_mem_zip hentry).1

theorem namedLabels_eq_zip {found : List Sample} {index : Nat}
    (h : ∀ s ∈ found, s.origin = index) (labels : List Int) :
    namedLabels (found.zip labels) (structureLabel index) =
      (found.map Sample.name).zip labels := by
  have hall : (found.zip labels).filter
      (fun entry => structureLabel entry.1.origin = structureLabel index) = found.zip labels := by
    refine List.filter_eq_self.mpr fun entry hentry => ?_
    rw [decide_eq_true_eq, h entry.1 (List.of_mem_zip hentry).1]
  rw [namedLabels, hall, List.zip_map_left]
  rfl

/-- The labels of one document are told next to the names of its samples. -/
theorem namedLabels_samples_zip {labels : List Int} {data : List Document} {index : Nat}
    {d : Document} (hlength : labels.length = (samples data).length)
    (h : data[index]? = some d) :
    namedLabels ((samples data).zip labels) (structureLabel index) =
      ((samplesOf index d).map Sample.name).zip
        ((labels.drop (samplesBefore data index)).take (samplesOf index d).length) := by
  obtain ⟨after, hsplit, hafter⟩ := exists_samples_eq_append h
  have hle := samplesBefore_add_length_le h
  have hlabels : labels = labels.take (samplesBefore data index) ++
      ((labels.drop (samplesBefore data index)).take (samplesOf index d).length ++
        (labels.drop (samplesBefore data index)).drop (samplesOf index d).length) := by
    rw [List.take_append_drop, List.take_append_drop]
  have hbefore : (samples (data.take index)).length =
      (labels.take (samplesBefore data index)).length := by
    rw [List.length_take_of_le (by omega), samplesBefore]
  have hself : (samplesOf index d).length =
      ((labels.drop (samplesBefore data index)).take (samplesOf index d).length).length := by
    rw [List.length_take, List.length_drop]
    omega
  conv_lhs => rw [hsplit, hlabels]
  rw [List.zip_append hbefore, List.zip_append hself, namedLabels_append, namedLabels_append,
    namedLabels_eq_nil fun s hs => origin_ne_of_mem_samples_take hs,
    namedLabels_eq_zip fun s hs => origin_of_mem_samplesOf hs, namedLabels_eq_nil hafter,
    List.nil_append, List.append_nil]

theorem names_namedLabels {labels : List Int} {data : List Document} {index : Nat}
    {d : Document} (hlength : labels.length = (samples data).length)
    (h : data[index]? = some d) :
    (namedLabels ((samples data).zip labels) (structureLabel index)).map Prod.fst =
      (samplesOf index d).map Sample.name := by
  rw [namedLabels_samples_zip hlength h, List.map_fst_zip]
  have hle := samplesBefore_add_length_le h
  rw [List.length_map, List.length_take, List.length_drop]
  omega

/-! ## What the mapping holds -/

theorem detailedMapping_eq_gather (labelled : List (Sample × Int)) :
    detailedMapping labelled = Fields.gather (fun entry => structureLabel entry.1.origin)
      (fun inner entry => Fields.insert inner entry.1.name entry.2) [] labelled :=
  rfl

/-- A document's labels are those of its samples, put in one by one. -/
theorem entryOf_detailedMapping (labelled : List (Sample × Int)) (label : String) :
    entryOf (detailedMapping labelled) label = Fields.ofList (namedLabels labelled label) := by
  rw [entryOf, detailedMapping_eq_gather, Fields.find?_gather, namedLabels]
  split_ifs with hnone
  · rw [hnone]
    rfl
  · rw [Option.getD_some, Fields.ofList, Fields.insertAll, List.foldl_map]

theorem ascending_detailedMapping (labelled : List (Sample × Int)) :
    Fields.Ascending (detailedMapping labelled) := by
  rw [detailedMapping_eq_gather]
  exact Fields.ascending_gather labelled

theorem eq_ofList_of_mem_detailedMapping {labelled : List (Sample × Int)} {label : String}
    {inner : Fields Int} (h : (label, inner) ∈ detailedMapping labelled) :
    inner = Fields.ofList (namedLabels labelled label) := by
  rw [← entryOf_detailedMapping, entryOf, (ascending_detailedMapping labelled).find?_of_mem h,
    Option.getD_some]

/-! ## All labels -/

/-- The document and name that a label is filed under. -/
def keyOf (s : Sample) : String × String := (structureLabel s.origin, s.name)

/-- The keys under which a mapping tells a label. -/
def toldKeys (mapping : Fields (Fields Int)) : List (String × String) :=
  mapping.flatMap fun entry => (Fields.names entry.2).map (Prod.mk entry.1)

theorem length_toldKeys (mapping : Fields (Fields Int)) :
    (toldKeys mapping).length = told mapping := by
  simp [toldKeys, told, List.length_flatMap, Fields.names]

theorem nodup_toldKeys (labelled : List (Sample × Int)) :
    (toldKeys (detailedMapping labelled)).Nodup := by
  refine List.nodup_flatMap.mpr ⟨?_, ?_⟩
  · rintro ⟨label, inner⟩ hmem
    rw [eq_ofList_of_mem_detailedMapping hmem]
    exact (Fields.ascending_ofList _).nodup_names.map (Prod.mk_right_injective label)
  · have hdistinct := (ascending_detailedMapping labelled).nodup_names
    refine (List.pairwise_map.mp hdistinct).imp fun hne key hfirst hsecond => ?_
    obtain ⟨name, -, rfl⟩ := List.mem_map.mp hfirst
    obtain ⟨other, -, heq⟩ := List.mem_map.mp hsecond
    exact hne (Prod.mk.inj heq).1.symm

theorem mem_toldKeys {labelled : List (Sample × Int)} {key : String × String} :
    key ∈ toldKeys (detailedMapping labelled) ↔
      key ∈ labelled.map fun entry => keyOf entry.1 := by
  obtain ⟨label, name⟩ := key
  simp only [toldKeys, List.mem_flatMap, List.mem_map, Prod.mk.injEq]
  constructor
  · rintro ⟨⟨label, inner⟩, hmem, name, hname, rfl, rfl⟩
    rw [eq_ofList_of_mem_detailedMapping hmem, Fields.mem_names_ofList] at hname
    obtain ⟨value, hvalue⟩ := hname
    obtain ⟨s, hs, rfl, rfl⟩ := mem_namedLabels.mp hvalue
    exact ⟨(s, value), hs, rfl⟩
  · rintro ⟨⟨s, value⟩, hs, hkey⟩
    obtain ⟨rfl, rfl⟩ := Prod.mk.inj hkey
    have hname : s.name ∈ Fields.names
        (entryOf (detailedMapping labelled) (structureLabel s.origin)) := by
      rw [entryOf_detailedMapping, Fields.mem_names_ofList]
      exact ⟨value, mem_namedLabels.mpr ⟨s, hs, rfl, rfl⟩⟩
    cases hfind : Fields.find? (detailedMapping labelled) (structureLabel s.origin) with
    | none => simp [entryOf, hfind, Fields.names] at hname
    | some inner =>
      rw [entryOf, hfind, Option.getD_some] at hname
      exact ⟨(structureLabel s.origin, inner), Fields.mem_of_find? hfind, s.name, hname, rfl, rfl⟩

/-- As many labels are told as there are distinct pairs of a document and a name. -/
theorem told_detailedMapping (labelled : List (Sample × Int)) :
    told (detailedMapping labelled) =
      (labelled.map fun entry => keyOf entry.1).dedup.length := by
  rw [← length_toldKeys]
  refine ((List.perm_ext_iff_of_nodup (nodup_toldKeys labelled)
    (List.nodup_dedup _)).mpr fun key => ?_).length_eq
  rw [mem_toldKeys, List.mem_dedup]

/-- Every label is told exactly if no two samples share their document and name. -/
theorem told_detailedMapping_eq_length_iff (labelled : List (Sample × Int)) :
    told (detailedMapping labelled) = labelled.length ↔
      (labelled.map fun entry => keyOf entry.1).Nodup := by
  rw [told_detailedMapping, ← List.dedup_eq_self]
  constructor
  · intro h
    exact (List.dedup_sublist _).eq_of_length (by rw [h, List.length_map])
  · intro h
    rw [h, List.length_map]

/-! ## Complete reports -/

/-- What the report tells of the document at a place. -/
def Report.entry (r : Report) (index : Nat) : Fields Int :=
  entryOf r.detailedMapping (structureLabel index)

/-- The detailed mapping tells the label of every sample, and as many labels as there are
samples, of each document and all in all. -/
structure Report.IsComplete (r : Report) (data : List Document) : Prop where
  find?_entry : ∀ s label, (s, label) ∈ (samples data).zip r.labels →
    Fields.find? (r.entry s.origin) s.name = some label
  length_entry : ∀ index d, data[index]? = some d →
    (r.entry index).length = (samplesOf index d).length
  told_eq : told r.detailedMapping = r.labels.length

theorem length_labels_reportOn (params : Params) (data : List Document) :
    (reportOn params data).labels.length = (samples data).length :=
  length_labelsOf params (samples data)

theorem entry_reportOn (params : Params) (data : List Document) (index : Nat) :
    (reportOn params data).entry index =
      Fields.ofList (namedLabels ((samples data).zip (reportOn params data).labels)
        (structureLabel index)) :=
  entryOf_detailedMapping _ _

/-- As many labels are told as there are samples exactly if names are distinct. -/
theorem told_reportOn_iff (params : Params) (data : List Document) :
    told (reportOn params data).detailedMapping = (reportOn params data).labels.length ↔
      DistinctNames data := by
  have hlength := length_labels_reportOn params data
  have hzip : ((samples data).zip (reportOn params data).labels).length =
      (reportOn params data).labels.length := by
    rw [List.length_zip, hlength, Nat.min_self]
  have hkeys : ((samples data).zip (reportOn params data).labels).map (fun e => keyOf e.1) =
      ((samples data).map fun s => (s.origin, s.name)).map (Prod.map structureLabel id) := by
    have hfst : ((samples data).zip (reportOn params data).labels).map Prod.fst = samples data :=
      List.map_fst_zip hlength.ge
    have hsamples : ((samples data).zip (reportOn params data).labels).map (fun e => keyOf e.1) =
        (((samples data).zip (reportOn params data).labels).map Prod.fst).map keyOf := by
      rw [List.map_map]
      rfl
    rw [hsamples, hfst, List.map_map]
    rfl
  have htold := told_detailedMapping_eq_length_iff
    ((samples data).zip (reportOn params data).labels)
  rw [hzip, hkeys, List.nodup_map_iff (structureLabel_injective.prodMap Function.injective_id),
    nodup_keys_samples_iff] at htold
  exact htold

/-- The report is complete exactly if names are distinct. -/
theorem isComplete_reportOn_iff (params : Params) (data : List Document) :
    (reportOn params data).IsComplete data ↔ DistinctNames data := by
  refine ⟨fun h => (told_reportOn_iff params data).mp h.told_eq, fun h => ?_⟩
  have hlength := length_labels_reportOn params data
  have hnames : ∀ index d, data[index]? = some d →
      ((namedLabels ((samples data).zip (reportOn params data).labels)
        (structureLabel index)).map Prod.fst).Nodup := by
    intro index d hd
    rw [names_namedLabels hlength hd]
    exact (nodup_names_samplesOf_iff index d).mpr (h d (List.mem_of_getElem? hd))
  refine ⟨fun s label hmem => ?_, fun index d hd => ?_, (told_reportOn_iff params data).mpr h⟩
  · obtain ⟨d, hd⟩ := exists_getElem?_origin (List.of_mem_zip hmem).1
    rw [entry_reportOn]
    exact Fields.find?_ofList_of_nodup (hnames s.origin d hd)
      (mem_namedLabels.mpr ⟨s, hmem, rfl, rfl⟩)
  · rw [entry_reportOn, Fields.length_ofList, List.dedup_eq_self.mpr (hnames index d hd),
      names_namedLabels hlength hd, List.length_map]

/-- The report that a clustering answers has a label for each sample, and of the samples of
one document and name it tells the last one's label. So it is complete exactly if no
surface has two comparable members of one qualified name. -/
theorem fitTransform_isComplete_iff {params : Params} {data : List Document}
    {output : Document} (h : (learner params).fitTransform data = .ok output) :
    output = (reportOn params data).toDocument ∧
      (reportOn params data).labels.length = (samples data).length ∧
      (∀ index name, Fields.find? ((reportOn params data).entry index) name =
        ((((samples data).zip (reportOn params data).labels).filter fun entry =>
          entry.1.name = name ∧ entry.1.origin = index).getLast?).map Prod.snd) ∧
      ((reportOn params data).IsComplete data ↔ DistinctNames data) := by
  refine ⟨eq_of_fitTransform h, length_labels_reportOn params data, fun index name => ?_,
    isComplete_reportOn_iff params data⟩
  rw [entry_reportOn, Fields.find?_ofList, namedLabels, List.filter_map, List.getLast?_map,
    Option.map_map, List.filter_filter]
  simp only [structureLabel_injective.eq_iff, Function.comp_def, Bool.decide_and]

/-! ## A name with a dot -/

/-- A class `a` with a method `b`, and a function named `a.b`. -/
def dotted : Document :=
  .object [
    ("a", .object [("members", .object [("b", .list [.text "method", .text "(self)"])]),
      ("type", .text "class")]),
    ("a.b", .list [.text "function", .text "(count, mode, verbose)"])]

/-- A method `b`. -/
def undotted : Document := .object [("b", .list [.text "method", .text "(self)"])]

theorem fitTransform_isComplete_iff_undotted :
    (learner ⟨0.5, 2⟩).fitTransform [undotted, undotted] =
        .ok (reportOn ⟨0.5, 2⟩ [undotted, undotted]).toDocument ∧
      (reportOn ⟨0.5, 2⟩ [undotted, undotted]).IsComplete [undotted, undotted] := by
  have hok : ((learner ⟨0.5, 2⟩).fitTransform [undotted, undotted]).toOption.isSome = true := by
    decide +kernel
  cases h : (learner ⟨0.5, 2⟩).fitTransform [undotted, undotted] with
  | error failure => rw [h] at hok; cases hok
  | ok output =>
    obtain ⟨rfl, -, -, hcomplete⟩ := fitTransform_isComplete_iff h
    refine ⟨rfl, hcomplete.mpr fun d hd s hs => ?_⟩
    obtain rfl : d = undotted := by simpa using hd
    obtain rfl := Option.some.inj hs
    decide +kernel

/-- The label of the method `b` of the class `a`, which is in one cluster with the other
surface's `b`, is not told : the noise `a.b` has its place. -/
theorem detailedMapping_dotted :
    (∃ output, (learner ⟨0.5, 2⟩).fitTransform [dotted, undotted] = .ok output ∧
      output = (reportOn ⟨0.5, 2⟩ [dotted, undotted]).toDocument) ∧
      (samples [dotted, undotted]).map Sample.name = ["a", "a.b", "a.b", "b"] ∧
      (reportOn ⟨0.5, 2⟩ [dotted, undotted]).labels = [-1, 0, -1, 0] ∧
      (reportOn ⟨0.5, 2⟩ [dotted, undotted]).detailedMapping =
        [("struct_1", [("a", -1), ("a.b", -1)]), ("struct_2", [("b", 0)])] := by
  have hok : ((learner ⟨0.5, 2⟩).fitTransform [dotted, undotted]).toOption.isSome = true := by
    decide +kernel
  refine ⟨?_, by decide +kernel, by decide +kernel, by decide +kernel⟩
  cases h : (learner ⟨0.5, 2⟩).fitTransform [dotted, undotted] with
  | error failure => rw [h] at hok; cases hok
  | ok output => exact ⟨output, rfl, eq_of_fitTransform h⟩

end SurfaceDrift.Clustering
