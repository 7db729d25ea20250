import SurfaceDrift.Proofs.Comparison.Outcomes

/-!
# What a catalog remembers

A descriptor that is put into a catalog counts if it is valid (`Descriptor.isValid`), and
otherwise leaves the catalog as it is (`Catalog.enter_cases`). So the entries after any calls
are those of the valid descriptors, the later of one name in place of the earlier
(`Catalog.entries_discover_enterAll`), and what was passed over are the others
(`Catalog.skipped_discover`). All that a catalog is known for follows (`Catalog.keeps_last_valid`) :
its names are ascending lowercase words, a name leads to the last valid descriptor, and a
comparison by all of its algorithms without parameters is never refused.
-/

namespace SurfaceDrift

/-! ## Valid descriptors -/

namespace Descriptor

/-- The name is one word, and the algorithm can be built without parameters. -/
def isValid (d : Descriptor) : Bool := Text.isWord d.name && (d.build []).isOk

/-- What is noted of a descriptor that is passed over. -/
def note? (d : Descriptor) : Option Skipped :=
  match d.validate with
  | .ok () => none
  | .error cause => some ⟨d.display, cause.message⟩

theorem isValid_iff {d : Descriptor} :
    d.isValid = true ↔ Text.isWord d.name = true ∧ ∃ algorithm, d.build [] = .ok algorithm := by
  unfold isValid
  cases d.build [] <;> simp [Except.isOk, Except.toBool]

theorem validate_eq_ok_iff {d : Descriptor} : d.validate = .ok () ↔ d.isValid = true := by
  rw [isValid_iff, validate]
  split_ifs with hword
  · cases d.build [] <;> simp [hword]
  · simp [hword]

/-- Whatever is not valid is noted under the name it came with. -/
theorem note?_cases (d : Descriptor) :
    d.isValid = true ∧ d.validate = .ok () ∧ d.note? = none ∨
      d.isValid = false ∧ ∃ cause, d.validate = .error cause ∧
        d.note? = some ⟨d.display, cause.message⟩ := by
  unfold note?
  cases hvalidate : d.validate with
  | ok _ => exact Or.inl ⟨validate_eq_ok_iff.mp hvalidate, rfl, rfl⟩
  | error cause =>
    refine Or.inr ⟨?_, cause, rfl, rfl⟩
    by_contra hvalid
    rw [validate_eq_ok_iff.mpr (by simpa using hvalid)] at hvalidate
    cases hvalidate

end Descriptor

namespace Catalog

/-- The valid descriptors under their names. -/
def validEntries (descriptors : List Descriptor) : List (String × Descriptor) :=
  (descriptors.filter Descriptor.isValid).map fun d => (d.name, d)

/-! ## One call -/

/-- A valid descriptor goes under its name, and any other is refused and changes nothing. -/
theorem enter_cases (c : Catalog) (d : Descriptor) :
    d.isValid = true ∧
        c.enter d = (.ok (), { c with entries := Fields.insert c.entries d.name d }) ∨
      d.isValid = false ∧ ∃ cause, d.validate = .error cause ∧ c.enter d = (.error cause, c) := by
  unfold enter
  rcases d.note?_cases with ⟨hvalid, hvalidate, -⟩ | ⟨hvalid, cause, hvalidate, -⟩
  · exact Or.inl ⟨hvalid, by rw [hvalidate]⟩
  · exact Or.inr ⟨hvalid, cause, hvalidate, by rw [hvalidate]⟩

theorem enter_snd_of_error {c : Catalog} {d : Descriptor} {cause : Error}
    (h : (c.enter d).1 = .error cause) : (c.enter d).2 = c := by
  rcases c.enter_cases d with ⟨-, henter⟩ | ⟨-, cause', -, henter⟩
  · rw [henter] at h
    cases h
  · rw [henter]

theorem entries_enter (c : Catalog) (d : Descriptor) :
    (c.enter d).2.entries = Fields.insertAll c.entries (validEntries [d]) := by
  rcases c.enter_cases d with ⟨hvalid, henter⟩ | ⟨hvalid, cause, -, henter⟩
  · simp [henter, validEntries, hvalid, Fields.insertAll]
  · simp [henter, validEntries, hvalid, Fields.insertAll]

theorem skipped_enter (c : Catalog) (d : Descriptor) : (c.enter d).2.skipped = c.skipped := by
  rcases c.enter_cases d with ⟨-, henter⟩ | ⟨-, cause, -, henter⟩ <;> rw [henter]

theorem registerOrSkip_eq_enter (c : Catalog) (d : Descriptor) :
    c.registerOrSkip d = { (c.enter d).2 with skipped := c.skipped ++ d.note?.toList } := by
  rcases d.note?_cases with ⟨-, hvalidate, hnote⟩ | ⟨-, cause, hvalidate, hnote⟩
  · simp [registerOrSkip, enter, hvalidate, hnote]
  · simp [registerOrSkip, enter, hvalidate, hnote]

/-! ## Many calls -/

theorem validEntries_append (descriptors later : List Descriptor) :
    validEntries (descriptors ++ later) = validEntries descriptors ++ validEntries later := by
  simp only [validEntries, List.filter_append, List.map_append]

/-- Calls leave the entries of the valid descriptors, and add nothing to what was passed
over. -/
theorem enterAll_eq (c : Catalog) (descriptors : List Descriptor) :
    c.enterAll descriptors =
      { c with entries := Fields.insertAll c.entries (validEntries descriptors) } := by
  induction descriptors generalizing c with
  | nil => rfl
  | cons d rest ih =>
    have hstep : c.enterAll (d :: rest) = (c.enter d).2.enterAll rest := rfl
    have hcons := validEntries_append [d] rest
    rw [List.singleton_append] at hcons
    rw [hstep, ih, entries_enter, skipped_enter, hcons, Fields.insertAll_append]

theorem foldl_registerOrSkip_eq (c : Catalog) (descriptors : List Descriptor) :
    descriptors.foldl registerOrSkip c =
      { entries := Fields.insertAll c.entries (validEntries descriptors)
        skipped := c.skipped ++ descriptors.filterMap Descriptor.note? } := by
  induction descriptors generalizing c with
  | nil => simp [validEntries, Fields.insertAll]
  | cons d rest ih =>
    have hnotes : (d :: rest).filterMap Descriptor.note? =
        d.note?.toList ++ rest.filterMap Descriptor.note? := by
      rw [List.filterMap_cons]
      cases d.note? <;> rfl
    have hcons := validEntries_append [d] rest
    rw [List.singleton_append] at hcons
    rw [List.foldl_cons, ih, registerOrSkip_eq_enter]
    dsimp only
    rw [entries_enter, hcons, Fields.insertAll_append, hnotes, List.append_assoc]

theorem discover_eq (descriptors : List Descriptor) :
    discover descriptors =
      ⟨Fields.ofList (validEntries descriptors), descriptors.filterMap Descriptor.note?⟩ := by
  rw [discover, foldl_registerOrSkip_eq]
  rfl

/-- After a discovery and more calls there are the entries of all valid descriptors, and what
the discovery has passed over. -/
theorem discover_enterAll_eq (descriptors later : List Descriptor) :
    (discover descriptors).enterAll later =
      ⟨Fields.ofList (validEntries (descriptors ++ later)),
        descriptors.filterMap Descriptor.note?⟩ := by
  rw [enterAll_eq, discover_eq, validEntries_append, Fields.ofList, Fields.ofList,
    Fields.insertAll_append]

/-! ## What follows -/

/-- Of the valid descriptors of one name the last one is found. -/
theorem find?_validEntries (descriptors : List Descriptor) (name : String) :
    Fields.find? (Fields.ofList (validEntries descriptors)) name =
      (descriptors.filter fun d => d.isValid && d.name == name).getLast? := by
  have hboth : (fun d : Descriptor => decide (d.name = name) && d.isValid) =
      fun d => d.isValid && d.name == name := by
    funext d
    rw [Bool.and_comm]
    rfl
  have hentries : (validEntries descriptors).filter (fun entry => entry.1 = name) =
      (descriptors.filter fun d => d.isValid && d.name == name).map fun d => (d.name, d) := by
    rw [validEntries, List.filter_map, List.filter_filter, ← hboth]
    rfl
  rw [Fields.find?_ofList, hentries, List.getLast?_map, Option.map_map]
  exact Option.map_id'

/-- There is a note of each descriptor that is not valid, in their order. -/
theorem forall₂_note? (descriptors : List Descriptor) :
    List.Forall₂ (fun d (s : Skipped) => ∃ cause, d.validate = .error cause ∧
        s = ⟨d.display, cause.message⟩)
      (descriptors.filter fun d => !d.isValid) (descriptors.filterMap Descriptor.note?) := by
  induction descriptors with
  | nil => exact .nil
  | cons d rest ih =>
    rw [List.filter_cons, List.filterMap_cons]
    rcases d.note?_cases with ⟨hvalid, -, hnote⟩ | ⟨hvalid, cause, hvalidate, hnote⟩
    · simpa [hvalid, hnote] using ih
    · simp only [hvalid, hnote, Bool.not_false, if_true]
      exact .cons ⟨cause, hvalidate, rfl⟩ ih

theorem Built.enterAll {c : Catalog} (h : c.Built) (later : List Descriptor) :
    (c.enterAll later).Built := by
  induction later generalizing c with
  | nil => exact h
  | cons d rest ih =>
    have hstep : c.enterAll (d :: rest) = (c.enter d).2.enterAll rest := rfl
    rw [hstep]
    rcases c.enter_cases d with ⟨hvalid, henter⟩ | ⟨-, cause, -, henter⟩
    · have hvalidate := Descriptor.validate_eq_ok_iff.mpr hvalid
      rw [henter]
      exact ih (h.register (register_eq_ok_iff.mpr ⟨hvalidate, rfl⟩))
    · rw [henter]
      exact ih h

/-- Every descriptor has a lowercase word for its name, and can be built without parameters. -/
theorem IsKeyed.of_mem {c : Catalog} (h : c.IsKeyed) {entry : String × Descriptor}
    (hmem : entry ∈ c.entries) :
    entry.1 = Text.lower entry.2.display ∧ Text.isWord entry.1 = true ∧
      ∃ algorithm, entry.2.build [] = .ok algorithm := by
  have hname : entry.2.name = entry.1 := h.name_eq entry hmem
  have hvalid := Descriptor.validate_eq_ok_iff.mp (h.validate_eq entry hmem)
  obtain ⟨hword, hbuild⟩ := Descriptor.isValid_iff.mp hvalid
  exact ⟨hname.symm, hname ▸ hword, hbuild⟩

end Catalog

namespace Comparison

variable {catalog : Catalog} {data : List Document}

/-- Without parameters every algorithm of a catalog can be configured. -/
theorem exists_configure (hkeyed : catalog.IsKeyed) {name : String} (h : name ∈ catalog.names) :
    ∃ t, configure catalog [] name = .ok t := by
  obtain ⟨entry, hmem, rfl⟩ := List.mem_map.mp h
  obtain ⟨-, -, algorithm, hbuild⟩ := hkeyed.of_mem hmem
  have hget : catalog.get? entry.1 = some entry.2 := by
    rw [Catalog.get?, hkeyed.lower_of_mem_names h]
    exact hkeyed.ascending.find?_of_mem hmem
  exact ⟨⟨entry.2.name, algorithm⟩, configure_eq_ok_iff.mpr ⟨entry.2, hget, hbuild, rfl⟩⟩

theorem exists_prepare (hkeyed : catalog.IsKeyed) (hlen : 2 ≤ data.length) :
    ∃ tasks, prepare catalog data none [] = .ok tasks := by
  have hdata : ensureComparable data = .ok () := if_neg (Nat.not_lt.mpr hlen)
  obtain ⟨tasks, htasks⟩ := exists_mapM_eq_ok fun name hname => exists_configure hkeyed hname
  exact ⟨tasks, prepare_eq_ok_iff.mpr ⟨hdata, catalog.names, rfl, mapM_eq_ok_iff.mp htasks⟩⟩

/-- A comparison by all algorithms without parameters is not refused. -/
theorem Ends.exists_eq_ok (hkeyed : catalog.IsKeyed) (hlen : 2 ≤ data.length) {workers : Nat}
    {result : Except Error Results} (h : Ends workers catalog data none [] result) :
    ∃ results, result = .ok results := by
  obtain ⟨tasks, htasks⟩ := exists_prepare hkeyed hlen
  cases result with
  | ok results => exact ⟨results, rfl⟩
  | error cause =>
    rw [ends_error_iff.mp h] at htasks
    cases htasks

theorem exists_ends_ok (hkeyed : catalog.IsKeyed) (hlen : 2 ≤ data.length) {workers : Nat}
    (hworkers : 0 < workers) : ∃ results, Ends workers catalog data none [] (.ok results) := by
  have hends : Ends workers catalog data none [] (run catalog data none []) :=
    (ends_iff_run hkeyed hworkers).mpr rfl
  obtain ⟨results, hresults⟩ := hends.exists_eq_ok hkeyed hlen
  exact ⟨results, hresults ▸ hends⟩

end Comparison

namespace Catalog

/-- After a discovery and any more calls, a catalog has the valid descriptors under lowercase
words in ascending order, the last one of each name, and has noted the others of the
discovery. A call that fails leaves it as it is, and a comparison by all that it holds is not
refused. -/
theorem keeps_last_valid (descriptors later : List Descriptor) :
    let c := (discover descriptors).enterAll later
    (∀ entry ∈ c.entries, entry.1 = Text.lower entry.2.display ∧
      entry.1 ≠ "" ∧ (∀ ch ∈ entry.1.toList, Text.isWordChar ch = true) ∧
      ∃ algorithm, entry.2.build [] = .ok algorithm) ∧
    c.names.Pairwise (· < ·) ∧
    (∀ name, c.get? name = ((descriptors ++ later).filter fun d =>
      d.isValid && Text.lower d.display == Text.lower name).getLast?) ∧
    (∀ d cause, (c.enter d).1 = .error cause → (c.enter d).2 = c) ∧
    List.Forall₂ (fun d (s : Skipped) => ∃ cause, d.validate = .error cause ∧
        s = ⟨d.display, cause.message⟩)
      (descriptors.filter fun d => !d.isValid) c.skipped ∧
    ∀ data processors jobs, 2 ≤ data.length →
      (∀ result, Comparison.Ends (Comparison.workerCount processors jobs) c data none [] result →
        ∃ results, result = .ok results) ∧
      (0 < Comparison.workerCount processors jobs → ∃ results,
        Comparison.Ends (Comparison.workerCount processors jobs) c data none [] (.ok results)) := by
  intro c
  have hkeyed : c.IsKeyed := ((built_discover descriptors).enterAll later).isKeyed
  have hc : c = _ := discover_enterAll_eq descriptors later
  refine ⟨fun entry hmem => ?_, hkeyed.ascending, fun name => ?_, fun d cause => enter_snd_of_error,
    ?_, fun data processors jobs hlen => ⟨fun result h => h.exists_eq_ok hkeyed hlen,
      Comparison.exists_ends_ok hkeyed hlen⟩⟩
  · obtain ⟨hname, hword, hbuild⟩ := hkeyed.of_mem hmem
    rw [Text.isWord, Bool.and_eq_true, List.all_eq_true] at hword
    refine ⟨hname, ?_, hword.2, hbuild⟩
    simpa using hword.1
  · rw [get?, hc]
    exact find?_validEntries (descriptors ++ later) (Text.lower name)
  · rw [hc]
    exact forall₂_note? descriptors

/-- A descriptor named as `Comparison.echo` is, of an algorithm that needs a parameter. -/
def needy : Descriptor :=
  ⟨"ECHO", .transformation, "", [], fun params =>
    match params with
    | [] => .error (.notFitted "echo")
    | _ => .ok ⟨"echo", fun data => .ok (.list data)⟩⟩

theorem keeps_last_valid_echo :
    let c := (discover [Comparison.echo, needy]).enterAll [Comparison.panicking, needy]
    c.get? "eCHO" = some Comparison.echo ∧ c.names.Pairwise (· < ·) ∧ (c.enter needy).2 = c ∧
      c.skipped.map Skipped.display = ["ECHO"] ∧
      ∃ results, Comparison.Ends (Comparison.workerCount 4 none) c [.null, .null] none []
        (.ok results) := by
  intro c
  obtain ⟨-, hnames, hget, hfails, hskipped, hends⟩ :=
    keeps_last_valid [Comparison.echo, needy] [Comparison.panicking, needy]
  have hecho : Comparison.echo.isValid = true := by decide +kernel
  have hneedy : needy.isValid = false := by decide +kernel
  have hrefused : ∃ cause, (c.enter needy).1 = .error cause := by
    rcases c.enter_cases needy with ⟨hvalid, -⟩ | ⟨-, cause, -, henter⟩
    · rw [hneedy] at hvalid
      cases hvalid
    · exact ⟨cause, congrArg Prod.fst henter⟩
  obtain ⟨cause, hcause⟩ := hrefused
  refine ⟨(hget "eCHO").trans rfl, hnames, hfails needy cause hcause, ?_,
    (hends [.null, .null] 4 none (Nat.le_refl 2)).2 (by decide)⟩
  have hinvalid : [Comparison.echo, needy].filter (fun d => !d.isValid) = [needy] := by
    simp [hecho, hneedy]
  rw [hinvalid, List.forall₂_cons_left_iff] at hskipped
  obtain ⟨s, rest, ⟨cause, -, rfl⟩, hrest, hall⟩ := hskipped
  obtain rfl := List.forall₂_nil_left_iff.mp hrest
  have hdisplay : c.skipped.map Skipped.display = [needy.display] := by
    rw [hall]
    rfl
  exact hdisplay

end Catalog

end SurfaceDrift
