import SurfaceDrift.Configuration
import SurfaceDrift.Proofs.Parameters
import SurfaceDrift.Proofs.Toml.Ordered

/-!
# Which parameter counts

A configuration that is read has the folded parameters of its file, and the file states them in
order (`Configuration.exists_file_of_parse`). Assigning then fails exactly if some assignment
spells nothing (`Configuration.exists_error_assigned_iff`), and otherwise it comes to the same
as making the assignments one by one (`Configuration.assigned_eq_assignAll`). So the last
assignment to a key counts, and where there is none the greatest name in the file that has the
key (`Configuration.resolves`).
-/

namespace SurfaceDrift

namespace ParamSet

theorem isOrdered_of_ofDocument? {d : Document} {set : ParamSet} (hd : d.Ordered)
    (h : ofDocument? d = some set) : set.IsOrdered := by
  obtain rfl := ofDocument?_eq_some_iff.mp h
  rw [toDocument, Document.Ordered, Document.orderedFields_iff] at hd
  obtain ⟨hnames, hkeys⟩ := hd
  constructor
  · rwa [Fields.Ascending, Fields.names, Fields.mapValues, List.map_map] at hnames
  · intro entry hentry
    have hinner := hkeys (entry.1, .object entry.2) (List.mem_map_of_mem hentry)
    exact hinner.1

end ParamSet

namespace Configuration

variable {text : String} {c : Configuration}

/-! ## The file -/

theorem isOrdered_of_ofEntries? {entries : List (String × Toml.Value)}
    (h : ofEntries? entries = some c) : c.params.IsOrdered := by
  unfold ofEntries? at h
  split_ifs at h
  · cases h
  simp only [Option.bind_eq_bind, Option.bind_eq_some_iff, Option.pure_def, Option.some.injEq] at h
  obtain ⟨comparison, -, params, hparams, rfl⟩ := h
  cases hfind : Fields.find? entries "params" with
  | none =>
    rw [hfind] at hparams
    obtain rfl := Option.some.inj hparams
    exact ParamSet.isFolded_nil.toIsOrdered
  | some v =>
    rw [hfind, Option.mapM_some] at hparams
    obtain ⟨set, hset, rfl⟩ := Option.map_eq_some_iff.mp hparams
    obtain ⟨d, hd, hread⟩ := Option.bind_eq_some_iff.mp hset
    exact ParamSet.isOrdered_of_ofDocument? (Toml.Value.ordered_of_toDocument? v d hd) hread

/-- A configuration has the folded parameters of what its file states. -/
theorem exists_file_of_parse (h : parse text = .ok c) :
    ∃ file : ParamSet, (Toml.parse? text).bind ofEntries? = some ⟨c.comparison, file⟩ ∧
      file.IsOrdered ∧ c.params = file.caseFolded := by
  unfold parse at h
  split at h
  · cases h
  · next stated hstated =>
    obtain ⟨entries, hentries, hread⟩ := Option.bind_eq_some_iff.mp hstated
    obtain ⟨-, -, hc⟩ := bind_eq_ok_iff.mp h
    obtain rfl := Except.ok.inj hc
    exact ⟨stated.params, hstated, isOrdered_of_ofEntries? hread, rfl⟩

/-! ## Assigning -/

theorem assigned_eq (c : Configuration) (assignments : List String) :
    c.assigned assignments = (assignments.mapM Assignment.parse).map fun given =>
      c.params.merge (ParamSet.putAll [] given) := by
  rw [assigned, ParamSet.assignAll_eq]
  cases assignments.mapM Assignment.parse <;> rfl

theorem exists_error_assigned_iff {assignments : List String} :
    (∃ e, c.assigned assignments = .error e) ↔
      ∃ s ∈ assignments, ¬∃ a, Assignment.Spells s a := by
  rw [assigned_eq]
  simp only [map_eq_error_iff]
  constructor
  · rintro ⟨e, h⟩
    obtain ⟨before, s, after, rfl, -, hs⟩ := mapM_eq_error_iff.mp h
    refine ⟨s, List.mem_append_right before List.mem_cons_self, ?_⟩
    rintro ⟨a, ha⟩
    rw [Assignment.parse_eq_ok_iff.mpr ha] at hs
    cases hs
  · rintro ⟨s, hs, hnone⟩
    cases hall : assignments.mapM Assignment.parse with
    | error e => exact ⟨e, rfl⟩
    | ok given =>
      obtain ⟨a, -, ha⟩ := exists_of_mem_forall₂ (mapM_eq_ok_iff.mp hall).flip hs
      exact absurd ⟨a, Assignment.parse_eq_ok_iff.mp ha⟩ hnone

theorem exists_fault_of_assigned {assignments : List String} {e : Error}
    (h : c.assigned assignments = .error e) : ∃ fault, e = .configuration fault := by
  rw [assigned_eq, map_eq_error_iff] at h
  obtain ⟨-, s, -, -, -, hs⟩ := mapM_eq_error_iff.mp h
  exact Assignment.exists_fault_of_parse hs

/-- Where the parameters are folded, assigning is making the assignments one by one. -/
theorem assigned_eq_assignAll (h : c.params.IsFolded) (assignments : List String) :
    c.assigned assignments = c.params.assignAll assignments := by
  rw [assigned_eq, ParamSet.assignAll_eq]
  cases assignments.mapM Assignment.parse with
  | error e => rfl
  | ok given => exact congrArg Except.ok (h.merge_putAll given)

theorem exists_given_of_assigned {assignments : List String} {merged : ParamSet}
    (h : c.assigned assignments = .ok merged) :
    ∃ given, List.Forall₂ Assignment.Spells assignments given ∧
      c.params.merge (ParamSet.putAll [] given) = merged := by
  rw [assigned_eq, map_eq_ok_iff] at h
  obtain ⟨given, hgiven, hmerged⟩ := h
  refine ⟨given, (mapM_eq_ok_iff.mp hgiven).imp fun s a => ?_, hmerged⟩
  exact Assignment.parse_eq_ok_iff.mp

/-- A parameter is the one that the last assignment to it gives, or else the one that the
greatest name in the file has that becomes the algorithm's and holds the key; so whatever is
assigned or in the file is found. Assigning fails exactly if an assignment spells nothing, and
comes to the same as the assignments made one by one. -/
theorem resolves (h : parse text = .ok c) :
    ∃ file : ParamSet, (Toml.parse? text).bind ofEntries? = some ⟨c.comparison, file⟩ ∧
      (∀ assignments,
        c.assigned assignments = c.params.assignAll assignments ∧
        (∀ e, c.assigned assignments = .error e → ∃ fault, e = .configuration fault) ∧
        ((∃ e, c.assigned assignments = .error e) ↔
          ∃ s ∈ assignments, ¬∃ a, Assignment.Spells s a) ∧
        ∀ merged, c.assigned assignments = .ok merged →
          ∃ given, List.Forall₂ Assignment.Spells assignments given ∧
          (∀ algorithm key value,
            Fields.find? (merged.forAlgorithm algorithm) key = some value ↔
              (∃ a, (given.filter fun a => a.isFor algorithm key).getLast? = some a ∧
                a.value = value) ∨
              (∀ a ∈ given, ¬a.isFor algorithm key) ∧ ∃ name params, (name, params) ∈ file ∧
                Text.lower name = Text.lower algorithm ∧ Fields.find? params key = some value ∧
                ∀ other ∈ file, Text.lower other.1 = Text.lower algorithm →
                  key ∈ Fields.names other.2 → other.1 ≤ name) ∧
          (∀ a ∈ given, ∃ value,
            Fields.find? (merged.forAlgorithm a.algorithm) a.key = some value) ∧
          ∀ entry ∈ file, ∀ key ∈ Fields.names entry.2, ∃ value,
            Fields.find? (merged.forAlgorithm entry.1) key = some value) ∧
      ∀ set : ParamSet, set.caseFolded.caseFolded = set.caseFolded := by
  obtain ⟨file, hstated, hordered, hparams⟩ := exists_file_of_parse h
  have hfolded : c.params.IsFolded := hparams ▸ file.isFolded_caseFolded
  refine ⟨file, hstated, fun assignments => ⟨assigned_eq_assignAll hfolded assignments,
    fun e => exists_fault_of_assigned, exists_error_assigned_iff, fun merged hmerged => ?_⟩,
    ParamSet.caseFolded_caseFolded⟩
  obtain ⟨given, hgiven, rfl⟩ := exists_given_of_assigned hmerged
  refine ⟨given, hgiven, ?_⟩
  rw [hfolded.merge_putAll]
  refine ⟨fun algorithm key value => ?_, fun a ha => ParamSet.exists_find?_putAll c.params ha,
    fun entry hentry key hkey => ?_⟩
  · rw [ParamSet.find?_putAll, Option.or_eq_some_iff, Option.map_eq_some_iff,
      Option.map_eq_none_iff, List.getLast?_eq_none_iff, List.filter_eq_nil_iff, hparams,
      hordered.find?_caseFolded_iff]
  · obtain ⟨value, hvalue⟩ := ParamSet.exists_find?_caseFolded hentry hkey
    rw [ParamSet.find?_putAll, hparams, hvalue]
    exact Option.isSome_iff_exists.mp (by simp)

/-- A file that names one algorithm in two letter cases. -/
def twoCases : String :=
  "[params.DBSCAN]\neps = 1\nmin_samples = 4\n[params.dbscan]\neps = 2\n"

/-- What `DbScan.min_samples=5` spells. -/
def fiveSamples : Assignment := ⟨"DbScan", "min_samples", valueOfText "5"⟩

theorem spells_fiveSamples : Assignment.Spells "DbScan.min_samples=5" fiveSamples := by
  have htrim : Text.trim "5" = "5" := by decide +kernel
  have hpath : (Text.trim "DbScan.min_samples").toList =
      "DbScan".toList ++ '.' :: "min_samples".toList := by
    decide +kernel
  refine ⟨"DbScan.min_samples", "5", by decide, by decide, hpath, by decide, by decide,
    by decide, ?_⟩
  rw [htrim, fiveSamples]

theorem resolves_twoCases :
    ∃ c file merged, parse twoCases = .ok c ∧
      (Toml.parse? twoCases).bind ofEntries? = some ⟨c.comparison, file⟩ ∧
      c.assigned ["DbScan.min_samples=5"] = .ok merged ∧
      Fields.find? (merged.forAlgorithm "dbscan") "min_samples" = some (valueOfText "5") ∧
      ∃ params value, ("dbscan", params) ∈ file ∧ Fields.find? params "eps" = some value ∧
        Fields.find? (merged.forAlgorithm "Dbscan") "eps" = some value := by
  have hok : (parse twoCases).isOk = true := by decide +kernel
  cases hparse : parse twoCases with
  | error fault =>
    rw [hparse] at hok
    cases hok
  | ok c =>
    obtain ⟨file, hfile, hall, -⟩ := resolves hparse
    obtain ⟨-, -, hfails, hanswers⟩ := hall ["DbScan.min_samples=5"]
    cases hassigned : c.assigned ["DbScan.min_samples=5"] with
    | error e =>
      obtain ⟨s, hs, hnone⟩ := hfails.mp ⟨e, hassigned⟩
      obtain rfl := List.mem_singleton.mp hs
      exact absurd ⟨_, spells_fiveSamples⟩ hnone
    | ok merged =>
      obtain ⟨given, hgiven, hlookup, -, -⟩ := hanswers merged hassigned
      obtain ⟨a, rest, ha, hrest, rfl⟩ := List.forall₂_cons_left_iff.mp hgiven
      obtain rfl := List.forall₂_nil_left_iff.mp hrest
      obtain rfl := ha.unique spells_fiveSamples
      have hshape : ((Toml.parse? twoCases).bind ofEntries?).map (fun stated =>
          stated.params.map fun entry => (entry.1, Fields.names entry.2)) =
          some [("DBSCAN", ["eps", "min_samples"]), ("dbscan", ["eps"])] := by
        decide +kernel
      rw [hfile] at hshape
      obtain ⟨first, others, rfl, hfirst, hothers⟩ :=
        List.map_eq_cons_iff.mp (Option.some.inj hshape)
      obtain ⟨second, last, rfl, hsecond, hlast⟩ := List.map_eq_cons_iff.mp hothers
      obtain rfl := List.map_eq_nil_iff.mp hlast
      obtain ⟨hfirstName, -⟩ := Prod.mk.inj hfirst
      obtain ⟨hsecondName, hsecondKeys⟩ := Prod.mk.inj hsecond
      have hlower : Text.lower "DbScan" = Text.lower "dbscan" ∧
          Text.lower "dbscan" = Text.lower "Dbscan" := by
        decide +kernel
      refine ⟨c, _, merged, rfl, hfile, hassigned, ?_, ?_⟩
      · have hfor : fiveSamples.isFor "dbscan" "min_samples" = true :=
          Assignment.isFor_iff.mpr ⟨hlower.1, rfl⟩
        refine (hlookup _ _ _).mpr (Or.inl ⟨fiveSamples, ?_, rfl⟩)
        rw [List.filter_singleton, hfor]
        rfl
      · obtain ⟨value, hvalue⟩ : ∃ value, Fields.find? second.2 "eps" = some value :=
          Fields.exists_find?_iff.mpr (hsecondKeys ▸ List.mem_singleton_self _)
        have hmem : ("dbscan", second.2) ∈ [first, second] := by
          rw [← hsecondName]
          simp
        refine ⟨second.2, value, hmem, hvalue, (hlookup _ _ _).mpr (Or.inr ⟨?_, "dbscan",
          second.2, hmem, hlower.2, hvalue, ?_⟩)⟩
        · intro a ha hfor
          obtain rfl := List.mem_singleton.mp ha
          have hkey : "min_samples" = "eps" := (Assignment.isFor_iff.mp hfor).2
          exact absurd hkey (by decide)
        · intro other hother _ _
          rcases List.mem_pair.mp hother with rfl | rfl
          · rw [hfirstName]
            decide
          · exact le_of_eq hsecondName

end Configuration

end SurfaceDrift
