import SurfaceDrift.Parameters
import SurfaceDrift.Proofs.Fields
import SurfaceDrift.Proofs.Sequence
import SurfaceDrift.Proofs.Text.Casing
import SurfaceDrift.Proofs.Text.Pieces

/-!
# What a set of parameters holds

Everything that changes a set of parameters puts parameters into it one by one (`putAll`) :
merging with another set puts all that the other one lists (`merge_eq_putAll`), and
assignments put what they spell (`assignAll_eq`). Of all that is put under one name the last
stays (`find?_putAll`). A set in the order of its names lists them in that order, so that of
names that become the same in lowercase the greatest one that has a key prevails
(`find?_caseFolded_iff`).

Whatever is put goes under a name in lowercase (`IsFolded`). Two such sets are equal once no
lookup can tell them apart (`IsFolded.ext`), so that folding twice is folding once
(`caseFolded_caseFolded`), and merging with what assignments come to is making the assignments
(`merge_putAll`).
-/

namespace SurfaceDrift

/-! ## Assignments -/

/-- The text spells an assignment : a path before the first equals sign that has a name
before its first dot and a key after it, and a value behind the sign. -/
def Assignment.Spells (s : String) (a : Assignment) : Prop :=
  ∃ path raw : String, s.toList = path.toList ++ '=' :: raw.toList ∧ '=' ∉ path.toList ∧
    (Text.trim path).toList = a.algorithm.toList ++ '.' :: a.key.toList ∧
    '.' ∉ a.algorithm.toList ∧ a.algorithm ≠ "" ∧ a.key ≠ "" ∧
    a.value = valueOfText (Text.trim raw)

/-- Whether an assignment is to a key of an algorithm, whose name may be in any letter case. -/
def Assignment.isFor (a : Assignment) (algorithm key : String) : Bool :=
  Text.lower a.algorithm == Text.lower algorithm && a.key == key

theorem Assignment.isFor_iff {a : Assignment} {algorithm key : String} :
    a.isFor algorithm key = true ↔
      Text.lower a.algorithm = Text.lower algorithm ∧ a.key = key := by
  simp [isFor]

theorem Assignment.spells_iff {s : String} {a : Assignment} :
    Spells s a ↔ ∃ path raw, Text.cutString '=' s = some (path, raw) ∧
      Text.cutString '.' (Text.trim path) = some (a.algorithm, a.key) ∧
      a.algorithm ≠ "" ∧ a.key ≠ "" ∧ a.value = valueOfText (Text.trim raw) := by
  simp only [Spells, Text.cutString_eq_some_iff, and_assoc]

theorem Assignment.parse_of_cut {s path raw algorithm key : String}
    (hpath : Text.cutString '=' s = some (path, raw))
    (hname : Text.cutString '.' (Text.trim path) = some (algorithm, key)) :
    parse s = if algorithm = "" ∨ key = "" then
        .error (.configuration (.malformedParameterName (Text.trim path)))
      else .ok ⟨algorithm, key, valueOfText (Text.trim raw)⟩ := by
  unfold parse
  simp only [hpath, hname]
  simp

/-- A text is read as the assignment that it spells, and refused if it spells none. -/
theorem Assignment.parse_eq_ok_iff {s : String} {a : Assignment} :
    parse s = .ok a ↔ Spells s a := by
  rw [spells_iff]
  obtain ⟨algorithm, key, value⟩ := a
  constructor
  · intro h
    cases hpath : Text.cutString '=' s with
    | none => simp [parse, hpath] at h
    | some parts =>
      obtain ⟨path, raw⟩ := parts
      cases hname : Text.cutString '.' (Text.trim path) with
      | none => simp [parse, hpath, hname] at h
      | some names =>
        rw [parse_of_cut hpath hname] at h
        split_ifs at h with hempty
        obtain ⟨halgorithm, hkey⟩ := not_or.mp hempty
        obtain ⟨rfl, rfl, hvalue⟩ := Assignment.mk.inj (Except.ok.inj h)
        exact ⟨path, raw, rfl, hname, halgorithm, hkey, hvalue.symm⟩
  · rintro ⟨path, raw, hpath, hname, halgorithm, hkey, hvalue⟩
    rw [parse_of_cut hpath hname, if_neg (not_or.mpr ⟨halgorithm, hkey⟩), ← hvalue]

theorem Assignment.Spells.unique {s : String} {a b : Assignment} (ha : Spells s a)
    (hb : Spells s b) : a = b := by
  have hsame := (parse_eq_ok_iff.mpr ha).symm.trans (parse_eq_ok_iff.mpr hb)
  exact Except.ok.inj hsame

theorem Assignment.exists_fault_of_parse {s : String} {e : Error} (h : parse s = .error e) :
    ∃ fault, e = .configuration fault := by
  unfold parse at h
  split at h
  · exact ⟨_, (Except.error.inj h).symm⟩
  · dsimp only at h
    split at h
    · split_ifs at h
      exact ⟨_, (Except.error.inj h).symm⟩
    · exact ⟨_, (Except.error.inj h).symm⟩

namespace ParamSet

/-! ## Parameters put one by one -/

/-- A set with parameters put into it one by one. -/
def putAll (set : ParamSet) (given : List Assignment) : ParamSet :=
  given.foldl (fun set a => set.put a.algorithm a.key a.value) set

/-- The parameters of a set, one by one. -/
def listing (set : ParamSet) : List Assignment :=
  set.flatMap fun entry => entry.2.map fun param => ⟨entry.1, param.1, param.2⟩

theorem mem_listing {set : ParamSet} {a : Assignment} :
    a ∈ set.listing ↔ ∃ entry ∈ set, entry.1 = a.algorithm ∧ (a.key, a.value) ∈ entry.2 := by
  obtain ⟨algorithm, key, value⟩ := a
  simp only [listing, List.mem_flatMap, List.mem_map]
  constructor
  · rintro ⟨entry, hentry, param, hparam, heq⟩
    obtain ⟨rfl, rfl, rfl⟩ := Assignment.mk.inj heq
    exact ⟨entry, hentry, rfl, hparam⟩
  · rintro ⟨entry, hentry, rfl, hparam⟩
    exact ⟨entry, hentry, _, hparam, rfl⟩

theorem merge_eq_putAll (set other : ParamSet) : set.merge other = set.putAll other.listing := by
  rw [putAll, listing, List.foldl_flatMap]
  simp only [List.foldl_map]
  rfl

theorem assign_eq (set : ParamSet) (s : String) :
    set.assign s = (Assignment.parse s).map fun a => set.put a.algorithm a.key a.value := by
  rw [assign]
  cases Assignment.parse s <;> rfl

/-- Assignments put what they spell, if all of them spell something. -/
theorem assignAll_eq (set : ParamSet) (assignments : List String) :
    set.assignAll assignments = (assignments.mapM Assignment.parse).map set.putAll := by
  induction assignments generalizing set with
  | nil => rfl
  | cons s rest ih =>
    rw [assignAll, assign_eq, List.mapM_cons]
    cases Assignment.parse s with
    | error e => rfl
    | ok a =>
      have hrest := ih (set.put a.algorithm a.key a.value)
      cases hmapM : rest.mapM Assignment.parse with
      | error e =>
        rw [hmapM] at hrest
        exact hrest
      | ok given =>
        rw [hmapM] at hrest
        exact hrest

/-! ## Looking up -/

@[simp] theorem find?_forAlgorithm_nil (algorithm key : String) :
    Fields.find? (forAlgorithm [] algorithm) key = none := rfl

theorem forAlgorithm_put (set : ParamSet) (algorithm key : String) (value : Document)
    (other : String) :
    (set.put algorithm key value).forAlgorithm other =
      if Text.lower algorithm = Text.lower other then
        Fields.insert (set.forAlgorithm other) key value
      else set.forAlgorithm other := by
  rw [put, forAlgorithm, Fields.find?_insert]
  split_ifs with h
  · rw [Option.getD_some, forAlgorithm, forAlgorithm, h]
  · rfl

theorem find?_put (set : ParamSet) (a : Assignment) (algorithm key : String) :
    Fields.find? ((set.put a.algorithm a.key a.value).forAlgorithm algorithm) key =
      if a.isFor algorithm key then some a.value
      else Fields.find? (set.forAlgorithm algorithm) key := by
  rw [forAlgorithm_put]
  by_cases hname : Text.lower a.algorithm = Text.lower algorithm
  · rw [if_pos hname, Fields.find?_insert]
    simp [Assignment.isFor, hname]
  · have hother : ¬a.isFor algorithm key := fun h => hname (Assignment.isFor_iff.mp h).1
    rw [if_neg hname, if_neg hother]

/-- Of all that is put under one name the last stays. -/
theorem find?_putAll (set : ParamSet) (given : List Assignment) (algorithm key : String) :
    Fields.find? ((set.putAll given).forAlgorithm algorithm) key =
      ((given.filter fun a => a.isFor algorithm key).getLast?.map Assignment.value).or
        (Fields.find? (set.forAlgorithm algorithm) key) := by
  induction given generalizing set with
  | nil => rfl
  | cons a rest ih =>
    have hstep : set.putAll (a :: rest) = (set.put a.algorithm a.key a.value).putAll rest := rfl
    rw [hstep, ih, find?_put, List.filter_cons]
    by_cases h : a.isFor algorithm key
    · cases hlast : (rest.filter fun a => a.isFor algorithm key).getLast? <;>
        simp [h, List.getLast?_cons, hlast]
    · simp [h]

/-- Whatever is put is found, or something that is put after it. -/
theorem exists_find?_putAll (set : ParamSet) {given : List Assignment} {a : Assignment}
    (h : a ∈ given) :
    ∃ value, Fields.find? ((set.putAll given).forAlgorithm a.algorithm) a.key = some value := by
  have hmem : a ∈ given.filter fun b => b.isFor a.algorithm a.key :=
    List.mem_filter.mpr ⟨h, Assignment.isFor_iff.mpr ⟨rfl, rfl⟩⟩
  obtain ⟨last, hlast⟩ := Option.ne_none_iff_exists'.mp
    (mt List.getLast?_eq_none_iff.mp (List.ne_nil_of_mem hmem))
  exact ⟨last.value, by rw [find?_putAll, hlast, Option.map_some, Option.some_or]⟩

/-- A name in any letter case finds each of its keys after folding. -/
theorem exists_find?_caseFolded {set : ParamSet} {entry : String × Params} (hentry : entry ∈ set)
    {key : String} (hkey : key ∈ Fields.names entry.2) :
    ∃ value, Fields.find? (set.caseFolded.forAlgorithm entry.1) key = some value := by
  obtain ⟨value, hvalue⟩ := Fields.exists_find?_iff.mpr hkey
  have hlisted : Assignment.mk entry.1 key value ∈ set.listing :=
    mem_listing.mpr ⟨entry, hentry, rfl, Fields.mem_of_find? hvalue⟩
  have hfound := exists_find?_putAll [] hlisted
  rwa [← merge_eq_putAll] at hfound

/-! ## Sets in order -/

/-- The names ascend, and so do the keys under each of them. -/
structure IsOrdered (set : ParamSet) : Prop where
  names : Fields.Ascending set
  keys : ∀ entry ∈ set, Fields.Ascending entry.2

/-- The parameters are listed in the order of the names. -/
theorem IsOrdered.pairwise_listing {set : ParamSet} (h : set.IsOrdered) :
    set.listing.Pairwise fun a b => a.algorithm ≤ b.algorithm := by
  rw [listing, List.pairwise_flatMap]
  constructor
  · intro entry _
    rw [List.pairwise_map]
    exact List.pairwise_of_forall fun _ _ => le_refl _
  · refine (List.pairwise_map.mp h.names).imp fun hlt a ha b hb => ?_
    obtain ⟨-, -, rfl⟩ := List.mem_map.mp ha
    obtain ⟨-, -, rfl⟩ := List.mem_map.mp hb
    exact le_of_lt hlt

/-- The last parameter that is listed for a key is that of the greatest name that has it. -/
theorem IsOrdered.last_listed_iff {set : ParamSet} (h : set.IsOrdered) {algorithm key : String}
    {value : Document} :
    (set.listing.filter fun a => a.isFor algorithm key).getLast?.map Assignment.value =
        some value ↔
      ∃ name params, (name, params) ∈ set ∧ Text.lower name = Text.lower algorithm ∧
        Fields.find? params key = some value ∧
        ∀ other ∈ set, Text.lower other.1 = Text.lower algorithm → key ∈ Fields.names other.2 →
          other.1 ≤ name := by
  have hsorted := h.pairwise_listing.filter fun a => a.isFor algorithm key
  have hmem : ∀ a, (a ∈ set.listing.filter fun a => a.isFor algorithm key) ↔
      (∃ entry ∈ set, entry.1 = a.algorithm ∧ (a.key, a.value) ∈ entry.2) ∧
        Text.lower a.algorithm = Text.lower algorithm ∧ a.key = key := by
    intro a
    rw [List.mem_filter, mem_listing, Assignment.isFor_iff]
  generalize set.listing.filter (fun a => a.isFor algorithm key) = listed at hsorted hmem
  rw [Option.map_eq_some_iff]
  constructor
  · rintro ⟨last, hlast, rfl⟩
    obtain ⟨⟨entry, hentry, hname, hparam⟩, hlower, rfl⟩ :=
      (hmem last).mp (List.mem_of_getLast? hlast)
    refine ⟨entry.1, entry.2, hentry, hname ▸ hlower, (h.keys entry hentry).find?_of_mem hparam,
      fun other hother hotherLower hkey => ?_⟩
    obtain ⟨value, hvalue⟩ := Fields.exists_find?_iff.mpr hkey
    have hlisted := (hmem ⟨other.1, last.key, value⟩).mpr
      ⟨⟨other, hother, rfl, Fields.mem_of_find? hvalue⟩, hotherLower, rfl⟩
    exact hname ▸ Fields.le_getLast?_of_pairwise hsorted hlast hlisted
  · rintro ⟨name, params, hset, hlower, hfind, hgreatest⟩
    have hlisted := (hmem ⟨name, key, value⟩).mpr
      ⟨⟨_, hset, rfl, Fields.mem_of_find? hfind⟩, hlower, rfl⟩
    obtain ⟨last, hlast⟩ := Option.ne_none_iff_exists'.mp
      (mt List.getLast?_eq_none_iff.mp (List.ne_nil_of_mem hlisted))
    obtain ⟨⟨entry, hentry, hname, hparam⟩, hlastLower, hkey⟩ :=
      (hmem last).mp (List.mem_of_getLast? hlast)
    -- the last one listed is at least `name`, and `name` is at least every name with the key
    have hentryName : entry.1 = name := by
      refine le_antisymm (hgreatest entry hentry (hname ▸ hlastLower) ?_) ?_
      · exact hkey ▸ List.mem_map_of_mem hparam
      · exact hname ▸ Fields.le_getLast?_of_pairwise hsorted hlast hlisted
    have hentryParams : entry.2 = params :=
      Option.some.inj ((h.names.find?_of_mem hentry).symm.trans
        (hentryName ▸ h.names.find?_of_mem hset))
    have hvalue : Fields.find? entry.2 last.key = some last.value :=
      (h.keys entry hentry).find?_of_mem hparam
    rw [hentryParams, hkey, hfind] at hvalue
    exact ⟨last, hlast, (Option.some.inj hvalue).symm⟩

/-- A document is read as the set that it is written from. -/
theorem ofDocument?_eq_some_iff {d : Document} {set : ParamSet} :
    ofDocument? d = some set ↔ d = set.toDocument := by
  constructor
  · intro h
    cases d with
    | object fields =>
      rw [ofDocument?] at h
      rw [toDocument]
      congr 1
      induction fields generalizing set with
      | nil =>
        obtain rfl := Option.some.inj h
        rfl
      | cons entry rest ih =>
        obtain ⟨name, value⟩ := entry
        rw [List.mapM_cons] at h
        cases value with
        | object params =>
          simp only [Option.bind_eq_bind, Option.bind_eq_some_iff, Option.pure_def,
            Option.some.injEq] at h
          obtain ⟨entry, rfl, others, hothers, rfl⟩ := h
          rw [ih hothers]
          rfl
        | _ => cases h
    | _ => cases h
  · rintro rfl
    rw [toDocument, ofDocument?]
    refine mapM_map_eq_some ?_
    intro entry _
    rfl

/-! ## Folded sets -/

/-- A set in order, with names in lowercase and some parameter under each of them. -/
structure IsFolded (set : ParamSet) : Prop extends IsOrdered set where
  lower_eq : ∀ entry ∈ set, Text.lower entry.1 = entry.1
  ne_nil : ∀ entry ∈ set, entry.2 ≠ []

theorem isFolded_nil : IsFolded [] :=
  ⟨⟨Fields.ascending_nil, by simp⟩, by simp, by simp⟩

theorem IsOrdered.ascending_forAlgorithm {set : ParamSet} (h : set.IsOrdered) (algorithm : String) :
    Fields.Ascending (set.forAlgorithm algorithm) := by
  rw [forAlgorithm]
  cases hfind : Fields.find? set (Text.lower algorithm) with
  | none => exact Fields.ascending_nil
  | some params => exact h.keys _ (Fields.mem_of_find? hfind)

theorem IsFolded.put {set : ParamSet} (h : set.IsFolded) (algorithm key : String)
    (value : Document) : (set.put algorithm key value).IsFolded := by
  rw [ParamSet.put]
  have hmem : ∀ entry ∈ Fields.insert set (Text.lower algorithm)
      (Fields.insert (set.forAlgorithm algorithm) key value),
      entry = (Text.lower algorithm, Fields.insert (set.forAlgorithm algorithm) key value) ∨
        entry ∈ set := fun entry hentry => h.names.mem_insert hentry
  constructor
  · constructor
    · exact h.names.insert (Text.lower algorithm) _
    · intro entry hentry
      rcases hmem entry hentry with rfl | hentry
      · exact (h.ascending_forAlgorithm algorithm).insert key value
      · exact h.keys entry hentry
  · intro entry hentry
    rcases hmem entry hentry with rfl | hentry
    · exact Text.lower_lower algorithm
    · exact h.lower_eq entry hentry
  · intro entry hentry
    rcases hmem entry hentry with rfl | hentry
    · exact Fields.insert_ne_nil _ key value
    · exact h.ne_nil entry hentry

theorem IsFolded.putAll {set : ParamSet} (h : set.IsFolded) (given : List Assignment) :
    (set.putAll given).IsFolded := by
  induction given generalizing set with
  | nil => exact h
  | cons a rest ih => exact ih (h.put a.algorithm a.key a.value)

theorem IsFolded.merge {set : ParamSet} (h : set.IsFolded) (other : ParamSet) :
    (set.merge other).IsFolded := by
  rw [merge_eq_putAll]
  exact h.putAll other.listing

theorem isFolded_caseFolded (set : ParamSet) : set.caseFolded.IsFolded :=
  isFolded_nil.merge set

/-- Under a name in lowercase are the parameters of the algorithm, if it has any. -/
theorem IsFolded.find?_eq {set : ParamSet} (h : set.IsFolded) (name : String) :
    Fields.find? set name =
      if Text.lower name = name ∧ set.forAlgorithm name ≠ [] then some (set.forAlgorithm name)
      else none := by
  cases hfind : Fields.find? set name with
  | none =>
    rw [if_neg]
    rintro ⟨hlower, hne⟩
    rw [forAlgorithm, hlower, hfind] at hne
    exact hne rfl
  | some params =>
    have hmem := Fields.mem_of_find? hfind
    have hlower : Text.lower name = name := h.lower_eq (name, params) hmem
    have hparams : set.forAlgorithm name = params := by
      rw [forAlgorithm, hlower, hfind, Option.getD_some]
    rw [hparams, if_pos ⟨hlower, h.ne_nil _ hmem⟩]

/-- Folded sets with the same parameters are equal. -/
theorem IsFolded.ext {a b : ParamSet} (ha : a.IsFolded) (hb : b.IsFolded)
    (h : ∀ algorithm key, Fields.find? (a.forAlgorithm algorithm) key =
      Fields.find? (b.forAlgorithm algorithm) key) : a = b := by
  refine ha.names.ext hb.names fun name => ?_
  have hsame : a.forAlgorithm name = b.forAlgorithm name :=
    (ha.ascending_forAlgorithm name).ext (hb.ascending_forAlgorithm name) (h name)
  rw [ha.find?_eq, hb.find?_eq, hsame]

/-- The last parameter that a folded set lists for a key is the one that is found. -/
theorem IsFolded.last_listed {set : ParamSet} (h : set.IsFolded) (algorithm key : String) :
    (set.listing.filter fun a => a.isFor algorithm key).getLast?.map Assignment.value =
      Fields.find? (set.forAlgorithm algorithm) key := by
  refine Option.ext fun value => ?_
  rw [h.last_listed_iff]
  constructor
  · rintro ⟨name, params, hmem, hname, hfind, -⟩
    have hlower : Text.lower name = name := h.lower_eq (name, params) hmem
    rw [forAlgorithm, ← hname, hlower, h.names.find?_of_mem hmem]
    exact hfind
  · intro hfind
    rw [forAlgorithm] at hfind
    cases hparams : Fields.find? set (Text.lower algorithm) with
    | none =>
      rw [hparams] at hfind
      cases hfind
    | some params =>
      rw [hparams] at hfind
      have hmem := Fields.mem_of_find? hparams
      refine ⟨Text.lower algorithm, params, hmem, Text.lower_lower algorithm, hfind, ?_⟩
      intro other hother hotherLower _
      rw [← hotherLower, h.lower_eq other hother]

/-- The parameters of a folded set take the place of those that are there. -/
theorem IsFolded.find?_merge {other : ParamSet} (h : other.IsFolded) (set : ParamSet)
    (algorithm key : String) :
    Fields.find? ((set.merge other).forAlgorithm algorithm) key =
      (Fields.find? (other.forAlgorithm algorithm) key).or
        (Fields.find? (set.forAlgorithm algorithm) key) := by
  rw [merge_eq_putAll, find?_putAll, h.last_listed]

/-! ## Folding and assigning -/

/-- Of the names that become the same, the greatest one that has a key prevails. -/
theorem IsOrdered.find?_caseFolded_iff {set : ParamSet} (h : set.IsOrdered)
    {algorithm key : String} {value : Document} :
    Fields.find? (set.caseFolded.forAlgorithm algorithm) key = some value ↔
      ∃ name params, (name, params) ∈ set ∧ Text.lower name = Text.lower algorithm ∧
        Fields.find? params key = some value ∧
        ∀ other ∈ set, Text.lower other.1 = Text.lower algorithm → key ∈ Fields.names other.2 →
          other.1 ≤ name := by
  rw [caseFolded, merge_eq_putAll, find?_putAll, find?_forAlgorithm_nil, Option.or_none, h.last_listed_iff]

theorem caseFolded_caseFolded (set : ParamSet) : set.caseFolded.caseFolded = set.caseFolded := by
  have hfolded := isFolded_caseFolded set
  refine (isFolded_caseFolded _).ext hfolded fun algorithm key => ?_
  rw [caseFolded, hfolded.find?_merge, find?_forAlgorithm_nil, Option.or_none]

/-- Merging with what assignments put into an empty set is putting it into the set itself. -/
theorem IsFolded.merge_putAll {set : ParamSet} (h : set.IsFolded) (given : List Assignment) :
    set.merge (ParamSet.putAll [] given) = set.putAll given := by
  refine (h.merge _).ext (h.putAll given) fun algorithm key => ?_
  rw [(isFolded_nil.putAll given).find?_merge, find?_putAll, find?_putAll, find?_forAlgorithm_nil, Option.or_none]

end ParamSet

end SurfaceDrift
