import Mathlib.Data.List.Dedup
import Mathlib.Data.List.Induction
import Mathlib.Data.List.Pairwise
import Mathlib.Data.String.Basic
import SurfaceDrift.Fields

/-!
# Laws of entries under distinct names

`find?` sees `insert` as the update of a function (`find?_insert`), and of all entries put
in one by one it sees the last one of each name (`find?_insertAll`), so that as many remain
as there are distinct names (`length_ofList`). `insert` keeps the names ascending
(`Ascending.insert`), and two maps with ascending names are equal once `find?` cannot tell
them apart (`Ascending.ext`). Entries whose names are changed one by one may fall together, and
the value of the greatest of the former names stays (`find?_ofList_map_iff`). Items that are
gathered under names stand there in their order (`find?_gather`).
-/

namespace SurfaceDrift.Fields

variable {α β : Type}

/-! ## Looking up -/

@[simp] theorem find?_nil (name : String) : find? ([] : Fields α) name = none := rfl

theorem find?_cons (key name : String) (value : α) (rest : Fields α) :
    find? ((key, value) :: rest) name = if key = name then some value else find? rest name :=
  rfl

/-- Looking up sees an insertion as an update. The names need not ascend. -/
theorem find?_insert (fields : Fields α) (name other : String) (value : α) :
    find? (insert fields name value) other =
      if name = other then some value else find? fields other := by
  induction fields with
  | nil => rfl
  | cons entry rest ih =>
    obtain ⟨key, old⟩ := entry
    rcases lt_trichotomy name key with hlt | rfl | hgt
    · rw [insert, if_pos hlt, find?_cons]
    · rw [insert, if_neg (lt_irrefl name), if_pos rfl, find?_cons, find?_cons]
      split_ifs <;> rfl
    · rw [insert, if_neg hgt.not_gt, if_neg hgt.ne', find?_cons, find?_cons, ih]
      by_cases hother : name = other
      · rw [if_pos hother, if_pos hother, if_neg (hother ▸ hgt.ne)]
      · rw [if_neg hother, if_neg hother]

theorem find?_eq_none_iff {fields : Fields α} {name : String} :
    find? fields name = none ↔ name ∉ names fields := by
  induction fields with
  | nil => simp [names]
  | cons entry rest ih =>
    obtain ⟨key, value⟩ := entry
    rw [find?_cons]
    simp only [names, List.map_cons, List.mem_cons, not_or] at ih ⊢
    split_ifs with h
    · simp [h]
    · simp [ih, Ne.symm h]

theorem exists_find?_iff {fields : Fields α} {name : String} :
    (∃ value, find? fields name = some value) ↔ name ∈ names fields := by
  rw [← Option.isSome_iff_exists, ← not_iff_not, Bool.not_eq_true, Option.isSome_eq_false_iff,
    Option.isNone_iff_eq_none, find?_eq_none_iff]

theorem mem_of_find? {fields : Fields α} {name : String} {value : α}
    (h : find? fields name = some value) : (name, value) ∈ fields := by
  induction fields with
  | nil => simp at h
  | cons entry rest ih =>
    obtain ⟨key, old⟩ := entry
    rw [find?_cons] at h
    split_ifs at h with hk
    · obtain rfl := hk
      obtain rfl := Option.some.inj h
      exact List.mem_cons_self
    · exact List.mem_cons_of_mem _ (ih h)

/-- A map is told by a property that each of its entries has, that gives its names, and that
allows one value for a name. -/
theorem find?_eq_some_iff_of {fields : Fields α} {P : String → α → Prop}
    (hentry : ∀ name value, find? fields name = some value → P name value)
    (hname : ∀ name value, P name value → name ∈ names fields)
    (hone : ∀ name value other, P name value → P name other → value = other)
    {name : String} {value : α} : find? fields name = some value ↔ P name value := by
  refine ⟨hentry name value, fun h => ?_⟩
  obtain ⟨found, hfound⟩ := exists_find?_iff.mpr (hname name value h)
  rw [hfound, hone name found value (hentry name found hfound) h]

/-! ## Ascending names -/

@[simp] theorem ascending_nil : Ascending ([] : Fields α) := List.Pairwise.nil

theorem ascending_cons {key : String} {value : α} {rest : Fields α} :
    Ascending ((key, value) :: rest) ↔ (∀ name ∈ names rest, key < name) ∧ Ascending rest :=
  List.pairwise_cons

theorem Ascending.nodup_names {fields : Fields α} (h : Ascending fields) :
    (names fields).Nodup :=
  List.Pairwise.imp (fun hlt => ne_of_lt hlt) h

theorem Ascending.nodup_self {fields : Fields α} (h : Ascending fields) : List.Nodup fields :=
  List.Pairwise.imp (fun hlt heq => ne_of_lt hlt (congrArg Prod.fst heq)) (List.pairwise_map.mp h)

theorem mem_names_insert {fields : Fields α} {name other : String} {value : α} :
    other ∈ names (insert fields name value) ↔ other = name ∨ other ∈ names fields := by
  rw [← exists_find?_iff, ← exists_find?_iff, find?_insert]
  split_ifs with h
  · simp [h]
  · simp [Ne.symm h]

theorem Ascending.insert {fields : Fields α} (h : Ascending fields) (name : String) (value : α) :
    Ascending (insert fields name value) := by
  induction fields with
  | nil => simp [Fields.insert, Ascending, names]
  | cons entry rest ih =>
    obtain ⟨key, old⟩ := entry
    obtain ⟨hkey, hrest⟩ := ascending_cons.mp h
    rw [Fields.insert]
    split_ifs with hlt heq
    · refine ascending_cons.mpr ⟨fun other hmem => ?_, h⟩
      rcases List.mem_cons.mp hmem with rfl | hmem
      · exact hlt
      · exact hlt.trans (hkey other hmem)
    · subst heq
      exact ascending_cons.mpr ⟨hkey, hrest⟩
    · refine ascending_cons.mpr ⟨fun other hmem => ?_, ih hrest⟩
      rcases mem_names_insert.mp hmem with rfl | hmem
      · exact lt_of_le_of_ne (not_lt.mp hlt) (Ne.symm heq)
      · exact hkey other hmem

/-- With ascending names an entry is found under its name. -/
theorem Ascending.find?_of_mem {fields : Fields α} (h : Ascending fields) {name : String}
    {value : α} (hmem : (name, value) ∈ fields) : find? fields name = some value := by
  induction fields with
  | nil => simp at hmem
  | cons entry rest ih =>
    obtain ⟨key, old⟩ := entry
    obtain ⟨hkey, hrest⟩ := ascending_cons.mp h
    rw [find?_cons]
    rcases List.mem_cons.mp hmem with heq | hmem
    · obtain ⟨rfl, rfl⟩ := Prod.mk.inj heq
      simp
    · have hlt : key < name := hkey name (List.mem_map_of_mem hmem)
      rw [if_neg hlt.ne]
      exact ih hrest hmem

/-- After an insertion there is the new entry, and what was there before. -/
theorem Ascending.mem_insert {fields : Fields α} (h : Ascending fields) {name : String} {value : α}
    {entry : String × α} (hmem : entry ∈ Fields.insert fields name value) :
    entry = (name, value) ∨ entry ∈ fields := by
  obtain ⟨other, found⟩ := entry
  have hfind := (h.insert name value).find?_of_mem hmem
  rw [find?_insert] at hfind
  split_ifs at hfind with heq
  · exact Or.inl (by rw [← heq, Option.some.inj hfind])
  · exact Or.inr (mem_of_find? hfind)

theorem insert_ne_nil (fields : Fields α) (name : String) (value : α) :
    Fields.insert fields name value ≠ [] := by
  intro hnil
  have hfind := find?_insert fields name name value
  rw [hnil, if_pos rfl] at hfind
  cases hfind

/-- Ascending names, looked up to the same values, make equal maps. -/
theorem Ascending.ext {a b : Fields α} (ha : Ascending a) (hb : Ascending b)
    (h : ∀ name, find? a name = find? b name) : a = b := by
  have hmem : ∀ entry, entry ∈ a ↔ entry ∈ b := fun ⟨name, value⟩ =>
    ⟨fun hm => mem_of_find? ((h name).symm.trans (ha.find?_of_mem hm)),
      fun hm => mem_of_find? ((h name).trans (hb.find?_of_mem hm))⟩
  have hperm : a.Perm b :=
    (List.perm_ext_iff_of_nodup ha.nodup_self hb.nodup_self).mpr hmem
  exact hperm.eq_of_pairwise
    (fun x y _ _ hxy hyx => absurd hxy (not_lt.mpr (le_of_lt hyx)))
    (List.pairwise_map.mp ha) (List.pairwise_map.mp hb)

/-! ## Many entries -/

theorem Ascending.insertAll {fields : Fields α} (h : Ascending fields)
    (entries : List (String × α)) : Ascending (insertAll fields entries) := by
  induction entries generalizing fields with
  | nil => exact h
  | cons entry rest ih => exact ih (h.insert entry.1 entry.2)

theorem ascending_ofList (entries : List (String × α)) : Ascending (ofList entries) :=
  ascending_nil.insertAll entries

theorem insertAll_append (fields : Fields α) (entries more : List (String × α)) :
    insertAll fields (entries ++ more) = insertAll (insertAll fields entries) more :=
  List.foldl_append

/-- Of the entries of one name the last one is found. -/
theorem find?_insertAll (fields : Fields α) (entries : List (String × α)) (name : String) :
    find? (insertAll fields entries) name =
      (((entries.filter fun entry => entry.1 = name).getLast?).map Prod.snd).or
        (find? fields name) := by
  induction entries generalizing fields with
  | nil => rfl
  | cons entry rest ih =>
    obtain ⟨key, value⟩ := entry
    have hstep : insertAll fields ((key, value) :: rest) =
        insertAll (insert fields key value) rest := rfl
    rw [hstep, ih, find?_insert, List.filter_cons]
    by_cases h : key = name
    · cases hlast : (rest.filter fun entry => entry.1 = name).getLast? <;>
        simp [h, List.getLast?_cons, hlast]
    · simp [h]

theorem find?_ofList (entries : List (String × α)) (name : String) :
    find? (ofList entries) name =
      ((entries.filter fun entry => entry.1 = name).getLast?).map Prod.snd := by
  rw [ofList, find?_insertAll, find?_nil, Option.or_none]

theorem mem_names_ofList {entries : List (String × α)} {name : String} :
    name ∈ names (ofList entries) ↔ ∃ value, (name, value) ∈ entries := by
  rw [← not_iff_not, ← find?_eq_none_iff, find?_ofList, Option.map_eq_none_iff,
    List.getLast?_eq_none_iff, List.filter_eq_nil_iff]
  constructor
  · rintro h ⟨value, hmem⟩
    simpa using h _ hmem
  · rintro h ⟨key, value⟩ hmem
    simp only [decide_eq_true_eq]
    rintro rfl
    exact h ⟨value, hmem⟩

theorem mem_of_find?_ofList {entries : List (String × α)} {name : String} {value : α}
    (h : find? (ofList entries) name = some value) : (name, value) ∈ entries := by
  rw [find?_ofList, Option.map_eq_some_iff] at h
  obtain ⟨⟨key, last⟩, hlast, rfl⟩ := h
  obtain ⟨hmem, hkey⟩ := List.mem_filter.mp (List.mem_of_getLast? hlast)
  obtain rfl : key = name := of_decide_eq_true hkey
  exact hmem

theorem mem_of_mem_ofList {entries : List (String × α)} {entry : String × α}
    (h : entry ∈ ofList entries) : entry ∈ entries :=
  mem_of_find?_ofList ((ascending_ofList entries).find?_of_mem h)

/-- As many entries remain as there are distinct names. -/
theorem length_ofList (entries : List (String × α)) :
    (ofList entries).length = (entries.map Prod.fst).dedup.length := by
  have hperm : (names (ofList entries)).Perm (entries.map Prod.fst).dedup := by
    refine (List.perm_ext_iff_of_nodup (ascending_ofList entries).nodup_names
      (List.nodup_dedup _)).mpr fun name => ?_
    rw [mem_names_ofList, List.mem_dedup, List.mem_map]
    exact ⟨fun ⟨value, hmem⟩ => ⟨(name, value), hmem, rfl⟩, fun ⟨entry, hmem, heq⟩ =>
      ⟨entry.2, heq ▸ hmem⟩⟩
  rw [← hperm.length_eq, names, List.length_map]

/-- Under distinct names every entry is found. -/
theorem find?_ofList_of_nodup {entries : List (String × α)} (h : (entries.map Prod.fst).Nodup)
    {name : String} {value : α} (hmem : (name, value) ∈ entries) :
    find? (ofList entries) name = some value := by
  obtain ⟨found, hfound⟩ := exists_find?_iff.mpr (mem_names_ofList.mpr ⟨value, hmem⟩)
  have heq : (name, found) = (name, value) :=
    List.inj_on_of_nodup_map h (mem_of_find?_ofList hfound) hmem rfl
  rw [hfound, (Prod.mk.inj heq).2]

/-- Entries whose names ascend are a map already. -/
theorem Ascending.ofList_eq {fields : Fields α} (h : Ascending fields) : ofList fields = fields :=
  (ascending_ofList fields).ext h fun _ => Option.ext fun _ =>
    ⟨fun hfind => h.find?_of_mem (mem_of_find?_ofList hfind),
      fun hfind => find?_ofList_of_nodup h.nodup_names (mem_of_find? hfind)⟩

theorem Ascending.filter {fields : Fields α} (h : Ascending fields) (p : String × α → Bool) :
    Ascending (fields.filter p) :=
  List.Pairwise.sublist (List.filter_sublist.map Prod.fst) h

/-- The last of items in the order of some names has the greatest of them. -/
theorem le_getLast?_of_pairwise {γ : Type} {items : List γ} {name : γ → String}
    (h : items.Pairwise fun a b => name a ≤ name b) {last : γ} (hlast : items.getLast? = some last)
    {item : γ} (hitem : item ∈ items) : name item ≤ name last := by
  obtain ⟨before, rfl⟩ := List.getLast?_eq_some_iff.mp hlast
  rcases List.mem_append.mp hitem with hmem | hmem
  · exact (List.pairwise_append.mp h).2.2 item hmem last (List.mem_singleton_self last)
  · rw [List.mem_singleton.mp hmem]

/-- Among ascending names the last one is the greatest. -/
theorem Ascending.le_getLast? {fields : Fields α} (h : Ascending fields) {last : String × α}
    (hlast : fields.getLast? = some last) {entry : String × α} (hentry : entry ∈ fields) :
    entry.1 ≤ last.1 :=
  le_getLast?_of_pairwise ((List.pairwise_map.mp h).imp le_of_lt) hlast hentry

/-- If ascending names are changed one by one, then of those that become the same the greatest
one keeps its value. -/
theorem find?_ofList_map_iff {fields : Fields α} (h : Ascending fields) (rename : String → String)
    (g : α → β) {name : String} {value : β} :
    find? (ofList (fields.map fun entry => (rename entry.1, g entry.2))) name = some value ↔
      ∃ original old, find? fields original = some old ∧ rename original = name ∧
        (∀ other ∈ names fields, rename other = name → other ≤ original) ∧ g old = value := by
  have hfind : find? (ofList (fields.map fun entry => (rename entry.1, g entry.2))) name =
      (fields.filter fun entry => rename entry.1 = name).getLast?.map fun entry => g entry.2 := by
    rw [find?_ofList, List.filter_map, List.getLast?_map, Option.map_map]
    rfl
  have hmem : ∀ entry, entry ∈ (fields.filter fun entry => rename entry.1 = name) ↔
      entry ∈ fields ∧ rename entry.1 = name := by simp
  have hsame := h.filter fun entry => rename entry.1 = name
  rw [hfind, Option.map_eq_some_iff]
  constructor
  · rintro ⟨⟨original, old⟩, hlast, rfl⟩
    obtain ⟨hin, hname⟩ := (hmem _).mp (List.mem_of_getLast? hlast)
    refine ⟨original, old, h.find?_of_mem hin, hname, fun other hother hotherName => ?_, rfl⟩
    obtain ⟨entry, hentry, rfl⟩ := List.mem_map.mp hother
    exact hsame.le_getLast? hlast ((hmem entry).mpr ⟨hentry, hotherName⟩)
  · rintro ⟨original, old, hold, hname, hgreatest, rfl⟩
    have hin := (hmem (original, old)).mpr ⟨mem_of_find? hold, hname⟩
    obtain ⟨⟨last, value⟩, hlast⟩ := Option.ne_none_iff_exists'.mp
      (mt List.getLast?_eq_none_iff.mp (List.ne_nil_of_mem hin))
    obtain ⟨hlastIn, hlastName⟩ := (hmem _).mp (List.mem_of_getLast? hlast)
    obtain rfl : last = original := le_antisymm
      (hgreatest last (List.mem_map_of_mem hlastIn) hlastName) (hsame.le_getLast? hlast hin)
    obtain rfl : value = old := Option.some.inj ((h.find?_of_mem hlastIn).symm.trans hold)
    exact ⟨_, hlast, rfl⟩

/-! ## Items gathered under names -/

/-- Items added one by one to what is under the name that each of them has. -/
def gather {γ : Type} (name : γ → String) (add : α → γ → α) (empty : α) (items : List γ) :
    Fields α :=
  items.foldl (fun fields item => insert fields (name item)
    (add ((find? fields (name item)).getD empty) item)) []

section Gather

variable {γ : Type} {name : γ → String} {add : α → γ → α} {empty : α}

theorem gather_append_singleton (items : List γ) (item : γ) :
    gather name add empty (items ++ [item]) = insert (gather name add empty items) (name item)
      (add ((find? (gather name add empty items) (name item)).getD empty) item) := by
  rw [gather, List.foldl_append]
  rfl

/-- Under a name are the items that have it, if any has. -/
theorem find?_gather (items : List γ) (other : String) :
    find? (gather name add empty items) other =
      if items.filter (name · = other) = [] then none
      else some ((items.filter (name · = other)).foldl add empty) := by
  induction items using List.reverseRecOn with
  | nil => rfl
  | append_singleton items item ih =>
    rw [gather_append_singleton, find?_insert, List.filter_append]
    by_cases h : name item = other
    · subst h
      have hadded : ((find? (gather name add empty items) (name item)).getD empty) =
          (items.filter (name · = name item)).foldl add empty := by
        rw [ih]
        split_ifs with hnone
        · rw [hnone]
          rfl
        · rfl
      simp [hadded]
    · simp [h, ih]

theorem ascending_gather (items : List γ) : Ascending (gather name add empty items) := by
  induction items using List.reverseRecOn with
  | nil => exact ascending_nil
  | append_singleton items item ih =>
    rw [gather_append_singleton]
    exact ih.insert _ _

theorem mem_names_gather {items : List γ} {other : String} :
    other ∈ names (gather name add empty items) ↔ ∃ item ∈ items, name item = other := by
  rw [← not_iff_not, ← find?_eq_none_iff, find?_gather, ite_eq_left_iff,
    List.filter_eq_nil_iff]
  simp

end Gather

/-! ## Other values under the same names -/

theorem insert_mapValues (f : α → β) (fields : Fields α) (name : String) (value : α) :
    insert (mapValues f fields) name (f value) = mapValues f (insert fields name value) := by
  induction fields with
  | nil => rfl
  | cons entry rest ih =>
    obtain ⟨key, old⟩ := entry
    simp only [mapValues, List.map_cons, insert] at ih ⊢
    split_ifs
    · rfl
    · rfl
    · rw [ih]
      rfl

theorem insertAll_mapValues (f : α → β) (fields : Fields α) (entries : List (String × α)) :
    insertAll (mapValues f fields) (mapValues f entries) =
      mapValues f (insertAll fields entries) := by
  induction entries generalizing fields with
  | nil => rfl
  | cons entry rest ih =>
    obtain ⟨name, value⟩ := entry
    have hstep : insertAll (mapValues f fields) (mapValues f ((name, value) :: rest)) =
        insertAll (insert (mapValues f fields) name (f value)) (mapValues f rest) := rfl
    rw [hstep, insert_mapValues, ih]
    rfl

theorem ofList_mapValues (f : α → β) (entries : List (String × α)) :
    ofList (mapValues f entries) = mapValues f (ofList entries) :=
  insertAll_mapValues f [] entries

end SurfaceDrift.Fields
