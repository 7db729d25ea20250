import Mathlib.Data.List.Perm.Basic
import Mathlib.Order.Bounds.Basic
import SurfaceDrift.Proofs.Canonical.Collisions
import SurfaceDrift.Proofs.Document

/-!
# Canonical documents, level by level

`Document.Becomes` says what a document becomes without saying how : a list keeps its places, a
text becomes canonical, and an object gets the canonical forms of its names, in order, where a form
that several names have stands for the greatest of them. The canonical document is the one document
that this is true of (`canonical_by_level`).

The order of an object may change, since `"B"` comes before `"a"` and `"b"` does not. If the names
are apart, then nothing else changes in the containers : sizes and nesting stay, up to the order of
the fields (`Document.SameShape`).
-/

namespace SurfaceDrift

/-! ## Names for a canonical name -/

/-- The names of these fields that have this canonical form. -/
def namesFor (fields : List (String × Document)) (name : String) : Set String :=
  {original | original ∈ Fields.names fields ∧ canonicalName original = name}

theorem mem_names_canonicalFields {fields : List (String × Document)} {name : String} :
    name ∈ Fields.names (Fields.ofList (canonicalFields fields)) ↔
      (namesFor fields name).Nonempty := by
  rw [Fields.mem_names_ofList, canonicalFields_eq_map]
  constructor
  · rintro ⟨value, hmem⟩
    obtain ⟨entry, hentry, heq⟩ := List.mem_map.mp hmem
    exact ⟨entry.1, List.mem_map_of_mem hentry, (Prod.mk.inj heq).1⟩
  · rintro ⟨original, hmem, rfl⟩
    obtain ⟨entry, hentry, rfl⟩ := List.mem_map.mp hmem
    exact ⟨canonical entry.2, List.mem_map_of_mem hentry⟩

/-- Under a canonical name stands the value of the greatest of the names that have this form. -/
theorem find?_canonicalFields_iff {fields : List (String × Document)} (h : Fields.Ascending fields)
    {name : String} {d' : Document} :
    Fields.find? (Fields.ofList (canonicalFields fields)) name = some d' ↔
      ∃ original d, IsGreatest (namesFor fields name) original ∧
        Fields.find? fields original = some d ∧ canonical d = d' := by
  rw [canonicalFields_eq_map, Fields.find?_ofList_map_iff h canonicalName canonical]
  constructor
  · rintro ⟨original, d, hd, hform, hgreatest, hd'⟩
    have hmem : original ∈ Fields.names fields := Fields.exists_find?_iff.mp ⟨d, hd⟩
    exact ⟨original, d, ⟨⟨hmem, hform⟩, fun other hother => hgreatest other hother.1 hother.2⟩,
      hd, hd'⟩
  · rintro ⟨original, d, ⟨⟨-, hform⟩, hgreatest⟩, hd, hd'⟩
    exact ⟨original, d, hd, hform, fun other hother hsame => hgreatest ⟨hother, hsame⟩, hd'⟩

/-! ## What a document becomes -/

/-- The second document has the canonical names and texts of the first one, at every level. -/
inductive Document.Becomes : Document → Document → Prop
  | null : Becomes .null .null
  | bool (b : Bool) : Becomes (.bool b) (.bool b)
  | number (n : Number) : Becomes (.number n) (.number n)
  | text (s : String) : Becomes (.text s) (.text (canonicalName s))
  | list {items items' : List Document} (hlength : items'.length = items.length)
    (hitems : ∀ (i : Nat) (d d' : Document), items[i]? = some d → items'[i]? = some d' →
      Becomes d d') :
    Becomes (.list items) (.list items')
  | object {fields fields' : List (String × Document)} (hascending : Fields.Ascending fields')
    (hnames : ∀ name, name ∈ Fields.names fields' ↔ (namesFor fields name).Nonempty)
    (hvalues : ∀ (name original : String) (d d' : Document),
      IsGreatest (namesFor fields name) original → Fields.find? fields original = some d →
        Fields.find? fields' name = some d' → Becomes d d') :
    Becomes (.object fields) (.object fields')

/-- A document becomes the canonical document. -/
theorem becomes_canonical {d : Document} (h : d.Ordered) : d.Becomes (canonical d) := by
  induction d with
  | null => exact .null
  | bool b => exact .bool b
  | number n => exact .number n
  | text s => exact .text s
  | list items ih =>
    have hordered := Document.orderedItems_iff.mp h
    rw [canonical, canonicalItems_eq_map]
    refine .list (List.length_map canonical) fun i d d' hd hd' => ?_
    have hmem : d ∈ items := List.mem_of_getElem? hd
    rw [List.getElem?_map, hd, Option.map_some] at hd'
    obtain rfl := Option.some.inj hd'
    exact ih d hmem (hordered d hmem)
  | object fields ih =>
    obtain ⟨hascending, hfields⟩ := h
    refine .object (Fields.ascending_ofList _) (fun name => mem_names_canonicalFields)
      fun name original d d' hgreatest hd hd' => ?_
    obtain ⟨other, old, hother, hold, rfl⟩ := (find?_canonicalFields_iff hascending).mp hd'
    obtain rfl : other = original := hother.unique hgreatest
    obtain rfl : old = d := Option.some.inj (hold.symm.trans hd)
    have hmem : (other, old) ∈ fields := Fields.mem_of_find? hold
    exact ih (other, old) hmem (Document.orderedFields_iff.mp hfields (other, old) hmem)

/-- It becomes nothing else. -/
theorem Document.Becomes.eq_canonical {d d' : Document} (h : d.Becomes d') (hd : d.Ordered) :
    d' = canonical d := by
  induction h with
  | null | bool | number | text => rfl
  | @list items items' hlength hitems ih =>
    have hordered := Document.orderedItems_iff.mp hd
    rw [canonical, canonicalItems_eq_map]
    refine congrArg Document.list (List.ext_getElem (by rw [List.length_map, hlength])
      fun i hi hi' => ?_)
    rw [List.length_map] at hi'
    rw [List.getElem_map]
    exact ih i items[i] items'[i] (List.getElem?_eq_getElem hi') (List.getElem?_eq_getElem hi)
      (hordered _ (List.getElem_mem hi'))
  | @object fields fields' hascending' hnames hvalues ih =>
    obtain ⟨hascending, hfields⟩ := hd
    refine congrArg Document.object (hascending'.ext (Fields.ascending_ofList _) fun name => ?_)
    -- The canonical object decides which names there are, and gives the greatest one for each.
    cases hfind : Fields.find? (Fields.ofList (canonicalFields fields)) name with
    | none =>
      rw [Fields.find?_eq_none_iff, mem_names_canonicalFields, ← hnames] at hfind
      exact Fields.find?_eq_none_iff.mpr hfind
    | some d' =>
      obtain ⟨original, d, hgreatest, hd, rfl⟩ := (find?_canonicalFields_iff hascending).mp hfind
      obtain ⟨found, hfound⟩ := Fields.exists_find?_iff.mpr ((hnames name).mpr hgreatest.nonempty)
      have hordered : d.Ordered :=
        Document.orderedFields_iff.mp hfields (original, d) (Fields.mem_of_find? hd)
      rw [hfound, ih name original d found hgreatest hd hfound hordered]

/-! ## Shapes -/

/-- The documents have leaves of one kind, lists of one length and objects of one size in the
same places, where a canonical name is in the place of the name. -/
inductive Document.SameShape : Document → Document → Prop
  | null : SameShape .null .null
  | bool (b b' : Bool) : SameShape (.bool b) (.bool b')
  | number (n n' : Number) : SameShape (.number n) (.number n')
  | text (s s' : String) : SameShape (.text s) (.text s')
  | list {items items' : List Document} (hlength : items'.length = items.length)
    (hitems : ∀ (i : Nat) (d d' : Document), items[i]? = some d → items'[i]? = some d' →
      SameShape d d') :
    SameShape (.list items) (.list items')
  | object {fields fields' : List (String × Document)}
    (hnames : (Fields.names fields').Perm ((Fields.names fields).map canonicalName))
    (hvalues : ∀ (name : String) (d d' : Document), Fields.find? fields name = some d →
      Fields.find? fields' (canonicalName name) = some d' → SameShape d d') :
    SameShape (.object fields) (.object fields')

/-- Where names do not collide, each one is the greatest of its form. -/
theorem isGreatest_namesFor {fields : List (String × Document)} {name : String}
    (hapart : ∀ first second common, ¬Collide fields first second common)
    (h : name ∈ Fields.names fields) : IsGreatest (namesFor fields (canonicalName name)) name := by
  refine ⟨⟨h, rfl⟩, fun other hother => le_of_eq ?_⟩
  by_contra hne
  exact hapart other name _ ⟨hother.1, h, hne, hother.2, rfl⟩

/-- If no names fall together then the shape stays. -/
theorem Document.Becomes.sameShape {d d' : Document} (h : d.Becomes d') (hd : d.Ordered)
    (hapart : d.NamesApart) : d.SameShape d' := by
  induction h with
  | null => exact .null
  | bool b => exact .bool b b
  | number n => exact .number n n
  | text s => exact .text s _
  | @list items items' hlength hitems ih =>
    have hordered := Document.orderedItems_iff.mp hd
    have hinside := Document.namesApart_list_iff.mp hapart
    refine .list hlength fun i d d' hget hget' => ?_
    have hmem : d ∈ items := List.mem_of_getElem? hget
    exact ih i d d' hget hget' (hordered d hmem) (hinside d hmem)
  | @object fields fields' hascending' hnames hvalues ih =>
    obtain ⟨hascending, hfields⟩ := hd
    obtain ⟨hhere, hinside⟩ := Document.namesApart_object_iff.mp hapart
    refine .object ?_ fun name d d' hfind hfind' => ?_
    · refine (List.perm_ext_iff_of_nodup hascending'.nodup_names
        (nodup_of_not_collide hascending.nodup_names hhere)).mpr fun name => ?_
      rw [hnames, List.mem_map]
      rfl
    · have hmem : (name, d) ∈ fields := Fields.mem_of_find? hfind
      exact ih (canonicalName name) name d d'
        (isGreatest_namesFor hhere (List.mem_map_of_mem hmem)) hfind hfind'
        (Document.orderedFields_iff.mp hfields (name, d) hmem) (hinside (name, d) hmem)

/-- The canonical document is the one with the canonical names and texts at every level, and if no
names fall together in a document then the containers keep their sizes and their places. -/
theorem canonical_by_level {d : Document} (h : d.Ordered) :
    (∀ d', d.Becomes d' ↔ d' = canonical d) ∧ (d.NamesApart → d.SameShape (canonical d)) := by
  refine ⟨fun d' => ⟨fun hbecomes => hbecomes.eq_canonical h, ?_⟩, (becomes_canonical h).sameShape h⟩
  rintro rfl
  exact becomes_canonical h

/-- Names fall together inside a list, and the outer ones change their order. -/
def ledger : Document :=
  .object [("Rows", .list [.text "A_B", .object [("User_Name", .bool true), ("username", .null)]]),
    ("_flag", .bool true)]

/-- Names change their order, at two levels, and none fall together. -/
def roster : Document :=
  .object [("B", .object [("X", .null), ("_A", .text "Y")]), ("a", .list [])]

theorem canonical_by_level_ledger :
    (ledger.Ordered ∧ ∀ d', ledger.Becomes d' ↔ d' = .object [("flag", .bool true),
      ("rows", .list [.text "ab", .object [("username", .null)]])]) ∧
    roster.Ordered ∧ roster.NamesApart ∧ roster.SameShape (.object [("a", .list []),
      ("b", .object [("a", .text "y"), ("x", .null)])]) := by
  have hnames : canonicalName "Rows" = "rows" ∧ canonicalName "_flag" = "flag" ∧
      canonicalName "User_Name" = "username" ∧ canonicalName "username" = "username" ∧
      canonicalName "A_B" = "ab" := by
    decide +kernel
  have hletters : canonicalName "B" = "b" ∧ canonicalName "a" = "a" ∧ canonicalName "X" = "x" ∧
      canonicalName "_A" = "a" ∧ canonicalName "Y" = "y" := by
    decide +kernel
  have hascending : ["Rows", "_flag"].Pairwise (· < ·) ∧
      ["User_Name", "username"].Pairwise (· < ·) ∧ ["B", "a"].Pairwise (· < ·) ∧
      ["X", "_A"].Pairwise (· < ·) := by
    decide +kernel
  obtain ⟨hrows, huser, hb, hx⟩ := hascending
  have hledger : ledger.Ordered :=
    ⟨hrows, ⟨trivial, ⟨huser, trivial, trivial, trivial⟩, trivial⟩, trivial, trivial⟩
  have hroster : roster.Ordered := ⟨hb, ⟨hx, trivial, trivial, trivial⟩, trivial, trivial⟩
  have hledgerCanonical : canonical ledger = .object [("flag", .bool true),
      ("rows", .list [.text "ab", .object [("username", .null)]])] := by
    simp only [ledger, canonical, canonicalItems, canonicalFields, canonicalScalar, hnames]
    rfl
  have hrosterAccepted : canonicalDistinct roster = .ok (.object [("a", .list []),
      ("b", .object [("a", .text "y"), ("x", .null)])]) := by
    simp only [roster, canonicalDistinct, canonicalDistinctFields, canonicalDistinctItems,
      canonicalScalar, collidesWith, hletters]
    rfl
  have hapart : roster.NamesApart := namesApart_of_canonicalDistinct hrosterAccepted
  refine ⟨⟨hledger, ?_⟩, hroster, hapart, ?_⟩
  · rw [← hledgerCanonical]
    exact (canonical_by_level hledger).1
  · rw [eq_canonical_of_canonicalDistinct hrosterAccepted]
    exact (canonical_by_level hroster).2 hapart

end SurfaceDrift
