import Mathlib.Data.List.Nodup
import SurfaceDrift.Proofs.Canonical
import SurfaceDrift.Proofs.Fields

/-!
# Names that fall together

Two names of an object collide if they have the same canonical form (`Collide`), and the names
in a document are apart (`Document.NamesApart`) if no object inside it, at any depth, has two
that collide. The stricter policy keeps the names that it has seen in an object and stops at the
first one that collides with one of them. So it accepts a document whose names are apart, and
otherwise it names a collision (`namesCollision_of_canonicalDistinct`). What it accepts becomes
what the other policy makes of it, so that the two policies agree (`policies_agree`).
-/

namespace SurfaceDrift

/-! ## Collisions -/

/-- Two names of these fields have the same canonical form. -/
structure Collide (fields : List (String × Document)) (first second common : String) : Prop where
  first_mem : first ∈ Fields.names fields
  second_mem : second ∈ Fields.names fields
  distinct : first ≠ second
  first_form : canonicalName first = common
  second_form : canonicalName second = common

namespace Document

/-- A document holds itself, and what its items or fields hold. -/
inductive Holds : Document → Document → Prop
  | self (d : Document) : Holds d d
  | item {items : List Document} {d inner : Document} (hmem : d ∈ items) (h : Holds d inner) :
    Holds (.list items) inner
  | field {fields : List (String × Document)} {entry : String × Document} {inner : Document}
    (hmem : entry ∈ fields) (h : Holds entry.2 inner) : Holds (.object fields) inner

/-- No two names of an object inside have the same canonical form. -/
def NamesApart (d : Document) : Prop :=
  ∀ fields, d.Holds (.object fields) → ∀ first second common, ¬Collide fields first second common

theorem namesApart_list_iff {items : List Document} :
    NamesApart (.list items) ↔ ∀ d ∈ items, d.NamesApart := by
  constructor
  · exact fun h d hd fields hfields => h fields (.item hd hfields)
  · intro h fields hfields
    cases hfields with
    | item hmem hinner => exact h _ hmem fields hinner

theorem namesApart_object_iff {fields : List (String × Document)} :
    NamesApart (.object fields) ↔
      (∀ first second common, ¬Collide fields first second common) ∧
        ∀ entry ∈ fields, entry.2.NamesApart := by
  constructor
  · exact fun h => ⟨h fields (.self _), fun entry hentry inner hinner =>
      h inner (.field hentry hinner)⟩
  · rintro ⟨hhere, hinside⟩ inner hinner
    cases hinner with
    | self => exact hhere
    | field hmem hinner => exact hinside _ hmem inner hinner

end Document

theorem not_collide_of_nodup {fields : List (String × Document)}
    (h : ((Fields.names fields).map canonicalName).Nodup) (first second common : String) :
    ¬Collide fields first second common := fun hcollide =>
  hcollide.distinct (List.inj_on_of_nodup_map h hcollide.first_mem hcollide.second_mem
    (hcollide.first_form.trans hcollide.second_form.symm))

theorem nodup_of_not_collide {fields : List (String × Document)} (h : (Fields.names fields).Nodup)
    (hapart : ∀ first second common, ¬Collide fields first second common) :
    ((Fields.names fields).map canonicalName).Nodup := by
  refine h.map_on fun first hfirst second hsecond hform => ?_
  by_contra hne
  exact hapart first second _ ⟨hfirst, hsecond, hne, hform, rfl⟩

/-! ## The names seen -/

theorem mem_of_collidesWith {common name : String} {seen : List (String × String)}
    (h : collidesWith common seen = some name) : (common, name) ∈ seen := by
  induction seen with
  | nil => cases h
  | cons entry rest ih =>
    obtain ⟨form, seenName⟩ := entry
    rw [collidesWith] at h
    split_ifs at h with hform
    · obtain rfl := Option.some.inj h
      rw [hform]
      exact List.mem_cons_self
    · exact List.mem_cons_of_mem _ (ih h)

theorem not_mem_of_collidesWith_eq_none {common : String} {seen : List (String × String)}
    (h : collidesWith common seen = none) : common ∉ seen.map Prod.fst := by
  induction seen with
  | nil => exact List.not_mem_nil
  | cons entry rest ih =>
    obtain ⟨form, seenName⟩ := entry
    rw [collidesWith] at h
    split_ifs at h with hform
    rw [List.map_cons, List.mem_cons, not_or]
    exact ⟨Ne.symm hform, ih h⟩

/-! ## What is accepted -/

mutual

/-- In a document that is not refused the names are apart. -/
theorem namesApart_of_canonicalDistinct :
    ∀ {d d' : Document}, canonicalDistinct d = .ok d' → d.NamesApart
  | .list items, d', h => by
    obtain ⟨others, hothers, -⟩ := bind_eq_ok_iff.mp h
    exact Document.namesApart_list_iff.mpr (namesApart_of_canonicalDistinctItems hothers)
  | .object fields, d', h => by
    obtain ⟨others, hothers, -⟩ := bind_eq_ok_iff.mp h
    obtain ⟨hnodup, -, hinside⟩ := namesApart_of_canonicalDistinctFields hothers
    exact Document.namesApart_object_iff.mpr ⟨not_collide_of_nodup hnodup, hinside⟩
  | .null, _, _ | .bool _, _, _ | .number _, _, _ | .text _, _, _ => fun _ h => by cases h

theorem namesApart_of_canonicalDistinctItems :
    ∀ {items items' : List Document}, canonicalDistinctItems items = .ok items' →
      ∀ d ∈ items, d.NamesApart
  | [], _, _ => fun _ hd => by cases hd
  | d :: rest, _, h => by
    obtain ⟨first, hfirst, h⟩ := bind_eq_ok_iff.mp h
    obtain ⟨others, hothers, -⟩ := bind_eq_ok_iff.mp h
    exact List.forall_mem_cons.mpr ⟨namesApart_of_canonicalDistinct hfirst,
      namesApart_of_canonicalDistinctItems hothers⟩

/-- The names in fields that are not refused collide neither with each other nor with those
seen, nor do the names inside. -/
theorem namesApart_of_canonicalDistinctFields :
    ∀ {seen : List (String × String)} {fields fields' : List (String × Document)},
      canonicalDistinctFields seen fields = .ok fields' →
      ((Fields.names fields).map canonicalName).Nodup ∧
        (∀ name ∈ Fields.names fields, canonicalName name ∉ seen.map Prod.fst) ∧
        ∀ entry ∈ fields, entry.2.NamesApart
  | _, [], _, _ => by simp [Fields.names]
  | seen, (name, d) :: rest, _, h => by
    rw [canonicalDistinctFields] at h
    split at h
    · cases h
    · rename_i hfresh
      obtain ⟨value, hvalue, h⟩ := bind_eq_ok_iff.mp h
      obtain ⟨others, hothers, -⟩ := bind_eq_ok_iff.mp h
      obtain ⟨hnodup, hapart, hinside⟩ := namesApart_of_canonicalDistinctFields hothers
      have hlater : ∀ other ∈ Fields.names rest, canonicalName other ≠ canonicalName name ∧
          canonicalName other ∉ seen.map Prod.fst := fun other hother =>
        not_or.mp (mt List.mem_cons.mpr (hapart other hother))
      refine ⟨List.nodup_cons.mpr ⟨fun hmem => ?_, hnodup⟩, ?_, ?_⟩
      · obtain ⟨other, hother, hform⟩ := List.mem_map.mp hmem
        exact (hlater other hother).1 hform
      · exact List.forall_mem_cons.mpr ⟨not_mem_of_collidesWith_eq_none hfresh,
          fun other hother => (hlater other hother).2⟩
      · exact List.forall_mem_cons.mpr ⟨namesApart_of_canonicalDistinct hvalue, hinside⟩

end

/-! ## What is refused -/

/-- The error names two names of an object inside that collide, and their form. -/
def NamesCollision (e : Error) (d : Document) : Prop :=
  ∃ fields first second common, d.Holds (.object fields) ∧
    Collide fields first second common ∧ e = .data (.keyCollision first second common)

/-- The names that were seen, each behind its canonical form. -/
def seenAs (names : List String) : List (String × String) :=
  names.map fun name => (canonicalName name, name)

mutual

/-- A document is refused for a collision in it. -/
theorem namesCollision_of_canonicalDistinct : ∀ {d : Document} {e : Error}, d.Ordered →
    canonicalDistinct d = .error e → NamesCollision e d
  | .list items, e, hordered, h => by
    have hall : Document.OrderedItems items := hordered
    have hitems := (bind_eq_error_iff.mp h).resolve_right fun ⟨_, _, h⟩ => by cases h
    obtain ⟨d, hd, fields, first, second, common, hheld, hcollide, he⟩ :=
      namesCollision_of_canonicalDistinctItems hall hitems
    exact ⟨fields, first, second, common, .item hd hheld, hcollide, he⟩
  | .object fields, e, ⟨hascending, hordered⟩, h => by
    have hnodup : ([] ++ Fields.names fields).Nodup := hascending.nodup_names
    have hfields := (bind_eq_error_iff.mp h).resolve_right fun ⟨_, _, h⟩ => by cases h
    rcases namesCollision_of_canonicalDistinctFields hnodup hordered hfields with
      ⟨entry, hentry, inner, first, second, common, hheld, hcollide, he⟩ |
        ⟨first, second, common, hfirst, hsecond, hne, hform, hform', he⟩
    · exact ⟨inner, first, second, common, .field hentry hheld, hcollide, he⟩
    · exact ⟨fields, first, second, common, .self _, ⟨hfirst, hsecond, hne, hform, hform'⟩, he⟩
  | .null, _, _, h => by cases h
  | .bool _, _, _, h => by cases h
  | .number _, _, _, h => by cases h
  | .text _, _, _, h => by cases h

theorem namesCollision_of_canonicalDistinctItems :
    ∀ {items : List Document} {e : Error}, Document.OrderedItems items →
      canonicalDistinctItems items = .error e → ∃ d ∈ items, NamesCollision e d
  | [], _, _, h => by cases h
  | d :: rest, e, ⟨hd, hrest⟩, h => by
    rcases bind_eq_error_iff.mp h with h | ⟨_, -, h⟩
    · exact ⟨d, List.mem_cons_self, namesCollision_of_canonicalDistinct hd h⟩
    · have hothers := (bind_eq_error_iff.mp h).resolve_right fun ⟨_, _, h⟩ => by cases h
      obtain ⟨inner, hinner, hcollision⟩ := namesCollision_of_canonicalDistinctItems hrest hothers
      exact ⟨inner, List.mem_cons_of_mem d hinner, hcollision⟩

/-- Fields are refused for a collision inside one of them, or for a name of theirs that collides
with another one or with one that was seen. -/
theorem namesCollision_of_canonicalDistinctFields :
    ∀ {before : List String} {fields : List (String × Document)} {e : Error},
      (before ++ Fields.names fields).Nodup → Document.OrderedFields fields →
      canonicalDistinctFields (seenAs before) fields = .error e →
      (∃ entry ∈ fields, NamesCollision e entry.2) ∨
        ∃ first second common, first ∈ before ++ Fields.names fields ∧
          second ∈ Fields.names fields ∧ first ≠ second ∧ canonicalName first = common ∧
          canonicalName second = common ∧ e = .data (.keyCollision first second common)
  | _, [], _, _, _, h => by cases h
  | before, (name, d) :: rest, e, hnodup, ⟨hd, hrest⟩, h => by
    have hmoved : (name :: before ++ Fields.names rest).Nodup := List.nodup_middle.mp hnodup
    rw [canonicalDistinctFields] at h
    split at h
    · rename_i first hfirst
      obtain ⟨seenName, hseen, heq⟩ := List.mem_map.mp (mem_of_collidesWith hfirst)
      obtain ⟨hform, rfl⟩ := Prod.mk.inj heq
      have hne : seenName ≠ name := by
        rintro rfl
        exact (List.nodup_cons.mp hmoved).1 (List.mem_append_left _ hseen)
      exact Or.inr ⟨seenName, name, canonicalName name, List.mem_append_left _ hseen,
        List.mem_cons_self, hne, hform, rfl, (Except.error.inj h).symm⟩
    · rcases bind_eq_error_iff.mp h with h | ⟨_, -, h⟩
      · exact Or.inl ⟨(name, d), List.mem_cons_self, namesCollision_of_canonicalDistinct hd h⟩
      · have hothers := (bind_eq_error_iff.mp h).resolve_right fun ⟨_, _, h⟩ => by cases h
        rcases namesCollision_of_canonicalDistinctFields hmoved hrest hothers with
          ⟨entry, hentry, hcollision⟩ |
            ⟨first, second, common, hfirst, hsecond, hcollide⟩
        · exact Or.inl ⟨entry, List.mem_cons_of_mem _ hentry, hcollision⟩
        · refine Or.inr ⟨first, second, common, ?_, List.mem_cons_of_mem name hsecond, hcollide⟩
          exact List.perm_middle.mem_iff.mpr hfirst

end

/-- The stricter policy accepts a document exactly if no object inside has two names that collide,
and it makes of it what the other policy makes of it. Otherwise its error names two names of one
object inside and the form that both have. -/
theorem policies_agree {d : Document} (h : d.Ordered) :
    (∀ d', canonicalWith .reject d = .ok d' ↔ d.NamesApart ∧ d' = canonical d) ∧
    ∀ e, canonicalWith .reject d = .error e →
      ∃ fields first second common, d.Holds (.object fields) ∧
        Collide fields first second common ∧ e = .data (.keyCollision first second common) ∧
        e.message = "Data integrity error: " ++ ("keys '" ++ first ++ "' and '" ++ second ++
          "' both normalize to '" ++ common ++ "'") := by
  refine ⟨fun d' => ⟨fun hok => ?_, ?_⟩, fun e he => ?_⟩
  · exact ⟨namesApart_of_canonicalDistinct hok, eq_canonical_of_canonicalDistinct hok⟩
  · rintro ⟨hapart, rfl⟩
    cases hanswer : canonicalDistinct d with
    | ok d' => rw [canonicalWith, hanswer, eq_canonical_of_canonicalDistinct hanswer]
    | error e =>
      obtain ⟨fields, first, second, common, hheld, hcollide, -⟩ :=
        namesCollision_of_canonicalDistinct h hanswer
      exact absurd hcollide (hapart fields hheld first second common)
  · obtain ⟨fields, first, second, common, hheld, hcollide, rfl⟩ :=
      namesCollision_of_canonicalDistinct h he
    exact ⟨fields, first, second, common, hheld, hcollide, rfl, rfl⟩

/-- Two names collide, and so do two others inside the value that does not stay. -/
def clash : Document :=
  .list [.object [("User_Name", .object [("A", .bool true), ("a", .null)]),
    ("username", .text "B")]]

theorem policies_agree_clash :
    clash.Ordered ∧ ¬clash.NamesApart ∧
    canonicalWith .lastWriteWins clash = .ok (.list [.object [("username", .text "b")]]) ∧
    canonicalWith .reject clash = .error (.data (.keyCollision "A" "a" "a")) ∧
    ∃ fields, clash.Holds (.object fields) ∧ Collide fields "A" "a" "a" := by
  have hnames : canonicalName "User_Name" = "username" ∧ canonicalName "username" = "username" ∧
      canonicalName "A" = "a" ∧ canonicalName "a" = "a" ∧ canonicalName "B" = "b" := by
    decide +kernel
  have hascending : ["User_Name", "username"].Pairwise (· < ·) ∧ ["A", "a"].Pairwise (· < ·) := by
    decide +kernel
  have hordered : clash.Ordered :=
    ⟨⟨hascending.1, ⟨hascending.2, trivial, trivial, trivial⟩, trivial, trivial⟩, trivial⟩
  have hreject : canonicalWith .reject clash = .error (.data (.keyCollision "A" "a" "a")) := by
    simp only [canonicalWith, clash, canonicalDistinct, canonicalDistinctFields,
      canonicalDistinctItems, collidesWith, hnames]
    rfl
  obtain ⟨haccepts, hrefuses⟩ := policies_agree hordered
  refine ⟨hordered, fun hapart => ?_, ?_, hreject, ?_⟩
  · have hok := (haccepts (canonical clash)).mpr ⟨hapart, rfl⟩
    rw [hreject] at hok
    cases hok
  · simp only [canonicalWith, clash, canonical, canonicalItems, canonicalFields, canonicalScalar,
      hnames]
    rfl
  · obtain ⟨fields, first, second, common, hheld, hcollide, heq, -⟩ := hrefuses _ hreject
    obtain ⟨rfl, rfl, rfl⟩ := DataFault.keyCollision.inj (Error.data.inj heq)
    exact ⟨fields, hheld, hcollide⟩

end SurfaceDrift
