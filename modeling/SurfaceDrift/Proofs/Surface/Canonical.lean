import SurfaceDrift.Proofs.Canonical
import SurfaceDrift.Proofs.Surface.Written

/-!
# Canonical surfaces

A surface can be made canonical as it is, without writing it (`Surface.canonical`) : kinds
stay, signatures and docstrings become canonical, and so do the names at every depth. Of
the members whose names fall together the one with the greatest name stays
(`Surface.find?_canonical_iff`).

To make the written surface canonical comes to the same (`Surface.canonical_toDocument`).
The names of the fields of a written member and the spellings of the kinds are canonical
already, and the values under the names in an object do not matter to how the names fall
together.
-/

namespace SurfaceDrift

mutual

/-- The member with canonical texts, and with the members inside under canonical names. -/
def Member.canonical : Member → Member
  | ⟨kind, signature, docstring, none⟩ =>
    ⟨kind, signature.map canonicalName, docstring.map canonicalName, none⟩
  | ⟨kind, signature, docstring, some members⟩ =>
    ⟨kind, signature.map canonicalName, docstring.map canonicalName,
      some (Fields.ofList (canonicalMembers members))⟩

/-- The canonical members under canonical names, all of them. -/
def canonicalMembers : List (String × Member) → List (String × Member)
  | [] => []
  | (name, m) :: rest => (canonicalName name, m.canonical) :: canonicalMembers rest

end

/-- The surface with canonical members under canonical names. -/
def Surface.canonical (s : Surface) : Surface := Fields.ofList (canonicalMembers s)

theorem Member.canonical_eq (m : Member) :
    m.canonical = ⟨m.kind, m.signature.map canonicalName, m.docstring.map canonicalName,
      m.members.map Surface.canonical⟩ := by
  obtain ⟨kind, signature, docstring, _ | members⟩ := m <;> rfl

theorem canonicalMembers_eq_map (members : List (String × Member)) :
    canonicalMembers members =
      members.map fun entry => (canonicalName entry.1, entry.2.canonical) := by
  induction members with
  | nil => rfl
  | cons entry rest ih =>
    obtain ⟨name, m⟩ := entry
    rw [canonicalMembers, ih, List.map_cons]

theorem Surface.ascending_canonical (s : Surface) : Fields.Ascending s.canonical :=
  Fields.ascending_ofList _

theorem Surface.canonical_ne_nil {s : Surface} (h : s ≠ []) : s.canonical ≠ [] := by
  obtain ⟨⟨name, m⟩, rest, rfl⟩ := List.exists_cons_of_ne_nil h
  have hmem : canonicalName name ∈ Fields.names (Surface.canonical ((name, m) :: rest)) :=
    Fields.mem_names_ofList.mpr ⟨m.canonical, List.mem_cons_self⟩
  exact fun hnil => by simp [hnil, Fields.names] at hmem

/-- Under a canonical name stands the member with the greatest of the names that fall
together in it. -/
theorem Surface.find?_canonical_iff {s : Surface} (h : Fields.Ascending s) {name : String}
    {inner : Member} :
    Fields.find? s.canonical name = some inner ↔
      ∃ original m, Fields.find? s original = some m ∧ canonicalName original = name ∧
        (∀ other ∈ Fields.names s, canonicalName other = name → other ≤ original) ∧
        m.canonical = inner := by
  rw [Surface.canonical, canonicalMembers_eq_map]
  exact Fields.find?_ofList_map_iff h canonicalName Member.canonical

/-! ## The written form -/

/-- The names of the fields of a member are canonical. -/
theorem canonicalName_fieldNames :
    canonicalName "docstring" = "docstring" ∧ canonicalName "members" = "members" ∧
      canonicalName "signature" = "signature" ∧ canonicalName "type" = "type" := by
  decide +kernel

@[simp] theorem canonicalName_label (kind : MemberKind) :
    canonicalName kind.label = kind.label := by
  cases kind <;> decide +kernel

theorem canonicalFields_textField (name : String) (text : Option String) :
    canonicalFields (textField name text) =
      textField (canonicalName name) (text.map canonicalName) := by
  cases text <;> rfl

theorem canonicalFields_innerField (inner : Option Document) :
    canonicalFields (innerField inner) = innerField (inner.map canonical) := by
  cases inner with
  | none => rfl
  | some d =>
    show [(canonicalName "members", canonical d)] = _
    rw [canonicalName_fieldNames.2.1]
    rfl

/-- A written member keeps its fields, and its kind. -/
theorem canonicalFields_recordFields (kind : MemberKind) (signature docstring : Option String)
    (inner : Option Document) :
    canonicalFields (recordFields kind signature docstring inner) =
      recordFields kind (signature.map canonicalName) (docstring.map canonicalName)
        (inner.map canonical) := by
  obtain ⟨hdocstring, -, hsignature, htype⟩ := canonicalName_fieldNames
  have hkind : canonicalFields [("type", .text kind.label)] = [("type", .text kind.label)] := by
    show [(canonicalName "type", Document.text (canonicalName kind.label))] = _
    rw [htype, canonicalName_label]
  rw [recordFields, canonicalFields_append, canonicalFields_append, canonicalFields_append,
    canonicalFields_textField, canonicalFields_innerField, canonicalFields_textField, hkind,
    hdocstring, hsignature]
  rfl

/-- The fields of a written member do not fall together. -/
theorem canonical_recordFields (kind : MemberKind) (signature docstring : Option String)
    (inner : Option Document) :
    canonical (.object (recordFields kind signature docstring inner)) =
      .object (recordFields kind (signature.map canonicalName) (docstring.map canonicalName)
        (inner.map canonical)) := by
  rw [canonical, canonicalFields_recordFields, (ascending_recordFields _ _ _ _).ofList_eq]

mutual

/-- A written member becomes the written canonical member. -/
theorem Member.canonical_toDocument :
    ∀ m : Member, SurfaceDrift.canonical m.toDocument = m.canonical.toDocument
  | ⟨kind, signature, docstring, none⟩ => by
    rw [Member.toDocument_eq, canonical_recordFields, Member.canonical_eq, Member.toDocument_eq]
    rfl
  | ⟨kind, signature, docstring, some members⟩ => by
    rw [Member.toDocument_eq, canonical_recordFields, Member.canonical_eq, Member.toDocument_eq,
      Option.map_some, Option.map_some, Option.map_some, Option.map_some,
      canonical_memberFields members]

/-- Written members become the written canonical members, all of them. -/
theorem canonicalFields_memberFields :
    ∀ members : List (String × Member),
      canonicalFields (memberFields members) = memberFields (canonicalMembers members)
  | [] => rfl
  | (name, m) :: rest => by
    rw [memberFields, canonicalFields, Member.canonical_toDocument m,
      canonicalFields_memberFields rest, canonicalMembers, memberFields]

/-- Those whose names fall together are the same, written or not. -/
theorem canonical_memberFields (members : List (String × Member)) :
    SurfaceDrift.canonical (.object (memberFields members)) =
      .object (memberFields (Surface.canonical members)) := by
  rw [canonical, canonicalFields_memberFields members, memberFields_eq_mapValues,
    memberFields_eq_mapValues, Fields.ofList_mapValues]
  rfl

end

/-- A written surface becomes the written canonical surface. -/
theorem Surface.canonical_toDocument (s : Surface) :
    SurfaceDrift.canonical s.toDocument = s.canonical.toDocument :=
  canonical_memberFields s

theorem Surface.map_canonical_toDocument (surfaces : List Surface) :
    (surfaces.map Surface.toDocument).map SurfaceDrift.canonical =
      (surfaces.map Surface.canonical).map Surface.toDocument := by
  rw [List.map_map, List.map_map]
  exact List.map_congr_left fun s _ => s.canonical_toDocument

/-- The typed view of a surface that became canonical as a document is the canonical surface. -/
theorem Surface.read?_canonical {s : Surface} (h : s ≠ []) :
    Surface.read? (SurfaceDrift.canonical s.toDocument) = some s.canonical := by
  rw [Surface.canonical_toDocument, Surface.read?_toDocument (Surface.canonical_ne_nil h)]

end SurfaceDrift
