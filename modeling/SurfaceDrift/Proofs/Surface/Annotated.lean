import SurfaceDrift.Proofs.Surface.Written

/-!
# Surfaces with further fields

The typed view of a member looks at four fields (`recordNames`) and at no others
(`Member.read?_congr`). So a written surface may have further fields in the object of any of its
members, at any depth (`Surface.annotated`), and is read back all the same
(`Surface.written_reads_back`).
-/

namespace SurfaceDrift

/-- The names of the fields that a member is read from. -/
def recordNames : List String := ["type", "signature", "docstring", "members"]

/-- What is read of a member hangs on these fields only. -/
theorem Member.read?_congr {fields fields' : Fields Document}
    (h : ∀ name ∈ recordNames, Fields.find? fields' name = Fields.find? fields name) :
    Member.read? (.object fields') = Member.read? (.object fields) := by
  have htype := h "type" (by decide)
  have hsignature := h "signature" (by decide)
  have hdocstring := h "docstring" (by decide)
  have hmembers := h "members" (by decide)
  simp only [Member.read?, readTextField?, readMembersField?_eq, htype, hsignature, hdocstring,
    hmembers]

/-- Entries under other names do not count. -/
theorem Member.read?_insertAll (fields : Fields Document) {entries : List (String × Document)}
    (h : ∀ entry ∈ entries, entry.1 ∉ recordNames) :
    Member.read? (.object (Fields.insertAll fields entries)) = Member.read? (.object fields) := by
  refine Member.read?_congr fun name hname => ?_
  have hnone : entries.filter (fun entry => entry.1 = name) = [] :=
    List.filter_eq_nil_iff.mpr fun entry hentry heq =>
      h entry hentry (of_decide_eq_true heq ▸ hname)
  rw [Fields.find?_insertAll, hnone]
  rfl

/-! ## The written form with further fields -/

mutual

/-- A member as an object of what is present and of further fields, which are told by the names
that lead to the member. -/
def Member.annotated (extra : List String → List (String × Document)) (path : List String) :
    Member → Document
  | ⟨kind, signature, docstring, none⟩ =>
    .object (Fields.insertAll (recordFields kind signature docstring none) (extra path))
  | ⟨kind, signature, docstring, some members⟩ =>
    .object (Fields.insertAll
      (recordFields kind signature docstring (some (.object (annotatedFields extra path members))))
      (extra path))

/-- Members below a path as fields. -/
def annotatedFields (extra : List String → List (String × Document)) (path : List String) :
    List (String × Member) → List (String × Document)
  | [] => []
  | (name, m) :: rest =>
    (name, m.annotated extra (path ++ [name])) :: annotatedFields extra path rest

end

/-- A surface as a document, with further fields in the objects of its members. -/
def Surface.annotated (extra : List String → List (String × Document)) (s : Surface) : Document :=
  .object (annotatedFields extra [] s)

mutual

/-- Without further fields a member is written as it is. -/
theorem Member.annotated_nil : ∀ (path : List String) (m : Member),
    m.annotated (fun _ => []) path = m.toDocument
  | path, ⟨kind, signature, docstring, none⟩ => by
    rw [Member.toDocument_eq]
    rfl
  | path, ⟨kind, signature, docstring, some members⟩ => by
    rw [Member.toDocument_eq, Member.annotated, annotatedFields_nil path members]
    rfl

theorem annotatedFields_nil : ∀ (path : List String) (members : List (String × Member)),
    annotatedFields (fun _ => []) path members = memberFields members
  | _, [] => rfl
  | path, (name, m) :: rest => by
    rw [annotatedFields, memberFields, Member.annotated_nil (path ++ [name]) m,
      annotatedFields_nil path rest]

end

mutual

/-- A member with further fields is read back. -/
theorem Member.read?_annotated {extra : List String → List (String × Document)}
    (h : ∀ path, ∀ entry ∈ extra path, entry.1 ∉ recordNames) :
    ∀ (path : List String) (m : Member), Member.read? (m.annotated extra path) = some m
  | path, ⟨kind, signature, docstring, none⟩ => by
    rw [Member.annotated, Member.read?_insertAll _ (h path), Member.read?_recordFields]
    rfl
  | path, ⟨kind, signature, docstring, some members⟩ => by
    rw [Member.annotated, Member.read?_insertAll _ (h path), Member.read?_recordFields,
      Option.map_some, Option.getD_some, readMembers?,
      readAllMembers?_annotatedFields h path members]
    rfl

/-- Members with further fields are read back, each under its name. -/
theorem readAllMembers?_annotatedFields {extra : List String → List (String × Document)}
    (h : ∀ path, ∀ entry ∈ extra path, entry.1 ∉ recordNames) :
    ∀ (path : List String) (members : List (String × Member)),
      readAllMembers? (annotatedFields extra path members) = some members
  | _, [] => rfl
  | path, (name, m) :: rest => by
    rw [annotatedFields, readAllMembers?, Member.read?_annotated h (path ++ [name]) m,
      readAllMembers?_annotatedFields h path rest]
    rfl

end

/-- The names in a written member are those of what is present. -/
theorem Member.mem_names_toDocument (m : Member) :
    ∃ fields, m.toDocument = .object fields ∧ ∀ name, name ∈ Fields.names fields ↔
      name = "type" ∨ (name = "signature" ∧ m.signature.isSome) ∨
        (name = "docstring" ∧ m.docstring.isSome) ∨ (name = "members" ∧ m.members.isSome) := by
  refine ⟨_, m.toDocument_eq, fun name => ?_⟩
  obtain ⟨kind, signature, docstring, members⟩ := m
  cases signature <;> cases docstring <;> cases members <;>
    simp [recordFields, textField, innerField, Fields.names] <;> tauto

/-- A written surface of one or more members is read back, in which what is absent is left out. It
is also read back with further fields in the objects of its members, whatever they hold. -/
theorem Surface.written_reads_back {s : Surface} (hs : s ≠ []) :
    (∀ m : Member, ∃ fields, m.toDocument = .object fields ∧ ∀ name, name ∈ Fields.names fields ↔
      name = "type" ∨ (name = "signature" ∧ m.signature.isSome) ∨
        (name = "docstring" ∧ m.docstring.isSome) ∨ (name = "members" ∧ m.members.isSome)) ∧
    Surface.read? s.toDocument = some s ∧ s.annotated (fun _ => []) = s.toDocument ∧
    ∀ extra : List String → List (String × Document),
      (∀ path, ∀ entry ∈ extra path, entry.1 ∉ recordNames) →
        Surface.read? (s.annotated extra) = some s := by
  refine ⟨Member.mem_names_toDocument, Surface.read?_toDocument hs,
    congrArg Document.object (annotatedFields_nil [] s), fun extra h => ?_⟩
  cases s with
  | nil => exact absurd rfl hs
  | cons entry rest => exact readAllMembers?_annotatedFields h [] (entry :: rest)

/-- A module without members, and a class with one. -/
def client : Surface :=
  [("pkg", ⟨.moduleScope, none, none, some []⟩),
    ("pkg.Client", ⟨.classType, none, some "A client.",
      some [("fetch", ⟨.asyncMethod, some "(self, url)", none, none⟩)]⟩)]

theorem Surface.written_reads_back_client :
    client ≠ [] ∧ Surface.read? client.toDocument = some client ∧
      (∀ path : List String, ∀ entry ∈ [("line", Document.ofNat path.length), ("Type", .null)],
        entry.1 ∉ recordNames) ∧
      Surface.read? (client.annotated fun path => [("line", .ofNat path.length), ("Type", .null)]) =
        some client := by
  have hne : client ≠ [] := List.cons_ne_nil _ _
  have hforeign : ∀ path : List String,
      ∀ entry ∈ [("line", Document.ofNat path.length), ("Type", .null)],
        entry.1 ∉ recordNames := by
    intro path entry hentry
    rcases List.mem_cons.mp hentry with rfl | hrest
    · show "line" ∉ recordNames
      decide
    · obtain rfl := List.mem_singleton.mp hrest
      show "Type" ∉ recordNames
      decide
  obtain ⟨-, hread, -, hannotated⟩ := Surface.written_reads_back hne
  exact ⟨hne, hread, hforeign, hannotated _ hforeign⟩

end SurfaceDrift
