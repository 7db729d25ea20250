import Mathlib.Data.Option.Basic
import SurfaceDrift.Proofs.Fields
import SurfaceDrift.Surface.Element

/-!
# Written surfaces

A written member is an object of at most four fields, of which the kind is always there
(`recordFields`). Their names ascend, so that the typed view finds each of them, and what is
written is read back : the members of a surface, at every depth
(`Surface.read?_toDocument`).
-/

namespace SurfaceDrift

/-! ## The fields of a member -/

/-- The field of a written member that holds others, if there is one. -/
def innerField : Option Document → List (String × Document)
  | none => []
  | some d => [("members", d)]

/-- The fields of a written member. -/
def recordFields (kind : MemberKind) (signature docstring : Option String)
    (inner : Option Document) : Fields Document :=
  textField "docstring" docstring ++ innerField inner ++ textField "signature" signature ++
    [("type", .text kind.label)]

theorem memberFields_eq_mapValues (members : List (String × Member)) :
    memberFields members = Fields.mapValues Member.toDocument members := by
  induction members with
  | nil => rfl
  | cons entry rest ih =>
    obtain ⟨name, m⟩ := entry
    rw [memberFields, ih]
    rfl

theorem Member.toDocument_eq (m : Member) :
    m.toDocument = .object (recordFields m.kind m.signature m.docstring
      (m.members.map fun members => .object (memberFields members))) := by
  obtain ⟨kind, signature, docstring, _ | members⟩ := m
  · rw [Member.toDocument, recordFields, Option.map_none, innerField, List.append_nil]
  · rw [Member.toDocument]
    rfl

/-- The names of the fields ascend, whichever of them are there. -/
theorem ascending_recordFields (kind : MemberKind) (signature docstring : Option String)
    (inner : Option Document) :
    Fields.Ascending (recordFields kind signature docstring inner) := by
  have hall : ["docstring", "members", "signature", "type"].Pairwise (· < ·) := by
    decide +kernel
  refine List.Pairwise.sublist ?_ hall
  have htext : ∀ name text, (Fields.names (textField name text)).Sublist [name] := by
    rintro name (_ | text)
    · exact List.nil_sublist [name]
    · exact List.Sublist.refl [name]
  have hinner : (Fields.names (innerField inner)).Sublist ["members"] := by
    cases inner with
    | none => exact List.nil_sublist _
    | some d => exact List.Sublist.refl _
  rw [Fields.names, recordFields, List.map_append, List.map_append, List.map_append]
  exact (((htext "docstring" docstring).append hinner).append (htext "signature" signature)).append
    (List.Sublist.refl ["type"])

/-! ## Reading back -/

@[simp] theorem MemberKind.ofLabel?_label (kind : MemberKind) :
    MemberKind.ofLabel? kind.label = some kind := by
  cases kind <;> rfl

theorem readMembersField?_eq (fields : List (String × Document)) :
    readMembersField? fields =
      ((Fields.find? fields "members").map readMembers?).getD (some none) := by
  induction fields with
  | nil => rfl
  | cons entry rest ih =>
    obtain ⟨name, d⟩ := entry
    rw [readMembersField?, Fields.find?_cons]
    split_ifs
    · rfl
    · exact ih

theorem find?_recordFields_type (kind : MemberKind) (signature docstring : Option String)
    (inner : Option Document) :
    Fields.find? (recordFields kind signature docstring inner) "type" =
      some (.text kind.label) := by
  cases signature <;> cases docstring <;> cases inner <;> rfl

theorem find?_recordFields_members (kind : MemberKind) (signature docstring : Option String)
    (inner : Option Document) :
    Fields.find? (recordFields kind signature docstring inner) "members" = inner := by
  cases signature <;> cases docstring <;> cases inner <;> rfl

theorem readTextField?_recordFields_signature (kind : MemberKind)
    (signature docstring : Option String) (inner : Option Document) :
    readTextField? (recordFields kind signature docstring inner) "signature" =
      some signature := by
  cases signature <;> cases docstring <;> cases inner <;> rfl

theorem readTextField?_recordFields_docstring (kind : MemberKind)
    (signature docstring : Option String) (inner : Option Document) :
    readTextField? (recordFields kind signature docstring inner) "docstring" =
      some docstring := by
  cases signature <;> cases docstring <;> cases inner <;> rfl

/-- Of a written member the kind and the texts are read back as they are, and the members
inside are read in turn. -/
theorem Member.read?_recordFields (kind : MemberKind) (signature docstring : Option String)
    (inner : Option Document) :
    Member.read? (.object (recordFields kind signature docstring inner)) =
      ((inner.map readMembers?).getD (some none)).map (Member.mk kind signature docstring) := by
  have hkind : MemberKind.read? (.text kind.label) = some kind := MemberKind.ofLabel?_label kind
  rw [Member.read?, find?_recordFields_type, readTextField?_recordFields_signature,
    readTextField?_recordFields_docstring, readMembersField?_eq, find?_recordFields_members,
    Option.bind_some, hkind]
  exact Option.map_eq_bind.symm

mutual

/-- A written member is read back. -/
theorem Member.read?_toDocument : ∀ m : Member, Member.read? m.toDocument = some m
  | ⟨kind, signature, docstring, none⟩ => by
    rw [Member.toDocument_eq, Member.read?_recordFields]
    rfl
  | ⟨kind, signature, docstring, some members⟩ => by
    rw [Member.toDocument_eq, Member.read?_recordFields, Option.map_some, Option.map_some,
      readMembers?, readAllMembers?_memberFields members]
    rfl

/-- Written members are read back, each under its name. -/
theorem readAllMembers?_memberFields :
    ∀ members : List (String × Member), readAllMembers? (memberFields members) = some members
  | [] => rfl
  | (name, m) :: rest => by
    rw [memberFields, readAllMembers?, Member.read?_toDocument m, readAllMembers?_memberFields rest]
    rfl

end

/-- A written surface is read back, unless it is empty. -/
theorem Surface.read?_toDocument {s : Surface} (h : s ≠ []) :
    Surface.read? s.toDocument = some s := by
  cases s with
  | nil => exact absurd rfl h
  | cons entry rest => exact readAllMembers?_memberFields (entry :: rest)

end SurfaceDrift
