import SurfaceDrift.Document

/-!
# The members of an API

A surface is what a module offers : members under their names. A member has a kind, may
have a signature and a docstring, and a class or a module may hold members of its own.

`Surface.read?` is the typed view of a document and `Surface.toDocument` writes a surface
as one. What is absent is left out when written. When read, null stands for absent as well,
other fields are passed over, a member may be the list of its parts instead of an object,
and a kind may be the only name of an object that holds null.
-/

namespace SurfaceDrift

/-- What a member is. -/
inductive MemberKind where
  | function
  | asyncFunction
  | method
  | asyncMethod
  | classType
  | moduleScope
deriving DecidableEq, Repr

/-- How a kind is spelled. -/
def MemberKind.label : MemberKind → String
  | function => "function"
  | asyncFunction => "async function"
  | method => "method"
  | asyncMethod => "async method"
  | classType => "class"
  | moduleScope => "module"

/-- The kind of a spelling. -/
def MemberKind.ofLabel? : String → Option MemberKind
  | "function" => some function
  | "async function" => some asyncFunction
  | "method" => some method
  | "async method" => some asyncMethod
  | "class" => some classType
  | "module" => some moduleScope
  | _ => none

/-- Callables and classes are compared; a module only holds members. -/
def MemberKind.isComparable (kind : MemberKind) : Bool :=
  kind != moduleScope

/-- A member with the members it holds. No members and an empty set of them differ. -/
structure Member where
  kind : MemberKind
  signature : Option String
  docstring : Option String
  members : Option (List (String × Member))

namespace Member

/-- A member of which only the kind is known. -/
def ofKind (kind : MemberKind) : Member := ⟨kind, none, none, none⟩

/-- Puts a member under a name among those it holds. -/
def insert (m : Member) (name : String) (inner : Member) : Member :=
  { m with members := some (Fields.insert (m.members.getD []) name inner) }

end Member

/-- The members that a module offers, in the order of their names. -/
abbrev Surface := Fields Member

/-! ## The written form -/

/-- A field for a text that may be absent. -/
def textField (name : String) : Option String → List (String × Document)
  | none => []
  | some s => [(name, .text s)]

mutual

/-- A member as an object of what is present. -/
def Member.toDocument : Member → Document
  | ⟨kind, signature, docstring, none⟩ =>
    .object (textField "docstring" docstring ++ textField "signature" signature ++
      [("type", .text kind.label)])
  | ⟨kind, signature, docstring, some members⟩ =>
    .object (textField "docstring" docstring ++ [("members", .object (memberFields members))] ++
      textField "signature" signature ++ [("type", .text kind.label)])

/-- Members as fields. -/
def memberFields : List (String × Member) → List (String × Document)
  | [] => []
  | (name, m) :: rest => (name, m.toDocument) :: memberFields rest

end

/-- A surface as a document. -/
def Surface.toDocument (s : Surface) : Document := .object (memberFields s)

/-! ## The typed view -/

/-- The kind that a document spells. -/
def MemberKind.read? : Document → Option MemberKind
  | .text s => ofLabel? s
  | .object [(s, .null)] => ofLabel? s
  | _ => none

/-- The text that a document is, or its absence. -/
def readText? : Document → Option (Option String)
  | .null => some none
  | .text s => some (some s)
  | _ => none

/-- The text under a name, or its absence. -/
def readTextField? (fields : List (String × Document)) (name : String) :
    Option (Option String) :=
  match Fields.find? fields name with
  | none => some none
  | some d => readText? d

mutual

/-- The member that a document describes. -/
def Member.read? : Document → Option Member
  | .object fields => do
    let kind ← (Fields.find? fields "type").bind MemberKind.read?
    let signature ← readTextField? fields "signature"
    let docstring ← readTextField? fields "docstring"
    let members ← readMembersField? fields
    return ⟨kind, signature, docstring, members⟩
  | .list [kind] => do
    return ⟨← MemberKind.read? kind, none, none, none⟩
  | .list [kind, signature] => do
    return ⟨← MemberKind.read? kind, ← readText? signature, none, none⟩
  | .list [kind, signature, docstring] => do
    return ⟨← MemberKind.read? kind, ← readText? signature, ← readText? docstring, none⟩
  | .list [kind, signature, docstring, members] => do
    return ⟨← MemberKind.read? kind, ← readText? signature, ← readText? docstring,
      ← readMembers? members⟩
  | _ => none

/-- The members that a document describes, or their absence. -/
def readMembers? : Document → Option (Option (List (String × Member)))
  | .null => some none
  | .object fields => (readAllMembers? fields).map some
  | _ => none

/-- The members under the name `members`, or their absence. -/
def readMembersField? : List (String × Document) → Option (Option (List (String × Member)))
  | [] => some none
  | (name, d) :: rest => if name = "members" then readMembers? d else readMembersField? rest

/-- The members that named documents describe, if each of them describes one. -/
def readAllMembers? : List (String × Document) → Option (List (String × Member))
  | [] => some []
  | (name, d) :: rest => do
    let m ← Member.read? d
    let others ← readAllMembers? rest
    return (name, m) :: others

end

/-- The surface that a document describes : an object of one or more members. -/
def Surface.read? : Document → Option Surface
  | .object [] => none
  | .object fields => readAllMembers? fields
  | _ => none

end SurfaceDrift
