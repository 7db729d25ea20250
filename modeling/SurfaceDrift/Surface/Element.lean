import SurfaceDrift.Surface.Member

/-!
# The comparable members, one by one

`Surface.elements` lists the members to compare, siblings in the order of their names and a
member before those it holds, under names qualified by the path to them. It keeps the
members still to visit on a list (`visit`). `Surface.preorder` is the same walk by recursion.
-/

namespace SurfaceDrift

/-- A member to compare, with its place in the surface. -/
structure Element where
  qualifiedName : String
  leafName : String
  kind : MemberKind
  signature : Option String
  docstring : Option String
deriving DecidableEq, Repr

/-- Name, signature and docstring in one text; what is absent is empty. -/
def Element.comparisonText (e : Element) : String :=
  e.leafName ++ " " ++ e.signature.getD "" ++ " " ++ e.docstring.getD ""

/-- A member with its qualified name and its own. -/
structure Visit where
  qualifiedName : String
  leafName : String
  member : Member

/-- The element of a member, unless it is a module. -/
def Visit.element (v : Visit) : List Element :=
  if v.member.kind.isComparable then
    [⟨v.qualifiedName, v.leafName, v.member.kind, v.member.signature, v.member.docstring⟩]
  else []

/-- Members inside the one with this qualified name. -/
def visitsInside (qualifiedName : String) (members : List (String × Member)) : List Visit :=
  members.map fun entry => ⟨qualifiedName ++ "." ++ entry.1, entry.1, entry.2⟩

/-- The members that a visited member holds. -/
def Visit.inside (v : Visit) : List Visit :=
  visitsInside v.qualifiedName (v.member.members.getD [])

/-- The part of a name after its last dot. -/
def lastPart (name : String) : String :=
  String.ofList (name.toList.reverse.takeWhile (· != '.')).reverse

/-- The members of a surface itself. -/
def Surface.visits (s : Surface) : List Visit :=
  s.map fun entry => ⟨entry.1, lastPart entry.1, entry.2⟩

/-! ## The walk with a list of members to visit -/

mutual

/-- How many members there are, with the one at the top. -/
def Member.count : Member → Nat
  | ⟨_, _, _, none⟩ => 1
  | ⟨_, _, _, some members⟩ => 1 + countMembers members

/-- How many members there are under the names. -/
def countMembers : List (String × Member) → Nat
  | [] => 0
  | (_, m) :: rest => m.count + countMembers rest

end

/-- How many members there are to visit. -/
def countVisits : List Visit → Nat
  | [] => 0
  | v :: pending => v.member.count + countVisits pending

theorem countVisits_append (first second : List Visit) :
    countVisits (first ++ second) = countVisits first + countVisits second := by
  induction first with
  | nil => exact (Nat.zero_add _).symm
  | cons v first ih => rw [List.cons_append, countVisits, countVisits, ih, Nat.add_assoc]

theorem countVisits_visitsInside (qualifiedName : String) (members : List (String × Member)) :
    countVisits (visitsInside qualifiedName members) = countMembers members := by
  induction members with
  | nil => rfl
  | cons entry rest ih =>
    show entry.2.count + countVisits (visitsInside qualifiedName rest) = _
    rw [ih, countMembers]

theorem countVisits_inside (v : Visit) : countVisits v.inside + 1 = v.member.count := by
  obtain ⟨q, l, ⟨k, s, d, ms⟩⟩ := v
  cases ms with
  | none => rfl
  | some members =>
    show countVisits (visitsInside q members) + 1 = _
    rw [countVisits_visitsInside, Member.count, Nat.add_comm]

/-- The elements of the members to visit, a member before those it holds. -/
def visit : List Visit → List Element
  | [] => []
  | v :: pending => v.element ++ visit (v.inside ++ pending)
termination_by pending => countVisits pending
decreasing_by
  have h := countVisits_inside v
  rw [countVisits_append, countVisits]
  omega

/-- The members of a surface to compare. -/
def Surface.elements (s : Surface) : List Element :=
  visit s.visits

/-! ## The walk by recursion -/

mutual

/-- The elements of a member and of those it holds. -/
def Member.preorder (qualifiedName leafName : String) : Member → List Element
  | ⟨kind, signature, docstring, none⟩ =>
    Visit.element ⟨qualifiedName, leafName, ⟨kind, signature, docstring, none⟩⟩
  | ⟨kind, signature, docstring, some members⟩ =>
    Visit.element ⟨qualifiedName, leafName, ⟨kind, signature, docstring, some members⟩⟩ ++
      preorderInside qualifiedName members

/-- The elements of the members under a qualified name. -/
def preorderInside (qualifiedName : String) : List (String × Member) → List Element
  | [] => []
  | (name, m) :: rest =>
    m.preorder (qualifiedName ++ "." ++ name) name ++ preorderInside qualifiedName rest

end

/-- The elements of a surface, by recursion. -/
def Surface.preorder (s : Surface) : List Element :=
  s.flatMap fun entry => entry.2.preorder entry.1 (lastPart entry.1)

end SurfaceDrift
