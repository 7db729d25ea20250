import Mathlib.Data.List.Basic
import Mathlib.Data.String.Basic
import SurfaceDrift.Proofs.Fields
import SurfaceDrift.Surface.Element

/-!
# Members by their places

The place of a member is the list of the names on the way to it (`Surface.at?`). In the
lexicographic order of places a member comes before those it holds, and siblings come in the
order of their names. `Surface.walk` lists the members at every depth with their places : these
ascend (`Surface.ascending_walk`), so that none comes twice, and there is no other member
(`Surface.mem_walk_iff`).

`visit` lists the same members, whatever is still to visit (`visit_eq_flatMap`). Hence
`elements_by_place` : the elements of a surface are its comparable members in the order of their
places, each under the name that its place spells.
-/

namespace SurfaceDrift

/-! ## The two walks -/

theorem Member.preorder_eq (m : Member) (qualifiedName leafName : String) :
    m.preorder qualifiedName leafName =
      Visit.element ⟨qualifiedName, leafName, m⟩ ++
        preorderInside qualifiedName (m.members.getD []) := by
  obtain ⟨kind, signature, docstring, _ | members⟩ := m
  · rw [Member.preorder, Option.getD_none, preorderInside, List.append_nil]
  · rw [Member.preorder, Option.getD_some]

theorem preorderInside_eq_flatMap (qualifiedName : String) (members : List (String × Member)) :
    preorderInside qualifiedName members =
      (visitsInside qualifiedName members).flatMap fun v =>
        v.member.preorder v.qualifiedName v.leafName := by
  induction members with
  | nil => rfl
  | cons entry rest ih =>
    obtain ⟨name, m⟩ := entry
    rw [preorderInside, ih]
    rfl

/-- What is visited are the members that wait and those they hold, in the order in which they
wait. -/
theorem visit_eq_flatMap (pending : List Visit) :
    visit pending = pending.flatMap fun v => v.member.preorder v.qualifiedName v.leafName := by
  induction pending using visit.induct with
  | case1 => rw [visit, List.flatMap_nil]
  | case2 v pending ih =>
    rw [visit, ih, List.flatMap_append, Visit.inside, ← preorderInside_eq_flatMap,
      List.flatMap_cons, Member.preorder_eq, List.append_assoc]

theorem Surface.elements_eq_preorder (s : Surface) : s.elements = s.preorder := by
  rw [Surface.elements, visit_eq_flatMap, Surface.visits, List.flatMap_map]
  rfl

/-! ## Places -/

/-- The member that the names lead to from a member. -/
def Member.at? (m : Member) : List String → Option Member
  | [] => some m
  | name :: rest => (Fields.find? (m.members.getD []) name).bind fun inner => inner.at? rest

/-- The member that the names lead to. -/
def Surface.at? (s : Surface) : List String → Option Member
  | [] => none
  | name :: rest => (Fields.find? s name).bind fun m => m.at? rest

mutual

/-- The names inside ascend, at every depth. -/
def Member.Ordered : Member → Prop
  | ⟨_, _, _, none⟩ => True
  | ⟨_, _, _, some members⟩ => Surface.Ordered members

/-- The names ascend, at every depth. -/
def Surface.Ordered : Surface → Prop
  | [] => True
  | (name, m) :: rest =>
    (∀ other ∈ Fields.names rest, name < other) ∧ m.Ordered ∧ Surface.Ordered rest

end

/-- A member inside the one with this name. -/
def under (name : String) (found : List String × Member) : List String × Member :=
  (name :: found.1, found.2)

mutual

/-- A member before those it holds, each with its place from there. -/
def Member.walk : Member → List (List String × Member)
  | ⟨kind, signature, docstring, none⟩ => [([], ⟨kind, signature, docstring, none⟩)]
  | ⟨kind, signature, docstring, some members⟩ =>
    ([], ⟨kind, signature, docstring, some members⟩) :: Surface.walk members

/-- The members at every depth, each with its place. -/
def Surface.walk : Surface → List (List String × Member)
  | [] => []
  | (name, m) :: rest => m.walk.map (under name) ++ Surface.walk rest

end

theorem mem_map_under {name : String} {walk : List (List String × Member)}
    {place : List String} {inner : Member} :
    (place, inner) ∈ walk.map (under name) ↔
      ∃ rest, place = name :: rest ∧ (rest, inner) ∈ walk := by
  rw [List.mem_map]
  constructor
  · rintro ⟨⟨rest, found⟩, hmem, heq⟩
    obtain ⟨rfl, rfl⟩ := Prod.mk.inj heq
    exact ⟨rest, rfl, hmem⟩
  · rintro ⟨rest, rfl, hmem⟩
    exact ⟨(rest, inner), hmem, rfl⟩

/-- A place begins with a name of the surface. -/
theorem Surface.exists_cons_of_mem_walk {s : Surface} {place : List String} {inner : Member}
    (h : (place, inner) ∈ s.walk) : ∃ name rest, place = name :: rest ∧ name ∈ Fields.names s := by
  induction s with
  | nil =>
    rw [Surface.walk] at h
    cases h
  | cons entry others ih =>
    obtain ⟨name, m⟩ := entry
    rw [Surface.walk] at h
    rcases List.mem_append.mp h with h | h
    · obtain ⟨rest, rfl, -⟩ := mem_map_under.mp h
      exact ⟨name, rest, rfl, List.mem_cons_self⟩
    · obtain ⟨other, rest, rfl, hmem⟩ := ih h
      exact ⟨other, rest, rfl, List.mem_cons_of_mem name hmem⟩

mutual

/-- The walk from a member finds what the names lead to. -/
theorem Member.mem_walk_iff : ∀ {m : Member}, m.Ordered → ∀ {place : List String} {inner : Member},
    (place, inner) ∈ m.walk ↔ m.at? place = some inner
  | ⟨kind, signature, docstring, none⟩, _, place, inner => by
    cases place <;> simp [Member.walk, Member.at?, eq_comm]
  | ⟨kind, signature, docstring, some members⟩, h, place, inner => by
    rw [Member.walk, List.mem_cons, Surface.mem_walk_iff (s := members) h]
    cases place <;> simp [Surface.at?, Member.at?, eq_comm]

/-- The walk finds what the names lead to. -/
theorem Surface.mem_walk_iff : ∀ {s : Surface}, s.Ordered →
    ∀ {place : List String} {inner : Member},
      (place, inner) ∈ s.walk ↔ s.at? place = some inner
  | [], _, place, inner => by
    cases place <;> simp [Surface.walk, Surface.at?]
  | (name, m) :: others, ⟨hfirst, hm, hothers⟩, place, inner => by
    have hrest : (place, inner) ∈ Surface.walk others ↔ Surface.at? others place = some inner :=
      Surface.mem_walk_iff hothers
    rw [Surface.walk, List.mem_append, mem_map_under, hrest]
    cases place with
    | nil => simp [Surface.at?]
    | cons key rest =>
      rw [Surface.at?, Surface.at?, Fields.find?_cons]
      split_ifs with hkey
      · subst hkey
        have hnone : Fields.find? others name = none :=
          Fields.find?_eq_none_iff.mpr fun hmem => lt_irrefl name (hfirst name hmem)
        simp [hnone, Member.mem_walk_iff hm]
      · simp [Ne.symm hkey]

end

mutual

theorem Member.ascending_walk : ∀ {m : Member}, m.Ordered →
    (m.walk.map Prod.fst).Pairwise (· < ·)
  | ⟨kind, signature, docstring, none⟩, _ => List.pairwise_singleton _ _
  | ⟨kind, signature, docstring, some members⟩, h => by
    rw [Member.walk, List.map_cons]
    refine List.pairwise_cons.mpr ⟨fun place hplace => ?_, Surface.ascending_walk (s := members) h⟩
    obtain ⟨⟨_, inner⟩, hmem, rfl⟩ := List.mem_map.mp hplace
    obtain ⟨name, rest, rfl, -⟩ := Surface.exists_cons_of_mem_walk hmem
    exact List.nil_lt_cons name rest

/-- A member comes before those it holds, and all of them before the next sibling. -/
theorem Surface.ascending_walk : ∀ {s : Surface}, s.Ordered →
    (s.walk.map Prod.fst).Pairwise (· < ·)
  | [], _ => List.Pairwise.nil
  | (name, m) :: others, ⟨hfirst, hm, hothers⟩ => by
    rw [Surface.walk, List.map_append, List.pairwise_append]
    refine ⟨?_, Surface.ascending_walk hothers, ?_⟩
    · have hinside := Member.ascending_walk hm
      rw [List.map_map, List.pairwise_map] at *
      exact hinside.imp fun hlt => List.cons_lt_cons_iff.mpr (Or.inr ⟨rfl, hlt⟩)
    · intro place hplace later hlater
      obtain ⟨⟨_, inner⟩, hmem, rfl⟩ := List.mem_map.mp hplace
      obtain ⟨rest, rfl, -⟩ := mem_map_under.mp hmem
      obtain ⟨⟨_, sibling⟩, hmem, rfl⟩ := List.mem_map.mp hlater
      obtain ⟨other, behind, rfl, hother⟩ := Surface.exists_cons_of_mem_walk hmem
      exact List.cons_lt_cons_iff.mpr (Or.inl (hfirst other hother))

end

/-! ## Elements by their places -/

/-- A name ends in its last part, which has no dot, and before it stands a dot or nothing. -/
theorem lastPart_spec (name : String) :
    '.' ∉ (lastPart name).toList ∧
      (lastPart name = name ∨ ∃ before, name = before ++ "." ++ lastPart name) := by
  have hnot : ∀ c ∈ name.toList.reverse.takeWhile (· != '.'), c ≠ '.' := fun c hc => by
    simpa using List.all_eq_true.mp List.all_takeWhile c hc
  have hparts := List.takeWhile_append_dropWhile (p := (· != '.')) (l := name.toList.reverse)
  have hhead := List.head?_dropWhile_not (· != '.') name.toList.reverse
  refine ⟨fun hmem => ?_, ?_⟩
  · rw [lastPart, String.toList_ofList, List.mem_reverse] at hmem
    exact hnot '.' hmem rfl
  · rw [← String.toList_inj]
    cases hrest : name.toList.reverse.dropWhile (· != '.') with
    | nil =>
      rw [hrest, List.append_nil] at hparts
      exact Or.inl (by rw [lastPart, String.toList_ofList, hparts, List.reverse_reverse])
    | cons c before =>
      rw [hrest] at hparts hhead
      obtain rfl : c = '.' := by simpa using hhead
      refine Or.inr ⟨String.ofList before.reverse, String.toList_inj.mp ?_⟩
      rw [← List.reverse_inj, ← hparts, lastPart]
      simp

/-- A member of a surface is called by the last part of its name, a member inside another one by
its name. -/
def calledAt : List String → String
  | [name] => lastPart name
  | place => place.getLastD ""

/-- A member at a place as an element. -/
def Element.ofPlace (place : List String) (m : Member) : Element :=
  ⟨".".intercalate place, calledAt place, m.kind, m.signature, m.docstring⟩

/-- The comparable members among those found from a place on. -/
def elementsFrom (start : List String) (found : List (List String × Member)) : List Element :=
  (found.filter fun e => e.2.kind ≠ .moduleScope).map fun e => .ofPlace (start ++ e.1) e.2

theorem elementsFrom_append (start : List String) (found others : List (List String × Member)) :
    elementsFrom start (found ++ others) =
      elementsFrom start found ++ elementsFrom start others := by
  rw [elementsFrom, List.filter_append, List.map_append]
  rfl

theorem elementsFrom_map_under (start : List String) (name : String)
    (found : List (List String × Member)) :
    elementsFrom start (found.map (under name)) = elementsFrom (start ++ [name]) found := by
  rw [elementsFrom, elementsFrom, List.filter_map, List.map_map]
  refine List.map_congr_left fun e _ => ?_
  simp [under]

theorem elementsFrom_singleton (start : List String) (m : Member) :
    elementsFrom start [([], m)] =
      Visit.element ⟨".".intercalate start, calledAt start, m⟩ := by
  by_cases hkind : m.kind = .moduleScope <;>
    simp [elementsFrom, Visit.element, MemberKind.isComparable, Element.ofPlace, hkind]

/-- One level further in, the name is behind a dot and is what the member is called. -/
theorem place_append_singleton {start : List String} (h : start ≠ []) (name : String) :
    ".".intercalate (start ++ [name]) = ".".intercalate start ++ "." ++ name ∧
      calledAt (start ++ [name]) = name := by
  constructor
  · rw [String.intercalate_append_of_ne_nil h (List.cons_ne_nil name []),
      String.intercalate_singleton]
  · obtain ⟨first, rest, rfl⟩ := List.exists_cons_of_ne_nil h
    cases rest with
    | nil => rfl
    | cons second rest =>
      show ((first :: second :: rest) ++ [name]).getLastD "" = name
      rw [List.getLastD_concat]

mutual

theorem Member.preorder_eq_elementsFrom : ∀ (m : Member) {start : List String}, start ≠ [] →
    m.preorder (".".intercalate start) (calledAt start) = elementsFrom start m.walk
  | ⟨kind, signature, docstring, none⟩, start, _ => by
    rw [Member.preorder, Member.walk, elementsFrom_singleton]
  | ⟨kind, signature, docstring, some members⟩, start, h => by
    rw [Member.preorder, Member.walk, preorderInside_eq_elementsFrom members h,
      ← elementsFrom_singleton, ← elementsFrom_append]
    rfl

theorem preorderInside_eq_elementsFrom : ∀ (members : Surface) {start : List String}, start ≠ [] →
    preorderInside (".".intercalate start) members = elementsFrom start members.walk
  | [], _, _ => rfl
  | (name, m) :: rest, start, h => by
    obtain ⟨hname, hcalled⟩ := place_append_singleton h name
    have hlonger : start ++ [name] ≠ [] := by simp
    have hm := Member.preorder_eq_elementsFrom m hlonger
    rw [hname, hcalled] at hm
    rw [preorderInside, Surface.walk, elementsFrom_append, elementsFrom_map_under, hm,
      preorderInside_eq_elementsFrom rest h]

end

theorem Surface.preorder_eq_elementsFrom (s : Surface) :
    s.preorder = elementsFrom [] s.walk := by
  induction s with
  | nil => rfl
  | cons entry rest ih =>
    obtain ⟨name, m⟩ := entry
    have hm := Member.preorder_eq_elementsFrom m (List.cons_ne_nil name [])
    rw [String.intercalate_singleton] at hm
    rw [Surface.preorder] at ih ⊢
    rw [List.flatMap_cons, ih, Surface.walk, elementsFrom_append, elementsFrom_map_under]
    exact congrArg (· ++ elementsFrom [] (Surface.walk rest)) hm

/-- The walk with a list of members to visit gives what the recursion gives. In a surface with
ascending names these are the members that are no modules, every one of them once : in the order
of their places, under the names on the way joined by dots, and called by the last of these
names, at the top by its last part. -/
theorem elements_by_place :
    (∀ s : Surface, s.elements = s.preorder) ∧
    (∀ name, '.' ∉ (lastPart name).toList ∧
      (lastPart name = name ∨ ∃ before, name = before ++ "." ++ lastPart name)) ∧
    ∀ s : Surface, s.Ordered →
      (s.walk.map Prod.fst).Pairwise (· < ·) ∧
      (∀ place m, (place, m) ∈ s.walk ↔ s.at? place = some m) ∧
      s.elements = (s.walk.filter fun e => e.2.kind ≠ .moduleScope).map fun e =>
        .ofPlace e.1 e.2 := by
  refine ⟨Surface.elements_eq_preorder, lastPart_spec, fun s hs => ?_⟩
  refine ⟨Surface.ascending_walk hs, fun _ _ => Surface.mem_walk_iff hs, ?_⟩
  rw [Surface.elements_eq_preorder, Surface.preorder_eq_elementsFrom]
  rfl

/-- A class in a class, and a module in a module, under names with dots. -/
def nestedSurface : Surface := [
  ("pkg.Pool", ⟨.classType, none, some "A pool.", some [
    ("Lease", ⟨.classType, none, none, some [("end", ⟨.method, some "(self)", none, none⟩)]⟩),
    ("get", ⟨.asyncMethod, none, none, none⟩)]⟩),
  ("pkg.text", ⟨.moduleScope, none, none, some [
    ("case", ⟨.moduleScope, none, none, some [("fold", ⟨.function, none, none, none⟩)]⟩)]⟩)]

theorem elements_by_place_nestedSurface :
    nestedSurface.Ordered ∧
    nestedSurface.walk.map Prod.fst = [["pkg.Pool"], ["pkg.Pool", "Lease"],
      ["pkg.Pool", "Lease", "end"], ["pkg.Pool", "get"], ["pkg.text"], ["pkg.text", "case"],
      ["pkg.text", "case", "fold"]] ∧
    nestedSurface.elements = [
      ⟨"pkg.Pool", "Pool", .classType, none, some "A pool."⟩,
      ⟨"pkg.Pool.Lease", "Lease", .classType, none, none⟩,
      ⟨"pkg.Pool.Lease.end", "end", .method, some "(self)", none⟩,
      ⟨"pkg.Pool.get", "get", .asyncMethod, none, none⟩,
      ⟨"pkg.text.case.fold", "fold", .function, none, none⟩] := by
  have hnames : "pkg.Pool" < "pkg.text" ∧ "Lease" < "get" := by decide +kernel
  have hordered : nestedSurface.Ordered := by
    simp only [nestedSurface, Surface.Ordered, Member.Ordered, Fields.names, List.map_cons,
      List.map_nil, List.forall_mem_cons, List.not_mem_nil, false_imp_iff, implies_true, hnames,
      and_self]
  obtain ⟨-, -, hplaces⟩ := elements_by_place
  obtain ⟨-, -, helements⟩ := hplaces nestedSurface hordered
  exact ⟨hordered, rfl, helements.trans (by decide +kernel)⟩

end SurfaceDrift
