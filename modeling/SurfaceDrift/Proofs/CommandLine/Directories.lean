import Mathlib.Data.List.Infix
import SurfaceDrift.CommandLine.Session
import SurfaceDrift.Proofs.Text.Pieces

/-!
# Directories and their paths

The path of a directory is its names in their order, and a name holds no slash and means
nothing else (`IsName`). So the path tells the directory : what holds it as far as the path
tells is what holds it, the nearest one first (`ancestors_pathOf`), and a name is joined to the
path where it is put behind the names (`join_pathOf`). In a tree where a program can run
(`IsWorkingDirectory`) these paths lead where they say, whatever directory they are read from
(`locate_pathOf`).
-/

namespace SurfaceDrift.CommandLine

open Storage (FileTree Location)

/-- A name that something in a directory can have. -/
structure IsName (name : String) : Prop where
  ne_empty : name ≠ ""
  ne_dot : name ≠ "."
  ne_dots : name ≠ ".."
  no_slash : '/' ∉ name.toList

theorem isName_configurationName : IsName configurationName := by
  constructor <;> decide

/-- A directory and those that hold it, the nearest one first, at most `depth` of them. -/
def directoriesFrom (here : Location) (depth : Nat) : List Location :=
  here.inits.reverse.take depth

/-- A program can run in a directory that is reached through directories, all of them with
names. -/
structure IsWorkingDirectory (t : FileTree) (here : Location) : Prop where
  names : ∀ name ∈ here, IsName name
  directories : ∀ l, l <+: here → t.entry l = .directory

variable {t : FileTree} {here l : Location} {name : String}

/-! ## Directories above a directory -/

theorem directoriesFrom_nil_succ (depth : Nat) : directoriesFrom [] (depth + 1) = [[]] := by
  simp [directoriesFrom]

theorem directoriesFrom_succ (base : Location) (name : String) (depth : Nat) :
    directoriesFrom (base ++ [name]) (depth + 1) =
      (base ++ [name]) :: directoriesFrom base depth := by
  have hinits : (base ++ [name]).inits = base.inits ++ [base ++ [name]] := by
    simp [List.inits_append]
  rw [directoriesFrom, hinits, List.reverse_append, List.reverse_singleton,
    List.singleton_append, List.take_succ_cons, directoriesFrom]

theorem prefix_of_mem_directoriesFrom {depth : Nat} (h : l ∈ directoriesFrom here depth) :
    l <+: here :=
  (List.mem_inits _ _).mp (List.mem_reverse.mp (List.mem_of_mem_take h))

/-! ## Paths of directories -/

theorem toList_pathOf (l : Location) :
    (pathOf l).toList = '/' :: List.intercalate ['/'] (l.map String.toList) := by
  rw [pathOf, String.toList_append, String.toList_intercalate]
  rfl

theorem isEmpty_pathOf (l : Location) : (pathOf l).isEmpty = false := by
  rw [← Bool.not_eq_true, String.isEmpty_iff, ← String.toList_inj, toList_pathOf]
  simp

/-- The pieces of a path past its slash are the names. -/
theorem pieces_names (hl : ∀ name ∈ l, IsName name) (hne : l ≠ []) :
    Text.pieces '/' (List.intercalate ['/'] (l.map String.toList)) = l.map String.toList := by
  rw [Text.pieces_eq_splitOn]
  refine List.splitOn_intercalate '/' (fun piece hpiece => ?_) (mt List.map_eq_nil_iff.mp hne)
  obtain ⟨name, hname, rfl⟩ := List.mem_map.mp hpiece
  exact (hl name hname).no_slash

theorem split_pathOf (hl : ∀ name ∈ l, IsName name) (hne : l ≠ []) :
    Text.split '/' (pathOf l) = "" :: l := by
  rw [Text.split, toList_pathOf, Text.pieces, if_pos rfl, pieces_names hl hne]
  simp [Function.comp_def]

theorem isIdle_eq_false (h : IsName name) : Storage.Path.isIdle name.toList = false := by
  have hempty : name.toList ≠ [] := mt String.toList_eq_nil_iff.mp h.ne_empty
  have hdot : name.toList ≠ ['.'] := fun hdot => h.ne_dot (String.toList_inj.mp hdot)
  simp [Storage.Path.isIdle, hempty, hdot]

/-- No name of a path is skipped. -/
theorem dropWhile_isIdle (hl : ∀ name ∈ l, IsName name) :
    (l.map String.toList).reverse.dropWhile Storage.Path.isIdle = (l.map String.toList).reverse := by
  rcases List.eq_nil_or_concat l with rfl | ⟨base, name, rfl⟩
  · rfl
  · have hname := isIdle_eq_false (hl name (by simp))
    simp [hname]

theorem parent?_pathOf_nil : Storage.Path.parent? (pathOf []).toList = none := rfl

theorem parent?_pathOf {base : Location} (hl : ∀ other ∈ base ++ [name], IsName other) :
    Storage.Path.parent? (pathOf (base ++ [name])).toList = some (pathOf base).toList := by
  have hbase : ∀ other ∈ base, IsName other := fun other h => hl other (List.mem_append_left _ h)
  have hnames : Storage.Path.namesBackward
      (List.intercalate ['/'] ((base ++ [name]).map String.toList)) =
      name.toList :: (base.map String.toList).reverse := by
    rw [Storage.Path.namesBackward, pieces_names hl (by simp), dropWhile_isIdle hl]
    simp
  rw [toList_pathOf, Storage.Path.parent?, Storage.Path.splitBase]
  dsimp only
  rw [hnames]
  dsimp only
  rw [dropWhile_isIdle hbase, List.reverse_reverse, toList_pathOf, List.singleton_append]

theorem ancestorsFrom_pathOf (depth : Nat) : ∀ {here : Location},
    (∀ name ∈ here, IsName name) → Storage.Path.ancestorsFrom depth (pathOf here).toList =
      (directoriesFrom here depth).map fun l => (pathOf l).toList := by
  induction depth with
  | zero => intro here _; rfl
  | succ depth ih =>
    intro here hnames
    rcases List.eq_nil_or_concat here with rfl | ⟨base, name, rfl⟩
    · rw [Storage.Path.ancestorsFrom, parent?_pathOf_nil, directoriesFrom_nil_succ]
      rfl
    · rw [List.concat_eq_append] at hnames ⊢
      rw [Storage.Path.ancestorsFrom, parent?_pathOf hnames, directoriesFrom_succ]
      dsimp only
      rw [ih fun other h => hnames other (List.mem_append_left _ h)]
      rfl

/-- The paths that hold the path of a directory are those of the directories that hold it. -/
theorem ancestors_pathOf (hnames : ∀ name ∈ here, IsName name) (depth : Nat) :
    Storage.Path.ancestors (pathOf here) depth = (directoriesFrom here depth).map pathOf := by
  rw [Storage.Path.ancestors, ancestorsFrom_pathOf depth hnames, List.map_map]
  exact List.map_congr_left fun l _ => String.ofList_toList

theorem pathOf_singleton (name : String) : pathOf [name] = "/" ++ name := by
  rw [pathOf, String.intercalate_singleton]

theorem pathOf_concat (hne : l ≠ []) (name : String) :
    pathOf (l ++ [name]) = pathOf l ++ "/" ++ name := by
  rw [pathOf, pathOf, String.intercalate_append_of_ne_nil hne (List.cons_ne_nil name []),
    String.intercalate_singleton]
  simp only [String.append_assoc]

theorem endsWith_iff (s ending : String) :
    s.endsWith ending = true ↔ ending.toList <:+ s.toList := by
  rw [← String.endsWith_toSlice, String.Slice.endsWith_string_iff, String.copy_toSlice]

/-- A path that ends in a name does not end in a slash. -/
theorem endsWith_append_name (s : String) (hname : IsName name) :
    (s ++ name).endsWith "/" = false := by
  rw [← Bool.not_eq_true, endsWith_iff]
  rintro ⟨before, hends⟩
  have hlast := congrArg List.getLast? hends
  rw [String.toList_append, List.getLast?_append_of_ne_nil _
    (mt String.toList_eq_nil_iff.mp hname.ne_empty)] at hlast
  have hslash : name.toList.getLast? = some '/' := by rw [← hlast]; simp
  exact hname.no_slash (List.mem_of_getLast? hslash)

theorem join_pathOf (hl : ∀ other ∈ l, IsName other) (name : String) :
    Storage.Path.join (pathOf l) name = pathOf (l ++ [name]) := by
  rw [Storage.Path.join]
  rcases List.eq_nil_or_concat l with rfl | ⟨base, last, rfl⟩
  · have hroot : (pathOf []).endsWith "/" = true := by
      rw [endsWith_iff]
      exact List.suffix_refl _
    rw [hroot, Bool.or_true, if_pos rfl, List.nil_append, pathOf_singleton]
    rfl
  · rw [List.concat_eq_append] at hl ⊢
    have hlast : IsName last := hl last (by simp)
    have hslash : (pathOf (base ++ [last])).endsWith "/" = false := by
      by_cases hbase : base = []
      · rw [hbase, List.nil_append, pathOf_singleton]
        exact endsWith_append_name _ hlast
      · rw [pathOf_concat hbase]
        exact endsWith_append_name _ hlast
    have hempty : (pathOf (base ++ [last])).isEmpty = false := isEmpty_pathOf _
    rw [hslash, hempty, Bool.or_false, if_neg Bool.false_ne_true,
      pathOf_concat (List.append_ne_nil_of_right_ne_nil base (List.cons_ne_nil last []))]

/-! ## Where a path leads -/

theorem advance_name (hentry : t.entry l = .directory) (hname : IsName name) :
    t.advance l name = .ok (l ++ [name]) := by
  rw [FileTree.advance, hentry]
  simp [hname.ne_empty, hname.ne_dot, hname.ne_dots]

theorem foldlM_advance {names : List String} (hnames : ∀ name ∈ names, IsName name) :
    ∀ {base : Location}, (∀ above, above <+: base ++ names → above ≠ base ++ names →
      t.entry above = .directory) → names.foldlM t.advance base = .ok (base ++ names) := by
  induction names with
  | nil =>
    intro base _
    rw [List.foldlM_nil, List.append_nil]
    rfl
  | cons name rest ih =>
    intro base habove
    have hbase : t.entry base = .directory := habove base (List.prefix_append base _) (by simp)
    have hsame : base ++ name :: rest = (base ++ [name]) ++ rest := by simp
    rw [hsame] at habove ⊢
    rw [List.foldlM_cons, advance_name hbase (hnames name List.mem_cons_self)]
    exact ih (fun other h => hnames other (List.mem_cons_of_mem _ h)) habove

theorem locate_pathOf (hl : ∀ name ∈ l, IsName name) (hne : l ≠ [])
    (habove : ∀ above, above <+: l → above ≠ l → t.entry above = .directory) :
    t.locate here (pathOf l) = .ok l := by
  have hroot : t.advance [] "" = .ok [] := by
    rw [FileTree.advance, habove [] (List.nil_prefix) hne.symm]
    rfl
  have hstart : (pathOf l).startsWith "/" = true := by
    rw [String.startsWith_string_iff, toList_pathOf]
    exact ⟨_, rfl⟩
  rw [FileTree.locate, isEmpty_pathOf, if_neg Bool.false_ne_true, if_pos hstart,
    split_pathOf hl hne, List.foldlM_cons, hroot]
  exact foldlM_advance hl habove

/-- From a directory that a program runs in, the path of what is in it or in one that holds it
leads there. -/
theorem IsWorkingDirectory.locate_inside (h : IsWorkingDirectory t here) (hl : l <+: here)
    (hname : IsName name) : t.locate here (pathOf (l ++ [name])) = .ok (l ++ [name]) := by
  refine locate_pathOf (fun other hother => ?_) (by simp) fun above hunder hne => ?_
  · rcases List.mem_append.mp hother with hother | hother
    · exact h.names other (hl.subset hother)
    · rwa [List.mem_singleton.mp hother]
  · have habove : above <+: l := (List.prefix_concat_iff.mp hunder).resolve_left hne
    exact h.directories above (habove.trans hl)

end SurfaceDrift.CommandLine
