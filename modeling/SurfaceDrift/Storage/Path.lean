import SurfaceDrift.Text.Blank

/-!
# Paths of files

A path is names between slashes. A slash in front or a lone dot in front is the path's
base; past it, empty names and lone dots mean nothing. `Path.ancestors` lists a
directory and those that hold it as far as the path tells, and `Path.extension?` is the
end of the last name past its last dot.
-/

namespace SurfaceDrift.Storage.Path

/-- A path's base, and the rest. -/
def splitBase : List Char → List Char × List Char
  | '/' :: cs => (['/'], cs)
  | ['.'] => (['.'], [])
  | '.' :: '/' :: cs => (['.'], '/' :: cs)
  | cs => ([], cs)

/-- Whether a piece between slashes names nothing. -/
def isIdle (piece : List Char) : Bool := piece = [] || piece = ['.']

/-- The pieces past the base up to the last name, the last one first. -/
def namesBackward (body : List Char) : List (List Char) :=
  (Text.pieces '/' body).reverse.dropWhile isIdle

/-- The path of the directory that holds a path, as far as the path tells. -/
def parent? (path : List Char) : Option (List Char) :=
  let (base, body) := splitBase path
  match namesBackward body with
  | _ :: before =>
    some (base ++ List.intercalate ['/'] (before.dropWhile isIdle).reverse)
  | [] => if base = ['.'] then some [] else none

/-- At most `depth` paths, a path and the directories that hold it. -/
def ancestorsFrom : Nat → List Char → List (List Char)
  | 0, _ => []
  | depth + 1, path =>
    path ::
      match parent? path with
      | some parent => ancestorsFrom depth parent
      | none => []

/-- A directory and those that hold it, at most `depth` of them. -/
def ancestors (path : String) (depth : Nat) : List String :=
  (ancestorsFrom depth path.toList).map String.ofList

/-- The last name of a path, unless it goes up. -/
def fileName? (path : String) : Option (List Char) :=
  match namesBackward (splitBase path.toList).2 with
  | name :: _ => if name = ['.', '.'] then none else some name
  | [] => none

/-- What follows the last dot of the last name, unless nothing stands before that dot. -/
def extension? (path : String) : Option String := do
  match Text.cut '.' (← fileName? path).reverse with
  | some (_, []) => none
  | some (ending, _) => some (String.ofList ending.reverse)
  | none => none

/-- A name inside a directory. -/
def join (directory name : String) : String :=
  if directory.isEmpty || directory.endsWith "/" then directory ++ name
  else directory ++ "/" ++ name

end SurfaceDrift.Storage.Path
