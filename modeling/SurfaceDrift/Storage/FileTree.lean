import SurfaceDrift.Text.Blank

/-!
# Files in directories

A `FileTree` is the files that programs read and write. A file holds a text or cannot be
read, and a directory is there because it was made or because something is in it.

A path is followed name by name, from the root or from the directory of its reader
(`FileTree.locate`) : a name past a file or past nothing leads nowhere. Writing a file puts
it at one location and changes no other, unless the storage refuses it (`FileTree.write`).
-/

namespace SurfaceDrift.Storage

/-- Why a file cannot be read or written. -/
inductive Fault where
  | missing
  | notDirectory
  | isDirectory
  | notText
  | other (reason : String)
deriving DecidableEq, Repr

/-- A fault in words. -/
def Fault.message : Fault → String
  | missing => "No such file or directory (os error 2)"
  | notDirectory => "Not a directory (os error 20)"
  | isDirectory => "Is a directory (os error 21)"
  | notText => "stream did not contain valid UTF-8"
  | other reason => reason

/-- Whether a fault says that there is nothing at a path. -/
def Fault.isAbsence : Fault → Bool
  | missing | notDirectory => true
  | _ => false

/-- The names on the way from the root. -/
abbrev Location := List String

/-- What a file holds. -/
abbrev Content := Except Fault String

/-- Files and directories by location. -/
structure FileTree where
  files : List (Location × Content)
  directories : List Location

/-- What is at a location. -/
inductive Entry where
  | absent
  | file (content : Content)
  | directory

namespace FileTree

/-- Whether something is inside a location, or a directory was made there. -/
def isDirectory (t : FileTree) (l : Location) : Bool :=
  l.isEmpty || t.files.any (fun f => l.isPrefixOf f.1) || t.directories.any (l.isPrefixOf ·)

/-- What is at a location. -/
def entry (t : FileTree) (l : Location) : Entry :=
  match t.files.lookup l with
  | some content => .file content
  | none => if t.isDirectory l then .directory else .absent

/-- The location past one name, seen from a location. -/
def advance (t : FileTree) (l : Location) (name : String) : Except Fault Location :=
  match t.entry l with
  | .absent => .error .missing
  | .file _ => .error .notDirectory
  | .directory =>
    if name = "" || name = "." then .ok l
    else if name = ".." then .ok l.dropLast
    else .ok (l ++ [name])

/-- The location of a path, seen from a directory. -/
def locate (t : FileTree) (here : Location) (path : String) : Except Fault Location :=
  if path.isEmpty then .error .missing
  else
    (Text.split '/' path).foldlM t.advance (if path.startsWith "/" then [] else here)

/-- The text of the file at a path. -/
def read (t : FileTree) (here : Location) (path : String) : Content := do
  match t.entry (← t.locate here path) with
  | .file content => content
  | .directory => .error .isDirectory
  | .absent => .error .missing

/-- Files with one of them put at a location. -/
def put (files : List (Location × Content)) (l : Location) (content : Content) :
    List (Location × Content) :=
  match files with
  | [] => [(l, content)]
  | (key, old) :: rest =>
    if key = l then (l, content) :: rest else (key, old) :: put rest l content

/-- Where a storage takes no text, and why. -/
abbrev Refusals := Location → Option Fault

/-- The tree with a text at a path, in place of the file that is there. -/
def write (t : FileTree) (refusals : Refusals) (here : Location) (path text : String) :
    Except Fault FileTree := do
  let l ← t.locate here path
  match t.entry l, refusals l with
  | .directory, _ => .error .isDirectory
  | _, some fault => .error fault
  | _, none => .ok { t with files := put t.files l (.ok text) }

end FileTree

end SurfaceDrift.Storage
