import SurfaceDrift.Toml.Value

/-!
# Tables of TOML

While a document of TOML is read, its tables are still open : a line may add to any of
them. `Node` is a value, an open table or an open array of tables, and a table remembers how
it came to be, since a table may be defined only once. `Node.update` goes down a path of
keys, makes the tables that are missing, and changes the table at its end.
-/

namespace SurfaceDrift.Toml

/-- How a table came to be : by its header, as a part of another table's header, or by a
dotted key. -/
inductive Origin where
  | header
  | partOfHeader
  | dottedKey
deriving DecidableEq

/-- What a key of an open table stands for. In an array only the last table is open. -/
inductive Node where
  | value (v : Value)
  | table (origin : Origin) (entries : List (String × Node))
  | tables (closed : List Value) (last : List (String × Node))

/-- The keys of an open table. -/
abbrev Entries := Fields Node

mutual

/-- The value that a node is when nothing can be added any more. -/
def Node.close : Node → Value
  | .value v => v
  | .table _ entries => .table (closeEntries entries)
  | .tables closed last => .list (closed ++ [.table (closeEntries last)])

/-- The values under the keys. -/
def closeEntries : List (String × Node) → List (String × Value)
  | [] => []
  | (key, node) :: rest => (key, node.close) :: closeEntries rest

end

/-- Changes the table at the end of a path; `change` is told the origin of that table. The
tables on the path are those of a header or of a dotted key, and a dotted key does not go
through a table that has a header of its own. -/
def update (step : Origin) (change : Origin → Entries → Option Entries) (origin : Origin)
    (entries : Entries) : List String → Option Entries
  | [] => change origin entries
  | key :: path =>
    match Fields.find? entries key with
    | none => (update step change step [] path).map fun inner =>
        Fields.insert entries key (.table step inner)
    | some (.table own inner) =>
      if step = .dottedKey && own = .header then none
      else (update step change own inner path).map fun inner =>
        Fields.insert entries key (.table own inner)
    | some (.tables closed last) =>
      (update step change .header last path).map fun last =>
        Fields.insert entries key (.tables closed last)
    | some (.value _) => none

/-- Puts a value under a key that is not there yet. -/
def addValue (key : String) (value : Value) (entries : Entries) : Option Entries :=
  match Fields.find? entries key with
  | none => some (Fields.insert entries key (.value value))
  | some _ => none

/-- Puts a value under a dotted key. Only tables of dotted keys take such a value. -/
def addDotted (path : List String) (key : String) (value : Value) (entries : Entries) :
    Option Entries :=
  match path with
  | [] => addValue key value entries
  | _ =>
    update .dottedKey
      (fun origin inner => if origin = .dottedKey then addValue key value inner else none)
      .header entries path

/-- Opens the table of a header. It may be a part of earlier headers, and nothing else. -/
def openTable (path : List String) (key : String) (entries : Entries) : Option Entries :=
  update .partOfHeader
    (fun _ inner =>
      match Fields.find? inner key with
      | none => some (Fields.insert inner key (.table .header []))
      | some (.table .partOfHeader own) => some (Fields.insert inner key (.table .header own))
      | some _ => none)
    .header entries path

/-- Opens the next table of an array of tables. -/
def openNext (path : List String) (key : String) (entries : Entries) : Option Entries :=
  update .partOfHeader
    (fun _ inner =>
      match Fields.find? inner key with
      | none => some (Fields.insert inner key (.tables [] []))
      | some (.tables closed last) =>
        some (Fields.insert inner key (.tables (closed ++ [.table (closeEntries last)]) []))
      | some _ => none)
    .header entries path

/-- Puts a value under a dotted key of the table at the end of a header's path. -/
def addUnder (header path : List String) (key : String) (value : Value)
    (entries : Entries) : Option Entries :=
  update .partOfHeader (fun _ inner => addDotted path key value inner) .header entries header

end SurfaceDrift.Toml
