/-!
# Entries under distinct names

`Fields α` is a finite map from names to values, written as a list of entries in the order
of their names (`Fields.Ascending`), which is the order of code points. `insert` keeps that
order and replaces the value of a name that is there already, and `ofList` inserts entries
one by one, so that of two entries of one name the later one stays.
-/

namespace SurfaceDrift

/-- Entries in ascending order of their names. -/
abbrev Fields (α : Type) := List (String × α)

namespace Fields

variable {α β : Type}

/-- The names, in order. -/
def names (fields : Fields α) : List String := fields.map Prod.fst

/-- Every name is less than those after it. -/
def Ascending (fields : Fields α) : Prop := (names fields).Pairwise (· < ·)

/-- The value under a name. -/
def find? (fields : Fields α) (name : String) : Option α :=
  match fields with
  | [] => none
  | (key, value) :: rest => if key = name then some value else find? rest name

/-- Puts a value under a name, in place of the one that is there. -/
def insert (fields : Fields α) (name : String) (value : α) : Fields α :=
  match fields with
  | [] => [(name, value)]
  | (key, old) :: rest =>
    if name < key then (name, value) :: (key, old) :: rest
    else if name = key then (name, value) :: rest
    else (key, old) :: insert rest name value

/-- The entries inserted one by one into `fields`. -/
def insertAll (fields : Fields α) (entries : List (String × α)) : Fields α :=
  entries.foldl (fun fields entry => insert fields entry.1 entry.2) fields

/-- The entries inserted one by one. -/
def ofList (entries : List (String × α)) : Fields α :=
  insertAll [] entries

/-- The same names over other values. -/
def mapValues (f : α → β) (fields : Fields α) : Fields β :=
  fields.map fun entry => (entry.1, f entry.2)

end Fields

end SurfaceDrift
