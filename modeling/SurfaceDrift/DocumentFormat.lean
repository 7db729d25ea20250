import SurfaceDrift.Error
import SurfaceDrift.Json.Reader
import SurfaceDrift.Storage.Path
import SurfaceDrift.Text.Casing
import SurfaceDrift.Toml.Printer
import SurfaceDrift.Toml.Reader
import SurfaceDrift.Yaml.Printer
import SurfaceDrift.Yaml.Reader

/-!
# Formats of documents

A document is kept as JSON, YAML or TOML. The ending of a file's name, in any letter case,
tells its format (`DocumentFormat.ofPath`).
-/

namespace SurfaceDrift

/-- The formats in which documents are kept. -/
inductive DocumentFormat where
  | json
  | yaml
  | toml
deriving DecidableEq, Repr

namespace DocumentFormat

/-- The name of a format. -/
def label : DocumentFormat → String
  | json => "json"
  | yaml => "yaml"
  | toml => "toml"

/-- The format of files whose names have an ending. -/
def ofExtension (ending : String) : Except Error DocumentFormat :=
  let lowered := Text.lower ending
  if lowered = "json" then .ok json
  else if lowered = "yaml" || lowered = "yml" then .ok yaml
  else if lowered = "toml" then .ok toml
  else .error (.unsupportedFormat lowered)

/-- The format of the file at a path. -/
def ofPath (path : String) : Except Error DocumentFormat :=
  ofExtension ((Storage.Path.extension? path).getD "")

/-- The document that a text is in a format. -/
def read? : DocumentFormat → String → Option Document
  | json => Json.read?
  | yaml => Yaml.read?
  | toml => Toml.read?

/-- The kind of value that TOML has no form for, in a document that it cannot write : the
document itself unless it is an object, and a null otherwise. -/
def unwritableKind : Document → String
  | .null => "unit"
  | .bool _ => "bool"
  | .number (.integer n) => if n < 0 then "i64" else "u64"
  | .number (.double _) => "f64"
  | .text _ => "str"
  | .list _ => "array"
  | .object _ => "unit"

/-- A document in a format. TOML can write only objects without a null in them. -/
def write (format : DocumentFormat) (d : Document) : Except Error String :=
  match format with
  | json => .ok (Json.file d)
  | yaml => .ok (Yaml.write d)
  | toml =>
    match Toml.write? d with
    | some text => .ok text
    | none => .error (.tomlWriting ("unsupported " ++ unwritableKind d ++ " type"))

end DocumentFormat

end SurfaceDrift
