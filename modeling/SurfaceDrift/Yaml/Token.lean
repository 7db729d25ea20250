/-!
# Tokens of YAML

The tokens tell where blocks begin and end, as the columns of a text decide it, and which
scalars are keys. Everything after them is independent of blanks and lines.
-/

namespace SurfaceDrift.Yaml

/-- A tag as written : a handle, which names a family of tags, and the rest. -/
structure TagName where
  handle : String
  suffix : String
deriving DecidableEq

/-- A piece of a YAML text. -/
inductive Token where
  | versionDirective (major minor : Nat)
  | tagDirective (handle family : String)
  | documentStart
  | documentEnd
  | blockSequenceStart
  | blockMappingStart
  | blockEnd
  | flowSequenceStart
  | flowSequenceEnd
  | flowMappingStart
  | flowMappingEnd
  | blockEntry
  | flowEntry
  | key
  | value
  | alias (name : String)
  | anchor (name : String)
  | tag (name : TagName)
  | scalar (plain : Bool) (text : String)
deriving DecidableEq

end SurfaceDrift.Yaml
