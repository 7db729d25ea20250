import SurfaceDrift.Text.ExtenderTable
import SurfaceDrift.Text.Word

/-!
# Names in quotes

`quoted` writes a name so that its reader can tell every character : a quote or a backslash
has a backslash before it, and a character that would change its neighbours or show as
nothing is written by its code point.
-/

namespace SurfaceDrift.Text

/-- Whether a character joins or changes the one before it. -/
def isExtender (c : Char) : Bool := inRanges extenderRanges c.toNat

/-- Whether a character fills the place of a letter and shows as nothing. -/
def isFiller (c : Char) : Bool := c ∈ ['\u115F', '\u1160', '\u3164', '\uFFA0']

/-- A code point as an escape. -/
def codePointEscape (c : Char) : List Char :=
  ['\\', 'u', '\x7b'] ++ Nat.toDigits 16 c.toNat ++ ['\x7d']

/-- A character as `quoted` writes it. -/
def quotedChar (c : Char) : List Char :=
  if c = '"' || c = '\\' then ['\\', c]
  else if isExtender c || isFiller c then codePointEscape c
  else [c]

/-- A name in quotes. -/
def quoted (s : String) : String :=
  String.ofList ('"' :: (s.toList.flatMap quotedChar ++ ['"']))

end SurfaceDrift.Text
