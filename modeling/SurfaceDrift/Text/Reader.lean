/-!
# Readers of the beginning of a text

A `Reader` takes a value off the beginning of a text and leaves the rest, or refuses the
text. The formats of documents are read by such readers, and share the reading of digits of
a base.
-/

namespace SurfaceDrift.Text

/-- Takes a value off the beginning of a text, and leaves the rest. -/
abbrev Reader (α : Type) := List Char → Option (α × List Char)

/-- The value of a digit of base sixteen. -/
def hexValue? (c : Char) : Option Nat :=
  if '0' ≤ c && c ≤ '9' then some (c.toNat - '0'.toNat)
  else if 'a' ≤ c && c ≤ 'f' then some (c.toNat - 'a'.toNat + 10)
  else if 'A' ≤ c && c ≤ 'F' then some (c.toNat - 'A'.toNat + 10)
  else none

/-- The value of a digit of a base up to sixteen. -/
def digitOfBase? (base : Nat) (c : Char) : Option Nat :=
  (hexValue? c).filter (· < base)

/-- The value of digits of a base, which is 0 for no digits. -/
def numberOfBase? (base : Nat) (digits : List Char) : Option Nat :=
  digits.foldl (fun n c => do return base * (← n) + (← digitOfBase? base c)) (some 0)

/-- The value of digits of base sixteen. -/
def hexNumber? (digits : List Char) : Option Nat := numberOfBase? 16 digits

/-- The character of a code point, unless it is a surrogate or too great. -/
def charOf? (n : Nat) : Option Char :=
  if h : n.isValidChar then some (Char.ofNatAux n h) else none

/-- The text after a line break at its beginning, if there is one. -/
def dropLineBreak : List Char → Option (List Char)
  | '\n' :: cs => some cs
  | '\r' :: '\n' :: cs => some cs
  | _ => none

end SurfaceDrift.Text
