import SurfaceDrift.Text.CaseTable
import SurfaceDrift.Text.Word

/-!
# Lowercase

`lower` is the full lowercase mapping of Unicode : one character may become two, and a
capital sigma becomes `ς` at the end of a word and `σ` elsewhere. A word ends where, past
the characters that case ignores, no cased character follows.
-/

namespace SurfaceDrift.Text

/-- Whether `n` is a member of the run. -/
def CaseRun.holds (r : CaseRun) (n : Nat) : Bool :=
  r.first ≤ n && n ≤ r.last && (n - r.first) % r.stride == 0

/-- The code point of the lowercase form. -/
def lowerCode (runs : List CaseRun) (n : Nat) : Nat :=
  match runs with
  | [] => n
  | r :: rest =>
    if n < r.first then n
    else if r.holds n then (n + r.shift).toNat
    else lowerCode rest n

/-- The lowercase form of a character that does not depend on its neighbours. -/
def lowerChar (c : Char) : List Char :=
  if c = 'İ' then ['i', '\u0307']
  else [Char.ofNat (lowerCode lowercaseRuns c.toNat)]

/-- Whether a cased character comes next, past those that case ignores. -/
def casedNext : List Char → Bool
  | [] => false
  | c :: cs =>
    if inRanges caseIgnorableRanges c.toNat then casedNext cs
    else inRanges casedRanges c.toNat

/-- The lowercase of a text that stands after `before`, which is written backwards. -/
def lowerAfter (before : List Char) : List Char → List Char
  | [] => []
  | c :: cs =>
    let form :=
      if c = 'Σ' then [if casedNext before && !casedNext cs then 'ς' else 'σ']
      else lowerChar c
    form ++ lowerAfter (c :: before) cs

/-- The text in lowercase. -/
def lower (s : String) : String :=
  String.ofList (lowerAfter [] s.toList)

/-- Lowercase of the letters A to Z only. -/
def lowerAscii (s : String) : String :=
  String.ofList (s.toList.map Char.toLower)

end SurfaceDrift.Text
