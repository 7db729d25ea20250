import SurfaceDrift.Text.WordTable

/-!
# Words

A word is a run of word characters (`isWordChar`). `isWord` says that a text is one word,
and `words` lists the maximal words of a text, in order.
-/

namespace SurfaceDrift.Text

/-- Whether `n` lies in one of the ascending ranges. -/
def inRanges : List (Nat × Nat) → Nat → Bool
  | [], _ => false
  | (first, last) :: rest, n => first ≤ n && (n ≤ last || inRanges rest n)

/-- Letters, marks, decimal digits, connecting punctuation and joiners. -/
def isWordChar (c : Char) : Bool :=
  inRanges wordRanges c.toNat

/-- One or more word characters and nothing else. -/
def isWord (s : String) : Bool :=
  !s.isEmpty && s.toList.all isWordChar

/-- Reads on while `word` is the word read last. -/
def wordsFrom (word : List Char) : List Char → List (List Char)
  | [] => if word.isEmpty then [] else [word]
  | c :: cs =>
    if isWordChar c then wordsFrom (word ++ [c]) cs
    else if word.isEmpty then wordsFrom [] cs
    else word :: wordsFrom [] cs

/-- The maximal runs of word characters, in order. -/
def words (s : String) : List String :=
  (wordsFrom [] s.toList).map String.ofList

end SurfaceDrift.Text
