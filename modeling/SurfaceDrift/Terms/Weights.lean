import SurfaceDrift.Algorithm
import SurfaceDrift.Cluster.Point
import SurfaceDrift.Document.Leaves
import SurfaceDrift.Options
import SurfaceDrift.Terms.StopWords
import SurfaceDrift.Text.Word

/-!
# Weights of terms

A document is read as one text, and the text as a bag of terms (`terms`) : its words of two
or more characters in lowercase, without the stop words. Learning chooses the most frequent
terms of all documents as the columns and weighs each of them by how few documents hold it
(`Vocabulary`). A document then becomes a row of weighted counts of length one, and two
documents are as similar as their rows.
-/

namespace SurfaceDrift.Terms

/-- The name of the algorithm. -/
def name : String := "tfidf"

/-! ## Parameters -/

/-- How many terms are columns at most, and which words are no terms. -/
structure Params where
  maxFeatures : Nat
  stopWords : StopWords

/-- The declared options. -/
def options : List OptionSpec := [
  ⟨"max_features", .integer, "500",
    "Maximum vocabulary size, keeping the most frequent terms"⟩,
  ⟨"stop_words", .words, "english", "'english', 'none', or a list of words to ignore"⟩]

/-- The parameters that the options spell. -/
def Params.of (params : SurfaceDrift.Params) : Except Error Params := do
  let given ← Options.of name (options.map OptionSpec.key) params
  let maxFeatures ← given.integer "max_features" 500
  if maxFeatures < 1 then
    .error (.configuration (.belowOne name "max_features" maxFeatures))
  else
    let words ← given.words "stop_words" ["english"]
    return ⟨maxFeatures.toNat, StopWords.ofWords words⟩

/-! ## Terms -/

/-- The terms of a document, in order and with repetitions. -/
def terms (stopWords : StopWords) (d : Document) : List String :=
  (Text.words (Text.lower d.plainText)).filter fun word =>
    2 ≤ word.length && !stopWords.contains word

/-- Equal neighbours of a sorted list as one entry with their number. -/
def countRuns : List String → List (String × Nat)
  | [] => []
  | term :: rest =>
    match countRuns rest with
    | (next, n) :: runs =>
      if term = next then (next, n + 1) :: runs else (term, 1) :: (next, n) :: runs
    | [] => [(term, 1)]

/-- The distinct terms in order, each with its number. -/
def counts (terms : List String) : List (String × Nat) :=
  countRuns (terms.mergeSort fun a b => a ≤ b)

/-- Whether a term comes before another among the most frequent ones. -/
def ranksBefore (a b : String × Nat) : Bool :=
  b.2 < a.2 || (a.2 == b.2 && a.1 ≤ b.1)

/-- The most frequent terms, in the order of their spelling; of equally frequent terms the
first in that order are taken. -/
def mostFrequent (limit : Nat) (terms : List String) : List String :=
  ((((counts terms).mergeSort ranksBefore).take limit).map Prod.fst).mergeSort
    fun a b => a ≤ b

/-! ## What is learned -/

/-- The terms that are columns, each with its weight. -/
structure Vocabulary where
  columns : List (String × Float)

/-- The terms of a vocabulary, in the order of the columns. -/
def Vocabulary.names (v : Vocabulary) : List String := v.columns.map Prod.fst

/-- The weight of a term that `df` of `n` documents hold. The logarithm of doubles is not
defined in the logic, so any function may stand in its place. -/
def weight (log : Float → Float) (n df : Nat) : Float :=
  log ((1.0 + Float.ofNat n) / (1.0 + Float.ofNat df)) + 1.0

/-- The vocabulary of documents with these terms. -/
def vocabulary (log : Float → Float) (limit : Nat) (bags : List (List String)) :
    Except Error Vocabulary :=
  match mostFrequent limit bags.flatten with
  | [] => .error (.data .emptyVocabulary)
  | kept =>
    .ok ⟨kept.map fun term =>
      (term, weight log bags.length (bags.filter fun bag => bag.contains term).length)⟩

/-- The vocabulary of the documents. -/
def fit (log : Float → Float) (params : Params) (data : List Document) :
    Except Error Vocabulary :=
  vocabulary log params.maxFeatures (data.map (terms params.stopWords))

/-! ## Rows -/

/-- The weighted counts of a document's terms, before they are brought to length one. -/
def weighted (v : Vocabulary) (bag : List String) : List Float :=
  v.columns.map fun column => Float.ofNat (bag.count column.1) * column.2

/-- Brings a row to length one, unless its length is zero. -/
def unitLength (row : List Float) : List Float :=
  let norm := (sumFloats (row.map fun x => x * x)).sqrt
  if 0.0 < norm then row.map (· / norm) else row

/-- The row of a document with these terms. -/
def row (v : Vocabulary) (bag : List String) : List Float :=
  unitLength (weighted v bag)

/-- The product of two rows. -/
def product (a b : List Float) : Float :=
  sumFloats (List.zipWith (· * ·) a b)

/-- What the weighing of terms tells. -/
structure Features where
  /-- A row for each document. -/
  rows : List (List Float)
  /-- The terms of the columns. -/
  names : List String
  /-- How similar any two documents are. -/
  similarity : List (List Float)

/-- The rows of documents with these terms, the terms of the columns, and the products of all
rows. -/
def features (v : Vocabulary) (bags : List (List String)) : Features :=
  let rows := bags.map (row v)
  { rows := rows
    names := v.names
    similarity := rows.map fun a => rows.map (product a) }

/-- A matrix as a document. -/
def matrixDocument (rows : List (List Float)) : Document :=
  .list (rows.map fun row => .list (row.map Document.ofFloat))

/-- The features as a document. -/
def Features.toDocument (f : Features) : Document :=
  Document.ofFields [
    ("tfidf_features", matrixDocument f.rows),
    ("feature_names", .list (f.names.map Document.text)),
    ("cosine_similarity", matrixDocument f.similarity)]

/-! ## The algorithm -/

/-- The features of the documents. -/
def transform (params : Params) (fitted : Option Vocabulary) (data : List Document) :
    Except Error Document :=
  match fitted with
  | none => .error (.notFitted name)
  | some v => .ok (features v (data.map (terms params.stopWords))).toDocument

/-- The weighing of terms by a logarithm, with its parameters chosen. -/
def learnerBy (log : Float → Float) (params : Params) : Learner Vocabulary where
  name := name
  fit := fun data => Learner.remember ((fit log params data).mapError .error)
  transform := fun fitted data => (transform params fitted data).mapError .error

/-- The weighing of terms by the natural logarithm. -/
def learner (params : Params) : Learner Vocabulary := learnerBy Float.log params

end SurfaceDrift.Terms
