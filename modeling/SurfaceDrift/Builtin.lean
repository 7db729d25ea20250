import SurfaceDrift.Canonical.Learner
import SurfaceDrift.Catalog
import SurfaceDrift.Cluster.Report
import SurfaceDrift.Scaling
import SurfaceDrift.Terms.Weights

/-!
# The algorithms of the library

Four algorithms come with the library : clustering, scaling, weights of terms, and
canonical names and texts. `Builtin.configure` chooses the parameters of one of them.
-/

namespace SurfaceDrift

/-- The algorithms of the library. -/
inductive Builtin where
  | clustering
  | scaling
  | terms
  | canonicalization
deriving DecidableEq, Repr

/-- An algorithm of the library with its parameters chosen. -/
inductive Configured where
  | clustering (params : Clustering.Params)
  | scaling (params : Scaling.Params)
  | terms (params : Terms.Params)
  | canonicalization (policy : CollisionPolicy)

namespace Configured

/-- What the algorithm learns from data. -/
def Fitted : Configured → Type
  | clustering _ => List Int
  | scaling _ => Scaling.Range
  | terms _ => Terms.Vocabulary
  | canonicalization _ => Empty

/-- The algorithm as instances of it are used. -/
def learner : (c : Configured) → Learner c.Fitted
  | clustering params => Clustering.learner params
  | scaling params => Scaling.learner params
  | terms params => Terms.learner params
  | canonicalization policy => Canonicalization.learner policy

/-- The algorithm as it is run on data. -/
def algorithm (c : Configured) : Algorithm := c.learner.algorithm

end Configured

namespace Builtin

/-- All of them, in the order in which they are put into the catalog. -/
def all : List Builtin := [clustering, scaling, terms, canonicalization]

/-- The algorithm with the parameters that the options spell. -/
def configure (b : Builtin) (params : Params) : Except Error Configured :=
  match b with
  | clustering => (Clustering.Params.of params).map .clustering
  | scaling => (Scaling.Params.of params).map .scaling
  | terms => (Terms.Params.of params).map .terms
  | canonicalization => (Canonicalization.policyOf params).map .canonicalization

/-- The algorithm's name. -/
def name : Builtin → String
  | clustering => Clustering.name
  | scaling => Scaling.name
  | terms => Terms.name
  | canonicalization => Canonicalization.name

/-- The algorithm's name for readers. -/
def display : Builtin → String
  | clustering => "DBSCAN"
  | scaling => "MinMaxScaler"
  | terms => "TFIDF"
  | canonicalization => "TextNormalizer"

/-- What the algorithm is for. -/
def category : Builtin → AlgorithmCategory
  | clustering => .clustering
  | scaling => .normalization
  | terms => .featureExtraction
  | canonicalization => .transformation

/-- What the algorithm does, in one line. -/
def summary : Builtin → String
  | clustering => "Density clustering of API members by edit distance"
  | scaling => "Rescale numeric leaves into a target range"
  | terms => "Term-frequency / inverse-document-frequency text features"
  | canonicalization => "Canonicalize names and text (case, underscores, whitespace)"

/-- The algorithm's declared options. -/
def options : Builtin → List OptionSpec
  | clustering => Clustering.options
  | scaling => Scaling.options
  | terms => Terms.options
  | canonicalization => Canonicalization.options

/-- The algorithm as the catalog knows it. -/
def descriptor (b : Builtin) : Descriptor where
  display := b.display
  category := b.category
  summary := b.summary
  options := b.options
  build := fun params => (b.configure params).map Configured.algorithm

/-- The algorithm of a name in lowercase. -/
def ofName? (name : String) : Option Builtin :=
  all.find? fun b => b.name == name

end Builtin

/-- The catalog of the library's algorithms. -/
def Catalog.builtin : Catalog := discover (Builtin.all.map Builtin.descriptor)

end SurfaceDrift
