import SurfaceDrift.Algorithm
import SurfaceDrift.Cluster.Density
import SurfaceDrift.Cluster.Point
import SurfaceDrift.Document.Leaves
import SurfaceDrift.Options
import SurfaceDrift.Surface.Element

/-!
# Clustering of the members of several surfaces

Every document gives points with names (`Sample`) : the members of a surface by their
texts, the rows of a feature matrix, a vector of numbers, or the text of the whole
document, by the first of these views that fits. The points of all documents are clustered
together (`Clustering.learner`), and the report tells the label of every sample and groups
the samples by label.
-/

namespace SurfaceDrift.Clustering

/-- The name of the algorithm. -/
def name : String := "dbscan"

/-- The name under which a document holds the rows of a feature matrix. -/
def featuresKey : String := "tfidf_features"

/-! ## Parameters -/

/-- How near neighbours are, and how many of them a core point has, itself included. -/
structure Params where
  radius : Float
  minSamples : Nat

/-- The declared options. -/
def options : List OptionSpec := [
  ⟨"eps", .float, "0.5", "Maximum distance between two points of the same neighbourhood"⟩,
  ⟨"min_samples", .integer, "2",
    "Neighbours (including the point itself) needed to form a core point"⟩]

/-- The parameters that the options spell. -/
def Params.of (params : SurfaceDrift.Params) : Except Error Params := do
  let given ← Options.of name (options.map OptionSpec.key) params
  let radius ← given.float "eps" 0.5
  if radius ≤ 0.0 then .error (.configuration (.radiusNotPositive name radius))
  else
    let minSamples ← given.integer "min_samples" 2
    if minSamples < 1 then
      .error (.configuration (.belowOne name "min_samples" minSamples))
    else return ⟨radius, minSamples.toNat⟩

/-! ## Samples -/

/-- A point, with its name and the place of its document. -/
structure Sample where
  origin : Nat
  name : String
  point : Point

/-- The name of a document in the report. -/
def structureLabel (index : Nat) : String :=
  "struct_" ++ String.ofList (Decimal.digitsOf (index + 1))

/-- The rows of the feature matrix that a document holds. -/
def featureRows? (d : Document) : Option (List (List Float)) :=
  match d.get? featuresKey with
  | some (.list []) => none
  | some (.list rows) => rows.mapM Document.vector?
  | _ => none

/-- The samples of one document. -/
def samplesOf (index : Nat) (d : Document) : List Sample :=
  match Surface.read? d with
  | some surface =>
    surface.elements.map fun e => ⟨index, e.qualifiedName, .text e.comparisonText⟩
  | none =>
    match featureRows? d with
    | some rows =>
      rows.zipIdx.map fun row =>
        ⟨index, "row_" ++ String.ofList (Decimal.digitsOf (row.2 + 1)), .vector row.1⟩
    | none =>
      match d.vector? with
      | some values => [⟨index, "vector", .vector values⟩]
      | none => [⟨index, "document", .text d.plainText⟩]

/-- The samples of all documents, in order. -/
def samples (data : List Document) : List Sample :=
  data.zipIdx.flatMap fun entry => samplesOf entry.2 entry.1

/-! ## The report -/

/-- Labels of samples under the name of their document. -/
def detailedMapping (labelled : List (Sample × Int)) : Fields (Fields Int) :=
  labelled.foldl
    (fun mapping entry =>
      let label := structureLabel entry.1.origin
      let inner := (Fields.find? mapping label).getD []
      Fields.insert mapping label (Fields.insert inner entry.1.name entry.2))
    []

/-- A label in decimal digits. -/
def labelKey (label : Int) : String := String.ofList (Json.integerText label)

/-- Samples under their label, each as its document's name and its own. -/
def clusterMapping (labelled : List (Sample × Int)) : Fields (List (String × String)) :=
  labelled.foldl
    (fun mapping entry =>
      let key := labelKey entry.2
      let group := (Fields.find? mapping key).getD []
      Fields.insert mapping key
        (group ++ [(structureLabel entry.1.origin, entry.1.name)]))
    []

/-- What a run of the clustering tells. -/
structure Report where
  labels : List Int
  clusterCount : Nat
  noiseCount : Nat
  detailedMapping : Fields (Fields Int)
  clusterMapping : Fields (List (String × String))
  params : Params

/-- The label of noise. -/
def noise : Int := Density.number none

/-- The report on samples and their labels. -/
def report (params : Params) (labels : List Int) (samples : List Sample) : Report :=
  let labelled := samples.zip labels
  let groups := clusterMapping labelled
  { labels := labels
    clusterCount := ((Fields.names groups).filter (· ≠ labelKey noise)).length
    noiseCount := (labels.filter (· = noise)).length
    detailedMapping := detailedMapping labelled
    clusterMapping := groups
    params := params }

/-- The report as a document. -/
def Report.toDocument (r : Report) : Document :=
  Document.ofFields [
    ("algorithm_used", .text name),
    ("labels", .list (r.labels.map Document.ofInt)),
    ("cluster_count", .ofNat r.clusterCount),
    ("noise_count", .ofNat r.noiseCount),
    ("detailed_mapping",
      .object (Fields.mapValues (fun inner => .object (Fields.mapValues Document.ofInt inner))
        r.detailedMapping)),
    ("cluster_mapping",
      .object (Fields.mapValues
        (fun group => .list (group.map fun entry => .object [(entry.1, .text entry.2)]))
        r.clusterMapping)),
    ("parameters",
      Document.ofFields [("eps", .ofFloat r.params.radius),
        ("min_samples", .ofNat r.params.minSamples)])]

/-! ## The algorithm -/

/-- The labels of the samples of the data. A cluster that spreads to a place without a
sample is a panic. -/
def fit (params : Params) (data : List Document) : Except Failure (List Int) :=
  match samples data with
  | [] => .error (.error (.data .noElements))
  | found =>
    let distances := Point.distanceMatrix (found.map Sample.point)
    if distances.all fun row => row.all Decimal.isFinite then
      match Density.labels? distances params.radius params.minSamples with
      | some labels => .ok (labels.map Density.number)
      | none => .error (.panic (.text "index out of bounds"))
    else .error (.error (.data .distanceNotFinite))

/-- The report on the samples of the data, by labels learned before. -/
def transform (params : Params) (fitted : Option (List Int)) (data : List Document) :
    Except Error Document :=
  match fitted with
  | none => .error (.notFitted name)
  | some labels =>
    let found := samples data
    if labels.length = found.length then .ok (report params labels found).toDocument
    else .error (.data (.labelMismatch labels.length found.length))

/-- The clustering with its parameters chosen. -/
def learner (params : Params) : Learner (List Int) where
  name := name
  fit := fun data => Learner.remember (fit params data)
  transform := fun fitted data => (transform params fitted data).mapError .error

end SurfaceDrift.Clustering
