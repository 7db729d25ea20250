import SurfaceDrift.Builtin
import SurfaceDrift.Catalog.Table
import SurfaceDrift.CommandLine.Invocation
import SurfaceDrift.Comparison
import SurfaceDrift.Configuration
import SurfaceDrift.DocumentFormat
import SurfaceDrift.Storage.FileTree

/-!
# What a command comes to

A command reads files and decides; at most one file is written, at the end. `plan` is that
decision : a `Plan` to stop with an error, to print, or to write one text to one path and
then to print. Nothing is written by a command that fails before its plan is made, and a
plan that cannot be carried out has an error of its own.

Where no configuration file is named, the nearest one is taken that can be read and makes
sense, among the current directory and those that hold it, ten in all.
-/

namespace SurfaceDrift.CommandLine

open Storage (Fault Content)

/-- Why a command fails. -/
inductive CommandError where
  | library (cause : Error)
  | structureNotLoaded (path : String)
  | documentNotLoaded (path : String)
  | resultsNotWritten (path : String)
  | documentNotWritten (path : String)
  | configurationExists
  | storage (fault : Fault)

/-- The failure in words. -/
def CommandError.message : CommandError → String
  | library cause => cause.message
  | structureNotLoaded path => "Failed to load structure " ++ path
  | documentNotLoaded path => "Failed to load " ++ path
  | resultsNotWritten path => "Failed to write results to " ++ path
  | documentNotWritten path => "Failed to write " ++ path
  | configurationExists => "Configuration file already exists. Use --force to overwrite."
  | storage fault => fault.message

/-- What is printed, on the output and beside it. -/
structure Output where
  out : String
  notes : String

/-- What a command does in the end. -/
inductive Plan where
  | stop (failure : CommandError)
  | print (output : Output)
  | save (path text : String) (refused : Fault → CommandError) (output : Output)

/-- The files as a command sees them, and the directory that it runs in. -/
structure View where
  here : String
  read : String → Content

/-! ## Configuration -/

/-- The name of configuration files. -/
def configurationName : String := ".apidrift.toml"

/-- So many directories are searched for a configuration file. -/
def searchDepth : Nat := 10

/-- The configuration at a path, if it can be read and makes sense. -/
def View.configuration? (v : View) (path : String) : Option Configuration :=
  match v.read path with
  | .ok text => (Configuration.parse text).toOption
  | .error _ => none

/-- The paths at which a configuration file is searched for, the nearest one first. -/
def View.configurationPaths (v : View) : List String :=
  (Storage.Path.ancestors v.here searchDepth).map (Storage.Path.join · configurationName)

/-- The nearest configuration that can be read and makes sense, or the empty one. -/
def View.discovered (v : View) : Configuration :=
  (v.configurationPaths.findSome? v.configuration?).getD .empty

/-- The configuration of a command : that of the file it names, or the nearest one. -/
def View.configuration (v : View) (named : Option String) : Except CommandError Configuration :=
  match named with
  | none => .ok v.discovered
  | some path =>
    match v.read path with
    | .error fault =>
      .error (.library (.configuration (.unreadableFile path fault.message)))
    | .ok text => (Configuration.parse text).mapError (.library ∘ .configuration)

/-! ## Documents -/

/-- The document in the file at a path. -/
def View.load (v : View) (path : String) : Except Error Document := do
  let format ← DocumentFormat.ofPath path
  match v.read path with
  | .error fault => .error (.storage fault.message)
  | .ok text =>
    match format.read? text with
    | some d => .ok d
    | none => .error (.unreadableDocument path ("not a " ++ format.label ++ " document"))

/-- The documents in files; the first one that cannot be loaded decides. -/
def View.structures (v : View) (paths : List String) : Except CommandError (List Document) :=
  paths.mapM fun path => (v.load path).mapError fun _ => .structureNotLoaded path

/-- A document in the format of a path. -/
def render (path : String) (d : Document) : Except Error String := do
  (← DocumentFormat.ofPath path).write d

/-- The plan to write a document to a path, and to print. -/
def save (path : String) (d : Document) (failure : CommandError) (output : Output) :
    Except CommandError Plan :=
  match render path d with
  | .ok text => .ok (.save path text (fun _ => failure) output)
  | .error _ => .error failure

/-! ## Commands -/

/-- A line for the outcome of one algorithm. -/
def outcomeLine (entry : String × Outcome) : String :=
  match entry.2.error? with
  | none => "  ok " ++ entry.1 ++ "\n"
  | some error => "  failed " ++ entry.1 ++ ": " ++ error ++ "\n"

/-- Failures of the library as those of a command. -/
def inLibrary (r : Except Error α) : Except CommandError α := r.mapError .library

/-- Compares structures and writes the outcomes. -/
def comparePlan (v : View) (named : Option String) (a : CompareArguments) :
    Except CommandError Plan := do
  let configuration ← v.configuration named
  let params ← inLibrary (configuration.assigned a.assignments)
  let data ← v.structures a.structures
  let requested := a.algorithms.or configuration.defaultAlgorithms
  let results ← inLibrary (Comparison.run Catalog.builtin data requested params)
  save a.output results.toDocument (.resultsNotWritten a.output)
    ⟨"Comparison results saved to " ++ a.output ++ "\n", String.join (results.map outcomeLine)⟩

/-- Runs a pipeline and writes its output. -/
def pipelinePlan (v : View) (named : Option String) (a : PipelineArguments) :
    Except CommandError Plan := do
  let configuration ← v.configuration named
  let params ← inLibrary (configuration.assigned a.assignments)
  let pipeline ← inLibrary (Pipeline.parse Catalog.builtin a.pipeline)
  let data ← v.structures a.structures
  let (output, _) ← inLibrary (pipeline.run data params)
  save a.output output (.resultsNotWritten a.output)
    ⟨"Pipeline results saved to " ++ a.output ++ "\n", ""⟩

/-- Writes a document with canonical names and texts over itself or to another path, or
prints it. -/
def normalizePlan (v : View) (a : NormalizeArguments) : Except CommandError Plan := do
  let d ← (v.load a.input).mapError fun _ => .documentNotLoaded a.input
  let policy := if a.rejectCollisions then .reject else .lastWriteWins
  let normalized ← inLibrary (canonicalWith policy d)
  let path := a.output.getD a.input
  if a.preview then return .print ⟨← inLibrary (render path normalized), ""⟩
  else
    save path normalized (.documentNotWritten path)
      ⟨"Normalized document saved to " ++ path ++ "\n", ""⟩

/-- The text of a first configuration file. -/
def firstConfiguration : String :=
  "# apidrift configuration\n" ++
  "\n" ++
  "[compare]\n" ++
  "algorithms = [\"dbscan\", \"tfidf\"]\n" ++
  "# jobs = 4\n" ++
  "\n" ++
  "[params.dbscan]\n" ++
  "eps = 0.5\n" ++
  "min_samples = 2\n" ++
  "\n" ++
  "[params.minmaxscaler]\n" ++
  "feature_range = [0.0, 1.0]\n" ++
  "\n" ++
  "[params.tfidf]\n" ++
  "max_features = 500\n" ++
  "stop_words = \"english\"\n"

/-- Whether something is at a path. -/
def View.has (v : View) (path : String) : Bool :=
  match v.read path with
  | .ok _ => true
  | .error fault => !fault.isAbsence

/-- Writes a first configuration file, unless there is one. -/
def initPlan (v : View) (force : Bool) : Plan :=
  let path := Storage.Path.join v.here configurationName
  if v.has path && !force then .stop .configurationExists
  else
    .save path firstConfiguration .storage
      ⟨"Created " ++ configurationName ++ " configuration file\n", ""⟩

/-- The algorithms that come with the program. -/
def algorithmsPlan : Plan := .print ⟨Catalog.builtin.table ++ "\n", ""⟩

/-- What a command comes to. -/
def plan (v : View) (i : Invocation) : Plan :=
  let made : Except CommandError Plan :=
    match i.command with
    | .compare a => comparePlan v i.configuration a
    | .pipeline a => pipelinePlan v i.configuration a
    | .normalize a => normalizePlan v a
    | .algorithms => .ok algorithmsPlan
    | .init force => .ok (initPlan v force)
  match made with
  | .ok p => p
  | .error failure => .stop failure

/-! ## Files that a command reads -/

/-- The paths that a command may read. -/
def View.paths (v : View) (i : Invocation) : List String :=
  let configuration :=
    match i.configuration with
    | some path => [path]
    | none => v.configurationPaths
  match i.command with
  | .compare a => configuration ++ a.structures
  | .pipeline a => configuration ++ a.structures
  | .normalize a => [a.input]
  | .algorithms => []
  | .init _ => [Storage.Path.join v.here configurationName]

end SurfaceDrift.CommandLine
