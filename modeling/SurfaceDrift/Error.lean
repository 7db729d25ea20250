import SurfaceDrift.Json.Printer

/-!
# What can go wrong

An `Error` names its cause, and the wording is in `Error.message` alone. The causes fall
into categories that callers treat apart : a bad configuration or a misuse is found before
any data is looked at (`isConfiguration`), bad data stops one algorithm, and storage has
errors of its own. `stepFailed` tells which step of a pipeline an error comes from, and
`rootCause` looks through it.

The causes marked `stated` carry the words of an algorithm that is not part of the library.
-/

namespace SurfaceDrift

/-- The shape of value that an option takes, as its error names it. -/
inductive Expected where
  | float
  | integer
  | boolean
  | text
  | listItem
  | words
  | twoFloats
deriving DecidableEq

/-- The words for a shape of value. -/
def Expected.phrase : Expected → String
  | float => "a float"
  | integer => "an integer"
  | boolean => "a boolean"
  | text => "text"
  | listItem => "a list of words"
  | words => "a word or a list of words"
  | twoFloats => "two floats"

/-- Causes found in names, parameters and configuration files. -/
inductive ConfigurationFault where
  | unknownOption (algorithm option : String) (recognized : List String)
  | unfitOption (algorithm option : String) (expected : Expected) (got : Document)
  | radiusNotPositive (algorithm : String) (radius : Float)
  | belowOne (algorithm option : String) (value : Int)
  | boundsNotFinite (algorithm : String) (lo hi : Float)
  | emptyRange (algorithm : String) (lo hi : Float)
  | unknownPolicy (algorithm policy : String)
  | malformedAssignment (assignment : String)
  | malformedParameterName (name : String)
  | badAlgorithmName (display : String)
  | unusableDefaults (display reason : String)
  | unreadableFile (path reason : String)
  | malformedFile
  | noWorkers
  | noDefaultAlgorithms
  | stated (text : String)

/-- Causes in the way the library is called. -/
inductive UsageFault where
  | tooFewStructures (required given : Nat)
  | noAlgorithms
  | emptyPipeline
  | stated (text : String)
deriving DecidableEq

/-- Causes in the data that an algorithm is given. -/
inductive DataFault where
  | noElements
  | distanceNotFinite
  | labelMismatch (labels elements : Nat)
  | noNumbers
  | emptyVocabulary
  | keyCollision (first second common : String)
  | stated (text : String)
deriving DecidableEq

/-- Causes in the run of an algorithm. -/
inductive ExecutionFault where
  | panicked (algorithm payload : String)
  | stated (text : String)
deriving DecidableEq

/-- Everything that can go wrong, by cause. -/
inductive Error where
  | badStep (step : String)
  | unknownAlgorithm (name : String) (known : List String)
  | configuration (fault : ConfigurationFault)
  | usage (fault : UsageFault)
  | data (fault : DataFault)
  | notFitted (algorithm : String)
  | execution (fault : ExecutionFault)
  | stepFailed (algorithm : String) (cause : Error)
  | unsupportedFormat (extension : String)
  | unreadableDocument (path reason : String)
  | storage (reason : String)
  | jsonWriting (reason : String)
  | yamlWriting (reason : String)
  | tomlWriting (reason : String)

/-! ## Wording -/

/-- What is wrong in a configuration. -/
def ConfigurationFault.text : ConfigurationFault → String
  | unknownOption algorithm option recognized =>
    algorithm ++ ": unknown option '" ++ option ++ "' (recognized: " ++
      (if recognized.isEmpty then "none" else ", ".intercalate recognized) ++ ")"
  | unfitOption algorithm option expected got =>
    algorithm ++ ": option '" ++ option ++ "' expects " ++ expected.phrase ++ ", got " ++
      Json.oneLine got
  | radiusNotPositive algorithm radius =>
    algorithm ++ ": eps must be positive, got " ++ Decimal.plain.write radius
  | belowOne algorithm option value =>
    algorithm ++ ": " ++ option ++ " must be at least 1, got " ++
      String.ofList (Json.integerText value)
  | boundsNotFinite algorithm lo hi =>
    algorithm ++ ": feature_range bounds must be finite, got (" ++
      Decimal.plain.write lo ++ ", " ++ Decimal.plain.write hi ++ ")"
  | emptyRange algorithm lo hi =>
    algorithm ++ ": feature_range lower bound must be below the upper bound, got (" ++
      Decimal.plain.write lo ++ ", " ++ Decimal.plain.write hi ++ ")"
  | unknownPolicy algorithm policy =>
    algorithm ++ ": collisions must be 'last_write_wins' or 'reject', got '" ++ policy ++ "'"
  | malformedAssignment assignment =>
    "invalid parameter '" ++ assignment ++ "' (expected algorithm.key=value)"
  | malformedParameterName name =>
    "invalid parameter name '" ++ name ++ "' (expected algorithm.key)"
  | badAlgorithmName display =>
    "algorithm name '" ++ display ++ "' must consist of word characters only"
  | unusableDefaults display reason =>
    "algorithm '" ++ display ++ "' cannot be configured with its defaults: " ++ reason
  | unreadableFile path reason => "failed to read config file " ++ path ++ ": " ++ reason
  | malformedFile => "Failed to parse .apidrift.toml"
  | noWorkers => "compare.jobs must be at least 1"
  | noDefaultAlgorithms => "compare.algorithms must not be empty when given"
  | stated text => text

/-- What is wrong in a call. -/
def UsageFault.text : UsageFault → String
  | tooFewStructures required given =>
    "at least " ++ String.ofList (Decimal.digitsOf required) ++
      " structures are required for comparison, got " ++
      String.ofList (Decimal.digitsOf given)
  | noAlgorithms => "no algorithms requested"
  | emptyPipeline => "pipeline has no steps"
  | stated text => text

/-- What is wrong in the data. -/
def DataFault.text : DataFault → String
  | noElements => "No elements found in the structures for comparison."
  | distanceNotFinite => "Distance matrix contains NaN or infinity values."
  | labelMismatch labels elements =>
    "Mismatch between labels and elements: " ++ String.ofList (Decimal.digitsOf labels) ++
      " labels for " ++ String.ofList (Decimal.digitsOf elements) ++ " elements"
  | noNumbers => "The structure contains no numeric values to scale."
  | emptyVocabulary => "empty vocabulary; perhaps the documents only contain stop words"
  | keyCollision first second common =>
    "keys '" ++ first ++ "' and '" ++ second ++ "' both normalize to '" ++ common ++ "'"
  | stated text => text

/-- What went wrong in a run. -/
def ExecutionFault.text : ExecutionFault → String
  | panicked algorithm payload => algorithm ++ " panicked: " ++ payload
  | stated text => text

namespace Error

/-- The error in words. -/
def message : Error → String
  | badStep step => "Invalid step format: '" ++ step ++ "' (expected 'stage:algorithm')"
  | unknownAlgorithm name known =>
    "Algorithm '" ++ name ++ "' not found in available algorithms: " ++
      ", ".intercalate known
  | configuration fault => "Configuration error: " ++ fault.text
  | usage fault => "Usage error: " ++ fault.text
  | data fault => "Data integrity error: " ++ fault.text
  | notFitted algorithm => algorithm ++ " has not been fitted; call fit before transform"
  | execution fault => "Algorithm execution error: " ++ fault.text
  | stepFailed algorithm cause => "Error running " ++ algorithm ++ ": " ++ cause.message
  | unsupportedFormat extension => "Unsupported file format: " ++ extension
  | unreadableDocument path reason => "Error parsing " ++ path ++ ": " ++ reason
  | storage reason => reason
  | jsonWriting reason => reason
  | yamlWriting reason => reason
  | tomlWriting reason => reason

/-! ## Categories -/

/-- The group of causes that an error belongs to. -/
inductive Category where
  | config
  | usage
  | data
  | execution
  | storage
deriving DecidableEq

/-- The name of a category. -/
def Category.label : Category → String
  | config => "Config"
  | usage => "Usage"
  | data => "Data"
  | execution => "Execution"
  | storage => "I/O"

/-- The category of an error. -/
def category : Error → Category
  | badStep _ | unknownAlgorithm _ _ | configuration _ => .config
  | usage _ => .usage
  | data _ | notFitted _ => .data
  | execution _ | stepFailed _ _ => .execution
  | unsupportedFormat _ | unreadableDocument _ _ | storage _ | jsonWriting _
  | yamlWriting _ | tomlWriting _ => .storage

/-- Found before any data is looked at. -/
def isConfiguration : Error → Bool
  | badStep _ | unknownAlgorithm _ _ | configuration _ | usage _ => true
  | _ => false

/-- The cause inside the steps. -/
def rootCause : Error → Error
  | stepFailed _ cause => cause.rootCause
  | other => other

end Error

end SurfaceDrift
