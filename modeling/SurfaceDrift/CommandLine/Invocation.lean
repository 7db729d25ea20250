import SurfaceDrift.CommandLine.Switch
import SurfaceDrift.Decimal.Numeral

/-!
# Commands and their arguments

The program has five commands. `readArguments` finds the command that arguments ask for and
what it is to work on. A configuration file may be named before or after the command, and
after it counts; where none is named the environment may name one. The environment is asked
for both places, and an empty name in it is an error wherever it is asked.
-/

namespace SurfaceDrift.CommandLine

/-- Runs algorithms on structures, each on its own. -/
structure CompareArguments where
  structures : List String
  algorithms : Option (List String)
  output : String
  assignments : List String
  /-- How many algorithms may run at a time, which does not change what they answer. -/
  workers : Option Nat

/-- Runs algorithms on structures, one after another. -/
structure PipelineArguments where
  pipeline : String
  structures : List String
  output : String
  assignments : List String

/-- Writes a document with canonical names and texts. -/
structure NormalizeArguments where
  input : String
  output : Option String
  preview : Bool
  rejectCollisions : Bool

/-- What the program is asked to do. -/
inductive Command where
  | compare (arguments : CompareArguments)
  | pipeline (arguments : PipelineArguments)
  | normalize (arguments : NormalizeArguments)
  | algorithms
  | init (force : Bool)

/-- A command with what is common to all of them. -/
structure Invocation where
  configuration : Option String
  verbosity : Nat
  command : Command

/-- What arguments ask for. -/
inductive Request where
  | run (invocation : Invocation)
  | version
  | help (command : Option String)
  | misuse

/-! ## Switches -/

/-- A switch without values, which may be given once. -/
def flag (word : String) (letter : Option Char) : Switch :=
  ⟨word, letter, .none, false, fun _ => true, .setting⟩

/-- A switch with one value, which may be given once. -/
def single (word : String) (letter : Option Char) (accepts : String → Bool) : Switch :=
  ⟨word, letter, .one, false, accepts, .setting⟩

/-- A switch that may be given again and again. -/
def repeated (word : String) (letter : Option Char) (values : ValueCount)
    (accepts : String → Bool) : Switch :=
  ⟨word, letter, values, true, accepts, .setting⟩

/-- Paths are not empty. -/
def isPath (s : String) : Bool := !s.isEmpty

/-- Any text. -/
def isText (_ : String) : Bool := true

/-- A whole number of at most 64 bits that is not negative. -/
def workers? (s : String) : Option Nat :=
  let digits :=
    match s.toList with
    | '+' :: cs => cs
    | cs => cs
  if digits.isEmpty || !digits.all Char.isDigit then none
  else
    let n := Decimal.value digits
    if (n : Int) ≤ Decimal.maxUInt64 then some n else none

/-- The switches of all commands. -/
def commonSwitches : List Switch := [
  repeated "verbose" (some 'v') .none isText,
  single "config" none isPath,
  ⟨"help", some 'h', .none, true, isText, .help⟩]

/-- The switches before a command. -/
def rootSwitches : List Switch :=
  commonSwitches ++ [⟨"version", some 'V', .none, true, isText, .version⟩]

/-- The names of the commands, and of the one that tells about them. -/
def commandNames : List String :=
  ["compare", "pipeline", "normalize", "algorithms", "init", "help"]

/-- The switches of `compare`. -/
def compareSwitches : List Switch := [
  repeated "structures" (some 's') .several isPath,
  repeated "algorithms" (some 'a') .several isText,
  single "output" (some 'o') isPath,
  repeated "param" (some 'p') .one isText,
  single "jobs" (some 'j') fun s => (workers? s).isSome]

/-- The switches of `pipeline`. -/
def pipelineSwitches : List Switch := [
  single "pipeline" none isText,
  repeated "structures" (some 's') .several isPath,
  single "output" (some 'o') isPath,
  repeated "param" (some 'p') .one isText]

/-- The switches of `normalize`. -/
def normalizeSwitches : List Switch := [
  single "input" (some 'i') isPath,
  single "output" (some 'o') isPath,
  flag "preview" none,
  flag "reject-collisions" none]

/-- The switches of `init`. -/
def initSwitches : List Switch := [flag "force" (some 'f')]

/-! ## Commands -/

/-- The value of a switch that must be given. -/
def required (given : Given) (word : String) : Except Detour String :=
  match given.value? word with
  | some value => .ok value
  | none => .error .misuse

/-- The values of a switch that must be given. -/
def requiredAll (given : Given) (word : String) : Except Detour (List String) :=
  match given.values word with
  | [] => .error .misuse
  | values => .ok values

/-- The command `compare` with its switches; names of algorithms may stand between commas. -/
def compareOf (given : Given) : Except Detour Command := do
  let names := (given.values "algorithms").flatMap (Text.split ',')
  return .compare {
    structures := ← requiredAll given "structures"
    algorithms := if given.has "algorithms" then some names else none
    output := ← required given "output"
    assignments := given.values "param"
    workers := (given.value? "jobs").bind workers? }

/-- The command `pipeline` with its switches. -/
def pipelineOf (given : Given) : Except Detour Command := do
  return .pipeline {
    pipeline := ← required given "pipeline"
    structures := ← requiredAll given "structures"
    output := ← required given "output"
    assignments := given.values "param" }

/-- The command `normalize` with its switches. -/
def normalizeOf (given : Given) : Except Detour Command := do
  return .normalize {
    input := ← required given "input"
    output := given.value? "output"
    preview := given.has "preview"
    rejectCollisions := given.has "reject-collisions" }

/-- The command `init` with its switches. -/
def initOf (given : Given) : Except Detour Command := .ok (.init (given.has "force"))

/-- The command `algorithms`. -/
def algorithmsOf (_ : Given) : Except Detour Command := .ok .algorithms

/-- The switches of a command, and the command that they make. -/
def commandOf? (name : String) : Option (List Switch × (Given → Except Detour Command)) :=
  match name with
  | "compare" => some (compareSwitches, compareOf)
  | "pipeline" => some (pipelineSwitches, pipelineOf)
  | "normalize" => some (normalizeSwitches, normalizeOf)
  | "algorithms" => some ([], algorithmsOf)
  | "init" => some (initSwitches, initOf)
  | _ => none

/-! ## Requests -/

/-- What stopped the reading of a command's arguments, as a request. -/
def Detour.request (command : Option String) : Detour → Request
  | help => .help command
  | version => .version
  | misuse => .misuse

/-- A request for help on a command, or on the program. -/
def helpOn (arguments : List String) : Request :=
  match arguments with
  | [] => .help none
  | [name] => if commandNames.contains name then .help (some name) else .misuse
  | _ => .misuse

/-- The request for a command with its arguments, after the switches in front of it. -/
def requestOf (environment : Option String) (outer : Given) (name : String)
    (arguments : List String) : Request :=
  match commandOf? name with
  | none => helpOn arguments
  | some (switches, build) =>
    let command : Except Detour Invocation := do
      let reading ← readSwitches (switches ++ commonSwitches) [] arguments
      let command ← build reading.given
      let named := outer.has "config" && reading.given.has "config"
      if environment = some "" && !named then .error .misuse
      let path := (reading.given.value? "config").or (outer.value? "config")
      let verbose := if reading.given.has "verbose" then reading.given else outer
      return ⟨path.or environment, verbose.count "verbose", command⟩
    match command with
    | .ok invocation => .run invocation
    | .error detour => detour.request (some name)

/-- What arguments ask for, where the environment may name a configuration file. -/
def readArguments (environment : Option String) (arguments : List String) : Request :=
  match readSwitches rootSwitches commandNames arguments with
  | .error detour => detour.request none
  | .ok ⟨given, some (name, rest)⟩ => requestOf environment given name rest
  | .ok ⟨_, none⟩ => .misuse

end SurfaceDrift.CommandLine
