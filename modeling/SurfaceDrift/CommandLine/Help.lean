/-!
# Help

The texts that the program prints about itself : its version, its commands, and the switches
of a command with what they mean, aligned.
-/

namespace SurfaceDrift.CommandLine

/-- The name and the version of the program. -/
def versionText : String := "apidrift 0.3.0\n"

/-- What is said to a user whose arguments cannot be read. -/
def misuseText : String :=
  "Usage: apidrift [OPTIONS] <COMMAND>\n\nFor more information, try '--help'.\n"

/-- What the user writes, and what it means. -/
structure HelpEntry where
  spelling : String
  meaning : String

/-- What is to be said about a command : what it does, how it is called, and entries under
titles. -/
structure HelpPage where
  about : String
  usage : String
  sections : List (String × List HelpEntry)

/-- Entries with their meanings in one column. -/
def alignedEntries (entries : List HelpEntry) : List String :=
  let width := (entries.map (·.spelling.length)).foldl max 0
  entries.map fun e =>
    "  " ++ e.spelling ++ String.ofList (List.replicate (width + 2 - e.spelling.length) ' ') ++
      e.meaning

/-- A page in lines. -/
def HelpPage.lines (p : HelpPage) : List String :=
  [p.about, "", "Usage: apidrift" ++ p.usage] ++
    p.sections.flatMap fun s => ["", s.1 ++ ":"] ++ alignedEntries s.2

/-! ## Entries -/

/-- How much is logged. -/
def verboseHelp : HelpEntry :=
  ⟨"-v, --verbose...", "Increase verbosity level (can be repeated: -v, -vv, -vvv)"⟩

/-- The configuration file, and the one that the environment names. -/
def configHelp (environment : Option String) : HelpEntry :=
  ⟨"    --config <CONFIG>",
    "Configuration file (defaults to the nearest .apidrift.toml) [env: APIDRIFT_CONFIG=" ++
      environment.getD "" ++ "]"⟩

/-- This text. -/
def helpHelp : HelpEntry := ⟨"-h, --help", "Print help"⟩

/-- The documents to work on. -/
def structuresHelp (meaning : String) : HelpEntry :=
  ⟨"-s, --structures <STRUCTURES>...", meaning⟩

/-- Where results go. -/
def outputHelp : HelpEntry :=
  ⟨"-o, --output <OUTPUT>", "Output file; the format follows the extension"⟩

/-- Parameters of algorithms. -/
def paramHelp : HelpEntry :=
  ⟨"-p, --param <ALGO.KEY=VALUE>", "Algorithm parameter as algorithm.key=value (repeatable)"⟩

/-! ## Pages -/

/-- What a command does. -/
def aboutOf (command : String) : String :=
  match command with
  | "compare" => "Run algorithms independently over the same structures"
  | "pipeline" => "Run a sequential pipeline of algorithms"
  | "normalize" => "Canonicalize names and text in a structure document"
  | "algorithms" => "List available algorithms and their options"
  | "init" => "Write a starter .apidrift.toml in the current directory"
  | _ => "Print this message or the help of the given subcommand(s)"

/-- The program as a whole. -/
def programPage (environment : Option String) (commands : List String) : HelpPage where
  about := "Compare API structures to detect drift between versions"
  usage := " [OPTIONS] <COMMAND>"
  sections := [
    ("Commands", commands.map fun c => ⟨c, aboutOf c⟩),
    ("Options", [verboseHelp, configHelp environment, helpHelp,
      ⟨"-V, --version", "Print version"⟩])]

/-- How a command is called past its name. -/
def usageOf (command : String) : String :=
  match command with
  | "compare" => " --structures <STRUCTURES>... --output <OUTPUT>"
  | "pipeline" => " --pipeline <PIPELINE> --structures <STRUCTURES>... --output <OUTPUT>"
  | "normalize" => " --input <INPUT>"
  | _ => ""

/-- The switches of a command, with those of all commands among them. -/
def entriesOf (environment : Option String) (command : String) : List HelpEntry :=
  let config := configHelp environment
  match command with
  | "compare" => [
    structuresHelp "Structure documents to compare (json, yaml or toml)",
    verboseHelp,
    ⟨"-a, --algorithms <ALGORITHMS>...",
      "Algorithms to run (defaults to the config file, then all)"⟩,
    config, outputHelp, paramHelp,
    ⟨"-j, --jobs <JOBS>", "Number of worker threads (defaults to one per CPU)"⟩,
    helpHelp]
  | "pipeline" => [
    ⟨"    --pipeline <PIPELINE>", "Steps as stage:algorithm, comma separated"⟩,
    verboseHelp, config,
    structuresHelp "Structure documents to feed the first step",
    outputHelp, paramHelp, helpHelp]
  | "normalize" => [
    ⟨"-i, --input <INPUT>", "Document to normalize"⟩,
    verboseHelp, config,
    ⟨"-o, --output <OUTPUT>", "Output file (defaults to overwriting the input)"⟩,
    ⟨"    --preview", "Print the normalized document instead of writing it"⟩,
    ⟨"    --reject-collisions", "Fail when two keys normalize to the same name"⟩,
    helpHelp]
  | "init" =>
    [⟨"-f, --force", "Overwrite an existing file"⟩, verboseHelp, config, helpHelp]
  | _ => [verboseHelp, config, helpHelp]

/-- A command. -/
def commandPage (environment : Option String) (command : String) : HelpPage where
  about := aboutOf command
  usage := " " ++ command ++ " [OPTIONS]" ++ usageOf command
  sections := [("Options", entriesOf environment command)]

/-- The help on a command, or on the program. -/
def helpText (environment : Option String) (commands : List String) (command : Option String) :
    String :=
  let page :=
    match command with
    | some c => commandPage environment c
    | none => programPage environment commands
  "\n".intercalate page.lines ++ "\n"

end SurfaceDrift.CommandLine
