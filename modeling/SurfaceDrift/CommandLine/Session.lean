import SurfaceDrift.CommandLine.Help
import SurfaceDrift.CommandLine.Plan

/-!
# Runs of the program

A run goes from arguments to an `Exit` : the `Report` that it comes to, and what it broke off over
if it could not print it. `answer` makes the plan, `Plan.report` says what is to be printed once
its text is written or refused, and `Plan.exit` what becomes of it on a console that may fail.
Printing comes after writing, so that a run which breaks off has its file already. `runUnder` does
all of this in a tree of files, on a storage that may refuse texts.
-/

namespace SurfaceDrift.CommandLine

open Storage (Fault FileTree Location)

/-- How a run ends. -/
inductive Status where
  | success
  | failure
  | misuse
deriving DecidableEq, Repr

/-- The number that a run leaves behind. -/
def Status.code : Status → Nat
  | success => 0
  | failure => 1
  | misuse => 2

/-- How a run ends, what it prints, and its error. -/
structure Report where
  status : Status
  output : Output
  error : Option String

/-- A run that succeeds. -/
def Report.ok (output : Output) : Report := ⟨.success, output, none⟩

/-- A run that fails. -/
def Report.failed (failure : CommandError) : Report := ⟨.failure, ⟨"", ""⟩, some failure.message⟩

/-- A run whose arguments cannot be read, with a hint where to find help. -/
def Report.misused : Report := ⟨.misuse, ⟨"", misuseText⟩, none⟩

/-! ## Printing -/

/-- What a run prints on. -/
inductive Channel where
  | out
  | notes
deriving DecidableEq, Repr

/-- The name of a channel. -/
def Channel.label : Channel → String
  | out => "stdout"
  | notes => "stderr"

/-- Why a channel fails over a text, if it does not take all of it. -/
abbrev Console := Channel → String → Option Fault

/-- A failure to print. -/
structure Unprinted where
  channel : Channel
  fault : Fault

/-- The failure in words. -/
def Unprinted.message (u : Unprinted) : String :=
  "failed printing to " ++ u.channel.label ++ ": " ++ u.fault.message

/-- Prints a text on a channel. Where there is nothing to print, nothing can fail. -/
def printText (console : Console) (channel : Channel) (text : String) : Option Unprinted :=
  if text.isEmpty then none else (console channel text).map fun fault => ⟨channel, fault⟩

/-- Prints an output : the notes, and then the rest unless they failed. -/
def Output.printOn (o : Output) (console : Console) : Option Unprinted :=
  (printText console .notes o.notes).or (printText console .out o.out)

/-- The end of a run : its report, and the failure to print it that the run broke off over. -/
structure Exit where
  report : Report
  brokenBy : Option Unprinted

/-- The number that a run leaves behind. -/
def Exit.code (e : Exit) : Nat :=
  match e.brokenBy with
  | none => e.report.status.code
  | some _ => 101

/-- The end of a run that has to print its output. -/
def Report.printOn (r : Report) (console : Console) : Exit := ⟨r, r.output.printOn console⟩

/-- The end of a run that ends the same whether its output comes out or not. -/
def Report.regardless (r : Report) : Exit := ⟨r, none⟩

/-! ## Plans -/

/-- The path and the text that a plan writes. -/
def Plan.written? : Plan → Option (String × String)
  | .save path text _ _ => some (path, text)
  | _ => none

/-- The report of a plan, where `written` says how its writing ended. -/
def Plan.report (p : Plan) (written : Except Fault Unit) : Report :=
  match p with
  | .stop failure => .failed failure
  | .print output => .ok output
  | .save _ _ refused output =>
    match written with
    | .ok () => .ok output
    | .error fault => .failed (refused fault)

/-- The end of a run that carried out a plan. -/
def Plan.exit (p : Plan) (written : Except Fault Unit) (console : Console) : Exit :=
  (p.report written).printOn console

/-- What arguments come to : a plan, or the report of a run without one. -/
def answer (v : View) (environment : Option String) (r : Request) : Except Report Plan :=
  match r with
  | .run invocation => .ok (plan v invocation)
  | .version => .error (.ok ⟨versionText, ""⟩)
  | .help command => .error (.ok ⟨helpText environment commandNames command, ""⟩)
  | .misuse => .error .misused

/-! ## Trees -/

/-- The path of a location. -/
def pathOf (l : Location) : String := "/" ++ "/".intercalate l

/-- A tree as it is seen from a directory. -/
def viewIn (t : FileTree) (here : Location) : View := ⟨pathOf here, t.read here⟩

/-- Carries out a plan in a tree, and prints. -/
def Plan.carryOut (p : Plan) (refusals : FileTree.Refusals) (console : Console) (t : FileTree)
    (here : Location) : Exit × FileTree :=
  match p.written? with
  | none => (p.exit (.ok ()) console, t)
  | some (path, text) =>
    match t.write refusals here path text with
    | .ok t => (p.exit (.ok ()) console, t)
    | .error fault => (p.exit (.error fault) console, t)

/-- Runs the program in a directory of a tree, on a storage that may refuse texts and a console
that may fail. Versions, help and misuse are reported as far as they come out. -/
def runUnder (refusals : FileTree.Refusals) (console : Console) (t : FileTree) (here : Location)
    (environment : Option String) (arguments : List String) : Exit × FileTree :=
  match answer (viewIn t here) environment (readArguments environment arguments) with
  | .ok p => p.carryOut refusals console t here
  | .error report => (report.regardless, t)

/-- Runs the program on a storage and a console that take every text. -/
def runIn (t : FileTree) (here : Location) (environment : Option String)
    (arguments : List String) : Report × FileTree :=
  let run := runUnder (fun _ => none) (fun _ _ => none) t here environment arguments
  (run.1.report, run.2)

end SurfaceDrift.CommandLine
