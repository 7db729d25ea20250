import SurfaceDrift.CommandLine.Session

/-!
# The program

The outer layer : reads the files that a command may need, makes its plan, writes the one
file of the plan, and prints.
-/

namespace SurfaceDrift

open CommandLine Storage

/-- The fault of an operation on files that failed. -/
def faultOf : IO.Error → Fault
  | .noFileOrDirectory _ _ _ => .missing
  | .inappropriateType _ 20 _ => .notDirectory
  | .inappropriateType _ 21 _ => .isDirectory
  | error => .other (toString error)

/-- The text of a file, or why there is none. -/
def readContent (path : String) : IO Content := do
  match ← (IO.FS.readBinFile path).toBaseIO with
  | .error e => return .error (faultOf e)
  | .ok bytes =>
    match String.fromUTF8? bytes with
    | some text => return .ok text
    | none => return .error .notText

/-- Writes a text to a file. -/
def writeContent (path text : String) : IO (Except Fault Unit) := do
  match ← (IO.FS.writeFile path text).toBaseIO with
  | .error e => return .error (faultOf e)
  | .ok () => return .ok ()

/-- The files that a request may need, as they are seen from a directory. -/
def viewFor (here : String) (r : Request) : IO View := do
  match r with
  | .run i =>
    let paths := (View.paths ⟨here, fun _ => .error .missing⟩ i).eraseDups
    let contents ← paths.mapM fun path => do return (path, ← readContent path)
    return ⟨here, fun path => (contents.lookup path).getD (.error .missing)⟩
  | _ => return ⟨here, fun _ => .error .missing⟩

/-- Prints a text on a channel, and says why if it does not come out. -/
def printContent (channel : Channel) (text : String) : IO (Option Unprinted) := do
  let stream ← match channel with
    | .out => IO.getStdout
    | .notes => IO.getStderr
  let printing : IO Unit := do
    stream.putStr text
    stream.flush
  match ← printing.toBaseIO with
  | .error e => return some ⟨channel, faultOf e⟩
  | .ok () => return none

/-- Prints an output : the notes, and then the rest unless they failed. -/
def printOutput (o : Output) : IO (Option Unprinted) := do
  match ← printContent .notes o.notes with
  | some failure => return some failure
  | none => printContent .out o.out

/-- Says why a run failed or broke off, as far as it comes out, and leaves its number behind. -/
def conclude (e : Exit) : IO UInt32 := do
  if let some error := e.report.error then
    discard (printContent .notes ("Error: " ++ error ++ "\n"))
  if let some failure := e.brokenBy then
    discard (printContent .notes (failure.message ++ "\n"))
  return UInt32.ofNat e.code

/-- Runs the program on arguments. -/
def run (arguments : List String) : IO UInt32 := do
  let environment ← IO.getEnv "APIDRIFT_CONFIG"
  let request := readArguments environment arguments
  let here := (← IO.currentDir).toString
  match answer (← viewFor here request) environment request with
  | .error report =>
    discard (printOutput report.output)
    conclude report.regardless
  | .ok p =>
    let written ← match p.written? with
      | none => pure (.ok ())
      | some (path, text) => writeContent path text
    let report := p.report written
    conclude ⟨report, ← printOutput report.output⟩

end SurfaceDrift

/-- The entry of the program. -/
def main (arguments : List String) : IO UInt32 := SurfaceDrift.run arguments
