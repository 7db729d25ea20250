import SurfaceDrift.Algorithm
import SurfaceDrift.Canonical
import SurfaceDrift.Options

/-!
# Canonical documents as an algorithm

The algorithm makes every document canonical. There is nothing to learn, so that it answers
before any fit as well.
-/

namespace SurfaceDrift.Canonicalization

/-- The name of the algorithm. -/
def name : String := "textnormalizer"

/-- The declared options. -/
def options : List OptionSpec := [
  ⟨"collisions", .text, "last_write_wins",
    "Keys that normalize to the same name: 'last_write_wins' or 'reject'"⟩]

/-- The policy that the options spell. -/
def policyOf (params : Params) : Except Error CollisionPolicy := do
  let given ← Options.of name (options.map OptionSpec.key) params
  let spelled ← given.text "collisions" "last_write_wins"
  match CollisionPolicy.ofText? spelled with
  | some policy => return policy
  | none => .error (.configuration (.unknownPolicy name spelled))

/-- The canonical documents, up to the first one that the policy refuses. -/
def transform (policy : CollisionPolicy) (data : List Document) : Except Error Document := do
  return .list (← data.mapM (canonicalWith policy))

/-- The algorithm with its policy chosen. -/
def learner (policy : CollisionPolicy) : Learner Empty where
  name := name
  fit := fun _ state => (.ok (), state)
  transform := fun _ data => (transform policy data).mapError .error

end SurfaceDrift.Canonicalization
