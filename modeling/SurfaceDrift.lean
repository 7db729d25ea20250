import SurfaceDrift.LogLevel
import SurfaceDrift.Main
import SurfaceDrift.Comparison.Workers
import SurfaceDrift.Proofs.Fields
import SurfaceDrift.Proofs.Density
import SurfaceDrift.Proofs.Clustering.Mapping
import SurfaceDrift.Proofs.Pipeline.Fold
import SurfaceDrift.Proofs.Catalog
import SurfaceDrift.Proofs.Comparison.Workers
import SurfaceDrift.Proofs.Comparison.Outcomes
import SurfaceDrift.Proofs.Decimal.Order
import SurfaceDrift.Proofs.Options
import SurfaceDrift.Proofs.Builtin.Answers
import SurfaceDrift.Proofs.Builtin.Errors
import SurfaceDrift.Proofs.Pipeline.Composition
import SurfaceDrift.Proofs.Density.Reach
import SurfaceDrift.Proofs.Text.Edits
import SurfaceDrift.Proofs.Clustering.Copies
import SurfaceDrift.Proofs.Canonical
import SurfaceDrift.Proofs.Surface.Canonical
import SurfaceDrift.Proofs.Pipeline.Members
import SurfaceDrift.Proofs.Builtin.History
import SurfaceDrift.Proofs.Terms.Bags
import SurfaceDrift.Proofs.Terms.Run
import SurfaceDrift.Proofs.Terms.Symmetry
import SurfaceDrift.Proofs.Pipeline.Rows
import SurfaceDrift.Proofs.Catalog.History
import SurfaceDrift.Proofs.Parameters
import SurfaceDrift.Proofs.Toml.Ordered
import SurfaceDrift.Proofs.Configuration
import SurfaceDrift.Proofs.Pipeline.Display
import SurfaceDrift.Proofs.Comparison.Written
import SurfaceDrift.Proofs.CommandLine.Discovery
import SurfaceDrift.Proofs.CommandLine.Frame
import SurfaceDrift.Proofs.Density.Numbering
import SurfaceDrift.Proofs.Guard
import SurfaceDrift.Proofs.Text.Scripts
import SurfaceDrift.Proofs.Canonical.NormalForm
import SurfaceDrift.Proofs.Canonical.Levels
import SurfaceDrift.Proofs.Surface.Places
import SurfaceDrift.Proofs.Canonical.Underscores
import SurfaceDrift.Proofs.Decimal.Square
import SurfaceDrift.Proofs.Density.Carried
import SurfaceDrift.Proofs.Density.Reordered
import SurfaceDrift.Proofs.Clustering.Groups
import SurfaceDrift.Proofs.Text.Bytes
import SurfaceDrift.Proofs.Text.Runs
import SurfaceDrift.Proofs.Terms.Columns
import SurfaceDrift.Proofs.Scaling.Run
import SurfaceDrift.Proofs.Pipeline.Parsing
import SurfaceDrift.Proofs.Surface.Annotated
import SurfaceDrift.Proofs.Canonical.Prose
import SurfaceDrift.Proofs.Document.Traversals
import SurfaceDrift.Proofs.Json.RoundTrip
import SurfaceDrift.Proofs.Options.Integers
import SurfaceDrift.Proofs.Options.Words
