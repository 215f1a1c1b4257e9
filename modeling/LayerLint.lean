import LayerLint.Main
import LayerLint.Proofs.Command.Verdict
import LayerLint.Proofs.Engine.Defaults
import LayerLint.Proofs.Engine.History
import LayerLint.Proofs.Engine.Order
import LayerLint.Proofs.Graph.Declared
import LayerLint.Proofs.Graph.Invariant
import LayerLint.Proofs.Engine.Selection
import LayerLint.Proofs.Cycle.Colours
import LayerLint.Proofs.Cycle.Course
import LayerLint.Proofs.Engine.Safety
import LayerLint.Proofs.Cycle.Deletion
import LayerLint.Proofs.Engine.Deletion
import LayerLint.Proofs.Config.Usability
import LayerLint.Proofs.Import.Growth
import LayerLint.Proofs.Graph.Independence
import LayerLint.Proofs.Engine.Messages
import LayerLint.Proofs.Report.Reordered
import LayerLint.Proofs.Boundary
import LayerLint.Proofs.Engine.Failure
import LayerLint.Proofs.Layer.BestMatch
import LayerLint.Proofs.Import.Names
import LayerLint.Proofs.Path.Written
import LayerLint.Proofs.Import.Relative
import LayerLint.Proofs.Descriptor.Document
import LayerLint.Proofs.Config.Policy
import LayerLint.Proofs.Config.Sources
import LayerLint.Proofs.Output.Annotations
import LayerLint.Proofs.Path.Settled
import LayerLint.Proofs.Engine.Removal
import LayerLint.Proofs.Graph.Sides
import LayerLint.Proofs.Cycle.Rotation
import LayerLint.Proofs.Graph.Views
