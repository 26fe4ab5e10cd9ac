import SequenceDiagram.Service.Router
import SequenceDiagram.Summary
import SequenceDiagram.Proofs.Document.Outcome
import SequenceDiagram.Proofs.Diagram.Blocks
import SequenceDiagram.Proofs.Diagram.Activations
import SequenceDiagram.Proofs.Layout.Room
import SequenceDiagram.Proofs.Layout.Nesting
import SequenceDiagram.Proofs.Layout.Canvas
import SequenceDiagram.Proofs.Checked.Pipeline
import SequenceDiagram.Proofs.Drawing.Texts
import SequenceDiagram.Proofs.Drawing.Appending
import SequenceDiagram.Proofs.Drawing.Loops
import SequenceDiagram.Proofs.Document.Script
import SequenceDiagram.Proofs.InPlace.Layout
import SequenceDiagram.Proofs.Stored.Naming
import SequenceDiagram.Proofs.Stored.History
import SequenceDiagram.Proofs.Layout.BarNesting
import SequenceDiagram.Proofs.Layout.Tiling
import SequenceDiagram.Proofs.Drawing.Arrows
import SequenceDiagram.Proofs.Document.Joining
import SequenceDiagram.Proofs.Drawing.Slots
import SequenceDiagram.Proofs.Metrics.Fewest
import SequenceDiagram.Proofs.Layout.Settling
import SequenceDiagram.Proofs.Layout.Uprightness
import SequenceDiagram.Proofs.Layout.Spacing
import SequenceDiagram.Proofs.Layout.Direction
import SequenceDiagram.Proofs.Service.Answer
import SequenceDiagram.Proofs.Markup.Coding
