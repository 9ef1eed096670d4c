import Columnar.Text.Blank
import Columnar.Text.Hex
import Columnar.Text.Quoted
import Columnar.Text.Utf8
import Columnar.Text.Visible
import Columnar.Number.Shortest
import Columnar.Number.Decimal
import Columnar.Time.DateTime
import Columnar.Json.Parser
import Columnar.Json.Printer
import Columnar.DataType.Expression
import Columnar.DataType.Validity
import Columnar.Cell.Scalar
import Columnar.Column.ChildCounts
import Columnar.Column.Read
import Columnar.Column.Write
import Columnar.RecordEncoder
import Columnar.Feed.Values
import Columnar.Feed.Lines
import Columnar.Consumer.LineWriter
import Columnar.Session.Pipeline
import Columnar.Session.Run
import Columnar.Session.Lines
import Columnar.OutputName
import Columnar.Proofs.DataType.WellFormed
import Columnar.Proofs.DataType.Nodes
import Columnar.Proofs.Column.Parts
import Columnar.Proofs.Column.Leaf
import Columnar.Proofs.Column.Shape
import Columnar.Proofs.Column.WriteShape
import Columnar.Proofs.Column.Stored
import Columnar.Proofs.Column.Plan
import Columnar.Proofs.Column.Layout
import Columnar.Proofs.Column.ChildSlots
import Columnar.Proofs.Column.Free
import Columnar.Proofs.Column.LayoutWrite
import Columnar.Proofs.Json.Members
import Columnar.Proofs.RecordBatch.Layout
import Columnar.Proofs.RecordBatch.Rows
import Columnar.Proofs.Session.Accounting
import Columnar.Proofs.Session.Transitions
import Columnar.Proofs.Session.Conservation
import Columnar.Proofs.Session.OverflowPolicy
import Columnar.Proofs.Json.Veil
import Columnar.Proofs.Column.FreeWrite
import Columnar.Proofs.Column.Flags
import Columnar.Proofs.RecordBatch.FailedWrite
import Columnar.Proofs.Column.Anchored
import Columnar.Proofs.Column.Preserved
import Columnar.Proofs.Column.FrameWrite
import Columnar.Proofs.Column.Access
import Columnar.Proofs.Column.ExactIndex
import Columnar.Proofs.RecordBatch.CommittedRows
import Columnar.Proofs.RecordBatch.Bounds
import Columnar.Proofs.RecordBatch.ExactIndex
import Columnar.Proofs.Session.Bounds
import Columnar.Proofs.Session.Offers
import Columnar.Proofs.Text.Digits
import Columnar.Proofs.Number.DecimalValue
import Columnar.Proofs.Number.DecimalGrammar
import Columnar.Proofs.Number.Decimal
import Columnar.Proofs.Number.Rounding
import Columnar.Proofs.Number.Binary64
import Columnar.Proofs.Time.Calendar
import Columnar.Proofs.Time.DateTime
import Columnar.Proofs.Column.ReadBack
import Columnar.Proofs.RecordBatch.ReadBack
import Columnar.Encoder
import Columnar.Proofs.Feed.Lines
import Columnar.Proofs.Column.Allocation
import Columnar.Proofs.Column.Encoder
import Columnar.Proofs.Column.Policies
import Columnar.Proofs.RecordBatch.Allocation
import Columnar.Proofs.RecordBatch.Policies
import Columnar.Proofs.Session.Trials
import Columnar.Proofs.Session.Outcomes
import Columnar.Proofs.Session.Failures
import Columnar.Proofs.Session.Deferral
import Columnar.Proofs.Column.Timestamps
import Columnar.Proofs.Session.Cuts
import Columnar.Proofs.Feed.Edits
import Columnar.Proofs.Session.Noise
import Columnar.Proofs.Session.Termination
import Columnar.Proofs.Column.Visits
import Columnar.Proofs.RecordBatch.FirstFault
import Columnar.Proofs.Column.Alike
import Columnar.Proofs.RecordBatch.Alike
import Columnar.Proofs.Column.Growth
import Columnar.Consumer.PieceWriter
import Columnar.Proofs.Json.Printer
import Columnar.Proofs.Consumer.LineWriter
import Columnar.Proofs.Consumer.PieceWriter
import Columnar.Proofs.Session.Tally
import Columnar.Proofs.Column.FlagHistory
import Columnar.Proofs.Column.Snapshots
import Columnar.Proofs.RecordBatch.Snapshots
