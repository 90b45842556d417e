import CommitLanes.Command
import CommitLanes.Command.Console
import CommitLanes.Layout
import CommitLanes.Layout.Archive
import CommitLanes.Log.Reader
import CommitLanes.Main
import CommitLanes.Pass
import CommitLanes.Pass.Handle
import CommitLanes.Pass.Session
import CommitLanes.Printer
import CommitLanes.Proofs.Lane.Tally
import CommitLanes.Proofs.Lane.Ledger
import CommitLanes.Proofs.Lane.Arrival
import CommitLanes.Proofs.Lane.Refinement
import CommitLanes.Proofs.Lane.Gauge
import CommitLanes.Proofs.Lane.Tracker
import CommitLanes.Proofs.Lane.Closing
import CommitLanes.Proofs.Layout.Opening
import CommitLanes.Proofs.Layout.Row
import CommitLanes.Proofs.Layout.Settled
import CommitLanes.Proofs.Layout.Stitching
import CommitLanes.Proofs.Layout.Exclusivity
import CommitLanes.Proofs.Layout.Frontier
import CommitLanes.Proofs.Layout.Packing
import CommitLanes.Proofs.Layout.Accounting
import CommitLanes.Proofs.Layout.Window
import CommitLanes.Proofs.Layout.Placeholders
import CommitLanes.Proofs.Layout.Repetition
import CommitLanes.Proofs.Layout.Memory
import CommitLanes.Proofs.Layout.Choice
import CommitLanes.Proofs.Layout.Widening
import CommitLanes.Proofs.Layout.Archive
import CommitLanes.Proofs.Pass.Pipeline
import CommitLanes.Proofs.Pass.Outlook
import CommitLanes.Proofs.Pass.Progress
import CommitLanes.Proofs.Pass.Undisturbed
import CommitLanes.Proofs.Pass.Placeholders
import CommitLanes.Proofs.Pass.Cutting
import CommitLanes.Proofs.Pass.Standing
import CommitLanes.Proofs.Pass.Ending
import CommitLanes.Proofs.Pass.Stopping
import CommitLanes.Proofs.Pass.Heeding
import CommitLanes.Proofs.Pieces
import CommitLanes.Proofs.Pieces.Shape
import CommitLanes.Proofs.Text.Utf8
import CommitLanes.Proofs.Text.Ascii
import CommitLanes.Proofs.Text.Strict
import CommitLanes.Proofs.Text.Trim
import CommitLanes.Proofs.Text.Order
import CommitLanes.Proofs.Text.LineEnd
import CommitLanes.Proofs.Text.Ruler
import CommitLanes.Proofs.Commit.Message
import CommitLanes.Proofs.Commit.Message.Lines
import CommitLanes.Proofs.Decimal
import CommitLanes.Proofs.Decimal.Numeral
import CommitLanes.Proofs.ObjectId
import CommitLanes.Proofs.ObjectId.Digits
import CommitLanes.Proofs.ObjectId.Slot
import CommitLanes.Proofs.Log.Header
import CommitLanes.Proofs.Log.Grammar
import CommitLanes.Proofs.Log.Record
import CommitLanes.Proofs.Log.LineEnd
import CommitLanes.Proofs.Log.Batch
import CommitLanes.Proofs.Log.Entry
import CommitLanes.Proofs.Log.Roundtrip
import CommitLanes.Proofs.Log.Delivery
import CommitLanes.Proofs.Log.Rewriting
import CommitLanes.Proofs.Pool
import CommitLanes.Proofs.Log.Pooling
import CommitLanes.Proofs.Ordered
import CommitLanes.Proofs.Ref.Catalog
import CommitLanes.Proofs.Repository.Reading
import CommitLanes.Proofs.Repository.Streaming
import CommitLanes.Proofs.Repository.Export
import CommitLanes.Proofs.Printer.Cells
import CommitLanes.Proofs.Printer.Line
import CommitLanes.Proofs.Printer.Room
import CommitLanes.Proofs.Command.Turns
import CommitLanes.Proofs.Command.Console
import CommitLanes.Proofs.Command.Prompt
import CommitLanes.Proofs.Command.Job
import CommitLanes.Proofs.Command.Limit
import CommitLanes.Repository
import CommitLanes.Repository.Stream
import CommitLanes.Settings.Document
