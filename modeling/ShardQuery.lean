import ShardQuery.FiniteMap
import ShardQuery.Text.Letter
import ShardQuery.Text.Blank
import ShardQuery.Text.Quoted
import ShardQuery.Text.Width
import ShardQuery.Binary.Shortest
import ShardQuery.Binary.Literal
import ShardQuery.Data.Type
import ShardQuery.Data.Batch
import ShardQuery.Decimal.Fixed
import ShardQuery.Data.Cast
import ShardQuery.Error
import ShardQuery.Query.Token
import ShardQuery.Query.Parser
import ShardQuery.Query.Explain
import ShardQuery.Json.Writer
import ShardQuery.Json.Reader
import ShardQuery.Json.Decode
import ShardQuery.Membership
import ShardQuery.Table.Plan
import ShardQuery.Wire.Form
import ShardQuery.Source.Files
import ShardQuery.Source.Inference
import ShardQuery.Data.Conform
import ShardQuery.Source.Csv
import ShardQuery.Source.Load
import ShardQuery.Cache
import ShardQuery.Interconnect
import ShardQuery.Endpoints
import ShardQuery.Wire.Parcel
import ShardQuery.Engine
import ShardQuery.Wire.Frame
import ShardQuery.Cluster.Failure
import ShardQuery.Cluster.Barrier
import ShardQuery.Cluster.Channel
import ShardQuery.Cluster.Settings
import ShardQuery.Cluster.Worker
import ShardQuery.Cluster.Coordinator
import ShardQuery.Cluster.Direct
import ShardQuery.Cluster.Live
import ShardQuery.Cluster.Clock
import ShardQuery.Cluster.Halting
import ShardQuery.Shell.Display
import ShardQuery.Shell.Failure
import ShardQuery.Shell.Preferences
import ShardQuery.Shell.Definition
import ShardQuery.Shell.Report
import ShardQuery.Shell.Transcript
import ShardQuery.Shell.Command
import ShardQuery.Shell.Session
import ShardQuery.Shell.Arguments
import ShardQuery.Shell.Usage
import ShardQuery.Shell.Program
import ShardQuery.Main
import ShardQuery.Proofs.Json.Record
import ShardQuery.Proofs.Wire.RoundTrip
import ShardQuery.Proofs.Cluster.Exchange
import ShardQuery.Proofs.Cluster.Attend
import ShardQuery.Proofs.List
import ShardQuery.Proofs.Table.Plan
import ShardQuery.Proofs.Table.Even
import ShardQuery.Proofs.Table.Mapped
import ShardQuery.Proofs.Cluster.Perform
import ShardQuery.Proofs.Query.Rowwise
import ShardQuery.Proofs.Query.Grammar
import ShardQuery.Proofs.Cluster.Launch
import ShardQuery.Proofs.Cluster.Run
import ShardQuery.Proofs.Cluster.Agreement
import ShardQuery.Proofs.Cluster.Refinement
import ShardQuery.Proofs.Cluster.History
import ShardQuery.Proofs.Cluster.Traffic
import ShardQuery.Proofs.Cluster.Inquiry
import ShardQuery.Proofs.Cluster.Orderly
import ShardQuery.Proofs.Cluster.Progress
import ShardQuery.Proofs.Cluster.Record
import ShardQuery.Proofs.Cluster.Isolation
import ShardQuery.Proofs.Cluster.Slicing
import ShardQuery.Proofs.Option
import ShardQuery.Proofs.Source.Columns
import ShardQuery.Proofs.Source.Order
import ShardQuery.Proofs.Cache
import ShardQuery.Proofs.Cache.History
import ShardQuery.Proofs.Cluster.Custody
import ShardQuery.Proofs.Cluster.Ledger
import ShardQuery.Proofs.Cluster.Tended
import ShardQuery.Proofs.Cluster.Settlement
import ShardQuery.Proofs.Cluster.Entry
import ShardQuery.Proofs.Cluster.Clearance
import ShardQuery.Proofs.Cluster.Routing
import ShardQuery.Proofs.Cluster.Answering
import ShardQuery.Proofs.Query.Lexing
import ShardQuery.Proofs.Query.Rendering
import ShardQuery.Proofs.Cluster.Participation
import ShardQuery.Proofs.Cluster.Advance
import ShardQuery.Proofs.Cluster.Admission
import ShardQuery.Proofs.Cluster.Halting
import ShardQuery.Proofs.Cluster.Drain
import ShardQuery.Proofs.Cluster.Stopping
import ShardQuery.Proofs.Binary.Order
import ShardQuery.Proofs.Query.Coercion
import ShardQuery.Proofs.Data.Meaning
import ShardQuery.Proofs.Source.Inferred
import ShardQuery.Proofs.Query.Predicate
import ShardQuery.Proofs.Query.Selection
import ShardQuery.Proofs.Query.Trichotomy
import ShardQuery.Proofs.Query.Planning
import ShardQuery.Proofs.Cluster.Creation
import ShardQuery.Proofs.Cluster.Binding
import ShardQuery.Proofs.Table.Rows
import ShardQuery.Proofs.Cluster.Barrier
import ShardQuery.Proofs.Cluster.Dropping
import ShardQuery.Proofs.Endpoints
import ShardQuery.Proofs.Membership
import ShardQuery.Proofs.Neighbours
import ShardQuery.Proofs.Cluster.Unsent
import ShardQuery.Proofs.Cluster.Spending
import ShardQuery.Proofs.Cluster.Charging
import ShardQuery.Proofs.Cluster.Audit
import ShardQuery.Proofs.Shell.Listing
import ShardQuery.Proofs.Shell.Preferences
