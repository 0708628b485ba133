import WideColumn.Main
import WideColumn.Proofs.Bytes.Escaped
import WideColumn.Proofs.Config.Precedence
import WideColumn.Proofs.Config.Validation
import WideColumn.Proofs.Filter.Depth
import WideColumn.Proofs.Filter.Extension
import WideColumn.Proofs.Filter.Joining
import WideColumn.Proofs.Filter.Layout
import WideColumn.Proofs.Filter.Outcome
import WideColumn.Proofs.Filter.Outline
import WideColumn.Proofs.Filter.Quoting
import WideColumn.Proofs.Filter.RoundTrip
import WideColumn.Proofs.Filter.Strings
import WideColumn.Proofs.Filter.WellFormed
import WideColumn.Proofs.Properties.Composition
import WideColumn.Proofs.Properties.Continuation
import WideColumn.Proofs.Properties.Expansion
import WideColumn.Proofs.Properties.RoundTrip
import WideColumn.Proofs.Properties.TrailingBlanks
import WideColumn.Proofs.Record.Fields
import WideColumn.Proofs.Record.Reading
import WideColumn.Proofs.Service.Faults
import WideColumn.Proofs.Service.GatewayRows
import WideColumn.Proofs.Service.ScanRows
import WideColumn.Proofs.Session.Freshness
import WideColumn.Proofs.Session.ScanCounts
import WideColumn.Proofs.Session.WriteCounts
import WideColumn.Proofs.Stream.Agreement
import WideColumn.Proofs.Stream.Buffering
import WideColumn.Proofs.Stream.Columns
import WideColumn.Proofs.Stream.Creation
import WideColumn.Proofs.Stream.Isolation
import WideColumn.Proofs.Stream.Names
import WideColumn.Proofs.Stream.Pipeline
import WideColumn.Proofs.Stream.Rows
import WideColumn.Proofs.Stream.Updates
import WideColumn.Proofs.Write.Grouping
import WideColumn.Session.Step
