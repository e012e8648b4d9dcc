import TestQuery.Console
import TestQuery.Json.Reading
import TestQuery.Json.Writer
import TestQuery.Main
import TestQuery.Plan.Lookup
import TestQuery.Query.Document
import TestQuery.Query.Reading
import TestQuery.Service
import TestQuery.Settings.Reading
import TestQuery.Text
import TestQuery.Proofs.Plan.Meaning
import TestQuery.Proofs.Plan.Shape
import TestQuery.Proofs.Plan.Values
import TestQuery.Proofs.Query.Writing
import TestQuery.Proofs.Plan.Acceptance
import TestQuery.Proofs.Service.Blame
import TestQuery.Proofs.Sql.Relational
import TestQuery.Proofs.Sql.Ownership
import TestQuery.Proofs.Plan.Tests
import TestQuery.Proofs.Plan.Isolation
import TestQuery.Proofs.Sql.Grouping
import TestQuery.Proofs.Plan.Pinning
import TestQuery.Proofs.Query.ClauseOrder
import TestQuery.Proofs.Plan.Settings
import TestQuery.Proofs.Service.Traffic
import TestQuery.Proofs.Plan.Dialects
import TestQuery.Proofs.Query.Placement
import TestQuery.Proofs.Query.Layout
import TestQuery.Proofs.Console
import TestQuery.Proofs.Plan.SessionStatus
import TestQuery.Proofs.Query.Tiling
import TestQuery.Proofs.Plan.Wiring
import TestQuery.Proofs.Query.Assignment
import TestQuery.Proofs.Service.Window
import TestQuery.Proofs.Plan.Dates
import TestQuery.Proofs.Json.Decoding
import TestQuery.Proofs.Service.Rows
import TestQuery.Proofs.Service.DrillDown
import TestQuery.Proofs.Query.Finality
import TestQuery.Proofs.Json.Grammar
import TestQuery.Proofs.Json.Skipping
import TestQuery.Proofs.Settings.Entries
import TestQuery.Proofs.Settings.Overrides
import TestQuery.Proofs.Json.Fields
import TestQuery.Proofs.Json.Taken
import TestQuery.Proofs.Json.Meaning
import TestQuery.Proofs.Json.RoundTrip
import TestQuery.Proofs.Service.Labels
import TestQuery.Proofs.Record.Baggage
import TestQuery.Proofs.Service.Params
import TestQuery.Proofs.Record.Rows
