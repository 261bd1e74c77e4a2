import SiteTrial.Main
import SiteTrial.Demo.Site
import SiteTrial.Rehearsal.Browser
import SiteTrial.Proofs.Run.Action
import SiteTrial.Proofs.Run.Log
import SiteTrial.Proofs.Told
import SiteTrial.Proofs.Run.Accounts
import SiteTrial.Proofs.Run.Shared
import SiteTrial.Proofs.Run.Conclusion
import SiteTrial.Proofs.Run.Ledger
import SiteTrial.Proofs.Config.Loaded
import SiteTrial.Proofs.Run.Attribution
import SiteTrial.Proofs.Report.Analysis
import SiteTrial.Proofs.Run.Independence
import SiteTrial.Proofs.Files.Append
import SiteTrial.Proofs.Decimal.Normal
import SiteTrial.Proofs.Json.Line
import SiteTrial.Proofs.Sample.Record
import SiteTrial.Proofs.Value.Number
import SiteTrial.Proofs.Sample.File
import SiteTrial.Proofs.Run.Persistence
import SiteTrial.Proofs.Json.Tokens
import SiteTrial.Proofs.Run.Rehearsed
import SiteTrial.Proofs.Sample.Malformed
import SiteTrial.Proofs.Report.Recorded
import SiteTrial.Proofs.Statistics.Search
import SiteTrial.Proofs.Statistics.Row
import SiteTrial.Proofs.Statistics.Merge
import SiteTrial.Proofs.Statistics.Sorted
import SiteTrial.Proofs.Statistics.Exact
import SiteTrial.Proofs.Decimal.Order
import SiteTrial.Proofs.Comparison.Mirror
import SiteTrial.Proofs.Comparison.Measured
import SiteTrial.Proofs.Sample.Projection
import SiteTrial.Proofs.Json.Alone
import SiteTrial.Proofs.Sample.Append
import SiteTrial.Proofs.Comparison.Regression
import SiteTrial.Proofs.Comparison.Values
import SiteTrial.Proofs.Report.Sides
import SiteTrial.Proofs.Config.Check
import SiteTrial.Proofs.Config.Unguarded
import SiteTrial.Proofs.Scenario.Library
import SiteTrial.Proofs.Scenario.Malformed
import SiteTrial.Proofs.Value.Kind
import SiteTrial.Proofs.Page.Ends
import SiteTrial.Proofs.Run.Script
import SiteTrial.Proofs.Scenario.Typed
import SiteTrial.Proofs.Run.Survivable
import SiteTrial.Proofs.Value.Range
import SiteTrial.Proofs.Decimal.Finite
import SiteTrial.Proofs.Files.Frame
import SiteTrial.Proofs.Run.Whole
import SiteTrial.Proofs.CommandLine.Status
import SiteTrial.Proofs.Run.Permits
import SiteTrial.Proofs.Statistics.Monotone
import SiteTrial.Proofs.Comparison.Verdict
import SiteTrial.Proofs.Comparison.Slower
import SiteTrial.Proofs.Decimal.Rounding
import SiteTrial.Proofs.Decimal.Operations
import SiteTrial.Proofs.Statistics.Doubles
import SiteTrial.Proofs.Statistics.Range
import SiteTrial.Proofs.Statistics.Moderate
import SiteTrial.Proofs.Comparison.Score
import SiteTrial.Proofs.Comparison.Range
import SiteTrial.Proofs.Report.Range
import SiteTrial.Proofs.Statistics.Flat
import SiteTrial.Proofs.Statistics.Percentile
import SiteTrial.Proofs.Statistics.Figures
import SiteTrial.Proofs.Statistics.Shift
import SiteTrial.Proofs.Comparison.Points
import SiteTrial.Proofs.Scenario.Placeholder
import SiteTrial.Proofs.Page.Failing
import SiteTrial.Proofs.Run.Stopped
import SiteTrial.Proofs.Run.Along
import SiteTrial.Proofs.Run.Fresh
import SiteTrial.Proofs.Run.Pauses
import SiteTrial.Proofs.Scenario.Blame
import SiteTrial.Proofs.Report.Bounds
import SiteTrial.Proofs.Config.Variables
import SiteTrial.Proofs.Config.Account
import SiteTrial.Proofs.Config.Settings
import SiteTrial.Proofs.Action.SignIn
import SiteTrial.Proofs.Action.Dashboard
import SiteTrial.Proofs.Sample.Spans
import SiteTrial.Proofs.Action.Registry
import SiteTrial.Proofs.Run.BaseAddress
import SiteTrial.Proofs.Action.Submission
import SiteTrial.Proofs.Action.Phases
import SiteTrial.Sample.Requests
import SiteTrial.Proofs.Sample.Collected
import SiteTrial.Proofs.Sample.Marks
