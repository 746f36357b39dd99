import Redraw.Text.Words
import Redraw.Text.Quoted
import Redraw.Decimal.Notation
import Redraw.Decimal.Literal
import Redraw.Json.Text
import Redraw.Json.Reader
import Redraw.Json.Value
import Redraw.Chart.Input
import Redraw.Chart.ClassName
import Redraw.Status.Board
import Redraw.Strategy.Config
import Redraw.Gate.Decision
import Redraw.Draw.Request
import Redraw.Dashboard.Operation
import Redraw.Wire.Variants
import Redraw.Wire.Strategy
import Redraw.Wire.Attempt
import Redraw.Wire.Telemetry
import Redraw.Wire.Hooks
import Redraw.Proofs.History
import Redraw.Proofs.Attempt.Moves
import Redraw.Proofs.Attempt.Numbering
import Redraw.Proofs.Attempt.Consistency
import Redraw.Proofs.Attempt.Verdict
import Redraw.Proofs.Gate.LastSubmission
import Redraw.Proofs.Chart.Agreement
import Redraw.Proofs.Chart.Independence
import Redraw.Proofs.Attempt.Completions
import Redraw.Proofs.Gate.Blocking
import Redraw.Proofs.Telemetry.Timing
import Redraw.Proofs.Chart.Removal
import Redraw.Proofs.Attempt.Announcements
import Redraw.Proofs.Attempt.Accounting
import Redraw.Proofs.Status.Signals
import Redraw.Proofs.Attempt.Dropping
import Redraw.Proofs.Draw.Acceptance
import Redraw.Proofs.Gate.Tracked
import Redraw.Proofs.Decimal.Finite
import Redraw.Proofs.Json.Literal
import Redraw.Proofs.Json.Quoted
import Redraw.Proofs.Json.Nesting
import Redraw.Proofs.Json.Layout
import Redraw.Proofs.Wire.Records
import Redraw.Proofs.Wire.RoundTrip
import Redraw.Proofs.Wire.Encodings
import Redraw.Proofs.Wire.Config
import Redraw.Proofs.Wire.Telemetry
import Redraw.Proofs.Gate.Changes
import Redraw.Proofs.Gate.Resubmission
import Redraw.Proofs.Gate.Override
import Redraw.Proofs.Attempt.ResultChange
import Redraw.Proofs.Attempt.Beginning
import Redraw.Proofs.Gate.Exactness
import Redraw.Proofs.Text.Ascii
import Redraw.Proofs.Text.Words
import Redraw.Proofs.Text.SnakeCase
import Redraw.Proofs.Text.SnakeNames
import Redraw.Proofs.Chart.ClassName
import Redraw.Proofs.Strategy.Relabeling
import Redraw.Proofs.Strategy.Registrations
import Redraw.Proofs.Strategy.Rows
import Redraw.Proofs.Observers.Attendance
import Redraw.Proofs.Observers.Unobserved
