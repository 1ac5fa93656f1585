import Cron.Text
import Cron.Text.Identifier
import Cron.Decimal
import Cron.Field
import Cron.Pattern
import Cron.Pattern.Reader
import Cron.Expression
import Cron.Calendar.Date
import Cron.Calendar.Instant
import Cron.Schedule
import Cron.Preview
import Cron.Description
import Cron.Json.Token
import Cron.Json.Value
import Cron.Exchange
import Cron.Hcl.Number
import Cron.Hcl.Token
import Cron.Hcl.Value
import Cron.Hcl.Body
import Cron.Settings
import Cron.CommandLine.Arguments
import Cron.CommandLine.Report
import Cron.Main
import Cron.Proofs.Text
import Cron.Proofs.Pattern.Number
import Cron.Proofs.Pattern.Grammar
import Cron.Proofs.Pattern.Reading
import Cron.Proofs.Schedule.Reading
import Cron.Proofs.Calendar.DayLine
import Cron.Proofs.Calendar.MinuteLine
import Cron.Proofs.Calendar.Stretches
import Cron.Proofs.Preview.NextRuns
import Cron.Proofs.Verdict
import Cron.Proofs.Text.Words
import Cron.Proofs.Expression.Line
import Cron.Proofs.Pattern.Trimming
import Cron.Proofs.Schedule.Written
import Cron.Proofs.Calendar.Cycle
import Cron.Proofs.Preview.Cycle
import Cron.Proofs.Calendar.WeekDays
import Cron.Proofs.Calendar.Values
import Cron.Proofs.Pattern.Numbers
import Cron.Proofs.Pattern.Exact
import Cron.Proofs.Pattern.Saturation
import Cron.Proofs.Schedule.Dead
import Cron.Proofs.Schedule.Barren
import Cron.Proofs.Schedule.Unchecked
import Cron.Proofs.Calendar.YearlyDay
import Cron.Proofs.Preview.Yearly
import Cron.Proofs.Preview.Weekly
import Cron.Proofs.Preview.Pages
import Cron.Proofs.Pattern.Bounds
import Cron.Proofs.Pattern.Refusal
import Cron.Proofs.Pattern.Writing
import Cron.Proofs.Json.Scanning
import Cron.Proofs.Json.Parsing
import Cron.Proofs.Exchange
import Cron.Proofs.Settings
import Cron.Proofs.Settings.Given
import Cron.Proofs.Settings.Loading
import Cron.Proofs.CommandLine.Arguments
import Cron.Proofs.CommandLine.Report
import Cron.Proofs.Description.Words
import Cron.Proofs.Description.Reading
import Cron.Proofs.Description.Plural
