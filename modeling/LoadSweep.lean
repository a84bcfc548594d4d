import LoadSweep.Campaign
import LoadSweep.Campaign.Rehearsal
import LoadSweep.Campaign.Reporting
import LoadSweep.Client.Command
import LoadSweep.Client.Execution
import LoadSweep.Client.Outcome
import LoadSweep.CommandLine.Arguments
import LoadSweep.CommandLine.Completion
import LoadSweep.CommandLine.Perform
import LoadSweep.Comparison
import LoadSweep.Document
import LoadSweep.Document.Scalar
import LoadSweep.Duration
import LoadSweep.Endpoint
import LoadSweep.Fault
import LoadSweep.Json.Magnitude
import LoadSweep.Json.Reader
import LoadSweep.Json.Value
import LoadSweep.Json.Writer
import LoadSweep.LogLine
import LoadSweep.Main
import LoadSweep.Metric
import LoadSweep.Number.Binary
import LoadSweep.Number.Decade
import LoadSweep.Number.Decimal
import LoadSweep.Number.Fixed
import LoadSweep.Number.Shortest
import LoadSweep.Plan
import LoadSweep.Proofs.Campaign.Deliveries
import LoadSweep.Proofs.Campaign.Grid
import LoadSweep.Proofs.Campaign.Handover
import LoadSweep.Proofs.Campaign.Interruption
import LoadSweep.Proofs.Campaign.Measuring
import LoadSweep.Proofs.Campaign.Starting
import LoadSweep.Proofs.Campaign.Visits
import LoadSweep.Proofs.Recording.Actions
import LoadSweep.Proofs.Recording.Calls
import LoadSweep.Proofs.Recording.Intake
import LoadSweep.Proofs.Recording.Reliability
import LoadSweep.Proofs.Recording.Sections
import LoadSweep.Proofs.Series.Alignment
import LoadSweep.Proofs.Series.Datasets
import LoadSweep.Proofs.Series.Offers
import LoadSweep.Proofs.Series.Projections
import LoadSweep.Proofs.Settings.Validity
import LoadSweep.Proofs.Storage.Texts
import LoadSweep.Recording
import LoadSweep.Recording.Journal
import LoadSweep.Report
import LoadSweep.Report.Artifacts
import LoadSweep.Report.Cell
import LoadSweep.Report.Chart
import LoadSweep.Report.Console
import LoadSweep.Report.Markup
import LoadSweep.Report.Page
import LoadSweep.Report.Table
import LoadSweep.Sample
import LoadSweep.Scrape
import LoadSweep.Scrape.Figure
import LoadSweep.Scrape.LatencyTable
import LoadSweep.Series
import LoadSweep.Series.Dataset
import LoadSweep.Settings
import LoadSweep.Settings.Decoding
import LoadSweep.Settings.Encoding
import LoadSweep.Settings.Loading
import LoadSweep.Storage.Path
import LoadSweep.Storage.Tree
import LoadSweep.Sweep
import LoadSweep.Sweep.Declaration
import LoadSweep.Sweep.Point
import LoadSweep.Sweep.RequestRule
import LoadSweep.Text.Blank
import LoadSweep.Text.Digit
import LoadSweep.Text.Utf8
import LoadSweep.Wire.Probe
import LoadSweep.Wire.Request
import LoadSweep.Wire.Unconnected
import LoadSweep.Yaml.Character
import LoadSweep.Yaml.Directive
import LoadSweep.Yaml.Node
import LoadSweep.Yaml.Reader
import LoadSweep.Yaml.Scalar
import LoadSweep.Yaml.Stream
import LoadSweep.Yaml.Token
import LoadSweep.Yaml.Writer
import LoadSweep.Proofs.Campaign.Faults
import LoadSweep.Proofs.Campaign.Planning
import LoadSweep.Proofs.Json.Scalars
import LoadSweep.Proofs.Json.RoundTrip
import LoadSweep.Proofs.Document.Fields
import LoadSweep.Proofs.Series.RoundTrip
import LoadSweep.Proofs.Document.Edits
import LoadSweep.Proofs.Settings.Decoding
import LoadSweep.Proofs.Settings.RoundTrip
import LoadSweep.Proofs.Markup.Entities
import LoadSweep.Proofs.Scrape.Figures
import LoadSweep.Proofs.Markup.Marks
import LoadSweep.Proofs.Markup.Elements
import LoadSweep.Proofs.Report.Cells
import LoadSweep.Proofs.Report.ChartMarks
import LoadSweep.Proofs.Report.ChartContents
import LoadSweep.Proofs.Report.PageMarks
import LoadSweep.Proofs.Report.Tables
import LoadSweep.Proofs.Report.PageContents
import LoadSweep.Proofs.Report.Projected
import LoadSweep.Proofs.Report.Escaping
import LoadSweep.Proofs.Recording.Failures
import LoadSweep.Proofs.Text.Bytes
import LoadSweep.Proofs.Text.Cuts
import LoadSweep.Proofs.Report.Agreement
import LoadSweep.Proofs.Recording.Surplus
import LoadSweep.Proofs.Text.Words
import LoadSweep.Proofs.Scrape.LineEnds
import LoadSweep.Proofs.Scrape.Matches
import LoadSweep.Proofs.Scrape.LatencyTables
import LoadSweep.Proofs.Scrape.Rearrangements
import LoadSweep.Proofs.Scrape.Continuations
import LoadSweep.Proofs.Storage.Files
import LoadSweep.Proofs.Storage.Joins
import LoadSweep.Proofs.Sweep.RequestCounts
import LoadSweep.Proofs.Sweep.Declarations
import LoadSweep.Proofs.Report.Steps
import LoadSweep.Proofs.Report.Artifacts
import LoadSweep.Proofs.Report.Confinement
import LoadSweep.Proofs.Settings.Selection
import LoadSweep.Proofs.Series.Comparisons
import LoadSweep.Proofs.Report.TableColumns
import LoadSweep.Proofs.Report.ChartBars
import LoadSweep.Proofs.Number.Ordering
import LoadSweep.Proofs.Series.Verdicts
import LoadSweep.Proofs.Endpoint.Assignments
import LoadSweep.Proofs.Wire.Requests
import LoadSweep.Proofs.Report.ComparisonLists
import LoadSweep.Proofs.Report.ConsoleComparisons
import LoadSweep.Proofs.Settings.Overrides
import LoadSweep.Proofs.Markup.Escapes
import LoadSweep.Proofs.Recording.LineCounts
import LoadSweep.Proofs.Number.Values
import LoadSweep.Proofs.Number.Rounding
import LoadSweep.Proofs.Number.Powers
import LoadSweep.Proofs.Number.Decades
import LoadSweep.Proofs.Number.Ceilings
import LoadSweep.Proofs.Number.Logarithms
import LoadSweep.Proofs.Report.ChartScale
import LoadSweep.Proofs.Sample.Changes
