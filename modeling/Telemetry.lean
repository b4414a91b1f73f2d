import Telemetry.Tags.Query
import Telemetry.Text.Utf8
import Telemetry.Metadata
import Telemetry.Point.Basic
import Telemetry.Context
import Telemetry.Line
import Telemetry.LoadAverage
import Telemetry.Text.CaseFold
import Telemetry.Text.Category
import Telemetry.Text.Property
import Telemetry.Pattern.Basic
import Telemetry.Pattern.Escape
import Telemetry.Pattern.Class
import Telemetry.Pattern.Reader
import Telemetry.Watch.Basic
import Telemetry.Watch.Cycle
import Telemetry.Dispatcher
import Telemetry.Output
import Telemetry.Output.Arrivals
import Telemetry.Health.Page
import Telemetry.Collector.Interval
import Telemetry.Collector.Registry
import Telemetry.Collector.Ticker
import Telemetry.Schedule.IntervalJob
import Telemetry.Schedule.ProgramJob
import Telemetry.Schedule.World
import Telemetry.Program.Directory
import Telemetry.Program.Tree
import Telemetry.Yaml.Glyph
import Telemetry.Yaml.Scalar
import Telemetry.Yaml.Layout
import Telemetry.Document
import Telemetry.Yaml.Node
import Telemetry.Settings.Basic
import Telemetry.Settings.Loading
import Telemetry.Agent
import Telemetry.CommandLine
import Telemetry.Main
import Telemetry.Stream
import Telemetry.Proofs.Cleaning
import Telemetry.Proofs.Tables
import Telemetry.Proofs.Canonical
import Telemetry.Proofs.Stream
import Telemetry.Proofs.Log
import Telemetry.Proofs.CanonicalStream
import Telemetry.Proofs.Pool
import Telemetry.Proofs.Tracked
import Telemetry.Proofs.Passes
import Telemetry.Proofs.Identity
import Telemetry.Proofs.Finite
import Telemetry.Proofs.Resolved
import Telemetry.Proofs.ProcessReport
import Telemetry.Proofs.Visits
import Telemetry.Proofs.WatchList
import Telemetry.Proofs.Rounds
import Telemetry.Proofs.TagCleaning
import Telemetry.Proofs.Resolution
import Telemetry.Proofs.Steady
import Telemetry.Proofs.Moves
import Telemetry.Proofs.Happenings
import Telemetry.Proofs.Clock
import Telemetry.Proofs.Rhythm
import Telemetry.Proofs.Cadence
import Telemetry.Proofs.Beats
import Telemetry.Proofs.SelfReport
import Telemetry.Proofs.LifeCycle
import Telemetry.Proofs.Undisturbed
import Telemetry.Proofs.Isolation
import Telemetry.Proofs.RewrittenKeys
import Telemetry.Proofs.Splitting
import Telemetry.Proofs.Numerals
import Telemetry.Line.Layout
import Telemetry.Proofs.TagTokens
import Telemetry.Proofs.TagGrammar
import Telemetry.Proofs.LineProtocol
import Telemetry.Program.Yield
import Telemetry.Schedule.ProgramCourse
import Telemetry.Proofs.Pieces
import Telemetry.Proofs.ProgramMoves
import Telemetry.Proofs.ProgramOutput
import Telemetry.Proofs.Buffering
import Telemetry.Proofs.Delivery
import Telemetry.Proofs.Encoding
import Telemetry.Proofs.JsonText
import Telemetry.Proofs.OneLine
import Telemetry.Proofs.Framing
import Telemetry.Proofs.Nameless
import Telemetry.Proofs.Series
import Telemetry.Proofs.Desertion
import Telemetry.Proofs.LastRuns
import Telemetry.Proofs.BadTokens
import Telemetry.Proofs.ValidLines
import Telemetry.Proofs.Cancellation
import Telemetry.Schedule.Shutdown
import Telemetry.Proofs.Shutdown
import Telemetry.CallSite
import Telemetry.Proofs.TagText
import Telemetry.Proofs.Substitution
import Telemetry.Proofs.Calls
import Telemetry.Proofs.WriteOnce
import Telemetry.Proofs.Accounting
import Telemetry.Proofs.Readable
import Telemetry.Proofs.Attribution
import Telemetry.Proofs.Limits
import Telemetry.Proofs.Rejection
import Telemetry.Proofs.CharacterClasses
import Telemetry.Proofs.Runs
import Telemetry.Proofs.Conservation
import Telemetry.Proofs.QueueGauge
import Telemetry.Proofs.Nearest
import Telemetry.Proofs.Spelling
import Telemetry.Proofs.Exact
import Telemetry.Proofs.StateLine
import Telemetry.Proofs.Arguments
import Telemetry.Program.Listing
import Telemetry.Proofs.Registration
import Telemetry.Schedule.Supervision
import Telemetry.Proofs.Restarts
import Telemetry.Proofs.Succession
import Telemetry.Proofs.Supervision
import Telemetry.Proofs.Lending
import Telemetry.Proofs.TagAlgebra
