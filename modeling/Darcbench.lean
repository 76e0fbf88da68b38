import Darcbench.Agent.Antisymmetry
import Darcbench.Agent.Comparability
import Darcbench.Agent.Comparison
import Darcbench.Agent.Dashboard
import Darcbench.Agent.Drain
import Darcbench.Agent.DryRun
import Darcbench.Agent.Egress
import Darcbench.Agent.Emitting
import Darcbench.Agent.Ending
import Darcbench.Agent.Endurance
import Darcbench.Agent.EventStream
import Darcbench.Agent.Faults
import Darcbench.Agent.Finalise
import Darcbench.Agent.FindReference
import Darcbench.Agent.Follow
import Darcbench.Agent.LoadGuard
import Darcbench.Agent.ModuleLoop
import Darcbench.Agent.Observer
import Darcbench.Agent.Placeholders
import Darcbench.Agent.Preflight
import Darcbench.Agent.Progress
import Darcbench.Agent.Proxy
import Darcbench.Agent.Prune
import Darcbench.Agent.ReadBack
import Darcbench.Agent.Reconcile
import Darcbench.Agent.Replayed
import Darcbench.Agent.Retained
import Darcbench.Agent.RunHandle
import Darcbench.Agent.RunIndex
import Darcbench.Agent.RunManager
import Darcbench.Agent.Server
import Darcbench.Agent.Session
import Darcbench.Agent.Stored
import Darcbench.Agent.Uninstall
import Darcbench.Agent.Unmeasured
import Darcbench.Agent.UrlPrefix
import Darcbench.Agent.View
import Darcbench.Agent.Watchdog
import Darcbench.Inventory.Codec
import Darcbench.Inventory.DiskStats
import Darcbench.Inventory.Memory
import Darcbench.Inventory.OneInterval
import Darcbench.Inventory.Telemetry
import Darcbench.Inventory.Types
import Darcbench.Modules.Answered
import Darcbench.Modules.Calibration
import Darcbench.Modules.Container
import Darcbench.Modules.ControlRead
import Darcbench.Modules.DatabaseCache
import Darcbench.Modules.DatabaseOltp
import Darcbench.Modules.Downloads
import Darcbench.Modules.Exchange
import Darcbench.Modules.ExternalSession
import Darcbench.Modules.Filesystem
import Darcbench.Modules.FixtureImport
import Darcbench.Modules.FixtureText
import Darcbench.Modules.Framing
import Darcbench.Modules.HeadText
import Darcbench.Modules.HttpClient
import Darcbench.Modules.LoadGen
import Darcbench.Modules.MemoryBandwidth
import Darcbench.Modules.MemoryPlan
import Darcbench.Modules.NetworkTransfer
import Darcbench.Modules.NoBody
import Darcbench.Modules.NothingLost
import Darcbench.Modules.OneReport
import Darcbench.Modules.OneResponse
import Darcbench.Modules.OutlierFlags
import Darcbench.Modules.PointerChase
import Darcbench.Modules.PostReport
import Darcbench.Modules.Quiet
import Darcbench.Modules.Repetitions
import Darcbench.Modules.Reported
import Darcbench.Modules.RowsReported
import Darcbench.Modules.RunArgs
import Darcbench.Modules.RuntimeExec
import Darcbench.Modules.RuntimeOutput
import Darcbench.Modules.SplitMix
import Darcbench.Modules.SteadyState
import Darcbench.Modules.StorageFill
import Darcbench.Modules.StoragePlan
import Darcbench.Modules.Stranger
import Darcbench.Modules.TransferExceeds
import Darcbench.Modules.TransferFits
import Darcbench.Modules.TransferPlan
import Darcbench.Modules.Undisturbed
import Darcbench.Modules.Variance
import Darcbench.Modules.WebOrigin
import Darcbench.Modules.WordpressFixture
import Darcbench.Protocol.Breakdown
import Darcbench.Protocol.ChangesNoted
import Darcbench.Protocol.Codec
import Darcbench.Protocol.Comparison
import Darcbench.Protocol.Display
import Darcbench.Protocol.EventCodec
import Darcbench.Protocol.Events
import Darcbench.Protocol.Exact
import Darcbench.Protocol.External
import Darcbench.Protocol.Float
import Darcbench.Protocol.GrantedPlan
import Darcbench.Protocol.Ids
import Darcbench.Protocol.Metrics
import Darcbench.Protocol.OrderBlind
import Darcbench.Protocol.Outliers
import Darcbench.Protocol.ParseFloat
import Darcbench.Protocol.Rounding
import Darcbench.Protocol.Run
import Darcbench.Protocol.SessionOffer
import Darcbench.Protocol.SessionToken
import Darcbench.Protocol.Stats
import Darcbench.Protocol.Summarize
import Darcbench.Protocol.Value
import Darcbench.Report.Agreement
import Darcbench.Report.Bundle
import Darcbench.Report.Codec
import Darcbench.Report.Diagnosis
import Darcbench.Report.Escaping
import Darcbench.Report.Html
import Darcbench.Report.Rankability
import Darcbench.Report.Reading
import Darcbench.Report.Recorded
import Darcbench.Report.Redaction
import Darcbench.Report.ScoresAgree
import Darcbench.Report.ScoresMatch
import Darcbench.Report.Signing
import Darcbench.Report.StandIns
import Darcbench.Report.Tampering
import Darcbench.Report.Validate
import Darcbench.Report.Verification
import Darcbench.Scoring.Anchors
import Darcbench.Scoring.Category
import Darcbench.Scoring.Codec
import Darcbench.Scoring.Conservation
import Darcbench.Scoring.Contributions
import Darcbench.Scoring.Cycles
import Darcbench.Scoring.DirectionBlind
import Darcbench.Scoring.EmptyCycle
import Darcbench.Scoring.ExactCard
import Darcbench.Scoring.ExactMeans
import Darcbench.Scoring.FiniteCard
import Darcbench.Scoring.Interrupted
import Darcbench.Scoring.Model
import Darcbench.Scoring.Monotone
import Darcbench.Scoring.Normalise
import Darcbench.Scoring.Outcomes
import Darcbench.Scoring.Reference
import Darcbench.Scoring.RelatedCards
import Darcbench.Scoring.Remeasured
import Darcbench.Scoring.Retention
import Darcbench.Scoring.Scaling
import Darcbench.Scoring.ScopedKeys
import Darcbench.Scoring.Series
import Darcbench.Scoring.Stability
import Darcbench.Scoring.Sustained
import Darcbench.Scoring.WeakLink
import Darcbench.Support.BTreeMap
import Darcbench.Support.Blanks
import Darcbench.Support.Blocks
import Darcbench.Support.Broadcast
import Darcbench.Support.Codec
import Darcbench.Support.Columns
import Darcbench.Support.Dedup
import Darcbench.Support.Directives
import Darcbench.Support.Fields
import Darcbench.Support.FileTree
import Darcbench.Support.Files
import Darcbench.Support.Flags
import Darcbench.Support.GeometricMean
import Darcbench.Support.Html
import Darcbench.Support.IpAddr
import Darcbench.Support.Json
import Darcbench.Support.JsonText
import Darcbench.Support.Latest
import Darcbench.Support.Lines
import Darcbench.Support.Lists
import Darcbench.Support.Maxima
import Darcbench.Support.OrderStatistics
import Darcbench.Support.Paths
import Darcbench.Support.Places
import Darcbench.Support.Reads
import Darcbench.Support.Replay
import Darcbench.Support.Retention
import Darcbench.Support.Rounding
import Darcbench.Support.Runs
import Darcbench.Support.Saturating
import Darcbench.Support.SingleCycle
import Darcbench.Support.Spread
import Darcbench.Support.Streaks
import Darcbench.Support.Table
import Darcbench.Support.Tally
import Darcbench.Support.TimeText
import Darcbench.Support.Words
import Darcbench.Support.Xml
import Darcbench.Web.Delivery
import Darcbench.Web.Metrics
import Darcbench.Web.Radar
import Darcbench.Web.RunStream
import Darcbench.Web.RunView
