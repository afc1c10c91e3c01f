import Failover.Admin.Handler
import Failover.Admin.Response
import Failover.Admin.Route
import Failover.Candidate
import Failover.Cluster.Basic
import Failover.Cluster.State
import Failover.CommandLine.Arguments
import Failover.CommandLine.Parameter
import Failover.CommandLine.Program
import Failover.Coordinator.Activity
import Failover.Coordinator.Attempt
import Failover.Coordinator.Basic
import Failover.Coordinator.Operation
import Failover.Coordinator.Promotion
import Failover.Coordinator.Recovery
import Failover.Data.Basic
import Failover.Data.Decode
import Failover.Data.Json
import Failover.Data.Numeral
import Failover.Data.Toml
import Failover.Data.TomlTree
import Failover.Drill.Play
import Failover.Drill.Process
import Failover.Drill.Run
import Failover.Drill.Scene
import Failover.Drill.Script
import Failover.Drill.World
import Failover.Event.Basic
import Failover.Event.Log
import Failover.Failure
import Failover.Folder
import Failover.Health.Report
import Failover.Http.MediaType
import Failover.Http.Url
import Failover.Http.Web
import Failover.Main
import Failover.Metrics
import Failover.Moment.Basic
import Failover.Moment.Text
import Failover.Node.Basic
import Failover.Node.Document
import Failover.Number.Fixed
import Failover.Number.Scalar
import Failover.Number.Shortest
import Failover.Probe.Http
import Failover.Proofs.Abreast
import Failover.Proofs.Accounts
import Failover.Proofs.Agreement
import Failover.Proofs.Alone
import Failover.Proofs.Audience
import Failover.Proofs.AuditTrail
import Failover.Proofs.Calendar
import Failover.Proofs.Causes
import Failover.Proofs.Choices
import Failover.Proofs.Comebacks
import Failover.Proofs.Decimals
import Failover.Proofs.Deliveries
import Failover.Proofs.Drills
import Failover.Proofs.Effects
import Failover.Proofs.EventFile
import Failover.Proofs.EventLines
import Failover.Proofs.ExactNumbers
import Failover.Proofs.FailoverTimes
import Failover.Proofs.FailureCounts
import Failover.Proofs.FailureRecords
import Failover.Proofs.Floats
import Failover.Proofs.HealthScores
import Failover.Proofs.HealthSweeps
import Failover.Proofs.Interleaving
import Failover.Proofs.JsonText
import Failover.Proofs.JsonValues
import Failover.Proofs.Layouts
import Failover.Proofs.Maintenance
import Failover.Proofs.Members
import Failover.Proofs.Merits
import Failover.Proofs.Numerals
import Failover.Proofs.Ownership
import Failover.Proofs.PingRounds
import Failover.Proofs.Precedence
import Failover.Proofs.Probes
import Failover.Proofs.Processes
import Failover.Proofs.Promotions
import Failover.Proofs.RecentEvents
import Failover.Proofs.Records
import Failover.Proofs.Recoveries
import Failover.Proofs.Refusals
import Failover.Proofs.Removals
import Failover.Proofs.Requests
import Failover.Proofs.Sections
import Failover.Proofs.SilentPrimary
import Failover.Proofs.SinglePrimary
import Failover.Proofs.Startup
import Failover.Proofs.Strikes
import Failover.Proofs.Tables
import Failover.Proofs.Timestamps
import Failover.Proofs.UsableSettings
import Failover.Proofs.Verdicts
import Failover.Proofs.Watches
import Failover.Proofs.WorkingPrimary
import Failover.Settings.Cluster
import Failover.Settings.Document
import Failover.Settings.Environment
import Failover.Settings.Failover
import Failover.Settings.File
import Failover.Table
import Failover.Text
