import MeterNode.Bench.Hardware
import MeterNode.Bench.Machine
import MeterNode.Bench.Meter
import MeterNode.Bench.Radio
import MeterNode.Bench.Transport
import MeterNode.Bench.World
import MeterNode.Board.Desk
import MeterNode.Board.Device
import MeterNode.Board.Lookups
import MeterNode.Board.Processor
import MeterNode.Board.Session
import MeterNode.Board.Slots
import MeterNode.Board.Stage
import MeterNode.Board.Startup
import MeterNode.Board.Station
import MeterNode.Board.Task
import MeterNode.Board.TimeClient
import MeterNode.Board.Worker
import MeterNode.Calendar.Civil
import MeterNode.Calendar.LocalTime
import MeterNode.Connection.Address
import MeterNode.Connection.Basic
import MeterNode.Connection.Endpoint
import MeterNode.Connection.Error
import MeterNode.Connection.Event
import MeterNode.Connection.Registry
import MeterNode.Connection.State
import MeterNode.Cpu.Speed
import MeterNode.Effect
import MeterNode.Http.Message
import MeterNode.Http.Reading
import MeterNode.Log
import MeterNode.Prog
import MeterNode.Proofs.Board.Handles
import MeterNode.Proofs.Board.Orders
import MeterNode.Proofs.Board.Slots
import MeterNode.Proofs.Board.Tagging
import MeterNode.Proofs.Board.Workers
import MeterNode.Proofs.Calendar.Gregorian
import MeterNode.Proofs.Calendar.LocalTime
import MeterNode.Proofs.Calendar.SummerTime
import MeterNode.Proofs.Calendar.Words
import MeterNode.Proofs.Connection.Arrivals
import MeterNode.Proofs.Connection.Calls
import MeterNode.Proofs.Connection.Client
import MeterNode.Proofs.Connection.Consistency
import MeterNode.Proofs.Connection.Custody
import MeterNode.Proofs.Connection.Deeds
import MeterNode.Proofs.Connection.Demands
import MeterNode.Proofs.Connection.Dispatch
import MeterNode.Proofs.Connection.Endpoints
import MeterNode.Proofs.Connection.Hearing
import MeterNode.Proofs.Connection.Identity
import MeterNode.Proofs.Connection.Loans
import MeterNode.Proofs.Connection.Lookups
import MeterNode.Proofs.Connection.Operations
import MeterNode.Proofs.Connection.Registry
import MeterNode.Proofs.Connection.Sockets
import MeterNode.Proofs.Connection.Timeouts
import MeterNode.Proofs.Connection.Visitors
import MeterNode.Proofs.Connection.Waits
import MeterNode.Proofs.Devices
import MeterNode.Proofs.Http.Framing
import MeterNode.Proofs.Http.StatusLine
import MeterNode.Proofs.Kinds
import MeterNode.Proofs.Observers
import MeterNode.Proofs.Power.Accounts
import MeterNode.Proofs.Power.Calls
import MeterNode.Proofs.Power.Default
import MeterNode.Proofs.Power.Following
import MeterNode.Proofs.Power.Hardware
import MeterNode.Proofs.Power.Joining
import MeterNode.Proofs.Power.Pace
import MeterNode.Proofs.Power.Radio
import MeterNode.Proofs.Power.Reads
import MeterNode.Proofs.Power.Saving
import MeterNode.Proofs.Power.Shutdown
import MeterNode.Proofs.Power.Speed
import MeterNode.Proofs.Sample.Channel
import MeterNode.Proofs.Sample.Window
import MeterNode.Proofs.Schedule.Assignment
import MeterNode.Proofs.Schedule.Between
import MeterNode.Proofs.Schedule.Cadence
import MeterNode.Proofs.Schedule.Closing
import MeterNode.Proofs.Schedule.Loans
import MeterNode.Proofs.Schedule.Lookups
import MeterNode.Proofs.Schedule.Metering
import MeterNode.Proofs.Schedule.Ownership
import MeterNode.Proofs.Schedule.Phases
import MeterNode.Proofs.Schedule.Routing
import MeterNode.Proofs.Schedule.Runs
import MeterNode.Proofs.Schedule.Stamps
import MeterNode.Proofs.Schedule.Ticks
import MeterNode.Proofs.Schedule.Windows
import MeterNode.Proofs.Source.AnalogLine
import MeterNode.Proofs.Source.Averaging
import MeterNode.Proofs.Status.Requests
import MeterNode.Proofs.Text.Cutting
import MeterNode.Proofs.Text.Encoding
import MeterNode.Proofs.Text.Shown
import MeterNode.Proofs.Time.Drift
import MeterNode.Proofs.Trace
import MeterNode.Proofs.Upload.Account
import MeterNode.Proofs.Upload.Attempts
import MeterNode.Proofs.Upload.Conservation
import MeterNode.Proofs.Upload.Dealings
import MeterNode.Proofs.Upload.Dialogue
import MeterNode.Proofs.Upload.Failures
import MeterNode.Proofs.Upload.Framing
import MeterNode.Proofs.Upload.Ledger
import MeterNode.Proofs.Upload.Outcomes
import MeterNode.Proofs.Upload.Postings
import MeterNode.Proofs.Upload.Replies
import MeterNode.Proofs.Upload.Steps
import MeterNode.Proofs.Upload.Stream
import MeterNode.Proofs.Upload.Talk
import MeterNode.Radio.Controller
import MeterNode.Radio.Link
import MeterNode.Radio.Status
import MeterNode.Sample.Channel
import MeterNode.Sample.Reading
import MeterNode.Schedule.Assignment
import MeterNode.Schedule.Basic
import MeterNode.Schedule.Entry
import MeterNode.Schedule.Exchanges
import MeterNode.Schedule.Fault
import MeterNode.Schedule.Setup
import MeterNode.Schedule.Tick
import MeterNode.Settings.Build
import MeterNode.Settings.Policy
import MeterNode.Source.Adc
import MeterNode.Source.Basic
import MeterNode.Source.SelfMonitor
import MeterNode.Status.Page
import MeterNode.Telemetry
import MeterNode.Text.CodeRanges
import MeterNode.Text.Escaped
import MeterNode.Text.Extender
import MeterNode.Text.Fixed
import MeterNode.Text.Numeral
import MeterNode.Text.Split
import MeterNode.Text.Unassigned
import MeterNode.Text.Utf8
import MeterNode.Time.Instant
import MeterNode.Time.Sntp
import MeterNode.Time.Sync
import MeterNode.Upload.Batch
import MeterNode.Upload.Uploader
