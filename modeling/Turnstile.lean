import Turnstile.Admission
import Turnstile.Amqp.Body
import Turnstile.Amqp.Client
import Turnstile.Amqp.LinkSource
import Turnstile.Amqp.Script
import Turnstile.Amqp.Server
import Turnstile.Amqp.Trial
import Turnstile.Broker
import Turnstile.Broker.Exchange
import Turnstile.Broker.Session
import Turnstile.Capacity
import Turnstile.Capacity.Gate
import Turnstile.CommandLine
import Turnstile.Consumer
import Turnstile.Deletion
import Turnstile.Difference
import Turnstile.Event
import Turnstile.Event.Client
import Turnstile.Event.Json
import Turnstile.Fault
import Turnstile.Http.Client
import Turnstile.Http.Form
import Turnstile.Http.Host
import Turnstile.Http.Url
import Turnstile.Identifier
import Turnstile.Json.Printer
import Turnstile.Json.Reader
import Turnstile.Json.Record
import Turnstile.Json.Tree
import Turnstile.Main
import Turnstile.Pod
import Turnstile.Pod.Client
import Turnstile.Pod.Json
import Turnstile.Pod.Watch
import Turnstile.Pod.WatchStream
import Turnstile.PodName
import Turnstile.ProjectManager
import Turnstile.Proofs.Admission.Anteroom
import Turnstile.Proofs.Admission.Deliveries
import Turnstile.Proofs.Admission.Line
import Turnstile.Proofs.Amqp.Dealings
import Turnstile.Proofs.Amqp.Openings
import Turnstile.Proofs.Amqp.Sources
import Turnstile.Proofs.Amqp.Texts
import Turnstile.Proofs.Broker.Acknowledgments
import Turnstile.Proofs.Broker.Breaking
import Turnstile.Proofs.Broker.Conservation
import Turnstile.Proofs.Broker.History
import Turnstile.Proofs.Broker.Order
import Turnstile.Proofs.Broker.Readers
import Turnstile.Proofs.Broker.Recollection
import Turnstile.Proofs.Broker.Redelivery
import Turnstile.Proofs.Broker.Sessions
import Turnstile.Proofs.Broker.Sorted
import Turnstile.Proofs.Broker.Waiting
import Turnstile.Proofs.Broker.Wakeups
import Turnstile.Proofs.Capacity
import Turnstile.Proofs.Capacity.Ceiling
import Turnstile.Proofs.Capacity.Deadlines
import Turnstile.Proofs.Consumer.Crew
import Turnstile.Proofs.Consumer.InOrder
import Turnstile.Proofs.Consumer.Lives
import Turnstile.Proofs.Consumer.Polls
import Turnstile.Proofs.Consumer.Rounds
import Turnstile.Proofs.Consumer.Run
import Turnstile.Proofs.Consumer.Shift
import Turnstile.Proofs.Consumer.Turns
import Turnstile.Proofs.Difference
import Turnstile.Proofs.Event.Decisions
import Turnstile.Proofs.Event.Requests
import Turnstile.Proofs.Event.RoundTrip
import Turnstile.Proofs.Http.Addresses
import Turnstile.Proofs.Http.Form
import Turnstile.Proofs.Http.Listings
import Turnstile.Proofs.Http.Pages
import Turnstile.Proofs.Json.Composed
import Turnstile.Proofs.Json.Edits
import Turnstile.Proofs.Json.Numbers
import Turnstile.Proofs.Json.Parts
import Turnstile.Proofs.Json.Pieces
import Turnstile.Proofs.Json.PlainData
import Turnstile.Proofs.Json.Printer
import Turnstile.Proofs.Json.Reader
import Turnstile.Proofs.Json.TextEdits
import Turnstile.Proofs.Json.Tokens
import Turnstile.Proofs.Pod.Decoders
import Turnstile.Proofs.Pod.Lines
import Turnstile.Proofs.Registry
import Turnstile.Proofs.Retry
import Turnstile.Proofs.Retry.Clock
import Turnstile.Proofs.Separators
import Turnstile.Proofs.Settings
import Turnstile.Proofs.Settings.Secrets
import Turnstile.Proofs.Simulation.Assembly
import Turnstile.Proofs.Simulation.Backed
import Turnstile.Proofs.Simulation.BackedTurns
import Turnstile.Proofs.Simulation.Holdings
import Turnstile.Proofs.Simulation.Scopes
import Turnstile.Proofs.Simulation.Starts
import Turnstile.Proofs.Simulation.Tenure
import Turnstile.Proofs.Synchronizer.Flights
import Turnstile.Proofs.Synchronizer.Outcomes
import Turnstile.Proofs.Synchronizer.Revived
import Turnstile.Proofs.Synchronizer.Routine
import Turnstile.Proofs.Synchronizer.Stays
import Turnstile.Proofs.Synchronizer.Upkeep
import Turnstile.Proofs.Synchronizer.View
import Turnstile.Proofs.Table
import Turnstile.Proofs.Text.Decimal
import Turnstile.Proofs.Text.Utf8
import Turnstile.Proofs.Tracker
import Turnstile.Proofs.Tracker.Guards
import Turnstile.Proofs.Tracker.Reports
import Turnstile.Proofs.UnknownMembers
import Turnstile.Proofs.Work
import Turnstile.Registry
import Turnstile.Retry
import Turnstile.Scheduler
import Turnstile.Settings
import Turnstile.Simulation.Scenario
import Turnstile.Simulation.Services
import Turnstile.Simulation.Turns
import Turnstile.Simulation.World
import Turnstile.Synchronizer
import Turnstile.Table
import Turnstile.Text.Blank
import Turnstile.Text.Decimal
import Turnstile.Text.Hidden
import Turnstile.Text.Quoted
import Turnstile.Text.Utf8
import Turnstile.Ticker
import Turnstile.Time.Calendar
import Turnstile.Time.Instant
import Turnstile.Time.Timestamp
import Turnstile.Tracker
import Turnstile.Work
