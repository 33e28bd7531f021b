import MeshReadings.Main
import MeshReadings.Rehearsal.Run
import MeshReadings.Proofs.Engine.Agreement
import MeshReadings.Proofs.Engine.Binds
import MeshReadings.Proofs.Hub.Routing
import MeshReadings.Proofs.Engine.Readings
import MeshReadings.Bridge.Step
import MeshReadings.Proofs.Bridge.Frame
import MeshReadings.Proofs.Engine.Failures
import MeshReadings.Proofs.Bridge.Moves
import MeshReadings.Proofs.Bridge.History
import MeshReadings.Proofs.Bridge.Waits
import MeshReadings.Proofs.Bridge.Correlation
import MeshReadings.Proofs.Bridge.Pending
import MeshReadings.Proofs.Engine.Cancellation
import MeshReadings.Proofs.Bridge.Listeners
import MeshReadings.Pipeline
import MeshReadings.Proofs.Pipeline.Opening
import MeshReadings.Proofs.Pipeline.Relay
import MeshReadings.Proofs.Outlet
import MeshReadings.Proofs.Engine.Outstanding
import MeshReadings.Proofs.Engine.Serialization
import MeshReadings.Proofs.Engine.LastingFailure
import MeshReadings.Proofs.Engine.LateReplies
import MeshReadings.Proofs.Bridge.Subscriptions
import MeshReadings.Proofs.Reporting.Range
import MeshReadings.Proofs.Engine.Negotiation
import MeshReadings.Proofs.Engine.Polling
import MeshReadings.Proofs.Hub.Inspection
import MeshReadings.Proofs.Engine.Repetition
import MeshReadings.Proofs.Reporting.Options
import MeshReadings.Proofs.Bridge.Refusals
import MeshReadings.Proofs.Hub.FailedOpenings
import MeshReadings.Proofs.Engine.Staleness
import MeshReadings.Proofs.Bridge.DeviceLists
import MeshReadings.Proofs.Settings.OptionListing
import MeshReadings.Proofs.Engine.Signals
import MeshReadings.Proofs.Settings.Assignments
import MeshReadings.Proofs.Settings.Exports
import MeshReadings.Proofs.Json.Texts
import MeshReadings.Proofs.Json.Rereading
import MeshReadings.Proofs.Settings.Rereading
import MeshReadings.Proofs.Key
