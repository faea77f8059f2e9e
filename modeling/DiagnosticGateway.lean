import DiagnosticGateway.Checksum
import DiagnosticGateway.Config.Basic
import DiagnosticGateway.Config.Document
import DiagnosticGateway.Download
import DiagnosticGateway.Frame.Basic
import DiagnosticGateway.Frame.Framer
import DiagnosticGateway.Frame.PayloadType
import DiagnosticGateway.Gateway.Basic
import DiagnosticGateway.Gateway.Dispatch
import DiagnosticGateway.Gateway.Event
import DiagnosticGateway.Gateway.Identification
import DiagnosticGateway.Gateway.Programming
import DiagnosticGateway.Gateway.Routine
import DiagnosticGateway.Gateway.Run
import DiagnosticGateway.Link.Basic
import DiagnosticGateway.Link.Scenario
import DiagnosticGateway.Link.Step
import DiagnosticGateway.Octets
import DiagnosticGateway.Package.Ecu
import DiagnosticGateway.Package.Fault
import DiagnosticGateway.Package.Header
import DiagnosticGateway.Package.Image
import DiagnosticGateway.Payload.Activation
import DiagnosticGateway.Payload.AliveCheck
import DiagnosticGateway.Payload.Diagnostic
import DiagnosticGateway.Payload.Fault
import DiagnosticGateway.Payload.GenericNack
import DiagnosticGateway.Routing
import DiagnosticGateway.Telemetry.Record
import DiagnosticGateway.Telemetry.Report
import DiagnosticGateway.Telemetry.Store
import DiagnosticGateway.Telemetry.Text
import DiagnosticGateway.Text.Hex
import DiagnosticGateway.Toml.DateTime
import DiagnosticGateway.Toml.Document
import DiagnosticGateway.Toml.Literal
import DiagnosticGateway.Toml.Number
import DiagnosticGateway.Toml.Table
import DiagnosticGateway.Toml.Text
import DiagnosticGateway.Toml.Value
import DiagnosticGateway.Uds.Fault
import DiagnosticGateway.Uds.Message
import DiagnosticGateway.Uds.Request
import DiagnosticGateway.Uds.ResponseCode
import DiagnosticGateway.Uds.RoutineResult
import DiagnosticGateway.Uds.Service
import DiagnosticGateway.Proofs.Download.Session
import DiagnosticGateway.Proofs.Gateway.Exchange
import DiagnosticGateway.Proofs.Gateway.DownloadStep
import DiagnosticGateway.Proofs.Gateway.OpenDownload
import DiagnosticGateway.Proofs.Gateway.Reassembly
import DiagnosticGateway.Proofs.Gateway.SessionLoss
import DiagnosticGateway.Proofs.Gateway.Ownership
import DiagnosticGateway.Proofs.Octets.FixedWidth
import DiagnosticGateway.Proofs.Gateway.Served
import DiagnosticGateway.Proofs.Package.Inspection
import DiagnosticGateway.Proofs.Gateway.Inspection
import DiagnosticGateway.Proofs.Gateway.Appraisal
import DiagnosticGateway.Proofs.Gateway.Upload
import DiagnosticGateway.Proofs.Gateway.Bracketing
import DiagnosticGateway.Proofs.Gateway.FrameEffect
import DiagnosticGateway.Proofs.Gateway.Authority
import DiagnosticGateway.Proofs.Gateway.Refusal
import DiagnosticGateway.Proofs.Package.Build
import DiagnosticGateway.Proofs.Gateway.Staging
import DiagnosticGateway.Proofs.Frame.Front
import DiagnosticGateway.Proofs.Frame.Chunks
import DiagnosticGateway.Proofs.Frame.Language
import DiagnosticGateway.Proofs.Frame.Written
import DiagnosticGateway.Proofs.Gateway.BlockFraming
import DiagnosticGateway.Proofs.Gateway.Answer
import DiagnosticGateway.Proofs.Routing.History
import DiagnosticGateway.Proofs.Routing.Schedule
import DiagnosticGateway.Proofs.Routing.Expiry
import DiagnosticGateway.Proofs.Routing.Cadence
import DiagnosticGateway.Proofs.Telemetry.Store
import DiagnosticGateway.Proofs.Gateway.Collection
import DiagnosticGateway.Proofs.Telemetry.Record
import DiagnosticGateway.Proofs.Gateway.Consolidation
import DiagnosticGateway.Proofs.Gateway.Distinctness
import DiagnosticGateway.Proofs.Gateway.SessionStep
import DiagnosticGateway.Proofs.Link.Move
import DiagnosticGateway.Proofs.Link.Custody
import DiagnosticGateway.Proofs.Link.Delivered
import DiagnosticGateway.Proofs.Link.Upkeep
import DiagnosticGateway.Proofs.Link.Trace
import DiagnosticGateway.Proofs.Link.Intake
import DiagnosticGateway.Proofs.Gateway.Dialogue
import DiagnosticGateway.Proofs.Link.Desk
import DiagnosticGateway.Proofs.Link.Calls
import DiagnosticGateway.Proofs.Link.Vigil
import DiagnosticGateway.Proofs.Checksum
import DiagnosticGateway.Proofs.Package.Damage
import DiagnosticGateway.Proofs.Package.RoundTrip
import DiagnosticGateway.Proofs.Download.Calls
import DiagnosticGateway.Proofs.Gateway.RoutineHistory
import DiagnosticGateway.Proofs.Telemetry.Stride
import DiagnosticGateway.Proofs.Telemetry.RoundTrip
import DiagnosticGateway.Proofs.Frame.Complete
import DiagnosticGateway.Proofs.Package.Layout
import DiagnosticGateway.Proofs.Octets.BigEndian
import DiagnosticGateway.Proofs.Uds.Message
import DiagnosticGateway.Proofs.Uds.Request
import DiagnosticGateway.Proofs.Uds.RoutineResult
import DiagnosticGateway.Proofs.Payload.Codec
