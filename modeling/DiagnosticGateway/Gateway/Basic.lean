/-
Module: DiagnosticGateway.Gateway.Basic
Purpose: The state of a gateway and the changes that several services share.
Main exports:
  Gateway, Gateway.ofConfig, Gateway.start?, Gateway.failDownload, Gateway.abortDownload,
  Served
-/
import DiagnosticGateway.Gateway.Event
import DiagnosticGateway.Telemetry.Store

namespace DiagnosticGateway

/-- All that a gateway keeps for one connection. -/
structure Gateway where
  config : GatewayConfig
  routing : Routing
  download : Download
  telemetry : TelemetryStore := {}
  /-- Whether the collection of configuration records has been started. -/
  collectingVci : Bool := false
  /-- Whether the readiness check has been started. -/
  checkingReadiness : Bool := false
  /-- The header that was accepted when the first bytes of the current download had come. -/
  inspected : Option PackageHeader := none
deriving DecidableEq

namespace Gateway

/-- A gateway at the beginning of a connection. -/
def ofConfig (config : GatewayConfig) : Gateway :=
  { config := config
    routing :=
      { localAddress := config.localAddress
        interval := config.aliveCheck.intervalMs.toNat
        timeout := config.aliveCheck.timeout }
    download := { limits := config.download.limits } }

/-- A gateway with settings that pass their checks. -/
def start? (config : GatewayConfig) : Except ConfigFault Gateway := do
  config.validate
  pure (ofConfig config)

/-- Forget everything about the connection. -/
def reset (gateway : Gateway) : Gateway := ofConfig gateway.config

def localAddress (gateway : Gateway) : UInt16 := gateway.config.localAddress

/-- Give the current download up, for the given reason. -/
def failDownload (gateway : Gateway) (fault : GatewayFault) : GatewayEvent × Gateway :=
  (.transferFailed fault,
    { gateway with download := gateway.download.abort, inspected := none })

/-- Give an active download up because its session ends. -/
def abortDownload (gateway : Gateway) : List GatewayEvent × Gateway :=
  if gateway.download.isActive then
    let (event, gateway) := gateway.failDownload .routingInactive
    ([event], gateway)
  else ([], gateway)

end Gateway

/-- What serving a request gives: the gateway afterwards, the data of the positive response or the
reason against one, frames that follow the response, and events. -/
structure Served where
  gateway : Gateway
  answer : Except GatewayFault Octets
  followups : List Frame := []
  events : List GatewayEvent := []

namespace Served

/-- A refusal that changes nothing. -/
def refuse (gateway : Gateway) (fault : GatewayFault) : Served :=
  { gateway := gateway, answer := .error fault }

/-- The bytes of the response to a request of the given service. -/
def response (served : Served) (service : UInt8) : Octets :=
  match served.answer with
  | .ok data => Service.positiveResponse service data
  | .error fault => Service.negativeResponseBytes service fault.code

end Served

end DiagnosticGateway
