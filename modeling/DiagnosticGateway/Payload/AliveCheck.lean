/-
Module: DiagnosticGateway.Payload.AliveCheck
Purpose: The question whether the other end still listens, and its answer.
Main exports:
  AliveCheckRequest, AliveCheckResponse
-/
import DiagnosticGateway.Frame.Basic
import DiagnosticGateway.Payload.Fault

namespace DiagnosticGateway

/-- The sender asks for a sign of life and gives its own address. -/
structure AliveCheckRequest where
  source : UInt16
deriving DecidableEq

namespace AliveCheckRequest

/-- Bytes a request has at least. -/
def minimumLength : Nat := 2

/-- The payload of a request. -/
def toOctets (request : AliveCheckRequest) : Octets := Octets.ofWord16 request.source

/-- Read a request from a payload. -/
def parse (payload : Octets) : Except PayloadFault AliveCheckRequest :=
  match payload with
  | high :: low :: _ => .ok { source := Octets.word16 high low }
  | short => .error (.tooShort .aliveCheckRequest minimumLength short.length)

/-- The frame that carries a request. -/
def toFrame (request : AliveCheckRequest) : Frame :=
  .ofPayload .aliveCheckRequest request.toOctets

end AliveCheckRequest

/-- The sign of life.  Some peers leave their address out. -/
structure AliveCheckResponse where
  source : Option UInt16
deriving DecidableEq

namespace AliveCheckResponse

/-- The payload of a response. -/
def toOctets (response : AliveCheckResponse) : Octets :=
  match response.source with
  | some source => Octets.ofWord16 source
  | none => []

/-- Read a response from a payload; fewer than two bytes hold no address. -/
def parse (payload : Octets) : AliveCheckResponse :=
  { source := (Octets.takeWord16 payload).map Prod.fst }

/-- The frame that carries a response. -/
def toFrame (response : AliveCheckResponse) : Frame :=
  .ofPayload .aliveCheckResponse response.toOctets

end AliveCheckResponse

end DiagnosticGateway
