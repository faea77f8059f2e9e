/-
Module: DiagnosticGateway.Gateway.Run
Purpose: A gateway driven by a sequence of inputs.
Main exports:
  GatewayInput, Gateway.step, Gateway.run
-/
import DiagnosticGateway.Gateway.Dispatch

namespace DiagnosticGateway

/-- What can happen to a gateway. -/
inductive GatewayInput where
  | frame (frame : Frame) (now : Time)
  | poll (now : Time)
  | deactivate
  | reset
deriving DecidableEq

namespace Gateway

/-- Take one input. -/
def step (gateway : Gateway) : GatewayInput → GatewayOutput × Gateway
  | .frame frame now => gateway.handleFrame frame now
  | .poll now => gateway.pollAliveCheck now
  | .deactivate => gateway.deactivate
  | .reset => (.none, gateway.reset)

/-- Take inputs in order: the output of each, and the gateway at the end. -/
def run (gateway : Gateway) : List GatewayInput → List GatewayOutput × Gateway
  | [] => ([], gateway)
  | input :: inputs =>
      let (output, next) := gateway.step input
      let (outputs, final) := next.run inputs
      (output :: outputs, final)

end Gateway

end DiagnosticGateway
