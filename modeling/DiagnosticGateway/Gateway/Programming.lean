/-
Module: DiagnosticGateway.Gateway.Programming
Purpose: The services that download a software package.
Main exports:
  Gateway.requestDownload, Gateway.transferData, Gateway.requestTransferExit
-/
import DiagnosticGateway.Gateway.Basic

/-!
If packages are verified, the header is inspected as soon as its bytes have come, and the whole
package when the download is closed.  A package that is refused at either point fails the download.
-/

namespace DiagnosticGateway.Gateway

/-- Serve the opening of a download.  The answer holds a length format of two bytes and the largest
block length. -/
def requestDownload (gateway : Gateway) (dataFormat : UInt8) (address size : UInt32) : Served :=
  let (outcome, download) := gateway.download.request dataFormat address size
  let gateway := { gateway with download := download }
  match outcome with
  | .error fault => .refuse gateway (.download fault)
  | .ok maxBlockLength =>
      { gateway := { gateway with inspected := none }
        answer := .ok (0x20 :: Octets.ofWord16 maxBlockLength)
        events := [.transferStarted address size] }

/-- Whether the header of the package being downloaded is to be inspected now. -/
def inspectionDue (gateway : Gateway) : Bool :=
  gateway.config.download.verifyPackage && gateway.inspected.isNone &&
    decide (Package.headerLength ≤ gateway.download.received.length)

/-- Inspect the header of the package being downloaded, and find its target. -/
def inspectPackage (gateway : Gateway) : Except PackageFault PackageHeader := do
  let header ←
    Package.inspect (gateway.download.received.take Package.headerLength) gateway.download.total
  let _ ← header.resolve gateway.config.ecu
  pure header

/-- Serve a block of a download. -/
def transferData (gateway : Gateway) (counter : UInt8) (block : Octets) : Served :=
  let (outcome, download) := gateway.download.receive counter block
  let gateway := { gateway with download := download }
  match outcome with
  | .error fault => .refuse gateway (.download fault)
  | .ok receipt =>
      if gateway.inspectionDue then
        match gateway.inspectPackage with
        | .ok header =>
            { gateway := { gateway with inspected := some header }
              answer := .ok [receipt.counter] }
        | .error fault =>
            let fault := GatewayFault.download (.package fault)
            let (event, gateway) := gateway.failDownload fault
            { gateway := gateway, answer := .error fault, events := [event] }
      else { gateway := gateway, answer := .ok [receipt.counter] }

/-- Verify a downloaded package, and find its target. -/
def verifyPackage (gateway : Gateway) (image : DownloadedImage) :
    Except PackageFault VerifiedPackage := do
  let header ← Package.verify image.data
  let (disposition, slot) ← header.resolve gateway.config.ecu
  pure { header := header, disposition := disposition, slot := slot }

/-- Serve the closing of a download. -/
def requestTransferExit (gateway : Gateway) : Served :=
  let (outcome, download) := gateway.download.exit
  let gateway := { gateway with download := download }
  match outcome with
  | .error fault => .refuse gateway (.download fault)
  | .ok image =>
      let completed (package : Option VerifiedPackage) : Served :=
        { gateway := { gateway with inspected := none }
          answer := .ok []
          events := [.transferCompleted image package] }
      if gateway.config.download.verifyPackage then
        match gateway.verifyPackage image with
        | .ok package => completed (some package)
        | .error fault =>
            let fault := GatewayFault.package fault
            let (event, gateway) := gateway.failDownload fault
            { gateway := gateway, answer := .error fault, events := [event] }
      else completed none

end DiagnosticGateway.Gateway
