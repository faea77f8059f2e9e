/-
Module: DiagnosticGateway.Download
Purpose: A firmware download from its request to its exit.
Main exports:
  DownloadLimits, DownloadState, DownloadFault, Download, BlockReceipt, Download.request,
  Download.receive, Download.exit, Download.abort
-/
import DiagnosticGateway.Package.Fault

/-!
A download is opened with an address and a size, filled block by block, and closed when every
announced byte has come.  Blocks are counted 1, 2, …, 255, 1, …; a block with another counter, an
unusual length or too many bytes is refused.  A completed or aborted download makes way for the
next.  Each operation gives its answer and the download afterwards, also when it is refused.
-/

namespace DiagnosticGateway

/-- Where downloads may go and how long a block may be. -/
structure DownloadLimits where
  maxBlockLength : UInt16 := 1024
  flashBase : UInt32 := 0
  flashSize : UInt32 := 0x04000000
deriving DecidableEq

namespace DownloadLimits

/-- Whether a non-empty stretch of memory lies inside the flash window. -/
def Contains (limits : DownloadLimits) (address size : UInt32) : Prop :=
  0 < size.toNat ∧ limits.flashBase.toNat ≤ address.toNat ∧
    address.toNat + size.toNat ≤ limits.flashBase.toNat + limits.flashSize.toNat

instance (limits : DownloadLimits) (address size : UInt32) :
    Decidable (limits.Contains address size) :=
  inferInstanceAs (Decidable (_ ∧ _ ∧ _))

end DownloadLimits

/-- How far a download has come. -/
inductive DownloadState where
  | idle
  | downloading
  /-- Every byte has come, the exit has not been asked for. -/
  | awaitingExit
  | complete
  | failed
deriving DecidableEq

/-- The name of a state. -/
def DownloadState.name : DownloadState → String
  | .idle => "Idle"
  | .downloading => "Downloading"
  | .awaitingExit => "AwaitingExit"
  | .complete => "Complete"
  | .failed => "Failed"

/-- Why a step of a download is refused. -/
inductive DownloadFault where
  | alreadyActive (state : DownloadState)
  | invalidAddressOrSize (address size : UInt32)
  | notActive
  | wrongCounter (expected got : UInt8)
  | overflow (transferred : UInt32) (length : Nat) (total : UInt32)
  | invalidBlockLength (length : Nat) (maximum : UInt16)
  | prematureExit (transferred total : UInt32)
  /-- The header of the package that is being downloaded was refused. -/
  | package (fault : PackageFault)
deriving DecidableEq

namespace DownloadFault

/-- The wording of a refusal. -/
def message : DownloadFault → String
  | .alreadyActive state => s!"Download already in progress ({state.name})"
  | .invalidAddressOrSize address size =>
      s!"Invalid address/size: address 0x{Hex.word32 address}, size {size}"
  | .notActive => "No download in progress"
  | .wrongCounter expected got =>
      s!"Wrong block sequence counter: expected {expected}, got {got}"
  | .overflow transferred length total =>
      s!"Data overflow: {transferred} + {length} bytes exceeds {total}"
  | .invalidBlockLength length maximum =>
      s!"Invalid block length {length} (allowed 1..={maximum})"
  | .prematureExit transferred total =>
      s!"Transfer exit requested after {transferred} of {total} bytes"
  | .package fault => s!"Package rejected: {fault.message}"

/-- The response code that reports a refusal. -/
def code : DownloadFault → ResponseCode
  | .alreadyActive _ => .conditionsNotCorrect
  | .invalidAddressOrSize _ _ => .requestOutOfRange
  | .notActive | .prematureExit _ _ => .requestSequenceError
  | .wrongCounter _ _ => .wrongBlockSequenceCounter
  | .overflow _ _ _ => .transferDataSuspended
  | .invalidBlockLength _ _ => .incorrectMessageLengthOrFormat
  | .package fault => fault.code

end DownloadFault

/-- A download, the last one if none is active. -/
structure Download where
  limits : DownloadLimits
  state : DownloadState := .idle
  address : UInt32 := 0
  total : UInt32 := 0
  /-- The counter that the next block must carry. -/
  nextCounter : UInt8 := 1
  transferred : UInt32 := 0
  dataFormat : UInt8 := 0
  received : Octets := []
deriving DecidableEq

/-- What is told of a block that was taken. -/
structure BlockReceipt where
  counter : UInt8
  /-- Bytes that have come so far. -/
  transferred : UInt32
  /-- Every announced byte has come. -/
  last : Bool
deriving DecidableEq

/-- The memory image that a completed download delivers. -/
structure DownloadedImage where
  address : UInt32
  data : Octets
deriving DecidableEq

namespace Download

/-- The counter after a counter: zero is left out. -/
def counterAfter (counter : UInt8) : UInt8 := if counter = 255 then 1 else counter + 1

/-- Whether blocks or the exit are expected. -/
def isActive (download : Download) : Bool :=
  download.state == .downloading || download.state == .awaitingExit

/-- Open a download, and tell how long its blocks may be. -/
def request (download : Download) (dataFormat : UInt8) (address size : UInt32) :
    Except DownloadFault UInt16 × Download :=
  if download.isActive then (.error (.alreadyActive download.state), download)
  else if download.limits.Contains address size then
    (.ok download.limits.maxBlockLength,
      { limits := download.limits
        state := .downloading
        address := address
        total := size
        dataFormat := dataFormat })
  else (.error (.invalidAddressOrSize address size), download)

/-- Take a block. -/
def receive (download : Download) (counter : UInt8) (block : Octets) :
    Except DownloadFault BlockReceipt × Download :=
  if download.isActive then
    if block.length = 0 ∨ download.limits.maxBlockLength.toNat < block.length then
      (.error (.invalidBlockLength block.length download.limits.maxBlockLength), download)
    else if counter ≠ download.nextCounter then
      (.error (.wrongCounter download.nextCounter counter), download)
    else if download.total.toNat < download.transferred.toNat + block.length then
      (.error (.overflow download.transferred block.length download.total), download)
    else
      let transferred := download.transferred + UInt32.ofNat block.length
      let last := transferred == download.total
      (.ok { counter := counter, transferred := transferred, last := last },
        { download with
          received := download.received ++ block
          transferred := transferred
          nextCounter := counterAfter counter
          state := if last then .awaitingExit else download.state })
  else (.error .notActive, download)

/-- Close a download and hand out what it brought. -/
def exit (download : Download) : Except DownloadFault DownloadedImage × Download :=
  match download.state with
  | .awaitingExit =>
      (.ok { address := download.address, data := download.received },
        { download with state := .complete, received := [] })
  | .downloading => (.error (.prematureExit download.transferred download.total), download)
  | .idle | .complete | .failed => (.error .notActive, download)

/-- Give a download up and forget what it brought. -/
def abort (download : Download) : Download := { download with state := .failed, received := [] }

end Download

end DiagnosticGateway
