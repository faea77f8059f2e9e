/-
Module: DiagnosticGateway.Proofs.Gateway.Upload
Purpose: What comes of an image does not depend on how it is cut or on what comes between.
Main exports:
  Upload, Upload.Fits, Exchange.Bystander, Woven, Upload.Filling, Upload.Verdict,
  upload_verdict_of_image
-/
import DiagnosticGateway.Proofs.Gateway.Appraisal
import DiagnosticGateway.Proofs.Gateway.Ownership

/-!
A tester uploads an image: it opens a download, sends the image in blocks and asks for the exit.
Other inputs may come in between, as long as they are granted no programming service and fail no
download.  While the upload goes on, the gateway holds the blocks sent so far (`Upload.Filling`).
After a verdict no download is active, and nothing more is said about one.
-/

namespace DiagnosticGateway

/-! ## Uploads -/

/-- An image in blocks that a tester sends to an address. -/
structure Upload where
  tester : UInt16
  dataFormat : UInt8
  address : UInt32
  blocks : List Octets
  exitParameters : Octets

namespace Upload

/-- The image that the blocks make up. -/
def image (upload : Upload) : Octets := upload.blocks.flatten

/-- The announced size of the image. -/
def size (upload : Upload) : UInt32 := UInt32.ofNat upload.image.length

theorem toNat_size {upload : Upload} (addressable : upload.image.length ≤ 0xFFFFFFFF) :
    upload.size.toNat = upload.image.length := by
  rw [size, UInt32.toNat_ofNat']
  exact Nat.mod_eq_of_lt (Nat.lt_succ_of_le addressable)

/-- The requests that send blocks, of which the first has `count` blocks before it, and then close
the download. -/
def closing (upload : Upload) : Nat → List Octets → List UdsRequest
  | _, [] => [.requestTransferExit upload.exitParameters]
  | count, block :: blocks =>
      .transferData (Download.blockCounter count) block :: upload.closing (count + 1) blocks

/-- All requests of an upload, in order. -/
def requests (upload : Upload) : List UdsRequest :=
  .requestDownload upload.dataFormat upload.address upload.size ::
    upload.closing 0 upload.blocks

/-- A gateway that verifies packages is free for an upload by its owner: the image is not empty, lies
in the flash window, and every block has a usual length. -/
structure Fits (upload : Upload) (gateway : Gateway) : Prop where
  verifying : gateway.config.download.verifyPackage = true
  owner : gateway.routing.accepts upload.tester = true
  free : gateway.download.isActive = false
  nonempty : 0 < upload.image.length
  addressable : upload.image.length ≤ 0xFFFFFFFF
  above : gateway.download.limits.flashBase.toNat ≤ upload.address.toNat
  below : upload.address.toNat + upload.image.length ≤
    gateway.download.limits.flashBase.toNat + gateway.download.limits.flashSize.toNat
  filled : ∀ block ∈ upload.blocks, 0 < block.length
  short : ∀ block ∈ upload.blocks,
    block.length ≤ gateway.download.limits.maxBlockLength.toNat

/-- Exchanges make the given requests, in the upload's name, to a gateway. -/
def Makes (upload : Upload) (gateway : Gateway) (requests : List UdsRequest)
    (own : List Exchange) : Prop :=
  own.map (fun exchange => exchange.input.request?) =
    requests.map fun request =>
      some { source := upload.tester, target := gateway.localAddress, request := request }

theorem makes_cons_iff {upload : Upload} {gateway : Gateway} {request : UdsRequest}
    {requests : List UdsRequest} {exchange : Exchange} {own : List Exchange} :
    upload.Makes gateway (request :: requests) (exchange :: own) ↔
      exchange.input.request? =
          some { source := upload.tester, target := gateway.localAddress, request := request } ∧
        upload.Makes gateway requests own := by
  simp only [Makes, List.map_cons, List.cons.injEq]

end Upload

/-- An exchange that is no reset, fails no download and is granted no programming service. -/
structure Exchange.Bystander (exchange : Exchange) : Prop where
  noReset : exchange.input ≠ .reset
  unfailed : ∀ fault, .transferFailed fault ∉ exchange.output.events
  ungranted : exchange.output.Ungranted

/-- A history in which the exchanges `own` come in their order, with bystanders between them. -/
inductive Woven : List Exchange → List Exchange → Prop where
  | done : Woven [] []
  | own {exchange : Exchange} {own history : List Exchange} (rest : Woven own history) :
      Woven (exchange :: own) (exchange :: history)
  | other {exchange : Exchange} {own history : List Exchange} (bystander : exchange.Bystander)
      (rest : Woven own history) : Woven own (exchange :: history)

/-- The events of a history that open or end a download, in order. -/
def transferEvents (history : List Exchange) : List GatewayEvent :=
  history.flatMap fun exchange => exchange.output.transferEvents

@[simp] theorem transferEvents_cons (exchange : Exchange) (history : List Exchange) :
    transferEvents (exchange :: history) =
      exchange.output.transferEvents ++ transferEvents history := rfl

theorem transferEvents_append_singleton (history : List Exchange) (exchange : Exchange) :
    transferEvents (history ++ [exchange]) =
      transferEvents history ++ exchange.output.transferEvents := by
  simp [transferEvents]

/-- The request in an exchange is answered positively. -/
def Exchange.Granted (exchange : Exchange) : Prop :=
  ∃ addressed, exchange.input.request? = some addressed ∧
    exchange.output.grants addressed.request.service = true

/-! ## Steps that an upload does not make -/

namespace DownloadStep

variable {gateway next : Gateway} {input : GatewayInput} {output : GatewayOutput}

/-- Without an active download nothing is said about one, unless one is opened. -/
theorem idle_or_opened (step : DownloadStep gateway input output next)
    (inactive : gateway.download.isActive = false) :
    (output.transferEvents = [] ∧ next.download.isActive = false) ∨
      (output.grants Service.requestDownload = true ∧ ∃ tester dataFormat address size,
        Asks gateway input tester (.requestDownload dataFormat address size)) := by
  cases step with
  | quiet _ _ download _ events => exact .inl ⟨events, download ▸ inactive⟩
  | opened asks _ _ _ _ replies =>
      exact .inr ⟨GatewayOutput.grants_of_positive replies, _, _, _, _, asks⟩
  | received _ _ download =>
      have active := (Download.receive_eq_ok_iff.mp download).1
      rw [inactive] at active
      cases active
  | headerRefused _ _ received =>
      have active := (Download.receive_eq_ok_iff.mp received).1
      rw [inactive] at active
      cases active
  | completed _ _ download =>
      have active := Download.isActive_of_awaitingExit (Download.exit_eq_ok_iff.mp download).1
      rw [inactive] at active
      cases active
  | packageRefused _ _ exit =>
      have active := Download.isActive_of_awaitingExit (Download.exit_eq_ok_iff.mp exit).1
      rw [inactive] at active
      cases active
  | aborted _ active =>
      rw [inactive] at active
      cases active
  | sessionEnded _ _ _ download _ events => exact .inl ⟨events, download ▸ inactive⟩
  | activated _ _ _ _ download _ events => exact .inl ⟨events, download ▸ inactive⟩
  | reset => exact .inl ⟨rfl, rfl⟩

/-- A bystander leaves an active download alone. -/
theorem of_bystander (step : DownloadStep gateway input output next)
    (bystander : Exchange.Bystander ⟨input, output⟩)
    (active : gateway.download.isActive = true) :
    next.download = gateway.download ∧ next.inspected = gateway.inspected ∧
      output.transferEvents = [] := by
  obtain ⟨noReset, unfailed, ungranted⟩ := bystander
  have failed {fault : GatewayFault} (events : output.transferEvents = [.transferFailed fault]) :
      .transferFailed fault ∈ output.events := by
    have member : .transferFailed fault ∈ output.transferEvents :=
      events ▸ List.mem_singleton.mpr rfl
    exact (List.mem_filter.mp member).1
  cases step with
  | quiet _ _ download inspected events => exact ⟨download, inspected, events⟩
  | opened _ _ download =>
      have free := (Download.request_eq_ok_iff.mp download).1
      rw [active] at free
      cases free
  | received _ _ _ _ _ replies =>
      have refused := ungranted Service.transferData (by decide)
      rw [GatewayOutput.grants_of_positive replies] at refused
      cases refused
  | headerRefused _ _ _ _ _ _ events => exact absurd (failed events) (unfailed _)
  | completed _ _ _ _ _ _ replies =>
      have refused := ungranted Service.requestTransferExit (by decide)
      rw [GatewayOutput.grants_of_positive replies] at refused
      cases refused
  | packageRefused _ _ _ _ _ _ events => exact absurd (failed events) (unfailed _)
  | aborted _ _ _ _ _ events =>
      refine absurd ?_ (unfailed .routingInactive)
      rw [events]
      exact List.mem_cons_self
  | sessionEnded _ inactive =>
      rw [active] at inactive
      cases inactive
  | activated _ _ _ _ download inspected events => exact ⟨download, inspected, events⟩
  | reset => exact absurd rfl noReset

end DownloadStep

/-! ## After the verdict -/

namespace Upload

variable {upload : Upload} {gateway : Gateway}

/-- Nothing in what is left of an upload opens a download. -/
theorem not_opens_of_closing {count : Nat} {blocks : List Octets} {request : UdsRequest}
    (member : request ∈ upload.closing count blocks) (dataFormat : UInt8)
    (address size : UInt32) : request ≠ .requestDownload dataFormat address size := by
  induction blocks generalizing count with
  | nil =>
      simp only [closing, List.mem_singleton] at member
      simp [member]
  | cons block blocks inductionHypothesis =>
      simp only [closing, List.mem_cons] at member
      rcases member with rfl | later
      · simp
      · exact inductionHypothesis later

/-- Once no download is active, neither the rest of an upload nor a bystander says anything about
one. -/
theorem idle_run {requests : List UdsRequest} {target : Gateway} {inputs : List GatewayInput}
    {own : List Exchange}
    (unopened : ∀ request ∈ requests, ∀ dataFormat address size,
      request ≠ .requestDownload dataFormat address size)
    (inactive : gateway.download.isActive = false)
    (woven : Woven own (gateway.history inputs)) (makes : upload.Makes target requests own) :
    transferEvents (gateway.history inputs) = [] := by
  induction inputs generalizing gateway own requests with
  | nil => rfl
  | cons input inputs inductionHypothesis =>
      rw [Gateway.history_cons] at woven ⊢
      rw [transferEvents_cons]
      have step := (downloadStep_step gateway input).idle_or_opened inactive
      cases woven with
      | other bystander rest =>
          rcases step with ⟨silent, idle⟩ | ⟨granted, -⟩
          · rw [inductionHypothesis unopened idle rest makes, List.append_nil]
            exact silent
          · have refused := bystander.ungranted Service.requestDownload (by decide)
            cases refused.symm.trans granted
      | own rest =>
          cases requests with
          | nil => cases makes
          | cons request requests =>
              obtain ⟨carried, later⟩ := makes_cons_iff.mp makes
              rcases step with ⟨silent, idle⟩ | ⟨-, _, dataFormat, address, size, asks⟩
              · have remaining := fun request member =>
                  unopened request (List.mem_cons_of_mem _ member)
                rw [inductionHypothesis remaining idle rest later, List.append_nil]
                exact silent
              · have same := carried.symm.trans asks.carried
                simp only [Option.some.injEq, AddressedRequest.mk.injEq] at same
                exact absurd same.2.2 (unopened _ List.mem_cons_self dataFormat address size)

/-! ## While the image comes in -/

/-- The blocks `sent` of an upload that began at `start` have come, and no other bytes. -/
structure Filling (upload : Upload) (start gateway : Gateway) (sent : List Octets) : Prop where
  config : gateway.config = start.config
  limits : gateway.download.limits = start.download.limits
  owner : gateway.routing.accepts upload.tester = true
  active : gateway.download.isActive = true
  address : gateway.download.address = upload.address
  total : gateway.download.total = upload.size
  received : gateway.download.received = sent.flatten
  nextCounter : gateway.download.nextCounter = Download.blockCounter sent.length
  sound : gateway.download.Sound
  inspection : Inspection gateway

/-- What comes of an upload: every request is answered positively and the image is delivered with the
package that was appraised, or the download fails for the reason that the appraisal gives. -/
inductive Verdict (upload : Upload) (start : Gateway) (own history : List Exchange) : Prop where
  | delivered {package : VerifiedPackage}
      (appraised : Package.appraise start.config.ecu upload.image = .ok package)
      (granted : ∀ exchange ∈ own, exchange.Granted)
      (events : transferEvents history =
        [.transferCompleted { address := upload.address, data := upload.image } (some package)])
  | refused {fault : PackageFault}
      (appraised : Package.appraise start.config.ecu upload.image = .error fault)
      (events : transferEvents history = [.transferFailed fault.failure])

namespace Verdict

variable {start : Gateway} {own history : List Exchange} {exchange : Exchange}

/-- An exchange that says nothing about the download does not change the verdict. -/
theorem cons_other (verdict : upload.Verdict start own history)
    (silent : exchange.output.transferEvents = []) :
    upload.Verdict start own (exchange :: history) := by
  cases verdict with
  | delivered appraised granted events =>
      exact .delivered appraised granted (by simp [silent, events])
  | refused appraised events => exact .refused appraised (by simp [silent, events])

/-- A granted block does not change the verdict. -/
theorem cons_own (verdict : upload.Verdict start own history)
    (silent : exchange.output.transferEvents = []) (grant : exchange.Granted) :
    upload.Verdict start (exchange :: own) (exchange :: history) := by
  cases verdict with
  | delivered appraised granted events =>
      refine .delivered appraised ?_ (by simp [silent, events])
      intro other member
      rcases List.mem_cons.mp member with rfl | later
      · exact grant
      · exact granted other later
  | refused appraised events => exact .refused appraised (by simp [silent, events])

/-- What comes after a verdict and says nothing about downloads does not change it. -/
theorem append_idle (verdict : upload.Verdict start own [exchange])
    (idle : transferEvents history = []) :
    upload.Verdict start own (exchange :: history) := by
  cases verdict with
  | delivered appraised granted events =>
      refine .delivered appraised granted ?_
      rw [transferEvents_cons, idle]
      exact events
  | refused appraised events =>
      refine .refused appraised ?_
      rw [transferEvents_cons, idle]
      exact events

end Verdict

namespace Filling

variable {start : Gateway} {sent : List Octets} {input : GatewayInput}

/-- A gateway that is free for an upload opens it. -/
theorem opening (fits : upload.Fits gateway)
    (asks : Asks gateway input upload.tester
      (.requestDownload upload.dataFormat upload.address upload.size)) :
    upload.Filling gateway (gateway.step input).2 [] ∧
      (gateway.exchange input).output.transferEvents =
        [.transferStarted upload.address upload.size] ∧
      (gateway.exchange input).Granted := by
  have window : gateway.download.limits.Contains upload.address upload.size := by
    unfold DownloadLimits.Contains
    rw [toNat_size fits.addressable]
    exact ⟨fits.nonempty, fits.above, fits.below⟩
  have granted : gateway.download.request upload.dataFormat upload.address upload.size =
      (.ok _, _) :=
    Download.request_eq_ok_iff.mpr ⟨fits.free, window, rfl, rfl⟩
  have leaves := asks.opens granted
  refine ⟨?_, leaves.events, _, asks.carried, GatewayOutput.grants_of_positive leaves.replies⟩
  exact
    { config := leaves.session.config
      limits := by rw [leaves.download]
      owner := (leaves.session.accepts upload.tester).trans fits.owner
      active := by rw [leaves.download]; rfl
      address := by rw [leaves.download]
      total := by rw [leaves.download]
      received := by rw [leaves.download]; rfl
      nextCounter := by rw [leaves.download]; rfl
      sound := leaves.download ▸ .request granted
      inspection := .missing leaves.inspected fun _ => by
        rw [leaves.download]
        exact Nat.zero_lt_succ 63 }

/-- A bystander leaves an upload where it is. -/
theorem other (filling : upload.Filling start gateway sent)
    (bystander : (gateway.exchange input).Bystander) :
    upload.Filling start (gateway.step input).2 sent ∧
      (gateway.exchange input).output.transferEvents = [] := by
  have step := downloadStep_step gateway input
  obtain ⟨download, inspected, silent⟩ := step.of_bystander bystander filling.active
  have kept : ∀ event, ¬LosesSession gateway input event := by
    intro event loses
    obtain ⟨⟨fault, events, -⟩, -, -⟩ := loses.givesUpBefore filling.active
    refine bystander.unfailed fault ?_
    show .transferFailed fault ∈ (gateway.step input).1.events
    rw [events]
    exact List.mem_cons_self
  have owner := step.owner_kept bystander.noReset kept filling.active filling.owner
  refine ⟨?_, silent⟩
  exact
    { config := step.config.trans filling.config
      limits := download ▸ filling.limits
      owner := owner
      active := download ▸ filling.active
      address := download ▸ filling.address
      total := download ▸ filling.total
      received := download ▸ filling.received
      nextCounter := download ▸ filling.nextCounter
      sound := download ▸ filling.sound
      inspection := filling.inspection.congr step.config download inspected }

/-- The next block is granted, or it completes a header for which the image is refused. -/
theorem block {block : Octets} {remaining : List Octets}
    (filling : upload.Filling start gateway sent) (fits : upload.Fits start)
    (blocks : upload.blocks = sent ++ block :: remaining)
    (asks : Asks gateway input upload.tester
      (.transferData (Download.blockCounter sent.length) block)) :
    (upload.Filling start (gateway.step input).2 (sent ++ [block]) ∧
        (gateway.exchange input).output.transferEvents = [] ∧
        (gateway.exchange input).Granted) ∨
      (gateway.step input).2.download.isActive = false ∧
        ∃ fault, Package.appraise start.config.ecu upload.image = .error fault ∧
          (gateway.exchange input).output.transferEvents = [.transferFailed fault.failure] := by
  have member : block ∈ upload.blocks := by simp [blocks]
  have image : sent.flatten ++ block ++ remaining.flatten = upload.image := by
    simp [image, blocks]
  have verifying : gateway.config.download.verifyPackage = true := by
    rw [filling.config]
    exact fits.verifying
  have room : gateway.download.transferred.toNat + block.length ≤
      gateway.download.total.toNat := by
    have counted := (filling.sound.active filling.active).counted
    rw [counted, filling.received, filling.total, toNat_size fits.addressable, ← image]
    simp only [List.length_append]
    omega
  have usual : block.length ≤ gateway.download.limits.maxBlockLength.toNat := by
    rw [filling.limits]
    exact fits.short block member
  have granted : gateway.download.receive (Download.blockCounter sent.length) block =
      (.ok _, gateway.download.extend block) :=
    Download.receive_eq_ok_iff.mpr
      ⟨filling.active, fits.filled block member, usual, filling.nextCounter.symm, room, rfl, rfl⟩
  cases inspection : gateway.inspectionAfter (gateway.download.extend block) with
  | ok inspected =>
      have leaves := asks.receives granted inspection
      refine .inl ⟨?_, leaves.events, _, asks.carried,
        GatewayOutput.grants_of_positive leaves.replies⟩
      have step := downloadStep_step gateway input
      exact
        { config := step.config.trans filling.config
          limits := leaves.download ▸ filling.limits
          owner := (leaves.session.accepts upload.tester).trans filling.owner
          active := leaves.download ▸ Download.isActive_extend filling.active block
          address := leaves.download ▸ filling.address
          total := leaves.download ▸ filling.total
          received := by simp [leaves.download, Download.extend, filling.received]
          nextCounter := by simp [leaves.download, Download.extend, filling.nextCounter]
          sound := leaves.download ▸ filling.sound.receive granted
          inspection := step.inspection verifying filling.inspection }
  | error fault =>
      have leaves := asks.refusesHeader granted inspection
      obtain ⟨whole, refused⟩ := Gateway.inspectPackage_of_refused inspection
      have front : (gateway.download.extend block).received ++ remaining.flatten =
          upload.image := by
        rw [← image, ← filling.received]
        rfl
      have enough : Package.headerLength ≤ upload.image.length := by
        rw [← front, List.length_append]
        omega
      have found : { gateway with download := gateway.download.extend block }.inspectPackage =
          (Package.appraiseHeader gateway.config.ecu upload.image).map VerifiedPackage.header :=
        Gateway.inspectPackage_of_front front filling.total whole
      rw [refused, filling.config] at found
      cases header : Package.appraiseHeader start.config.ecu upload.image with
      | ok package =>
          rw [header] at found
          cases found
      | error reason =>
          rw [header] at found
          cases found
          refine .inr ⟨by rw [leaves.download]; rfl, fault,
            Package.appraise_of_header_error header, ?_⟩
          rw [Package.failure_of_appraiseHeader enough header]
          exact leaves.events

/-- The exit comes to the verdict on the image. -/
theorem exit (filling : upload.Filling start gateway upload.blocks) (fits : upload.Fits start)
    (asks : Asks gateway input upload.tester (.requestTransferExit upload.exitParameters)) :
    (gateway.step input).2.download.isActive = false ∧
      upload.Verdict start [gateway.exchange input] [gateway.exchange input] := by
  have verifying : gateway.config.download.verifyPackage = true := by
    rw [filling.config]
    exact fits.verifying
  have received : gateway.download.received = upload.image := filling.received
  have complete : gateway.download.received.length = gateway.download.total.toNat := by
    rw [received, filling.total, toNat_size fits.addressable]
  have awaiting := (filling.sound.active filling.active).awaiting.mpr complete
  have closed : gateway.download.exit =
      (.ok { address := upload.address, data := upload.image },
        { gateway.download with state := .complete, received := [] }) :=
    Download.exit_eq_ok_iff.mpr ⟨awaiting, by rw [filling.address, received], rfl⟩
  obtain ⟨verdict, last⟩ := filling.inspection.verdict_eq_appraise upload.address verifying
    filling.active received filling.total fits.addressable
  rw [filling.config] at verdict last
  cases appraised : Package.appraise start.config.ecu upload.image with
  | ok package =>
      rw [appraised] at verdict
      have leaves := asks.completes closed verdict
      refine ⟨by rw [leaves.download]; rfl, .delivered appraised ?_ ?_⟩
      · intro exchange member
        rw [List.mem_singleton.mp member]
        exact ⟨_, asks.carried, GatewayOutput.grants_of_positive leaves.replies⟩
      · exact (List.append_nil _).trans leaves.events
  | error fault =>
      rw [appraised] at verdict
      have leaves := asks.refusesPackage closed verdict
      refine ⟨by rw [leaves.download]; rfl, .refused appraised ?_⟩
      rw [last fault appraised]
      exact (List.append_nil _).trans leaves.events

/-- From any point of an upload on, the rest of it comes to the verdict on the image. -/
theorem run {remaining : List Octets} {inputs : List GatewayInput} {own : List Exchange}
    (filling : upload.Filling start gateway sent) (fits : upload.Fits start)
    (blocks : upload.blocks = sent ++ remaining)
    (woven : Woven own (gateway.history inputs))
    (makes : upload.Makes start (upload.closing sent.length remaining) own) :
    upload.Verdict start own (gateway.history inputs) := by
  -- Every input is a bystander, which leaves the upload where it is, or its next request.
  induction inputs generalizing gateway sent remaining own with
  | nil =>
      cases woven
      cases remaining <;> cases makes
  | cons input inputs inductionHypothesis =>
      rw [Gateway.history_cons] at woven ⊢
      have localAddress : start.localAddress = gateway.localAddress := by
        rw [Gateway.localAddress, Gateway.localAddress, filling.config]
      cases woven with
      | other bystander rest =>
          obtain ⟨later, silent⟩ := filling.other bystander
          exact (inductionHypothesis later blocks rest makes).cons_other silent
      | own rest =>
          cases remaining with
          | nil =>
              obtain ⟨carried, done⟩ := makes_cons_iff.mp makes
              rw [localAddress] at carried
              rw [List.append_nil] at blocks
              subst blocks
              obtain ⟨inactive, verdict⟩ := filling.exit fits ⟨carried, filling.owner⟩
              have silent := idle_run (by simp) inactive rest done
              rw [List.map_eq_nil_iff.mp done]
              exact verdict.append_idle silent
          | cons block remaining =>
              obtain ⟨carried, later⟩ := makes_cons_iff.mp makes
              rw [localAddress] at carried
              have asks : Asks gateway input upload.tester
                  (.transferData (Download.blockCounter sent.length) block) :=
                ⟨carried, filling.owner⟩
              rcases filling.block fits blocks asks with
                ⟨more, silent, granted⟩ | ⟨inactive, fault, appraised, events⟩
              · have together : upload.blocks = sent ++ [block] ++ remaining := by simp [blocks]
                have count : (sent ++ [block]).length = sent.length + 1 := by simp
                rw [← count] at later
                exact (inductionHypothesis more together rest later).cons_own silent granted
              · have idle := idle_run (fun _ => not_opens_of_closing) inactive rest later
                refine .refused appraised ?_
                rw [transferEvents_cons, events, idle]
                rfl

end Filling

end Upload

/-- What comes of an uploaded image is decided by the image and by the control unit that the gateway
is: not by the cut into blocks, and not by what comes in between.  An image that is appraised is
delivered, and all requests are answered positively; any other fails once, for the reason that the
appraisal gives, and is not delivered. -/
theorem upload_verdict_of_image {upload : Upload} {gateway : Gateway}
    (fits : upload.Fits gateway) {opening : GatewayInput} {inputs : List GatewayInput}
    {own : List Exchange} (woven : Woven own ((gateway.step opening).2.history inputs))
    (makes : upload.Makes gateway upload.requests (gateway.exchange opening :: own)) :
    (∀ package, Package.appraise gateway.config.ecu upload.image = .ok package →
      (∀ exchange ∈ gateway.exchange opening :: own, exchange.Granted) ∧
        transferEvents (gateway.history (opening :: inputs)) =
          [.transferStarted upload.address upload.size,
            .transferCompleted { address := upload.address, data := upload.image }
              (some package)] ∧
        Package.verify upload.image = .ok package.header) ∧
    ∀ fault, Package.appraise gateway.config.ecu upload.image = .error fault →
      transferEvents (gateway.history (opening :: inputs)) =
          [.transferStarted upload.address upload.size, .transferFailed fault.failure] ∧
        fault.failure.code = fault.code := by
  obtain ⟨carried, later⟩ := Upload.makes_cons_iff.mp makes
  have asks : Asks gateway opening upload.tester
      (.requestDownload upload.dataFormat upload.address upload.size) := ⟨carried, fits.owner⟩
  obtain ⟨filling, started, granted⟩ := Upload.Filling.opening fits asks
  have verdict := filling.run fits rfl woven later
  rw [Gateway.history_cons, transferEvents_cons, started]
  cases verdict with
  | @delivered package appraised others events =>
      refine ⟨?_, fun fault refused => ?_⟩
      · intro found same
        cases appraised.symm.trans same
        refine ⟨?_, by rw [events]; rfl, Package.verify_of_appraise_ok fits.addressable appraised⟩
        intro exchange member
        rcases List.mem_cons.mp member with rfl | other
        · exact granted
        · exact others exchange other
      · rw [appraised] at refused
        cases refused
  | @refused fault appraised events =>
      refine ⟨fun package accepted => ?_, ?_⟩
      · rw [appraised] at accepted
        cases accepted
      · intro reason same
        cases appraised.symm.trans same
        exact ⟨by rw [events]; rfl, fault.code_failure⟩

/-- The sample package in two blocks, of which the first ends inside the header. -/
def sampleUpload : Upload :=
  { tester := 0x0E00
    dataFormat := 0
    address := 0x10
    blocks := [samplePackage.take 40, samplePackage.drop 40]
    exitParameters := [] }

/-- A gateway with default settings, active for the sample tester. -/
def sampleGateway : Gateway := ((Gateway.ofConfig {}).step sampleActivation).2

/-- The opening of the sample upload. -/
def sampleUploadOpening : GatewayInput := sampleRequest [0x34, 0x00, 0x11, 0x10, 0x42]

/-- The inputs of the sample upload after its opening.  The second is a block with a wrong
counter. -/
def sampleBlocks : List GatewayInput :=
  [sampleRequest (0x36 :: 0x01 :: samplePackage.take 40), sampleRequest [0x36, 0x07, 0xDD],
    sampleRequest (0x36 :: 0x02 :: samplePackage.drop 40), sampleRequest [0x37]]

theorem upload_verdict_of_image_sample :
    sampleUpload.Fits sampleGateway ∧
      ∃ package, transferEvents
          (sampleGateway.history (sampleUploadOpening :: sampleBlocks)) =
        [.transferStarted 0x10 sampleUpload.size,
          .transferCompleted { address := 0x10, data := sampleUpload.image } (some package)] := by
  have fits : sampleUpload.Fits sampleGateway :=
    ⟨rfl, rfl, rfl, by decide, by decide, by decide, by decide, by decide, by decide⟩
  obtain ⟨own, woven, makes⟩ : ∃ own,
      Woven own ((sampleGateway.step sampleUploadOpening).2.history
        sampleBlocks) ∧
      sampleUpload.Makes sampleGateway sampleUpload.requests
        (sampleGateway.exchange sampleUploadOpening :: own) := by
    simp only [sampleBlocks, Gateway.history_cons, Gateway.history_nil]
    refine ⟨_, .own (.other ⟨by simp [Gateway.exchange, sampleRequest], ?_, ?_⟩
      (.own (.own .done))), rfl⟩
    · intro fault failed
      cases failed
    · exact Service.forall_programming.mpr (by decide)
  have accepted : (Package.appraise sampleGateway.config.ecu sampleUpload.image).isOk = true := by
    decide +kernel
  cases appraised : Package.appraise sampleGateway.config.ecu sampleUpload.image with
  | ok package =>
      obtain ⟨-, events, -⟩ := (upload_verdict_of_image fits woven makes).1 package appraised
      exact ⟨fits, package, events⟩
  | error fault =>
      rw [appraised] at accepted
      cases accepted

end DiagnosticGateway
