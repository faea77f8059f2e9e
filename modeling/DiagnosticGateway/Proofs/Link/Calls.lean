/-
Module: DiagnosticGateway.Proofs.Link.Calls
Purpose: What is written to the peer, and what becomes of the calls of the host.
Main exports:
  LinkDesk.WritesOut, LinkDesk.places, LinkDesk.Placed, LinkDesk.Requests, LinkDesk.Settles,
  LinkDesk.Ledger, Link.Runs.ledger, Link.ServesCalls, calls_served_exactly_once
-/
import DiagnosticGateway.Proofs.Gateway.OpenDownload
import DiagnosticGateway.Proofs.Link.Desk

/-!
What was written and what the owner still has to write is what it has taken on, in this order.  A call
that was made is in exactly one place: it waits, it is in the owner's hand, or it has returned.  From
the two it follows which calls have a frame in what was written.
-/

namespace DiagnosticGateway

namespace LinkDesk

/-! ## What is written -/

/-- What was written is the beginning of what the owner has taken on, and what it still has to write
is the rest. -/
structure WritesOut (dispatches : List Dispatch) (desk : LinkDesk) : Prop where
  going : desk.ending = none →
    desk.written ++ desk.unwritten.flatMap Frame.encode = wire dispatches
  ended : ∀ outcome, desk.ending = some outcome →
    desk.written <+: wire dispatches ∧ (outcome = .error .write ∨ desk.written = wire dispatches)

variable {address : UInt16} {before after : LinkDesk} {command : Option LinkCommand}
  {commands : List LinkCommand} {dispatches more : List Dispatch}

theorem WritesOut.whole {desk : LinkDesk} (writes : desk.WritesOut dispatches) (idle : desk.Idle) :
    desk.written = wire dispatches := by
  have all := writes.going idle.going
  rwa [idle.written, List.flatMap_nil, List.append_nil] at all

theorem WritesOut.front {desk : LinkDesk} (writes : desk.WritesOut dispatches) :
    desk.written <+: wire dispatches := by
  cases ending : desk.ending with
  | none => exact ⟨_, writes.going ending⟩
  | some outcome => exact (writes.ended outcome ending).1

theorem WritesOut.of_going {desk : LinkDesk} (going : desk.ending = none)
    (whole : desk.written ++ desk.unwritten.flatMap Frame.encode = wire dispatches) :
    desk.WritesOut dispatches :=
  ⟨fun _ => whole, fun _ ending => absurd (ending.symm.trans going) (Option.some_ne_none _)⟩

theorem Step.writesOut (step : Step address before command more after)
    (writes : before.WritesOut dispatches) : after.WritesOut (dispatches ++ more) := by
  cases step with
  | aside | called | turnedAway | refused | forgot =>
      rw [List.append_nil]
      exact ⟨writes.going, writes.ended⟩
  | exchanged exchange idle | tookDeactivation exchange idle | tookRequest idle =>
      refine .of_going idle.going ?_
      rw [writes.whole idle, wire_append]
      simp [wire, Dispatch.frames]
  | wrote going next =>
      rw [List.append_nil]
      refine .of_going going ?_
      rw [← writes.going going, next, List.flatMap_cons, List.append_assoc]
  | replied going hand whole =>
      rw [List.append_nil]
      refine .of_going going ?_
      rw [whole, writes.going going]
      exact List.append_nil _
  | broke going front =>
      rw [List.append_nil]
      refine ⟨fun is => absurd is (Option.some_ne_none _), fun outcome ending => ⟨?_, ?_⟩⟩
      · rw [← writes.going going]
        exact (List.prefix_append_right_inj _).mpr front
      · exact .inl (Option.some.inj ending).symm
  | left outcome idle =>
      rw [List.append_nil]
      refine ⟨fun is => absurd is (Option.some_ne_none _), fun _ _ => ?_⟩
      rw [← writes.whole idle]
      exact ⟨List.prefix_refl _, .inr rfl⟩

/-! ## Where the calls are -/

/-- In how many places a call is. -/
def places (desk : LinkDesk) (call : Nat) : Nat :=
  (desk.replies.map Prod.fst).count call + desk.inHand.toList.count call +
    (desk.commands.map Prod.fst).count call

theorem Step.calls_eq (step : Step address before command more after) :
    after.calls = before.calls + command.toList.length := by
  cases step <;> rfl

/-- A call that is made comes to one place; apart from that, calls only go from place to place. -/
theorem Step.places_eq (step : Step address before command more after) (call : Nat) :
    after.places call =
      before.places call + if command.isSome = true ∧ before.calls = call then 1 else 0 := by
  cases step with
  | aside | exchanged | wrote | left => rfl
  | called command | turnedAway command =>
      simp only [places, List.map_append, List.map_cons, List.map_nil, List.count_append,
        List.count_singleton, beq_iff_eq, Option.isSome_some, true_and]
      omega
  | tookDeactivation exchange idle queued | tookRequest idle queued =>
      simp only [places, queued, idle.free, Option.toList_some, Option.toList_none, List.map_cons,
        List.count_cons, List.count_nil]
      simp only [Option.isSome_none, Bool.false_eq_true, false_and, if_false]
      omega
  | refused idle queued =>
      simp only [places, queued, List.map_append, List.map_cons, List.map_nil, List.count_append,
        List.count_cons, List.count_nil]
      simp only [Option.isSome_none, Bool.false_eq_true, false_and, if_false]
      omega
  | replied going hand =>
      simp only [places, hand, Option.toList_some, Option.toList_none, List.map_append, List.map_cons,
        List.map_nil, List.count_append, List.count_cons, List.count_nil]
      simp only [Option.isSome_none, Bool.false_eq_true, false_and, if_false]
      omega
  | broke going front =>
      simp only [places, Option.toList_none, List.map_append, List.map_map, List.count_append,
        List.count_nil, Function.comp_def, List.map_id']
      simp only [Option.isSome_none, Bool.false_eq_true, false_and, if_false]
      omega
  | forgot leaving =>
      have numbers (result : Except LinkFault Unit) :
          Prod.fst ∘ (fun entry : Nat × LinkCommand => (entry.1, result)) = Prod.fst := rfl
      simp only [places, List.map_append, List.map_map, List.count_append, List.map_nil,
        List.count_nil, numbers]
      simp only [Option.isSome_none, Bool.false_eq_true, false_and, if_false]
      omega

/-- Every call that was made is in exactly one place.  An owner that leaves has no call in hand, and
when it is gone no call waits. -/
structure Placed (commands : List LinkCommand) (desk : LinkDesk) : Prop where
  counted : desk.calls = commands.length
  one : ∀ call, desk.places call = if call < desk.calls then 1 else 0
  left : desk.ending ≠ none → desk.inHand = none
  gone : desk.ended = true → desk.inHand = none ∧ desk.commands = []

theorem Step.placed (step : Step address before command more after)
    (placed : before.Placed commands) : after.Placed (commands ++ command.toList) := by
  obtain ⟨counted, one, left, gone⟩ := placed
  have calls := step.calls_eq
  constructor
  · rw [calls, counted, List.length_append]
  · intro call
    cases command with
    | none =>
        have same : after.calls = before.calls := calls
        rw [step.places_eq, one, same]
        simp
    | some command =>
        have next : after.calls = before.calls + 1 := calls
        rw [step.places_eq, one, next]
        simp only [Option.isSome_some, true_and]
        repeat' split
        all_goals omega
  · cases step with
    | aside | called | turnedAway | refused | wrote | forgot => exact left
    | exchanged _ idle | tookDeactivation _ idle | tookRequest idle =>
        exact fun is => absurd idle.going is
    | replied | broke => exact fun _ => rfl
    | left _ idle => exact fun _ => idle.free
  · cases step with
    | aside | exchanged | wrote | left => exact gone
    | called _ running => exact fun is => absurd (running.symm.trans is) Bool.false_ne_true
    | turnedAway => exact gone
    | tookDeactivation _ _ queued | tookRequest _ queued | refused _ queued =>
        exact fun is => absurd (queued.symm.trans (gone is).2) nofun
    | replied => exact fun is => ⟨rfl, (gone is).2⟩
    | broke => exact fun is => ⟨rfl, (gone is).2⟩
    | forgot leaving => exact fun _ => ⟨left (Option.isSome_iff_ne_none.mp leaving), rfl⟩

namespace Placed

variable {desk : LinkDesk} {call : Nat}

/-- A call that waits was made, and is nowhere else. -/
theorem of_waits (placed : desk.Placed commands) (waits : call ∈ desk.commands.map Prod.fst) :
    call < desk.calls ∧ call ∉ desk.replies.map Prod.fst ∧
      (desk.commands.map Prod.fst).count call = 1 := by
  have once := placed.one call
  have some := List.count_pos_iff.mpr waits
  have returned : call ∈ desk.replies.map Prod.fst →
      0 < (desk.replies.map Prod.fst).count call := List.count_pos_iff.mpr
  unfold places at once
  split at once
  · rename_i made
    refine ⟨made, fun is => ?_, by omega⟩
    have more := returned is
    omega
  · omega

theorem nodup (placed : desk.Placed commands) : (desk.replies.map Prod.fst).Nodup := by
  rw [List.nodup_iff_count]
  intro call
  have once := placed.one call
  unfold places at once
  split at once <;> omega

/-- When the owner is gone, every call that was made has returned. -/
theorem returned (placed : desk.Placed commands) (ended : desk.ended = true)
    (made : call < commands.length) : call ∈ desk.replies.map Prod.fst := by
  obtain ⟨free, empty⟩ := placed.gone ended
  have once := placed.one call
  rw [places, free, empty, placed.counted, if_pos made] at once
  exact List.count_pos_iff.mp (by simpa using Nat.lt_of_lt_of_eq Nat.one_pos once.symm)

end Placed

/-! ## What the owner has taken on for a call -/

/-- What the owner is about when it has a call in hand. -/
inductive ActsFor (address : UInt16) (commands : List LinkCommand) (dispatches : List Dispatch)
    (call : Nat) : Prop where
  | deactivates (command : commands[call]? = some .deactivate)
  /-- The request of the call is the last that it has taken on. -/
  | sends {target : UInt16} {userData : Octets} {earlier : List Dispatch}
      (command : commands[call]? = some (.sendDiagnostic target userData))
      (last : dispatches = earlier ++ [.request call (requestFrame address target userData)])
      (first : call ∉ requested earlier)

/-- Calls that wait have not been taken on, and the one in hand is what was taken on last. -/
structure Requests (address : UInt16) (commands : List LinkCommand) (dispatches : List Dispatch)
    (desk : LinkDesk) : Prop where
  distinct : (requested dispatches).Nodup
  known : ∀ call ∈ requested dispatches, call < desk.calls ∧ call ∉ desk.commands.map Prod.fst
  /-- What was taken on is done, unless it is in hand or writing has failed. -/
  done : ∀ call ∈ requested dispatches, desk.inHand = some call ∨ (call, .ok ()) ∈ desk.replies ∨
    desk.ending = some (.error .write)
  queued : ∀ entry ∈ desk.commands, commands[entry.1]? = some entry.2
  hand : ∀ call, desk.inHand = some call → ActsFor address commands dispatches call

/-- What was asked for stays what it is when more is asked for. -/
theorem asked_append {call : Nat} {asked : LinkCommand} (found : commands[call]? = some asked)
    (later : List LinkCommand) : (commands ++ later)[call]? = some asked := by
  rw [List.getElem?_append_left (List.getElem?_eq_some_iff.mp found).1]
  exact found

@[simp] theorem requested_output (exchange : Exchange) :
    requested (dispatches ++ [.output exchange]) = requested dispatches := by
  simp [requested, Dispatch.call?]

@[simp] theorem requested_request (call : Nat) (frame : Frame) :
    requested (dispatches ++ [.request call frame]) = requested dispatches ++ [call] := by
  simp [requested, Dispatch.call?]

theorem ActsFor.append {call : Nat} (acts : ActsFor address commands dispatches call)
    (later : List LinkCommand) : ActsFor address (commands ++ later) dispatches call := by
  cases acts with
  | deactivates command => exact .deactivates (asked_append command later)
  | sends command last first => exact .sends (asked_append command later) last first

/-- While the owner has nothing to do, all that it has taken on is done. -/
theorem Idle.returned_of_done {desk : LinkDesk} {call : Nat} (idle : desk.Idle)
    (done : desk.inHand = some call ∨ (call, .ok ()) ∈ desk.replies ∨
      desk.ending = some (.error .write)) : (call, .ok ()) ∈ desk.replies := by
  rcases done with holding | returned | broken
  · exact absurd (holding.symm.trans idle.free) (Option.some_ne_none _)
  · exact returned
  · exact absurd (broken.symm.trans idle.going) (Option.some_ne_none _)

/-- When a call has been taken from the queue, what was taken on before does not wait either. -/
theorem known_of_cons {taken : List Nat} {made : Nat} {entry : Nat × LinkCommand}
    {rest : List (Nat × LinkCommand)}
    (known : ∀ call ∈ taken, call < made ∧ call ∉ (entry :: rest).map Prod.fst) :
    ∀ call ∈ taken, call < made ∧ call ∉ rest.map Prod.fst := by
  intro call member
  obtain ⟨before, elsewhere⟩ := known call member
  exact ⟨before, fun waits => elsewhere (List.mem_cons_of_mem _ waits)⟩

/-- The owner takes on a request that waits. -/
theorem Requests.take {call : Nat} {target : UInt16} {userData : Octets}
    {rest : List (Nat × LinkCommand)} (requests : before.Requests address commands dispatches)
    (placed : before.Placed commands) (idle : before.Idle)
    (waits : before.commands = (call, .sendDiagnostic target userData) :: rest) :
    Requests address commands
      (dispatches ++ [.request call (requestFrame address target userData)])
      { before with
        unwritten := [requestFrame address target userData]
        inHand := some call
        commands := rest } := by
  obtain ⟨distinct, known, done, queued, -⟩ := requests
  have member : call ∈ before.commands.map Prod.fst := by
    rw [waits]
    exact List.mem_cons_self
  obtain ⟨made, -, once⟩ := placed.of_waits member
  have unknown : call ∉ requested dispatches := fun is => (known call is).2 member
  rw [waits] at known queued
  rw [waits, List.map_cons, List.count_cons_self] at once
  obtain ⟨first, others⟩ := List.forall_mem_cons.mp queued
  have gone : call ∉ rest.map Prod.fst := List.count_eq_zero.mp (Nat.succ.inj once)
  constructor
  case distinct =>
    rw [requested_request]
    refine List.nodup_append.mpr ⟨distinct, List.pairwise_singleton _ _, ?_⟩
    rintro earlier is other single rfl
    exact unknown (List.mem_singleton.mp single ▸ is)
  case known =>
    rw [requested_request]
    exact List.forall_mem_append.mpr
      ⟨known_of_cons known, List.forall_mem_singleton.mpr ⟨made, gone⟩⟩
  case done =>
    rw [requested_request]
    refine List.forall_mem_append.mpr
      ⟨fun earlier is => ?_, List.forall_mem_singleton.mpr (.inl rfl)⟩
    exact .inr (.inl (idle.returned_of_done (done earlier is)))
  case queued => exact others
  case hand =>
    intro other same
    cases same
    exact .sends first rfl unknown

theorem Step.requests (step : Step address before command more after)
    (placed : before.Placed commands) (requests : before.Requests address commands dispatches) :
    after.Requests address (commands ++ command.toList) (dispatches ++ more) := by
  have ⟨distinct, known, done, queued, hand⟩ := requests
  have still : ∀ entry ∈ before.commands, (commands ++ command.toList)[entry.1]? = some entry.2 :=
    fun entry member => asked_append (queued entry member) _
  have acts : ∀ call, before.inHand = some call →
      ActsFor address (commands ++ command.toList) dispatches call :=
    fun call is => (hand call is).append _
  cases step with
  | aside | wrote =>
      rw [List.append_nil dispatches]
      exact ⟨distinct, known, done, still, acts⟩
  | left outcome idle =>
      rw [List.append_nil dispatches]
      refine ⟨distinct, known, fun call member => ?_, still, acts⟩
      exact .inr (.inl (idle.returned_of_done (done call member)))
  | called command running =>
      rw [List.append_nil]
      refine ⟨distinct, fun call member => ?_, done, ?_, acts⟩
      · obtain ⟨made, elsewhere⟩ := known call member
        refine ⟨Nat.lt_succ_of_lt made, ?_⟩
        simp only [List.map_append, List.map_cons, List.map_nil, List.mem_append,
          List.mem_singleton, not_or]
        exact ⟨elsewhere, Nat.ne_of_lt made⟩
      · refine List.forall_mem_append.mpr ⟨still, List.forall_mem_singleton.mpr ?_⟩
        rw [placed.counted]
        simp
  | turnedAway =>
      rw [List.append_nil]
      refine ⟨distinct, fun call member => ?_, fun call member => ?_, still, acts⟩
      · exact ⟨Nat.lt_succ_of_lt (known call member).1, (known call member).2⟩
      · exact (done call member).imp_right (.imp_left (List.mem_append_left _))
  | exchanged exchange idle =>
      rw [← requested_output exchange] at distinct known done
      refine ⟨distinct, known, done, still, fun call same => ?_⟩
      exact absurd (same.symm.trans idle.free) (Option.some_ne_none _)
  | tookDeactivation exchange idle waits =>
      rw [← requested_output exchange] at distinct known done
      rw [waits] at known still
      obtain ⟨first, others⟩ := List.forall_mem_cons.mp still
      refine ⟨distinct, known_of_cons known, fun call member => ?_, others, fun call same => ?_⟩
      · exact .inr (.inl (idle.returned_of_done (done call member)))
      · cases same
        exact .deactivates first
  | tookRequest idle waits =>
      rw [Option.toList_none, List.append_nil]
      exact requests.take placed idle waits
  | refused idle waits =>
      rw [List.append_nil dispatches]
      rw [waits] at known still
      refine ⟨distinct, known_of_cons known, fun call member => ?_,
        (List.forall_mem_cons.mp still).2, acts⟩
      exact (done call member).imp_right (.imp_left (List.mem_append_left _))
  | replied going holds =>
      rw [List.append_nil dispatches]
      refine ⟨distinct, known, fun call member => .inr ?_, still, nofun⟩
      rcases done call member with holding | returned | broken
      · cases holds.symm.trans holding
        exact .inl (List.mem_append_right _ (List.mem_singleton.mpr rfl))
      · exact .inl (List.mem_append_left _ returned)
      · exact .inr broken
  | broke =>
      rw [List.append_nil dispatches]
      exact ⟨distinct, known, fun _ _ => .inr (.inr rfl), still, nofun⟩
  | forgot =>
      rw [List.append_nil dispatches]
      refine ⟨distinct, fun call member => ⟨(known call member).1, nofun⟩, fun call member => ?_,
        nofun, acts⟩
      exact (done call member).imp_right (.imp_left (List.mem_append_left _))

/-! ## What the calls have returned -/

/-- What a call has returned, and what it says about what was written. -/
inductive Settles (address : UInt16) (commands : List LinkCommand) (dispatches : List Dispatch)
    (written : Octets) : Nat × Except LinkFault Unit → Prop where
  | deactivated {call : Nat} (command : commands[call]? = some .deactivate) :
      Settles address commands dispatches written (call, .ok ())
  /-- The owner has taken on one frame for the call, and it is in what was written. -/
  | sent {call : Nat} {target : UInt16} {userData : Octets} {earlier later : List Dispatch}
      (command : commands[call]? = some (.sendDiagnostic target userData))
      (request : dispatches =
        earlier ++ .request call (requestFrame address target userData) :: later)
      (first : call ∉ requested earlier) (last : call ∉ requested later)
      (whole : wire (earlier ++ [.request call (requestFrame address target userData)]) <+: written) :
      Settles address commands dispatches written (call, .ok ())
  /-- The gateway has refused, and the owner has taken on nothing for the call. -/
  | refused {call : Nat} {target : UInt16} {userData : Octets} {fault : GatewayFault}
      (command : commands[call]? = some (.sendDiagnostic target userData))
      (refuses : fault.RefusesRequest) (unsent : call ∉ requested dispatches) :
      Settles address commands dispatches written (call, .error (.gateway fault))
  /-- The link ends. -/
  | closed (call : Nat) : Settles address commands dispatches written (call, .error .closed)

/-- What a call has returned stays true when something is taken on for another. -/
theorem Settles.mono {written grown : Octets} {reply : Nat × Except LinkFault Unit}
    (settles : Settles address commands dispatches written reply) (later : List LinkCommand)
    (other : reply.1 ∉ requested more) (grows : written <+: grown) :
    Settles address (commands ++ later) (dispatches ++ more) grown reply := by
  cases settles with
  | deactivated command => exact .deactivated (asked_append command later)
  | @sent call target userData earlier rest command request first last whole =>
      have split : dispatches ++ more =
          earlier ++ .request call (requestFrame address target userData) :: (rest ++ more) := by
        rw [request, List.append_assoc, List.cons_append]
      have never : call ∉ requested (rest ++ more) := by
        rw [requested_append, List.mem_append, not_or]
        exact ⟨last, other⟩
      exact .sent (asked_append command later) split first never (whole.trans grows)
  | refused command refuses unsent =>
      refine .refused (asked_append command later) refuses ?_
      rw [requested_append, List.mem_append, not_or]
      exact ⟨unsent, other⟩
  | closed call => exact .closed call

theorem Step.written_prefix (step : Step address before command more after) :
    before.written <+: after.written := by
  cases step with
  | aside | called | turnedAway | exchanged | tookDeactivation | tookRequest | refused | left
  | forgot =>
      exact List.prefix_refl _
  | wrote | broke => exact List.prefix_append _ _
  | replied going hand whole =>
      rw [whole]
      exact List.prefix_append _ _

/-- A call that has returned is not what the owner takes on. -/
theorem Step.other_of_returned (step : Step address before command more after)
    (placed : before.Placed commands) {reply : Nat × Except LinkFault Unit}
    (returned : reply ∈ before.replies) : reply.1 ∉ requested more := by
  cases step with
  | aside | called | turnedAway | exchanged | tookDeactivation | refused | wrote | replied | broke
  | left | forgot => exact nofun
  | @tookRequest taken target userData rest idle waits =>
      intro is
      obtain rfl : reply.1 = taken := by simpa [requested, Dispatch.call?] using is
      have member : reply.1 ∈ before.commands.map Prod.fst := by
        rw [waits]
        exact List.mem_cons_self
      exact (placed.of_waits member).2.1 (List.mem_map_of_mem returned)

theorem Step.settles (step : Step address before command more after)
    (writes : before.WritesOut dispatches) (placed : before.Placed commands)
    (requests : before.Requests address commands dispatches)
    (settles : ∀ reply ∈ before.replies, Settles address commands dispatches before.written reply) :
    ∀ reply ∈ after.replies,
      Settles address (commands ++ command.toList) (dispatches ++ more) after.written reply := by
  have old : ∀ reply ∈ before.replies,
      Settles address (commands ++ command.toList) (dispatches ++ more) after.written reply :=
    fun reply member =>
      (settles reply member).mono _ (step.other_of_returned placed member) step.written_prefix
  cases step with
  | aside | called | exchanged | tookDeactivation | tookRequest | wrote | left => exact old
  | turnedAway =>
      exact List.forall_mem_append.mpr ⟨old, List.forall_mem_singleton.mpr (.closed _)⟩
  | @refused taken target userData fault rest idle waits refuses =>
      refine List.forall_mem_append.mpr ⟨old, List.forall_mem_singleton.mpr ?_⟩
      have member : (taken, .sendDiagnostic target userData) ∈ before.commands := by
        rw [waits]
        exact List.mem_cons_self
      refine .refused (asked_append (requests.queued _ member) _) refuses fun is => ?_
      rw [List.append_nil] at is
      exact (requests.known taken is).2 (List.mem_map_of_mem member)
  | @replied taken written going hand whole =>
      refine List.forall_mem_append.mpr ⟨old, List.forall_mem_singleton.mpr ?_⟩
      cases requests.hand taken hand with
      | deactivates command => exact .deactivated (asked_append command _)
      | sends command last first =>
          have all : wire dispatches = written := (whole.trans (writes.going going)).symm
          rw [last] at all
          exact .sent (asked_append command _) ((List.append_nil _).trans last) first nofun
            (all ▸ List.prefix_refl _)
  | broke going front =>
      refine List.forall_mem_append.mpr ⟨old, ?_⟩
      rintro _ member
      obtain ⟨call, -, rfl⟩ := List.mem_map.mp member
      exact .closed call
  | forgot leaving =>
      refine List.forall_mem_append.mpr ⟨old, ?_⟩
      rintro _ member
      obtain ⟨entry, -, rfl⟩ := List.mem_map.mp member
      exact .closed entry.1

/-! ## Runs -/

/-- What the desk keeps in every run. -/
structure Ledger (address : UInt16) (commands : List LinkCommand) (dispatches : List Dispatch)
    (desk : LinkDesk) : Prop where
  writes : desk.WritesOut dispatches
  placed : desk.Placed commands
  requests : desk.Requests address commands dispatches
  settles : ∀ reply ∈ desk.replies, Settles address commands dispatches desk.written reply

theorem Step.ledger (step : Step address before command more after)
    (ledger : before.Ledger address commands dispatches) :
    after.Ledger address (commands ++ command.toList) (dispatches ++ more) where
  writes := step.writesOut ledger.writes
  placed := step.placed ledger.placed
  requests := step.requests ledger.placed ledger.requests
  settles := step.settles ledger.writes ledger.placed ledger.requests ledger.settles

end LinkDesk

theorem Link.desk_ofGateway_ledger (address : UInt16) (gateway : Gateway) :
    (Link.ofGateway gateway).desk.Ledger address [] [] where
  writes := ⟨fun _ => rfl, nofun⟩
  placed := ⟨rfl, fun _ => rfl, nofun, nofun⟩
  requests := ⟨.nil, nofun, nofun, nofun, nofun⟩
  settles := nofun

/-- The address of the gateway is that of the settings. -/
theorem Link.Runs.localAddress {config : GatewayConfig} {steps : List LinkStep} {link : Link}
    (ran : Link.Runs config steps link) : link.gateway.localAddress = config.localAddress :=
  congrArg GatewayConfig.localAddress ran.reaches.gateway.settings.1

theorem Link.Runs.ledger {config : GatewayConfig} {steps : List LinkStep} {link : Link}
    (ran : Link.Runs config steps link) :
    link.desk.Ledger config.localAddress (asked steps) (dispatched steps) := by
  induction ran with
  | start started => exact desk_ofGateway_ledger _ _
  | step ran acted inductionHypothesis =>
      rw [asked_concat, dispatched_concat]
      have step := deskStep_of_act acted
      rw [ran.localAddress] at step
      exact step.ledger inductionHypothesis

/-- What the owner takes on is written exactly once and in order, and the calls return what is true of
it. -/
structure Link.ServesCalls (address : UInt16) (steps : List LinkStep) (link : Link) : Prop where
  /-- The outputs that the owner takes on are all that the gateway gives it. -/
  outputs : (dispatched steps).filterMap Dispatch.exchange? = answered (journal steps)
  /-- It takes on no call twice. -/
  requests : (requested (dispatched steps)).Nodup
  /-- At any time the beginning of what was taken on is written. -/
  inOrder : link.written <+: wire (dispatched steps)
  /-- Whenever the owner waits, all of it is written, and the calls have been told so. -/
  waiting : link.owner = .waiting →
    link.written = wire (dispatched steps) ∧
      ∀ call ∈ requested (dispatched steps), (call, .ok ()) ∈ link.replies
  /-- A call returns at most once. -/
  once : (link.replies.map Prod.fst).Nodup
  /-- What a call returns is one of these, and true. -/
  settled : ∀ reply ∈ link.replies,
    LinkDesk.Settles address (asked steps) (dispatched steps) link.written reply
  /-- When the owner is gone, every call that was made has returned. -/
  returned : link.outcome ≠ none →
    ∀ call < (asked steps).length, call ∈ link.replies.map Prod.fst

/-- In every run of a link, whatever order its activities take their turns in and whenever writing
fails, the frames of the outputs and of the calls are written once and in order, and no call is told
anything else than what was done for it. -/
theorem calls_served_exactly_once {config : GatewayConfig} {steps : List LinkStep} {link : Link}
    (ran : Link.Runs config steps link) : link.ServesCalls config.localAddress steps := by
  have ledger := ran.ledger
  constructor
  · exact filterMap_dispatched steps
  · exact ledger.requests.distinct
  · exact ledger.writes.front
  · intro waiting
    have idle := Link.idle_of_waiting waiting
    exact ⟨ledger.writes.whole idle, fun call member =>
      idle.returned_of_done (ledger.requests.done call member)⟩
  · exact ledger.placed.nodup
  · exact ledger.settles
  · intro gone call made
    obtain ⟨outcome, concluded⟩ := Option.ne_none_iff_exists'.mp gone
    have ended : link.desk.ended = true := by
      rw [Link.desk, Link.owner_of_outcome concluded]
      rfl
    exact ledger.placed.returned ended made

/-- A tester activates routing.  The host makes a call that is sent and one that is refused; then the
peer takes no more than three bytes, and the third call cannot be sent. -/
def sampleCalls : List LinkAction :=
  sampleTaken (ActivationRequest.toFrame { source := 0x0E00, activationType := 0 }) 7 ++
    [.call (.sendDiagnostic 0x0E00 [0x22, 0xF1, 0x94]), .call (.sendDiagnostic 0x0E00 []),
      .takeCommand, .proceed, .takeCommand, .call (.sendDiagnostic 0x0E00 [0x3E, 0x00]),
      .limitRoom 3, .takeCommand, .proceed, .proceed, .quitTicking 0] ++
    List.replicate 4 .proceed

theorem calls_served_exactly_once_sample :
    ∃ steps link, Link.Runs {} steps link ∧ link.fault? = some .write ∧
      link.replies.map (fun reply => (reply.1, reply.2.toBool)) =
        [(0, true), (1, false), (2, false)] ∧
      requested (dispatched steps) = [0, 2] ∧ link.written.length = 35 ∧
      link.ServesCalls 0x0100 steps := by
  have traced : ((Link.ofGateway (.ofConfig {})).trace? sampleCalls).any
      (fun run => decide (run.2.fault? = some .write) &&
        (decide (run.2.replies.map (fun reply => (reply.1, reply.2.toBool)) =
            [(0, true), (1, false), (2, false)]) &&
          (decide (requested (dispatched run.1) = [0, 2]) &&
            decide (run.2.written.length = 35)))) = true := by
    decide
  obtain ⟨⟨steps, link⟩, traced, seen⟩ := (Option.any_eq_true _ _).mp traced
  simp only [Bool.and_eq_true, decide_eq_true_eq] at seen
  obtain ⟨broken, returned, taken, length⟩ := seen
  have ran : Link.Runs {} steps link := Link.runs_of_trace rfl traced
  exact ⟨steps, link, ran, broken, returned, taken, length, calls_served_exactly_once ran⟩

end DiagnosticGateway
