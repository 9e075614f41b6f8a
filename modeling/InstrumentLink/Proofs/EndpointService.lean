import InstrumentLink.Proofs.EndpointSafety
import InstrumentLink.Proofs.Observation
import InstrumentLink.Simulation.RecordingBus

/-!
What an endpoint does for the packets it is handed.

A bus under watch keeps a list of all accesses to it. The accesses of a run of an endpoint are those
of the packets in the order in which they were handed out, writes before reads, and each packet that
reads is answered once, to the sender of the datagram that completed it. Packets of other widths are
counted and touch nothing.
-/

set_option autoImplicit false

namespace InstrumentLink

open Simulation (BusAccess)

/-- A register space with all accesses so far. To an endpoint it is the space itself. -/
structure Bus.Watched (Space : Type) where
  space : Space
  accesses : List BusAccess := []

namespace Bus.Watched

variable {Space : Type} [Bus Space]

instance : Bus (Watched Space) where
  read address watched :=
    let (value, space, log) := read address watched.space
    (value, ⟨space, watched.accesses ++ [.read address value]⟩, log)
  write address value watched :=
    let (space, log) := write address value watched.space
    (⟨space, watched.accesses ++ [.write address value]⟩, log)

theorem accesses_write_all (writes : List (UInt32 × UInt32)) (watched : Watched Space) :
    (writeAll writes watched).1.accesses =
      watched.accesses ++ writes.map fun access => .write access.1 access.2 := by
  induction writes generalizing watched with
  | nil => simp [writeAll]
  | cons access writes induction => simp [writeAll, induction, write]

theorem accesses_read_all (addresses : List UInt32) (watched : Watched Space) :
    (readAll addresses watched).2.1.accesses = watched.accesses ++
      List.zipWith .read addresses (readAll addresses watched).1 := by
  induction addresses generalizing watched with
  | nil => simp [readAll]
  | cons address addresses induction => simp [readAll, induction, read]

end Bus.Watched

namespace Etherbone

def Stats.count (request : Request) (sent : Bool) (stats : Stats) : Stats where
  executed := stats.executed + 1
  unsupported := stats.unsupported
  replies := stats.replies + if request.reads ≠ [] ∧ sent then 1 else 0
  replyFailures := stats.replyFailures + if request.reads ≠ [] ∧ !sent then 1 else 0

/-- What a request tries to send: the values read, to the sender of a datagram. -/
def Request.attempts (datagram : Udp.Datagram) (port : UInt16) (values : List UInt32) (sent : Bool)
    (request : Request) : List Udp.Attempt :=
  if request.reads = [] then []
  else
    [⟨some datagram.sourceIp, port, datagram.sourcePort,
      some (readReply request.byteEnable request.returnBase values), sent⟩]

namespace Endpoint

variable {Space : Type} [Bus Space]

def valuesRead (request : Request) (bus : Space) : List UInt32 :=
  (Bus.readAll request.reads (Bus.writeAll request.writes bus).1).1

def accessed (request : Request) (bus : Space) : Space :=
  (Bus.readAll request.reads (Bus.writeAll request.writes bus).1).2.1

def carriedOut (request : Request) (sent : Bool) (endpoint : Endpoint Space) : Endpoint Space :=
  { endpoint with
    bus := accessed request endpoint.bus
    stats := endpoint.stats.count request sent }

section Faithful

variable {Port : Type} [TransmitPort Port] {Sound : Port → Prop} {view : Port → PortView}
  {finish : Bytes → Bytes}

omit [Bus Space] in
theorem read_reply_fits {interface : Interface} (placed : interface.Placed) (byteEnable : UInt8)
    (base : UInt32) {values : List UInt32} (few : values.length ≤ maximumWords) :
    (readReply byteEnable base values).length ≤ Udp.payloadRoom interface := by
  have large := reply_room placed
  have longest : packetLength maximumWords 0 = 1036 := rfl
  simp only [readReply, List.length_append, length_header, length_block, headerLength,
    maximumWords] at few ⊢
  omega

omit [Bus Space] in
theorem count_reply_observed (binding : Udp.Binding) (recipient : Ipv4Address) (words : Nat)
    (sent : Bool) (endpoint : Endpoint Space) (port : Port) :
    Returns ((endpoint.countReply recipient words sent).observe binding port) fun seen =>
      seen.port = port ∧ seen.attempts = [] ∧ seen.result = { endpoint with
        stats.replies := endpoint.stats.replies + if sent then 1 else 0
        stats.replyFailures := endpoint.stats.replyFailures + if sent then 0 else 1 } := by
  unfold countReply
  cases sent with
  | true => exact Returns.ok ⟨rfl, rfl, by simp⟩
  | false => exact Returns.ok ⟨rfl, rfl, by simp [Udp.Observation.after]⟩

theorem perform_observed (faithful : FaithfulPort Sound view finish) {binding : Udp.Binding}
    (placed : binding.interface.Placed) (datagram : Udp.Datagram) (request : Request)
    (endpoint : Endpoint Space) (port : Port) (sound : Sound port)
    (few : request.reads.length ≤ maximumWords) :
    Returns ((endpoint.perform datagram request).observe binding port) fun seen =>
      Sound seen.port ∧ ∃ sent,
        seen.result = endpoint.carriedOut request sent ∧
        seen.attempts = request.attempts datagram endpoint.port
          (valuesRead request endpoint.bus) sent ∧
        (PromptPort Sound binding.interface → binding.cache.resolves datagram.sourceIp →
          sent = true) := by
  unfold perform
  apply Udp.Reaction.observe_report_all
  · exact fun seen before holds => holds
  · split
    · next noReads =>
        refine Returns.ok ⟨sound, true, ?_, ?_, fun _ _ => rfl⟩
        · simp [carriedOut, accessed, Stats.count, noReads]
        · simp [Request.attempts, noReads]
    · next reads =>
        have fits : (readReply request.byteEnable request.returnBase
            (valuesRead request endpoint.bus)).length ≤ Udp.payloadRoom binding.interface :=
          read_reply_fits placed _ _ (by rw [valuesRead, length_read_all]; exact few)
        have reading : valuesRead request endpoint.bus ≠ [] := values_ne_nil reads _
        have short := fits
        rw [length_read_reply _ _ reading] at short
        apply (Udp.payload_area_returns faithful.safe placed port sound).bind
        intro area length
        change Returns (Udp.Reaction.observe binding (reply datagram request
          (valuesRead request endpoint.bus) _ area) port) _
        rw [reply_eq datagram request _ reading (Nat.le_trans short (Nat.le_of_eq length.symm))]
        -- The reply stands in the payload area when it is sent, so it is what the attempt notes.
        apply (Udp.handed_in_stored faithful placed _ port sound fits).bind
        rintro stored ⟨sound, -, handed⟩
        apply (binding.send_to_sends faithful placed _ _ _ _ stored sound).bind
        rintro ⟨sent, after, log⟩ ⟨sound, -, prompt⟩
        apply (count_reply_observed binding _ _ sent _ after).bind
        rintro seen ⟨rfl, nothing, result⟩
        refine Returns.ok ⟨sound, sent, ?_, ?_, ?_⟩
        · rw [carriedOut, accessed]
          cases sent <;> simp [Udp.Observation.after, result, Stats.count, reads]
        · simp only [Udp.Observation.after, nothing, Request.attempts, if_neg reads,
            List.append_nil]
          exact congrArg (fun payload => [(⟨some datagram.sourceIp, endpoint.port,
            datagram.sourcePort, payload, sent⟩ : Udp.Attempt)]) handed
        · exact fun willing resolves => prompt willing resolves fits

theorem execute_observed (faithful : FaithfulPort Sound view finish) {binding : Udp.Binding}
    (placed : binding.interface.Placed) (datagram : Udp.Datagram) {packet : Bytes}
    (framed : Framed packet) (words : HasWords packet) (endpoint : Endpoint Space) (port : Port)
    (sound : Sound port) :
    Returns ((endpoint.execute datagram packet).observe binding port) fun seen =>
      Sound seen.port ∧
      if HasBusWidths packet then
        ∃ sent, seen.result = endpoint.carriedOut (requestOf packet) sent ∧
          seen.attempts = (requestOf packet).attempts datagram endpoint.port
            (valuesRead (requestOf packet) endpoint.bus) sent ∧
          (PromptPort Sound binding.interface → binding.cache.resolves datagram.sourceIp →
            sent = true)
      else
        seen.attempts = [] ∧ seen.result =
          { endpoint with stats.unsupported := endpoint.stats.unsupported + 1 } := by
  unfold execute
  rw [framed.is_supported]
  change Returns (Udp.Reaction.observe binding
    (if decide (HasBusWidths packet) then _ else _) port) _
  by_cases widths : HasBusWidths packet
  · rw [if_pos (decide_eq_true widths), framed.request words]
    simp only [if_pos widths]
    exact perform_observed faithful placed datagram (requestOf packet) endpoint port sound
      (length_reads_le packet)
  · rw [if_neg (by simpa using widths), framed.sizes.1, framed.sizes.2]
    simp only [if_neg widths]
    exact Returns.ok ⟨sound, rfl, rfl⟩

end Faithful

end Endpoint

/-- A packet and the datagram that completed it. -/
structure Job where
  datagram : Udp.Datagram
  packet : Bytes
  deriving DecidableEq, Repr

structure Execution extends Job where
  values : List UInt32
  sent : Bool

namespace Execution

def accesses (execution : Execution) : List BusAccess :=
  (requestOf execution.packet).writes.map (fun access => .write access.1 access.2) ++
    List.zipWith .read (requestOf execution.packet).reads execution.values

def attempts (port : UInt16) (execution : Execution) : List Udp.Attempt :=
  (requestOf execution.packet).attempts execution.datagram port execution.values execution.sent

end Execution

/-- What an endpoint did for packets: those of the executed widths were carried out in order, which
makes up all accesses and all attempts to send, and everything was counted. -/
structure Serviced {Space : Type} (jobs : List Job) (before after : Endpoint (Bus.Watched Space))
    (attempts : List Udp.Attempt) (executions : List Execution) : Prop where
  carried_out : executions.map Execution.toJob = jobs.filter fun job => HasBusWidths job.packet
  values : ∀ execution ∈ executions,
    execution.values.length = (requestOf execution.packet).reads.length
  accesses : after.bus.accesses = before.bus.accesses ++ executions.flatMap Execution.accesses
  tried : attempts = executions.flatMap (Execution.attempts before.port)
  port : after.port = before.port
  executed : after.stats.executed = before.stats.executed + UInt32.ofNat executions.length
  unsupported : after.stats.unsupported = before.stats.unsupported +
    UInt32.ofNat (jobs.countP fun job => ¬HasBusWidths job.packet)
  replies : after.stats.replies =
    before.stats.replies + UInt32.ofNat (attempts.countP Udp.Attempt.sent)
  failures : after.stats.replyFailures =
    before.stats.replyFailures + UInt32.ofNat (attempts.countP fun attempt => ¬attempt.sent)

namespace Serviced

variable {Space : Type} {before between after : Endpoint (Bus.Watched Space)}

theorem none (same : after.bus = before.bus) (port : after.port = before.port)
    (stats : after.stats = before.stats) : Serviced [] before after [] [] := by
  constructor <;> simp [same, port, stats]

theorem append {first second : List Job} {firstAttempts secondAttempts : List Udp.Attempt}
    {firstExecutions secondExecutions : List Execution}
    (earlier : Serviced first before between firstAttempts firstExecutions)
    (later : Serviced second between after secondAttempts secondExecutions) :
    Serviced (first ++ second) before after (firstAttempts ++ secondAttempts)
      (firstExecutions ++ secondExecutions) := by
  constructor
  · simp [earlier.carried_out, later.carried_out]
  · intro execution member
    exact (List.mem_append.mp member).elim (earlier.values execution) (later.values execution)
  · simp [later.accesses, earlier.accesses]
  · simp [later.tried, earlier.tried, earlier.port]
  · rw [later.port, earlier.port]
  · rw [later.executed, earlier.executed, List.length_append, UInt32.ofNat_add, UInt32.add_assoc]
  · rw [later.unsupported, earlier.unsupported, List.countP_append, UInt32.ofNat_add,
      UInt32.add_assoc]
  · rw [later.replies, earlier.replies, List.countP_append, UInt32.ofNat_add, UInt32.add_assoc]
  · rw [later.failures, earlier.failures, List.countP_append, UInt32.ofNat_add, UInt32.add_assoc]

theorem of_carried_out [Bus Space] {datagram : Udp.Datagram} {packet : Bytes} {sent : Bool}
    {attempts : List Udp.Attempt} (widths : HasBusWidths packet)
    (result : after = before.carriedOut (requestOf packet) sent)
    (tried : attempts = (requestOf packet).attempts datagram before.port
      (Endpoint.valuesRead (requestOf packet) before.bus) sent) :
    Serviced [⟨datagram, packet⟩] before after attempts
      [⟨⟨datagram, packet⟩, Endpoint.valuesRead (requestOf packet) before.bus, sent⟩] := by
  subst result tried
  constructor
  · simp [widths]
  · simp [Endpoint.valuesRead, Endpoint.length_read_all]
  · simp [Endpoint.carriedOut, Endpoint.accessed, Bus.Watched.accesses_read_all,
      Bus.Watched.accesses_write_all, Execution.accesses, Endpoint.valuesRead]
  · simp [Execution.attempts]
  · rfl
  · rfl
  · simp [Endpoint.carriedOut, Stats.count, widths]
  · by_cases reads : (requestOf packet).reads = [] <;> cases sent <;>
      simp [Endpoint.carriedOut, Stats.count, Request.attempts, reads]
  · by_cases reads : (requestOf packet).reads = [] <;> cases sent <;>
      simp [Endpoint.carriedOut, Stats.count, Request.attempts, reads]

theorem of_unsupported {datagram : Udp.Datagram} {packet : Bytes}
    (widths : ¬HasBusWidths packet)
    (result : after = { before with stats.unsupported := before.stats.unsupported + 1 }) :
    Serviced [⟨datagram, packet⟩] before after [] [] := by
  subst result
  constructor <;> simp [widths]

end Serviced

namespace Endpoint

variable {Space Port : Type} [Bus Space] [TransmitPort Port] {Sound : Port → Prop}
  {view : Port → PortView} {finish : Bytes → Bytes}

/-- What serving packets came to, on a port that was left sound. -/
def Came (Sound : Port → Prop) (jobs : List Job) (before : Endpoint (Bus.Watched Space))
    (reassembler : Reassembler)
    (seen : Udp.Observation (Endpoint (Bus.Watched Space)) Port) : Prop :=
  Sound seen.port ∧ seen.result.reassembler = reassembler ∧
    ∃ executions, Serviced jobs before seen.result seen.attempts executions

theorem execute_serviced (faithful : FaithfulPort Sound view finish) {binding : Udp.Binding}
    (placed : binding.interface.Placed) (datagram : Udp.Datagram) {packet : Bytes}
    (framed : Framed packet) (words : HasWords packet) (endpoint : Endpoint (Bus.Watched Space))
    (port : Port) (sound : Sound port) :
    Returns ((endpoint.execute datagram packet).observe binding port)
      (Came Sound [⟨datagram, packet⟩] endpoint endpoint.reassembler) := by
  refine (execute_observed faithful placed datagram framed words endpoint port sound).mono ?_
  rintro seen ⟨sound, served⟩
  by_cases widths : HasBusWidths packet
  · rw [if_pos widths] at served
    obtain ⟨sent, result, tried, -⟩ := served
    exact ⟨sound, by rw [result]; rfl, _, .of_carried_out widths result tried⟩
  · rw [if_neg widths] at served
    obtain ⟨tried, result⟩ := served
    refine ⟨sound, by rw [result], [], ?_⟩
    rw [tried]
    exact .of_unsupported widths result

theorem execute_all_serviced (faithful : FaithfulPort Sound view finish) {binding : Udp.Binding}
    (placed : binding.interface.Placed) (datagram : Udp.Datagram) (found : List Found)
    (endpoint : Endpoint (Bus.Watched Space)) (port : Port) (sound : Sound port)
    (packets : ∀ packet ∈ packetsOf found, Framed packet ∧ HasWords packet) :
    Returns ((executeAll datagram found endpoint).observe binding port)
      (Came Sound ((packetsOf found).map (Job.mk datagram)) endpoint endpoint.reassembler) := by
  induction found generalizing endpoint port with
  | nil => exact Returns.ok ⟨sound, rfl, [], .none rfl rfl rfl⟩
  | cons first found induction =>
      cases first with
      | oversized length =>
          exact (induction endpoint port sound packets).bind fun seen came => Returns.ok came
      | packet octets =>
          obtain ⟨⟨framed, words⟩, later⟩ := List.forall_mem_cons.mp packets
          apply Udp.Reaction.observe_and_then_returns binding
            (execute_serviced faithful placed datagram framed words endpoint port sound)
          rintro seen ⟨sound, held, executions, first⟩
          refine (induction seen.result seen.port sound later).mono ?_
          rintro rest ⟨sound, heldToo, executionsToo, second⟩
          exact ⟨sound, heldToo.trans held, _, first.append second⟩

theorem on_datagram_serviced (faithful : FaithfulPort Sound view finish) {binding : Udp.Binding}
    (placed : binding.interface.Placed) (datagram : Udp.Datagram)
    (endpoint : Endpoint (Bus.Watched Space)) (port : Port) (sound : Sound port)
    (words : ∀ packet ∈ packetsOf (endpoint.reassembler.accept datagram.payload).found,
      HasWords packet) :
    let intake := endpoint.reassembler.accept datagram.payload
    Returns ((endpoint.onDatagram datagram).observe binding port)
      (Came Sound ((packetsOf intake.found).map (Job.mk datagram)) endpoint
        intake.reassembler) := by
  intro intake
  have packets : ∀ packet ∈ packetsOf intake.found, Framed packet ∧ HasWords packet := by
    intro packet member
    refine ⟨?_, words packet member⟩
    rw [(Reassembler.accept_reads datagram.payload endpoint.reassembler).1] at member
    exact framed_of_mem_parse _ packet member
  unfold onDatagram
  apply Udp.Reaction.observe_report_all
  · exact fun seen before came => came
  · refine (execute_all_serviced faithful placed datagram intake.found
      { endpoint with reassembler := intake.reassembler } port sound packets).mono ?_
    rintro seen ⟨sound, held, executions, serviced⟩
    have taken : Serviced [] endpoint { endpoint with reassembler := intake.reassembler } [] [] :=
      .none rfl rfl rfl
    exact ⟨sound, held, _, taken.append serviced⟩

end Endpoint

structure Delivery (Port : Type) where
  binding : Udp.Binding
  before : Port
  after : Port
  attempts : List Udp.Attempt

/-- Whether what was sent from the port of a delivery are the frames of its attempts. -/
def Delivery.OnWire {Port : Type} (view : Port → PortView) (finish : Bytes → Bytes)
    (delivery : Delivery Port) : Prop :=
  (view delivery.after).sent = (view delivery.before).sent ++
    delivery.attempts.flatMap (Udp.Attempt.frames delivery.binding finish)

namespace Call

variable {Port Space : Type}

/-- The packets that a call hands out, with the datagram that completes them. -/
def jobsOf (reassembler : Reassembler) : Call Port → List Job
  | .deliver _ _ datagram =>
      (packetsOf (reassembler.accept datagram.payload).found).map (Job.mk datagram)
  | .reset => []

def jobs : Reassembler → List (Call Port) → List Job
  | _, [] => []
  | reassembler, call :: calls =>
      call.jobsOf reassembler ++ jobs (call.input.apply reassembler) calls

variable [Bus Space] [TransmitPort Port]

def observe (endpoint : Endpoint Space) :
    Call Port → Except Fault (Endpoint Space × List (Delivery Port))
  | .deliver binding port datagram => do
      let seen ← (Udp.Handler.onDatagram datagram endpoint).observe binding port
      return (seen.result, [⟨binding, port, seen.port, seen.attempts⟩])
  | .reset => return (Udp.Handler.reset endpoint, [])

def observeAll : List (Call Port) → Endpoint Space →
    Except Fault (Endpoint Space × List (Delivery Port))
  | [], endpoint => return (endpoint, [])
  | call :: calls, endpoint => do
      let (between, first) ← call.observe endpoint
      let (last, rest) ← observeAll calls between
      return (last, first ++ rest)

theorem serve_of_observe (call : Call Port) (endpoint : Endpoint Space) :
    call.serve endpoint = do return (← call.observe endpoint).1 := by
  cases call with
  | reset => rfl
  | deliver binding port datagram => simp [serve, observe, Udp.Reaction.run_of_observe]

theorem serve_all_of_observe (calls : List (Call Port)) (endpoint : Endpoint Space) :
    serveAll calls endpoint = do return (← observeAll calls endpoint).1 := by
  induction calls generalizing endpoint with
  | nil => rfl
  | cons call calls induction =>
      unfold serveAll at induction ⊢
      simp [List.foldlM_cons, serve_of_observe, observeAll, induction]

variable {Sound : Port → Prop} {view : Port → PortView} {finish : Bytes → Bytes}

theorem observe_serviced (faithful : FaithfulPort Sound view finish) (call : Call Port)
    (proper : call.Proper Sound) (endpoint : Endpoint (Bus.Watched Space))
    (words : ∀ packet ∈ call.input.packets endpoint.reassembler, HasWords packet) :
    Returns (call.observe endpoint) fun answer =>
      answer.1.reassembler = call.input.apply endpoint.reassembler ∧
      (∀ delivery ∈ answer.2, delivery.OnWire view finish) ∧
      ∃ executions, Serviced (call.jobsOf endpoint.reassembler) endpoint answer.1
        (answer.2.flatMap Delivery.attempts) executions := by
  cases call with
  | reset => exact Returns.ok ⟨rfl, by simp, [], .none rfl rfl rfl⟩
  | deliver binding port datagram =>
      obtain ⟨placed, sound⟩ := proper
      obtain ⟨seen, observed, -, held, executions, serviced⟩ :=
        Endpoint.on_datagram_serviced faithful placed datagram endpoint port sound words
      have frames := (Udp.Reaction.observe_frames faithful binding placed _ port sound).of_ok
        observed
      apply Returns.bind_ok observed
      refine Returns.ok ⟨held, ?_, executions, ?_⟩
      · simpa [Delivery.OnWire] using frames.2
      · simpa [jobsOf] using serviced

theorem observe_all_serviced (faithful : FaithfulPort Sound view finish)
    (calls : List (Call Port)) (proper : ∀ call ∈ calls, call.Proper Sound)
    (endpoint : Endpoint (Bus.Watched Space))
    (words : ∀ packet ∈ handedOut endpoint.reassembler (calls.map input), HasWords packet) :
    Returns (observeAll calls endpoint) fun answer =>
      (∀ delivery ∈ answer.2, delivery.OnWire view finish) ∧
      ∃ executions, Serviced (jobs endpoint.reassembler calls) endpoint answer.1
        (answer.2.flatMap Delivery.attempts) executions := by
  induction calls generalizing endpoint with
  | nil => exact Returns.ok ⟨by simp, [], .none rfl rfl rfl⟩
  | cons call calls induction =>
      obtain ⟨properFirst, properLater⟩ := List.forall_mem_cons.mp proper
      obtain ⟨wordsFirst, wordsLater⟩ := List.forall_mem_append.mp words
      apply (observe_serviced faithful call properFirst endpoint wordsFirst).bind
      rintro ⟨between, deliveries⟩ ⟨held, wire, executions, first⟩
      dsimp only at held wire first
      -- The packets of the later calls are told from the reassembler that this call left.
      rw [← held] at wordsLater
      apply (induction properLater between wordsLater).bind
      rintro ⟨last, rest⟩ ⟨wireToo, executionsToo, later⟩
      refine Returns.ok ⟨List.forall_mem_append.mpr ⟨wire, wireToo⟩,
        executions ++ executionsToo, ?_⟩
      rw [held] at later
      simpa [jobs] using first.append later

end Call

end Etherbone

end InstrumentLink
