import InstrumentLink.Proofs.EndpointService
import InstrumentLink.Proofs.PeerHistory

/-!
What an endpoint becomes is told by its datagrams alone.

Its reactions look at the payload area and at whether something was sent, and go on differently for
it. Yet the packets that are handed out, the accesses to the registers and the octets held do not
depend on the answers: only the count of replies does.
-/

set_option autoImplicit false

namespace InstrumentLink

namespace Udp.Reaction

variable {First Second : Type}

/-- Whatever a reaction sees and is told, it comes to a good result, unless it stops the link. -/
def Leads (good : First → Prop) : Reaction First → Prop
  | .done result => good result
  | .fail _ => True
  | .report _ next | .store _ _ next => next.Leads good
  | .look next => ∀ area, (next area).Leads good
  | .send _ _ _ next | .sendTo _ _ _ _ next => ∀ sent, (next sent).Leads good

theorem Leads.and_then {good : First → Prop} {better : Second → Prop}
    {continuation : First → Reaction Second} {reaction : Reaction First}
    (first : reaction.Leads good)
    (second : ∀ result, good result → (continuation result).Leads better) :
    (reaction >>= continuation).Leads better := by
  change (reaction.andThen continuation).Leads better
  induction reaction with
  | done result => exact second result first
  | fail fault => trivial
  | report event next induction | store offset patch next induction => exact induction first
  | look next induction => exact fun area => induction area (first area)
  | send sourcePort destinationPort length next induction
  | sendTo ip sourcePort destinationPort length next induction =>
      exact fun sent => induction sent (first sent)

theorem Leads.mono {good better : First → Prop} {reaction : Reaction First}
    (leads : reaction.Leads good) (weaker : ∀ result, good result → better result) :
    reaction.Leads better := by
  induction reaction with
  | done result => exact weaker result leads
  | fail fault => trivial
  | report event next induction | store offset patch next induction => exact induction leads
  | look next induction => exact fun area => induction area (leads area)
  | send sourcePort destinationPort length next induction
  | sendTo ip sourcePort destinationPort length next induction =>
      exact fun sent => induction sent (leads sent)

theorem leads_report_all {good : First → Prop} {next : Reaction First} (log : Log)
    (leads : next.Leads good) : (reportAll log >>= fun _ => next).Leads good := by
  induction log with
  | nil => exact leads
  | cons event log induction => exact induction

theorem leads_of_except (computation : Except Fault First) :
    (ofExcept computation).Leads fun result => computation = .ok result := by
  cases computation with
  | error fault => trivial
  | ok result => rfl

theorem Leads.noting {good : First → Prop} {reaction : Reaction First}
    (leads : reaction.Leads good) (offers : List Offer) :
    (reaction.noting offers).Leads fun answer => good answer.1 := by
  induction reaction generalizing offers with
  | done result => exact leads
  | fail fault => trivial
  | report event next induction | store offset patch next induction =>
      exact induction leads offers
  | look next induction => exact fun area => induction area (leads area) offers
  | send sourcePort destinationPort length next induction
  | sendTo ip sourcePort destinationPort length next induction =>
      exact fun sent => induction sent (leads sent) _

theorem Leads.run {Port : Type} [TransmitPort Port] {good : First → Prop}
    {reaction : Reaction First} (leads : reaction.Leads good) (binding : Binding) (port : Port) :
    Yields (reaction.run binding port) fun answer => good answer.1 := by
  induction reaction generalizing port with
  | done result => exact leads
  | fail fault => trivial
  | report event next induction => exact (induction leads port).bind fun answer holds => holds
  | look next induction =>
      exact (Yields.intro _).bind fun area _ => induction area (leads area) port
  | store offset patch next induction =>
      exact (Yields.intro _).bind fun stored _ => induction leads stored
  | send sourcePort destinationPort length next induction
  | sendTo ip sourcePort destinationPort length next induction =>
      apply (Yields.intro _).bind
      rintro ⟨sent, between, log⟩ -
      exact (induction sent (leads sent) between).bind fun answer holds => holds

end Udp.Reaction

namespace Etherbone.Endpoint

variable {Space : Type} [Bus Space]

/-- The registers after a packet; one of other widths touches nothing. -/
def touched (bus : Space) (packet : Bytes) : Space :=
  if HasBusWidths packet then accessed (requestOf packet) bus else bus

/-- What an endpoint became by carrying out packets, apart from what became of its replies. -/
structure Carried (packets : List Bytes) (before after : Endpoint Space) : Prop where
  port : after.port = before.port
  held : after.reassembler = before.reassembler
  bus : after.bus = packets.foldl touched before.bus
  executed : after.stats.executed =
    before.stats.executed + UInt32.ofNat (packets.countP fun packet => HasBusWidths packet)
  unsupported : after.stats.unsupported =
    before.stats.unsupported + UInt32.ofNat (packets.countP fun packet => ¬HasBusWidths packet)

theorem Carried.nil (endpoint : Endpoint Space) : Carried [] endpoint endpoint :=
  ⟨rfl, rfl, rfl, (UInt32.add_zero _).symm, (UInt32.add_zero _).symm⟩

theorem Carried.append {earlier later : List Bytes} {before between after : Endpoint Space}
    (first : Carried earlier before between) (second : Carried later between after) :
    Carried (earlier ++ later) before after where
  port := second.port.trans first.port
  held := second.held.trans first.held
  bus := by rw [second.bus, first.bus, List.foldl_append]
  executed := by
    rw [second.executed, first.executed, List.countP_append, UInt32.ofNat_add, UInt32.add_assoc]
  unsupported := by
    rw [second.unsupported, first.unsupported, List.countP_append, UInt32.ofNat_add,
      UInt32.add_assoc]

omit [Bus Space] in
theorem reply_leads (datagram : Udp.Datagram) (request : Request) (values : List UInt32)
    (endpoint : Endpoint Space) (area : Bytes) :
    (endpoint.reply datagram request values area).Leads fun after =>
      ∃ replies failures, after = { endpoint with
        stats.replies := replies
        stats.replyFailures := failures } := by
  refine Udp.Reaction.Leads.and_then (Udp.Reaction.leads_of_except _) fun packet _ sent => ?_
  unfold countReply
  cases sent with
  | true => exact ⟨_, _, rfl⟩
  | false => exact ⟨_, _, rfl⟩

/-- A packet that is handed out is carried out, if it does not stop the link. -/
theorem execute_leads (datagram : Udp.Datagram) {packet : Bytes} (framed : Framed packet)
    (endpoint : Endpoint Space) :
    (endpoint.execute datagram packet).Leads (Carried [packet] endpoint) := by
  unfold execute
  rw [framed.is_supported]
  change Udp.Reaction.Leads _ (if decide (HasBusWidths packet) then _ else _)
  by_cases widths : HasBusWidths packet
  · rw [if_pos (decide_eq_true widths)]
    by_cases words : HasWords packet
    · rw [framed.request words]
      change (endpoint.perform datagram (requestOf packet)).Leads _
      unfold perform
      apply Udp.Reaction.leads_report_all
      have carried : Carried [packet] endpoint { endpoint with
          bus := accessed (requestOf packet) endpoint.bus
          stats.executed := endpoint.stats.executed + 1 } := by
        constructor <;> simp [touched, widths]
      split
      · exact carried
      · intro area
        refine (reply_leads datagram _ _ _ area).mono ?_
        rintro after ⟨replies, failures, rfl⟩
        exact ⟨carried.port, carried.held, carried.bus, carried.executed, carried.unsupported⟩
    · rw [framed.request_wordless words]
      trivial
  · rw [if_neg (by simpa using widths), framed.sizes.1, framed.sizes.2]
    constructor <;> simp [touched, widths]

theorem execute_all_leads (datagram : Udp.Datagram) (found : List Found)
    (endpoint : Endpoint Space) (framed : ∀ packet ∈ packetsOf found, Framed packet) :
    (executeAll datagram found endpoint).Leads (Carried (packetsOf found) endpoint) := by
  induction found generalizing endpoint with
  | nil => exact .nil endpoint
  | cons first found induction =>
      cases first with
      | oversized length => exact induction endpoint framed
      | packet octets =>
          obtain ⟨framedFirst, framedLater⟩ := List.forall_mem_cons.mp framed
          refine (execute_leads datagram framedFirst endpoint).and_then fun between one => ?_
          exact (induction between framedLater).mono fun after later => one.append later

theorem handed_out_append (earlier later : List Input) (reassembler : Reassembler) :
    handedOut reassembler (earlier ++ later) =
      handedOut reassembler earlier ++ handedOut (earlier.foldl Input.apply reassembler) later := by
  induction earlier generalizing reassembler with
  | nil => rfl
  | cons input earlier induction =>
      rw [List.cons_append, handedOut, induction, handedOut, List.foldl_cons, List.append_assoc]

def Fed (inputs : List Input) (before after : Endpoint Space) : Prop :=
  Carried (handedOut before.reassembler inputs)
    { before with reassembler := inputs.foldl Input.apply before.reassembler } after

theorem Fed.append {earlier later : List Input} {before between after : Endpoint Space}
    (first : Fed earlier before between) (second : Fed later between after) :
    Fed (earlier ++ later) before after := by
  have held : between.reassembler = earlier.foldl Input.apply before.reassembler := first.held
  unfold Fed at second
  rw [held] at second
  refine ⟨second.port.trans first.port, ?_, ?_, ?_, ?_⟩
  · exact second.held.trans (List.foldl_append ..).symm
  · rw [second.bus, handed_out_append, List.foldl_append, ← first.bus]
  · rw [second.executed, handed_out_append, List.countP_append, UInt32.ofNat_add,
      ← UInt32.add_assoc, ← first.executed]
  · rw [second.unsupported, handed_out_append, List.countP_append, UInt32.ofNat_add,
      ← UInt32.add_assoc, ← first.unsupported]

theorem on_datagram_leads (datagram : Udp.Datagram) (endpoint : Endpoint Space) :
    (endpoint.onDatagram datagram).Leads (Fed [.push datagram.payload] endpoint) := by
  unfold onDatagram
  apply Udp.Reaction.leads_report_all
  have packets : ∀ packet ∈ packetsOf (endpoint.reassembler.accept datagram.payload).found,
      Framed packet := by
    intro packet member
    rw [(Reassembler.accept_reads datagram.payload endpoint.reassembler).1] at member
    exact framed_of_mem_parse _ packet member
  refine (execute_all_leads datagram _ _ packets).mono fun after carried => ?_
  rwa [Fed, handedOut, handedOut, List.append_nil]

theorem reset_fed (endpoint : Endpoint Space) : Fed [.reset] endpoint endpoint.reset :=
  .nil _

end Etherbone.Endpoint

end InstrumentLink
