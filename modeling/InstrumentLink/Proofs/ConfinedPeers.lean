import InstrumentLink.Proofs.RegisterStream
import InstrumentLink.Proofs.WindowedMemory

/-!
Whatever peers send to an endpoint, they stay inside its window.

An endpoint gets at its registers by accesses only. So what every access keeps is kept by every run
of datagrams, and what no access notices makes no difference to a run: not to the packets that are
handed out, not to the replies, and not to what is sent.
-/

set_option autoImplicit false

namespace InstrumentLink

open Etherbone (Endpoint Call Delivery)

namespace Udp

theorem Reaction.and_then_assoc {First Second Third : Type} (reaction : Reaction First)
    (next : First → Reaction Second) (last : Second → Reaction Third) :
    (reaction.andThen next).andThen last =
      reaction.andThen fun first => (next first).andThen last := by
  induction reaction with
  | done result | fail fault => rfl
  | report event rest induction | store offset patch rest induction =>
      simp only [andThen, induction]
  | look rest induction => simp only [andThen, induction]
  | send sourcePort destinationPort length rest induction
  | sendTo ip sourcePort destinationPort length rest induction => simp only [andThen, induction]

theorem Reaction.and_then_done {Result : Type} (reaction : Reaction Result) :
    reaction.andThen .done = reaction := by
  induction reaction with
  | done result | fail fault => rfl
  | report event rest induction | store offset patch rest induction =>
      simp only [andThen, induction]
  | look rest induction => simp only [andThen, induction]
  | send sourcePort destinationPort length rest induction
  | sendTo ip sourcePort destinationPort length rest induction => simp only [andThen, induction]

instance : LawfulMonad Reaction :=
  LawfulMonad.mk' Reaction Reaction.and_then_done (fun _ _ => rfl) Reaction.and_then_assoc

variable {Port First Second : Type} [TransmitPort Port]

def Observation.mapResult (change : First → Second) (seen : Observation First Port) :
    Observation Second Port :=
  { seen with result := change seen.result }

theorem Reaction.observe_map (change : First → Second) (binding : Binding)
    (reaction : Reaction First) (port : Port) :
    (change <$> reaction).observe binding port =
      Observation.mapResult change <$> reaction.observe binding port := by
  change (reaction.andThen fun result => .done (change result)).observe binding port = _
  rw [observe_and_then]
  cases reaction.observe binding port with
  | error fault => rfl
  | ok seen =>
      change Except.ok (Observation.after seen.log seen.attempts _) = Except.ok _
      simp [Observation.after, Observation.mapResult]

end Udp

namespace Etherbone

variable {Space : Type} [Bus Space]

namespace Endpoint

omit [Bus Space] in
def onBus (change : Space → Space) (endpoint : Endpoint Space) : Endpoint Space :=
  { endpoint with bus := change endpoint.bus }

section Unnoticed

variable {change : Space → Space}

omit [Bus Space] in
theorem reply_unnoticed (datagram : Udp.Datagram) (request : Request) (values : List UInt32)
    (endpoint : Endpoint Space) (area : Bytes) :
    (endpoint.onBus change).reply datagram request values area =
      onBus change <$> endpoint.reply datagram request values area := by
  unfold reply
  dsimp only
  rw [map_bind]
  refine congrArg (_ >>= ·) (funext fun packet => ?_)
  refine congrArg (Udp.Reaction.store 0 packet) 
    (congrArg (Udp.Reaction.sendTo _ _ _ _) ?_)
  funext sent
  cases sent <;> rfl

variable (unnoticed : Bus.Unnoticed change)

include unnoticed

theorem perform_unnoticed (datagram : Udp.Datagram) (request : Request)
    (endpoint : Endpoint Space) :
    (endpoint.onBus change).perform datagram request =
      onBus change <$> endpoint.perform datagram request := by
  unfold perform
  rw [map_bind]
  simp only [onBus, unnoticed.write_all, unnoticed.read_all]
  refine congrArg (_ >>= ·) (funext fun _ => ?_)
  split
  · rfl
  · exact congrArg Udp.Reaction.look (funext fun area =>
      reply_unnoticed datagram request _ ⟨_, _, _, _⟩ area)

theorem execute_unnoticed (datagram : Udp.Datagram) (packet : Bytes) (endpoint : Endpoint Space) :
    (endpoint.onBus change).execute datagram packet =
      onBus change <$> endpoint.execute datagram packet := by
  unfold execute
  rw [map_bind]
  refine congrArg (_ >>= ·) (funext fun supported => ?_)
  split
  · rw [map_bind]
    exact congrArg (_ >>= ·) (funext fun request => perform_unnoticed unnoticed ..)
  · rw [map_bind]
    rfl

theorem execute_all_unnoticed (datagram : Udp.Datagram) (found : List Found)
    (endpoint : Endpoint Space) :
    executeAll datagram found (endpoint.onBus change) =
      onBus change <$> executeAll datagram found endpoint := by
  induction found generalizing endpoint with
  | nil => rfl
  | cons first found induction =>
      cases first with
      | packet octets =>
          simp only [executeAll, execute_unnoticed unnoticed, bind_map_left, map_bind, induction]
      | oversized length =>
          simp only [executeAll, induction]
          rfl

theorem on_datagram_unnoticed (datagram : Udp.Datagram) (endpoint : Endpoint Space) :
    (endpoint.onBus change).onDatagram datagram =
      onBus change <$> endpoint.onDatagram datagram := by
  unfold onDatagram
  rw [map_bind]
  refine congrArg (_ >>= ·) (funext fun _ => ?_)
  exact execute_all_unnoticed unnoticed datagram
    (endpoint.reassembler.accept datagram.payload).found
    { endpoint with reassembler := (endpoint.reassembler.accept datagram.payload).reassembler }

end Unnoticed

end Endpoint

namespace Call

variable {Port : Type} [TransmitPort Port] {change : Space → Space}
  (unnoticed : Bus.Unnoticed change)

include unnoticed

theorem observe_unnoticed (call : Call Port) (endpoint : Endpoint Space) :
    call.observe (endpoint.onBus change) =
      (fun answer => (answer.1.onBus change, answer.2)) <$> call.observe endpoint := by
  cases call with
  | reset => rfl
  | deliver binding port datagram =>
      have same : Udp.Handler.onDatagram datagram (endpoint.onBus change) = _ :=
        Endpoint.on_datagram_unnoticed unnoticed datagram endpoint
      rw [observe, observe, same, Udp.Reaction.observe_map, map_bind, bind_map_left]
      rfl

theorem observe_all_unnoticed (calls : List (Call Port)) (endpoint : Endpoint Space) :
    observeAll calls (endpoint.onBus change) =
      (fun answer => (answer.1.onBus change, answer.2)) <$> observeAll calls endpoint := by
  induction calls generalizing endpoint with
  | nil => rfl
  | cons call calls induction =>
      simp only [observeAll, observe_unnoticed unnoticed, induction, map_bind, bind_map_left,
        map_pure]

end Call

end Etherbone

/-- What holds of a register space before an access holds after it. -/
structure Bus.Keeps {Space : Type} [Bus Space] (Good : Space → Prop) : Prop where
  read : ∀ address space, Good space → Good (Bus.read address space).2.1
  write : ∀ address value space, Good space → Good (Bus.write address value space).1

namespace Bus.Keeps

variable {Space : Type} [Bus Space] {Good : Space → Prop} (keeps : Keeps Good) {space : Space}

include keeps

theorem write_all (accesses : List (UInt32 × UInt32)) (good : Good space) :
    Good (writeAll accesses space).1 := by
  induction accesses generalizing space with
  | nil => exact good
  | cons access accesses induction => exact induction (keeps.write access.1 access.2 space good)

theorem read_all (addresses : List UInt32) (good : Good space) :
    Good (readAll addresses space).2.1 := by
  induction addresses generalizing space with
  | nil => exact good
  | cons address addresses induction => exact induction (keeps.read address space good)

theorem touched (packets : List Bytes) (good : Good space) :
    Good (packets.foldl Endpoint.touched space) := by
  induction packets generalizing space with
  | nil => exact good
  | cons packet packets induction =>
      refine induction ?_
      unfold Endpoint.touched
      split
      · exact keeps.read_all _ (keeps.write_all _ good)
      · exact good

end Bus.Keeps

namespace Etherbone.Call

variable {Port Space : Type} [TransmitPort Port] [Bus Space]

theorem serve_fed (call : Call Port) (endpoint : Endpoint Space) :
    Yields (call.serve endpoint) (Endpoint.Fed [call.input] endpoint) := by
  cases call with
  | reset => exact Endpoint.reset_fed endpoint
  | deliver binding port datagram =>
      exact ((Endpoint.on_datagram_leads datagram endpoint).run binding port).bind
        fun answer fed => Yields.ok fed

theorem serve_all_fed (calls : List (Call Port)) (endpoint : Endpoint Space) :
    Yields (serveAll calls endpoint) (Endpoint.Fed (calls.map input) endpoint) := by
  induction calls generalizing endpoint with
  | nil => exact Endpoint.Carried.nil endpoint
  | cons call calls induction =>
      unfold serveAll at induction ⊢
      rw [List.foldlM_cons]
      apply (serve_fed call endpoint).bind
      intro between first
      exact (induction between).mono fun last later => first.append later

end Etherbone.Call

/-- The accesses to a memory since a moment stayed in a window. -/
def Bus.Watched.ConfinedSince (window : Window) (start watched : Bus.Watched MappedBus) : Prop :=
  ∃ accesses, watched.accesses = start.accesses ++ accesses ∧
    Confined window start.space accesses watched.space

theorem Bus.Watched.keeps_confined (window : Window) (start : Bus.Watched MappedBus) :
    Bus.Keeps (ConfinedSince window start) where
  read address watched := by
    rintro ⟨accesses, since, confined⟩
    refine ⟨accesses ++ [.read address _], ?_, confined.read address⟩
    rw [← List.append_assoc, ← since]
    rfl
  write address value watched := by
    rintro ⟨accesses, since, confined⟩
    refine ⟨accesses ++ [.write address value], ?_, confined.write address value⟩
    rw [← List.append_assoc, ← since]
    rfl

namespace Etherbone

/-- A run of datagrams and resets, from any sources, to an endpoint over a memory with a window, in
which every packet that is handed out has a word. Its accesses are those of the packets that were
carried out, and the replies hold what was read. The accesses to words of the window are accesses
to one memory of words; any other write is ignored, and any other read is answered with zero. No
octet outside is written, and whatever stands there, the run is the same. -/
theorem windowed_endpoint_confines_peers {Port : Type} [TransmitPort Port] {Sound : Port → Prop}
    {view : Port → PortView} {finish : Bytes → Bytes} (faithful : FaithfulPort Sound view finish)
    {window : Window} (endpoint : Endpoint (Bus.Watched MappedBus))
    (windowed : endpoint.bus.space.window = some window) (calls : List (Call Port))
    (proper : ∀ call ∈ calls, call.Proper Sound)
    (words : ∀ packet ∈ handedOut endpoint.reassembler (calls.map Call.input), HasWords packet) :
    ∃ (last : Endpoint (Bus.Watched MappedBus)) (deliveries : List (Delivery Port))
      (executions : List Execution),
      Call.observeAll calls endpoint = .ok (last, deliveries) ∧
      Serviced (Call.jobs endpoint.reassembler calls) endpoint last
        (deliveries.flatMap Delivery.attempts) executions ∧
      (∀ delivery ∈ deliveries, delivery.OnWire view finish) ∧
      Confined window endpoint.bus.space (executions.flatMap Execution.accesses)
        last.bus.space ∧
      ∀ outside : Memory,
        let amid := Bus.Watched.onSpace (MappedBus.surroundedBy outside)
        Call.observeAll calls (endpoint.onBus amid) = .ok (last.onBus amid, deliveries) := by
  obtain ⟨⟨last, deliveries⟩, observed, wire, executions, serviced⟩ :=
    Call.observe_all_serviced faithful calls proper endpoint words
  refine ⟨last, deliveries, executions, observed, serviced, wire, ?_, fun outside => ?_⟩
  · have served : Call.serveAll calls endpoint = .ok last := by
      rw [Call.serve_all_of_observe, observed]
      rfl
    have fed := (Call.serve_all_fed calls endpoint).of_ok served
    have start : Bus.Watched.ConfinedSince window endpoint.bus endpoint.bus :=
      ⟨[], (List.append_nil _).symm, .nil windowed⟩
    have since := (Bus.Watched.keeps_confined window endpoint.bus).touched
      (handedOut endpoint.reassembler (calls.map Call.input)) start
    obtain ⟨accesses, made, confined⟩ : Bus.Watched.ConfinedSince window endpoint.bus last.bus := by
      rw [fed.bus]
      exact since
    rw [serviced.accesses] at made
    rwa [List.append_cancel_left made]
  · intro amid
    have unnoticed := (MappedBus.surrounded_unnoticed outside).watched
    rw [Call.observe_all_unnoticed unnoticed, observed]
    rfl

/-- A burst over the end of the address space into a window at its start, whose own end cuts a word,
read back with words that are not all inside. -/
theorem burst_over_the_end_confined :
    let binding : Udp.Binding := ⟨LinkConfig.interface {}, ⟨⟨10, 0, 11, 3⟩, .broadcast⟩⟩
    let packet := header .request {} 0x0f 3 5 ++ block 0xfffffffc [1, 2, 3] ++
      block 0x40 [0, 4, 8, 2, 0xfffffffc]
    let call : Call Simulation.Sink :=
      .deliver binding {} ⟨⟨10, 0, 11, 3⟩, 40001, 1234, packet⟩
    let bus : MappedBus := { window := some ⟨0, 11⟩, memory := ⟨fun _ => 7⟩ }
    let endpoint : Endpoint (Bus.Watched MappedBus) := { bus := ⟨bus, []⟩ }
    ∃ (last : Endpoint (Bus.Watched MappedBus)) (sent : Bool)
      (deliveries : List (Delivery Simulation.Sink)),
      Call.observeAll [call] endpoint = .ok (last, deliveries) ∧
      last.bus.space.memory.octetAt 0xfffffffc = 7 ∧ last.bus.space.memory.octetAt 11 = 7 ∧
      deliveries.flatMap Delivery.attempts = [⟨some ⟨10, 0, 11, 3⟩, 1234, 40001,
        some (readReply 0x0f 0x40 [2, 3, 0, 0, 0]), sent⟩] := by
  intro binding packet call bus endpoint
  have packets : handedOut endpoint.reassembler ([call].map Call.input) = [packet] := by
    decide +kernel
  have proper : ∀ one ∈ [call], one.Proper fun sink => Ethernet.maximumLength ≤ sink.slot.length :=
    List.forall_mem_singleton.mpr ⟨.inl rfl, sink_holds_frame⟩
  have words : ∀ one ∈ handedOut endpoint.reassembler ([call].map Call.input), HasWords one := by
    rw [packets]
    decide +kernel
  obtain ⟨last, deliveries, executions, observed, serviced, -, confined, -⟩ :=
    windowed_endpoint_confines_peers Simulation.Sink.faithful_port endpoint rfl [call] proper words
  have asked : requestOf packet = ⟨0x0f, [(0xfffffffc, 1), (0, 2), (4, 3)],
      [0, 4, 8, 2, 0xfffffffc], 0x40⟩ := by decide +kernel
  have jobs : (Call.jobs endpoint.reassembler [call]).filter
      (fun job => HasBusWidths job.packet) =
        [⟨⟨⟨10, 0, 11, 3⟩, 40001, 1234, packet⟩, packet⟩] := by
    decide +kernel
  have one := serviced.carried_out
  rw [jobs] at one
  obtain ⟨⟨job, values, sent⟩, rfl, same⟩ := List.map_eq_singleton_iff.mp one
  dsimp only at same
  subst same
  have length := serviced.values _ List.mem_cons_self
  rw [asked] at length
  match values, length with
  | [first, second, third, fourth, fifth], _ =>
      let execution : Execution :=
        ⟨⟨⟨⟨10, 0, 11, 3⟩, 40001, 1234, packet⟩, packet⟩, [first, second, third, fourth, fifth], sent⟩
      have accesses : [execution].flatMap Execution.accesses =
          [.write 0xfffffffc 1, .write 0 2, .write 4 3, .read 0 first, .read 4 second,
            .read 8 third, .read 2 fourth, .read 0xfffffffc fifth] := by
        simp [Execution.accesses, execution, asked]
      rw [accesses] at confined
      have reads := confined.reads
      obtain rfl : first = 2 := (reads [_, _, _] 0 first _ rfl).trans (by decide +kernel)
      obtain rfl : second = 3 := (reads [_, _, _, _] 4 second _ rfl).trans (by decide +kernel)
      obtain rfl : third = 0 := (reads [_, _, _, _, _] 8 third _ rfl).trans (by decide +kernel)
      obtain rfl : fourth = 0 := (reads [_, _, _, _, _, _] 2 fourth _ rfl).trans (by decide +kernel)
      obtain rfl : fifth = 0 :=
        (reads [_, _, _, _, _, _, _] 0xfffffffc fifth _ rfl).trans (by decide +kernel)
      refine ⟨last, sent, deliveries, observed, confined.outside _ (by decide),
        confined.outside _ (by decide), ?_⟩
      rw [serviced.tried]
      simp [Execution.attempts, Request.attempts, asked, endpoint, LinkConfig.etherbonePort]

end Etherbone

end InstrumentLink
