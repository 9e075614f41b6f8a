import InstrumentLink.Proofs.EndpointService
import InstrumentLink.Proofs.TwinPorts

/-!
Two consumers of register accesses side by side.

Their register spaces cannot be told apart by reading and writing, and they hold the same octets
between datagrams. Then they carry out the same accesses, answer the same, and stay so, on ports
that stand beside each other. Whether they counted the same before is left open.
-/

set_option autoImplicit false

namespace InstrumentLink

open Simulation (BusAccess)

namespace Bus

variable {Space : Type} [Bus Space]

/-- Register spaces that are the same in this sense give the same words at every access, and stay
the same. -/
structure Indistinct (Same : Space → Space → Prop) : Prop where
  read : ∀ address one another, Same one another →
    (read address one).1 = (read address another).1 ∧
      Same (read address one).2.1 (read address another).2.1
  write : ∀ address value one another, Same one another →
    Same (write address value one).1 (write address value another).1

theorem indistinct_eq : Indistinct (Eq : Space → Space → Prop) where
  read := fun _ _ _ same => same ▸ ⟨rfl, rfl⟩
  write := fun _ _ _ _ same => same ▸ rfl

namespace Indistinct

variable {Same : Space → Space → Prop} (indistinct : Indistinct Same) {one another : Space}

include indistinct

theorem write_all (accesses : List (UInt32 × UInt32)) (same : Same one another) :
    Same (writeAll accesses one).1 (writeAll accesses another).1 := by
  induction accesses generalizing one another with
  | nil => exact same
  | cons access accesses induction =>
      exact induction (indistinct.write access.1 access.2 one another same)

theorem read_all (addresses : List UInt32) (same : Same one another) :
    (readAll addresses one).1 = (readAll addresses another).1 ∧
      Same (readAll addresses one).2.1 (readAll addresses another).2.1 := by
  induction addresses generalizing one another with
  | nil => exact ⟨rfl, same⟩
  | cons address addresses induction =>
      obtain ⟨value, after⟩ := indistinct.read address one another same
      obtain ⟨values, last⟩ := induction after
      exact ⟨congrArg₂ List.cons value values, last⟩

end Indistinct

namespace Watched

variable {Space : Type} [Bus Space]

/-- Two spaces are the same, and so are the accesses to them since two moments. -/
structure Alongside (Same : Space → Space → Prop) (start otherStart : List BusAccess)
    (one another : Watched Space) : Prop where
  space : Same one.space another.space
  accesses : SameSince start otherStart one.accesses another.accesses

theorem indistinct {Same : Space → Space → Prop} (indistinct : Bus.Indistinct Same)
    (start otherStart : List BusAccess) :
    Bus.Indistinct (Alongside Same start otherStart) where
  read := fun address one another same => by
    obtain ⟨value, after⟩ := indistinct.read address one.space another.space same.space
    refine ⟨value, after, ?_⟩
    change SameSince start otherStart (one.accesses ++ [.read address _])
      (another.accesses ++ [.read address _])
    rw [value]
    exact same.accesses.append _
  write := fun address value one another same =>
    ⟨indistinct.write address value one.space another.space same.space, same.accesses.append _⟩

end Watched

end Bus

theorem length_map_m {Item Answer : Type} (step : Item → Except Fault Answer) (items : List Item) :
    Yields (items.mapM step) fun answers => answers.length = items.length := by
  induction items with
  | nil => exact Yields.ok rfl
  | cons item items induction =>
      rw [List.mapM_cons]
      apply (Yields.intro _).bind
      intro answer _
      apply induction.bind
      intro answers length
      exact Yields.ok (congrArg (· + 1) length)

namespace Etherbone

theorem Request.of_packet_reads (packet : Bytes) :
    Yields (ofPacket packet) fun request => request.reads.length ≤ maximumWords := by
  unfold ofPacket
  apply (Yields.intro _).bind
  intro base _
  apply (Yields.intro _).bind
  intro writeCount _
  apply (Yields.intro _).bind
  intro writes _
  apply (Yields.intro _).bind
  intro readCount _
  apply (length_map_m _ _).bind
  intro reads length
  have few : reads.length ≤ maximumWords := by
    rw [length, List.length_range]
    exact Nat.le_of_lt_succ readCount.toNat_lt
  have last (base : UInt32) : Yields (do
      return { byteEnable := ← Etherbone.byteEnable packet, writes, reads, returnBase := base })
      fun request : Request => request.reads.length ≤ maximumWords :=
    (Yields.intro _).bind fun _ _ => Yields.ok few
  dsimp only
  split
  · exact last 0
  · exact (Yields.intro _).bind fun base _ => last base

variable {Space : Type}

/-- Two consumers that go on in the same way. What they counted is the same if `counters` says
so. -/
structure Endpoint.Akin (Same : Space → Space → Prop) (counters : Prop)
    (one another : Endpoint Space) : Prop where
  port : one.port = another.port
  buffered : one.reassembler.buffered = another.reassembler.buffered
  bus : Same one.bus another.bus
  counted : counters →
    one.stats = another.stats ∧ one.reassembler.overflows = another.reassembler.overflows

theorem Endpoint.akin_eq : Akin (Eq : Space → Space → Prop) True = Eq := by
  funext one another
  apply propext
  constructor
  · rintro ⟨port, buffered, bus, counted⟩
    obtain ⟨stats, overflows⟩ := counted trivial
    obtain ⟨oneBus, onePort, ⟨oneBuffered, oneOverflows⟩, oneStats⟩ := one
    obtain ⟨otherBus, otherPort, ⟨otherBuffered, otherOverflows⟩, otherStats⟩ := another
    cases port
    cases buffered
    cases bus
    cases stats
    cases overflows
    rfl
  · rintro rfl
    exact ⟨rfl, rfl, rfl, fun _ => ⟨rfl, rfl⟩⟩

namespace Reassembler

variable {one another : Reassembler} (counters : Prop) (buffered : one.buffered = another.buffered)
  (counted : counters → one.overflows = another.overflows)

include buffered counted

theorem make_room_alike (arriving : Nat) :
    (one.makeRoom arriving).1.buffered = (another.makeRoom arriving).1.buffered ∧
      (counters →
        (one.makeRoom arriving).1.overflows = (another.makeRoom arriving).1.overflows) := by
  unfold makeRoom
  rw [buffered]
  split
  · exact ⟨rfl, fun all => congrArg (· + 1) (counted all)⟩
  · exact ⟨buffered, counted⟩

theorem accept_alike (data : Bytes) :
    (one.accept data).found = (another.accept data).found ∧
      (one.accept data).reassembler.buffered = (another.accept data).reassembler.buffered ∧
      (counters → (one.accept data).reassembler.overflows =
        (another.accept data).reassembler.overflows) := by
  obtain ⟨roomy, counting⟩ := make_room_alike counters buffered counted data.length
  unfold accept
  dsimp only
  split
  · exact ⟨rfl, roomy, counting⟩
  · dsimp only
    rw [roomy]
    exact ⟨rfl, rfl, counting⟩

end Reassembler

end Etherbone

namespace TwinPorts

open Etherbone (Endpoint)

variable {Port Other Space : Type} [TransmitPort Port] [TransmitPort Other]
  {first second : Interface} {Beside : Port → Other → Prop} {port : Port} {other : Other}
  {Same : Space → Space → Prop} {counters : Prop} {one another : Endpoint Space}

theorem count_reply (akin : Endpoint.Akin Same counters one another) (beside : Beside port other)
    (cache : Arp.PeerCache) (recipient : Ipv4Address) (words : Nat) (sent : Bool) :
    Alike (BothBeside (Endpoint.Akin Same counters) Beside)
      ((one.countReply recipient words sent).run ⟨first, cache⟩ port)
      ((another.countReply recipient words sent).run ⟨second, cache⟩ other) := by
  unfold Endpoint.countReply
  split
  · refine Alike.ok ⟨⟨akin.port, akin.buffered, akin.bus, fun all => ?_⟩, beside⟩
    obtain ⟨stats, overflows⟩ := akin.counted all
    exact ⟨by rw [stats], overflows⟩
  · refine Alike.ok ⟨⟨akin.port, akin.buffered, akin.bus, fun all => ?_⟩, beside⟩
    obtain ⟨stats, overflows⟩ := akin.counted all
    exact ⟨by rw [stats], overflows⟩

variable [Bus Space] (twins : TwinPorts first second Beside)

include twins

theorem reply (akin : Endpoint.Akin Same counters one another) (beside : Beside port other)
    (cache : Arp.PeerCache) (datagram : Udp.Datagram) (request : Etherbone.Request)
    {values : List UInt32} (asked : values ≠ []) (few : values.length ≤ Etherbone.maximumWords) :
    Alike (BothBeside (Endpoint.Akin Same counters) Beside)
      (Udp.Reaction.run ⟨first, cache⟩ (.look (one.reply datagram request values)) port)
      (Udp.Reaction.run ⟨second, cache⟩ (.look (another.reply datagram request values)) other) := by
  let packet := Etherbone.readReply request.byteEnable request.returnBase values
  have length : packet.length = Etherbone.packetLength values.length 0 :=
    Etherbone.length_read_reply _ _ asked
  have short : Etherbone.packetLength values.length 0 ≤
      Etherbone.packetLength Etherbone.maximumWords 0 := Endpoint.packet_length_le few
  have room := Nat.le_trans short (Endpoint.reply_room twins.placed)
  have otherRoom := Nat.le_trans short (Endpoint.reply_room twins.otherPlaced)
  obtain ⟨⟨slot, contents, large⟩, otherSlot, otherContents, otherLarge⟩ :=
    twins.contents port other beside
  obtain ⟨area, looked, whole⟩ := Udp.payload_area_known twins.placed contents
    (Nat.le_trans first.frame_end_le large)
  obtain ⟨otherArea, otherLooked, otherWhole⟩ := Udp.payload_area_known twins.otherPlaced
    otherContents (Nat.le_trans second.frame_end_le otherLarge)
  simp only [Udp.Reaction.run]
  rw [looked, otherLooked]
  -- What stands in the two payload areas may differ, but the answer is built over all of it.
  change Alike (BothBeside (Endpoint.Akin Same counters) Beside)
    ((one.reply datagram request values area).run ⟨first, cache⟩ port)
    ((another.reply datagram request values otherArea).run ⟨second, cache⟩ other)
  rw [Endpoint.reply_eq datagram request _ asked (by omega),
    Endpoint.reply_eq datagram request _ asked (by omega), akin.port]
  have fits : packet.length ≤ Udp.payloadRoom first := by omega
  have otherFits : packet.length ≤ Udp.payloadRoom second := by omega
  apply (twins.stores packet port other beside fits otherFits).bind
  rintro stored otherStored ⟨beside, handed, otherHanded⟩
  apply (twins.send_to beside cache _ _ _ _ ⟨fun _ => otherFits, fun _ => fits⟩
    fun _ => handed.trans otherHanded.symm).bind
  rintro ⟨sent, after, log⟩ ⟨otherSent, otherAfter, otherLog⟩ ⟨same, beside⟩
  cases same
  exact (count_reply akin beside cache _ _ sent).bind fun _ _ both => Alike.ok both

variable (indistinct : Bus.Indistinct Same)

include indistinct

theorem perform (akin : Endpoint.Akin Same counters one another) (beside : Beside port other)
    (cache : Arp.PeerCache) (datagram : Udp.Datagram) (request : Etherbone.Request)
    (few : request.reads.length ≤ Etherbone.maximumWords) :
    Alike (BothBeside (Endpoint.Akin Same counters) Beside)
      ((one.perform datagram request).run ⟨first, cache⟩ port)
      ((another.perform datagram request).run ⟨second, cache⟩ other) := by
  obtain ⟨values, bus⟩ := indistinct.read_all request.reads
    (indistinct.write_all request.writes akin.bus)
  have performed : Endpoint.Akin Same counters
      { one with
        bus := (Bus.readAll request.reads (Bus.writeAll request.writes one.bus).1).2.1
        stats.executed := one.stats.executed + 1 }
      { another with
        bus := (Bus.readAll request.reads (Bus.writeAll request.writes another.bus).1).2.1
        stats.executed := another.stats.executed + 1 } := by
    refine ⟨akin.port, akin.buffered, bus, fun all => ?_⟩
    obtain ⟨stats, overflows⟩ := akin.counted all
    exact ⟨by rw [stats], overflows⟩
  unfold Endpoint.perform
  apply Udp.Reaction.report_all_alike _ _ beside
  intro port other beside
  split
  · exact Alike.ok ⟨performed, beside⟩
  · next reading =>
      rw [values]
      apply twins.reply performed beside cache datagram request
      · exact Endpoint.values_ne_nil reading _
      · rw [Endpoint.length_read_all]
        exact few

theorem execute (akin : Endpoint.Akin Same counters one another) (beside : Beside port other)
    (cache : Arp.PeerCache) (datagram : Udp.Datagram) (packet : Bytes) :
    Alike (BothBeside (Endpoint.Akin Same counters) Beside)
      ((one.execute datagram packet).run ⟨first, cache⟩ port)
      ((another.execute datagram packet).run ⟨second, cache⟩ other) := by
  unfold Endpoint.execute
  apply Udp.Reaction.of_except_alike
  intro supported _
  split
  · apply Udp.Reaction.of_except_alike
    intro request parsed
    have few := (Etherbone.Request.of_packet_reads packet).of_ok parsed
    exact twins.perform indistinct akin beside cache datagram request few
  · apply Udp.Reaction.of_except_alike
    intro sizes _
    refine Alike.ok ⟨⟨akin.port, akin.buffered, akin.bus, fun all => ?_⟩, beside⟩
    obtain ⟨stats, overflows⟩ := akin.counted all
    exact ⟨by rw [stats], overflows⟩

theorem execute_all (akin : Endpoint.Akin Same counters one another) (beside : Beside port other)
    (cache : Arp.PeerCache) (datagram : Udp.Datagram) (found : List Etherbone.Found) :
    Alike (BothBeside (Endpoint.Akin Same counters) Beside)
      ((Endpoint.executeAll datagram found one).run ⟨first, cache⟩ port)
      ((Endpoint.executeAll datagram found another).run ⟨second, cache⟩ other) := by
  induction found generalizing port other one another with
  | nil => exact Alike.ok ⟨akin, beside⟩
  | cons item found induction =>
      cases item with
      | packet octets =>
          apply Udp.Reaction.and_then_alike
            (twins.execute indistinct akin beside cache datagram octets)
          intro one another port other akin beside
          exact induction akin beside
      | oversized length =>
          exact (induction akin beside).bind fun _ _ both => Alike.ok both

/-- Consumers of register accesses build their replies over whatever is in the slot. -/
theorem endpoint_reactions :
    Udp.TwinReactions (Endpoint.Akin Same counters) first second Beside := by
  intro cache datagram one another port other akin beside
  obtain ⟨found, buffered, overflows⟩ := Etherbone.Reassembler.accept_alike counters akin.buffered
    (fun all => (akin.counted all).2) datagram.payload
  have taken : Endpoint.Akin Same counters
      { one with reassembler := (one.reassembler.accept datagram.payload).reassembler }
      { another with reassembler := (another.reassembler.accept datagram.payload).reassembler } :=
    ⟨akin.port, buffered, akin.bus, fun all => ⟨(akin.counted all).1, overflows all⟩⟩
  change Alike (BothBeside (Endpoint.Akin Same counters) Beside)
    ((one.onDatagram datagram).run ⟨first, cache⟩ port)
    ((another.onDatagram datagram).run ⟨second, cache⟩ other)
  unfold Endpoint.onDatagram
  apply Udp.Reaction.report_all_alike _ _ beside
  intro port other beside
  rw [found]
  exact twins.execute_all indistinct taken beside cache datagram _

omit indistinct in
theorem endpoint_same : Udp.TwinReactions (Eq : Endpoint Space → Endpoint Space → Prop)
    first second Beside := by
  rw [← Endpoint.akin_eq]
  exact twins.endpoint_reactions Bus.indistinct_eq

end TwinPorts

end InstrumentLink
