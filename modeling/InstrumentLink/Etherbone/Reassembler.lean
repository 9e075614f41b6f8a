import InstrumentLink.Diagnostic

/-!
Packets out of a stream of datagrams.

Datagrams may cut the stream anywhere. `drain` goes over the octets held and comes across as many
packets as they complete: octets before a magic are passed over, a header whose packet could never
be held is passed over by one octet, and an incomplete packet is left for later. `Reassembler` holds
what is left between datagrams, up to a fixed capacity.
-/

set_option autoImplicit false

namespace InstrumentLink.Etherbone

/-- Octets that are held between datagrams. -/
def streamCapacity : Nat := 1512

def magicFirst : UInt8 := 0x4e

def magicSecond : UInt8 := 0x6f

inductive Found where
  | packet (octets : Bytes)
  /-- A header that announces more octets than can be held. -/
  | oversized (length : Nat)
  deriving DecidableEq, Repr

def Found.packet? : Found → Option Bytes
  | .packet octets => some octets
  | .oversized _ => none

def Found.diagnostic? : Found → Option Diagnostic
  | .packet _ => none
  | .oversized length => some (.streamPacketSkipped length)

def announced (stream : Bytes) : Nat :=
  packetLength (stream.getD 10 0).toNat (stream.getD 11 0).toNat

theorem header_length_le_packet_length (writes reads : Nat) :
    headerLength ≤ packetLength writes reads := by
  unfold packetLength
  omega

structure Pass where
  /-- What it comes across, in order. -/
  found : List Found
  /-- How many octets are done with. -/
  consumed : Nat
  /-- How many packets are handed out. -/
  packets : Nat
  deriving DecidableEq, Repr

def Pass.after (first : Found) (pass : Pass) : Pass := { pass with found := first :: pass.found }

/-- Goes over the octets held from `start` on, `packets` packets being handed out already. It stops
where the octets that follow may still become a packet. -/
def drain (held : Bytes) (start packets : Nat) : Pass :=
  match follows : held.drop start with
  | [] => ⟨[], start, packets⟩
  | [octet] => ⟨[], if octet = magicFirst then start else start + 1, packets⟩
  | first :: second :: more =>
      let rest := first :: second :: more
      if first = magicFirst ∧ second = magicSecond then
        let length := announced rest
        if rest.length ≤ headerLength then ⟨[], start, packets⟩
        else if streamCapacity < length then
          (drain held (start + 1) packets).after (.oversized length)
        else if rest.length < length then ⟨[], start, packets⟩
        else (drain held (start + length) (packets + 1)).after (.packet (rest.take length))
      else drain held (start + 1) packets
termination_by held.length - start
decreasing_by
  all_goals
    have inside := congrArg List.length follows
    simp only [List.length_drop, List.length_cons] at inside
  · omega
  · have long : headerLength ≤ announced (first :: second :: more) :=
      header_length_le_packet_length _ _
    simp only [headerLength] at long
    omega
  · omega

structure Reassembler where
  buffered : Bytes := []
  /-- How often held octets were given up to make room. -/
  overflows : UInt32 := 0
  deriving DecidableEq, Repr

/-- What came of a datagram. -/
structure Intake where
  found : List Found
  /-- How many packets were handed out. -/
  packets : Nat
  reassembler : Reassembler
  log : Log

namespace Reassembler

def reset (reassembler : Reassembler) : Reassembler := { reassembler with buffered := [] }

/-- Gives up the octets held if so many more do not fit behind them. -/
def makeRoom (arriving : Nat) (reassembler : Reassembler) : Reassembler × Log :=
  if streamCapacity < reassembler.buffered.length + arriving then
    ({ buffered := [], overflows := reassembler.overflows + 1 },
      [.streamOverflow reassembler.buffered.length])
  else (reassembler, [])

/-- Takes in a datagram and counts the packets it completes. If it does not fit behind the octets
held, those are given up; if it does not fit at all, it is dropped as well. -/
def accept (data : Bytes) (reassembler : Reassembler) : Intake :=
  let (reassembler, log) := reassembler.makeRoom data.length
  if streamCapacity < data.length then
    ⟨[], 0, reassembler, log ++ [.streamDatagramDropped data.length]⟩
  else
    let held := reassembler.buffered ++ data
    let pass := drain held 0 0
    ⟨pass.found, pass.packets, { reassembler with buffered := held.drop pass.consumed }, log⟩

def push (data : Bytes) (reassembler : Reassembler) : List Found × Reassembler × Log :=
  let intake := reassembler.accept data
  (intake.found, intake.reassembler, intake.log)

end Reassembler

end InstrumentLink.Etherbone
