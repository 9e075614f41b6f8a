import InstrumentLink.Proofs.FaithfulPort

/-!
What a consumer tries to send.

A reaction that is observed is carried out as before, and next to its result stands what it tried to
send: to whom, from which port to which, what stood in the payload area at that moment, and whether
it was sent. On a faithful port these attempts say which frames are on the wire.
-/

set_option autoImplicit false

namespace InstrumentLink.Udp

/-- A datagram that a consumer asked to be sent. -/
structure Attempt where
  /-- The address the peer has to have, if one was given. -/
  recipient : Option Ipv4Address
  sourcePort : UInt16
  destinationPort : UInt16
  /-- The octets handed in, if the payload area has so many. -/
  payload : Option Bytes
  sent : Bool
  deriving DecidableEq, Repr

structure Observation (Result Port : Type) where
  result : Result
  port : Port
  log : Log
  attempts : List Attempt

section Observe

variable {Port First Second : Type}

def Observation.after (log : Log) (attempts : List Attempt) (seen : Observation First Port) :
    Observation First Port :=
  { seen with log := log ++ seen.log, attempts := attempts ++ seen.attempts }

variable [TransmitPort Port]

/-- The first octets of the payload area, if it has so many. -/
def handedIn (interface : Interface) (length : Nat) (port : Port) : Option Bytes :=
  Except.toOption do Bytes.slice (← payloadArea interface port) 0 length

namespace Reaction

def observe (binding : Binding) : Reaction First → Port → Except Fault (Observation First Port)
  | .done result, port => .ok ⟨result, port, [], []⟩
  | .fail fault, _ => .error fault
  | .report event next, port => do return (← next.observe binding port).after [event] []
  | .look next, port => do
      (next (← payloadArea binding.interface port)).observe binding port
  | .store offset patch next, port => do
      next.observe binding (← storePayload binding.interface offset patch port)
  | .send sourcePort destinationPort length next, port => do
      let payload := handedIn binding.interface length port
      let (sent, port, log) ← binding.send sourcePort destinationPort length port
      let seen ← (next sent).observe binding port
      return seen.after log [⟨none, sourcePort, destinationPort, payload, sent⟩]
  | .sendTo ip sourcePort destinationPort length next, port => do
      let payload := handedIn binding.interface length port
      let (sent, port, log) ← binding.sendTo ip sourcePort destinationPort length port
      let seen ← (next sent).observe binding port
      return seen.after log [⟨some ip, sourcePort, destinationPort, payload, sent⟩]

/-- Observing changes nothing. -/
theorem run_of_observe (binding : Binding) (reaction : Reaction First) (port : Port) :
    reaction.run binding port = do
      let seen ← reaction.observe binding port
      return (seen.result, seen.port, seen.log) := by
  induction reaction generalizing port with
  | done result => rfl
  | fail fault => rfl
  | report event next induction => simp [run, observe, induction, Observation.after]
  | look next induction => simp [run, observe, induction]
  | store offset patch next induction => simp [run, observe, induction]
  | send sourcePort destinationPort length next induction =>
      simp [run, observe, induction, Observation.after]
  | sendTo ip sourcePort destinationPort length next induction =>
      simp [run, observe, induction, Observation.after]

theorem observe_and_then (binding : Binding) (reaction : Reaction First)
    (continuation : First → Reaction Second) (port : Port) :
    (reaction.andThen continuation).observe binding port = do
      let first ← reaction.observe binding port
      let second ← (continuation first.result).observe binding first.port
      return second.after first.log first.attempts := by
  induction reaction generalizing port with
  | done result =>
      change _ = (continuation result).observe binding port >>= pure
      rw [bind_pure]
      rfl
  | fail fault => rfl
  | report event next induction => simp [andThen, observe, induction, Observation.after]
  | look next induction => simp [andThen, observe, induction]
  | store offset patch next induction => simp [andThen, observe, induction]
  | send sourcePort destinationPort length next induction =>
      simp [andThen, observe, induction, Observation.after]
  | sendTo ip sourcePort destinationPort length next induction =>
      simp [andThen, observe, induction, Observation.after]

theorem run_and_then (binding : Binding) (reaction : Reaction First)
    (continuation : First → Reaction Second) (port : Port) :
    (reaction.andThen continuation).run binding port = do
      let (first, between, before) ← reaction.run binding port
      let (second, last, after) ← (continuation first).run binding between
      return (second, last, before ++ after) := by
  simp [run_of_observe, observe_and_then, Observation.after]

theorem observe_and_then_returns (binding : Binding) {reaction : Reaction First}
    {continuation : First → Reaction Second} {port : Port}
    {good : Observation First Port → Prop} {better : Observation Second Port → Prop}
    (first : Returns (reaction.observe binding port) good)
    (second : ∀ seen, good seen → Returns ((continuation seen.result).observe binding seen.port)
      fun later => better (later.after seen.log seen.attempts)) :
    Returns ((reaction.andThen continuation).observe binding port) better := by
  rw [observe_and_then]
  apply first.bind
  intro seen holds
  apply (second seen holds).bind
  intro later holds
  exact Returns.ok holds

theorem observe_report_all (binding : Binding) {continuation : Unit → Reaction Second} (log : Log)
    {port : Port} {good : Observation Second Port → Prop}
    (relog : ∀ seen before, good seen → good (seen.after before []))
    (returns : Returns ((continuation ()).observe binding port) good) :
    Returns ((reportAll log >>= continuation).observe binding port) good := by
  induction log with
  | nil => exact returns
  | cons event log induction =>
      change Returns
        (Reaction.observe binding (.report event (reportAll log >>= continuation)) port) _
      exact induction.bind fun seen holds => Returns.ok (relog seen [event] holds)

end Reaction

end Observe

def areaOf (interface : Interface) (slot : Bytes) : Bytes :=
  (slot.drop (payloadStart interface)).take (payloadRoom interface)

/-- What an attempt put on the wire: a frame if it was sent, and nothing if not. -/
def Attempt.frames (binding : Binding) (finish : Bytes → Bytes) (attempt : Attempt) : List Bytes :=
  if attempt.sent then
    attempt.payload.toList.map fun payload => finish (binding.interface.laid
      (Udp.frame binding.interface binding.cache.station attempt.sourcePort attempt.destinationPort
        payload))
  else []

theorem length_area_of {interface : Interface} {slot : Bytes} (placed : interface.Placed)
    (room : interface.frameEnd ≤ slot.length) :
    (areaOf interface slot).length = payloadRoom interface := by
  have order := payload_start_le placed
  rw [areaOf, List.length_take, List.length_drop, payloadRoom]
  omega

theorem payload_area_eq {Port : Type} [TransmitPort Port] {interface : Interface} {port : Port}
    {slot : Bytes} (placed : interface.Placed) (contents : TransmitPort.contents port = .ok slot)
    (room : interface.frameEnd ≤ slot.length) :
    payloadArea interface port = .ok (areaOf interface slot) :=
  bind_known contents (Bytes.slice_inside _ _ _ (payload_start_le placed) room)

theorem handed_in_eq {Port : Type} [TransmitPort Port] {interface : Interface}
    (placed : interface.Placed) {port : Port} {slot : Bytes}
    (contents : TransmitPort.contents port = .ok slot) (room : interface.frameEnd ≤ slot.length)
    {length : Nat} (fits : length ≤ payloadRoom interface) :
    handedIn interface length port =
      some ((slot.drop (payloadStart interface)).take length) := by
  have whole := length_area_of placed room
  unfold handedIn
  rw [payload_area_eq placed contents room]
  change (Bytes.slice (areaOf interface slot) 0 length).toOption = _
  rw [Bytes.slice_inside _ _ _ (Nat.zero_le _) (by omega), areaOf, List.drop_zero, List.take_take,
    Nat.sub_zero, Nat.min_eq_left fits]
  rfl

theorem handed_in_take {Port : Type} [TransmitPort Port] {interface : Interface} {port : Port}
    {whole length : Nat} {payload : Bytes} (handed : handedIn interface whole port = some payload)
    (short : length ≤ whole) : handedIn interface length port = some (payload.take length) := by
  unfold handedIn at handed ⊢
  cases looked : payloadArea interface port with
  | error fault =>
      rw [looked] at handed
      cases handed
  | ok area =>
      rw [looked] at handed
      change (Bytes.slice area 0 whole).toOption = _ at handed
      change (Bytes.slice area 0 length).toOption = _
      by_cases room : whole ≤ area.length
      · rw [Bytes.slice_inside _ _ _ (Nat.zero_le _) room] at handed
        rw [Bytes.slice_inside _ _ _ (Nat.zero_le _) (Nat.le_trans short room)]
        cases handed
        simp only [List.take_take, Nat.sub_zero, Nat.min_eq_left short]
        rfl
      · rw [Bytes.slice, if_neg (by omega)] at handed
        cases handed

section Faithful

variable {Port First : Type} [TransmitPort Port] {Sound : Port → Prop} {view : Port → PortView}
  {finish : Bytes → Bytes}

theorem handed_in_fits (faithful : FaithfulPort Sound view finish) {interface : Interface}
    (placed : interface.Placed) (port : Port) (sound : Sound port) {length : Nat}
    (fits : length ≤ payloadRoom interface) :
    handedIn interface length port =
      some (((view port).slot.drop (payloadStart interface)).take length) := by
  have room := faithful.room port sound
  have bound := interface.frame_end_le
  exact handed_in_eq placed (faithful.contents port sound) (by omega) fits

theorem handed_in_stored (faithful : FaithfulPort Sound view finish) {interface : Interface}
    (placed : interface.Placed) (patch : Bytes) (port : Port) (sound : Sound port)
    (fits : patch.length ≤ payloadRoom interface) :
    Returns (storePayload interface 0 patch port) fun after => Sound after ∧
      (view after).sent = (view port).sent ∧
      handedIn interface patch.length after = some patch := by
  have order := payload_start_le placed
  have bound := interface.frame_end_le
  obtain ⟨area, looked, room⟩ := payload_area_returns faithful.safe placed port sound
  unfold storePayload
  apply Returns.bind_ok looked
  rw [if_pos (by omega)]
  simp only [payloadRoom] at fits
  refine (faithful.store port _ patch sound (by omega)).mono ?_
  rintro after ⟨sound, written, same⟩
  refine ⟨sound, same, ?_⟩
  rw [handed_in_fits faithful placed after sound fits]
  exact congrArg some (Bytes.slice_overwritten written)

theorem store_payload_keeps (faithful : FaithfulPort Sound view finish) {interface : Interface}
    (placed : interface.Placed) (offset : Nat) (patch : Bytes) (port : Port) (sound : Sound port) :
    Yields (storePayload interface offset patch port) fun after =>
      Sound after ∧ (view after).sent = (view port).sent := by
  have order := payload_start_le placed
  have bound := interface.frame_end_le
  apply (payload_area_returns faithful.safe placed port sound).yields.bind
  intro area length
  split
  · next inside =>
      simp only [length, payloadRoom] at inside
      exact (faithful.store port _ patch sound (by omega)).yields.mono
        fun after stored => ⟨stored.1, stored.2.2⟩
  · trivial

namespace Binding

variable (binding : Binding)

theorem send_sends (faithful : FaithfulPort Sound view finish) (placed : binding.interface.Placed)
    (sourcePort destinationPort : UInt16) (length : Nat) (port : Port) (sound : Sound port)
    (recipient : Option Ipv4Address) :
    Returns (binding.send sourcePort destinationPort length port) fun answer =>
      let attempt : Attempt := ⟨recipient, sourcePort, destinationPort,
        handedIn binding.interface length port, answer.1⟩
      Sound answer.2.1 ∧
      (view answer.2.1).sent = (view port).sent ++ attempt.frames binding finish ∧
      (PromptPort Sound binding.interface → binding.cache.isResolved →
        length ≤ payloadRoom binding.interface → answer.1 = true) := by
  have nothing : (view port).sent = (view port).sent ++ [] := (List.append_nil _).symm
  unfold send
  split
  · split
    · next fits =>
        have bound := binding.interface.frame_end_le
        have room := faithful.room port sound
        have short : length ≤ payloadRoom binding.interface := by
          unfold payloadRoom
          omega
        rw [emit_eq _ _ _ _ (faithful.contents port sound) (by omega)]
        rw [handed_in_fits faithful placed port sound short]
        refine (Interface.send_frame_sends faithful placed _ port sound ?_).mono ?_
        · rw [length_frame, List.length_take, List.length_drop]
          simp only [payloadStart] at fits ⊢
          omega
        · rintro answer ⟨sound, sent, prompt⟩
          refine ⟨sound, ?_, fun willing _ _ => prompt willing⟩
          rw [sent]
          cases answer.1 <;> rfl
    · next long =>
        -- A payload that is too long is refused, and nothing is promised for it.
        refine Returns.ok ⟨sound, nothing, fun _ _ short => ?_⟩
        have order := payload_start_le placed
        unfold payloadRoom at short
        omega
  · next unresolved =>
      exact Returns.ok ⟨sound, nothing, fun _ resolved => (unresolved resolved).elim⟩

theorem send_to_sends (faithful : FaithfulPort Sound view finish)
    (placed : binding.interface.Placed) (ip : Ipv4Address) (sourcePort destinationPort : UInt16)
    (length : Nat) (port : Port) (sound : Sound port) :
    Returns (binding.sendTo ip sourcePort destinationPort length port) fun answer =>
      let attempt : Attempt := ⟨some ip, sourcePort, destinationPort,
        handedIn binding.interface length port, answer.1⟩
      Sound answer.2.1 ∧
      (view answer.2.1).sent = (view port).sent ++ attempt.frames binding finish ∧
      (PromptPort Sound binding.interface → binding.cache.resolves ip →
        length ≤ payloadRoom binding.interface → answer.1 = true) := by
  unfold sendTo
  split
  · refine (binding.send_sends faithful placed sourcePort destinationPort length port sound
      (some ip)).mono ?_
    rintro answer ⟨sound, sent, prompt⟩
    refine ⟨sound, sent, fun willing resolves => prompt willing ?_⟩
    exact (Arp.PeerCache.resolves_iff.mp resolves).2
  · next other =>
      exact Returns.ok ⟨sound, (List.append_nil _).symm, fun _ resolves => (other resolves).elim⟩

end Binding

/-- The frames on the wire are those of the attempts that were sent. -/
theorem Reaction.observe_frames (faithful : FaithfulPort Sound view finish) (binding : Binding)
    (placed : binding.interface.Placed) (reaction : Reaction First) (port : Port)
    (sound : Sound port) :
    Yields (reaction.observe binding port) fun seen => Sound seen.port ∧
      (view seen.port).sent =
        (view port).sent ++ seen.attempts.flatMap (Attempt.frames binding finish) := by
  induction reaction generalizing port with
  | done result => exact Yields.ok ⟨sound, (List.append_nil _).symm⟩
  | fail fault => trivial
  | report event next induction =>
      exact (induction port sound).bind fun seen holds => Yields.ok holds
  | look next induction =>
      apply (payload_area_returns faithful.safe placed port sound).yields.bind
      exact fun area _ => induction area port sound
  | store offset patch next induction =>
      apply (store_payload_keeps faithful placed offset patch port sound).bind
      rintro stored ⟨sound, same⟩
      rw [← same]
      exact induction stored sound
  | send sourcePort destinationPort length next induction =>
      apply (binding.send_sends faithful placed sourcePort destinationPort length port sound
        none).yields.bind
      rintro ⟨sent, after, log⟩ ⟨sound, frames, -⟩
      apply (induction sent after sound).bind
      rintro seen ⟨sound, rest⟩
      refine Yields.ok ⟨sound, ?_⟩
      simp [Observation.after, rest, frames]
  | sendTo ip sourcePort destinationPort length next induction =>
      apply (binding.send_to_sends faithful placed ip sourcePort destinationPort length port
        sound).yields.bind
      rintro ⟨sent, after, log⟩ ⟨sound, frames, -⟩
      apply (induction sent after sound).bind
      rintro seen ⟨sound, rest⟩
      refine Yields.ok ⟨sound, ?_⟩
      simp [Observation.after, rest, frames]

end Faithful

end InstrumentLink.Udp
