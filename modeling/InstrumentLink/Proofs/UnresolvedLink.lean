import InstrumentLink.Proofs.PeerProvenance

/-!
A link that was never given a peer.

As long as `resolve` is not called, a link is pointed at no address, which is written as an address
of zeros. A reply that claims to come from there is taken for the peer's all the same, so such a
link is without a peer exactly as long as no reply from the address of zeros names a hardware
address.
-/

set_option autoImplicit false

namespace InstrumentLink

namespace Link

/-- A moment in which a link has no peer: what it is asked to send it refuses, and it sends no
datagram. -/
structure Moment.Peerless (interface : Interface) (moment : Moment) : Prop where
  unresolved : moment.cache.isResolved = false
  refused : ∀ offer ∈ moment.offers, offer.sent = false
  silent : ∀ octets ∈ moment.frames, Udp.addressee interface octets = none

def Event.Unaimed (event : Event) : Prop := ∀ ip ∈ event.pointsAt, ip = .unspecified

def Event.Harmless (interface : Interface) (event : Event) : Prop :=
  ∀ mac ∈ event.answer interface .unspecified, mac.isZero = true

section Remembering

variable {interface : Interface} {cache : Arp.PeerCache} {event : Event}

theorem remember_ip (unaimed : event.Unaimed) (nowhere : cache.ip = .unspecified) :
    (remember interface cache event).ip = .unspecified := by
  unfold remember
  split
  · next ip points => exact unaimed ip points
  · exact nowhere

theorem remember_unresolved (nowhere : cache.ip = .unspecified)
    (unresolved : cache.isResolved = false) (harmless : event.Harmless interface) :
    (remember interface cache event).isResolved = false := by
  unfold remember
  split
  · rfl
  · rw [nowhere]
    cases told : event.answer interface .unspecified with
    | none => exact unresolved
    | some mac =>
        have zero := harmless mac told
        simp [Arp.PeerCache.isResolved, zero]

theorem remember_resolved (nowhere : cache.ip = .unspecified)
    (unresolved : (remember interface cache event).isResolved = false) :
    event.Harmless interface := by
  intro mac told
  have points : event.pointsAt = none := by
    cases event with
    | received slot => rfl
    | started | aimed | other => cases told
  rw [remember, points, nowhere, Option.mem_def.mp told] at unresolved
  simpa [Arp.PeerCache.isResolved] using unresolved

end Remembering

namespace Told

section Telling

variable {Hardware Consumer : Type} [Mac.Device Hardware] {geometry : Mac.SlotGeometry}
  {config : LinkConfig} {link last : Told geometry Hardware Consumer}

theorem Tells.peerless {moment : Moment} (tells : Tells config link moment last)
    (unresolved : moment.cache.isResolved = false) : moment.Peerless config.interface := by
  refine ⟨unresolved, ?_, ?_⟩
  · intro offer member
    by_contra sent
    have known := (tells.toPeer offer member (Bool.not_eq_false _ ▸ sent)).1
    rw [unresolved] at known
    cases known
  · intro octets member
    by_contra datagram
    obtain ⟨station, addressed⟩ := Option.ne_none_iff_exists'.mp datagram
    have known := ((tells.built octets member).addressee station addressed).1
    rw [unresolved] at known
    cases known

/-- A link that is pointed at no address stays without a peer exactly if nothing is told of the
address of zeros. -/
theorem Tale.peerless_iff {history : List Moment} (tale : Tale config link history last)
    (nowhere : link.cache.ip = .unspecified) (unresolved : link.cache.isResolved = false)
    (unaimed : ∀ moment ∈ history, moment.event.Unaimed) :
    (∀ moment ∈ history, moment.Peerless config.interface) ↔
      ∀ moment ∈ history, moment.event.Harmless config.interface := by
  induction tale with
  | nil link => simp
  | @cons link next last now later tells rest induction =>
      obtain ⟨unaimedNow, unaimedLater⟩ := List.forall_mem_cons.mp unaimed
      have remembered := tells.remembered
      have same := tells.cache
      have nextNowhere : next.cache.ip = .unspecified := by
        rw [remembered]
        exact remember_ip unaimedNow nowhere
      simp only [List.forall_mem_cons]
      constructor
      · rintro ⟨peerless, peerlessLater⟩
        have nextUnresolved := peerless.unresolved
        rw [same] at nextUnresolved
        refine ⟨?_, (induction nextNowhere nextUnresolved unaimedLater).mp peerlessLater⟩
        rw [remembered] at nextUnresolved
        exact remember_resolved nowhere nextUnresolved
      · rintro ⟨harmless, harmlessLater⟩
        have nextUnresolved : next.cache.isResolved = false := by
          rw [remembered]
          exact remember_unresolved nowhere unresolved harmless
        refine ⟨tells.peerless (by rw [same, nextUnresolved]), ?_⟩
        exact (induction nextNowhere nextUnresolved unaimedLater).mpr harmlessLater

end Telling

section Running

variable {Hardware Consumer : Type} [Mac.Device Hardware] [Udp.Handler Consumer]
  {geometry : Mac.SlotGeometry}

theorem service_unaimed (link : Told geometry Hardware Consumer) :
    Yields (service link) fun serviced => serviced.1.event.Unaimed := by
  have unaimed : link.serviceEvent.Unaimed := by
    simp [Event.Unaimed, service_event_points link]
  unfold service
  exact (Yields.intro _).bind fun serviced _ => unaimed

theorem perform_unaimed (link : Told geometry Hardware Consumer)
    (action : Action (Mac.Tapped geometry Hardware) (Udp.Noted Consumer))
    (keeps : ∀ ip, action ≠ .resolve ip) :
    Yields (perform link action) fun performed =>
      ∀ moment ∈ performed.1, moment.event.Unaimed := by
  have started : Event.started.Unaimed := by
    rintro ip ⟨⟩
    rfl
  have other : Event.other.Unaimed := by
    rintro ip ⟨⟩
  cases action with
  | start =>
      exact (Yields.intro _).bind fun answer _ => List.forall_mem_singleton.mpr started
  | service =>
      exact (service_unaimed link).bind fun serviced unaimed =>
        List.forall_mem_singleton.mpr unaimed
  | resolve ip => exact (keeps ip rfl).elim
  | send sourcePort destinationPort length =>
      exact (Yields.intro _).bind fun answer _ => List.forall_mem_singleton.mpr other
  | sendTo ip sourcePort destinationPort length =>
      exact (Yields.intro _).bind fun answer _ => List.forall_mem_singleton.mpr other
  | fill offset patch =>
      exact (Yields.intro _).bind fun after _ => List.forall_mem_singleton.mpr other
  | register port consumer =>
      exact (Yields.intro _).bind fun after _ => List.forall_mem_singleton.mpr other
  | device change =>
      exact (Yields.intro _).bind fun after _ => List.forall_mem_singleton.mpr other

theorem perform_all_unaimed
    (actions : List (Action (Mac.Tapped geometry Hardware) (Udp.Noted Consumer)))
    (keep : ∀ action ∈ actions, ∀ ip, action ≠ .resolve ip)
    (link : Told geometry Hardware Consumer) :
    Yields (performAll actions link) fun performed =>
      ∀ moment ∈ performed.1, moment.event.Unaimed := by
  induction actions generalizing link with
  | nil => exact List.forall_mem_nil _
  | cons action actions induction =>
      obtain ⟨keepsFirst, keepLater⟩ := List.forall_mem_cons.mp keep
      unfold performAll
      apply (perform_unaimed link action keepsFirst).bind
      intro now unaimed
      exact (induction keepLater now.2).bind fun later unaimedLater =>
        List.forall_mem_append.mpr ⟨unaimed, unaimedLater⟩

theorem perform_all_start
    (actions : List (Action (Mac.Tapped geometry Hardware) (Udp.Noted Consumer)))
    (link : Told geometry Hardware Consumer) :
    Yields (performAll (actions ++ [.start]) link) fun performed => performed.2.cache = {} := by
  induction actions generalizing link with
  | nil =>
      have started : Yields (perform link .start) fun performed => performed.2.cache = {} :=
        (start_forgets link).bind fun started forgotten => forgotten
      exact started.bind fun now forgotten => forgotten
  | cons action actions induction =>
      exact (Yields.intro _).bind fun now _ =>
        (induction now.2).bind fun later forgotten => forgotten

end Running

end Told

open Mac (SteadyDevice Tapped)

variable {Hardware Consumer : Type} [Mac.Device Hardware] [Udp.Handler Consumer]

/-- From its creation or a start on, and until `resolve` is called, a link is without a peer,
refuses to send and sends no datagram, exactly as long as no ARP reply from the address of zeros
names a hardware address. -/
theorem peerless_without_resolve_iff (config : LinkConfig) (geometry : Mac.SlotGeometry)
    [SteadyDevice geometry Hardware] (device : Hardware)
    (whole : (Mac.memory device).length = geometry.length) (link : Told geometry Hardware Consumer)
    (created : Link.create ⟨⟨device, {}⟩, {}⟩ geometry config = .ok link)
    (before later : List (Action (Tapped geometry Hardware) (Udp.Noted Consumer)))
    (begins : before = [] ∨ ∃ others, before = others ++ [.start])
    (leave : ∀ action ∈ before ++ later, action.LeavesTap)
    (keep : ∀ action ∈ later, ∀ ip, action ≠ .resolve ip) (past history : List Moment)
    (ready last : Told geometry Hardware Consumer)
    (reached : Told.performAll before link = .ok (past, ready))
    (performed : Told.performAll later ready = .ok (history, last)) :
    (∀ moment ∈ history, moment.Peerless config.interface) ↔
      ∀ moment ∈ history, moment.event.Harmless config.interface := by
  obtain ⟨leaveBefore, leaveLater⟩ := List.forall_mem_append.mp leave
  have tidy := tidy_of_create whole created
  have past_tale := (Told.perform_all_tells tidy before leaveBefore).of_ok reached
  have tale := (Told.perform_all_tells (past_tale.tidy tidy) later leaveLater).of_ok performed
  have forgotten : ready.cache = {} := by
    rcases begins with rfl | ⟨others, rfl⟩
    · cases reached
      obtain ⟨-, rfl⟩ := of_create created
      rfl
    · exact (Told.perform_all_start others link).of_ok reached
  apply tale.peerless_iff
  · rw [forgotten]
  · rw [forgotten]
    rfl
  · exact (Told.perform_all_unaimed later keep ready).of_ok performed

def Mailbox.ofReply (sender : Arp.Station) : Mailbox :=
  ⟨Bytes.padTo 3064 (Simulation.Wire.arpReply sender
    ⟨Simulation.Wire.deviceMac, Simulation.Wire.deviceIp⟩), [1, 0, 60]⟩

/-- A reply from the address of zeros makes its sender the peer, and a datagram is sent there. -/
theorem reply_from_nowhere_makes_a_peer :
    let geometry : Mac.SlotGeometry := ⟨1532, 1, 1, by decide, by decide, by decide⟩
    let stranger : Arp.Station := ⟨⟨2, 0, 0, 0, 0, 9⟩, .unspecified⟩
    let actions : List (Action (Tapped geometry Mailbox) (Udp.Noted Simulation.Consumer)) :=
      [.start, .service, .send 1 2 0]
    (∀ action ∈ actions, ∀ ip, action ≠ .resolve ip) ∧
    ∃ link, Link.create ⟨⟨Mailbox.ofReply stranger, {}⟩, {}⟩ geometry {} = .ok link ∧
      Returns (Told.performAll actions link) fun told =>
        told.2.cache.isResolved = true ∧ told.1.flatMap Moment.offers = [⟨none, true⟩] ∧
        (Told.frames told.2).map (Udp.addressee ({} : LinkConfig).interface) = [some stranger] := by
  intro geometry stranger actions
  let link : Told geometry Mailbox Simulation.Consumer :=
    { config := {}, ring := {
        device := ⟨⟨Mailbox.ofReply stranger, {}⟩, {}⟩, geometry, softwareFrameCheck := false } }
  have seen : (Told.performAll actions link).toOption.map (fun told =>
      (told.2.cache.isResolved, told.1.flatMap Moment.offers,
        (Told.frames told.2).map (Udp.addressee ({} : LinkConfig).interface))) =
      some (true, [⟨none, true⟩], [some stranger]) := by decide +kernel
  refine ⟨by simp [actions], link, rfl, ?_⟩
  apply (Returns.of_seen seen).mono
  intro told same
  rwa [Prod.mk.injEq, Prod.mk.injEq] at same

/-- A reply from the host, which nobody asked for, is of no consequence. -/
theorem reply_from_host_makes_no_peer :
    let geometry : Mac.SlotGeometry := ⟨1532, 1, 1, by decide, by decide, by decide⟩
    let host : Arp.Station := ⟨Simulation.Wire.hostMac, Simulation.Wire.hostIp⟩
    let actions : List (Action (Tapped geometry Mailbox) (Udp.Noted Simulation.Consumer)) :=
      [.start, .service, .send 1 2 0]
    ∃ link, Link.create ⟨⟨Mailbox.ofReply host, {}⟩, {}⟩ geometry {} = .ok link ∧
      Returns (Told.performAll actions link) fun told =>
        told.1.flatMap Moment.offers = [⟨none, false⟩] ∧
        ∀ moment ∈ told.1, moment.Peerless ({} : LinkConfig).interface := by
  intro geometry host actions
  have steady := Mailbox.steady geometry (by decide)
  have whole : (Mac.memory (Mailbox.ofReply host)).length = geometry.length := by decide +kernel
  let link : Told geometry Mailbox Simulation.Consumer :=
    { config := {}, ring := {
        device := ⟨⟨Mailbox.ofReply host, {}⟩, {}⟩, geometry, softwareFrameCheck := false } }
  have created : Link.create ⟨⟨Mailbox.ofReply host, {}⟩, {}⟩ geometry {} = .ok link := rfl
  have seen : (Told.performAll actions link).toOption.map (fun told =>
      (told.1.flatMap Moment.offers, told.1.flatMap fun moment =>
        (moment.event.answer ({} : LinkConfig).interface .unspecified).toList)) =
      some ([⟨none, false⟩], []) := by decide +kernel
  obtain ⟨told, performed, same⟩ := Returns.of_seen seen
  rw [Prod.mk.injEq, List.flatMap_eq_nil_iff] at same
  refine ⟨link, created, told, performed, same.1, ?_⟩
  apply (peerless_without_resolve_iff {} geometry (Mailbox.ofReply host) whole link created []
    actions (.inl rfl) (by simp [actions, Action.LeavesTap]) (by simp [actions]) [] told.1 link
    told.2 rfl performed).mpr
  intro moment member mac tells
  have silent := Option.toList_eq_nil_iff.mp (same.2 moment member)
  rw [silent] at tells
  cases tells

end Link

end InstrumentLink
