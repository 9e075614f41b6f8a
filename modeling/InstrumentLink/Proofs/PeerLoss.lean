import InstrumentLink.Proofs.UnresolvedLink

/-!
How a link loses its peer.

A hardware address of zeros stands for an unknown one, and a reply is learned from whatever it says.
So a known peer is lost in exactly two ways: the link is started or pointed elsewhere, or a reply
says that the hardware address of the peer is all zeros.
-/

set_option autoImplicit false

namespace InstrumentLink

namespace Arp

/-- What is learned is what the peer has from then on; it is known unless it is all zeros. -/
def Outcome.Learns (known : PeerCache) (outcome : Outcome) (cache : PeerCache) : Prop :=
  ∀ mac, outcome = .learned mac →
    cache = ⟨known.ip, mac⟩ ∧ (cache.resolves cache.ip = true ↔ mac ≠ .zero)

theorem Outcome.learns (known : PeerCache) (mac : MacAddress) :
    Learns known (.learned mac) ⟨known.ip, mac⟩ := by
  rintro learned ⟨⟩
  refine ⟨rfl, ?_⟩
  simp [PeerCache.resolves, PeerCache.isResolved, MacAddress.isZero]

theorem handle_frame_learns {Port : Type} [TransmitPort Port] (interface : Interface)
    (known : PeerCache) (frame : Bytes) (port : Port) :
    Yields (handleFrame interface known frame port) fun handled =>
      handled.1.Learns known handled.2.1 := by
  apply handle_frame_cases .yields
  case malformed => rintro log _ mac ⟨⟩
  case ignored => rintro _ _ _ mac ⟨⟩
  case learned => exact fun _ _ _ _ => Outcome.learns known _
  case answered =>
    refine fun _ _ _ => (Yields.intro _).mono fun _ _ => ?_
    rintro mac ⟨⟩

end Arp

namespace Link

def Event.Leaves (ip : Ipv4Address) (event : Event) : Prop :=
  event = .started ∨ ∃ other, event = .aimed other ∧ other ≠ ip

/-- A reply is received that says of an address that its hardware address is all zeros. -/
def Event.Effaces (interface : Interface) (ip : Ipv4Address) (event : Event) : Prop :=
  ∃ slot frame, event = .received slot ∧ unframe interface slot = .ok (.ok frame) ∧
    Arp.ReplyFrom ⟨.zero, ip⟩ frame

theorem Event.effaces_iff {interface : Interface} {ip : Ipv4Address} {event : Event} :
    event.Effaces interface ip ↔ event.answer interface ip = some .zero := by
  constructor
  · rintro ⟨slot, frame, rfl, unframed, reply⟩
    exact answer_iff.mpr ⟨frame, unframed, reply⟩
  · intro told
    cases event with
    | received slot =>
        obtain ⟨frame, unframed, reply⟩ := answer_iff.mp told
        exact ⟨slot, frame, rfl, unframed, reply⟩
    | started | aimed | other => cases told

theorem remember_loses_iff {interface : Interface} {cache : Arp.PeerCache} {event : Event}
    (known : cache.isResolved = true)
    (elsewhere : ∀ ip, event = .aimed ip → cache.resolves ip = false) :
    (remember interface cache event).isResolved = false ↔
      event.Leaves cache.ip ∨ event.Effaces interface cache.ip := by
  have forgotten (ip : Ipv4Address) : (Arp.PeerCache.target ip).isResolved = false := rfl
  rw [Event.effaces_iff]
  cases event with
  | started => exact iff_of_true (forgotten _) (.inl (.inl rfl))
  | aimed ip =>
      have other : ip ≠ cache.ip := by
        rintro rfl
        have unknown := elsewhere _ rfl
        simp [Arp.PeerCache.resolves, known] at unknown
      exact iff_of_true (forgotten _) (.inl (.inr ⟨ip, rfl, other⟩))
  | received slot =>
      have stays : ¬(Event.received slot).Leaves cache.ip := by
        rintro (⟨⟨⟩⟩ | ⟨other, ⟨⟩, -⟩)
      rw [or_iff_right stays]
      change Arp.PeerCache.isResolved ⟨cache.ip, (answer interface cache.ip slot).getD cache.mac⟩ =
        false ↔ answer interface cache.ip slot = some .zero
      cases told : answer interface cache.ip slot with
      | none => exact iff_of_false (Bool.not_eq_false _ ▸ known) (by simp)
      | some mac => simp [Arp.PeerCache.isResolved, MacAddress.isZero]
  | other =>
      refine iff_of_false (Bool.not_eq_false _ ▸ known) ?_
      rintro ((⟨⟨⟩⟩ | ⟨other, ⟨⟩, -⟩) | ⟨⟨⟩⟩)

namespace Told

variable {Hardware Consumer : Type} [Mac.Device Hardware] {geometry : Mac.SlotGeometry}
  {config : LinkConfig} {link last : Told geometry Hardware Consumer}

theorem cache_after {history : List Moment} (chain : Chain (TellsAim config) link history last)
    (fresh : link.cache = {}) : last.cache = knownAfter history := by
  induction history using List.reverseRecOn with
  | nil =>
      cases chain
      exact fresh
  | append_singleton earlier moment induction =>
      obtain ⟨before, after, -, tells, rest⟩ := chain.at_moment
      cases rest
      simp [knownAfter, tells.1.cache]

end Told

open Mac (SteadyDevice Tapped)

variable {Hardware Consumer : Type} [Mac.Device Hardware] [Udp.Handler Consumer]

/-- Whatever is learned is the peer's hardware address from then on. In every run from the creation
of a link, a moment after which a known peer is not known any more is one in which the link was
started or pointed at another address, or in which a reply from the peer's address named the
hardware address of zeros; and each of these loses the peer. -/
theorem peer_lost_iff_left_or_effaced (config : LinkConfig) (geometry : Mac.SlotGeometry)
    [SteadyDevice geometry Hardware] (device : Hardware)
    (whole : (Mac.memory device).length = geometry.length) (link : Told geometry Hardware Consumer)
    (created : Link.create ⟨⟨device, {}⟩, {}⟩ geometry config = .ok link)
    (actions : List (Action (Tapped geometry Hardware) (Udp.Noted Consumer)))
    (leave : ∀ action ∈ actions, action.LeavesTap) :
    (∀ (Port : Type) [TransmitPort Port] (interface : Interface) (known : Arp.PeerCache)
      (frame : Bytes) (port : Port),
      Yields (Arp.handleFrame interface known frame port) fun handled =>
        handled.1.Learns known handled.2.1) ∧
    Prod.snd <$> Told.performAll actions link = Action.performAll actions link ∧
    ∀ history last, Told.performAll actions link = .ok (history, last) →
      last.cache = knownAfter history ∧
      ∀ earlier moment later, history = earlier ++ moment :: later →
        (knownAfter earlier).isResolved = true →
          (moment.cache.isResolved = false ↔ moment.event.Leaves (knownAfter earlier).ip ∨
            moment.event.Effaces config.interface (knownAfter earlier).ip) := by
  refine ⟨fun Port _ => Arp.handle_frame_learns, Told.perform_all_told actions link, ?_⟩
  intro history last performed
  have tidy := tidy_of_create whole created
  have fresh : link.cache = {} := by
    obtain ⟨-, rfl⟩ := of_create created
    rfl
  obtain ⟨-, chain⟩ := (Told.tells_stepwise.perform_all tidy actions leave).of_ok performed
  refine ⟨Told.cache_after chain fresh, ?_⟩
  rintro earlier moment later rfl known
  obtain ⟨before, after, past, ⟨tells, elsewhere⟩, -⟩ := chain.at_moment
  rw [← Told.cache_after past fresh] at known ⊢
  rw [tells.cache, tells.remembered]
  exact remember_loses_iff known elsewhere

def Mailbox.ofReplies (first second : Arp.Station) : Mailbox :=
  let station : Arp.Station := ⟨Simulation.Wire.deviceMac, Simulation.Wire.deviceIp⟩
  ⟨Bytes.padTo 1532 (Simulation.Wire.arpReply first station) ++
    Bytes.padTo 3064 (Simulation.Wire.arpReply second station), [1, 0, 60, 1, 1, 60]⟩

/-- The hardware address of zeros is learned like any other, and the peer is not known any more. -/
theorem zero_reply_effaces_peer :
    let geometry : Mac.SlotGeometry := ⟨1532, 2, 1, by decide, by decide, by decide⟩
    let config : LinkConfig := { resolveBudget := ⟨1, 1⟩ }
    let host : Arp.Station := ⟨Simulation.Wire.hostMac, Simulation.Wire.hostIp⟩
    let reply := Simulation.Wire.arpReply ⟨.zero, host.ip⟩ ⟨config.mac, config.ip⟩
    let actions : List (Action (Tapped geometry Mailbox) (Udp.Noted Simulation.Consumer)) :=
      [.start, .resolve host.ip, .service, .send 1 2 0]
    ∃ link, Link.create ⟨⟨Mailbox.ofReplies host ⟨.zero, host.ip⟩, {}⟩, {}⟩ geometry config =
        .ok link ∧
      (Returns (Arp.handleFrame config.interface ⟨host.ip, host.mac⟩ reply link.ring)
        fun handled => handled.1 = .learned .zero ∧
          handled.2.1.resolves handled.2.1.ip = false) ∧
      Returns (Told.performAll actions link) fun told =>
        told.1.map (fun moment => (moment.event.pointsAt, moment.cache)) =
          [(some .unspecified, {}), (some host.ip, .target host.ip), (none, .target host.ip),
            (none, ⟨host.ip, host.mac⟩), (none, .target host.ip), (none, .target host.ip)] ∧
        told.1.flatMap Moment.offers = [⟨none, false⟩] := by
  intro geometry config host reply actions
  let link : Told geometry Mailbox Simulation.Consumer :=
    { config, ring := {
        device := ⟨⟨Mailbox.ofReplies host ⟨.zero, host.ip⟩, {}⟩, {}⟩
        geometry, softwareFrameCheck := false } }
  have learned : (Arp.handleFrame config.interface ⟨host.ip, host.mac⟩ reply
      link.ring).toOption.map (fun handled =>
        (handled.1, handled.2.1.resolves handled.2.1.ip)) =
      some (.learned .zero, false) := by decide +kernel
  have seen : (Told.performAll actions link).toOption.map (fun told =>
      (told.1.map (fun moment => (moment.event.pointsAt, moment.cache)),
        told.1.flatMap Moment.offers)) =
      some ([(some .unspecified, {}), (some host.ip, .target host.ip), (none, .target host.ip),
        (none, ⟨host.ip, host.mac⟩), (none, .target host.ip), (none, .target host.ip)],
        [⟨none, false⟩]) := by decide +kernel
  refine ⟨link, rfl, ?_, ?_⟩
  · exact (Returns.of_seen learned).mono fun handled same => Prod.mk.inj same
  · exact (Returns.of_seen seen).mono fun told same => Prod.mk.inj same

/-- A second reply that names another hardware address leaves the peer known. -/
theorem second_reply_keeps_peer :
    let geometry : Mac.SlotGeometry := ⟨1532, 2, 1, by decide, by decide, by decide⟩
    let config : LinkConfig := { resolveBudget := ⟨1, 1⟩ }
    let host : Arp.Station := ⟨Simulation.Wire.hostMac, Simulation.Wire.hostIp⟩
    let moved : Arp.Station := ⟨⟨2, 0, 0, 0, 0, 9⟩, host.ip⟩
    let actions : List (Action (Tapped geometry Mailbox) (Udp.Noted Simulation.Consumer)) :=
      [.start, .resolve host.ip, .service, .send 1 2 0]
    ∃ link, Link.create ⟨⟨Mailbox.ofReplies host moved, {}⟩, {}⟩ geometry config = .ok link ∧
      Returns (Told.performAll actions link) fun told =>
        ∃ earlier moment later, told.1 = earlier ++ moment :: later ∧
          knownAfter earlier = ⟨host.ip, host.mac⟩ ∧ moment.cache = ⟨host.ip, moved.mac⟩ ∧
          ¬(moment.event.Leaves host.ip ∨ moment.event.Effaces config.interface host.ip) := by
  intro geometry config host moved actions
  have steady := Mailbox.steady geometry (by decide)
  have whole : (Mac.memory (Mailbox.ofReplies host moved)).length = geometry.length := by
    decide +kernel
  have leave : ∀ action ∈ actions, action.LeavesTap := by simp [actions, Action.LeavesTap]
  let link : Told geometry Mailbox Simulation.Consumer :=
    { config, ring := {
        device := ⟨⟨Mailbox.ofReplies host moved, {}⟩, {}⟩
        geometry, softwareFrameCheck := false } }
  have created : Link.create ⟨⟨Mailbox.ofReplies host moved, {}⟩, {}⟩ geometry config =
    .ok link := rfl
  have seen : (Told.performAll actions link).toOption.map (fun told =>
      (knownAfter (told.1.take 4), told.1[4]?.map Moment.cache)) =
      some (⟨host.ip, host.mac⟩, some ⟨host.ip, moved.mac⟩) := by decide +kernel
  obtain ⟨told, performed, same⟩ := Returns.of_seen seen
  rw [Prod.mk.injEq, Option.map_eq_some_iff] at same
  obtain ⟨known, moment, fifth, cache⟩ := same
  obtain ⟨inside, rfl⟩ := List.getElem?_eq_some_iff.mp fifth
  have apart : told.1 = told.1.take 4 ++ told.1[4] :: told.1.drop 5 := by simp
  have lost := ((peer_lost_iff_left_or_effaced config geometry (Mailbox.ofReplies host moved) whole
    link created actions leave).2.2 told.1 told.2 performed).2 _ _ _ apart
  rw [known, cache] at lost
  refine ⟨link, created, told, performed, _, _, _, apart, known, cache, ?_⟩
  intro left
  have unknown := (lost rfl).mpr left
  cases unknown

end Link

end InstrumentLink
