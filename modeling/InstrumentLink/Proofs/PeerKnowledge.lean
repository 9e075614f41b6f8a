import InstrumentLink.Proofs.PeerHistory
import Mathlib.Data.List.DropRight

/-!
What a link knows of its peer.

What there is to know can be read off the events of a run: the address that the link was last
pointed at, and the hardware address in the last answer from there since. An operation of the link
changes what is known as its event says and in no other way, and what it sends goes to the peer or
to nobody.
-/

set_option autoImplicit false

namespace InstrumentLink

namespace Arp

def replySender (frame : Bytes) : Option Station :=
  if frame.length < Ethernet.minimumLength then none
  else do
    let body ← (Ethernet.payload frame).toOption
    (check body).toOption
    if (← (operationCode body).toOption) = Operation.reply.code then
      return ⟨← (senderMac body).toOption, ← (senderIp body).toOption⟩
    else none

/-- The hardware address that a frame tells of an address, if it is an ARP reply from there. -/
def answer (ip : Ipv4Address) (frame : Bytes) : Option MacAddress := do
  let sender ← replySender frame
  if sender.ip = ip then return sender.mac else none

theorem reply_sender_read {frame body : Bytes} {code : UInt16} {mac : MacAddress}
    {ip : Ipv4Address} (long : ¬frame.length < Ethernet.minimumLength)
    (framed : Ethernet.payload frame = .ok body) (accepted : check body = .ok ())
    (codeRead : operationCode body = .ok code) (macRead : senderMac body = .ok mac)
    (ipRead : senderIp body = .ok ip) :
    replySender frame = if code = Operation.reply.code then some ⟨mac, ip⟩ else none := by
  simp [replySender, long, framed, accepted, codeRead, macRead, ipRead, Except.toOption]

theorem reply_sender_incomplete {frame : Bytes} (incomplete : ¬Complete frame) :
    replySender frame = none := by
  unfold replySender
  split
  · rfl
  · next whole =>
      have long : 60 ≤ frame.length := Nat.le_of_not_lt whole
      cases checked : check (frame.drop 14) with
      | ok accepted => exact (incomplete ⟨long, checked⟩).elim
      | error cause => simp [body_stands long, checked, Except.toOption]

theorem reply_sender_complete {frame : Bytes} (complete : Complete frame) :
    replySender frame = if Bytes.pairAt frame 20 = Operation.reply.code then
      some ⟨MacAddress.standing frame 22, Ipv4Address.standing frame 28⟩ else none :=
  have long := complete.long
  reply_sender_read (Nat.not_lt.mpr long) (body_stands long) complete.accepted
    (operation_code_stands long) (sender_mac_stands long) (sender_ip_stands long)

/-- A complete ARP reply of a station, with whatever stands behind it. -/
def ReplyFrom (sender : Station) (frame : Bytes) : Prop :=
  Ethernet.minimumLength ≤ frame.length ∧ ∃ receiver source target rest,
    frame = Ethernet.header receiver source Ethernet.typeArp ++ (body .reply sender target ++ rest)

theorem reply_sender_iff {frame : Bytes} {sender : Station} :
    Ethernet.classify frame = .arp ∧ replySender frame = some sender ↔ ReplyFrom sender frame := by
  constructor
  · rintro ⟨arp, told⟩
    unfold replySender at told
    split at told
    · cases told
    · next long =>
        have complete : Ethernet.minimumLength ≤ frame.length := Nat.le_of_not_lt long
        have header : Ethernet.headerLength ≤ frame.length := Nat.le_trans (by decide) complete
        obtain ⟨receiver, source, content, same, framed⟩ := Ethernet.header_of_class header arp
        rw [framed] at told
        simp only [Option.bind_eq_bind, Option.bind_eq_some_iff] at told
        obtain ⟨_, ⟨⟩, _, accepted, code, codeRead, told⟩ := told
        split at told
        · next reply =>
            simp only [Option.bind_eq_some_iff] at told
            obtain ⟨mac, macRead, ip, ipRead, ⟨⟩⟩ := told
            rw [reply] at codeRead
            obtain ⟨target, rest, rfl⟩ := body_of_reads (ok_of_to_option accepted)
              (ok_of_to_option codeRead) (ok_of_to_option macRead) (ok_of_to_option ipRead)
            exact ⟨complete, receiver, source, target, rest, same⟩
        · cases told
  · rintro ⟨long, receiver, source, target, rest, rfl⟩
    refine ⟨by simp [Ethernet.classify], ?_⟩
    rw [reply_sender_read (by omega) (Ethernet.payload_header _ _ _ _) (check_body _ _ _ _)
      (operation_code_body _ _ _ _) (sender_mac_body _ _ _ _) (sender_ip_body _ _ _ _), if_pos rfl]

end Arp

namespace Udp

def addresseeOf (frame : Bytes) : Option Arp.Station :=
  if Ethernet.classify frame = .ipv4 then do
    let packet ← (Ethernet.payload frame).toOption
    if (Ipv4.protocol packet).toOption = some .udp then
      return ⟨← (Ethernet.destination frame).toOption, ← (Ipv4.destination packet).toOption⟩
    else none
  else none

def addressee (interface : Interface) (octets : Bytes) : Option Arp.Station := do
  addresseeOf (← (← (Link.unframe interface octets).toOption).toOption)

theorem addressee_on_wire (interface : Interface) (frame : Bytes) :
    addressee interface (interface.onWire frame) =
      addresseeOf (Bytes.padTo Ethernet.minimumLength frame) := by
  unfold addressee
  rw [interface.unframe_on_wire]
  rfl

theorem addressee_of_header (receiver : Arp.Station) (mac : MacAddress) (ip : Ipv4Address)
    (carried : Ipv4.Protocol) (length : UInt16) (rest : Bytes) :
    addresseeOf (Ethernet.header receiver.mac mac Ethernet.typeIpv4 ++
        (Ipv4.header ip receiver.ip carried length ++ rest)) =
      if Ipv4.Protocol.ofCode carried.code = .udp then some receiver else none := by
  have other : Ethernet.typeIpv4 ≠ Ethernet.typeArp := by decide
  simp [addresseeOf, Ethernet.classify, other, Except.toOption]

end Udp

theorem Interface.Built.addressee {interface : Interface} {cache : Arp.PeerCache} {octets : Bytes}
    (built : interface.Built cache octets) :
    ∀ station ∈ Udp.addressee interface octets,
      cache.isResolved = true ∧ station = cache.station := by
  intro station member
  cases built with
  | arp operation destination target =>
      rw [Udp.addressee_on_wire, Udp.addresseeOf, Arp.classify_frame] at member
      cases member
  | icmp reply fits =>
      have other : Ipv4.Protocol.ofCode Ipv4.Protocol.icmp.code ≠ .udp := by decide
      rw [Udp.addressee_on_wire, Icmp.Reply.frame, Icmp.replyFrame, Bytes.padTo, List.append_assoc,
        List.append_assoc, Udp.addressee_of_header ⟨_, _⟩, if_neg other] at member
      cases member
  | udp resolved sourcePort destinationPort payload room =>
      rw [Udp.addressee_on_wire, Bytes.padTo, Udp.frame_append, Udp.addressee_of_header] at member
      exact ⟨resolved, (Option.some.inj member).symm⟩

namespace Link

/-- The hardware address that a slot tells of an address: the frame in it is an ARP reply from
there. -/
def answer (interface : Interface) (ip : Ipv4Address) (slot : Bytes) : Option MacAddress := do
  let frame ← (← (unframe interface slot).toOption).toOption
  if Ethernet.classify frame = .arp then Arp.answer ip frame else none

theorem answer_iff {interface : Interface} {ip : Ipv4Address} {slot : Bytes} {mac : MacAddress} :
    answer interface ip slot = some mac ↔
      ∃ frame, unframe interface slot = .ok (.ok frame) ∧ Arp.ReplyFrom ⟨mac, ip⟩ frame := by
  constructor
  · intro told
    unfold answer at told
    simp only [Option.bind_eq_bind, Option.bind_eq_some_iff] at told
    obtain ⟨unframed, framing, frame, framed, told⟩ := told
    rw [ok_of_to_option framed] at framing
    split at told
    · next arp =>
        simp only [Arp.answer, Option.bind_eq_bind, Option.bind_eq_some_iff] at told
        obtain ⟨sender, read, told⟩ := told
        split at told
        · next same =>
            cases told
            cases same
            exact ⟨frame, ok_of_to_option framing, Arp.reply_sender_iff.mp ⟨arp, read⟩⟩
        · cases told
    · cases told
  · rintro ⟨frame, unframed, reply⟩
    obtain ⟨arp, read⟩ := Arp.reply_sender_iff.mpr reply
    simp [answer, unframed, arp, Arp.answer, read, Except.toOption]

theorem answer_of_silent {interface : Interface} {slot : Bytes}
    (silent : ∀ frame, unframe interface slot = .ok (.ok frame) → Ethernet.classify frame ≠ .arp)
    (ip : Ipv4Address) : answer interface ip slot = none := by
  rw [Option.eq_none_iff_forall_ne_some]
  intro mac told
  obtain ⟨frame, unframed, reply⟩ := answer_iff.mp told
  exact silent frame unframed (Arp.reply_sender_iff.mpr reply).1

/-- The address that an event points the link at; a start points it at none. -/
def Event.pointsAt : Event → Option Ipv4Address
  | .started => some .unspecified
  | .aimed ip => some ip
  | .received _ | .other => none

def Event.answer (interface : Interface) (ip : Ipv4Address) : Event → Option MacAddress
  | .received slot => Link.answer interface ip slot
  | .started | .aimed _ | .other => none

def target (events : List Event) : Ipv4Address :=
  (events.filterMap Event.pointsAt).getLast?.getD .unspecified

/-- The hardware addresses that were told of an address since the link was last pointed at one. -/
def answers (interface : Interface) (ip : Ipv4Address) (events : List Event) : List MacAddress :=
  (events.rtakeWhile fun event => event.pointsAt.isNone).filterMap (Event.answer interface ip)

/-- What there is to know of the peer after some events: the address that the link was last pointed
at, and what was last told of it since. -/
def provenance (interface : Interface) (events : List Event) : Arp.PeerCache where
  ip := target events
  mac := (answers interface (target events) events).getLast?.getD .zero

def remember (interface : Interface) (cache : Arp.PeerCache) (event : Event) : Arp.PeerCache :=
  match event.pointsAt with
  | some ip => .target ip
  | none => { cache with mac := (event.answer interface cache.ip).getD cache.mac }

section Histories

variable (interface : Interface) (ip : Ipv4Address) (events : List Event) {event : Event}

theorem answers_forgotten (points : event.pointsAt.isNone = false) :
    answers interface ip (events ++ [event]) = [] := by
  rw [answers, List.rtakeWhile_concat_neg _ _ _ (by simp [points])]
  rfl

theorem answers_concat (points : event.pointsAt = none) :
    answers interface ip (events ++ [event]) =
      answers interface ip events ++ (event.answer interface ip).toList := by
  rw [answers, List.rtakeWhile_concat_pos _ _ _ (by simp [points]), List.filterMap_append]
  cases tells : event.answer interface ip <;> simp [answers, tells]

theorem provenance_concat (event : Event) :
    provenance interface (events ++ [event]) =
      remember interface (provenance interface events) event := by
  unfold remember
  cases points : event.pointsAt with
  | some ip =>
      have aimed : target (events ++ [event]) = ip := by simp [target, points]
      rw [provenance, aimed, answers_forgotten _ _ _ (by simp [points])]
      rfl
  | none =>
      have aimed : target (events ++ [event]) = target events := by simp [target, points]
      rw [provenance, aimed, answers_concat _ _ _ points]
      cases tells : event.answer interface (target events) <;> simp [provenance, tells]

end Histories

variable {interface : Interface} {ip : Ipv4Address} {events : List Event} {mac : MacAddress}

theorem last_answer (last : (answers interface ip events).getLast? = some mac) :
    ∃ before slot since, events = before ++ .received slot :: since ∧
      answer interface ip slot = some mac ∧
      ∀ event ∈ since, event.pointsAt = none ∧ event.answer interface ip = none := by
  induction events using List.reverseRecOn with
  | nil => cases last
  | append_singleton events event induction =>
      cases points : event.pointsAt with
      | some aim =>
          rw [answers_forgotten _ _ _ (by simp [points])] at last
          cases last
      | none =>
          rw [answers_concat _ _ _ points] at last
          cases tells : event.answer interface ip with
          | none =>
              rw [tells, Option.toList_none, List.append_nil] at last
              obtain ⟨before, slot, since, rfl, told, quiet⟩ := induction last
              refine ⟨before, slot, since ++ [event], by simp, told, ?_⟩
              exact List.forall_mem_append.mpr
                ⟨quiet, List.forall_mem_singleton.mpr ⟨points, tells⟩⟩
          | some found =>
              cases event with
              | received slot =>
                  rw [tells, Option.toList_some, List.getLast?_concat] at last
                  cases last
                  exact ⟨events, slot, [], rfl, tells, List.forall_mem_nil _⟩
              | started | aimed | other => cases tells

/-- A known hardware address is the one in the last reply from the peer's address since the link was
pointed there. -/
theorem provenance_resolved (resolved : (provenance interface events).isResolved = true) :
    ∃ before slot frame since, events = before ++ .received slot :: since ∧
      unframe interface slot = .ok (.ok frame) ∧
      Arp.ReplyFrom (provenance interface events).station frame ∧
      ∀ event ∈ since, event.pointsAt = none ∧
        event.answer interface (provenance interface events).ip = none := by
  have zero : MacAddress.zero.isZero = true := rfl
  have last : (answers interface (target events) events).getLast? =
      some (provenance interface events).mac := by
    cases last : (answers interface (target events) events).getLast? with
    | none => simp [provenance, last, Arp.PeerCache.isResolved, zero] at resolved
    | some mac => simp [provenance, last]
  obtain ⟨before, slot, since, same, told, quiet⟩ := last_answer last
  obtain ⟨frame, unframed, reply⟩ := answer_iff.mp told
  exact ⟨before, slot, frame, since, same, unframed, reply, quiet⟩

end Link

namespace Arp

theorem handle_frame_remembers {Port : Type} [TransmitPort Port] (interface : Interface)
    (cache : PeerCache) (frame : Bytes) (port : Port) :
    Yields (handleFrame interface cache frame port) fun handled =>
      handled.2.1 = { cache with mac := (answer cache.ip frame).getD cache.mac } := by
  have silent (nothing : answer cache.ip frame = none) :
      cache = { cache with mac := (answer cache.ip frame).getD cache.mac } := by rw [nothing]; rfl
  apply handle_frame_cases .yields
  case malformed =>
    intro log incomplete
    exact silent (by simp [answer, reply_sender_incomplete incomplete])
  case ignored =>
    intro complete untold _
    rw [not_and] at untold
    refine silent ?_
    rw [answer, reply_sender_complete complete]
    split
    · next reply => exact if_neg (untold reply)
    · rfl
  case learned =>
    intro log complete reply peer
    rw [answer, reply_sender_complete complete, if_pos reply]
    simp [peer]
  case answered =>
    intro complete request _
    have other : Bytes.pairAt frame 20 ≠ Operation.reply.code := request ▸ by decide
    refine (Yields.intro _).mono fun _ _ => silent ?_
    rw [answer, reply_sender_complete complete, if_neg other]
    rfl

end Arp

namespace Link

variable {Hardware Consumer : Type} [Mac.Device Hardware] [Udp.Handler Consumer]

/-- What is received changes the peer as it should. -/
theorem dispatch_remembers (slot : Bytes) (link : Link Hardware Consumer) :
    Yields (link.dispatch slot) fun dispatched =>
      dispatched.2.1.cache = remember link.interface link.cache (.received slot) := by
  have told : remember link.interface link.cache (.received slot) =
      ⟨link.cache.ip, (answer link.interface link.cache.ip slot).getD link.cache.mac⟩ := rfl
  rw [told]
  apply dispatch_cases .yields
  case dropped =>
    intro frameClass log other
    rw [answer_of_silent fun frame unframed => (other frame unframed).1]
    rfl
  case arp =>
    intro frame unframed arp
    have same : answer link.interface link.cache.ip slot = Arp.answer link.cache.ip frame := by
      simp [answer, unframed, arp, Except.toOption]
    rw [same]
    exact Arp.handle_frame_remembers link.interface link.cache frame link.ring
  case ipv4 =>
    intro frame unframed ipv4
    have silent : answer link.interface link.cache.ip slot = none := by
      simp [answer, unframed, ipv4, Except.toOption]
    rw [silent]
    exact (Yields.intro _).mono fun _ _ => rfl

theorem service_remembers (link : Link Hardware Consumer) :
    Yields link.service fun serviced =>
      serviced.2.1.cache = remember link.interface link.cache link.serviceEvent := by
  apply service_cases
  · intro ring log _ event
    rw [event]
    rfl
  · intro received ring log slot _ event
    rw [event]
    exact (dispatch_remembers slot _).mono fun dispatched remembers released _ => remembers

end Link

namespace Udp

def Offer.ToPeer (cache : Arp.PeerCache) (offer : Offer) : Prop :=
  offer.sent = true → cache.isResolved = true ∧ ∀ ip ∈ offer.recipient, cache.ip = ip

def OffersMore (cache : Arp.PeerCache) (offers after : List Offer) : Prop :=
  ∃ more, after = offers ++ more ∧ ∀ offer ∈ more, offer.ToPeer cache

namespace OffersMore

variable {cache : Arp.PeerCache} {offers after : List Offer}

theorem refl (cache : Arp.PeerCache) (offers : List Offer) : OffersMore cache offers offers :=
  ⟨[], (List.append_nil _).symm, by simp⟩

theorem of_concat {offer : Offer} (first : offer.ToPeer cache)
    (later : OffersMore cache (offers ++ [offer]) after) : OffersMore cache offers after := by
  obtain ⟨more, rfl, each⟩ := later
  exact ⟨offer :: more, (List.append_cons _ _ _).symm, List.forall_mem_cons.mpr ⟨first, each⟩⟩

end OffersMore

variable {Port : Type} [TransmitPort Port] (binding : Binding)

theorem Binding.send_reaches_peer (sourcePort destinationPort : UInt16) (length : Nat)
    (port : Port) :
    Yields (binding.send sourcePort destinationPort length port) fun answer =>
      Offer.ToPeer binding.cache ⟨none, answer.1⟩ :=
  (binding.send_resolved sourcePort destinationPort length port).mono
    fun answer known sent => ⟨known sent, by simp⟩

theorem Binding.send_to_reaches_peer (ip : Ipv4Address) (sourcePort destinationPort : UInt16)
    (length : Nat) (port : Port) :
    Yields (binding.sendTo ip sourcePort destinationPort length port) fun answer =>
      Offer.ToPeer binding.cache ⟨some ip, answer.1⟩ := by
  apply (binding.send_to_resolved ip sourcePort destinationPort length port).mono
  intro answer known sent
  have resolves := known sent
  simp only [Arp.PeerCache.resolves, decide_eq_true_eq] at resolves
  exact ⟨resolves.2, by simpa using resolves.1⟩

theorem Reaction.noting_reaches_peer {Result : Type} (reaction : Reaction Result)
    (offers : List Offer) (port : Port) :
    Yields ((reaction.noting offers).run binding port) fun answer =>
      OffersMore binding.cache offers answer.1.2 := by
  induction reaction generalizing offers port with
  | done result => exact .refl _ _
  | fail fault => trivial
  | report event next induction =>
      exact (induction offers port).bind fun answer more => more
  | look next induction =>
      exact (Yields.intro _).bind fun area _ => induction area offers port
  | store offset patch next induction =>
      exact (Yields.intro _).bind fun stored _ => induction offers stored
  | send sourcePort destinationPort length next induction =>
      apply (binding.send_reaches_peer sourcePort destinationPort length port).bind
      rintro ⟨sent, between, log⟩ first
      exact (induction sent _ between).bind fun answer later => later.of_concat first
  | sendTo ip sourcePort destinationPort length next induction =>
      apply (binding.send_to_reaches_peer ip sourcePort destinationPort length port).bind
      rintro ⟨sent, between, log⟩ first
      exact (induction sent _ between).bind fun answer later => later.of_concat first

end Udp

namespace Ipv4

variable {Port Consumer : Type} [TransmitPort Port] [Udp.Handler Consumer] (binding : Udp.Binding)
  (registration : Option (Udp.Registration (Udp.Noted Consumer)))

theorem handle_frame_offers (frame : Bytes) (port : Port) :
    Yields (handleFrame binding registration frame port) fun handled =>
      Udp.OffersMore binding.cache (Udp.offersOf registration) (Udp.offersOf handled.2.1) := by
  apply handle_frame_cases .yields
  case other => exact fun _ _ _ => .refl _ _
  case ignored => exact fun _ _ _ _ => .refl _ _
  case echoed => exact fun _ => (Yields.intro _).mono fun _ _ => .refl _ _
  case delivered =>
    rintro registered rfl reaches
    exact Udp.Noted.reacts (Udp.Reaction.noting_reaches_peer binding _ _ port)

end Ipv4

namespace Link

variable {Hardware Consumer : Type} [Mac.Device Hardware] [Udp.Handler Consumer]

theorem dispatch_offers (slot : Bytes) (link : Link Hardware (Udp.Noted Consumer)) :
    Yields (link.dispatch slot) fun dispatched =>
      Udp.OffersMore dispatched.2.1.cache (Udp.offersOf link.registration)
        (Udp.offersOf dispatched.2.1.registration) := by
  apply dispatch_cases .yields
  case dropped => exact fun _ _ _ => .refl _ _
  case arp => exact fun _ _ _ => (Yields.intro _).mono fun _ _ => .refl _ _
  case ipv4 =>
    exact fun frame _ _ =>
      Ipv4.handle_frame_offers link.binding link.registration frame link.ring

theorem service_offers (link : Link Hardware (Udp.Noted Consumer)) :
    Yields link.service fun serviced =>
      Udp.OffersMore serviced.2.1.cache (Udp.offersOf link.registration)
        (Udp.offersOf serviced.2.1.registration) := by
  apply service_cases
  · intro ring log _ _
    exact .refl _ _
  · intro received ring log slot _ _
    exact (dispatch_offers slot _).mono fun dispatched more released _ => more

section Operations

variable (link : Link Hardware (Udp.Noted Consumer)) (sourcePort destinationPort : UInt16)
  (length : Nat)

theorem start_forgets : Yields link.start fun started => started.1.cache = {} := by
  unfold start
  exact (Yields.intro _).bind fun ring _ => rfl

omit [Udp.Handler Consumer]

theorem ask_remembers (ip : Ipv4Address) :
    Yields (link.ask ip) fun asked => asked.1.cache = link.cache := by
  unfold ask
  exact (Yields.intro _).bind fun asked _ => rfl

theorem store_payload_remembers (offset : Nat) (patch : Bytes) :
    Yields (link.storePayload offset patch) fun stored => stored.cache = link.cache := by
  unfold storePayload
  exact (Yields.intro _).bind fun ring _ => rfl

theorem send_remembers :
    Yields (link.send sourcePort destinationPort length) fun answer =>
      answer.2.1.cache = link.cache ∧ Udp.Offer.ToPeer link.cache ⟨none, answer.1⟩ := by
  unfold send
  apply (link.binding.send_reaches_peer sourcePort destinationPort length link.ring).bind
  intro answer toPeer
  exact ⟨rfl, toPeer⟩

theorem send_to_remembers (ip : Ipv4Address) :
    Yields (link.sendTo ip sourcePort destinationPort length) fun answer =>
      answer.2.1.cache = link.cache ∧ Udp.Offer.ToPeer link.cache ⟨some ip, answer.1⟩ := by
  unfold sendTo
  apply (link.binding.send_to_reaches_peer ip sourcePort destinationPort length link.ring).bind
  intro answer toPeer
  exact ⟨rfl, toPeer⟩

end Operations

end Link

end InstrumentLink
