import InstrumentLink.Proofs.SimulatedMedium
import InstrumentLink.Simulation.Wire

/-!
Two links on one wire understand each other.

A joined device is a MAC with another link at the far end of its wire. Whatever it transmits is
received and serviced by the far link before it is polled again, and what the far link transmits
arrives at it. Resolving the far address takes one question and one answer, and from then on a
datagram of any length that fits reaches the far consumer as it was handed in.
-/

set_option autoImplicit false

namespace InstrumentLink

open Mac (Conveys Medium TransmitSide Transmitter)

def Link.receive {Hardware Consumer : Type} [Mac.Device Hardware] [Medium Hardware] (frame : Bytes)
    (link : Link Hardware Consumer) : Link Hardware Consumer :=
  { link with ring.device := Medium.deliver frame link.ring.device }

structure FarEnd (Hardware Consumer : Type) where
  link : Link Hardware Consumer
  /-- How many frames of the near end have arrived here. -/
  taken : Nat
  /-- How many frames from here have arrived at the near end. -/
  given : Nat
  handled : List Ethernet.FrameClass := []

/-- A MAC with a link at the far end of its wire. -/
structure Joined (Near Far Consumer : Type) where
  mac : Near
  far : FarEnd Far Consumer

variable {Near Far NearConsumer FarConsumer : Type} [Mac.Device Near] [Medium Near]
  [Mac.Device Far] [Medium Far]

section Joining

variable [Udp.Handler FarConsumer]

def FarEnd.take (far : FarEnd Far FarConsumer) (frame : Bytes) :
    Except Fault (FarEnd Far FarConsumer) := do
  let (frameClass, link, _) ← (far.link.receive frame).service
  return { far with link, handled := far.handled ++ frameClass.toList }

namespace Joined

def join (mac : Near) (link : Link Far FarConsumer) : Joined Near Far FarConsumer where
  mac
  far := {
    link
    taken := (Medium.sent mac).length
    given := (Medium.sent link.ring.device).length }

/-- Carries what was transmitted at each end to the other. -/
def exchange (joined : Joined Near Far FarConsumer) :
    Except Fault (Joined Near Far FarConsumer) := do
  let sent := Medium.sent joined.mac
  let far ← (sent.drop joined.far.taken).foldlM FarEnd.take joined.far
  let answers := Medium.sent far.link.ring.device
  return {
    mac := (answers.drop far.given).foldl (fun mac frame => Medium.deliver frame mac) joined.mac
    far := { far with taken := sent.length, given := answers.length } }

/-- Polling for a frame is what makes the exchange happen. -/
def prepare (register : Mac.Register) (joined : Joined Near Far FarConsumer) :
    Except Fault (Joined Near Far FarConsumer) :=
  if register = .writerEvent then joined.exchange else .ok joined

instance : Mac.Device (Joined Near Far FarConsumer) where
  readRegister register joined := do
    let joined ← joined.prepare register
    let (value, mac) ← Mac.readRegister register joined.mac
    return (value, { joined with mac })
  writeRegister register value joined := do
    return { joined with mac := ← Mac.writeRegister register value joined.mac }
  memory joined := Mac.memory joined.mac
  setMemory octets joined := { joined with mac := Mac.setMemory octets joined.mac }
  patience joined := Mac.patience joined.mac

variable {geometry : Mac.SlotGeometry} {Good Idle Holding : Near → Prop}
  {side : Near → TransmitSide} {joined : Joined Near Far FarConsumer}
  {far : FarEnd Far FarConsumer}

def near (side : Near → TransmitSide) (joined : Joined Near Far FarConsumer) : TransmitSide :=
  side joined.mac

def With (Good : Near → Prop) (far : FarEnd Far FarConsumer)
    (joined : Joined Near Far FarConsumer) : Prop :=
  Good joined.mac ∧ joined.far = far

theorem read_ok {register : Mac.Register} {after : Joined Near Far FarConsumer}
    (prepared : joined.prepare register = .ok after) {value : UInt32} {mac : Near}
    (read : Mac.readRegister register after.mac = .ok (value, mac)) :
    Mac.readRegister register joined = .ok (value, { after with mac }) := by
  change (joined.prepare register >>= _) = _
  rw [prepared]
  change (Mac.readRegister register after.mac >>= _) = _
  rw [read]
  rfl

theorem read_other (mac : Near) (far : FarEnd Far FarConsumer) {register : Mac.Register}
    (other : register ≠ .writerEvent) {value : UInt32} {after : Near}
    (read : Mac.readRegister register mac = .ok (value, after)) :
    Mac.readRegister register (⟨mac, far⟩ : Joined Near Far FarConsumer) =
      .ok (value, ⟨after, far⟩) :=
  read_ok (if_neg other) read

theorem write_returns {Kept holds : Near → Prop} (good : With Good far joined)
    {register : Mac.Register} {value : UInt32}
    (returns : Returns (Mac.writeRegister register value joined.mac) fun after =>
      Kept after ∧ holds after) :
    Returns (Mac.writeRegister register value joined) fun after =>
      With Kept far after ∧ holds after.mac :=
  returns.bind fun _ kept => Returns.ok ⟨⟨kept.1, good.2⟩, kept.2⟩

theorem transmitter (transmitter : Transmitter geometry Good side) :
    Transmitter geometry (With Good far) (near side) where
  named := transmitter.named
  large := fun joined good => transmitter.large joined.mac good.1
  slots := fun joined good => transmitter.slots joined.mac good.1
  ready := fun joined good => by
    obtain ⟨⟨value, mac⟩, read, kept, same, less⟩ := transmitter.ready joined.mac good.1
    exact ⟨_, read_other _ _ (by decide) read, ⟨kept, good.2⟩, same, less⟩
  choose := fun joined value good =>
    write_returns good (transmitter.choose joined.mac value good.1)
  measure := fun joined value good =>
    write_returns good (transmitter.measure joined.mac value good.1)
  start := fun joined good slot length =>
    write_returns good (transmitter.start joined.mac good.1 slot length)
  set_memory := fun joined octets good length front =>
    have stored := transmitter.set_memory joined.mac octets good.1 length front
    ⟨⟨stored.1, good.2⟩, stored.2⟩

theorem clears (clears : Mac.Clears Good side) :
    Mac.Clears (With Good far) (near side) :=
  fun register joined event good => write_returns good (clears register joined.mac event good.1)

theorem releases (releases : Mac.Releases Holding Idle side) :
    Mac.Releases (With Holding far) (With Idle far) (near side) :=
  fun joined good => write_returns good (releases joined.mac good.1)

end Joined

namespace Link

variable {geometry : Mac.SlotGeometry} {Idle Holding : Far → Prop} {side : Far → TransmitSide}
  {link : Link Far FarConsumer}

omit [Udp.Handler FarConsumer] in
theorem Up.receives (conveys : Conveys geometry Idle Holding side) (up : Up geometry Idle link)
    {frame : Bytes} (short : frame.length ≤ Ethernet.maximumLength) :
    Up geometry (Mac.Reports geometry Holding side frame) (link.receive frame) :=
  ⟨up.divided, up.framing, up.slot, conveys.reports frame _ up.good short⟩

omit [Udp.Handler FarConsumer] in
theorem outline_receive (conveys : Conveys geometry Idle Holding side) (frame : Bytes) :
    (link.receive frame).outline side = link.outline side := by
  have same := conveys.delivered frame link.ring.device
  rw [← conveys.sent, ← conveys.sent] at same
  exact congrArg (Outline.mk _ _ _) same

theorem receive_handles (conveys : Conveys geometry Idle Holding side) (up : Up geometry Idle link)
    {frame : Bytes} (short : frame.length ≤ Ethernet.maximumLength)
    (good : Ethernet.FrameClass → Outline FarConsumer → Prop)
    (dispatches : ∀ polled : Link Far FarConsumer, Up geometry Holding polled →
      polled.outline side = link.outline side → Returns (polled.dispatch frame) fun answer =>
        Up geometry Holding answer.2.1 ∧ good answer.1 (answer.2.1.outline side)) :
    Returns (link.receive frame).service fun answer => Up geometry Idle answer.2.1 ∧
      ∃ frameClass, answer.1 = some frameClass ∧ good frameClass (answer.2.1.outline side) := by
  apply service_handles conveys.holding conveys.releases (up.receives conveys short) short good
  intro polled held same
  exact dispatches polled held (same.trans (outline_receive conveys frame))

end Link

theorem Arp.short_frame {interface : Interface} (placed : interface.Placed) (operation : Operation)
    (destination : MacAddress) (target : Station) :
    (interface.onWire (frame interface operation destination target)).length ≤
      Ethernet.maximumLength :=
  (Interface.WellFormed.of_sent placed (frame_fits placed _ _ _)
    (Interface.sent_by_arp operation destination target)).short

theorem Link.receive_datagram {Consumer : Type} [Udp.Handler Consumer]
    {geometry : Mac.SlotGeometry} {Idle Holding : Far → Prop} {side : Far → TransmitSide}
    {link : Link Far (Udp.Watched Consumer)} (conveys : Conveys geometry Idle Holding side)
    (up : Up geometry Idle link) {port : UInt16} {watched : Udp.Watched Consumer}
    (registered : link.registration = some ⟨port, watched⟩) {sender : Interface}
    (placed : sender.Placed)
    (framing : sender.softwareFraming = link.config.interface.softwareFraming)
    {receiver : Arp.Station} (addressed : receiver.ip = link.config.ip) (sourcePort : UInt16)
    {payload : Bytes} (room : payload.length ≤ Udp.payloadRoom sender)
    (copes : Udp.Copes (Udp.payloadRoom link.config.interface) watched.consumer
      ⟨sender.ip, sourcePort, port, payload⟩) :
    Returns (link.receive (sender.onWire
        (Udp.frame sender receiver sourcePort port payload))).service fun answer =>
      answer.1 = some .ipv4 ∧ ∃ after, answer.2.1.registration = some ⟨port, after⟩ ∧
        after.datagrams = watched.datagrams ++ [⟨sender.ip, sourcePort, port, payload⟩] := by
  have fits := Udp.fits_of_room placed room
  have bound := sender.frame_end_le
  have handled := receive_handles conveys up
    (Udp.frame_well_formed placed receiver sourcePort port room).short
    (fun frameClass outline => frameClass = .ipv4 ∧ ∃ after,
      outline.registration = some ⟨port, after⟩ ∧
        after.datagrams = watched.datagrams ++ [⟨sender.ip, sourcePort, port, payload⟩])
    fun polled held same => by
      have configured : polled.config = link.config := congrArg Outline.config same
      have registered : polled.registration = some ⟨port, watched⟩ :=
        (congrArg Outline.registration same).trans registered
      rw [← configured] at copes addressed
      exact dispatch_datagram conveys.holding held registered sender
        (by rw [framing, interface, configured]) receiver addressed sourcePort payload (by omega)
        copes
  apply handled.mono
  rintro answer ⟨-, frameClass, same, rfl, holds⟩
  exact ⟨same, holds⟩

/-- The far end handled a question, and is otherwise as it was. -/
structure FarEnd.Answered (geometry : Mac.SlotGeometry) (Idle : Far → Prop)
    (before after : FarEnd Far FarConsumer) : Prop where
  up : Link.Up geometry Idle after.link
  config : after.link.config = before.link.config
  registration : after.link.registration = before.link.registration
  handled : after.handled = before.handled ++ [.arp]

theorem FarEnd.take_request {geometry : Mac.SlotGeometry} {Idle Holding : Far → Prop}
    {side : Far → TransmitSide} (conveys : Conveys geometry Idle Holding side)
    {far : FarEnd Far FarConsumer} (up : Link.Up geometry Idle far.link) {asker : Interface}
    (placed : asker.Placed)
    (framing : asker.softwareFraming = far.link.config.interface.softwareFraming) :
    Returns (far.take (asker.onWire (Arp.requestFrame asker far.link.config.ip))) fun after =>
      Link.Up geometry Idle after.link ∧
      after.link.outline side = { far.link.outline side with
        sent := (far.link.outline side).sent ++ [far.link.config.interface.onWire
          (Arp.replyFrame far.link.config.interface asker.station)] } ∧
      after.given = far.given ∧ after.handled = far.handled ++ [.arp] := by
  have handled := Link.receive_handles conveys up
    (Arp.short_frame placed .request .broadcast ⟨.zero, far.link.config.ip⟩)
    (fun frameClass outline => frameClass = .arp ∧ outline = { far.link.outline side with
      sent := (far.link.outline side).sent ++ [far.link.config.interface.onWire
        (Arp.replyFrame far.link.config.interface asker.station)] })
    fun polled held same => by
      have configured : polled.config = far.link.config := congrArg Link.Outline.config same
      have framing : asker.softwareFraming = polled.interface.softwareFraming := by
        rw [framing, Link.interface, configured]
      rw [← configured, ← same]
      exact Link.dispatch_request conveys.holding held asker framing
  unfold take
  apply handled.bind
  rintro ⟨frameClass, link, log⟩ ⟨up, frameClass, rfl, rfl, same⟩
  exact Returns.ok ⟨up, same, rfl, rfl⟩

section Near

variable {nearGeometry farGeometry : Mac.SlotGeometry} {NearIdle NearHolding : Near → Prop}
  {FarIdle FarHolding : Far → Prop} {nearSide : Near → TransmitSide} {farSide : Far → TransmitSide}
  (nearConveys : Conveys nearGeometry NearIdle NearHolding nearSide)
  (farConveys : Conveys farGeometry FarIdle FarHolding farSide)

include farConveys in
theorem Joined.exchange_request {joined : Joined Near Far FarConsumer}
    (up : Link.Up farGeometry FarIdle joined.far.link) {asker : Interface} (placed : asker.Placed)
    (framing : asker.softwareFraming = joined.far.link.config.interface.softwareFraming)
    {before : List Bytes}
    (asked : Medium.sent joined.mac =
      before ++ [asker.onWire (Arp.requestFrame asker joined.far.link.config.ip)])
    (taken : joined.far.taken = before.length)
    (given : joined.far.given = (Medium.sent joined.far.link.ring.device).length) :
    Returns joined.exchange fun after =>
      after.mac = Medium.deliver (joined.far.link.config.interface.onWire
        (Arp.replyFrame joined.far.link.config.interface asker.station)) joined.mac ∧
      FarEnd.Answered farGeometry FarIdle joined.far after.far := by
  unfold exchange
  dsimp only
  -- All earlier frames have been carried, so the question is all that the far end is given.
  rw [asked, taken, List.drop_left, List.foldlM_cons, bind_assoc]
  apply (FarEnd.take_request farConveys up placed framing).bind
  rintro far ⟨up, same, stays, handled⟩
  have sent := congrArg Link.Outline.sent same
  simp only [Link.outline, farConveys.sent] at sent
  rw [List.foldlM_nil, pure_bind, sent, stays, given, List.drop_left]
  exact Returns.ok ⟨rfl, up, congrArg Link.Outline.config same,
    congrArg Link.Outline.registration same, handled⟩

include nearConveys farConveys in
theorem Joined.reports_reply {joined : Joined Near Far FarConsumer} (idle : NearIdle joined.mac)
    (up : Link.Up farGeometry FarIdle joined.far.link) {asker : Interface} (placed : asker.Placed)
    (framing : asker.softwareFraming = joined.far.link.config.interface.softwareFraming)
    {before : List Bytes}
    (asked : Medium.sent joined.mac =
      before ++ [asker.onWire (Arp.requestFrame asker joined.far.link.config.ip)])
    (taken : joined.far.taken = before.length)
    (given : joined.far.given = (Medium.sent joined.far.link.ring.device).length) :
    ∃ far : FarEnd Far FarConsumer,
      Mac.Reports nearGeometry (With NearHolding far) (near nearSide)
        (joined.far.link.config.interface.onWire
          (Arp.replyFrame joined.far.link.config.interface asker.station)) joined ∧
      FarEnd.Answered farGeometry FarIdle joined.far far := by
  obtain ⟨after, exchanged, mac, answered⟩ :=
    exchange_request farConveys up placed framing asked taken given
  refine ⟨after.far, ?_, answered⟩
  have short := Arp.short_frame (Link.placed_interface joined.far.link.config) .reply asker.mac
    asker.station
  -- The MAC reports what the exchange delivered to it; the other two reads exchange nothing.
  obtain ⟨⟨event, polled⟩, reading, pending, ⟨slot, named⟩, naming, inside, ⟨length, measured⟩,
    measuring, octets, holding, same, held⟩ := nearConveys.reports
      (joined.far.link.config.interface.onWire
        (Arp.replyFrame joined.far.link.config.interface asker.station)) joined.mac idle short
  rw [← mac] at reading same
  have sent : (nearSide measured).sent = (nearSide joined.mac).sent := by
    rw [same, mac, nearConveys.sent, nearConveys.delivered, nearConveys.sent]
  have prepared : joined.prepare .writerEvent = .ok after := exchanged
  exact ⟨_, read_ok prepared reading, pending,
    _, read_other polled after.far (by decide) naming, inside,
    _, read_other named after.far (by decide) measuring, octets, ⟨holding, rfl⟩, sent, held⟩

variable [Udp.Handler NearConsumer]

include nearConveys farConveys in
theorem Link.service_learns {near : Link (Joined Near Far FarConsumer) NearConsumer}
    {far : FarEnd Far FarConsumer} (up : Up nearGeometry (Joined.With NearIdle far) near)
    (farUp : Up farGeometry FarIdle far.link)
    (framing : near.config.interface.softwareFraming = far.link.config.interface.softwareFraming)
    {before : List Bytes} (asked : (near.outline (Joined.near nearSide)).sent =
      before ++ [near.config.interface.onWire
        (Arp.requestFrame near.config.interface far.link.config.ip)])
    (taken : far.taken = before.length)
    (given : far.given = (Medium.sent far.link.ring.device).length)
    (target : near.cache.ip = far.link.config.ip) :
    Returns near.service fun answer => ∃ after : FarEnd Far FarConsumer,
      Up nearGeometry (Joined.With NearIdle after) answer.2.1 ∧
      FarEnd.Answered farGeometry FarIdle far after ∧
      answer.2.1.outline (Joined.near nearSide) = { near.outline (Joined.near nearSide) with
        cache := ⟨far.link.config.ip, far.link.config.mac⟩ } := by
  obtain ⟨idle, rfl⟩ := up.good
  have placed := placed_interface near.config
  have onWire : Medium.sent near.ring.device.mac = before ++ [near.config.interface.onWire
      (Arp.requestFrame near.config.interface near.ring.device.far.link.config.ip)] := by
    rw [← nearConveys.sent]
    exact asked
  obtain ⟨after, reports, answered⟩ := Joined.reports_reply nearConveys farConveys idle farUp placed
    framing onWire taken given
  have reporting : Up nearGeometry (Mac.Reports nearGeometry (Joined.With NearHolding after)
      (Joined.near nearSide) _) near := ⟨up.divided, up.framing, up.slot, reports⟩
  have handled := service_handles (Joined.transmitter nearConveys.holding)
    (Joined.releases nearConveys.releases) reporting
    (Arp.short_frame (placed_interface _) .reply near.config.interface.mac
      near.config.interface.station)
    (fun frameClass outline => outline = { near.outline (Joined.near nearSide) with
      cache := ⟨near.ring.device.far.link.config.ip, near.ring.device.far.link.config.mac⟩ })
    fun polled held same => by
      have configured : polled.config = near.config := congrArg Outline.config same
      have cached : polled.cache = near.cache := congrArg Outline.cache same
      apply (dispatch_reply held near.ring.device.far.link.config.interface
        near.config.interface.station (by rw [← framing, interface, configured])
        (by rw [cached, target]; rfl)).mono
      rintro answer ⟨up, -, learned⟩
      rw [same] at learned
      exact ⟨up, learned⟩
  apply handled.mono
  rintro answer ⟨up, frameClass, -, same⟩
  exact ⟨after, up, answered, same⟩

include nearConveys farConveys in
/-- One question and one answer resolve the address of the far end. -/
theorem Link.resolve_learns {near : Link (Joined Near Far FarConsumer) NearConsumer}
    {far : FarEnd Far FarConsumer} (up : Up nearGeometry (Joined.With NearIdle far) near)
    (farUp : Up farGeometry FarIdle far.link)
    (framing : near.config.interface.softwareFraming = far.link.config.interface.softwareFraming)
    (taken : far.taken = (near.outline (Joined.near nearSide)).sent.length)
    (given : far.given = (Medium.sent far.link.ring.device).length)
    (unresolved : near.cache.isResolved = false) (valid : near.config.validate = .ok ())
    (farValid : far.link.config.validate = .ok ()) :
    Returns (near.resolve far.link.config.ip) fun answer => answer.1 = true ∧
      ∃ after : FarEnd Far FarConsumer,
        Up nearGeometry (Joined.With NearIdle after) answer.2.1 ∧
        FarEnd.Answered farGeometry FarIdle far after ∧
        answer.2.1.outline (Joined.near nearSide) = { near.outline (Joined.near nearSide) with
          cache := ⟨far.link.config.ip, far.link.config.mac⟩
          sent := (near.outline (Joined.near nearSide)).sent ++ [near.config.interface.onWire
            (Arp.requestFrame near.config.interface far.link.config.ip)] } := by
  obtain ⟨-, attempts, polls⟩ := LinkConfig.of_validate valid
  obtain ⟨named, -, -⟩ := LinkConfig.of_validate farValid
  have unknown : ¬near.cache.resolves far.link.config.ip = true := by
    simp [Arp.PeerCache.resolves, unresolved]
  unfold resolve
  rw [if_neg unknown, ← Nat.succ_pred_eq_of_pos attempts]
  unfold Link.attempts
  have aimed : Up nearGeometry (Joined.With NearIdle far)
      { near with cache := .target far.link.config.ip } := up
  apply (ask_sends (Joined.transmitter nearConveys.idle) aimed far.link.config.ip).bind
  rintro ⟨asking, log⟩ ⟨askingUp, same⟩
  dsimp only at askingUp same ⊢
  have configured : asking.config = near.config := congrArg Outline.config same
  have sent := congrArg Outline.sent same
  have learns := service_learns nearConveys farConveys askingUp farUp (by rw [configured, framing])
    (by rw [configured]; exact sent) taken given (congrArg (fun outline => outline.cache.ip) same)
  rw [configured, ← Nat.succ_pred_eq_of_pos polls]
  -- The first poll of the first attempt brings the answer, so no other is made.
  unfold awaitPeer
  obtain ⟨⟨frameClass, learned, servicing⟩, service, after, up, answered, outline⟩ := learns
  rw [service]
  have cached : learned.cache = ⟨far.link.config.ip, far.link.config.mac⟩ :=
    congrArg Outline.cache outline
  have resolved : learned.cache.isResolved = true := by
    rw [cached, Arp.PeerCache.isResolved, named]
    rfl
  rw [same] at outline
  simp only [bind, Except.bind, resolved, if_true, pure, Except.pure]
  exact Returns.ok ⟨rfl, after, up, answered, outline⟩

include nearConveys farConveys in
theorem Link.started_resolves {nearMac : Near} {farMac : Far} (nearIdle : NearIdle nearMac)
    (farIdle : FarIdle farMac) {nearConfig farConfig : LinkConfig}
    (framing : nearConfig.hardwareFraming = farConfig.hardwareFraming)
    {farRegistration : Option (Udp.Registration FarConsumer)} {far : Link Far FarConsumer}
    (farStarted : Started farMac farGeometry farConfig farRegistration far)
    {nearRegistration : Option (Udp.Registration NearConsumer)}
    {near : Link (Joined Near Far FarConsumer) NearConsumer}
    (nearStarted : Started (Joined.join nearMac far) nearGeometry nearConfig nearRegistration
      near) :
    Returns (near.resolve farConfig.ip) fun answer => answer.1 = true ∧
      ∃ after : FarEnd Far FarConsumer,
        Up nearGeometry (Joined.With NearIdle after) answer.2.1 ∧
        Up farGeometry FarIdle after.link ∧ after.link.config = farConfig ∧
        after.link.registration = (farRegistration.map fun registered =>
          { registered with consumer := Udp.Handler.reset registered.consumer }) ∧
        after.handled = [.arp] ∧ answer.2.1.cache.isResolved = true ∧
        answer.2.1.config = nearConfig ∧ answer.2.1.cache = ⟨farConfig.ip, farConfig.mac⟩ ∧
        Medium.sent answer.2.1.ring.device.mac = Medium.sent nearMac ++
          [nearConfig.interface.onWire (Arp.requestFrame nearConfig.interface farConfig.ip)] := by
  obtain ⟨farUp, farValid, farOutline⟩ :=
    farStarted.up farConveys.idle farConveys.clears farIdle
  have joined : Joined.With NearIdle (Joined.join nearMac far).far (Joined.join nearMac far) :=
    ⟨nearIdle, rfl⟩
  obtain ⟨nearUp, nearValid, nearOutline⟩ :=
    nearStarted.up (Joined.transmitter nearConveys.idle) (Joined.clears nearConveys.clears) joined
  have nearConfigured : near.config = nearConfig := congrArg Outline.config nearOutline
  obtain rfl : far.config = farConfig := congrArg Outline.config farOutline
  have nearSent : (near.outline (Joined.near nearSide)).sent = Medium.sent nearMac := by
    rw [nearOutline, ← nearConveys.sent]
    rfl
  have unresolved : near.cache.isResolved = false := by
    rw [show near.cache = {} from congrArg Outline.cache nearOutline]
    rfl
  have sameFraming : near.config.interface.softwareFraming =
      far.config.interface.softwareFraming := by
    rw [nearConfigured, LinkConfig.software_framing_eq, LinkConfig.software_framing_eq, framing]
  apply (resolve_learns nearConveys farConveys nearUp farUp sameFraming
    (congrArg List.length nearSent.symm) rfl unresolved (by rw [nearConfigured]; exact nearValid)
    farValid).mono
  rintro ⟨resolved, known, log⟩ ⟨yes, after, up, answered, outline⟩
  have cached : known.cache = ⟨far.config.ip, far.config.mac⟩ := congrArg Outline.cache outline
  have answers : known.cache.isResolved = true := by
    obtain ⟨named, -, -⟩ := LinkConfig.of_validate farValid
    rw [cached, Arp.PeerCache.isResolved, named]
    rfl
  refine ⟨yes, after, up, answered.up, answered.config, ?_, answered.handled, answers, ?_, cached,
    ?_⟩
  · exact answered.registration.trans (congrArg Outline.registration farOutline)
  · exact (congrArg Outline.config outline).trans nearConfigured
  · rw [← nearConveys.sent, ← nearSent, ← nearConfigured]
    exact congrArg Outline.sent outline

include nearConveys farConveys in
omit [Udp.Handler NearConsumer] in
theorem Link.send_payload_delivers
    {near : Link (Joined Near Far (Udp.Watched FarConsumer)) NearConsumer}
    {far : FarEnd Far (Udp.Watched FarConsumer)}
    (up : Up nearGeometry (Joined.With NearIdle far) near) (farUp : Up farGeometry FarIdle far.link)
    (framing : near.config.interface.softwareFraming = far.link.config.interface.softwareFraming)
    (resolved : near.cache.isResolved = true) (addressed : near.cache.ip = far.link.config.ip)
    {port : UInt16} {watched : Udp.Watched FarConsumer}
    (registered : far.link.registration = some ⟨port, watched⟩) (sourcePort : UInt16)
    (payload : Bytes)
    (fits : payload.length ≤ Udp.payloadRoom near.interface) :
    Returns (near.sendPayload sourcePort port payload) fun (sent, sender, _) => sent = true ∧
      ∃ frame, Medium.sent sender.ring.device.mac = Medium.sent near.ring.device.mac ++ [frame] ∧
        (Udp.Copes (Udp.payloadRoom far.link.config.interface) watched.consumer
            ⟨near.config.ip, sourcePort, port, payload⟩ →
          Returns (sender.ring.device.far.link.receive frame).service
            fun (frameClass, receiver, _) => frameClass = some .ipv4 ∧
              ∃ after, receiver.registration = some ⟨port, after⟩ ∧ after.datagrams =
                watched.datagrams ++ [⟨near.config.ip, sourcePort, port, payload⟩]) := by
  apply (send_payload_sends (Joined.transmitter nearConveys.idle) up resolved sourcePort port
    payload fits).mono
  rintro ⟨sent, sender, log⟩ ⟨yes, senderUp, outline⟩
  have stays : sender.ring.device.far = far := senderUp.good.2
  refine ⟨yes, near.interface.onWire
    (Udp.frame near.interface near.cache.station sourcePort port payload), ?_, ?_⟩
  · rw [← nearConveys.sent, ← nearConveys.sent]
    exact congrArg Outline.sent outline
  · rw [stays]
    exact receive_datagram farConveys farUp registered (placed_interface near.config) framing
      addressed sourcePort fits

end Near

end Joining

/-- For every two accepted configurations with the same framing, on MACs with nothing pending: the
near link resolves the far address with one question, and then sends every payload that its payload
area holds in one frame. Unless the far consumer is stopped by it, the datagram reaches that
consumer once, from the near address, with the ports and octets that were handed in. -/
theorem joined_links_interoperate [Udp.Handler NearConsumer] [Udp.Handler FarConsumer]
    {nearGeometry farGeometry : Mac.SlotGeometry} {NearIdle NearHolding : Near → Prop}
    {FarIdle FarHolding : Far → Prop} {nearSide : Near → TransmitSide}
    {farSide : Far → TransmitSide}
    (nearConveys : Conveys nearGeometry NearIdle NearHolding nearSide)
    (farConveys : Conveys farGeometry FarIdle FarHolding farSide) {nearMac : Near} {farMac : Far}
    (nearIdle : NearIdle nearMac) (farIdle : FarIdle farMac) {nearConfig farConfig : LinkConfig}
    (framing : nearConfig.hardwareFraming = farConfig.hardwareFraming)
    (port : UInt16) (consumer : FarConsumer)
    (far : Link Far (Udp.Watched FarConsumer))
    (farStarted : Link.Started farMac farGeometry farConfig (some ⟨port, ⟨consumer, []⟩⟩) far)
    (registration : Option (Udp.Registration NearConsumer))
    (near : Link (Joined Near Far (Udp.Watched FarConsumer)) NearConsumer)
    (nearStarted : Link.Started (Joined.join nearMac far) nearGeometry nearConfig registration
      near) :
    Returns (near.resolve farConfig.ip) fun (resolved, known, _) =>
      resolved = true ∧ known.cache = ⟨farConfig.ip, farConfig.mac⟩ ∧
      known.ring.device.far.handled = [.arp] ∧
      Medium.sent known.ring.device.mac = Medium.sent nearMac ++
        [nearConfig.interface.onWire (Arp.requestFrame nearConfig.interface farConfig.ip)] ∧
      Returns known.payloadArea fun area =>
        area.length = Udp.payloadRoom nearConfig.interface ∧
        ∀ sourcePort payload, payload.length ≤ area.length →
          Returns (known.sendPayload sourcePort port payload) fun (sent, sender, _) =>
            sent = true ∧ ∃ frame,
              Medium.sent sender.ring.device.mac = Medium.sent known.ring.device.mac ++ [frame] ∧
              (Udp.Copes (Udp.payloadRoom farConfig.interface) (Udp.Handler.reset consumer)
                  ⟨nearConfig.ip, sourcePort, port, payload⟩ →
                Returns (sender.ring.device.far.link.receive frame).service
                  fun (frameClass, receiver, _) => frameClass = some .ipv4 ∧
                    ∃ watched, receiver.registration = some ⟨port, watched⟩ ∧
                      watched.datagrams = [⟨nearConfig.ip, sourcePort, port, payload⟩]) := by
  apply (Link.started_resolves nearConveys farConveys nearIdle farIdle framing farStarted
    nearStarted).mono
  rintro ⟨resolved, known, log⟩
    ⟨yes, after, up, farUp, farKept, registered, handled, answers, configured, cached, sent⟩
  dsimp only at configured cached
  have stays : known.ring.device.far = after := up.good.2
  have sameFraming : known.config.interface.softwareFraming =
      after.link.config.interface.softwareFraming := by
    rw [configured, farKept, LinkConfig.software_framing_eq, LinkConfig.software_framing_eq,
      framing]
  have transmitter : Transmitter nearGeometry (Joined.With NearIdle after) (Joined.near nearSide) :=
    Joined.transmitter nearConveys.idle
  have safePort := (SlotRing.faithful_port transmitter known.interface.softwareFraming).safe
  refine ⟨yes, cached, by rw [stays, handled], sent, ?_⟩
  apply (Udp.payload_area_returns safePort (Link.placed_interface known.config) known.ring up).mono
  intro area room
  refine ⟨by rw [room, configured], fun sourcePort payload fits => ?_⟩
  have delivers := Link.send_payload_delivers nearConveys farConveys up farUp sameFraming answers
    (by rw [cached, farKept]) registered sourcePort payload
    (Nat.le_trans fits (Nat.le_of_eq room))
  rw [configured, farKept] at delivers
  exact delivers

/-- Two simulated devices with the framing done in software; the beginning of a request for an
endpoint, of odd length and shorter than the shortest frame. -/
theorem request_reaches_endpoint :
    let geometry := Mac.SlotGeometry.standard
    let mac := Simulation.SimulatedMac.ofGeometry geometry
    let nearConfig : LinkConfig :=
      { mac := Simulation.Wire.hostMac, ip := Simulation.Wire.hostIp, hardwareFraming := false }
    let farConfig : LinkConfig := { hardwareFraming := false }
    let port := LinkConfig.etherbonePort
    let endpoint : Etherbone.Endpoint MappedBus := { bus := {} }
    let begun := (Etherbone.header .request {} 0x0f 0 1).take 9
    ∃ (far : Link Simulation.SimulatedMac (Udp.Watched (Etherbone.Endpoint MappedBus)))
      (near : Link (Joined Simulation.SimulatedMac Simulation.SimulatedMac
        (Udp.Watched (Etherbone.Endpoint MappedBus))) Simulation.Consumer),
      Link.Started mac geometry farConfig (some ⟨port, ⟨endpoint, []⟩⟩) far ∧
      Link.Started (Joined.join mac far) geometry nearConfig none near ∧
      Returns (near.resolve farConfig.ip) fun (resolved, known, _) => resolved = true ∧
        Returns (known.sendPayload 5000 port begun) fun (_, sender, _) => ∃ frame,
          Returns (sender.ring.device.far.link.receive frame).service fun (_, receiver, _) =>
            ∃ watched, receiver.registration = some ⟨port, watched⟩ ∧
              watched.datagrams = [⟨nearConfig.ip, 5000, port, begun⟩] := by
  intro geometry mac nearConfig farConfig port endpoint begun
  have conveys := Simulation.SimulatedMac.conveys geometry (by decide) (by decide)
  have calm : Simulation.SimulatedMac.Calm geometry 0 mac :=
    ⟨rfl, Bytes.length_zeros _, rfl, rfl, by decide, rfl⟩
  obtain ⟨far, farStarted⟩ : ∃ far : Link Simulation.SimulatedMac
      (Udp.Watched (Etherbone.Endpoint MappedBus)),
      Link.Started mac geometry farConfig (some ⟨port, ⟨endpoint, []⟩⟩) far := ⟨_, _, _, rfl, rfl⟩
  obtain ⟨near, nearStarted⟩ : ∃ near : Link (Joined Simulation.SimulatedMac
      Simulation.SimulatedMac (Udp.Watched (Etherbone.Endpoint MappedBus))) Simulation.Consumer,
      Link.Started (Joined.join mac far) geometry nearConfig none near := ⟨_, _, _, rfl, rfl⟩
  refine ⟨far, near, farStarted, nearStarted, ?_⟩
  have framing : nearConfig.hardwareFraming = farConfig.hardwareFraming := rfl
  have copes : Udp.Copes (Udp.payloadRoom farConfig.interface) (Udp.Handler.reset endpoint)
      ⟨nearConfig.ip, 5000, port, begun⟩ :=
    Etherbone.Endpoint.copes_of_harmless (by decide) (by decide +kernel)
  apply (joined_links_interoperate conveys conveys calm calm framing port endpoint far farStarted
    none near nearStarted).mono
  rintro ⟨resolved, known, log⟩ ⟨yes, -, -, -, area, -, room, delivers⟩
  have fits : begun.length ≤ area.length := by
    rw [room]
    decide
  refine ⟨yes, (delivers 5000 begun fits).mono ?_⟩
  rintro ⟨sent, sender, log⟩ ⟨-, frame, -, received⟩
  exact ⟨frame, (received copes).mono fun _ holds => holds.2⟩

end InstrumentLink
