import InstrumentLink.Proofs.LosslessReception
import InstrumentLink.Proofs.PeerSearch
import InstrumentLink.Proofs.ProvokedAnswers

/-!
Two links that serve each other's frames.

The frames on their way are a load: each is to be served, and one that is answered brings another
one, which is not. So every call of `service` makes the load less, and whatever is on its way, two
links whose consumers never send fall silent.
-/

set_option autoImplicit false

namespace InstrumentLink

namespace Link

def isAnswered (near far : Interface) (octets : Bytes) : Bool :=
  (answerTo near octets).isSome || (answerTo far octets).isSome

/-- How often two links may be served for frames on their way: once for each, and once more for the
answer to each that is answered. -/
def load (near far : Interface) (flight : List Bytes) : Nat :=
  flight.length + flight.countP (isAnswered near far)

theorem load_le (near far : Interface) (flight : List Bytes) :
    load near far flight ≤ 2 * flight.length := by
  have some := List.countP_le_length (p := isAnswered near far) (l := flight)
  unfold load
  omega

theorem load_after_service {near far server : Interface} {flight : List Bytes} {octets : Bytes}
    (either : server = near ∨ server = far) (framing : near.softwareFraming = far.softwareFraming)
    (member : octets ∈ flight) :
    load near far (flight.erase octets ++ (answerTo server octets).toList) + 1 ≤
      load near far flight := by
  have fewer := List.length_erase_of_mem member
  have some := List.length_pos_of_mem member
  have left := List.countP_erase (isAnswered near far) flight octets
  unfold load
  cases answered : answerTo server octets with
  | none =>
      rw [Option.toList, List.append_nil]
      split at left <;> omega
  | some answer =>
      have same : server.softwareFraming = near.softwareFraming ∧
          server.softwareFraming = far.softwareFraming := by
        rcases either with rfl | rfl
        · exact ⟨rfl, framing⟩
        · exact ⟨framing.symm, rfl⟩
      have before : isAnswered near far octets = true := by
        rcases either with rfl | rfl <;> simp [isAnswered, answered]
      have after : isAnswered near far answer = false := by
        simp [isAnswered, answer_unanswered near same.1 answered,
          answer_unanswered far same.2 answered]
      have one : 1 ≤ flight.countP (isAnswered near far) :=
        List.countP_pos_iff.mpr ⟨octets, member, before⟩
      rw [if_pos ⟨member, before⟩] at left
      simp only [Option.toList, List.length_append, List.countP_append, List.countP_singleton,
        List.length_singleton, after, Bool.false_eq_true, if_false]
      omega

namespace Told

open Mac (SteadyDevice Tapped)

section OneLink

variable {Hardware Consumer : Type} [Mac.Device Hardware] [Udp.Handler Consumer]
  {geometry : Mac.SlotGeometry}

/-- The consumers that fulfil `Safe` do not stop a link of a configuration, and never send. -/
structure SilentConsumer (config : LinkConfig) (geometry : Mac.SlotGeometry)
    (Safe : Consumer → Prop) : Prop where
  safe : SafeConsumer config geometry Safe
  mute : Udp.MuteConsumers Safe

inductive Reached (config : LinkConfig) (Safe : Consumer → Prop) :
    Told geometry Hardware Consumer → Prop where
  | created {device : Hardware} {link : Told geometry Hardware Consumer}
      (whole : (Mac.memory device).length = geometry.length)
      (created : Link.create ⟨⟨device, {}⟩, {}⟩ geometry config = .ok link) :
      Reached config Safe link
  | performed {link after : Told geometry Hardware Consumer} (reached : Reached config Safe link)
      (actions : List (Action (Tapped geometry Hardware) (Udp.Noted Consumer)))
      (leave : ∀ action ∈ actions, action.LeavesTap)
      (allowed : ∀ action ∈ actions, action.Allowed config fun noted => Safe noted.consumer)
      (run : Action.performAll actions link = .ok after) : Reached config Safe after
  | unregistered {link : Told geometry Hardware Consumer} (reached : Reached config Safe link) :
      Reached config Safe link.unregister.2
  /-- The consumer that is registered is changed from outside. -/
  | changed {link : Told geometry Hardware Consumer} (reached : Reached config Safe link)
      (change : Consumer → Consumer)
      (keeps : ∀ consumer, Safe consumer → Safe (change consumer)) :
      Reached config Safe
        (link.mapConsumer fun noted => { noted with consumer := change noted.consumer })

/-- The device of a link comes to report some octets, and the link services them. -/
def Hears (link : Told geometry Hardware Consumer) (octets : Bytes)
    (after : Told geometry Hardware Consumer) : Prop :=
  ∃ (change : Tapped geometry Hardware → Tapped geometry Hardware)
    (reporting : Told geometry Hardware Consumer) (frameClass : Option Ethernet.FrameClass)
    (log : Log),
    (Action.device change : Action _ (Udp.Noted Consumer)).LeavesTap ∧
      Action.perform link (.device change) = .ok reporting ∧
      reporting.serviceEvent = .received octets ∧
      Link.service reporting = .ok (frameClass, after, log)

structure Ready (config : LinkConfig) (Safe : Consumer → Prop)
    (link : Told geometry Hardware Consumer) : Prop where
  counted : CountedLink config link
  sound : Sound config geometry (fun noted => Safe noted.consumer) link

variable [SteadyDevice geometry Hardware] {config : LinkConfig} {Safe : Consumer → Prop}
  {link after : Told geometry Hardware Consumer}

theorem Reached.ready (consumers : SilentConsumer config geometry Safe)
    (reached : Reached config Safe link) : Ready config Safe link := by
  induction reached with
  | @created device link whole created =>
      have large : (Mac.memory (⟨device, {}⟩ : Tapped geometry Hardware)).length =
          geometry.length := whole
      exact ⟨(counted_of_create whole created).1, sound_of_create config geometry _ large created⟩
  | performed reached actions leave allowed run ready =>
      have returns := Action.perform_all_returns (Udp.Noted.safe_handler consumers.safe)
        ready.sound actions allowed
      exact ⟨counted_of_performed ready.counted leave run, returns.yields.of_ok run⟩
  | unregistered reached ready =>
      refine ⟨⟨ready.counted.configured, ready.counted.ring⟩,
        ready.sound.configured, ready.sound.ring, ?_⟩
      intro registered none
      cases none
  | changed reached change keeps ready =>
      refine ⟨⟨ready.counted.configured, ready.counted.ring⟩,
        ready.sound.configured, ready.sound.ring, ?_⟩
      intro registered member
      obtain ⟨before, present, same⟩ := Option.map_eq_some_iff.mp member
      rw [← same]
      exact keeps _ (ready.sound.registered before present)

theorem Ready.service_returns (consumers : SilentConsumer config geometry Safe)
    (ready : Ready config Safe link) :
    Returns (Link.service link) fun serviced => Ready config Safe serviced.2.1 ∧
      frames serviced.2.1 =
        frames link ++ (link.serviceEvent.provokes config.interface).toList := by
  have returns := ready.sound.service_returns (Udp.Noted.safe_handler consumers.safe)
  apply (returns.and (service_answers Tapped.transmitter consumers.mute Tapped.quiet ready.counted
    ready.sound.registered)).mono
  exact fun serviced ⟨sound, puts⟩ => ⟨⟨puts.counted, sound⟩, puts.sent⟩

omit [SteadyDevice geometry Hardware] in
theorem Ready.device_returns (ready : Ready config Safe link)
    {change : Tapped geometry Hardware → Tapped geometry Hardware}
    (leaves : (Action.device change : Action _ (Udp.Noted Consumer)).LeavesTap) :
    Returns (Action.perform link (.device change)) fun reporting =>
      Ready config Safe reporting ∧ frames reporting = frames link := by
  obtain ⟨tap, length⟩ := leaves link.ring.device.device
  have sent := congrArg Mac.Tap.frames tap
  have up := ready.counted.ring.up
  exact Returns.ok ⟨{
    counted := ⟨ready.counted.configured, ready.counted.ring.keeps
      ⟨up.divided, up.framing, up.slot, length.trans up.good⟩ sent rfl⟩
    sound := ⟨ready.sound.configured, ready.sound.ring.access length rfl,
      ready.sound.registered⟩ }, sent⟩

theorem Ready.hears (consumers : SilentConsumer config geometry Safe)
    (ready : Ready config Safe link) {octets : Bytes} (hears : Hears link octets after) :
    Ready config Safe after ∧
      frames after = frames link ++ (answerTo config.interface octets).toList := by
  obtain ⟨change, reporting, frameClass, log, leaves, changed, event, serviced⟩ := hears
  obtain ⟨ready, same⟩ := (ready.device_returns leaves).yields.of_ok changed
  obtain ⟨ready, sent⟩ := (ready.service_returns consumers).yields.of_ok serviced
  rw [event, same] at sent
  exact ⟨ready, sent⟩

end OneLink

section TwoLinks

variable {NearHardware NearConsumer FarHardware FarConsumer : Type} [Mac.Device NearHardware]
  [Mac.Device FarHardware] [Udp.Handler NearConsumer] [Udp.Handler FarConsumer]
  {nearGeometry farGeometry : Mac.SlotGeometry}

/-- Two links do nothing but serve frames on their way, so often, and put on their way what they
send for them. -/
inductive Exchange : Told nearGeometry NearHardware NearConsumer →
    Told farGeometry FarHardware FarConsumer → List Bytes → Nat → Prop where
  | idle (near : Told nearGeometry NearHardware NearConsumer)
      (far : Told farGeometry FarHardware FarConsumer) (flight : List Bytes) :
      Exchange near far flight 0
  | near {near after : Told nearGeometry NearHardware NearConsumer}
      {far : Told farGeometry FarHardware FarConsumer} {flight : List Bytes} {octets : Bytes}
      {services : Nat} (member : octets ∈ flight) (hears : Hears near octets after)
      (rest : Exchange after far
        (flight.erase octets ++ (frames after).drop (frames near).length) services) :
      Exchange near far flight (services + 1)
  | far {near : Told nearGeometry NearHardware NearConsumer}
      {far after : Told farGeometry FarHardware FarConsumer} {flight : List Bytes}
      {octets : Bytes} {services : Nat} (member : octets ∈ flight)
      (hears : Hears far octets after)
      (rest : Exchange near after
        (flight.erase octets ++ (frames after).drop (frames far).length) services) :
      Exchange near far flight (services + 1)

variable [SteadyDevice nearGeometry NearHardware] [SteadyDevice farGeometry FarHardware]
  {nearConfig farConfig : LinkConfig} {NearSafe : NearConsumer → Prop}
  {FarSafe : FarConsumer → Prop} {near : Told nearGeometry NearHardware NearConsumer}
  {far : Told farGeometry FarHardware FarConsumer}

/-- Every service makes the load less. -/
theorem Exchange.services_le
    (framing : nearConfig.interface.softwareFraming = farConfig.interface.softwareFraming)
    (nearConsumers : SilentConsumer nearConfig nearGeometry NearSafe)
    (farConsumers : SilentConsumer farConfig farGeometry FarSafe) {flight : List Bytes}
    {services : Nat} (exchange : Exchange near far flight services)
    (nearReady : Ready nearConfig NearSafe near) (farReady : Ready farConfig FarSafe far) :
    services ≤ load nearConfig.interface farConfig.interface flight := by
  induction exchange with
  | idle => exact Nat.zero_le _
  | near member hears rest induction =>
      obtain ⟨ready, sent⟩ := nearReady.hears nearConsumers hears
      rw [sent, List.drop_left] at induction
      exact Nat.le_trans (Nat.succ_le_succ (induction ready farReady))
        (load_after_service (.inl rfl) framing member)
  | far member hears rest induction =>
      obtain ⟨ready, sent⟩ := farReady.hears farConsumers hears
      rw [sent, List.drop_left] at induction
      exact Nat.le_trans (Nat.succ_le_succ (induction nearReady ready))
        (load_after_service (.inr rfl) framing member)

end TwoLinks

end Told

open Mac (SteadyDevice Tapped)

variable {NearHardware NearConsumer FarHardware FarConsumer : Type} [Mac.Device NearHardware]
  [Mac.Device FarHardware] [Udp.Handler NearConsumer] [Udp.Handler FarConsumer]

/-- For every two links that frame alike, whatever their addresses are, wherever runs have brought
them, with consumers that never send: when it is served, a link sends just the answer to the frame
that it is handed, if that calls for one, and the other link serves the answer without sending
anything. So what they send for each other's frames comes to an end: frames on their way are served
at most twice as often as there are of them. -/
theorem answers_provoke_no_answers (nearConfig farConfig : LinkConfig)
    (framing : nearConfig.hardwareFraming = farConfig.hardwareFraming)
    (nearGeometry farGeometry : Mac.SlotGeometry) [SteadyDevice nearGeometry NearHardware]
    [SteadyDevice farGeometry FarHardware] {NearSafe : NearConsumer → Prop}
    {FarSafe : FarConsumer → Prop}
    (nearConsumers : Told.SilentConsumer nearConfig nearGeometry NearSafe)
    (farConsumers : Told.SilentConsumer farConfig farGeometry FarSafe)
    (near : Told nearGeometry NearHardware NearConsumer)
    (nearReached : Told.Reached nearConfig NearSafe near)
    (far : Told farGeometry FarHardware FarConsumer)
    (farReached : Told.Reached farConfig FarSafe far) :
    (Returns (Link.service near) fun serviced =>
      let sent := (near.serviceEvent.provokes nearConfig.interface).toList
      Told.frames serviced.2.1 = Told.frames near ++ sent ∧ sent.length ≤ 1 ∧
      ∀ octets ∈ sent, far.serviceEvent = .received octets →
        Returns (Link.service far) fun heard => Told.frames heard.2.1 = Told.frames far) ∧
    ∀ flight services, Told.Exchange near far flight services →
      services ≤ 2 * flight.length := by
  have alike : nearConfig.interface.softwareFraming = farConfig.interface.softwareFraming := by
    rw [LinkConfig.software_framing_eq, LinkConfig.software_framing_eq, framing]
  have nearReady := nearReached.ready nearConsumers
  have farReady := farReached.ready farConsumers
  constructor
  · apply (nearReady.service_returns nearConsumers).mono
    intro serviced answered
    refine ⟨answered.2, ?_, ?_⟩
    · cases near.serviceEvent.provokes nearConfig.interface <;> simp
    · intro octets member heard
      have provoked := Option.mem_toList.mp member
      apply (farReady.service_returns farConsumers).mono
      intro serviced answered
      have silent : far.serviceEvent.provokes farConfig.interface = none := by
        rw [heard]
        exact near.serviceEvent.answer_unanswered farConfig.interface alike provoked
      rw [answered.2, silent]
      exact List.append_nil _
  · intro flight services exchange
    exact Nat.le_trans (exchange.services_le alike nearConsumers farConsumers nearReady farReady)
      (load_le _ _ _)

theorem discard_silent (config : LinkConfig) (geometry : Mac.SlotGeometry) :
    Told.SilentConsumer config geometry fun consumer => consumer = Simulation.Consumer.discard where
  safe := {
    reset := by rintro _ rfl; rfl
    on_datagram := by
      rintro datagram _ rfl -
      exact Returns.ok rfl }
  mute := by
    rintro _ rfl datagram
    trivial

/-- A link answers a question that pretends to come from its own addresses. Another link with the
same addresses hears the answer, and that was all. -/
theorem answer_to_oneself_unanswered :
    let geometry : Mac.SlotGeometry := ⟨1532, 1, 1, by decide, by decide, by decide⟩
    let config : LinkConfig := { hardwareFraming := false }
    let itself : Arp.Station := ⟨config.mac, config.ip⟩
    let question := Ethernet.withFraming (Simulation.Wire.arpRequest itself config.ip)
    let answer := config.interface.onWire (Arp.replyFrame config.interface itself)
    let mail (frame : Bytes) : Mailbox := ⟨Bytes.padTo 3064 frame, [1, 0, 72]⟩
    let first (frame : Bytes) : Told geometry Mailbox Simulation.Consumer :=
      { config, ring := {
          device := ⟨⟨mail frame, {}⟩, {}⟩, geometry, softwareFrameCheck := true } }
    let actions : List (Action (Tapped geometry Mailbox) (Udp.Noted Simulation.Consumer)) :=
      [.register 7642 { consumer := .discard }, .start]
    Returns (Action.performAll actions (first question)) fun near =>
      Returns (Action.performAll actions (first answer)) fun far =>
        Returns (Link.service near) fun serviced => Told.frames serviced.2.1 = [answer] ∧
          Returns (Link.service far) fun heard => Told.frames heard.2.1 = [] ∧
            Told.Exchange near far [question] 2 := by
  intro geometry config itself question answer mail first actions
  have steady := Mailbox.steady geometry (by decide)
  have consumers := discard_silent config geometry
  have nearSeen : (Action.performAll actions (first question)).toOption.map (fun link =>
      (Told.frames link, link.serviceEvent, (Link.service link).toOption.map fun serviced =>
        Told.frames serviced.2.1)) = some ([], .received question, some [answer]) := by
    decide +kernel
  have farSeen : (Action.performAll actions (first answer)).toOption.map (fun link =>
      (Told.frames link, link.serviceEvent)) = some ([], .received answer) := by decide +kernel
  have reached (frame : Bytes) (whole : (Mac.memory (mail frame)).length = geometry.length)
      (link : Told geometry Mailbox Simulation.Consumer)
      (run : Action.performAll actions (first frame) = .ok link) :
      Told.Reached config (fun consumer => consumer = Simulation.Consumer.discard) link :=
    .performed (.created whole rfl) actions (by simp [actions, Action.LeavesTap])
      (by simp [actions, Action.Allowed]) run
  obtain ⟨near, nearRun, nearSame⟩ := Returns.of_seen nearSeen
  obtain ⟨far, farRun, farSame⟩ := Returns.of_seen farSeen
  simp only [Prod.mk.injEq] at nearSame farSame
  obtain ⟨nearSilent, nearEvent, answered⟩ := nearSame
  obtain ⟨farSilent, farEvent⟩ := farSame
  have provoked := answers_provoke_no_answers config config rfl geometry geometry consumers
    consumers near (reached question (by decide +kernel) near nearRun) far
    (reached answer (by decide +kernel) far farRun)
  obtain ⟨serviced, served, appended, -, unanswered⟩ := provoked.1
  rw [served] at answered
  have onWire : Told.frames serviced.2.1 = [answer] := Option.some.inj answered
  rw [nearSilent, onWire, List.nil_append] at appended
  obtain ⟨heard, hearing, same⟩ :=
    unanswered answer (appended ▸ List.mem_singleton_self answer) farEvent
  refine ⟨near, nearRun, far, farRun, serviced, served, onWire, heard, hearing,
    same.trans farSilent, ?_⟩
  have stays : ∀ tapped : Tapped geometry Mailbox, (id tapped).tap = tapped.tap ∧
      (Mac.memory (id tapped)).length = (Mac.memory tapped).length := fun _ => ⟨rfl, rfl⟩
  apply Told.Exchange.near (List.mem_singleton_self question)
    ⟨id, near, serviced.1, serviced.2.2, stays, rfl, nearEvent, served⟩
  rw [nearSilent, onWire]
  apply Told.Exchange.far (List.mem_append_right _ (List.mem_singleton_self answer))
    ⟨id, far, heard.1, heard.2.2, stays, rfl, farEvent, hearing⟩
  exact .idle _ _ _

end Link

end InstrumentLink
