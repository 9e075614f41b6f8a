import InstrumentLink.Proofs.LinkAccounts
import Mathlib.Data.List.Count

/-!
The accounts of a run.

The statistics of a link are nothing but what its history comes to: the frames that it serviced, by
what became of them, and the frames that it sent, by what they are.
-/

set_option autoImplicit false

namespace InstrumentLink

namespace Link

def Event.holdsIcmp (interface : Interface) : Event → Bool
  | .received slot => Link.holdsIcmp interface slot
  | .started | .aimed _ | .other => false

namespace Moment

def isReception (moment : Moment) : Bool :=
  match moment.event with
  | .received _ => true
  | .started | .aimed _ | .other => false

/-- Whether an ICMP message was serviced and nothing was sent for it. -/
def consumesIcmp (interface : Interface) (moment : Moment) : Bool :=
  moment.event.holdsIcmp interface && moment.frames.isEmpty

/-- What a serviced frame of an account looks like from outside. -/
structure Accounted (interface : Interface) (moment : Moment) (account : Account) : Prop where
  icmp : account.isIcmp = moment.event.holdsIcmp interface
  offers : account ≠ .udpDelivered → moment.offers = []
  frames : moment.frames.map (Sending.read interface) =
    (account.sendings moment.offers).map some

/-- How a moment changes the statistics: by a frame that goes to an account, or not at all. -/
inductive Books (interface : Interface) (moment : Moment) (stats : LinkStats) :
    LinkStats → Prop where
  | reception (account : Account) (received : moment.isReception = true)
      (accounted : moment.Accounted interface account) :
      Books interface moment stats (stats.receive account)
  /-- At most a question is sent, apart from what was asked for. -/
  | other (questions : List Sending) (idle : moment.isReception = false)
      (silent : moment.event.holdsIcmp interface = false)
      (asked : questions = [] ∨ questions = [.question])
      (frames : moment.frames.map (Sending.read interface) =
        (questions ++ Udp.datagrams moment.offers).map some) :
      Books interface moment stats stats

end Moment

def tally (interface : Interface) (sending : Sending) (frames : List Bytes) : Nat :=
  (frames.map (Sending.read interface)).count (some sending)

theorem tally_append (interface : Interface) (sending : Sending) (frames more : List Bytes) :
    tally interface sending (frames ++ more) =
      tally interface sending frames + tally interface sending more := by
  rw [tally, List.map_append, List.count_append]
  rfl

theorem tally_of_sendings {interface : Interface} {frames : List Bytes} {sendings : List Sending}
    (same : frames.map (Sending.read interface) = sendings.map some) (sending : Sending) :
    tally interface sending frames = sendings.count sending := by
  rw [tally, same, List.count_map_of_injective _ _ fun _ _ => Option.some.inj]

theorem length_eq_tallies {interface : Interface} {frames : List Bytes}
    (readable : ∀ octets ∈ frames, (Sending.read interface octets).isSome = true) :
    frames.length = tally interface .answer frames + tally interface .message frames +
      tally interface .question frames + tally interface .datagram frames := by
  induction frames with
  | nil => rfl
  | cons octets frames induction =>
      obtain ⟨first, later⟩ := List.forall_mem_cons.mp readable
      obtain ⟨sending, same⟩ := Option.isSome_iff_exists.mp first
      have rest := induction later
      simp only [tally, List.map_cons, List.count_cons, same, List.length_cons] at rest ⊢
      cases sending <;> simp <;> omega

/-- What some moments of a history come to, if frames went to some accounts in them. -/
structure Balance (interface : Interface) (accounts : List Account) (moments : List Moment) :
    Prop where
  received : moments.countP Moment.isReception = accounts.length
  consumed : moments.countP (Moment.consumesIcmp interface) = accounts.count .icmpConsumed
  answers : tally interface .answer (moments.flatMap Moment.frames) =
    accounts.count .arpAnswered
  messages : tally interface .message (moments.flatMap Moment.frames) =
    accounts.count .icmpEchoed
  datagrams : (moments.flatMap Moment.offers).countP Udp.Offer.sent =
    tally interface .datagram (moments.flatMap Moment.frames)
  readable : ∀ octets ∈ moments.flatMap Moment.frames,
    (Sending.read interface octets).isSome = true

namespace Balance

variable {interface : Interface} {before after : LinkStats} {accounts more : List Account}
  {moment : Moment} {earlier later : List Moment}

theorem nil (interface : Interface) : Balance interface [] [] :=
  ⟨rfl, rfl, rfl, rfl, rfl, List.forall_mem_nil _⟩

theorem append (first : Balance interface accounts earlier)
    (second : Balance interface more later) :
    Balance interface (accounts ++ more) (earlier ++ later) := by
  refine ⟨?_, ?_, ?_, ?_, ?_, ?_⟩
  · rw [List.countP_append, List.length_append, first.received, second.received]
  · rw [List.countP_append, List.count_append, first.consumed, second.consumed]
  · rw [List.flatMap_append, tally_append, List.count_append, first.answers, second.answers]
  · rw [List.flatMap_append, tally_append, List.count_append, first.messages, second.messages]
  · rw [List.flatMap_append, List.flatMap_append, List.countP_append, tally_append,
      first.datagrams, second.datagrams]
  · rw [List.flatMap_append]
    exact List.forall_mem_append.mpr ⟨first.readable, second.readable⟩

theorem readable_of_sendings {frames : List Bytes} {sendings : List Sending}
    (same : frames.map (Sending.read interface) = sendings.map some) :
    ∀ octets ∈ frames, (Sending.read interface octets).isSome = true := by
  intro octets member
  have read : Sending.read interface octets ∈ frames.map (Sending.read interface) :=
    List.mem_map_of_mem member
  rw [same] at read
  obtain ⟨sending, -, known⟩ := List.mem_map.mp read
  rw [← known]
  rfl

theorem of_account {account : Account} (received : moment.isReception = true)
    (accounted : moment.Accounted interface account) : Balance interface [account] [moment] := by
  obtain ⟨icmp, offers, frames⟩ := accounted
  have tallied := tally_of_sendings frames
  have empty : moment.frames.isEmpty = (account.sendings moment.offers).isEmpty := by
    have mapped := congrArg List.isEmpty frames
    rwa [List.isEmpty_map, List.isEmpty_map] at mapped
  refine ⟨?_, ?_, ?_, ?_, ?_, ?_⟩
  · simp [received]
  · simp only [List.countP_singleton, Moment.consumesIcmp, ← icmp, empty]
    cases account <;> simp [Account.isIcmp, Account.sendings]
  · simp only [List.flatMap_singleton, tallied]
    cases account <;> simp [Account.sendings]
  · simp only [List.flatMap_singleton, tallied]
    cases account <;> simp [Account.sendings]
  · simp only [List.flatMap_singleton, tallied]
    by_cases delivered : account = .udpDelivered
    · simp [delivered, Account.sendings]
    · rw [offers delivered]
      cases account <;> simp [Account.sendings]
  · simpa using readable_of_sendings frames

theorem of_no_account {questions : List Sending} (idle : moment.isReception = false)
    (silent : moment.event.holdsIcmp interface = false)
    (asked : questions = [] ∨ questions = [.question])
    (frames : moment.frames.map (Sending.read interface) =
      (questions ++ Udp.datagrams moment.offers).map some) : Balance interface [] [moment] := by
  have tallied := tally_of_sendings frames
  refine ⟨?_, ?_, ?_, ?_, ?_, ?_⟩
  · simp [idle]
  · simp [Moment.consumesIcmp, silent]
  · rcases asked with rfl | rfl <;> simp [tallied]
  · rcases asked with rfl | rfl <;> simp [tallied]
  · rcases asked with rfl | rfl <;> simp [tallied]
  · simpa using readable_of_sendings frames

end Balance

namespace Told

open Mac (SteadyDevice Tapped)

section Steps

variable {Hardware Consumer : Type} [Mac.Device Hardware] {geometry : Mac.SlotGeometry}
  {config : LinkConfig} {link after last : Told geometry Hardware Consumer}

abbrev CountedLink (config : LinkConfig) (link : Told geometry Hardware Consumer) : Prop :=
  Counted config geometry Tapped.Whole Tapped.side link

structure Enters (config : LinkConfig) (link : Told geometry Hardware Consumer) (moment : Moment)
    (after : Told geometry Hardware Consumer) : Prop where
  appended : frames after = frames link ++ moment.frames
  books : moment.Books config.interface link.stats after.stats

theorem counted_of_create {device : Hardware}
    (whole : (Mac.memory device).length = geometry.length)
    (created : Link.create ⟨⟨device, {}⟩, {}⟩ geometry config = .ok link) :
    CountedLink config link ∧ link.stats = {} ∧ frames link = [] := by
  have tidy := tidy_of_create whole created
  obtain ⟨-, rfl⟩ := of_create created
  exact ⟨⟨rfl, tidy.up, rfl⟩, rfl, rfl⟩

theorem moment_frames {sendings : List Sending}
    (sends : LinkSends config geometry Tapped.Whole Tapped.side link sendings after)
    (event : Event) (offers : List Udp.Offer) :
    frames after = frames link ++ (moment event offers link after).frames ∧
      (moment event offers link after).frames.map (Sending.read config.interface) =
        sendings.map some := by
  obtain ⟨-, sent, appended, same⟩ := sends
  change frames after = frames link ++ sent at appended
  have added : (moment event offers link after).frames = sent := by
    change (frames after).drop (frames link).length = sent
    rw [appended, List.drop_left]
  rw [added]
  exact ⟨appended, same⟩

theorem enters_of_sends {questions : List Sending} {offers : List Udp.Offer} {event : Event}
    (configured : after.config = config) (stats : after.stats = link.stats)
    (sends : LinkSends config geometry Tapped.Whole Tapped.side link
      (questions ++ Udp.datagrams offers) after)
    (asked : questions = [] ∨ questions = [.question]) (idle : ∀ slot, event ≠ .received slot) :
    CountedLink config after ∧ Enters config link (moment event offers link after) after := by
  obtain ⟨appended, read⟩ := moment_frames sends event offers
  refine ⟨⟨configured, sends.1⟩, appended, ?_⟩
  rw [stats]
  apply Moment.Books.other questions _ _ asked read
  · cases event with
    | received slot => exact (idle slot rfl).elim
    | started | aimed | other => rfl
  · cases event with
    | received slot => exact (idle slot rfl).elim
    | started | aimed | other => rfl

variable [Udp.Handler Consumer] [SteadyDevice geometry Hardware]

theorem service_enters (counted : CountedLink config link) :
    Yields (service link) fun serviced =>
      CountedLink config serviced.2 ∧ Enters config link serviced.1 serviced.2 := by
  unfold service
  apply (service_settles Tapped.transmitter Tapped.quiet counted).bind
  rintro ⟨frameClass, after, log⟩ ⟨configured, settled⟩
  dsimp only at settled ⊢
  have idle (stats : after.stats = link.stats) (same : after.registration = link.registration)
      (sends : LinkSends config geometry Tapped.Whole Tapped.side link [] after)
      (quiet : ∀ slot, link.serviceEvent ≠ .received slot) :
      CountedLink config after ∧ Enters config link (moment link.serviceEvent
        ((Udp.offersOf after.registration).drop (Udp.offersOf link.registration).length) link after)
        after := by
    rw [same, List.drop_length]
    exact enters_of_sends configured stats sends (.inl rfl) quiet
  cases event : link.serviceEvent with
  | received slot =>
      rw [event] at settled
      obtain ⟨account, icmp, stats, more, noted, others, sends⟩ := settled
      rw [noted, List.drop_left]
      obtain ⟨appended, read⟩ := moment_frames sends (.received slot) more
      refine ⟨⟨configured, sends.1⟩, appended, ?_⟩
      rw [stats]
      exact .reception account rfl ⟨icmp, others, read⟩
  | started | aimed | other =>
      rw [event] at settled idle
      exact idle settled.1 settled.2.1 settled.2.2 (by simp)

theorem accounts_stepwise :
    Stepwise .yields (CountedLink config) Action.LeavesTap (Enters config :
      StepKind geometry Hardware Consumer) where
  start link counted := by
    apply (start_sends_none Tapped.transmitter Tapped.quiet counted).mono
    rintro answer ⟨configured, stats, sends⟩
    exact enters_of_sends configured stats sends (.inl rfl) (by simp)
  service link counted := service_enters counted
  aim link ip counted unknown := by
    have sends : LinkSends config geometry Tapped.Whole Tapped.side link []
        { link with cache := .target ip } := .nothing counted.ring rfl
    exact enters_of_sends counted.configured rfl sends (.inl rfl) (by simp)
  ask link ip counted := by
    apply (ask_questions Tapped.transmitter counted ip).mono
    rintro answer ⟨configured, stats, sends⟩
    exact enters_of_sends configured stats sends (.inr rfl) (by simp)
  send link sourcePort destinationPort length counted := by
    apply (send_sends_one Tapped.transmitter counted sourcePort destinationPort length).mono
    rintro answer ⟨configured, stats, sends⟩
    exact enters_of_sends configured stats sends (.inl rfl) (by simp)
  sendTo link ip sourcePort destinationPort length counted := by
    apply (send_to_sends_one Tapped.transmitter counted ip sourcePort destinationPort length).mono
    rintro answer ⟨configured, stats, sends⟩
    exact enters_of_sends configured stats sends (.inl rfl) (by simp)
  quiet link action counted leaves calm := by
    have quiet : Yields (action.perform link) fun after =>
        after.config = config ∧ after.stats = link.stats ∧
          LinkSends config geometry Tapped.Whole Tapped.side link [] after := by
      cases action with
      | fill offset patch =>
          exact store_payload_sends_none Tapped.transmitter counted offset patch
      | register port consumer => exact ⟨counted.configured, rfl, .nothing counted.ring rfl⟩
      | device change =>
          obtain ⟨tap, length⟩ := leaves link.ring.device.device
          have sent := congrArg Mac.Tap.frames tap
          have up := counted.ring.up
          refine ⟨counted.configured, rfl, .nothing (counted.ring.keeps ?_ sent rfl) sent⟩
          exact ⟨up.divided, up.framing, up.slot, length.trans up.good⟩
      | start | service | resolve | send | sendTo => exact calm.elim
    apply quiet.mono
    rintro after ⟨configured, stats, sends⟩
    exact enters_of_sends configured stats sends (.inl rfl) (by simp)

end Steps

section Chains

variable {Hardware Consumer : Type} {geometry : Mac.SlotGeometry}
  {config : LinkConfig} {link last : Told geometry Hardware Consumer} {history : List Moment}

theorem Chain.frames (chain : Chain (Enters config) link history last) :
    Told.frames last = Told.frames link ++ history.flatMap Moment.frames := by
  induction chain with
  | nil link => simp
  | cons now rest induction => rw [induction, now.appended, List.flatMap_cons, List.append_assoc]

/-- Each frame serviced went to one account; the statistics come from the accounts, and the history
is in balance with them. -/
theorem Chain.accounts (chain : Chain (Enters config) link history last) :
    ∃ accounts, List.Forall₂ (Moment.Accounted config.interface)
        (history.filter Moment.isReception) accounts ∧
      last.stats = accounts.foldl LinkStats.receive link.stats ∧
      Balance config.interface accounts history := by
  induction chain with
  | nil link => exact ⟨[], .nil, rfl, .nil _⟩
  | @cons link next last moment later now rest induction =>
      obtain ⟨accounts, each, same, balance⟩ := induction
      have books := now.books
      generalize next.stats = stats at books same
      cases books with
      | reception account received accounted =>
          refine ⟨account :: accounts, ?_, same, (Balance.of_account received accounted).append
            balance⟩
          rw [List.filter_cons_of_pos received]
          exact .cons accounted each
      | other questions idle silent asked frames =>
          refine ⟨accounts, ?_, same, (Balance.of_no_account idle silent asked frames).append
            balance⟩
          rwa [List.filter_cons_of_neg (by simp [idle])]

end Chains

end Told

open Mac (SteadyDevice Tapped)

variable {Hardware Consumer : Type} [Mac.Device Hardware] [Udp.Handler Consumer]

/-- In every run from the creation of a link, every serviced frame goes to exactly one account, and
the statistics are what the accounts come to. The answers and echoes that are counted are those on
the wire, a datagram is there for every request that was answered with yes, and the counter of
transmitted frames is the number of frames on the wire. The counter of received frames is exact
while it has not run over. -/
theorem every_frame_is_accounted_for (config : LinkConfig) (geometry : Mac.SlotGeometry)
    [SteadyDevice geometry Hardware] (device : Hardware)
    (whole : (Mac.memory device).length = geometry.length) (link : Told geometry Hardware Consumer)
    (created : Link.create ⟨⟨device, {}⟩, {}⟩ geometry config = .ok link)
    (actions : List (Action (Tapped geometry Hardware) (Udp.Noted Consumer)))
    (leave : ∀ action ∈ actions, action.LeavesTap) (history : List Moment)
    (last : Told geometry Hardware Consumer)
    (performed : Told.performAll actions link = .ok (history, last))
    (few : (Told.frames last).length < 4294967296) :
    let stats := last.stats
    let consumed := history.countP (Moment.consumesIcmp config.interface)
    Action.performAll actions link = .ok last ∧
    (∃ accounts, List.Forall₂ (Moment.Accounted config.interface)
        (history.filter Moment.isReception) accounts ∧
      stats = accounts.foldl LinkStats.receive {}) ∧
    (history.countP Moment.isReception < 4294967296 →
      stats.rxFrames.toNat = history.countP Moment.isReception ∧
      stats.rxFrames.toNat = stats.dropped.toNat + stats.arpAnswered.toNat +
        stats.arpLearned.toNat + stats.icmpEchoes.toNat + stats.udpDelivered.toNat + consumed) ∧
    stats.arpAnswered.toNat = tally config.interface .answer (Told.frames last) ∧
    stats.icmpEchoes.toNat = tally config.interface .message (Told.frames last) ∧
    (history.flatMap Moment.offers).countP Udp.Offer.sent =
      tally config.interface .datagram (Told.frames last) ∧
    last.txFrames.toNat = stats.arpAnswered.toNat + stats.icmpEchoes.toNat +
      tally config.interface .question (Told.frames last) +
      (history.flatMap Moment.offers).countP Udp.Offer.sent ∧
    last.txFrames.toNat = (Told.frames last).length := by
  intro stats consumed
  obtain ⟨counted, fresh, empty⟩ := Told.counted_of_create whole created
  obtain ⟨counted, chain⟩ : Told.CountedLink config last ∧
      Told.Chain (Told.Enters config) link history last :=
    (Told.accounts_stepwise.perform_all counted actions leave).of_ok performed
  have told := Told.perform_all_told actions link
  rw [performed] at told
  have onWire := chain.frames
  rw [empty, List.nil_append] at onWire
  have transmitted : last.txFrames.toNat = (Told.frames last).length := by
    rw [txFrames, counted.ring.counted, UInt32.toNat_ofNat']
    exact Nat.mod_eq_of_lt few
  obtain ⟨accounts, each, same, received, consumes, answers, messages, datagrams, readable⟩ :=
    chain.accounts
  rw [fresh] at same
  rw [← onWire] at answers messages datagrams readable
  have total := length_eq_tallies readable
  have counts := Account.length_eq_counts accounts
  have booked : stats = .ofAccounts accounts := same.trans (LinkStats.receive_all accounts)
  have exact {count : Nat} (below : count < 4294967296) : (UInt32.ofNat count).toNat = count := by
    rw [UInt32.toNat_ofNat', Nat.mod_eq_of_lt below]
  have answered : stats.arpAnswered.toNat = tally config.interface .answer (Told.frames last) := by
    rw [booked, answers]
    exact exact (by omega)
  have echoed : stats.icmpEchoes.toNat = tally config.interface .message (Told.frames last) := by
    rw [booked, messages]
    exact exact (by omega)
  refine ⟨told.symm, ⟨accounts, each, same⟩, fun below => ?_, answered, echoed, datagrams, ?_,
    transmitted⟩
  · rw [received] at below ⊢
    have settled : stats.rxFrames.toNat = accounts.length := by
      rw [booked]
      exact exact below
    refine ⟨settled, settled.trans ?_⟩
    rw [booked, show consumed = accounts.count .icmpConsumed from consumes]
    simp only [LinkStats.ofAccounts]
    rw [exact (by omega), exact (by omega), exact (by omega), exact (by omega), exact (by omega)]
    exact counts
  · rw [answered, echoed]
    omega

/-- A device that has received a question, an ICMP message that calls for no answer, and the answer
of the host. -/
def Mailbox.ofThree : Mailbox :=
  let host : Arp.Station := ⟨Simulation.Wire.hostMac, Simulation.Wire.hostIp⟩
  let station : Arp.Station := ⟨Simulation.Wire.deviceMac, Simulation.Wire.deviceIp⟩
  ⟨Bytes.padTo 1532 (Simulation.Wire.arpRequest host station.ip) ++
    (Bytes.padTo 1532 (Simulation.Wire.ipv4 host.mac host.ip station.ip .icmp
      (Icmp.echo Icmp.echoReply 7 1 [1, 2, 3])) ++
    Bytes.padTo 3064 (Simulation.Wire.arpReply host station)),
    [1, 0, 60, 1, 1, 60, 1, 2, 60]⟩

/-- A frame that was answered, one that was consumed and one that was learned from; an answer, a
question and a datagram were sent. -/
theorem three_frames_accounted_for :
    let geometry : Mac.SlotGeometry := ⟨1532, 3, 1, by decide, by decide, by decide⟩
    let config : LinkConfig := { resolveBudget := ⟨1, 1⟩ }
    let host := Simulation.Wire.hostIp
    let actions : List (Action (Tapped geometry Mailbox) (Udp.Noted Simulation.Consumer)) :=
      [.start, .service, .service, .resolve host, .send 1 2 4, .sendTo ⟨10, 0, 11, 9⟩ 1 2 4]
    ∃ link, Link.create ⟨⟨Mailbox.ofThree, {}⟩, {}⟩ geometry config = .ok link ∧
      Returns (Told.performAll actions link) fun told =>
        told.2.stats = ⟨3, 0, 1, 1, 0, 0⟩ ∧
        told.1.countP (Moment.consumesIcmp config.interface) = 1 ∧
        tally config.interface .question (Told.frames told.2) = 1 ∧
        (told.1.flatMap Moment.offers).countP Udp.Offer.sent = 1 ∧
        told.2.txFrames.toNat = 3 := by
  intro geometry config host actions
  have steady := Mailbox.steady geometry (by decide)
  have whole : (Mac.memory Mailbox.ofThree).length = geometry.length := by decide +kernel
  have leave : ∀ action ∈ actions, action.LeavesTap := by simp [actions, Action.LeavesTap]
  let link : Told geometry Mailbox Simulation.Consumer :=
    { config, ring := {
        device := ⟨⟨Mailbox.ofThree, {}⟩, {}⟩, geometry, softwareFrameCheck := false } }
  have created : Link.create ⟨⟨Mailbox.ofThree, {}⟩, {}⟩ geometry config = .ok link := rfl
  have seen : (Told.performAll actions link).toOption.map (fun told =>
      (told.2.stats, told.1.countP Moment.isReception,
        (Told.frames told.2).map (Sending.read config.interface),
        told.1.flatMap Moment.offers)) =
      some (⟨3, 0, 1, 1, 0, 0⟩, 3, [some .answer, some .question, some .datagram],
        [⟨none, true⟩, ⟨some ⟨10, 0, 11, 9⟩, false⟩]) := by decide +kernel
  obtain ⟨⟨history, last⟩, performed, same⟩ := Returns.of_seen seen
  simp only [Prod.mk.injEq] at same
  obtain ⟨stats, received, sent, offers⟩ := same
  have three : (Told.frames last).length = 3 := by
    rw [← List.length_map (Sending.read config.interface), sent]
    rfl
  obtain ⟨-, -, settles, -, -, -, -, transmitted⟩ := every_frame_is_accounted_for config geometry
    Mailbox.ofThree whole link created actions leave history last performed (by omega)
  obtain ⟨-, settled⟩ := settles (by omega)
  rw [stats] at settled
  refine ⟨link, created, (history, last), performed, stats, ?_, ?_, ?_, transmitted.trans three⟩
  · exact (Nat.add_left_cancel settled).symm
  · rw [tally, sent]
    rfl
  · rw [offers]
    rfl

end Link

end InstrumentLink
