import InstrumentLink.Proofs.Accounting
import InstrumentLink.Proofs.LosslessReception

/-!
How a link looks for its peer.

While it waits for an answer, a link does nothing but what it does at any other time: every step of
a search is a question or a call of `service`, and each is taken only while the hardware address is
unknown. So whatever else arrives is handled as ever, and a search ends with the first call after
which the address is known, or with its budget. No frame that is received points the link at another
address, and no question goes out but those of the search.
-/

set_option autoImplicit false

namespace InstrumentLink.Link

inductive SearchStep where
  | ask
  | service
  deriving DecidableEq, Repr

section Search

variable {Hardware Consumer : Type} [Mac.Device Hardware] [Udp.Handler Consumer]

/-- A link became another by steps of a search, each taken while the peer was unknown. -/
inductive Searches (ip : Ipv4Address) :
    Link Hardware Consumer → List SearchStep → Link Hardware Consumer → Prop where
  | nil (link : Link Hardware Consumer) : Searches ip link [] link
  | ask {link asked last : Link Hardware Consumer} {log : Log} {later : List SearchStep}
      (unknown : link.cache.isResolved = false) (asking : link.ask ip = .ok (asked, log))
      (rest : Searches ip asked later last) : Searches ip link (.ask :: later) last
  | service {link serviced last : Link Hardware Consumer} {log : Log}
      {frameClass : Option Ethernet.FrameClass} {later : List SearchStep}
      (unknown : link.cache.isResolved = false)
      (servicing : link.service = .ok (frameClass, serviced, log))
      (rest : Searches ip serviced later last) : Searches ip link (.service :: later) last

theorem Searches.append {ip : Ipv4Address} {link next last : Link Hardware Consumer}
    {earlier later : List SearchStep} (first : Searches ip link earlier next)
    (second : Searches ip next later last) : Searches ip link (earlier ++ later) last := by
  induction first with
  | nil link => exact second
  | ask unknown asking rest induction => exact .ask unknown asking (induction second)
  | service unknown servicing rest induction => exact .service unknown servicing (induction second)

def vainRounds (polls count : Nat) : List SearchStep :=
  (List.replicate count (.ask :: List.replicate polls .service)).flatten

/-- The steps of a search that had so many questions and polls left, and found the peer or not. -/
def Scheduled (polls attempts : Nat) : Bool → List SearchStep → Prop
  | true, steps => ∃ rounds waited, rounds < attempts ∧ 0 < waited ∧ waited ≤ polls ∧
      steps = vainRounds polls rounds ++ .ask :: List.replicate waited .service
  | false, steps => steps = vainRounds polls attempts

theorem count_vain_rounds (polls count : Nat) :
    (vainRounds polls count).count .ask = count ∧
      (vainRounds polls count).count .service = count * polls := by
  induction count with
  | zero => exact ⟨rfl, (Nat.zero_mul polls).symm⟩
  | succ count induction =>
      have parts : vainRounds polls (count + 1) =
          .ask :: List.replicate polls .service ++ vainRounds polls count := rfl
      rw [parts, List.count_append, List.count_append, induction.1, induction.2, Nat.succ_mul]
      simp [List.count_replicate]
      omega

/-- Another round in vain leaves the schedule of a search one question longer. -/
theorem Scheduled.another_round {polls attempts : Nat} {found : Bool} {steps : List SearchStep}
    (scheduled : Scheduled polls attempts found steps) :
    Scheduled polls (attempts + 1) found (.ask :: List.replicate polls .service ++ steps) := by
  cases found with
  | true =>
      obtain ⟨rounds, waited, fewer, some, enough, rfl⟩ := scheduled
      exact ⟨rounds + 1, waited, Nat.succ_lt_succ fewer, some, enough,
        (List.append_assoc _ _ _).symm⟩
  | false =>
      cases scheduled
      rfl

theorem Scheduled.questions {polls attempts : Nat} {found : Bool} {steps : List SearchStep}
    (scheduled : Scheduled polls attempts found steps) (budget : attempts ≠ 0) :
    1 ≤ steps.count .ask ∧ steps.count .ask ≤ attempts := by
  cases found with
  | true =>
      obtain ⟨rounds, waited, fewer, -, -, rfl⟩ := scheduled
      rw [List.count_append, (count_vain_rounds polls rounds).1]
      simp [List.count_replicate]
      omega
  | false =>
      cases scheduled
      rw [(count_vain_rounds polls attempts).1]
      omega

variable {link : Link Hardware Consumer} {ip : Ipv4Address}

omit [Udp.Handler Consumer] in
theorem ask_keeps_peer (link : Link Hardware Consumer) (ip : Ipv4Address) :
    Yields (link.ask ip) fun answer =>
      answer.1.config = link.config ∧ answer.1.cache = link.cache := by
  unfold ask
  apply (Yields.intro _).bind
  intro sent _
  exact ⟨rfl, rfl⟩

theorem dispatch_keeps_config (slot : Bytes) (link : Link Hardware Consumer) :
    Yields (link.dispatch slot) fun dispatched => dispatched.2.1.config = link.config := by
  apply dispatch_cases .yields
  case dropped => exact fun _ _ _ => rfl
  case arp => exact fun _ _ _ => (Yields.intro _).mono fun _ _ => rfl
  case ipv4 => exact fun _ _ _ => (Yields.intro _).mono fun _ _ => rfl

theorem service_keeps_peer (link : Link Hardware Consumer) :
    Yields link.service fun serviced =>
      serviced.2.1.config = link.config ∧ serviced.2.1.cache.ip = link.cache.ip := by
  apply service_cases
  · intro ring log _ _
    exact ⟨rfl, rfl⟩
  · intro received ring log slot _ _
    apply ((dispatch_keeps_config slot _).and (dispatch_remembers slot _)).mono
    rintro dispatched ⟨configured, remembers⟩ released -
    refine ⟨configured, ?_⟩
    change dispatched.2.1.cache.ip = link.cache.ip
    rw [remembers]
    rfl

theorem Searches.keeps_peer {last : Link Hardware Consumer} {steps : List SearchStep}
    (searches : Searches ip link steps last) :
    last.config = link.config ∧ last.cache.ip = link.cache.ip := by
  induction searches with
  | nil link => exact ⟨rfl, rfl⟩
  | @ask link asked last log later unknown asking rest induction =>
      obtain ⟨configured, peer⟩ := (link.ask_keeps_peer ip).of_ok asking
      exact ⟨induction.1.trans configured, induction.2.trans (congrArg Arp.PeerCache.ip peer)⟩
  | @service link serviced last log frameClass later unknown servicing rest induction =>
      obtain ⟨configured, peer⟩ := link.service_keeps_peer.of_ok servicing
      exact ⟨induction.1.trans configured, induction.2.trans peer⟩

theorem await_peer_searches (ip : Ipv4Address) (polls : Nat) (log : Log)
    (unknown : link.cache.isResolved = false) :
    Yields (awaitPeer polls log link) fun answer =>
      answer.1 = answer.2.1.cache.isResolved ∧
      ∃ waited, waited ≤ polls ∧ (answer.1 = true → 0 < waited) ∧
        (answer.1 = false → waited = polls) ∧
        Searches ip link (List.replicate waited .service) answer.2.1 := by
  induction polls generalizing log link with
  | zero => exact ⟨unknown.symm, 0, Nat.le_refl 0, by simp, fun _ => rfl, .nil link⟩
  | succ polls induction =>
      unfold awaitPeer
      apply (Yields.self _).bind
      rintro ⟨frameClass, serviced, reported⟩ servicing
      dsimp only
      split
      · next known =>
          exact ⟨known.symm, 1, Nat.succ_le_succ (Nat.zero_le _), fun _ => Nat.one_pos, by simp,
            .service unknown servicing (.nil serviced)⟩
      · next still =>
          apply (induction (log ++ reported) (Bool.not_eq_true _ ▸ still)).mono
          rintro answer ⟨known, waited, enough, -, vain, rest⟩
          exact ⟨known, waited + 1, Nat.succ_le_succ enough, fun _ => Nat.succ_pos _,
            fun none => congrArg (· + 1) (vain none), .service unknown servicing rest⟩

theorem attempts_search (attempt left : Nat) (unknown : link.cache.isResolved = false) :
    Yields (attempts ip attempt left link) fun answer =>
      answer.1 = answer.2.1.cache.isResolved ∧
      ∃ steps, Searches ip link steps answer.2.1 ∧
        Scheduled link.config.resolveBudget.pollsPerAttempt left answer.1 steps := by
  induction left generalizing attempt link with
  | zero => exact ⟨unknown.symm, [], .nil link, rfl⟩
  | succ left induction =>
      unfold attempts
      apply ((Yields.self _).and (link.ask_keeps_peer ip)).bind
      rintro ⟨asked, asking⟩ ⟨asks, configured, peer⟩
      dsimp only at configured peer ⊢
      rw [configured]
      have still : asked.cache.isResolved = false := peer ▸ unknown
      apply (await_peer_searches ip _ [] still).bind
      rintro ⟨found, waited, waiting⟩ ⟨known, polls, enough, some, vain, polling⟩
      dsimp only at known some vain polling ⊢
      have round := Searches.ask unknown asks polling
      cases found with
      | true =>
          refine ⟨known, _, round, 0, polls, Nat.succ_pos left, some rfl, enough, rfl⟩
      | false =>
          obtain ⟨settled, -⟩ := polling.keeps_peer
          have budget : waited.config = link.config := settled.trans configured
          apply (induction (attempt + 1) known.symm).bind
          rintro ⟨found, last, rest⟩ ⟨known, steps, searching, scheduled⟩
          rw [budget] at scheduled
          rw [vain rfl] at round
          exact ⟨known, _, round.append searching, scheduled.another_round⟩

/-- A search for an address that the link does not know. -/
theorem resolve_search (other : link.cache.resolves ip = false) :
    Yields (link.resolve ip) fun answer =>
      answer.2.1.cache.ip = ip ∧ answer.1 = answer.2.1.cache.resolves ip ∧
      ∃ steps, Searches ip { link with cache := .target ip } steps answer.2.1 ∧
        Scheduled link.config.resolveBudget.pollsPerAttempt link.config.resolveBudget.attempts
          answer.1 steps := by
  unfold resolve
  rw [if_neg (by simp [other])]
  have unknown : (Arp.PeerCache.target ip).isResolved = false := rfl
  apply (attempts_search 1 link.config.resolveBudget.attempts unknown).mono
  rintro answer ⟨known, steps, searches, scheduled⟩
  have pointed : answer.2.1.cache.ip = ip := searches.keeps_peer.2
  refine ⟨pointed, ?_, steps, searches, scheduled⟩
  rw [known]
  simp [Arp.PeerCache.resolves, pointed]

end Search

theorem no_question_for_received (account : Account) (offers : List Udp.Offer) :
    Sending.question ∉ account.sendings offers := by
  cases account <;> simp [Account.sendings, Udp.datagrams]

namespace Told

open Mac (SteadyDevice Tapped)

def questions (interface : Interface) (frames : List Bytes) : List Bytes :=
  frames.filter fun octets => Sending.read interface octets = some .question

variable {Hardware Consumer : Type} [Mac.Device Hardware] {geometry : Mac.SlotGeometry}
  {config : LinkConfig} {link after last : Told geometry Hardware Consumer}

theorem sends_no_question {sendings : List Sending}
    (sends : LinkSends config geometry Tapped.Whole Tapped.side link sendings after)
    (silent : Sending.question ∉ sendings) :
    ∃ sent, frames after = frames link ++ sent ∧ questions config.interface sent = [] := by
  obtain ⟨-, sent, appended, same⟩ := sends
  refine ⟨sent, appended, List.filter_eq_nil_iff.mpr ?_⟩
  intro octets member asks
  have read : Sending.read config.interface octets ∈ sendings.map some :=
    same ▸ List.mem_map_of_mem member
  rw [of_decide_eq_true asks] at read
  obtain ⟨sending, among, same⟩ := List.mem_map.mp read
  exact silent (Option.some.inj same ▸ among)

variable [SteadyDevice geometry Hardware]

theorem ask_sends_question (counted : CountedLink config link) (ip : Ipv4Address) :
    Yields (link.ask ip) fun answer => CountedLink config answer.1 ∧
      frames answer.1 = frames link ++
        [config.interface.onWire (Arp.requestFrame config.interface ip)] := by
  obtain ⟨rfl, sound⟩ := counted
  apply ((ask_questions Tapped.transmitter ⟨rfl, sound⟩ ip).and
    (ask_sends Tapped.transmitter sound.up ip).yields).mono
  rintro answer ⟨⟨configured, -, sends⟩, -, same⟩
  exact ⟨⟨configured, sends.1⟩, congrArg Outline.sent same⟩

variable [Udp.Handler Consumer]

theorem service_sends_no_question (counted : CountedLink config link) :
    Yields (Link.service link) fun serviced => CountedLink config serviced.2.1 ∧
      ∃ sent, frames serviced.2.1 = frames link ++ sent ∧
        questions config.interface sent = [] := by
  apply (service_settles Tapped.transmitter Tapped.quiet counted).mono
  rintro ⟨frameClass, serviced, log⟩ ⟨configured, settled⟩
  dsimp only at configured settled ⊢
  cases event : link.serviceEvent with
  | received slot =>
      rw [event] at settled
      obtain ⟨account, -, -, more, -, -, sends⟩ := settled
      exact ⟨⟨configured, sends.1⟩, sends_no_question sends (no_question_for_received _ _)⟩
  | started | aimed | other =>
      rw [event] at settled
      exact ⟨⟨configured, settled.2.2.1⟩, sends_no_question settled.2.2 List.not_mem_nil⟩

theorem searches_questions {ip : Ipv4Address} {steps : List SearchStep}
    (searches : Searches ip link steps last) (counted : CountedLink config link) :
    CountedLink config last ∧ ∃ sent, frames last = frames link ++ sent ∧
      questions config.interface sent = List.replicate (steps.count .ask)
        (config.interface.onWire (Arp.requestFrame config.interface ip)) := by
  have asks : Sending.read config.interface
      (config.interface.onWire (Arp.requestFrame config.interface ip)) = some .question :=
    Sending.read_arp config.interface .request .broadcast ⟨.zero, ip⟩
  induction searches with
  | nil link => exact ⟨counted, [], (List.append_nil _).symm, rfl⟩
  | @ask link asked last log later unknown asking rest induction =>
      obtain ⟨counted, sent⟩ := (ask_sends_question counted ip).of_ok asking
      obtain ⟨counted, more, appended, asked⟩ := induction counted
      refine ⟨counted, config.interface.onWire (Arp.requestFrame config.interface ip) :: more,
        ?_, ?_⟩
      · rw [appended, sent, List.append_assoc]
        rfl
      · rw [questions, List.filter_cons_of_pos (by simp [asks]), List.count_cons_self,
          List.replicate_succ]
        exact congrArg _ asked
  | @service link serviced last log frameClass later unknown servicing rest induction =>
      obtain ⟨counted, sent, appended, silent⟩ :=
        (service_sends_no_question counted).of_ok servicing
      obtain ⟨counted, more, later, asked⟩ := induction counted
      refine ⟨counted, sent ++ more, ?_, ?_⟩
      · rw [later, appended, List.append_assoc]
      · rw [questions] at silent asked ⊢
        rw [List.filter_append, silent, List.nil_append, asked,
          List.count_cons_of_ne (by decide)]

/-- What is left of a search: its steps, the peer, and the questions on the wire. -/
structure Sought (config : LinkConfig) (ip : Ipv4Address) (link : Told geometry Hardware Consumer)
    (steps : List SearchStep) (answer : Bool × Told geometry Hardware Consumer × Log) : Prop where
  path : Searches ip { link with cache := .target ip } steps answer.2.1
  peer : answer.2.1.cache.ip = ip
  known : answer.1 = answer.2.1.cache.resolves ip
  scheduled : Scheduled config.resolveBudget.pollsPerAttempt config.resolveBudget.attempts
    answer.1 steps
  asked : 1 ≤ steps.count .ask ∧ steps.count .ask ≤ config.resolveBudget.attempts
  spent : answer.1 = false → steps.count .ask = config.resolveBudget.attempts ∧
    steps.count .service =
      config.resolveBudget.attempts * config.resolveBudget.pollsPerAttempt
  questions : ∃ sent, frames answer.2.1 = frames link ++ sent ∧
    questions config.interface sent = List.replicate (steps.count .ask)
      (config.interface.onWire (Arp.requestFrame config.interface ip))

theorem counted_of_performed (counted : CountedLink config link)
    {actions : List (Action (Tapped geometry Hardware) (Udp.Noted Consumer))}
    (leave : ∀ action ∈ actions, action.LeavesTap)
    (reached : Action.performAll actions link = .ok last) : CountedLink config last := by
  have told := perform_all_told actions link
  rw [reached] at told
  obtain ⟨⟨history, same⟩, run, rfl⟩ :
      Returns (performAll actions link) fun told => last = told.2 :=
    Returns.of_map ⟨last, told, rfl⟩
  exact ((accounts_stepwise.perform_all counted actions leave).of_ok run).1

theorem Sought.of_counted (counted : CountedLink config link)
    (budget : config.resolveBudget.attempts ≠ 0) {ip : Ipv4Address}
    (other : link.cache.resolves ip = false) :
    Yields (Link.resolve ip link) fun answer => ∃ steps, Sought config ip link steps answer := by
  obtain ⟨rfl, sound⟩ := counted
  apply (resolve_search other).mono
  rintro answer ⟨peer, known, steps, path, scheduled⟩
  refine ⟨steps, path, peer, known, scheduled, scheduled.questions budget, ?_, ?_⟩
  · intro none
    rw [none] at scheduled
    cases scheduled
    exact count_vain_rounds _ _
  · exact (searches_questions path ⟨rfl, sound⟩).2

end Told

open Mac (SteadyDevice Tapped)

variable {Hardware Consumer : Type} [Mac.Device Hardware] [Udp.Handler Consumer]

/-- Wherever a run has brought a link, with every accepted budget and whatever is received
meanwhile: if the peer is known, `resolve` says so and leaves the link as it is. Otherwise an answer
comes of a search, whose steps are questions for the peer and calls of `service`. Unless a consumer
stops the link, there is an answer. -/
theorem resolve_is_a_search (config : LinkConfig) (geometry : Mac.SlotGeometry)
    [SteadyDevice geometry Hardware] (device : Hardware)
    (whole : (Mac.memory device).length = geometry.length)
    (first : Told geometry Hardware Consumer)
    (created : Link.create ⟨⟨device, {}⟩, {}⟩ geometry config = .ok first)
    (actions : List (Action (Tapped geometry Hardware) (Udp.Noted Consumer)))
    (leave : ∀ action ∈ actions, action.LeavesTap)
    (link : Told geometry Hardware Consumer) (reached : Action.performAll actions first = .ok link)
    (ip : Ipv4Address) :
    (link.cache.resolves ip = true → Link.resolve ip link = .ok (true, link, [])) ∧
    (link.cache.resolves ip = false →
      (Yields (Link.resolve ip link) fun answer =>
        ∃ steps, Told.Sought config ip link steps answer) ∧
      ∀ Safe : Udp.Noted Consumer → Prop, SafeConsumer config geometry Safe →
        (∀ action ∈ actions, action.Allowed config Safe) →
        Returns (Link.resolve ip link) fun answer =>
          ∃ steps, Told.Sought config ip link steps answer) ∧
    config.interface.WellFormed
      (config.interface.onWire (Arp.requestFrame config.interface ip)) := by
  have placed := placed_interface config
  refine ⟨?_, ?_, .of_sent placed (Arp.frame_fits placed _ _ _) (Interface.sent_by_arp _ _ _)⟩
  · intro known
    unfold Link.resolve
    rw [if_pos known]
    rfl
  · intro other
    have counted : Told.CountedLink config link :=
      Told.counted_of_performed (Told.counted_of_create whole created).1 leave reached
    have budget := (LinkConfig.of_validate (of_create created).1).2.1
    have sought := Told.Sought.of_counted counted (Nat.ne_of_gt budget) other
    refine ⟨sought, fun Safe handler allowed => ?_⟩
    have large : (Mac.memory (⟨device, {}⟩ : Tapped geometry Hardware)).length = geometry.length :=
      whole
    have sound := (Action.perform_all_returns handler
      (sound_of_create config geometry Safe large created) actions allowed).yields.of_ok reached
    exact ((sound.resolve_returns handler ip).and sought).mono fun answer both => both.2

/-- A question and an ICMP message are serviced while the first question stands; the answer comes
with the first call after the second one. -/
theorem peer_found_on_second_question :
    let geometry : Mac.SlotGeometry := ⟨1532, 3, 1, by decide, by decide, by decide⟩
    let config : LinkConfig := { resolveBudget := ⟨2, 2⟩ }
    let host := Simulation.Wire.hostIp
    ∃ first : Told geometry Mailbox Simulation.Consumer,
      Link.create ⟨⟨Mailbox.ofThree, {}⟩, {}⟩ geometry config = .ok first ∧
      Returns (Action.performAll [.start] first) fun link =>
        Returns (Link.resolve host link) fun answer =>
          answer.1 = true ∧ answer.2.1.stats = ⟨3, 0, 1, 1, 0, 0⟩ ∧
          ∃ waited, Told.Sought config host link
            (vainRounds 2 1 ++ .ask :: List.replicate waited .service) answer := by
  intro geometry config host
  have steady := Mailbox.steady geometry (by decide)
  have whole : (Mac.memory Mailbox.ofThree).length = geometry.length := by decide +kernel
  have handler : SafeConsumer config geometry fun noted : Udp.Noted Simulation.Consumer =>
    Echoes noted.consumer := Udp.Noted.safe_handler (echo_safe _ _)
  let first : Told geometry Mailbox Simulation.Consumer :=
    { config, ring := {
        device := ⟨⟨Mailbox.ofThree, {}⟩, {}⟩, geometry, softwareFrameCheck := false } }
  have created : Link.create ⟨⟨Mailbox.ofThree, {}⟩, {}⟩ geometry config = .ok first := rfl
  have seen : (Action.performAll [.start] first).toOption.map (fun link =>
      (link.cache.resolves host, (Told.frames link).length,
        (Link.resolve host link).toOption.map fun answer =>
          (answer.1, answer.2.1.stats,
            (Told.questions config.interface (Told.frames answer.2.1)).length))) =
      some (false, 0, some (true, ⟨3, 0, 1, 1, 0, 0⟩, 2)) := by decide +kernel
  obtain ⟨link, reached, same⟩ := Returns.of_seen seen
  simp only [Prod.mk.injEq] at same
  obtain ⟨other, none, found⟩ := same
  obtain ⟨answer, resolved, same⟩ := Returns.of_seen found
  simp only [Prod.mk.injEq] at same
  obtain ⟨yes, stats, asked⟩ := same
  obtain ⟨-, search⟩ := (resolve_is_a_search config geometry Mailbox.ofThree whole first created
    [.start] (by simp [Action.LeavesTap]) link reached host).2.1 other
  obtain ⟨again, same, steps, sought⟩ := search _ handler (by simp [Action.Allowed])
  rw [resolved] at same
  cases same
  refine ⟨first, created, link, reached, answer, resolved, yes, stats, ?_⟩
  have scheduled := sought.scheduled
  obtain ⟨sent, appended, questions⟩ := sought.questions
  rw [yes] at scheduled
  obtain ⟨rounds, waited, -, -, -, rfl⟩ := scheduled
  rw [List.length_eq_zero_iff.mp none, List.nil_append] at appended
  rw [appended, questions, List.length_replicate, List.count_append,
    (count_vain_rounds _ _).1] at asked
  have once : rounds = 1 := by simpa [List.count_replicate] using asked
  subst once
  exact ⟨waited, sought⟩

end InstrumentLink.Link
