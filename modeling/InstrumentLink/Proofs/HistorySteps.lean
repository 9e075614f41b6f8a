import InstrumentLink.Proofs.PeerHistory

/-!
The history of a run, step by step.

Whatever is asked of a link, its run consists of the same few steps: it is started, it services what
its device reports, it is pointed at an address and asks for it, it is asked to send, or it is used
without any of these. A kind of step that covers them all covers every moment of every run, the
polls inside `resolve` included.
-/

set_option autoImplicit false

namespace InstrumentLink.Link

variable {geometry : Mac.SlotGeometry} {Hardware Consumer : Type}

/-- The actions that neither receive nor ask to send. -/
def Action.Quiet : Action Hardware Consumer → Prop
  | .fill .. | .register .. | .device .. => True
  | .start | .service | .resolve .. | .send .. | .sendTo .. => False

namespace Told

abbrev StepKind (geometry : Mac.SlotGeometry) (Hardware Consumer : Type) : Type :=
  Told geometry Hardware Consumer → Moment → Told geometry Hardware Consumer → Prop

inductive Chain (Step : StepKind geometry Hardware Consumer) :
    Told geometry Hardware Consumer → List Moment → Told geometry Hardware Consumer → Prop where
  | nil (link : Told geometry Hardware Consumer) : Chain Step link [] link
  | cons {link next last : Told geometry Hardware Consumer} {moment : Moment}
      {later : List Moment} (now : Step link moment next)
      (rest : Chain Step next later last) : Chain Step link (moment :: later) last

namespace Chain

variable {Step Other : StepKind geometry Hardware Consumer}
  {link next last : Told geometry Hardware Consumer} {history earlier later : List Moment}
  {moment : Moment}

theorem single (step : Step link moment last) : Chain Step link [moment] last :=
  .cons step (.nil last)

theorem append (chain : Chain Step link history next) (rest : Chain Step next later last) :
    Chain Step link (history ++ later) last := by
  induction chain with
  | nil link => exact rest
  | cons now chain induction => exact .cons now (induction rest)

theorem mono (chain : Chain Step link history last)
    (weaker : ∀ before moment after, Step before moment after → Other before moment after) :
    Chain Other link history last := by
  induction chain with
  | nil link => exact .nil link
  | cons now chain induction => exact .cons (weaker _ _ _ now) induction

theorem at_moment (chain : Chain Step link (earlier ++ moment :: later) last) :
    ∃ before after, Chain Step link earlier before ∧ Step before moment after ∧
      Chain Step after later last := by
  induction earlier generalizing link with
  | nil =>
      cases chain with
      | cons now rest => exact ⟨link, _, .nil link, now, rest⟩
  | cons first earlier induction =>
      cases chain with
      | cons now rest =>
          obtain ⟨before, after, chain, step, rest⟩ := induction rest
          exact ⟨before, after, .cons now chain, step, rest⟩

end Chain

variable [Mac.Device Hardware] [Udp.Handler Consumer]

/-- The steps of a run keep an invariant and are of a kind. -/
structure Stepwise (verdict : Verdict) (Good : Told geometry Hardware Consumer → Prop)
    (Allowed : Action (Mac.Tapped geometry Hardware) (Udp.Noted Consumer) → Prop)
    (Step : StepKind geometry Hardware Consumer) : Prop where
  start : ∀ link, Good link → verdict.Says link.start fun answer =>
    Good answer.1 ∧ Step link (moment .started [] link answer.1) answer.1
  service : ∀ link, Good link → verdict.Says (service link) fun answer =>
    Good answer.2 ∧ Step link answer.1 answer.2
  /-- A link is only pointed at an address that it does not know. -/
  aim : ∀ (link : Told geometry Hardware Consumer) ip, Good link →
    link.cache.resolves ip = false →
      Good { link with cache := .target ip } ∧
        Step link (moment (.aimed ip) [] link { link with cache := .target ip })
          { link with cache := .target ip }
  ask : ∀ link ip, Good link → verdict.Says (link.ask ip) fun answer =>
    Good answer.1 ∧ Step link (moment .other [] link answer.1) answer.1
  send : ∀ link sourcePort destinationPort length, Good link →
    verdict.Says (link.send sourcePort destinationPort length) fun answer =>
      Good answer.2.1 ∧ Step link (moment .other [⟨none, answer.1⟩] link answer.2.1) answer.2.1
  sendTo : ∀ link ip sourcePort destinationPort length, Good link →
    verdict.Says (link.sendTo ip sourcePort destinationPort length) fun answer =>
      Good answer.2.1 ∧ Step link (moment .other [⟨some ip, answer.1⟩] link answer.2.1) answer.2.1
  quiet : ∀ link action, Good link → Allowed action → action.Quiet →
    verdict.Says (action.perform link) fun after =>
      Good after ∧ Step link (moment .other [] link after) after

namespace Stepwise

variable {verdict : Verdict} {Good : Told geometry Hardware Consumer → Prop}
  {Allowed : Action (Mac.Tapped geometry Hardware) (Udp.Noted Consumer) → Prop}
  {Step : StepKind geometry Hardware Consumer} {link : Told geometry Hardware Consumer}

theorem await_peer (stepwise : Stepwise verdict Good Allowed Step) (polls : Nat)
    (good : Good link) :
    verdict.Says (awaitPeer polls link) fun waited =>
      Good waited.2.2 ∧ Chain Step link waited.1 waited.2.2 := by
  induction polls generalizing link with
  | zero => exact verdict.ok ⟨good, .nil link⟩
  | succ polls induction =>
      unfold awaitPeer
      apply verdict.bind (stepwise.service link good)
      rintro ⟨now, next⟩ ⟨good, step⟩
      dsimp only
      split
      · exact verdict.ok ⟨good, .single step⟩
      · exact verdict.bind (induction good) fun waited rest =>
          verdict.ok ⟨rest.1, .cons step rest.2⟩

theorem attempts (stepwise : Stepwise verdict Good Allowed Step) (ip : Ipv4Address) (left : Nat)
    (good : Good link) :
    verdict.Says (Told.attempts ip left link) fun tried =>
      Good tried.2 ∧ Chain Step link tried.1 tried.2 := by
  induction left generalizing link with
  | zero => exact verdict.ok ⟨good, .nil link⟩
  | succ left induction =>
      unfold Told.attempts
      apply verdict.bind (stepwise.ask link ip good)
      rintro ⟨asked, log⟩ ⟨good, asking⟩
      apply verdict.bind (stepwise.await_peer _ good)
      rintro ⟨waiting, resolved, next⟩ ⟨good, waited⟩
      dsimp only
      split
      · exact verdict.ok ⟨good, .cons asking waited⟩
      · apply verdict.bind (induction good)
        rintro tried ⟨good, rest⟩
        exact verdict.ok ⟨good, .cons asking (waited.append rest)⟩

theorem resolve (stepwise : Stepwise verdict Good Allowed Step) (ip : Ipv4Address)
    (good : Good link) :
    verdict.Says (Told.resolve ip link) fun resolved =>
      Good resolved.2 ∧ Chain Step link resolved.1 resolved.2 := by
  unfold Told.resolve
  split
  · exact verdict.ok ⟨good, .nil link⟩
  · next unknown =>
      obtain ⟨good, aiming⟩ := stepwise.aim link ip good (Bool.not_eq_true _ ▸ unknown)
      apply verdict.bind (stepwise.attempts ip _ good)
      rintro tried ⟨good, rest⟩
      exact verdict.ok ⟨good, .cons aiming rest⟩

theorem perform (stepwise : Stepwise verdict Good Allowed Step) (good : Good link)
    (action : Action (Mac.Tapped geometry Hardware) (Udp.Noted Consumer))
    (allowed : Allowed action) :
    verdict.Says (Told.perform link action) fun performed =>
      Good performed.2 ∧ Chain Step link performed.1 performed.2 := by
  have quiet (calm : action.Quiet) : verdict.Says (do
      let after ← action.perform link
      return ([moment .other [] link after], after)) fun performed =>
        Good performed.2 ∧ Chain Step link performed.1 performed.2 :=
    verdict.bind (stepwise.quiet link action good allowed calm) fun after kept =>
      verdict.ok ⟨kept.1, .single kept.2⟩
  cases action with
  | start =>
      exact verdict.bind (stepwise.start link good) fun answer kept =>
        verdict.ok ⟨kept.1, .single kept.2⟩
  | service =>
      exact verdict.bind (stepwise.service link good) fun answer kept =>
        verdict.ok ⟨kept.1, .single kept.2⟩
  | resolve ip => exact stepwise.resolve ip good
  | send sourcePort destinationPort length =>
      exact verdict.bind (stepwise.send link sourcePort destinationPort length good)
        fun answer kept => verdict.ok ⟨kept.1, .single kept.2⟩
  | sendTo ip sourcePort destinationPort length =>
      exact verdict.bind (stepwise.sendTo link ip sourcePort destinationPort length good)
        fun answer kept => verdict.ok ⟨kept.1, .single kept.2⟩
  | fill offset patch => exact quiet trivial
  | register port consumer => exact quiet trivial
  | device change => exact quiet trivial

/-- Every run keeps the invariant, and every moment of it is a step of the kind. -/
theorem perform_all (stepwise : Stepwise verdict Good Allowed Step) (good : Good link)
    (actions : List (Action (Mac.Tapped geometry Hardware) (Udp.Noted Consumer)))
    (allowed : ∀ action ∈ actions, Allowed action) :
    verdict.Says (performAll actions link) fun performed =>
      Good performed.2 ∧ Chain Step link performed.1 performed.2 := by
  induction actions generalizing link with
  | nil => exact verdict.ok ⟨good, .nil link⟩
  | cons action actions induction =>
      obtain ⟨allowedFirst, allowedLater⟩ := List.forall_mem_cons.mp allowed
      unfold performAll
      apply verdict.bind (stepwise.perform good action allowedFirst)
      rintro ⟨now, next⟩ ⟨good, chain⟩
      apply verdict.bind (induction good allowedLater)
      rintro later ⟨good, rest⟩
      exact verdict.ok ⟨good, chain.append rest⟩

end Stepwise

end Told

end InstrumentLink.Link
