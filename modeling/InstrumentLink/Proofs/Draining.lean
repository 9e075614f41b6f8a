import InstrumentLink.Proofs.StockedLink

/-!
Draining a simulated link.

A link that is serviced takes the frames that wait in their order, and answers that nothing was
pending when none is left. There is one other way to that answer: a report that is refused is
dropped, and whatever waits behind it stays where it is. So a run ends with an empty wire unless
such a report stood in front of a frame when it began.
-/

set_option autoImplicit false

namespace InstrumentLink.Link

open Simulation (Happening SimulatedLink SimulatedMac maximumServiceSteps)

variable {Consumer : Type} [Udp.Handler Consumer] {config : LinkConfig}
  {geometry : Mac.SlotGeometry} {Safe : Consumer → Prop} {frame : Bytes}
  {frames : List Bytes} {link last : Link SimulatedMac Consumer}

inductive HandledAll : List Bytes → Link SimulatedMac Consumer → Link SimulatedMac Consumer → Prop
    where
  | nil (link : Link SimulatedMac Consumer) : HandledAll [] link link
  | cons {frame : Bytes} {frames : List Bytes} {link next last : Link SimulatedMac Consumer}
      {frameClass : Ethernet.FrameClass} (now : Handled frame link frameClass next)
      (rest : HandledAll frames next last) : HandledAll (frame :: frames) link last

/-- All that waited was handled in its order, and what arrived meanwhile behind it, unless the limit
came first. -/
structure Drained (limit : Nat) (link last : Link SimulatedMac Consumer) (handled : List Bytes) :
    Prop where
  each : HandledAll handled link last
  order : ∃ answers, link.ring.device.waiting ++ answers = handled ++ last.ring.device.waiting
  idle : handled.length < limit → last.ring.device.waiting = []
  accepted : ¬ last.ring.device.Refuses

inductive RunsTo (link : Link SimulatedMac Consumer) :
    Link SimulatedMac Consumer → List Bytes → Prop where
  /-- A report was refused, and that was all. -/
  | dropped (refuses : link.ring.device.Refuses) :
      RunsTo link (SimulatedLink.mapDevice SimulatedMac.withoutReport link) []
  | drained {last : Link SimulatedMac Consumer} {handled : List Bytes}
      (accepted : ¬ link.ring.device.Refuses)
      (drained : Drained maximumServiceSteps link last handled) : RunsTo link last handled

section Runs

variable (named : geometry.txSlots ≤ 4294967296) (handler : SafeConsumer config geometry Safe)
  (numbered : geometry.rxSlots ≤ 4294967296) (narrow : geometry.slotSize < 4294967296)

include named handler numbered narrow

theorem Stocked.run_for_drains (stocked : Stocked config geometry Safe link)
    (accepted : ¬ link.ring.device.Refuses) (steps count : Nat) (log : Log) :
    Returns (SimulatedLink.runFor steps count log link) fun answer => ∃ handled : List Bytes,
      answer.1 = count + handled.length ∧ Drained steps link answer.2.1 handled ∧
        Stocked config geometry Safe answer.2.1 := by
  induction steps generalizing link count log with
  | zero =>
      exact Returns.ok ⟨[], rfl, ⟨.nil link, ⟨[], List.append_nil _⟩,
        fun less => (Nat.not_lt_zero _ less).elim, accepted⟩, stocked⟩
  | succ steps induction =>
      unfold SimulatedLink.runFor
      cases front : link.ring.device.waiting with
      | nil =>
          apply Returns.bind_ok (service_silent stocked accepted front)
          exact Returns.ok ⟨[], rfl, ⟨.nil link, ⟨[], List.append_nil _⟩, fun _ => front,
            accepted⟩, stocked⟩
      | cons frame rest =>
          apply (stocked.service_handles named handler numbered narrow accepted front).bind
          intro answer kept
          obtain ⟨found, next, servicing⟩ := answer
          obtain ⟨frameClass, same, now, supplied⟩ := kept
          cases same
          have idle := supplied.ring.good.waits.pending
          apply (induction (stocked_of_supplied supplied) supplied.ring.good.waits.accepted _
            _).mono
          intro answer kept
          obtain ⟨handled, counted, drained, stocked⟩ := kept
          obtain ⟨answers, order⟩ := drained.order
          obtain ⟨arrived, wire⟩ := supplied.ring.good.wire
          refine ⟨frame :: handled, ?_, ⟨.cons now drained.each, ⟨arrived ++ answers, ?_⟩,
            ?_, drained.accepted⟩, stocked⟩
          · rw [counted, List.length_cons]
            omega
          · rw [SimulatedMac.waiting_of_idle idle, ← wire] at order
            rw [front, List.cons_append, List.cons_append, ← order, List.append_assoc]
          · intro less
            rw [List.length_cons] at less
            exact drained.idle (by omega)

theorem Stocked.run_until_idle_runs (stocked : Stocked config geometry Safe link) :
    Returns (SimulatedLink.runUntilIdle link) fun answer => ∃ handled : List Bytes,
      answer.1 = handled.length ∧ RunsTo link answer.2.1 handled := by
  by_cases refuses : link.ring.device.Refuses
  · change Returns (SimulatedLink.runFor (9999 + 1) 0 [] link) _
    unfold SimulatedLink.runFor
    apply (service_dropped stocked refuses).bind
    intro answer dropped
    obtain ⟨found, next, servicing⟩ := answer
    obtain ⟨nothing, same⟩ := dropped
    cases nothing
    cases same
    exact Returns.ok ⟨[], rfl, .dropped refuses⟩
  · apply (stocked.run_for_drains named handler numbered narrow refuses maximumServiceSteps 0
      []).mono
    intro answer kept
    obtain ⟨handled, counted, drained, -⟩ := kept
    exact ⟨handled, by rw [counted, Nat.zero_add], .drained refuses drained⟩

end Runs

/-- A run leaves something pending exactly if it only dropped a report in front of a frame. -/
theorem RunsTo.idle_iff {handled : List Bytes} (runs : RunsTo link last handled) :
    (handled.length < maximumServiceSteps → last.ring.device.pendingRx = 0) ↔
      ¬ (link.ring.device.Refuses ∧ link.ring.device.wire ≠ []) := by
  cases runs with
  | dropped refuses =>
      have below : (0 : Nat) < maximumServiceSteps := by decide
      have pending : (SimulatedLink.mapDevice SimulatedMac.withoutReport
          link).ring.device.pendingRx = link.ring.device.wire.length := rfl
      simp [refuses, below, pending]
  | drained accepted drained =>
      have waits : ¬ (link.ring.device.Refuses ∧ link.ring.device.wire ≠ []) :=
        fun both => accepted both.1
      simp only [waits, not_false_eq_true, iff_true]
      intro below
      exact SimulatedMac.pending_rx_of_waiting drained.accepted (drained.idle below)

theorem RunsTo.complete_iff {handled : List Bytes} (runs : RunsTo link last handled) :
    (handled.length < maximumServiceSteps → link.ring.device.waiting <+: handled) ↔
      ¬ (link.ring.device.Refuses ∧ link.ring.device.wire ≠ []) := by
  cases runs with
  | dropped refuses =>
      have below : (0 : Nat) < maximumServiceSteps := by decide
      simp [refuses, below, SimulatedMac.waiting_of_refuses refuses]
  | drained accepted drained =>
      have waits : ¬ (link.ring.device.Refuses ∧ link.ring.device.wire ≠ []) :=
        fun both => accepted both.1
      simp only [waits, not_false_eq_true, iff_true]
      intro below
      obtain ⟨answers, order⟩ := drained.order
      rw [drained.idle below, List.append_nil] at order
      exact ⟨answers, order⟩

def queued (frames : List Bytes) (link : Link SimulatedMac Consumer) :
    Link SimulatedMac Consumer :=
  SimulatedLink.mapDevice (fun mac => { mac with wire := mac.wire ++ frames }) link

omit [Udp.Handler Consumer] in
theorem waiting_queued (frames : List Bytes) (link : Link SimulatedMac Consumer) :
    (queued frames link).ring.device.waiting = link.ring.device.waiting ++ frames :=
  (List.append_assoc _ _ _).symm

omit [Udp.Handler Consumer] in
theorem inject_all_queues (fits : ∀ frame ∈ frames,
    frame.length ≤ link.ring.device.geometry.slotSize) :
    SimulatedLink.injectAll link frames = .ok (queued frames link) := by
  induction frames generalizing link with
  | nil =>
      simp only [queued, SimulatedLink.mapDevice, List.append_nil]
      rfl
  | cons frame frames induction =>
      obtain ⟨short, later⟩ := List.forall_mem_cons.mp fits
      have injected : SimulatedLink.inject frame link = .ok (queued [frame] link) :=
        bind_known (if_pos short) rfl
      have more : SimulatedLink.injectAll (queued [frame] link) frames =
          .ok (queued frames (queued [frame] link)) := induction later
      have same : queued frames (queued [frame] link) = queued (frame :: frames) link := by
        simp only [queued, SimulatedLink.mapDevice, List.append_assoc, List.singleton_append]
      rw [same] at more
      exact bind_known injected more

omit [Udp.Handler Consumer] in
theorem Stocked.queues (stocked : Stocked config geometry Safe link)
    (fits : ∀ frame ∈ frames, frame.length ≤ geometry.slotSize) :
    Stocked config geometry Safe (queued frames link) := by
  obtain ⟨configured, ⟨divided, framing, slot, settled, wire, peer⟩, registered⟩ := stocked
  exact ⟨configured, ⟨divided, framing, slot, ⟨settled.divided, settled.whole, settled.next,
    settled.event⟩, List.forall_mem_append.mpr ⟨wire, fits⟩, peer⟩, registered⟩

/-- A frame goes on waiting only behind a report that is refused. -/
theorem drained_unless_report_refused (config : LinkConfig) (geometry : Mac.SlotGeometry)
    (named : geometry.txSlots ≤ 4294967296) (numbered : geometry.rxSlots ≤ 4294967296)
    (narrow : geometry.slotSize < 4294967296) {Safe : Consumer → Prop}
    (handler : SafeConsumer config geometry Safe) {history : List (Deed Consumer)}
    (fair : ∀ deed ∈ history, deed.Fair geometry Safe) {link : Link SimulatedMac Consumer}
    (lived : Lived config geometry history link) :
    let mac := link.ring.device
    (Returns link.service fun answer =>
      answer.1 = none ↔ mac.Refuses ∨ mac.waiting = []) ∧
    (Returns (SimulatedLink.runUntilIdle link) fun answer => ∃ handled : List Bytes,
      answer.1 = handled.length ∧ RunsTo link answer.2.1 handled ∧
        ((answer.1 < maximumServiceSteps → answer.2.1.ring.device.pendingRx = 0) ↔
          ¬ (mac.Refuses ∧ mac.wire ≠ []))) ∧
    ∀ frames : List Bytes, (∀ frame ∈ frames, frame.length ≤ geometry.slotSize) →
      Returns (SimulatedLink.exchange frames link) fun answer => ∃ last handled,
        RunsTo (queued frames link) last handled ∧ answer.1 = last.ring.device.sent ∧
          answer.2.1 = (SimulatedLink.collect last).2 ∧
          ((handled.length < maximumServiceSteps → mac.waiting ++ frames <+: handled) ↔
            ¬ (mac.Refuses ∧ mac.wire ++ frames ≠ [])) := by
  intro mac
  have stocked := lived.stocked named handler numbered narrow fair
  refine ⟨?_, ?_, ?_⟩
  · by_cases refuses : mac.Refuses
    · apply (service_dropped stocked refuses).mono
      intro answer dropped
      simp [dropped.1, refuses]
    · cases front : mac.waiting with
      | nil =>
          refine ⟨_, service_silent stocked refuses front, ?_⟩
          simp
      | cons frame rest =>
          apply (stocked.service_handles named handler numbered narrow refuses front).mono
          intro answer kept
          obtain ⟨frameClass, found, -⟩ := kept
          simp [found, refuses]
  · apply (stocked.run_until_idle_runs named handler numbered narrow).mono
    intro answer kept
    obtain ⟨handled, counted, runs⟩ := kept
    rw [counted]
    exact ⟨handled, rfl, runs, runs.idle_iff⟩
  · intro frames fits
    have ready := stocked.queues fits
    have injected : SimulatedLink.injectAll link frames = .ok (queued frames link) := by
      apply inject_all_queues
      rw [stocked.ring.good.settled.divided]
      exact fits
    unfold SimulatedLink.exchange
    apply Returns.bind_ok injected
    apply (ready.run_until_idle_runs named handler numbered narrow).bind
    intro answer kept
    obtain ⟨handled, -, runs⟩ := kept
    have complete := runs.complete_iff
    rw [waiting_queued] at complete
    exact Returns.ok ⟨answer.2.1, handled, runs, rfl, rfl, complete⟩

/-- One frame waits behind a report that names a slot, and another is given to the link. -/
theorem report_of_a_slot_hides_nothing :
    let geometry : Mac.SlotGeometry := ⟨1532, 2, 1, by decide, by decide, by decide⟩
    let frame := Bytes.zeros Ethernet.minimumLength
    let history : List (Deed Simulation.Consumer) :=
      [.register 7642 (.listener { manner := .echo }), .start, .outside (.arrival frame),
        .report 1 60]
    ∃ link, Lived {} geometry history link ∧
      (Returns (SimulatedLink.runUntilIdle link) fun answer =>
        answer.1 < maximumServiceSteps → answer.2.1.ring.device.pendingRx = 0) ∧
      Returns (SimulatedLink.exchange [frame] link) fun answer =>
        ∃ last handled, answer.2.1 = (SimulatedLink.collect last).2 ∧
          HandledAll handled (queued [frame] link) last ∧
          (handled.length < maximumServiceSteps → [frame, frame, frame] <+: handled) := by
  intro geometry frame history
  let created : Link SimulatedMac Simulation.Consumer :=
    { config := {}, ring := {
        device := .ofGeometry geometry, geometry, softwareFrameCheck := false } }
  have seen : (history.foldlM Deed.perform created).toOption.map (fun link =>
      (decide link.ring.device.Refuses, link.ring.device.waiting)) =
      some (false, [frame, frame]) := by decide +kernel
  obtain ⟨link, performed, same⟩ := Returns.of_seen seen
  simp only [Prod.mk.injEq, decide_eq_false_iff_not] at same
  obtain ⟨accepted, waits⟩ := same
  have lived : Lived {} geometry history link := ⟨created, rfl, performed⟩
  have fair : ∀ deed ∈ history, deed.Fair geometry Echoes := by
    simp [history, Deed.Fair, Happening.Fits, Echoes]
  obtain ⟨-, run, exchange⟩ := drained_unless_report_refused {} geometry (by decide) (by decide)
    (by decide) (echo_safe _ _) fair lived
  refine ⟨link, lived, run.mono ?_, (exchange [frame] (by decide)).mono ?_⟩
  · intro answer kept
    obtain ⟨handled, -, -, idle⟩ := kept
    exact idle.mpr fun both => accepted both.1
  · intro answer kept
    obtain ⟨last, handled, runs, -, collected, complete⟩ := kept
    rw [waits] at complete
    cases runs with
    | dropped refuses => exact (accepted refuses).elim
    | drained accepted drained =>
        exact ⟨last, handled, collected, drained.each, complete.mpr fun both => accepted both.1⟩

/-- A report of a slot that does not exist is dropped, and the frame behind it goes on waiting. -/
theorem report_of_no_slot_hides_frame :
    let geometry : Mac.SlotGeometry := ⟨1532, 2, 1, by decide, by decide, by decide⟩
    let frame := Bytes.zeros Ethernet.minimumLength
    let history : List (Deed Simulation.Consumer) :=
      [.start, .report 7 60, .outside (.arrival frame)]
    ∃ link, Lived {} geometry history link ∧
      (Returns link.service fun answer =>
        answer.1 = none ∧ answer.2.1.ring.device.wire = [frame]) ∧
      Returns (SimulatedLink.runUntilIdle link) fun answer =>
        answer.1 < maximumServiceSteps ∧ answer.2.1.ring.device.pendingRx = 1 := by
  intro geometry frame history
  let created : Link SimulatedMac Simulation.Consumer :=
    { config := {}, ring := {
        device := .ofGeometry geometry, geometry, softwareFrameCheck := false } }
  have seen : (history.foldlM Deed.perform created).toOption.map (fun link =>
      (link.service.toOption.map fun answer => (answer.1, answer.2.1.ring.device.wire),
        (SimulatedLink.runUntilIdle link).toOption.map fun answer =>
          (answer.1, answer.2.1.ring.device.pendingRx))) =
      some (some (none, [frame]), some (0, 1)) := by decide +kernel
  obtain ⟨link, performed, same⟩ := Returns.of_seen seen
  simp only [Prod.mk.injEq] at same
  obtain ⟨serviced, ran⟩ := same
  refine ⟨link, ⟨created, rfl, performed⟩, (Returns.of_seen serviced).mono ?_,
    (Returns.of_seen ran).mono ?_⟩
  · intro answer same
    exact Prod.mk.inj same
  · intro answer same
    obtain ⟨none, one⟩ := Prod.mk.inj same
    exact ⟨by rw [none]; decide, one⟩

end InstrumentLink.Link
