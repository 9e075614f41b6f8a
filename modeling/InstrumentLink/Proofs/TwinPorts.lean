import InstrumentLink.Ipv4.Dispatch
import InstrumentLink.Proofs.BuiltFrames
import InstrumentLink.Proofs.EndpointSafety

/-!
Two ports side by side.

The same things are done on two ports that stand beside each other in some sense: what they sent so
far is the same, or the same up to framing. The slots of the two ports hold what they like. Frames
are built over these octets, so the two ports stay beside each other and give the same answers, as
long as a frame that fits on one of them fits on the other, too.
-/

set_option autoImplicit false

namespace InstrumentLink

/-- Two computations come to related answers, or stop with the same fault. -/
def Alike {First Second : Type} (related : First → Second → Prop) :
    Except Fault First → Except Fault Second → Prop
  | .ok first, .ok second => related first second
  | .error first, .error second => first = second
  | _, _ => False

namespace Alike

variable {First Second Third Fourth : Type} {related : First → Second → Prop}

theorem ok {first : First} {second : Second} (holds : related first second) :
    Alike related (.ok first) (.ok second) :=
  holds

theorem outcomes {first : Except Fault First} {second : Except Fault Second}
    (alike : Alike related first second) :
    (∃ fault, first = .error fault ∧ second = .error fault) ∨
      ∃ answer otherAnswer, first = .ok answer ∧ second = .ok otherAnswer ∧
        related answer otherAnswer := by
  cases first with
  | error fault =>
      cases second with
      | error other => exact .inl ⟨fault, rfl, congrArg _ (Eq.symm alike)⟩
      | ok answer => exact alike.elim
  | ok answer =>
      cases second with
      | error fault => exact alike.elim
      | ok otherAnswer => exact .inr ⟨answer, otherAnswer, rfl, rfl, alike⟩

theorem mono {weaker : First → Second → Prop} {first : Except Fault First}
    {second : Except Fault Second} (alike : Alike related first second)
    (holds : ∀ answer other, related answer other → weaker answer other) :
    Alike weaker first second := by
  rcases alike.outcomes with ⟨fault, rfl, rfl⟩ | ⟨answer, other, rfl, rfl, same⟩
  · exact rfl
  · exact holds answer other same

theorem bind {later : Third → Fourth → Prop} {first : Except Fault First}
    {second : Except Fault Second} {afterFirst : First → Except Fault Third}
    {afterSecond : Second → Except Fault Fourth} (alike : Alike related first second)
    (rest : ∀ answer other, related answer other →
      Alike later (afterFirst answer) (afterSecond other)) :
    Alike later (first >>= afterFirst) (second >>= afterSecond) := by
  rcases alike.outcomes with ⟨fault, rfl, rfl⟩ | ⟨answer, other, rfl, rfl, same⟩
  · exact rfl
  · exact rest answer other same

theorem self (computation : Except Fault First) :
    Alike (fun one another => one = another ∧ computation = .ok one) computation computation := by
  cases computation with
  | error fault => exact rfl
  | ok answer => exact ⟨rfl, rfl⟩

theorem bind_same {later : Third → Fourth → Prop} (computation : Except Fault First)
    {afterFirst : First → Except Fault Third} {afterSecond : First → Except Fault Fourth}
    (rest : ∀ answer, computation = .ok answer → Alike later (afterFirst answer)
      (afterSecond answer)) :
    Alike later (computation >>= afterFirst) (computation >>= afterSecond) := by
  apply (self computation).bind
  rintro answer _ ⟨rfl, same⟩
  exact rest answer same

theorem with_yields {first : Except Fault First} {second : Except Fault Second}
    {good : First → Prop} {other : Second → Prop} (alike : Alike related first second)
    (yields : Yields first good) (otherYields : Yields second other) :
    Alike (fun answer otherAnswer => related answer otherAnswer ∧ good answer ∧ other otherAnswer)
      first second := by
  rcases alike.outcomes with ⟨fault, rfl, rfl⟩ | ⟨answer, otherAnswer, rfl, rfl, same⟩
  · exact rfl
  · exact ⟨same, yields, otherYields⟩

theorem of_returns {first : Except Fault First} {second : Except Fault Second}
    {good : First → Prop} {other : Second → Prop} (returns : Returns first good)
    (otherReturns : Returns second other)
    (holds : ∀ answer otherAnswer, good answer → other otherAnswer → related answer otherAnswer) :
    Alike related first second := by
  obtain ⟨answer, rfl, is_good⟩ := returns
  obtain ⟨otherAnswer, rfl, is_other⟩ := otherReturns
  exact holds answer otherAnswer is_good is_other

end Alike

def SameSince {Item : Type} (start otherStart now otherNow : List Item) : Prop :=
  ∃ items, now = start ++ items ∧ otherNow = otherStart ++ items

namespace SameSince

variable {Item : Type} {start otherStart now otherNow later otherLater : List Item}

theorem nothing (start otherStart : List Item) : SameSince start otherStart start otherStart :=
  ⟨[], (List.append_nil _).symm, (List.append_nil _).symm⟩

theorem append (since : SameSince start otherStart now otherNow) (items : List Item) :
    SameSince start otherStart (now ++ items) (otherNow ++ items) := by
  obtain ⟨before, rfl, rfl⟩ := since
  exact ⟨before ++ items, List.append_assoc .., List.append_assoc ..⟩

theorem drop_length (since : SameSince start otherStart now otherNow)
    (again : SameSince start otherStart later otherLater) :
    later.drop now.length = otherLater.drop otherNow.length := by
  obtain ⟨before, rfl, rfl⟩ := since
  obtain ⟨items, rfl, rfl⟩ := again
  simp only [List.length_append, List.drop_length_add_append]

end SameSince

variable {first second : Interface}

theorem Arp.frame_of_station (station : first.station = second.station) (operation : Operation)
    (destination : MacAddress) (target : Station) :
    frame first operation destination target = frame second operation destination target := by
  obtain ⟨mac, ip, offset⟩ := first
  obtain ⟨otherMac, otherIp, otherOffset⟩ := second
  cases station
  rfl

theorem Icmp.Reply.frame_of_station (station : first.station = second.station) (reply : Reply) :
    reply.frame first = reply.frame second := by
  obtain ⟨mac, ip, offset⟩ := first
  obtain ⟨otherMac, otherIp, otherOffset⟩ := second
  cases station
  rfl

theorem Udp.frame_of_station (station : first.station = second.station) (peer : Arp.Station)
    (sourcePort destinationPort : UInt16) (payload : Bytes) :
    frame first peer sourcePort destinationPort payload =
      frame second peer sourcePort destinationPort payload := by
  obtain ⟨mac, ip, offset⟩ := first
  obtain ⟨otherMac, otherIp, otherOffset⟩ := second
  cases station
  rfl

theorem Interface.ip_of_station (station : first.station = second.station) :
    first.ip = second.ip :=
  congrArg Arp.Station.ip station

variable {Port Other : Type} [TransmitPort Port] [TransmitPort Other]
  {Beside : Port → Other → Prop}

/-- Two ports for the frames of one station that stay beside each other when the same frame is sent
from both, and when the same octets are put into both payload areas. -/
structure TwinPorts (first second : Interface) (Beside : Port → Other → Prop) : Prop where
  station : first.station = second.station
  placed : first.Placed
  otherPlaced : second.Placed
  contents : ∀ port other, Beside port other →
    (∃ slot, TransmitPort.contents port = .ok slot ∧ Ethernet.maximumLength ≤ slot.length) ∧
    ∃ slot, TransmitPort.contents other = .ok slot ∧ Ethernet.maximumLength ≤ slot.length
  sends : ∀ frame port other, Beside port other →
    first.frameOffset + frame.length ≤ first.frameEnd →
    second.frameOffset + frame.length ≤ second.frameEnd →
      Alike (fun answer otherAnswer => answer.1 = otherAnswer.1 ∧
        Beside answer.2.1 otherAnswer.2.1)
        (first.sendFrame frame port) (second.sendFrame frame other)
  stores : ∀ patch port other, Beside port other → patch.length ≤ Udp.payloadRoom first →
    patch.length ≤ Udp.payloadRoom second →
      Alike (fun stored otherStored => Beside stored otherStored ∧
        Udp.handedIn first patch.length stored = some patch ∧
        Udp.handedIn second patch.length otherStored = some patch)
        (Udp.storePayload first 0 patch port) (Udp.storePayload second 0 patch other)

/-- Two faithful ports are twins if neither refuses a frame and a frame more on both leaves what
they sent paired. -/
theorem TwinPorts.of_faithful {Sound : Port → Prop} {OtherSound : Other → Prop}
    {view : Port → PortView} {otherView : Other → PortView}
    {paired : List Bytes → List Bytes → Prop} (station : first.station = second.station)
    (placed : first.Placed) (otherPlaced : second.Placed)
    (faithful : FramingPort first Sound view)
    (otherFaithful : FramingPort second OtherSound otherView)
    (prompt : PromptPort Sound first) (otherPrompt : PromptPort OtherSound second)
    (pairs : ∀ sent otherSent frame, paired sent otherSent →
      paired (sent ++ [first.onWire frame]) (otherSent ++ [second.onWire frame])) :
    TwinPorts first second fun port other => Sound port ∧ OtherSound other ∧
      paired (view port).sent (otherView other).sent where
  station := station
  placed := placed
  otherPlaced := otherPlaced
  contents := fun port other ⟨sound, otherSound, _⟩ =>
    ⟨⟨_, faithful.contents port sound, faithful.room port sound⟩,
      ⟨_, otherFaithful.contents other otherSound, otherFaithful.room other otherSound⟩⟩
  sends := fun frame port other ⟨sound, otherSound, pair⟩ fits otherFits => by
    apply Alike.of_returns
      (Interface.send_frame_sends faithful placed frame port sound fits)
      (Interface.send_frame_sends otherFaithful otherPlaced frame other otherSound otherFits)
    rintro answer otherAnswer ⟨sound, sent, yes⟩ ⟨otherSound, otherSent, otherYes⟩
    have yes := yes prompt
    have otherYes := otherYes otherPrompt
    rw [if_pos yes, Interface.finish_laid] at sent
    rw [if_pos otherYes, Interface.finish_laid] at otherSent
    refine ⟨yes.trans otherYes.symm, sound, otherSound, ?_⟩
    rw [sent, otherSent]
    exact pairs _ _ frame pair
  stores := fun patch port other ⟨sound, otherSound, pair⟩ fits otherFits => by
    apply Alike.of_returns
      (Udp.handed_in_stored faithful placed patch port sound fits)
      (Udp.handed_in_stored otherFaithful otherPlaced patch other otherSound otherFits)
    rintro stored otherStored ⟨sound, sent, handed⟩ ⟨otherSound, otherSent, otherHanded⟩
    refine ⟨⟨sound, otherSound, ?_⟩, handed, otherHanded⟩
    rw [sent, otherSent]
    exact pair

theorem TwinPorts.along {Along : Port → Other → Prop} (twins : TwinPorts first second Beside)
    (sends : ∀ frame port other answer otherAnswer, Beside port other → Along port other →
      first.sendFrame frame port = .ok answer → second.sendFrame frame other = .ok otherAnswer →
      answer.1 = otherAnswer.1 → Beside answer.2.1 otherAnswer.2.1 →
        Along answer.2.1 otherAnswer.2.1)
    (stores : ∀ patch port other stored otherStored, Along port other →
      Udp.storePayload first 0 patch port = .ok stored →
      Udp.storePayload second 0 patch other = .ok otherStored → Along stored otherStored) :
    TwinPorts first second fun port other => Beside port other ∧ Along port other where
  station := twins.station
  placed := twins.placed
  otherPlaced := twins.otherPlaced
  contents := fun port other beside => twins.contents port other beside.1
  sends := fun frame port other ⟨beside, along⟩ fits otherFits => by
    apply ((twins.sends frame port other beside fits otherFits).with_yields (Yields.self _)
      (Yields.self _)).mono
    rintro answer otherAnswer ⟨⟨yes, after⟩, sent, otherSent⟩
    exact ⟨yes, after,
      sends frame port other answer otherAnswer beside along sent otherSent yes after⟩
  stores := fun patch port other ⟨beside, along⟩ fits otherFits => by
    apply ((twins.stores patch port other beside fits otherFits).with_yields (Yields.self _)
      (Yields.self _)).mono
    rintro stored otherStored ⟨⟨after, handed⟩, kept, otherKept⟩
    exact ⟨⟨after, stores patch port other stored otherStored along kept otherKept⟩, handed⟩

theorem TwinPorts.some_of {Way : Type} [Inhabited Way] {Ways : Way → Port → Other → Prop}
    {Possible : Way → Prop} (twins : ∀ way, TwinPorts first second (Ways way)) :
    TwinPorts first second fun port other => ∃ way, Possible way ∧ Ways way port other where
  station := (twins default).station
  placed := (twins default).placed
  otherPlaced := (twins default).otherPlaced
  contents := fun port other ⟨way, _, beside⟩ => (twins way).contents port other beside
  sends := fun frame port other ⟨way, possible, beside⟩ fits otherFits =>
    ((twins way).sends frame port other beside fits otherFits).mono fun _ _ same =>
      ⟨same.1, way, possible, same.2⟩
  stores := fun patch port other ⟨way, possible, beside⟩ fits otherFits =>
    ((twins way).stores patch port other beside fits otherFits).mono fun _ _ same =>
      ⟨⟨way, possible, same.1⟩, same.2⟩

def BothBeside {Result OtherResult : Type} (related : Result → OtherResult → Prop)
    (Beside : Port → Other → Prop) (answer : Result × Port × Log)
    (otherAnswer : OtherResult × Other × Log) : Prop :=
  related answer.1 otherAnswer.1 ∧ Beside answer.2.1 otherAnswer.2.1

abbrev SameBeside {Result : Type} (Beside : Port → Other → Prop) (answer : Result × Port × Log)
    (otherAnswer : Result × Other × Log) : Prop :=
  BothBeside Eq Beside answer otherAnswer

namespace TwinPorts

variable (twins : TwinPorts first second Beside) {port : Port} {other : Other}

include twins

theorem arp_emit (beside : Beside port other) (operation : Arp.Operation)
    (destination : MacAddress) (target : Arp.Station) :
    Alike (SameBeside Beside) (Arp.emit first operation destination target port)
      (Arp.emit second operation destination target other) := by
  obtain ⟨⟨slot, contents, room⟩, otherSlot, otherContents, otherRoom⟩ :=
    twins.contents port other beside
  have shortest := twins.placed.minimum_length_le
  have longest := first.frame_end_le
  have otherShortest := twins.otherPlaced.minimum_length_le
  have otherLongest := second.frame_end_le
  rw [Arp.emit_eq first _ _ _ contents (by omega),
    Arp.emit_eq second _ _ _ otherContents (by omega),
    Arp.frame_of_station twins.station operation destination target]
  apply twins.sends _ port other beside
  · rw [← Arp.frame_of_station twins.station]
    exact Arp.frame_fits twins.placed operation destination target
  · exact Arp.frame_fits twins.otherPlaced operation destination target

theorem arp_handle_frame (beside : Beside port other) (cache : Arp.PeerCache) (frame : Bytes) :
    Alike (fun answer otherAnswer => answer.1 = otherAnswer.1 ∧
        SameBeside Beside answer.2 otherAnswer.2)
      (Arp.handleFrame first cache frame port) (Arp.handleFrame second cache frame other) := by
  unfold Arp.handleFrame
  split
  · exact Alike.ok ⟨rfl, rfl, beside⟩
  · apply Alike.bind_same
    intro body _
    split
    · exact Alike.ok ⟨rfl, rfl, beside⟩
    · apply Alike.bind_same
      intro code _
      apply Alike.bind_same
      intro mac _
      apply Alike.bind_same
      intro ip _
      apply Alike.bind_same
      intro target _
      rw [Interface.ip_of_station twins.station]
      split
      · split
        · exact Alike.ok ⟨rfl, rfl, beside⟩
        · exact Alike.ok ⟨rfl, rfl, beside⟩
      · split
        · apply (twins.arp_emit beside .reply mac ⟨mac, ip⟩).bind
          intro answer otherAnswer same
          exact Alike.ok ⟨rfl, rfl, same.2⟩
        · exact Alike.ok ⟨rfl, rfl, beside⟩

end TwinPorts

/-- A frame carries an ICMP message that calls for a reply, in a packet that states a total
length. -/
def Icmp.Requests (frame : Bytes) (total : UInt16) : Prop :=
  ∃ packet message kind, Ethernet.payload frame = .ok packet ∧ Ipv4.check packet = .ok () ∧
    Ipv4.protocol packet = .ok .icmp ∧ Ipv4.totalLength packet = .ok total ∧
    Ipv4.payload packet = .ok message ∧ check message = .ok () ∧ messageType message = .ok kind ∧
    (kind = echoRequest ∨ kind = timestampRequest)

/-- The reply to a request of a total length fits a frame. -/
def Icmp.ReplyFits (interface : Interface) (total : UInt16) : Prop :=
  interface.frameOffset + frameHeaders + (total.toNat - (Ipv4.headerLength + headerLength)) ≤
    interface.frameEnd

theorem Icmp.reply_to_alike {frame packet : Bytes} (carried : Ethernet.payload frame = .ok packet)
    (header : Ipv4.check packet = .ok ()) (icmp : Ipv4.protocol packet = .ok .icmp)
    (agree : ∀ total, Requests frame total → (ReplyFits first total ↔ ReplyFits second total)) :
    Alike (fun answer otherAnswer => answer.1 = otherAnswer.1 ∧ ∀ reply ∈ answer.1,
        first.frameOffset + (reply.frame first).length ≤ first.frameEnd ∧
        second.frameOffset + (reply.frame second).length ≤ second.frameEnd)
      (replyTo first frame packet) (replyTo second frame packet) := by
  have nothing : ∀ reply ∈ (none : Option Reply),
      first.frameOffset + (reply.frame first).length ≤ first.frameEnd ∧
      second.frameOffset + (reply.frame second).length ≤ second.frameEnd := by simp
  unfold replyTo
  apply Alike.bind_same
  intro message inside
  split
  · exact Alike.ok ⟨rfl, nothing⟩
  · next checked =>
      apply Alike.bind_same
      intro kind typed
      split
      · exact Alike.ok ⟨rfl, nothing⟩
      · next calls =>
          apply Alike.bind_same
          intro total stated
          apply Alike.bind_same
          intro content _
          have request : Requests frame total := by
            refine ⟨packet, message, kind, carried, header, icmp, stated, inside, checked, typed,
              ?_⟩
            exact Decidable.byContradiction fun neither => calls (not_or.mp neither)
          have fits := agree total request
          split
          · exact Alike.ok ⟨rfl, nothing⟩
          · by_cases room : ReplyFits first total
            · have otherRoom := fits.mp room
              unfold ReplyFits at room otherRoom
              rw [if_neg (Nat.not_lt.mpr room), if_neg (Nat.not_lt.mpr otherRoom)]
              apply Alike.bind_same
              intro mac _
              apply Alike.bind_same
              intro ip _
              apply Alike.bind_same
              intro identifier _
              apply Alike.bind_same
              intro sequence _
              refine Alike.ok ⟨rfl, ?_⟩
              rintro reply ⟨⟩
              have short := List.length_take_le
                (total.toNat - (Ipv4.headerLength + headerLength)) content
              rw [Reply.length_frame, Reply.length_frame]
              dsimp only
              omega
            · have otherRoom := mt fits.mpr room
              unfold ReplyFits at room otherRoom
              rw [if_pos (Nat.not_le.mp room), if_pos (Nat.not_le.mp otherRoom)]
              exact Alike.ok ⟨rfl, nothing⟩

namespace TwinPorts

variable (twins : TwinPorts first second Beside) {port : Port} {other : Other}

include twins

theorem answer_icmp (beside : Beside port other) {frame packet : Bytes}
    (carried : Ethernet.payload frame = .ok packet) (header : Ipv4.check packet = .ok ())
    (icmp : Ipv4.protocol packet = .ok .icmp)
    (agree : ∀ total, Icmp.Requests frame total →
      (Icmp.ReplyFits first total ↔ Icmp.ReplyFits second total)) :
    Alike (SameBeside Beside) (Ipv4.answerIcmp first frame packet port)
      (Ipv4.answerIcmp second frame packet other) := by
  unfold Ipv4.answerIcmp
  apply (Icmp.reply_to_alike carried header icmp agree).bind
  rintro ⟨reply, log⟩ ⟨otherReply, otherLog⟩ ⟨same, fits⟩
  cases same
  cases reply with
  | none => exact Alike.ok ⟨rfl, beside⟩
  | some reply =>
      obtain ⟨short, otherShort⟩ := fits reply rfl
      obtain ⟨⟨slot, contents, room⟩, otherSlot, otherContents, otherRoom⟩ :=
        twins.contents port other beside
      have longest := first.frame_end_le
      have otherLongest := second.frame_end_le
      dsimp only
      rw [reply.emit_eq first contents (by omega), reply.emit_eq second otherContents (by omega)]
      rw [← reply.frame_of_station twins.station] at otherShort ⊢
      apply (twins.sends _ port other beside short otherShort).bind
      intro answer otherAnswer same
      exact Alike.ok ⟨rfl, same.2⟩

theorem send (beside : Beside port other) (cache : Arp.PeerCache)
    (sourcePort destinationPort : UInt16) (length : Nat)
    (fits : length ≤ Udp.payloadRoom first ↔ length ≤ Udp.payloadRoom second)
    (handed : length ≤ Udp.payloadRoom first →
      Udp.handedIn first length port = Udp.handedIn second length other) :
    Alike (SameBeside Beside)
      (Udp.Binding.send ⟨first, cache⟩ sourcePort destinationPort length port)
      (Udp.Binding.send ⟨second, cache⟩ sourcePort destinationPort length other) := by
  obtain ⟨⟨slot, contents, room⟩, otherSlot, otherContents, otherRoom⟩ :=
    twins.contents port other beside
  have longest := first.frame_end_le
  have otherLongest := second.frame_end_le
  have order := Udp.payload_start_le twins.placed
  have otherOrder := Udp.payload_start_le twins.otherPlaced
  unfold Udp.Binding.send
  dsimp only
  by_cases resolved : cache.isResolved
  · rw [if_pos resolved, if_pos resolved]
    by_cases short : length ≤ Udp.payloadRoom first
    · have otherShort := fits.mp short
      have payload := handed short
      rw [Udp.handed_in_eq twins.placed contents (by omega) short,
        Udp.handed_in_eq twins.otherPlaced otherContents (by omega) otherShort,
        Option.some.injEq] at payload
      unfold Udp.payloadRoom at short otherShort
      rw [if_pos (by omega), if_pos (by omega), Udp.emit_eq _ _ _ _ contents (by omega),
        Udp.emit_eq _ _ _ _ otherContents (by omega), ← payload,
        ← Udp.frame_of_station twins.station]
      have narrow := List.length_take_le length (slot.drop (Udp.payloadStart first))
      apply twins.sends _ port other beside
      · rw [Udp.length_frame]
        unfold Udp.payloadStart at *
        omega
      · rw [Udp.length_frame]
        unfold Udp.payloadStart at *
        omega
    · have otherLong := mt fits.mpr short
      unfold Udp.payloadRoom at short otherLong
      rw [if_neg (by omega), if_neg (by omega)]
      exact Alike.ok ⟨rfl, beside⟩
  · rw [if_neg resolved, if_neg resolved]
    exact Alike.ok ⟨rfl, beside⟩

theorem send_to (beside : Beside port other) (cache : Arp.PeerCache) (ip : Ipv4Address)
    (sourcePort destinationPort : UInt16) (length : Nat)
    (fits : length ≤ Udp.payloadRoom first ↔ length ≤ Udp.payloadRoom second)
    (handed : length ≤ Udp.payloadRoom first →
      Udp.handedIn first length port = Udp.handedIn second length other) :
    Alike (SameBeside Beside)
      (Udp.Binding.sendTo ⟨first, cache⟩ ip sourcePort destinationPort length port)
      (Udp.Binding.sendTo ⟨second, cache⟩ ip sourcePort destinationPort length other) := by
  unfold Udp.Binding.sendTo
  split
  · exact twins.send beside cache sourcePort destinationPort length fits handed
  · exact Alike.ok ⟨rfl, beside⟩

end TwinPorts

namespace Udp

namespace Reaction

variable {First Second OtherFirst OtherSecond : Type} {binding otherBinding : Binding}

theorem run_report_all (log : Log) (port : Port) :
    (reportAll log).run binding port = .ok ((), port, log) := by
  induction log with
  | nil => rfl
  | cons event log induction => exact bind_known induction rfl

variable {port : Port} {other : Other} {related : First → OtherFirst → Prop}
  {later : Second → OtherSecond → Prop}

theorem and_then_alike {reaction : Reaction First} {otherReaction : Reaction OtherFirst}
    {continuation : First → Reaction Second} {otherContinuation : OtherFirst → Reaction OtherSecond}
    (alike : Alike (BothBeside related Beside) (reaction.run binding port)
      (otherReaction.run otherBinding other))
    (rest : ∀ result otherResult (port : Port) (other : Other), related result otherResult →
      Beside port other → Alike (BothBeside later Beside) ((continuation result).run binding port)
        ((otherContinuation otherResult).run otherBinding other)) :
    Alike (BothBeside later Beside) ((reaction.andThen continuation).run binding port)
      ((otherReaction.andThen otherContinuation).run otherBinding other) := by
  rw [run_and_then, run_and_then]
  apply alike.bind
  rintro ⟨result, after, log⟩ ⟨otherResult, otherAfter, otherLog⟩ ⟨holds, beside⟩
  exact (rest result otherResult after otherAfter holds beside).bind fun _ _ both => Alike.ok both

theorem report_all_alike (log otherLog : Log) (beside : Beside port other)
    {continuation : Unit → Reaction First} {otherContinuation : Unit → Reaction OtherFirst}
    (rest : ∀ (port : Port) (other : Other), Beside port other →
      Alike (BothBeside related Beside) ((continuation ()).run binding port)
        ((otherContinuation ()).run otherBinding other)) :
    Alike (BothBeside related Beside) ((reportAll log >>= continuation).run binding port)
      ((reportAll otherLog >>= otherContinuation).run otherBinding other) := by
  have reported : Alike (SameBeside Beside) ((reportAll log).run binding port)
      ((reportAll otherLog).run otherBinding other) := by
    rw [run_report_all, run_report_all]
    exact Alike.ok ⟨rfl, beside⟩
  exact and_then_alike reported fun _ _ port other _ beside => rest port other beside

theorem of_except_alike {Result : Type} (computation : Except Fault Result)
    {continuation : Result → Reaction First} {otherContinuation : Result → Reaction OtherFirst}
    (rest : ∀ result, computation = .ok result →
      Alike (BothBeside related Beside) ((continuation result).run binding port)
        ((otherContinuation result).run otherBinding other)) :
    Alike (BothBeside related Beside) ((ofExcept computation >>= continuation).run binding port)
      ((ofExcept computation >>= otherContinuation).run otherBinding other) := by
  cases computation with
  | error fault => exact rfl
  | ok result => exact rest result rfl

end Reaction

variable {Consumer : Type}

/-- Consumers that are akin do the same on both ports, whatever is in the slots, and stay akin. -/
def TwinReactions [Handler Consumer] (Akin : Consumer → Consumer → Prop)
    (first second : Interface) (Beside : Port → Other → Prop) : Prop :=
  ∀ (cache : Arp.PeerCache) (datagram : Datagram) (one another : Consumer) (port : Port)
    (other : Other), Akin one another → Beside port other →
      Alike (BothBeside Akin Beside) ((Handler.onDatagram datagram one).run ⟨first, cache⟩ port)
        ((Handler.onDatagram datagram another).run ⟨second, cache⟩ other)

/-- Nobody is registered on either side, or akin consumers are for the same port. -/
abbrev AkinRegistrations (Akin : Consumer → Consumer → Prop) :
    Option (Registration Consumer) → Option (Registration Consumer) → Prop :=
  Option.Rel fun one another => one.port = another.port ∧ Akin one.consumer another.consumer

theorem akin_registrations_eq {one another : Option (Registration Consumer)} :
    AkinRegistrations Eq one another ↔ one = another := by
  constructor
  · rintro (⟨⟨port, consumer⟩⟩ | _)
    · next one another =>
        obtain ⟨port, consumer⟩ := one
        obtain ⟨otherPort, otherConsumer⟩ := another
        cases port
        cases consumer
        rfl
    · rfl
  · rintro rfl
    cases one with
    | none => exact .none
    | some registered => exact .some ⟨rfl, rfl⟩

end Udp

namespace TwinPorts

variable (twins : TwinPorts first second Beside) {port : Port} {other : Other} {Consumer : Type}
  [Udp.Handler Consumer]

include twins

theorem deliver {Akin : Consumer → Consumer → Prop}
    (reacts : Udp.TwinReactions Akin first second Beside) (beside : Beside port other)
    (cache : Arp.PeerCache) {registration otherRegistration : Option (Udp.Registration Consumer)}
    (registered : Udp.AkinRegistrations Akin registration otherRegistration) (packet : Bytes) :
    Alike (fun answer otherAnswer => answer.1 = otherAnswer.1 ∧
        BothBeside (Udp.AkinRegistrations Akin) Beside answer.2 otherAnswer.2)
      (Ipv4.deliver ⟨first, cache⟩ registration packet port)
      (Ipv4.deliver ⟨second, cache⟩ otherRegistration packet other) := by
  unfold Ipv4.deliver
  cases registered with
  | none => exact Alike.ok ⟨rfl, .none, beside⟩
  | @some one another both =>
      obtain ⟨ports, consumers⟩ := both
      have datagrams : Ipv4.datagramFor first one.port packet =
          Ipv4.datagramFor second another.port packet := by
        simp only [Ipv4.datagramFor, Interface.ip_of_station twins.station, ports]
      dsimp only
      rw [datagrams]
      apply Alike.bind_same
      intro datagram _
      cases datagram with
      | none => exact Alike.ok ⟨rfl, .some ⟨ports, consumers⟩, beside⟩
      | some datagram =>
          apply (reacts cache datagram one.consumer another.consumer port other consumers
            beside).bind
          rintro ⟨consumer, after, log⟩ ⟨otherConsumer, otherAfter, otherLog⟩ ⟨akin, beside⟩
          exact Alike.ok ⟨rfl, .some ⟨ports, akin⟩, beside⟩

theorem handle_frame {Akin : Consumer → Consumer → Prop}
    (reacts : Udp.TwinReactions Akin first second Beside) (beside : Beside port other)
    (cache : Arp.PeerCache) {registration otherRegistration : Option (Udp.Registration Consumer)}
    (registered : Udp.AkinRegistrations Akin registration otherRegistration) (frame : Bytes)
    (agree : ∀ total, Icmp.Requests frame total →
      (Icmp.ReplyFits first total ↔ Icmp.ReplyFits second total)) :
    Alike (fun answer otherAnswer => answer.1 = otherAnswer.1 ∧
        BothBeside (Udp.AkinRegistrations Akin) Beside answer.2 otherAnswer.2)
      (Ipv4.handleFrame ⟨first, cache⟩ registration frame port)
      (Ipv4.handleFrame ⟨second, cache⟩ otherRegistration frame other) := by
  unfold Ipv4.handleFrame
  split
  · exact Alike.ok ⟨rfl, registered, beside⟩
  · apply Alike.bind_same
    intro packet carried
    split
    · exact Alike.ok ⟨rfl, registered, beside⟩
    · next header =>
        apply Alike.bind_same
        intro protocol stated
        cases protocol with
        | icmp =>
            apply (twins.answer_icmp beside carried header stated agree).bind
            rintro answer otherAnswer ⟨same, beside⟩
            exact Alike.ok ⟨same, registered, beside⟩
        | udp => exact twins.deliver reacts beside cache registered packet
        | tcp => exact Alike.ok ⟨rfl, registered, beside⟩
        | unknown code => exact Alike.ok ⟨rfl, registered, beside⟩

end TwinPorts

end InstrumentLink
