import InstrumentLink.Proofs.CarriedReplies

/-!
A session is never told the values of another read.

A session makes its accesses one after the other, and any of its reads may time out. Each record it
reads waits once, for as long as the network lets it. What the wait comes to is told by the first of
the datagrams that the device sent back for this very record, and by nothing else.
-/

set_option autoImplicit false

namespace InstrumentLink.Client

open Etherbone (readRequest readReply)

structure Wait (Net : Type) where
  net : Net
  answer : Option (Except Error (List UInt32))

namespace Dialogue

variable {First Second Net : Type} [Network Net]

def waits : Dialogue First → Net → List (Wait Net)
  | .done _, _ => []
  | .report _ next, net => next.waits net
  | .send datagram next, net => next.waits (Network.send datagram net)
  | .await examine next, net =>
      let (answer, count, _) := settle examine (Network.arriving net)
      ⟨net, answer⟩ :: (next answer).waits (Network.received count net)

/-- A dialogue comes to a result through waits. -/
structure Goes (dialogue : Dialogue First) (net : Net) (waits : List (Wait Net)) (result : First)
    (after : Net) : Prop where
  comes : dialogue.Comes net result after
  waited : dialogue.waits net = waits

theorem goes_run (dialogue : Dialogue First) (net : Net) :
    dialogue.Goes net (dialogue.waits net) (dialogue.run net).1 (dialogue.run net).2.1 :=
  ⟨⟨rfl, rfl⟩, rfl⟩

theorem Goes.and_then {dialogue : Dialogue First} {continuation : First → Dialogue Second}
    {net between after : Net} {earlier later : List (Wait Net)} {first : First} {second : Second}
    (starts : dialogue.Goes net earlier first between)
    (continues : (continuation first).Goes between later second after) :
    (dialogue >>= continuation).Goes net (earlier ++ later) second after := by
  refine ⟨starts.comes.and_then continues.comes, ?_⟩
  obtain ⟨comes, rfl⟩ := starts
  change (dialogue.andThen continuation).waits net = _
  induction dialogue generalizing net with
  | done result =>
      obtain ⟨rfl, rfl⟩ := comes
      exact continues.waited
  | report event next induction => exact induction comes
  | send datagram next induction => exact induction comes
  | await examine next induction => exact congrArg (_ :: ·) (induction _ comes)

theorem Goes.then_done {dialogue : Dialogue First} {continuation : First → Dialogue Second}
    {net after : Net} {waits : List (Wait Net)} {first : First} {second : Second}
    (goes : dialogue.Goes net waits first after) (last : continuation first = .done second) :
    (dialogue >>= continuation).Goes net waits second after := by
  have ends : (continuation first).Goes after [] second after := by
    rw [last]
    exact ⟨⟨rfl, rfl⟩, rfl⟩
  simpa only [List.append_nil] using goes.and_then ends

end Dialogue

variable {Device : Type} [Responder Device]

/-- How the wait of a record ends: with the values of the first reply that the device sent back for
this record, or with a timeout if there is none among the datagrams that arrive in time. -/
inductive Ends (tag : UInt32) (addresses : List UInt32) (wait : Wait (Courier Device)) :
    Except Error (List UInt32) → Prop where
  | answered {earlier : List Bytes} {before after : List Arrival} {values : List UInt32}
      (asked : wait.net.requests = earlier ++ [readRequest tag addresses])
      (arrived : wait.net.arrivals =
        before ++ .reply earlier.length (readReply 0x0f tag values) :: after)
      (first : ∀ arrival ∈ before, ¬arrival.RepliesTo earlier.length)
      (produced : (earlier.length, readReply 0x0f tag values) ∈ wait.net.carry.produced)
      (counted : values.length = addresses.length)
      (answer : wait.answer = some (.ok values)) :
      Ends tag addresses wait (.ok values)
  | silent {earlier : List Bytes}
      (asked : wait.net.requests = earlier ++ [readRequest tag addresses])
      (silent : ∀ arrival ∈ wait.net.arrivals, ¬arrival.RepliesTo earlier.length)
      (answer : wait.answer = none) :
      Ends tag addresses wait (.error (.timeout (addresses.headD 0)))

/-- How records are read, each under the return address behind the one before it: up to the first
that fails, and the values of all in order if none does. -/
inductive Reads : UInt32 → List (List UInt32) → List (Wait (Courier Device)) →
    Except Error (List UInt32) → Prop where
  | done (tag : UInt32) : Reads tag [] [] (.ok [])
  | failed {tag : UInt32} {record : List UInt32} {wait : Wait (Courier Device)} {error : Error}
      (ends : Ends tag record wait (.error error)) (records : List (List UInt32)) :
      Reads tag (record :: records) [wait] (.error error)
  | more {tag : UInt32} {record values : List UInt32} {records : List (List UInt32)}
      {wait : Wait (Courier Device)} {waits : List (Wait (Courier Device))}
      {outcome : Except Error (List UInt32)} (ends : Ends tag record wait (.ok values))
      (rest : Reads (tag + 4) records waits outcome) :
      Reads tag (record :: records) (wait :: waits)
        (outcome.map fun others => values ++ others)

namespace Session

variable {Sound : Device → Prop} {first : UInt32} {limit issued : Nat} {courier : Courier Device}
  {session : Session}

theorem read_record_goes (session : Session) {addresses : List UInt32}
    (some : addresses ≠ []) (few : addresses.length ≤ Etherbone.maximumWords)
    (courier : Courier Device) :
    let sent := Network.send (readRequest session.nextTag addresses) courier
    let settled := Dialogue.settle (examine session.nextTag addresses.length)
      (Network.arriving sent)
    (session.readRecord addresses).Goes courier [⟨sent, settled.1⟩]
      (settled.1.getD (.error (.timeout (addresses.headD 0))),
        { session with nextTag := session.nextTag + 4 })
      (Network.received settled.2.1 sent) := by
  rw [read_record_eq session some few]
  exact ⟨⟨rfl, rfl⟩, rfl⟩

theorem wait_ends (lawful : Lawful Sound) (orderly : courier.Orderly Sound first limit issued)
    (below : issued < limit) (fresh : limit ≤ 1073741824) {addresses : List UInt32}
    (some : addresses ≠ []) (few : addresses.length ≤ Etherbone.maximumWords) :
    let sent := Network.send (readRequest (tagAt first issued) addresses) courier
    let answer := (Dialogue.settle (examine (tagAt first issued) addresses.length)
      (Network.arriving sent)).1
    Ends (tagAt first issued) addresses ⟨sent, answer⟩
      (answer.getD (.error (.timeout (addresses.headD 0)))) := by
  intro sent answer
  have ignored (arrivals : List Arrival) (arrive : ∀ arrival ∈ arrivals, arrival ∈ sent.arrivals)
      (other : ∀ arrival ∈ arrivals, ¬arrival.RepliesTo courier.requests.length) :
      ∀ datagram ∈ arrivals.map Arrival.octets, ∃ event,
        examine (tagAt first issued) addresses.length (datagram.take datagramCapacity) =
          .ignored event := by
    intro datagram waits
    obtain ⟨arrival, member, rfl⟩ := List.mem_map.mp waits
    exact examine_ignores (orderly.elsewhere some few lawful below fresh (arrive arrival member)
      (other arrival member)) _
  cases found : sent.arrivals.find? fun arrival => arrival.RepliesTo courier.requests.length with
  | none =>
      have silent := List.find?_eq_none.mp found
      simp only [decide_eq_true_eq] at silent
      have passed := Dialogue.settle_append [] (ignored sent.arrivals (fun _ => id) silent)
      rw [List.append_nil] at passed
      have nothing : answer = none := passed
      rw [nothing]
      exact .silent rfl silent rfl
  | some arrival =>
      obtain ⟨own, before, after, arrived, foremost⟩ := List.find?_eq_some_iff_append.mp found
      simp only [decide_eq_true_eq] at own
      have arrives : arrival ∈ sent.arrivals := by
        rw [arrived]
        exact List.mem_append_right _ List.mem_cons_self
      cases arrival with
      | other datagram => exact own.elim
      | reply index octets =>
          cases own
          obtain ⟨values, words, counted, rfl⟩ := orderly.own_reply some few lawful arrives
          have passed := Dialogue.settle_append
            (readReply 0x0f (tagAt first issued) values :: after.map Arrival.octets)
            (ignored before (fun arrival member => arrived ▸ List.mem_append_left _ member)
              (by simpa using foremost))
          rw [← counted, settle_reply _ values (by simpa using words) (by rwa [counted])] at passed
          have told : answer = .some (.ok values) := by
            simp only [answer, Network.arriving, arrived, List.map_append, List.map_cons,
              ← counted]
            exact passed
          rw [told]
          exact .answered rfl arrived (by simpa using foremost)
            (((orderly.ask some few).carry lawful).replies _ _ arrives) counted rfl

/-- The state of a session after so many records. -/
structure Stands (Sound : Device → Prop) (first : UInt32) (limit issued : Nat) (session : Session)
    (courier : Courier Device) : Prop where
  orderly : courier.Orderly Sound first limit issued
  next : session.nextTag = tagAt first issued

theorem read_record_ends (lawful : Lawful Sound) (fresh : limit ≤ 1073741824)
    (stands : session.Stands Sound first limit issued courier) {record : List UInt32}
    (some : record ≠ []) (few : record.length ≤ Etherbone.maximumWords) :
    ∃ (wait : Wait (Courier Device)) (outcome : _) (next : Session) (after : Courier Device),
      (session.readRecord record).Goes courier [wait] (outcome, next) after ∧
        next.nextTag = session.nextTag + 4 ∧ next.Stands Sound first limit (issued + 1) after ∧
        (issued < limit → Ends session.nextTag record wait outcome) := by
  obtain ⟨orderly, tagged⟩ := stands
  refine ⟨_, _, _, _, session.read_record_goes some few courier, rfl, ⟨?_, ?_⟩, ?_⟩
  · rw [tagged]
    exact (orderly.ask some few).received lawful _
  · rw [tag_at_succ, tagged]
  · intro below
    rw [tagged]
    exact wait_ends lawful orderly below fresh some few

theorem read_records_go (lawful : Lawful Sound) (fresh : limit ≤ 1073741824)
    (list : List (List UInt32))
    (sendable : ∀ record ∈ list, record ≠ [] ∧ record.length ≤ Etherbone.maximumWords)
    (stands : session.Stands Sound first limit issued courier) :
    ∃ (waits : List (Wait (Courier Device))) (outcome : _) (last : Session)
      (after : Courier Device),
      (session.readRecords list).Goes courier waits (outcome, last) after ∧
        last.Stands Sound first limit (issued + waits.length) after ∧
        (issued + waits.length ≤ limit → Reads session.nextTag list waits outcome) := by
  induction list generalizing session courier issued with
  | nil =>
      exact ⟨[], .ok [], session, courier, Dialogue.goes_run _ _, stands, fun _ => .done _⟩
  | cons record list induction =>
      obtain ⟨⟨some, few⟩, sendable⟩ := List.forall_mem_cons.mp sendable
      obtain ⟨wait, outcome, next, between, goes, tag, standsNext, ends⟩ :=
        read_record_ends lawful fresh stands some few
      cases outcome with
      | error error =>
          refine ⟨[wait], .error error, next, between, ?_, standsNext, ?_⟩
          · exact goes.then_done rfl
          · intro below
            exact .failed (ends below) list
      | ok values =>
          obtain ⟨waits, outcome, last, after, rest, standsLast, reads⟩ :=
            induction sendable standsNext
          refine ⟨wait :: waits, outcome.map fun others => values ++ others, last, after,
            ?_, ?_, ?_⟩
          · exact goes.and_then (rest.then_done rfl)
          · rwa [List.length_cons, Nat.add_comm waits.length, ← Nat.add_assoc]
          · intro below
            rw [List.length_cons] at below
            rw [tag] at reads
            exact .more (ends (by omega)) (reads (by omega))

theorem write_records_go (list : List (List UInt32))
    (sendable : ∀ record ∈ list, record ≠ [] ∧ record.length ≤ Etherbone.maximumWords)
    (stands : session.Stands Sound first limit issued courier) (base : UInt32) (index : Nat) :
    ∃ after : Courier Device, (writeRecords base index list).Goes courier [] (.ok ()) after ∧
      session.Stands Sound first limit issued after := by
  induction list generalizing courier index with
  | nil => exact ⟨courier, Dialogue.goes_run _ _, stands⟩
  | cons record list induction =>
      obtain ⟨⟨some, few⟩, sendable⟩ := List.forall_mem_cons.mp sendable
      have counted : record.length ≠ 0 := by simpa using some
      obtain ⟨after, ⟨comes, waited⟩, standsLast⟩ := induction sendable
        ⟨stands.orderly.tell (base + UInt32.ofNat (index * maximumWords * 4)) counted few,
          stands.next⟩ (index + 1)
      refine ⟨after, ?_, standsLast⟩
      simp only [writeRecords, datagram_write _ counted few]
      exact ⟨comes, waited⟩

end Session

theorem records_sendable (words : List UInt32) :
    ∀ record ∈ records words, record ≠ [] ∧ record.length ≤ Etherbone.maximumWords := by
  induction words using records.induct with
  | case1 words none =>
      rw [records, if_pos none]
      exact List.forall_mem_nil _
  | case2 words some induction =>
      rw [records, if_neg some]
      refine List.forall_mem_cons.mpr ⟨⟨?_, record_few words⟩, induction⟩
      exact fun none => record_some some (List.length_eq_zero_iff.mpr none)

inductive Call where
  | read (address : UInt32)
  | readMany (addresses : List UInt32)
  | write (address value : UInt32)
  | writeBurst (base : UInt32) (values : List UInt32)
  deriving DecidableEq, Repr

namespace Call

def dialogue (session : Session) : Call → Dialogue (Except Error (List UInt32) × Session)
  | .read address => do
      let (answer, session) ← session.read address
      return (answer.map fun value => [value], session)
  | .readMany addresses => session.readMany addresses
  | .write address value => do
      let answer ← Session.write address value
      return (answer.map fun () => [], session)
  | .writeBurst base values => do
      let answer ← Session.writeBurst base values
      return (answer.map fun () => [], session)

def reads : Call → List (List UInt32)
  | .read address => [[address]]
  | .readMany addresses => records addresses
  | .write _ _ | .writeBurst _ _ => []

variable {Sound : Device → Prop} {first : UInt32} {limit issued : Nat} {courier : Courier Device}
  {session : Session}

theorem one_word {tag address : UInt32} {waits : List (Wait (Courier Device))}
    {values : List UInt32} (reads : Reads tag [[address]] waits (.ok values)) :
    ∃ value, values = [value] := by
  generalize told : Except.ok values = outcome at reads
  cases reads with
  | failed => cases told
  | more ends rest =>
      cases rest
      cases told
      cases ends with
      | answered _ _ _ _ counted _ => simpa using List.length_eq_one_iff.mp counted

theorem goes (lawful : Lawful Sound) (fresh : limit ≤ 1073741824)
    (stands : session.Stands Sound first limit issued courier) (call : Call) :
    ∃ (waits : List (Wait (Courier Device))) (outcome : _) (last : Session)
      (after : Courier Device),
      (call.dialogue session).Goes courier waits (outcome, last) after ∧
        last.Stands Sound first limit (issued + waits.length) after ∧
        (issued + waits.length ≤ limit → Reads session.nextTag call.reads waits outcome) := by
  cases call with
  | readMany addresses =>
      exact Session.read_records_go lawful fresh _ (records_sendable addresses) stands
  | read address =>
      have one : records [address] = [[address]] := by simp [records, maximumWords]
      obtain ⟨waits, outcome, last, after, goes, standsLast, reads⟩ :=
        Session.read_records_go lawful fresh _ (records_sendable [address]) stands
      rw [one] at reads
      cases outcome with
      | error error =>
          have told : (session.read address).Goes courier waits (.error error, last) after :=
            goes.then_done rfl
          exact ⟨waits, .error error, last, after, told.then_done rfl, standsLast, reads⟩
      | ok values =>
          cases values with
          | nil =>
              have told : (session.read address).Goes courier waits
                  (.error (.malformedReply .noValues), last) after := goes.then_done rfl
              refine ⟨waits, _, last, after, told.then_done rfl, standsLast, fun below => ?_⟩
              obtain ⟨value, none⟩ := one_word (reads below)
              cases none
          | cons value values =>
              have told : (session.read address).Goes courier waits (.ok value, last) after :=
                goes.then_done rfl
              refine ⟨waits, _, last, after, told.then_done rfl, standsLast, fun below => ?_⟩
              obtain ⟨word, single⟩ := one_word (reads below)
              cases single
              exact reads below
  | write address value =>
      obtain ⟨after, goes, standsLast⟩ :=
        Session.write_records_go _ (records_sendable [value]) stands address 0
      exact ⟨[], .ok [], session, after, goes.then_done rfl, standsLast, fun _ => .done _⟩
  | writeBurst base values =>
      obtain ⟨after, goes, standsLast⟩ :=
        Session.write_records_go _ (records_sendable values) stands base 0
      exact ⟨[], .ok [], session, after, goes.then_done rfl, standsLast, fun _ => .done _⟩

end Call

/-- A call of a session: the return address it starts from, the waits of its records, and its
result. -/
structure Exchange (Net : Type) where
  call : Call
  tag : UInt32
  waits : List (Wait Net)
  outcome : Except Error (List UInt32)

def converse {Net : Type} [Network Net] : List Call → Session → Net → List (Exchange Net)
  | [], _, _ => []
  | call :: calls, session, net =>
      let ((outcome, next), after, _) := (call.dialogue session).run net
      ⟨call, session.nextTag, (call.dialogue session).waits net, outcome⟩ ::
        converse calls next after

def recordsRead {Net : Type} (exchanges : List (Exchange Net)) : Nat :=
  (exchanges.flatMap Exchange.waits).length

theorem converse_reads {Sound : Device → Prop} (lawful : Lawful Sound) {first : UInt32}
    {limit issued : Nat} (fresh : limit ≤ 1073741824) (calls : List Call) {session : Session}
    {courier : Courier Device} (stands : session.Stands Sound first limit issued courier)
    (below : issued + recordsRead (converse calls session courier) ≤ limit) :
    ∀ exchange ∈ converse calls session courier,
      Reads exchange.tag exchange.call.reads exchange.waits exchange.outcome := by
  induction calls generalizing session courier issued with
  | nil => exact List.forall_mem_nil _
  | cons call calls induction =>
      obtain ⟨waits, outcome, last, after, ⟨⟨result, left⟩, waited⟩, standsLast, reads⟩ :=
        call.goes lawful fresh stands
      simp only [converse, result, left, waited, recordsRead, List.flatMap_cons,
        List.length_append] at below ⊢
      refine List.forall_mem_cons.mpr ⟨reads (by omega), induction standsLast ?_⟩
      rw [recordsRead]
      omega

/-- Every record that a session reads is answered by the first of the replies that the device sent
back for this very record, if one arrives in time, and times out otherwise, whatever else arrives:
late or repeated replies to other records, and anything that carries none of the return addresses
of the session. A return address is a multiple of four apart from the next, so that 1073741824
records are read before one comes again. -/
theorem replies_are_never_confused {Sound : Device → Prop} (lawful : Lawful Sound)
    (device : Device) (sound : Sound device) (plan : List (List Happening)) (session : Session)
    (calls : List Call) :
    let exchanges := converse calls session { device, plan }
    recordsRead exchanges < 1073741824 →
    (∀ happenings ∈ plan, ∀ happening ∈ happenings,
      happening.Foreign session.nextTag (recordsRead exchanges)) →
    ∀ exchange ∈ exchanges,
      Reads exchange.tag exchange.call.reads exchange.waits exchange.outcome := by
  intro exchanges few foreign
  have first : tagAt session.nextTag 0 = session.nextTag := by simp [tagAt]
  have stands : session.Stands Sound session.nextTag (recordsRead exchanges) 0
      { device, plan } := by
    refine ⟨⟨sound, ?_, rfl, ?_, ?_, ?_, foreign⟩, first.symm⟩
    all_goals simp
  exact converse_reads lawful (by omega) calls stands (by simp [exchanges])

/-- What an endpoint sends for a datagram goes back. -/
instance : Responder Channel where
  respond request channel :=
    let after := channel.deliver request
    (after.queue, { after with queue := [] })

theorem endpoint_lawful : Lawful fun channel : Channel => ∃ bus, channel.Settled bus := by
  rintro channel request ⟨bus, settled⟩ ⟨framed, words, widths⟩
  obtain ⟨after, settledAfter, delivered⟩ := settled.deliver_packet framed words widths
  simp only [Responder.respond, delivered]
  refine ⟨⟨_, settledAfter.placed, settledAfter.resolves, rfl, settledAfter.device⟩, ?_⟩
  intro reply member
  split at member
  · cases member
  · next reads =>
      cases List.mem_singleton.mp member
      have counted : (Etherbone.Endpoint.valuesRead (Etherbone.requestOf request) bus).length =
          (Etherbone.requestOf request).reads.length :=
        Etherbone.Endpoint.length_read_all _ _
      refine ⟨_, fun none => reads ?_, counted, rfl⟩
      rw [none] at counted
      exact List.length_eq_zero_iff.mp counted.symm

/-- A read that times out and is answered late, with the word as it was before a write. The next
read is not told that word, nor one that somebody else makes up. -/
theorem late_reply_is_passed_over :
    let binding : Udp.Binding := ⟨LinkConfig.interface {}, ⟨⟨10, 0, 11, 3⟩, .broadcast⟩⟩
    let channel : Channel :=
      { binding, session := ⟨⟨10, 0, 11, 3⟩, 40000⟩, device := .ok ({ bus := {} }, {}) }
    let forged := readReply 0x0f 0x100 [9]
    let plan : List (List Happening) :=
      [[.request 0], [.reply 0, .other forged, .request 1, .request 2, .reply 1, .reply 0]]
    let exchanges := converse [.read 8, .write 8 5, .read 8] {}
      ({ device := channel, plan } : Courier Channel)
    exchanges.map Exchange.outcome = [.error (.timeout 8), .ok [], .ok [5]] ∧
      ∀ exchange ∈ exchanges,
        Reads exchange.tag exchange.call.reads exchange.waits exchange.outcome := by
  intro binding channel forged plan exchanges
  have settled : channel.Settled {} :=
    ⟨.inl rfl, by decide, rfl, _, _, rfl, rfl, rfl, Etherbone.sink_holds_frame, rfl⟩
  have outcomes : exchanges.map Exchange.outcome = [.error (.timeout 8), .ok [], .ok [5]] := by
    decide +kernel
  refine ⟨outcomes, ?_⟩
  apply replies_are_never_confused endpoint_lawful channel ⟨_, settled⟩ plan {}
  · decide +kernel
  · decide +kernel

end InstrumentLink.Client
