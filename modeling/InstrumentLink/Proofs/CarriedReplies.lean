import InstrumentLink.Proofs.ReplyMatching

/-!
A network that does as it likes, and the replies it carries.

It may keep back what the session sends, hand it to the device in any order and any number of times,
do the same with what the device sends back, and put in datagrams of its own. A plan says what
happens while the session waits, so every plan is one behaviour of the network. What the device has
sent back is told apart by the request it was sent for; the session cannot see that.
-/

set_option autoImplicit false

namespace InstrumentLink.Client

open Etherbone (Framed HasWords HasBusWidths requestOf readRequest writeRequest readReply)

class Responder (Device : Type) where
  respond : Bytes → Device → List Bytes × Device

structure Proper (request : Bytes) : Prop where
  framed : Framed request
  words : HasWords request
  widths : HasBusWidths request

/-- The reply to a request has as many words as it asks for, and goes to its return address. -/
def Answers (request reply : Bytes) : Prop :=
  ∃ values, values ≠ [] ∧ values.length = (requestOf request).reads.length ∧
    reply = readReply (requestOf request).byteEnable (requestOf request).returnBase values

def Lawful {Device : Type} [Responder Device] (Sound : Device → Prop) : Prop :=
  ∀ device request, Sound device → Proper request →
    Sound (Responder.respond request device).2 ∧
      ∀ reply ∈ (Responder.respond request device).1, Answers request reply

inductive Happening where
  /-- The device receives the request with this index. -/
  | request (index : Nat)
  /-- The session can receive the reply with this index. -/
  | reply (index : Nat)
  /-- The session can receive a datagram that is no reply of the device. -/
  | other (datagram : Bytes)
  deriving DecidableEq, Repr

inductive Arrival where
  /-- What the device sent back for the request with this index. -/
  | reply (request : Nat) (octets : Bytes)
  | other (datagram : Bytes)
  deriving DecidableEq, Repr

namespace Arrival

def octets : Arrival → Bytes
  | .reply _ octets => octets
  | .other datagram => datagram

/-- Whether it was sent back for the request with this index. -/
def RepliesTo (request : Nat) : Arrival → Prop
  | .reply index _ => index = request
  | .other _ => False

instance (request : Nat) : (arrival : Arrival) → Decidable (arrival.RepliesTo request)
  | .reply index _ => inferInstanceAs (Decidable (index = request))
  | .other _ => inferInstanceAs (Decidable False)

end Arrival

/-- A network between a session and its device. -/
structure Courier (Device : Type) where
  device : Device
  /-- What happens during each wait. -/
  plan : List (List Happening)
  requests : List Bytes := []
  /-- What the device has sent back, each with the index of the request it was sent for. -/
  produced : List (Nat × Bytes) := []
  /-- What the session can receive, in order. -/
  waiting : List Arrival := []

namespace Courier

variable {Device : Type} [Responder Device]

def happen (courier : Courier Device) : Happening → Courier Device
  | .request index =>
      match courier.requests[index]? with
      | none => courier
      | some request =>
          let (replies, device) := Responder.respond request courier.device
          { courier with
            device
            produced := courier.produced ++ replies.map fun reply => (index, reply) }
  | .reply index =>
      match courier.produced[index]? with
      | none => courier
      | some (request, octets) =>
          { courier with waiting := courier.waiting ++ [.reply request octets] }
  | .other datagram => { courier with waiting := courier.waiting ++ [.other datagram] }

def carry (courier : Courier Device) : Courier Device :=
  { (courier.plan.headD []).foldl happen courier with plan := courier.plan.tail }

/-- The datagrams that a wait that starts now can receive before its time is up. -/
def arrivals (courier : Courier Device) : List Arrival := courier.carry.waiting

instance : Network (Courier Device) where
  send request courier := { courier with requests := courier.requests ++ [request] }
  arriving courier := courier.arrivals.map Arrival.octets
  received count courier := { courier.carry with waiting := courier.carry.waiting.drop count }

@[simp] theorem requests_happen (courier : Courier Device) (happening : Happening) :
    (courier.happen happening).requests = courier.requests := by
  cases happening <;> simp only [happen] <;> split <;> rfl

@[simp] theorem requests_carry (courier : Courier Device) :
    courier.carry.requests = courier.requests := by
  change ((courier.plan.headD []).foldl happen courier).requests = courier.requests
  induction courier.plan.headD [] generalizing courier with
  | nil => rfl
  | cons happening happenings induction => simp [induction]

end Courier

def tagAt (first : UInt32) (index : Nat) : UInt32 := first + UInt32.ofNat (4 * index)

theorem tag_at_succ (first : UInt32) (index : Nat) :
    tagAt first (index + 1) = tagAt first index + 4 := by
  rw [tagAt, tagAt, Nat.mul_add, UInt32.ofNat_add, UInt32.add_assoc]
  rfl

theorem tag_at_injective (first : UInt32) {earlier later : Nat} (ordered : earlier < later)
    (few : later < 1073741824) : tagAt first earlier ≠ tagAt first later := by
  intro same
  have offsets := congrArg UInt32.toNat ((UInt32.add_right_inj first).mp same)
  rw [UInt32.toNat_ofNat', UInt32.toNat_ofNat', Nat.mod_eq_of_lt (by omega),
    Nat.mod_eq_of_lt (by omega)] at offsets
  omega

def tagsOf (requests : List Bytes) : List UInt32 :=
  (requests.filter fun request => (requestOf request).reads ≠ []).map fun request =>
    (requestOf request).returnBase

theorem tags_of_append (earlier later : List Bytes) :
    tagsOf (earlier ++ later) = tagsOf earlier ++ tagsOf later := by
  simp [tagsOf]

def Elsewhere (first : UInt32) (limit : Nat) (datagram : Bytes) : Prop :=
  ∀ index < limit, ¬AddressedTo (tagAt first index) (datagram.take datagramCapacity)

instance (first : UInt32) (limit : Nat) (datagram : Bytes) :
    Decidable (Elsewhere first limit datagram) :=
  inferInstanceAs (Decidable (∀ index < limit,
    ¬AddressedTo (tagAt first index) (datagram.take datagramCapacity)))

def Happening.Foreign (first : UInt32) (limit : Nat) : Happening → Prop
  | .other datagram => Elsewhere first limit datagram
  | .request _ | .reply _ => True

instance (first : UInt32) (limit : Nat) :
    (happening : Happening) → Decidable (happening.Foreign first limit)
  | .other datagram => inferInstanceAs (Decidable (Elsewhere first limit datagram))
  | .request _ | .reply _ => inferInstanceAs (Decidable True)

namespace Courier

variable {Device : Type} [Responder Device]

/-- What there is between a session and its device after so many reads. -/
structure Orderly (Sound : Device → Prop) (first : UInt32) (limit issued : Nat)
    (courier : Courier Device) : Prop where
  sound : Sound courier.device
  proper : ∀ request ∈ courier.requests, Proper request
  tags : tagsOf courier.requests = (List.range issued).map (tagAt first)
  produced : ∀ index reply, (index, reply) ∈ courier.produced →
    ∃ request, courier.requests[index]? = some request ∧ Answers request reply
  replies : ∀ index reply, .reply index reply ∈ courier.waiting →
    (index, reply) ∈ courier.produced
  others : ∀ datagram, .other datagram ∈ courier.waiting → Elsewhere first limit datagram
  plan : ∀ happenings ∈ courier.plan, ∀ happening ∈ happenings, happening.Foreign first limit

variable {Sound : Device → Prop} {first : UInt32} {limit issued : Nat} {courier : Courier Device}

omit [Responder Device] in
theorem Orderly.arrive (orderly : courier.Orderly Sound first limit issued) (arrival : Arrival)
    (reply : ∀ index octets, arrival = .reply index octets → (index, octets) ∈ courier.produced)
    (other : ∀ datagram, arrival = .other datagram → Elsewhere first limit datagram) :
    { courier with waiting := courier.waiting ++ [arrival] }.Orderly Sound first limit issued := by
  refine { orderly with replies := ?_, others := ?_ }
  · intro index octets member
    rcases List.mem_append.mp member with before | now
    · exact orderly.replies index octets before
    · exact reply index octets (List.mem_singleton.mp now).symm
  · intro datagram member
    rcases List.mem_append.mp member with before | now
    · exact orderly.others datagram before
    · exact other datagram (List.mem_singleton.mp now).symm

theorem Orderly.happen (lawful : Lawful Sound) (orderly : courier.Orderly Sound first limit issued)
    (happening : Happening) (foreign : happening.Foreign first limit) :
    (courier.happen happening).Orderly Sound first limit issued := by
  cases happening with
  | request index =>
      simp only [Courier.happen]
      split
      · exact orderly
      · next request sent =>
          obtain ⟨soundAfter, answers⟩ := lawful courier.device request orderly.sound
            (orderly.proper request (List.mem_of_getElem? sent))
          refine { orderly with sound := soundAfter, produced := ?_, replies := ?_ }
          · intro number reply member
            rcases List.mem_append.mp member with before | now
            · exact orderly.produced number reply before
            · obtain ⟨answer, given, same⟩ := List.mem_map.mp now
              cases same
              exact ⟨request, sent, answers reply given⟩
          · intro number reply member
            exact List.mem_append_left _ (orderly.replies number reply member)
  | reply index =>
      simp only [Courier.happen]
      split
      · exact orderly
      · next request octets given =>
          apply orderly.arrive
          · rintro number reply ⟨⟩
            exact List.mem_of_getElem? given
          · rintro datagram ⟨⟩
  | other datagram =>
      apply orderly.arrive
      · rintro index reply ⟨⟩
      · rintro other ⟨⟩
        exact foreign

theorem Orderly.happen_all (lawful : Lawful Sound) (happenings : List Happening)
    (foreign : ∀ happening ∈ happenings, happening.Foreign first limit)
    (orderly : courier.Orderly Sound first limit issued) :
    (happenings.foldl Courier.happen courier).Orderly Sound first limit issued := by
  induction happenings generalizing courier with
  | nil => exact orderly
  | cons happening happenings induction =>
      obtain ⟨foreignNow, foreignLater⟩ := List.forall_mem_cons.mp foreign
      exact induction foreignLater (orderly.happen lawful happening foreignNow)

theorem Orderly.carry (lawful : Lawful Sound) (orderly : courier.Orderly Sound first limit issued) :
    courier.carry.Orderly Sound first limit issued := by
  have foreign : ∀ happening ∈ courier.plan.headD [], happening.Foreign first limit := by
    cases planned : courier.plan with
    | nil => exact fun happening member => nomatch member
    | cons happenings later =>
        exact orderly.plan happenings (planned ▸ List.mem_cons_self)
  obtain ⟨sound, proper, tags, produced, replies, others, -⟩ :=
    orderly.happen_all lawful _ foreign
  exact ⟨sound, proper, tags, produced, replies, others, fun happenings member =>
    orderly.plan happenings (List.mem_of_mem_tail member)⟩

theorem Orderly.received (lawful : Lawful Sound)
    (orderly : courier.Orderly Sound first limit issued) (count : Nat) :
    (Network.received count courier).Orderly Sound first limit issued := by
  obtain ⟨sound, proper, tags, produced, replies, others, plan⟩ := orderly.carry lawful
  exact ⟨sound, proper, tags, produced,
    fun index reply member => replies index reply (List.mem_of_mem_drop member),
    fun datagram member => others datagram (List.mem_of_mem_drop member), plan⟩

theorem Orderly.send (orderly : courier.Orderly Sound first limit issued) {request : Bytes}
    (proper : Proper request) {count : Nat}
    (tags : tagsOf (courier.requests ++ [request]) = (List.range count).map (tagAt first)) :
    (Network.send request courier).Orderly Sound first limit count := by
  refine ⟨orderly.sound, ?_, tags, ?_, orderly.replies, orderly.others, orderly.plan⟩
  · intro sent member
    rcases List.mem_append.mp member with before | now
    · exact orderly.proper sent before
    · cases List.mem_singleton.mp now
      exact proper
  · intro index reply member
    obtain ⟨sent, stands, answers⟩ := orderly.produced index reply member
    obtain ⟨inside, -⟩ := List.getElem?_eq_some_iff.mp stands
    exact ⟨sent, (List.getElem?_append_left inside).trans stands, answers⟩

theorem Orderly.tell (orderly : courier.Orderly Sound first limit issued) (base : UInt32)
    {values : List UInt32} (counted : values.length ≠ 0)
    (few : values.length ≤ Etherbone.maximumWords) :
    (Network.send (writeRequest base values) courier).Orderly Sound first limit issued := by
  obtain ⟨framed, words, -⟩ : Framed (writeRequest base values) ∧
      HasWords (writeRequest base values) ∧ _ :=
    Etherbone.framed_one_block .request {} 0x0f _ _ base values counted few (.inl ⟨rfl, rfl⟩)
  apply orderly.send ⟨framed, words, Etherbone.one_block_has_bus_widths _ _ _ _ _ _⟩
  have none : tagsOf [writeRequest base values] = [] := by
    simp [tagsOf, Etherbone.request_of_write few]
  rw [tags_of_append, none, List.append_nil, orderly.tags]

section Read

variable {addresses : List UInt32} (some : addresses ≠ [])
  (few : addresses.length ≤ Etherbone.maximumWords)

include some few

theorem Orderly.ask (orderly : courier.Orderly Sound first limit issued) :
    (Network.send (readRequest (tagAt first issued) addresses) courier).Orderly Sound first limit
      (issued + 1) := by
  have counted : addresses.length ≠ 0 := fun none => some (List.length_eq_zero_iff.mp none)
  obtain ⟨framed, words, -⟩ : Framed (readRequest (tagAt first issued) addresses) ∧
      HasWords (readRequest (tagAt first issued) addresses) ∧ _ :=
    Etherbone.framed_one_block .request {} 0x0f _ _ _ addresses counted few (.inr ⟨rfl, rfl⟩)
  apply orderly.send ⟨framed, words, Etherbone.one_block_has_bus_widths _ _ _ _ _ _⟩
  have one : tagsOf [readRequest (tagAt first issued) addresses] = [tagAt first issued] := by
    simp [tagsOf, Etherbone.request_of_read some few, some]
  rw [tags_of_append, one, orderly.tags, List.range_succ, List.map_append, List.map_singleton]

theorem Orderly.own_reply (lawful : Lawful Sound)
    (orderly : courier.Orderly Sound first limit issued) {octets : Bytes}
    (arrives : .reply courier.requests.length octets ∈
      (Network.send (readRequest (tagAt first issued) addresses) courier).arrivals) :
    ∃ values, values ≠ [] ∧ values.length = addresses.length ∧
      octets = readReply 0x0f (tagAt first issued) values := by
  have sent := (orderly.ask some few).carry lawful
  obtain ⟨request, stands, values, words, counted, rfl⟩ :=
    sent.produced _ _ (sent.replies _ _ arrives)
  have own : request = readRequest (tagAt first issued) addresses := by
    rw [requests_carry] at stands
    simpa [Network.send] using stands.symm
  rw [own, Etherbone.request_of_read some few] at counted ⊢
  exact ⟨values, words, counted, rfl⟩

/-- Nothing else that arrives carries the return address of the read. -/
theorem Orderly.elsewhere (lawful : Lawful Sound)
    (orderly : courier.Orderly Sound first limit issued) (below : issued < limit)
    (fresh : limit ≤ 1073741824) {arrival : Arrival}
    (arrives : arrival ∈
      (Network.send (readRequest (tagAt first issued) addresses) courier).arrivals)
    (other : ¬arrival.RepliesTo courier.requests.length) :
    ¬AddressedTo (tagAt first issued) (arrival.octets.take datagramCapacity) := by
  have sent := (orderly.ask some few).carry lawful
  cases arrival with
  | other datagram => exact sent.others datagram arrives issued below
  | reply index octets =>
      obtain ⟨request, stands, values, words, counted, rfl⟩ :=
        sent.produced _ _ (sent.replies _ _ arrives)
      rw [requests_carry] at stands
      have earlier : request ∈ courier.requests := by
        have inside : index < courier.requests.length := by
          obtain ⟨bound, -⟩ := List.getElem?_eq_some_iff.mp stands
          have length : (courier.requests ++ [readRequest (tagAt first issued) addresses]).length =
            courier.requests.length + 1 := List.length_append
          simp only [Arrival.RepliesTo] at other
          change index < (courier.requests ++ _).length at bound
          omega
        exact List.mem_of_getElem? ((List.getElem?_append_left inside).symm.trans stands)
      have reads : (requestOf request).reads ≠ [] := by
        intro none
        rw [none] at counted
        exact words (List.length_eq_zero_iff.mp counted)
      have few : values.length ≤ Etherbone.maximumWords := by
        rw [counted]
        exact Etherbone.length_reads_le request
      have tagged : (requestOf request).returnBase ∈ tagsOf courier.requests :=
        List.mem_map_of_mem (List.mem_filter.mpr ⟨earlier, decide_eq_true reads⟩)
      rw [orderly.tags] at tagged
      obtain ⟨before, member, same⟩ := List.mem_map.mp tagged
      intro addressed
      rw [Arrival.octets, take_reply _ _ (by simpa using words) few] at addressed
      exact tag_at_injective first (List.mem_range.mp member) (by omega)
        (same.trans (base_of_addressed addressed))

end Read

end Courier

end InstrumentLink.Client
