import InstrumentLink.Proofs.ReplyMatching
import Mathlib.Logic.Function.Basic

/-!
Two reads of one session that wait at the same time.

Each has a return address of its own, but both receive from the same socket, and what one of them
receives the other never sees. A read that receives the reply to the other passes over it, as over a
late reply. So no read is ever told the values of the other, but it can be left without its own.
-/

set_option autoImplicit false

namespace InstrumentLink.Client

open Etherbone (readReply)

namespace Dialogue

variable {Result : Type}

def asked : Dialogue Result → Dialogue Result
  | .send _ next | .report _ next => next.asked
  | .await examine next => .await examine next
  | .done result => .done result

def hear : Dialogue Result → Bytes → Dialogue Result
  | .await examine next, datagram =>
      match examine (datagram.take datagramCapacity) with
      | .settled answer => next (some answer)
      | .ignored _ => .await examine next
  | dialogue, _ => dialogue

def expire : Dialogue Result → Dialogue Result
  | .await _ next => next none
  | dialogue => dialogue

def Waits : Dialogue Result → Prop
  | .await _ _ => True
  | _ => False

instance : (dialogue : Dialogue Result) → Decidable dialogue.Waits
  | .await _ _ => inferInstanceAs (Decidable True)
  | .done _ | .send _ _ | .report _ _ => inferInstanceAs (Decidable False)

def result : Dialogue Result → Option Result
  | .done result => some result
  | _ => none

theorem hear_all_done (result : Result) (datagrams : List Bytes) :
    datagrams.foldl hear (.done result) = .done result := by
  induction datagrams with
  | nil => rfl
  | cons datagram datagrams induction => exact induction

/-- Round after round, a wait goes through the datagrams as it does when it has them all before
it. -/
theorem hear_all (examine : Bytes → Verdict (Except Error (List UInt32)))
    (next : Option (Except Error (List UInt32)) → Result) (datagrams : List Bytes) :
    datagrams.foldl hear (.await examine fun answer => .done (next answer)) =
      match (settle examine datagrams).1 with
      | some answer => .done (next (some answer))
      | none => .await examine fun answer => .done (next answer) := by
  induction datagrams with
  | nil => rfl
  | cons datagram datagrams induction =>
      rw [List.foldl_cons, hear, settle]
      cases examine (datagram.take datagramCapacity) with
      | ignored event => exact induction
      | settled answer => exact hear_all_done (next (some answer)) datagrams

end Dialogue

inductive Side where
  | first
  | second
  deriving DecidableEq, Repr

/-- Two dialogues over one socket. -/
structure Shared where
  readers : Side → Dialogue (Except Error (List UInt32) × Session)
  queue : List Bytes
  taken : List (Side × Bytes) := []

namespace Shared

/-- The session with the return address that a read has claimed for itself. -/
def claimed (session : Session) : Side → Session
  | .first => session
  | .second => { session with nextTag := session.nextTag + 4 }

/-- Two reads that have sent their requests and wait. -/
def outstanding (session : Session) (addresses : Side → List UInt32) (queue : List Bytes) :
    Shared where
  readers side := ((claimed session side).readRecord (addresses side)).asked
  queue

def step (shared : Shared) (side : Side) : Shared :=
  match shared.queue with
  | [] => shared
  | datagram :: rest =>
      if (shared.readers side).Waits then
        { readers := Function.update shared.readers side ((shared.readers side).hear datagram)
          queue := rest
          taken := shared.taken ++ [(side, datagram)] }
      else shared

theorem step_waiting {shared : Shared} {side : Side} {datagram : Bytes} {rest : List Bytes}
    (queued : shared.queue = datagram :: rest) (waits : (shared.readers side).Waits) :
    shared.step side =
      { readers := Function.update shared.readers side ((shared.readers side).hear datagram)
        queue := rest
        taken := shared.taken ++ [(side, datagram)] } := by
  simp only [step, queued, if_pos waits]

def run (shared : Shared) (schedule : List Side) : Shared := schedule.foldl step shared

def heard (shared : Shared) (side : Side) : List Bytes :=
  (shared.taken.filter fun entry => entry.1 = side).map Prod.snd

/-- Everything taken went to one of the two, and each is where its own wait is after what it has
received itself. -/
structure Follows (start shared : Shared) : Prop where
  whole : shared.taken.map Prod.snd ++ shared.queue = start.queue
  own : ∀ side, shared.readers side = (shared.heard side).foldl Dialogue.hear (start.readers side)

theorem Follows.step {start shared : Shared} (follows : Follows start shared) (taker : Side) :
    Follows start (shared.step taker) := by
  unfold Shared.step
  split
  · exact follows
  · next datagram rest queued =>
      split_ifs
      · obtain ⟨whole, own⟩ := follows
        refine ⟨?_, fun side => ?_⟩
        · rw [queued] at whole
          simpa using whole
        · by_cases same : side = taker
          · subst same
            simp [heard, own, Function.update_self]
          · have other : taker ≠ side := fun equal => same equal.symm
            simp [heard, own, Function.update_of_ne same, other]
      · exact follows

theorem Follows.run {start shared : Shared} (follows : Follows start shared)
    (schedule : List Side) : Follows start (shared.run schedule) := by
  induction schedule generalizing shared with
  | nil => exact follows
  | cons side schedule induction => exact induction (follows.step side)

theorem tags_differ (session : Session) {taker side : Side} (other : taker ≠ side) :
    (claimed session side).nextTag ≠ (claimed session taker).nextTag := by
  intro same
  cases taker <;> cases side
  all_goals simp [claimed] at same other

section Reads

variable {session : Session} {addresses : Side → List UInt32} (some : ∀ side, addresses side ≠ [])
  (few : ∀ side, (addresses side).length ≤ Etherbone.maximumWords)

include some few

theorem reader_waits (queue : List Bytes) (side : Side) :
    let claim := claimed session side
    (outstanding session addresses queue).readers side =
      .await (examine claim.nextTag (addresses side).length) fun answer =>
        .done (answer.getD (.error (.timeout ((addresses side).headD 0))),
          { claim with nextTag := claim.nextTag + 4 }) := by
  intro claim
  simp only [outstanding, Session.read_record_eq _ (some side) (few side), Dialogue.asked, claim]

theorem Follows.waits {queue : List Bytes} {shared : Shared}
    (follows : Follows (outstanding session addresses queue) shared) {side : Side}
    (waits : (shared.readers side).Waits) :
    shared.readers side = (outstanding session addresses queue).readers side := by
  have own := follows.own side
  rw [reader_waits some few, Dialogue.hear_all] at own
  rw [reader_waits some few]
  split at own
  · rw [own] at waits
    exact waits.elim
  · exact own

variable (byteEnable : UInt8) {queue : List Bytes} {side : Side} {values : List UInt32}
  (counted : values.length = (addresses side).length)

include counted

theorem examine_own_reply :
    let tag := (claimed session side).nextTag
    examine tag (addresses side).length ((readReply byteEnable tag values).take datagramCapacity) =
      .settled (.ok values) := by
  intro tag
  have words : values ≠ [] := by
    rintro rfl
    exact some side (List.length_eq_zero_iff.mp counted.symm)
  have short : values.length ≤ Etherbone.maximumWords := counted ▸ few side
  rw [take_reply byteEnable tag (by simpa using words) short, ← counted]
  exact examine_reply byteEnable tag words short

theorem hear_own_reply :
    let claim := claimed session side
    ((outstanding session addresses queue).readers side).hear
        (readReply byteEnable claim.nextTag values) =
      .done (.ok values, { claim with nextTag := claim.nextTag + 4 }) := by
  intro claim
  rw [reader_waits some few, Dialogue.hear, examine_own_reply some few byteEnable counted]
  rfl

theorem hear_other_reply {taker : Side} (other : taker ≠ side) :
    ((outstanding session addresses queue).readers taker).hear
        (readReply byteEnable (claimed session side).nextTag values) =
      (outstanding session addresses queue).readers taker := by
  have words : values.length ≠ 0 := by
    rw [counted]
    exact fun none => some side (List.length_eq_zero_iff.mp none)
  have elsewhere : ¬AddressedTo (claimed session taker).nextTag
      ((readReply byteEnable (claimed session side).nextTag values).take datagramCapacity) := by
    rw [take_reply _ _ words (counted ▸ few side)]
    exact fun addressed => tags_differ session other (base_of_addressed addressed)
  obtain ⟨event, ignored⟩ := examine_ignores elsewhere (addresses taker).length
  rw [reader_waits some few, Dialogue.hear, ignored]

theorem settle_answered {heard : List Bytes} :
    let tag := (claimed session side).nextTag
    let reply := readReply byteEnable tag values
    (∀ datagram ∈ heard,
      datagram = reply ∨ ¬AddressedTo tag (datagram.take datagramCapacity)) →
    (Dialogue.settle (examine tag (addresses side).length) heard).1 =
      if reply ∈ heard then .some (.ok values) else none := by
  intro tag reply answered
  have ignored (datagrams : List Bytes) (within : datagrams ⊆ heard) (without : reply ∉ datagrams) :
      ∀ datagram ∈ datagrams, ∃ event,
        examine tag (addresses side).length (datagram.take datagramCapacity) = .ignored event := by
    intro datagram member
    have unlike : datagram ≠ reply := fun same => without (same ▸ member)
    exact examine_ignores ((answered datagram (within member)).resolve_left unlike) _
  split_ifs with arrived
  · obtain ⟨before, after, parts, fresh⟩ := List.eq_append_cons_of_mem arrived
    have passed := Dialogue.settle_append (reply :: after)
      (ignored before (parts ▸ List.subset_append_left before _) fresh)
    rw [parts, passed, Dialogue.settle, examine_own_reply some few byteEnable counted]
  · have silent := Dialogue.settle_append [] (ignored heard (List.Subset.refl heard) arrived)
    rwa [List.append_nil] at silent

end Reads

/-- Whichever read takes it, the reply to a read that waits ends this read. -/
def NothingLost (session : Session) (addresses : Side → List UInt32) : Prop :=
  ∀ (queue : List Bytes) (schedule : List Side) (side taker : Side) (values : List UInt32)
    (rest : List Bytes),
    let claim := claimed session side
    let shared := (outstanding session addresses queue).run schedule
    shared.queue = readReply 0x0f claim.nextTag values :: rest →
    values.length = (addresses side).length →
    (shared.readers side).Waits → (shared.readers taker).Waits →
    ((shared.step taker).readers side).result =
      .some (.ok values, { claim with nextTag := claim.nextTag + 4 })

/-- Both replies have arrived, the one for the second read in front. The first read receives it on
the way to its own, and the second is left with nothing. -/
theorem other_read_takes_the_reply :
    let addresses : Side → List UInt32
      | .first => [0x100]
      | .second => [0x104]
    let start := outstanding {} addresses [readReply 0x0f 4 [7], readReply 0x0f 0 [5]]
    let after := start.run [.first, .first]
    ¬NothingLost {} addresses ∧ after.queue = [] ∧
      (after.readers .first).result = .some (.ok [5], { nextTag := 4 }) ∧
      (after.readers .second).expire.result =
        .some (.error (.timeout 0x104), { nextTag := 8 }) := by
  intro addresses start after
  refine ⟨fun kept => ?_, by decide +kernel, by decide +kernel, by decide +kernel⟩
  have ends := kept [readReply 0x0f 4 [7], readReply 0x0f 0 [5]] [] .second .first [7] _ rfl rfl
    (by decide +kernel) (by decide +kernel)
  revert ends
  decide +kernel

/-- In whatever turns two reads take from their socket, a reply ends the read it is for if that read
receives it, and is lost if the other does. When nothing but its reply is addressed to a read, the
read gives its values if it receives the reply itself, and waits until its time is up otherwise. -/
theorem reads_keep_apart (session : Session) {addresses : Side → List UInt32}
    (some : ∀ side, addresses side ≠ [])
    (few : ∀ side, (addresses side).length ≤ Etherbone.maximumWords) (queue : List Bytes)
    (schedule : List Side) (side taker : Side) (other : taker ≠ side) (byteEnable : UInt8)
    (values : List UInt32) (counted : values.length = (addresses side).length) :
    let claim := claimed session side
    let next : Session := { claim with nextTag := claim.nextTag + 4 }
    let reply := readReply byteEnable claim.nextTag values
    let shared := (outstanding session addresses queue).run schedule
    (∀ rest, shared.queue = reply :: rest →
      ((shared.readers side).Waits →
        ((shared.step side).readers side).result = .some (.ok values, next)) ∧
      ((shared.readers taker).Waits →
        (shared.step taker).readers = shared.readers ∧ (shared.step taker).queue = rest)) ∧
    ((∀ datagram ∈ queue,
        datagram = reply ∨ ¬AddressedTo claim.nextTag (datagram.take datagramCapacity)) →
      (reply ∈ shared.heard side →
        (shared.readers side).result = .some (.ok values, next)) ∧
      (reply ∉ shared.heard side → (shared.readers side).Waits ∧
        (shared.readers side).expire.result =
          .some (.error (.timeout ((addresses side).headD 0)), next))) := by
  intro claim next reply shared
  have follows : Follows (outstanding session addresses queue) shared :=
    Follows.run ⟨rfl, fun side => rfl⟩ schedule
  refine ⟨fun rest queued => ⟨fun waits => ?_, fun waits => ?_⟩, fun answered => ?_⟩
  · rw [step_waiting queued waits]
    dsimp only
    rw [Function.update_self, follows.waits some few waits,
      hear_own_reply some few byteEnable counted]
    rfl
  · rw [step_waiting queued waits, follows.waits some few waits,
      hear_other_reply some few byteEnable counted other, ← follows.waits some few waits,
      Function.update_eq_self]
    exact ⟨rfl, rfl⟩
  · have within : ∀ datagram ∈ shared.heard side, datagram ∈ queue := by
      intro datagram member
      have whole : shared.taken.map Prod.snd ++ shared.queue = queue := follows.whole
      obtain ⟨entry, taken, rfl⟩ := List.mem_map.mp member
      rw [← whole]
      exact List.mem_append_left _ (List.mem_map_of_mem (List.mem_filter.mp taken).1)
    have settled := settle_answered some few byteEnable counted fun datagram member =>
      answered datagram (within datagram member)
    have own := follows.own side
    rw [reader_waits some few, Dialogue.hear_all, settled] at own
    refine ⟨fun heard => ?_, fun unheard => ?_⟩
    · rw [own, if_pos heard]
      rfl
    · rw [own, if_neg unheard]
      exact ⟨trivial, rfl⟩

/-- Each read takes the reply to itself, the second one first. -/
theorem each_read_takes_its_own :
    let addresses : Side → List UInt32
      | .first => [0x100]
      | .second => [0x104]
    let reply := readReply 0x0f 4 [7]
    let queue := [reply, readReply 0x0f 0 [5]]
    let shared := (outstanding {} addresses queue).run [.second, .first]
    reply ∈ shared.heard .second ∧
      (shared.readers .second).result = .some (.ok [7], { nextTag := 8 }) := by
  intro addresses reply queue shared
  have some : ∀ side, addresses side ≠ [] := by rintro ⟨⟩ <;> simp [addresses]
  have few : ∀ side, (addresses side).length ≤ Etherbone.maximumWords := by
    rintro ⟨⟩ <;> simp [addresses, Etherbone.maximumWords]
  have own : ∀ datagram ∈ queue,
      datagram = reply ∨ ¬AddressedTo 4 (datagram.take datagramCapacity) := by decide +kernel
  have heard : reply ∈ shared.heard .second := by decide +kernel
  have tag : (claimed {} .second).nextTag = 4 := by decide
  obtain ⟨-, answered⟩ := reads_keep_apart {} some few queue [.second, .first] .second .first
    (by decide) 0x0f [7] rfl
  rw [tag] at answered
  have same : shared = (outstanding {} addresses queue).run [.second, .first] := rfl
  refine ⟨heard, ?_⟩
  rw [same] at heard ⊢
  rw [(answered own).1 heard]
  decide +kernel

end Shared

end InstrumentLink.Client
