import InstrumentLink.Proofs.LosslessDelivery

/-!
Damage after garbage ends.

What is left over from earlier traffic may be the start of a packet that never was one, and such a
false start takes good octets with it. Every false start has its magic among the octets left over,
and what it announces has to fit the buffer, so none reaches far into the stream that follows. From
there on the next magic is the start of a packet, and everything arrives.
-/

set_option autoImplicit false

namespace InstrumentLink.Etherbone

/-- The packets that reading a string of octets gives, each with the index where it starts. The
first octet has the given index. -/
def located (index : Nat) : Bytes → List (Nat × Bytes)
  | [] | [_] => []
  | first :: second :: more =>
      let stream := first :: second :: more
      if first = magicFirst ∧ second = magicSecond then
        let length := announced stream
        if stream.length ≤ headerLength then []
        else if streamCapacity < length then located (index + 1) (second :: more)
        else if stream.length < length then []
        else (index, stream.take length) :: located (index + length) (stream.drop length)
      else located (index + 1) (second :: more)
termination_by stream => stream.length
decreasing_by
  · simp
  · have long := header_length_le_announced (first :: second :: more)
    simp only [headerLength] at long
    simp only [List.length_drop, List.length_cons]
    omega
  · simp

/-- The ways in which reading goes on from the start of a string. -/
inductive Reading (index : Nat) (stream : Bytes) : List (Nat × Bytes) → Prop where
  | ends (short : stream.length ≤ 1) : Reading index stream []
  | waits (magic : magicOctets <+: stream)
      (short : stream.length ≤ headerLength ∨
        announced stream ≤ streamCapacity ∧ stream.length < announced stream) :
      Reading index stream []
  | passes (long : 1 < stream.length)
      (useless : magicOctets <+: stream →
        headerLength < stream.length ∧ streamCapacity < announced stream) :
      Reading index stream (located (index + 1) (stream.drop 1))
  | takes (magic : magicOctets <+: stream) (header : headerLength < stream.length)
      (fits : announced stream ≤ streamCapacity) (complete : announced stream ≤ stream.length) :
      Reading index stream ((index, stream.take (announced stream)) ::
        located (index + announced stream) (stream.drop (announced stream)))

theorem located_reading (index : Nat) (stream : Bytes) :
    Reading index stream (located index stream) := by
  fun_cases located index stream with
  | case1 => exact .ends (Nat.zero_le 1)
  | case2 octet => exact .ends (Nat.le_refl 1)
  | case3 first second more stream magic short =>
      obtain ⟨rfl, rfl⟩ := magic
      exact .waits ⟨more, rfl⟩ (.inl short)
  | case4 first second more stream magic length header large =>
      exact .passes (by simp) fun _ => ⟨Nat.not_le.mp header, large⟩
  | case5 first second more stream magic length header fits short =>
      obtain ⟨rfl, rfl⟩ := magic
      exact .waits ⟨more, rfl⟩ (.inr ⟨Nat.not_lt.mp fits, short⟩)
  | case6 first second more stream magic length header fits complete =>
      obtain ⟨rfl, rfl⟩ := magic
      exact .takes ⟨more, rfl⟩ (Nat.not_le.mp header) (Nat.not_lt.mp fits) (Nat.not_lt.mp complete)
  | case7 first second more other =>
      refine .passes (by simp) fun starts => (other ?_).elim
      obtain ⟨rest, same⟩ := starts
      cases same
      exact ⟨rfl, rfl⟩

theorem map_located (index : Nat) (stream : Bytes) :
    (located index stream).map Prod.snd = (parse stream).1 := by
  fun_induction located index stream with
  | case1 => rw [parse]; rfl
  | case2 index octet => rw [parse]; split <;> rfl
  | case3 index first second more stream magic short =>
      obtain ⟨rfl, rfl⟩ := magic
      have starts : magicOctets <+: stream := ⟨more, rfl⟩
      exact (congrArg Prod.fst (parse_of_header starts short)).symm
  | case4 index first second more stream magic length header large induction =>
      obtain ⟨rfl, rfl⟩ := magic
      have starts : magicOctets <+: stream := ⟨more, rfl⟩
      have read := parse_of_oversized starts (Nat.not_le.mp header) large
      exact induction.trans (congrArg Prod.fst read).symm
  | case5 index first second more stream magic length header fits short =>
      obtain ⟨rfl, rfl⟩ := magic
      have starts : magicOctets <+: stream := ⟨more, rfl⟩
      exact (congrArg Prod.fst (parse_of_incomplete starts (Nat.not_lt.mp fits) short)).symm
  | case6 index first second more stream magic length header fits complete induction =>
      obtain ⟨rfl, rfl⟩ := magic
      have starts : magicOctets <+: stream := ⟨more, rfl⟩
      have read := parse_of_complete starts (Nat.not_le.mp header) (Nat.not_lt.mp fits)
        (Nat.not_lt.mp complete)
      rw [List.map_cons, induction]
      exact (congrArg Prod.fst read).symm
  | case7 index first second more other induction =>
      rw [parse_of_not_magic first second more other]
      exact induction

def starting (index : Nat) : List Bytes → List (Nat × Bytes)
  | [] => []
  | packet :: packets => (index, packet) :: starting (index + packet.length) packets

def startingFrom (bound : Nat) (found : List (Nat × Bytes)) : List (Nat × Bytes) :=
  found.filter fun packet => bound ≤ packet.1

theorem starting_append (index : Nat) (before after : List Bytes) :
    starting index (before ++ after) =
      starting index before ++ starting (index + before.flatten.length) after := by
  induction before generalizing index with
  | nil => rfl
  | cons packet before induction =>
      rw [List.cons_append, starting, induction, starting, List.flatten_cons, List.length_append,
        Nat.add_assoc, List.cons_append]

theorem mem_starting {index start : Nat} {packet : Bytes} {packets : List Bytes} :
    (start, packet) ∈ starting index packets ↔
      ∃ before after, packets = before ++ packet :: after ∧
        start = index + before.flatten.length := by
  constructor
  · intro member
    induction packets generalizing index with
    | nil => cases member
    | cons first packets induction =>
        rcases List.mem_cons.mp member with same | later
        · cases same
          exact ⟨[], packets, rfl, rfl⟩
        · obtain ⟨before, after, rfl, rfl⟩ := induction later
          refine ⟨first :: before, after, rfl, ?_⟩
          rw [List.flatten_cons, List.length_append, Nat.add_assoc]
  · rintro ⟨before, after, rfl, rfl⟩
    rw [starting_append]
    exact List.mem_append_right _ List.mem_cons_self

section Packets

variable {packets : List Bytes} (good : ∀ packet ∈ packets, Framed packet ∧ HasWords packet)

include good

theorem end_le_of_mem_starting {index : Nat} {found : Nat × Bytes}
    (member : found ∈ starting index packets) :
    index ≤ found.1 ∧ found.1 + headerLength + 8 ≤ index + packets.flatten.length := by
  obtain ⟨start, packet⟩ := found
  obtain ⟨before, after, rfl, rfl⟩ := mem_starting.mp member
  obtain ⟨framed, words⟩ := good packet (by simp)
  have long := framed.header_lt_length words
  simp only [List.flatten_append, List.flatten_cons, List.length_append]
  omega

theorem starting_from_all {index bound : Nat} (ahead : bound ≤ index) :
    startingFrom bound (starting index packets) = starting index packets := by
  apply List.filter_eq_self.mpr
  intro found member
  have bounds := end_le_of_mem_starting good member
  simp only [decide_eq_true_eq]
  omega

theorem starting_from_none {index bound : Nat}
    (behind : index + packets.flatten.length < bound + headerLength + 8) :
    startingFrom bound (starting index packets) = [] := by
  apply List.filter_eq_nil_iff.mpr
  intro found member
  have bounds := end_le_of_mem_starting good member
  simp only [decide_eq_true_eq]
  omega

theorem starting_from_packet (index : Nat) {before after : List Bytes}
    (parts : packets = before ++ after) :
    startingFrom (index + before.flatten.length) (starting index packets) =
      starting (index + before.flatten.length) after := by
  subst parts
  obtain ⟨goodBefore, goodAfter⟩ := List.forall_mem_append.mp good
  have none : startingFrom (index + before.flatten.length) (starting index before) = [] :=
    starting_from_none goodBefore (by simp only [headerLength]; omega)
  have all := starting_from_all goodAfter (Nat.le_refl (index + before.flatten.length))
  rw [startingFrom] at none all
  rw [startingFrom, starting_append, List.filter_append, none, all, List.nil_append]

theorem located_packets (index : Nat) :
    located index packets.flatten = starting index packets := by
  induction packets generalizing index with
  | nil => rw [List.flatten_nil, located]; rfl
  | cons packet packets induction =>
      obtain ⟨⟨framed, words⟩, good⟩ := List.forall_mem_cons.mp good
      have header := framed.header_lt_length words
      have magic := framed.magic.trans (List.prefix_append packet packets.flatten)
      have same : announced (packet ++ packets.flatten) = packet.length := by
        rw [announced_append packet _ (by omega), framed.length]
      have fits := framed.fits
      rw [List.flatten_cons, starting, ← induction good]
      have reading := located_reading index (packet ++ packets.flatten)
      generalize located index (packet ++ packets.flatten) = found at reading
      cases reading with
      | ends short => simp only [List.length_append] at short; omega
      | waits _ short => simp only [List.length_append] at short; omega
      | passes _ useless => have large := (useless magic).2; omega
      | takes => rw [same, List.take_left, List.drop_left]

end Packets

def MagicAtStarts (packets : List Bytes) : Prop :=
  ∀ index < packets.flatten.length, magicOctets <+: packets.flatten.drop index →
    index ∈ (starting 0 packets).map Prod.fst

instance (packets : List Bytes) : Decidable (MagicAtStarts packets) :=
  inferInstanceAs (Decidable (∀ index < packets.flatten.length,
    magicOctets <+: packets.flatten.drop index → index ∈ (starting 0 packets).map Prod.fst))

theorem two_le_of_magic {packets : List Bytes} (start : ∀ packet ∈ packets, magicOctets <+: packet)
    {left : Bytes} (some : left ≠ []) (magic : magicOctets <+: left ++ packets.flatten) :
    2 ≤ left.length := by
  match left with
  | [octet] =>
      cases packets with
      | nil => exact absurd magic.length_le (by simp [magicOctets])
      | cons packet packets =>
          obtain ⟨more, same⟩ := start packet List.mem_cons_self
          obtain ⟨rest, found⟩ := magic
          rw [← same] at found
          cases found
  | first :: second :: left => simp

/-- No packet can make a magic together with the one behind it, so it is enough to look at each of
them. -/
theorem magic_at_starts_of_tails {packets : List Bytes}
    (each : ∀ packet ∈ packets, magicOctets <+: packet ∧ NoMagic packet.tail) :
    MagicAtStarts packets := by
  induction packets with
  | nil => exact fun index inside => absurd inside (Nat.not_lt_zero index)
  | cons packet packets induction =>
      obtain ⟨⟨-, quiet⟩, later⟩ := List.forall_mem_cons.mp each
      intro index inside magic
      rw [List.flatten_cons] at inside magic
      by_cases within : index < packet.length
      · cases index with
        | zero => exact List.mem_cons_self
        | succ index =>
            rw [List.drop_append_of_le_length (by omega)] at magic
            have two := two_le_of_magic (fun packet member => (later packet member).1)
              (fun none => by simp only [List.drop_eq_nil_iff] at none; omega) magic
            have inner : magicOctets <+: packet.drop (index + 1) :=
              List.prefix_of_prefix_length_le magic (List.prefix_append _ _) two
            rw [← List.drop_tail] at inner
            exact (quiet (inner.isInfix.trans (List.drop_suffix index packet.tail).isInfix)).elim
      · rw [List.drop_append, List.drop_eq_nil_of_le (by omega), List.nil_append] at magic
        rw [List.length_append] at inside
        obtain ⟨⟨start, found⟩, member, same⟩ :=
          List.mem_map.mp (induction later (index - packet.length) (by omega) magic)
        obtain ⟨before, after, rfl, rfl⟩ := mem_starting.mp member
        refine List.mem_map.mpr
          ⟨(index, found), mem_starting.mpr ⟨packet :: before, after, rfl, ?_⟩, rfl⟩
        simp only [List.flatten_cons, List.length_append]
        omega

section Recovery

variable {packets : List Bytes} (good : ∀ packet ∈ packets, Framed packet ∧ HasWords packet)
  (marked : MagicAtStarts packets)

include good marked

theorem located_drop (index passed : Nat) :
    located (index + passed) (packets.flatten.drop passed) =
      startingFrom (index + passed) (starting index packets) := by
  -- The induction is on what is left of the stream; a magic ends it, since there a packet starts.
  induction left : packets.flatten.length - passed generalizing passed with
  | zero =>
      rw [List.drop_eq_nil_of_le (by omega), starting_from_none good (by omega), located]
  | succ left induction =>
      by_cases magic : magicOctets <+: packets.flatten.drop passed
      · obtain ⟨⟨start, packet⟩, member, rfl⟩ :=
          List.mem_map.mp (marked passed (by omega) magic)
        obtain ⟨before, after, parts, same⟩ := mem_starting.mp member
        rw [Nat.zero_add] at same
        subst same
        rw [starting_from_packet good index parts]
        subst parts
        rw [List.flatten_append, List.drop_left,
          located_packets (List.forall_mem_append.mp good).2]
      · have reading := located_reading (index + passed) (packets.flatten.drop passed)
        generalize located (index + passed) (packets.flatten.drop passed) = found at reading
        cases reading with
        | ends short =>
            rw [List.length_drop] at short
            rw [starting_from_none good (by simp only [headerLength]; omega)]
        | waits starts | takes starts => exact (magic starts).elim
        | passes =>
            rw [List.drop_drop, Nat.add_assoc, induction (passed + 1) (by omega)]
            apply List.filter_congr
            rintro ⟨start, packet⟩ member
            obtain ⟨before, after, parts, same⟩ := mem_starting.mp member
            have elsewhere : start ≠ index + passed := by
              rintro rfl
              apply magic
              rw [parts, Nat.add_left_cancel same, List.flatten_append, List.drop_left,
                List.flatten_cons]
              have framed := (good packet (by rw [parts]; simp)).1
              exact framed.magic.trans (List.prefix_append packet _)
            simp only [decide_eq_decide]
            omega

/-- Whatever reading makes of octets left over, what starts far enough behind them are the packets
that follow, and nothing else. -/
theorem located_behind_left (index bound : Nat) (left : Bytes)
    (far : index + left.length + streamCapacity ≤ bound + 2) :
    startingFrom bound (located index (left ++ packets.flatten)) =
      startingFrom bound (starting (index + left.length) packets) := by
  by_cases none : left = []
  · rw [none, List.nil_append, located_packets good]
    rfl
  have some : 1 ≤ left.length := List.length_pos_iff.mpr none
  have two := two_le_of_magic (fun packet member => (good packet member).1.magic) none
  have shorter : (left.drop 1).length = left.length - 1 := List.length_drop
  have reading := located_reading index (left ++ packets.flatten)
  generalize located index (left ++ packets.flatten) = found at reading
  cases reading with
  | ends short =>
      rw [List.length_append] at short
      rw [starting_from_none good (by simp only [streamCapacity] at far; omega)]
      rfl
  | waits magic short =>
      have inside := two magic
      simp only [List.length_append, streamCapacity, headerLength] at short far
      rw [starting_from_none good (by simp only [headerLength]; omega)]
      rfl
  | passes =>
      have rest := located_behind_left (index + 1) bound (left.drop 1) (by omega)
      have same : index + 1 + (left.drop 1).length = index + left.length := by omega
      rw [List.drop_append_of_le_length some]
      rwa [same] at rest
  | takes magic header fits complete =>
      have inside := two magic
      have long := header_length_le_announced (left ++ packets.flatten)
      generalize announced (left ++ packets.flatten) = taken at fits complete long ⊢
      simp only [streamCapacity, headerLength] at far fits long
      rw [startingFrom, List.filter_cons_of_neg (by simp only [decide_eq_true_eq]; omega)]
      change startingFrom bound _ = _
      -- What was taken for a packet ends among the octets left over, or inside the stream.
      by_cases within : taken ≤ left.length
      · have rest := located_behind_left (index + taken) bound (left.drop taken)
          (by simp only [List.length_drop, streamCapacity]; omega)
        have same : index + taken + (left.drop taken).length = index + left.length := by
          rw [List.length_drop]
          omega
        rw [List.drop_append_of_le_length within]
        rwa [same] at rest
      · have rest := located_drop good marked (index + left.length) (taken - left.length)
        have same : index + left.length + (taken - left.length) = index + taken := by omega
        rw [same] at rest
        rw [List.drop_append, List.drop_eq_nil_of_le (by omega), List.nil_append, rest,
          startingFrom, startingFrom, List.filter_filter]
        apply List.filter_congr
        intro found member
        simp only [← Bool.decide_and, decide_eq_decide]
        omega
termination_by left.length
decreasing_by
  · omega
  · simp only [headerLength] at long
    rw [List.length_drop]
    omega

end Recovery

theorem buffered_read (inputs : List Input) (reassembler : Reassembler)
    (read : parse reassembler.buffered = ([], reassembler.buffered)) :
    parse (inputs.foldl Input.apply reassembler).buffered =
      ([], (inputs.foldl Input.apply reassembler).buffered) := by
  induction inputs generalizing reassembler with
  | nil => exact read
  | cons input inputs induction =>
      apply induction
      cases input with
      | push data =>
          obtain ⟨-, held, -⟩ := Reassembler.accept_reads data reassembler
          simp only [Input.apply, held, parse_left]
      | reset =>
          change parse [] = ([], [])
          rw [parse]

/-- After any traffic, a stream of packets with the magic at their starts only, in datagrams that
fit, comes out from octet 1510 on: what is handed out of the stream from there on are the packets
that start there, in order. -/
theorem damage_is_bounded (inputs : List Input) (packets chunks : List Bytes)
    (good : ∀ packet ∈ packets, Framed packet ∧ HasWords packet) (marked : MagicAtStarts packets)
    (stream : chunks.flatten = packets.flatten)
    (fits : Reassembler.Fits chunks (inputs.foldl Input.apply {})) :
    let reassembler : Reassembler := inputs.foldl Input.apply {}
    let left := reassembler.buffered.length
    let handed := located 0 (reassembler.buffered ++ packets.flatten)
    (Reassembler.pushAll chunks reassembler).1 = handed.map Prod.snd ∧
      startingFrom (left + 1510) handed = startingFrom (left + 1510) (starting left packets) := by
  intro reassembler left handed
  have settled : parse reassembler.buffered = ([], reassembler.buffered) :=
    buffered_read inputs {} (by rw [parse])
  have pushed := Reassembler.push_all_of_fits chunks reassembler settled fits
  rw [stream] at pushed
  refine ⟨?_, ?_⟩
  · rw [pushed, map_located]
  · have behind := located_behind_left good marked 0 (left + 1510) reassembler.buffered
      (by simp only [streamCapacity]; omega)
    rwa [Nat.zero_add] at behind

/-- A magic is left over, and the packet behind it is read as its header, which announces as much as
can be held. It takes two packets with it; the third starts two octets behind its end. -/
theorem false_start_takes_two_packets :
    let first := magicOctets ++ [0x10, 0x44, 0, 0, 0, 0, 0xff, 0x76, 255, 0] ++ Bytes.zeros 1024
    let second := writeRequest 0x1000 (List.replicate 115 0)
    let third := writeRequest 0x2000 [7]
    let stream := [first, second, third].flatten
    let reassembler : Reassembler := [Input.push (first.take 2)].foldl Input.apply {}
    let handed := located 0 (reassembler.buffered ++ stream)
    (Reassembler.pushAll [stream.take 1510, stream.drop 1510] reassembler).1 =
        handed.map Prod.snd ∧
      handed.map Prod.fst = [0, 1514] ∧ startingFrom (2 + 1510) handed = [(1514, third)] := by
  intro first second third stream reassembler handed
  have good : ∀ packet ∈ [first, second, third], Framed packet ∧ HasWords packet := by
    have writes (base : UInt32) (values : List UInt32) (some : values.length ≠ 0)
        (few : values.length ≤ 255) :=
      (framed_one_block .request {} 0x0f _ _ base values some few (.inl ⟨rfl, rfl⟩)).imp_right
        And.left
    have forged : Framed first ∧ HasWords first :=
      ⟨⟨⟨_, rfl⟩, by decide +kernel, by decide +kernel⟩, by decide +kernel⟩
    simp only [List.forall_mem_cons]
    exact ⟨forged, writes _ _ (by simp) (by simp), writes _ _ (by simp) (by simp), by simp⟩
  have marked : MagicAtStarts [first, second, third] := by
    apply magic_at_starts_of_tails
    decide +kernel
  have fits : Reassembler.Fits [stream.take 1510, stream.drop 1510] reassembler := by
    decide +kernel
  have kept : reassembler.buffered.length = 2 := by decide +kernel
  obtain ⟨read, behind⟩ := damage_is_bounded [.push (first.take 2)] [first, second, third]
    [stream.take 1510, stream.drop 1510] good marked (by decide +kernel) fits
  refine ⟨?_, by decide +kernel, ?_⟩
  · exact read
  · have last : startingFrom (2 + 1510) (starting 2 [first, second, third]) = [(1514, third)] := by
      decide +kernel
    rw [kept] at behind
    exact behind.trans last

end InstrumentLink.Etherbone
