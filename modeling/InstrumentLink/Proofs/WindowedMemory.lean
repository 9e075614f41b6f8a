import InstrumentLink.Proofs.WordMemory

/-!
A window confines what accesses do to a memory.

Of the words of the address space a window holds the ones that lie in it as a whole. The accesses to
these are accesses to one memory of words; no other access reads or writes an octet, so it is the
same what stands outside the window.
-/

set_option autoImplicit false

namespace InstrumentLink

open Simulation (BusAccess)

namespace Memory

variable {address other : UInt32}

theorem toNat_octet (aligned : address.toNat % 4 = 0) {offset : UInt32}
    (inside : offset.toNat < 4) : (address + offset).toNat = address.toNat + offset.toNat := by
  have bound := address.toNat_lt
  rw [UInt32.toNat_add]
  omega

theorem octet_store_elsewhere (memory : Memory) (value : UInt32) (aligned : address.toNat % 4 = 0)
    (elsewhere : other.toNat < address.toNat ∨ address.toNat + 4 ≤ other.toNat) :
    (memory.store address value).octetAt other = memory.octetAt other := by
  have differ (offset : UInt32) (inside : offset.toNat < 4) : other ≠ address + offset := by
    rw [Ne, ← UInt32.toNat_inj, toNat_octet aligned inside]
    omega
  have first := differ 0 (by decide)
  rw [UInt32.add_zero] at first
  simp only [store, set, if_neg (differ 3 (by decide)), if_neg (differ 2 (by decide)),
    if_neg (differ 1 (by decide)), if_neg first]

theorem octet_store_same {memory another : Memory} (value : UInt32)
    (same : memory.octetAt other = another.octetAt other) :
    (memory.store address value).octetAt other = (another.store address value).octetAt other := by
  simp only [store, set, same]

theorem load_store (memory : Memory) (value : UInt32) (aligned : address.toNat % 4 = 0) :
    (memory.store address value).load address = value := by
  have apart (offset another : UInt32) (inside : offset.toNat < 4) (insideToo : another.toNat < 4)
      (differ : offset.toNat ≠ another.toNat) : ¬address + offset = address + another := by
    rw [← UInt32.toNat_inj, toNat_octet aligned inside, toNat_octet aligned insideToo]
    omega
  have first (offset : UInt32) (inside : offset.toNat < 4) (some : offset.toNat ≠ 0) :
      ¬address = address + offset := by
    rw [← UInt32.toNat_inj, toNat_octet aligned inside]
    omega
  simp only [load, store, set, if_true, if_neg (apart 2 3 (by decide) (by decide) (by decide)),
    if_neg (apart 1 3 (by decide) (by decide) (by decide)),
    if_neg (apart 1 2 (by decide) (by decide) (by decide)),
    if_neg (first 3 (by decide) (by decide)), if_neg (first 2 (by decide) (by decide)),
    if_neg (first 1 (by decide) (by decide))]
  exact Bytes.word32_of_octets value

theorem load_eq {memory another : Memory} (aligned : address.toNat % 4 = 0)
    (same : ∀ octet : UInt32, address.toNat ≤ octet.toNat → octet.toNat < address.toNat + 4 →
      memory.octetAt octet = another.octetAt octet) :
    memory.load address = another.load address := by
  have octet (offset : UInt32) (inside : offset.toNat < 4) :
      memory.octetAt (address + offset) = another.octetAt (address + offset) := by
    have place := toNat_octet aligned inside
    exact same _ (by omega) (by omega)
  rw [load, load, octet 3 (by decide), octet 2 (by decide), octet 1 (by decide),
    same address (Nat.le_refl _) (by omega)]

theorem load_store_elsewhere (memory : Memory) (value : UInt32) (aligned : address.toNat % 4 = 0)
    (alignedToo : other.toNat % 4 = 0) (differ : other ≠ address) :
    (memory.store address value).load other = memory.load other := by
  have apart : other.toNat ≠ address.toNat := fun same => differ (UInt32.toNat_inj.mp same)
  exact load_eq alignedToo fun octet start stop =>
    octet_store_elsewhere memory value aligned (by omega)

end Memory

/-- The words of a window: those at a multiple of four octets that lie in it as a whole. -/
structure Window.Holds (window : Window) (address : UInt32) : Prop where
  aligned : address.toNat % 4 = 0
  start : window.start.toNat ≤ address.toNat
  stop : address.toNat + 4 ≤ window.stop.toNat

/-- The octets of a window. -/
def Window.Covers (window : Window) (octet : UInt32) : Prop :=
  window.start ≤ octet ∧ octet < window.stop

instance (window : Window) : DecidablePred window.Holds := fun address =>
  decidable_of_iff (address.toNat % 4 = 0 ∧ window.start.toNat ≤ address.toNat ∧
      address.toNat + 4 ≤ window.stop.toNat)
    ⟨fun ⟨aligned, start, stop⟩ => ⟨aligned, start, stop⟩,
      fun ⟨aligned, start, stop⟩ => ⟨aligned, start, stop⟩⟩

instance (window : Window) : DecidablePred window.Covers := fun octet =>
  inferInstanceAs (Decidable (window.start ≤ octet ∧ octet < window.stop))

section Windowed

variable {window : Window} {address value : UInt32} {bus : MappedBus}

theorem MappedBus.allows_iff (windowed : bus.window = some window) :
    bus.allows address = true ↔ window.Holds address := by
  have bound := window.stop.toNat_lt
  simp only [allows, windowed, Option.all_some, Window.contains, decide_eq_true_eq,
    Bool.decide_and, Bool.and_eq_true, UInt32.le_iff_toNat_le]
  constructor
  · rintro ⟨aligned, start, -, stop⟩
    exact ⟨aligned, start, stop⟩
  · rintro ⟨aligned, start, stop⟩
    exact ⟨aligned, start, by omega, stop⟩

theorem MappedBus.write_eq (windowed : bus.window = some window) :
    Bus.write address value bus =
      if window.Holds address then
        ({ bus with memory := bus.memory.store address value }, [])
      else (bus, [.busWriteRefused address]) := by
  by_cases holds : window.Holds address
  · rw [if_pos holds]
    exact if_pos ((allows_iff windowed).mpr holds)
  · rw [if_neg holds]
    exact if_neg fun allowed => holds ((allows_iff windowed).mp allowed)

theorem MappedBus.read_eq (windowed : bus.window = some window) :
    Bus.read address bus =
      if window.Holds address then (bus.memory.load address, bus, [])
      else (0, bus, [.busReadRefused address]) := by
  by_cases holds : window.Holds address
  · rw [if_pos holds]
    exact if_pos ((allows_iff windowed).mpr holds)
  · rw [if_neg holds]
    exact if_neg fun allowed => holds ((allows_iff windowed).mp allowed)

end Windowed

/-- The writes that a window lets through, in order. -/
def Window.admitted (window : Window) (accesses : List BusAccess) : List (UInt32 × UInt32) :=
  accesses.filterMap fun
    | .write address value => if window.Holds address then some (address, value) else none
    | .read _ _ => none

section Admitted

variable {window : Window} {address value : UInt32} {accesses : List BusAccess}

theorem Window.admitted_write (holds : window.Holds address) :
    window.admitted (accesses ++ [.write address value]) =
      window.admitted accesses ++ [(address, value)] := by
  simp [admitted, holds]

theorem Window.admitted_refused (refused : ¬window.Holds address) :
    window.admitted (accesses ++ [.write address value]) = window.admitted accesses := by
  simp [admitted, refused]

theorem Window.admitted_read :
    window.admitted (accesses ++ [.read address value]) = window.admitted accesses := by
  simp [admitted]

end Admitted

/-- What accesses through a window come to. The writes to its words are carried out, in order, and
nothing else is; no octet outside changes; each word of it is what was written to it last, and so
reads as that, while everything else reads as zero. -/
structure Confined (window : Window) (before : MappedBus) (accesses : List BusAccess)
    (after : MappedBus) : Prop where
  windowed : after.window = some window
  memory : after.memory = (window.admitted accesses).foldl
    (fun memory access => memory.store access.1 access.2) before.memory
  outside : ∀ octet, ¬window.Covers octet →
    after.memory.octetAt octet = before.memory.octetAt octet
  words : ∀ address, window.Holds address →
    after.memory.load address = latest before.memory.load (window.admitted accesses) address
  reads : ∀ earlier address value later, accesses = earlier ++ .read address value :: later →
    value = if window.Holds address then
      latest before.memory.load (window.admitted earlier) address else 0

namespace Confined

variable {window : Window} {before after : MappedBus} {accesses : List BusAccess}

theorem nil (windowed : before.window = some window) : Confined window before [] before where
  windowed := windowed
  memory := rfl
  outside _ _ := rfl
  words _ _ := rfl
  reads earlier address value later same := by
    cases earlier <;> cases same

theorem reads_concat (confined : Confined window before accesses after) (access : BusAccess)
    (last : ∀ address value, access = .read address value →
      value = if window.Holds address then
        latest before.memory.load (window.admitted accesses) address else 0)
    (earlier : List BusAccess) (address value : UInt32) (later : List BusAccess)
    (same : accesses ++ [access] = earlier ++ .read address value :: later) :
    value = if window.Holds address then
      latest before.memory.load (window.admitted earlier) address else 0 := by
  obtain rfl | ⟨rest, final, rfl⟩ := List.eq_nil_or_concat later
  · obtain ⟨rfl, equal⟩ := List.append_inj' same rfl
    exact last address value (List.cons.inj equal).1
  · rw [List.concat_eq_append, ← List.cons_append, ← List.append_assoc] at same
    obtain ⟨equal, -⟩ := List.append_inj' same rfl
    exact confined.reads earlier address value rest equal

theorem write (confined : Confined window before accesses after) (address value : UInt32) :
    Confined window before (accesses ++ [.write address value])
      (Bus.write address value after).1 := by
  have reads := confined.reads_concat (.write address value) fun _ _ other => nomatch other
  rw [MappedBus.write_eq confined.windowed]
  by_cases holds : window.Holds address
  · rw [if_pos holds]
    refine ⟨confined.windowed, ?_, fun octet elsewhere => ?_, fun word holdsToo => ?_, reads⟩
    · rw [Window.admitted_write holds, List.foldl_append, ← confined.memory]
      rfl
    · -- An octet of the word would be covered by the window.
      have apart : octet.toNat < address.toNat ∨ address.toNat + 4 ≤ octet.toNat := by
        by_contra inside
        refine elsewhere ⟨UInt32.le_iff_toNat_le.mpr ?_, UInt32.lt_iff_toNat_lt.mpr ?_⟩
        · exact Nat.le_trans holds.start (by omega)
        · exact Nat.lt_of_lt_of_le (by omega) holds.stop
      rw [Memory.octet_store_elsewhere _ _ holds.aligned apart, confined.outside octet elsewhere]
    · rw [Window.admitted_write holds, latest_concat]
      split
      · next same =>
          subst same
          exact Memory.load_store _ _ holds.aligned
      · next differ =>
          rw [Memory.load_store_elsewhere _ _ holds.aligned holdsToo.aligned (Ne.symm differ),
            confined.words word holdsToo]
  · rw [if_neg holds]
    have refused := @Window.admitted_refused window address value accesses holds
    refine ⟨confined.windowed, ?_, confined.outside, ?_, reads⟩
    · rw [refused, ← confined.memory]
    · rw [refused]
      exact confined.words

theorem read (confined : Confined window before accesses after) (address : UInt32) :
    Confined window before (accesses ++ [.read address (Bus.read address after).1])
      (Bus.read address after).2.1 := by
  have same : (Bus.read address after).2.1 = after := by
    rw [MappedBus.read_eq confined.windowed]
    split <;> rfl
  have found : (Bus.read address after).1 = if window.Holds address then
      latest before.memory.load (window.admitted accesses) address else 0 := by
    rw [MappedBus.read_eq confined.windowed]
    split
    · next holds => exact confined.words address holds
    · rfl
  rw [same]
  refine ⟨confined.windowed, ?_, confined.outside, ?_, confined.reads_concat _ ?_⟩
  · rw [Window.admitted_read, ← confined.memory]
  · rw [Window.admitted_read]
    exact confined.words
  · rintro _ _ ⟨⟩
    exact found

end Confined

/-- A change of a register space that no access notices, and that no access undoes. -/
structure Bus.Unnoticed {Space : Type} [Bus Space] (change : Space → Space) : Prop where
  read : ∀ address space, Bus.read address (change space) =
    ((Bus.read address space).1, change (Bus.read address space).2.1,
      (Bus.read address space).2.2)
  write : ∀ address value space, Bus.write address value (change space) =
    (change (Bus.write address value space).1, (Bus.write address value space).2)

def Bus.Watched.onSpace {Space : Type} (change : Space → Space) (watched : Watched Space) :
    Watched Space :=
  { watched with space := change watched.space }

namespace Bus.Unnoticed

variable {Space : Type} [Bus Space] {change : Space → Space} (unnoticed : Unnoticed change)

include unnoticed

theorem write_all (accesses : List (UInt32 × UInt32)) (space : Space) :
    writeAll accesses (change space) =
      (change (writeAll accesses space).1, (writeAll accesses space).2) := by
  induction accesses generalizing space with
  | nil => rfl
  | cons access accesses induction => simp only [writeAll, unnoticed.write, induction]

theorem read_all (addresses : List UInt32) (space : Space) :
    readAll addresses (change space) =
      ((readAll addresses space).1, change (readAll addresses space).2.1,
        (readAll addresses space).2.2) := by
  induction addresses generalizing space with
  | nil => rfl
  | cons address addresses induction => simp only [readAll, unnoticed.read, induction]

theorem watched : Unnoticed (Watched.onSpace change) where
  read address watched := by simp only [Bus.read, Watched.onSpace, unnoticed.read]
  write address value watched := by simp only [Bus.write, Watched.onSpace, unnoticed.write]

end Bus.Unnoticed

namespace MappedBus

/-- Whether peers may get at an octet. -/
def Reaches (bus : MappedBus) (octet : UInt32) : Prop :=
  ∀ window ∈ bus.window, window.Covers octet

instance (bus : MappedBus) : DecidablePred bus.Reaches := fun octet =>
  inferInstanceAs (Decidable (∀ window ∈ bus.window, window.Covers octet))

/-- The same memory where peers may get at it, and another one around that. -/
def surroundedBy (outside : Memory) (bus : MappedBus) : MappedBus :=
  { bus with memory := ⟨fun octet =>
      if bus.Reaches octet then bus.memory.octetAt octet else outside.octetAt octet⟩ }

variable {bus : MappedBus} {address octet : UInt32}

theorem reaches_of_allows (allowed : bus.allows address = true)
    (start : address.toNat ≤ octet.toNat) (stop : octet.toNat < address.toNat + 4) :
    bus.Reaches octet := by
  intro window windowed
  have holds := (allows_iff windowed).mp allowed
  refine ⟨UInt32.le_iff_toNat_le.mpr (Nat.le_trans holds.start start), ?_⟩
  exact UInt32.lt_iff_toNat_lt.mpr (Nat.lt_of_lt_of_le stop holds.stop)

theorem aligned_of_allows (allowed : bus.allows address = true) : address.toNat % 4 = 0 :=
  (of_decide_eq_true allowed).1

theorem store_surrounded (outside : Memory) (allowed : bus.allows address = true) (value : UInt32) :
    (bus.surroundedBy outside).memory.store address value =
      (surroundedBy outside { bus with memory := bus.memory.store address value }).memory := by
  refine congrArg Memory.mk (funext fun octet => ?_)
  change ((bus.surroundedBy outside).memory.store address value).octetAt octet =
    if bus.Reaches octet then (bus.memory.store address value).octetAt octet
    else outside.octetAt octet
  by_cases reached : bus.Reaches octet
  · rw [if_pos reached]
    exact Memory.octet_store_same value (if_pos reached)
  · have apart : octet.toNat < address.toNat ∨ address.toNat + 4 ≤ octet.toNat := by
      by_contra inside
      exact reached (reaches_of_allows allowed (by omega) (by omega))
    rw [if_neg reached, Memory.octet_store_elsewhere _ _ (aligned_of_allows allowed) apart]
    exact if_neg reached

theorem load_surrounded (outside : Memory) (allowed : bus.allows address = true) :
    (bus.surroundedBy outside).memory.load address = bus.memory.load address :=
  Memory.load_eq (aligned_of_allows allowed) fun _ start stop =>
    if_pos (reaches_of_allows allowed start stop)

/-- No access can tell what stands where it may not get at. -/
theorem surrounded_unnoticed (outside : Memory) : Bus.Unnoticed (surroundedBy outside) where
  read address bus := by
    have same : (bus.surroundedBy outside).allows address = bus.allows address := rfl
    simp only [Bus.read, same]
    split
    · next allowed => rw [load_surrounded outside allowed]
    · rfl
  write address value bus := by
    have same : (bus.surroundedBy outside).allows address = bus.allows address := rfl
    simp only [Bus.write, same]
    split
    · next allowed =>
        rw [store_surrounded outside allowed]
        rfl
    · rfl

end MappedBus

end InstrumentLink
