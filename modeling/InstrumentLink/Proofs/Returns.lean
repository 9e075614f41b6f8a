import InstrumentLink.Address
import Mathlib.Data.List.GetD

/-!
Computations that come to an answer.

A computation of the library stops with a fault where octets are addressed that are not there.
`Returns` says that it does not stop, and what holds of its answer; it is proved along the
computation, one step after the other. Reading and writing return exactly when the octets addressed
lie inside the string.
-/

set_option autoImplicit false

namespace InstrumentLink

/-- A computation comes to an answer, and the answer is good. -/
def Returns {Answer : Type} (computation : Except Fault Answer) (good : Answer → Prop) : Prop :=
  ∃ answer, computation = .ok answer ∧ good answer

namespace Returns

variable {First Second : Type}

theorem ok {answer : First} {good : First → Prop} (holds : good answer) :
    Returns (.ok answer) good :=
  ⟨answer, rfl, holds⟩

theorem mono {computation : Except Fault First} {good better : First → Prop}
    (returns : Returns computation good) (weaker : ∀ answer, good answer → better answer) :
    Returns computation better := by
  obtain ⟨answer, same, holds⟩ := returns
  exact ⟨answer, same, weaker answer holds⟩

/-- What is seen of an answer shows that there is one. -/
theorem of_seen {Seen : Type} {computation : Except Fault First} {look : First → Seen} {seen : Seen}
    (same : computation.toOption.map look = some seen) :
    Returns computation fun answer => look answer = seen := by
  cases computation with
  | error fault => cases same
  | ok answer => exact ok (Option.some.inj same)

theorem of_map {computation : Except Fault First} {change : First → Second} {good : Second → Prop}
    (returns : Returns (change <$> computation) good) :
    Returns computation fun answer => good (change answer) := by
  obtain ⟨changed, same, holds⟩ := returns
  cases computation with
  | error fault => cases same
  | ok answer =>
      cases same
      exact ok holds

theorem bind {computation : Except Fault First} {continuation : First → Except Fault Second}
    {good : First → Prop} {better : Second → Prop} (first : Returns computation good)
    (second : ∀ answer, good answer → Returns (continuation answer) better) :
    Returns (computation >>= continuation) better := by
  obtain ⟨answer, same, holds⟩ := first
  rw [same]
  exact second answer holds

theorem bind_ok {computation : Except Fault First} {answer : First}
    {continuation : First → Except Fault Second} {better : Second → Prop}
    (same : computation = .ok answer) (second : Returns (continuation answer) better) :
    Returns (computation >>= continuation) better := by
  rw [same]
  exact second

end Returns

/-- Whatever a computation comes to is good; it may stop instead. -/
def Yields {Answer : Type} (computation : Except Fault Answer) (good : Answer → Prop) : Prop :=
  match computation with
  | .ok answer => good answer
  | .error _ => True

theorem Returns.yields {Answer : Type} {computation : Except Fault Answer} {good : Answer → Prop}
    (returns : Returns computation good) : Yields computation good := by
  obtain ⟨_, rfl, holds⟩ := returns
  exact holds

namespace Yields

variable {First Second : Type} {computation : Except Fault First}

theorem ok {answer : First} {good : First → Prop} (holds : good answer) :
    Yields (.ok answer) good :=
  holds

theorem intro (computation : Except Fault First) : Yields computation fun _ => True := by
  cases computation <;> trivial

theorem self (computation : Except Fault First) :
    Yields computation fun answer => computation = .ok answer := by
  cases computation with
  | error fault => trivial
  | ok answer => rfl

theorem of_ok {answer : First} {good : First → Prop} (yields : Yields computation good)
    (same : computation = .ok answer) : good answer := by
  rwa [same] at yields

theorem mono {good better : First → Prop} (yields : Yields computation good)
    (weaker : ∀ answer, good answer → better answer) : Yields computation better := by
  cases computation with
  | error fault => trivial
  | ok answer => exact weaker answer yields

theorem and {good better : First → Prop} (yields : Yields computation good)
    (other : Yields computation better) :
    Yields computation fun answer => good answer ∧ better answer := by
  cases computation with
  | error fault => trivial
  | ok answer => exact ⟨yields, other⟩

theorem bind {continuation : First → Except Fault Second} {good : First → Prop}
    {better : Second → Prop} (first : Yields computation good)
    (second : ∀ answer, good answer → Yields (continuation answer) better) :
    Yields (computation >>= continuation) better := by
  cases computation with
  | error fault => trivial
  | ok answer => exact second answer first

theorem bind_ok {answer : First} {continuation : First → Except Fault Second}
    {better : Second → Prop} (same : computation = .ok answer)
    (second : Yields (continuation answer) better) :
    Yields (computation >>= continuation) better := by
  rw [same]
  exact second

end Yields

theorem Returns.and {Answer : Type} {computation : Except Fault Answer}
    {good better : Answer → Prop} (returns : Returns computation good)
    (yields : Yields computation better) :
    Returns computation fun answer => good answer ∧ better answer := by
  obtain ⟨answer, same, holds⟩ := returns
  exact ⟨answer, same, holds, yields.of_ok same⟩

/-- What is said of computations one step after the other: that they come to a good answer, or that
whatever they come to is good. -/
structure Verdict where
  Says : ∀ {Answer : Type}, Except Fault Answer → (Answer → Prop) → Prop
  ok : ∀ {Answer : Type} {answer : Answer} {good : Answer → Prop},
    good answer → Says (.ok answer) good
  bind : ∀ {First Second : Type} {computation : Except Fault First}
    {continuation : First → Except Fault Second} {good : First → Prop} {better : Second → Prop},
    Says computation good → (∀ answer, good answer → Says (continuation answer) better) →
      Says (computation >>= continuation) better

abbrev Verdict.returns : Verdict := ⟨Returns, Returns.ok, Returns.bind⟩

abbrev Verdict.yields : Verdict := ⟨Yields, Yields.ok, Yields.bind⟩

theorem ok_of_to_option {Cause Answer : Type} {computation : Except Cause Answer} {answer : Answer}
    (same : computation.toOption = some answer) : computation = .ok answer := by
  cases computation with
  | error cause => cases same
  | ok found =>
      cases same
      rfl

theorem map_m_ok {Item Answer : Type} (step : Item → Except Fault Answer) (answer : Item → Answer)
    (items : List Item) (each : ∀ item ∈ items, step item = .ok (answer item)) :
    items.mapM step = .ok (items.map answer) := by
  induction items with
  | nil => rfl
  | cons item items induction =>
      obtain ⟨first, later⟩ := List.forall_mem_cons.mp each
      rw [List.mapM_cons, first, induction later]
      rfl

namespace Bytes

theorem drop_eq_cons (data : Bytes) (index : Nat) (inside : index < data.length) :
    data.drop index = data.getD index 0 :: data.drop (index + 1) := by
  rw [List.drop_eq_getElem_cons inside, List.getD_eq_getElem _ _ inside]

theorem octet_at_inside (data : Bytes) (index : Nat) (inside : index < data.length) :
    octetAt data index = .ok (data.getD index 0) := by
  unfold octetAt
  rw [List.getElem?_eq_getElem inside, List.getD_eq_getElem _ _ inside]

theorem word16_at_inside (data : Bytes) (index : Nat) (inside : index + 2 ≤ data.length) :
    word16At data index = .ok (word16 (data.getD index 0) (data.getD (index + 1) 0)) := by
  unfold word16At
  rw [drop_eq_cons data index (by omega), drop_eq_cons data (index + 1) (by omega)]

def wordAt (data : Bytes) (index : Nat) : UInt32 :=
  word32 (data.getD index 0) (data.getD (index + 1) 0) (data.getD (index + 2) 0)
    (data.getD (index + 3) 0)

theorem word32_at_inside (data : Bytes) (index : Nat) (inside : index + 4 ≤ data.length) :
    word32At data index = .ok (wordAt data index) := by
  unfold word32At wordAt
  rw [drop_eq_cons data index (by omega), drop_eq_cons data (index + 1) (by omega),
    drop_eq_cons data (index + 2) (by omega), drop_eq_cons data (index + 3) (by omega)]

theorem word32_at_outside (data : Bytes) (index : Nat) (outside : data.length < index + 4) :
    word32At data index = .error .outsideBuffer := by
  have short : (data.drop index).length < 4 := by
    rw [List.length_drop]
    omega
  unfold word32At
  split
  · next follows =>
      rw [follows] at short
      simp only [List.length_cons] at short
      omega
  · rfl

theorem slice_inside (data : Bytes) (start stop : Nat) (order : start ≤ stop)
    (inside : stop ≤ data.length) :
    slice data start stop = .ok ((data.drop start).take (stop - start)) :=
  if_pos ⟨order, inside⟩

theorem suffix_inside (data : Bytes) (start : Nat) (inside : start ≤ data.length) :
    suffix data start = .ok (data.drop start) :=
  if_pos inside

theorem overwrite_inside (data : Bytes) (start : Nat) (patch : Bytes)
    (inside : start + patch.length ≤ data.length) :
    Returns (overwrite data start patch) fun result => result.length = data.length := by
  have written : overwrite data start patch = .ok _ := if_pos inside
  exact ⟨_, written, length_overwrite written⟩

end Bytes

end InstrumentLink
