import InstrumentLink.Proofs.FaithfulRing
import InstrumentLink.Proofs.FrameOctets
import InstrumentLink.Proofs.WireFormat

/-!
Appending a frame check sequence and checking it undo each other.

The two agree on which octets the sequence covers, on the order of its octets, and on the length
that goes with it. What the check accepts is what the append would have written, and what the append
wrote is accepted if the frame has a preamble and a header.
-/

set_option autoImplicit false

namespace InstrumentLink.Ethernet

theorem append_returns_iff (buffer : Bytes) (length : Nat) :
    (∃ framed, appendFrameCheck buffer length = .ok framed) ↔
      preambleLength ≤ length ∧ length + frameCheckLength ≤ buffer.length := by
  constructor
  · rintro ⟨framed, appended⟩
    unfold appendFrameCheck at appended
    split at appended
    · cases appended
    · split at appended
      · cases appended
      · omega
  · rintro ⟨front, room⟩
    obtain ⟨framed, appended⟩ := SlotRing.append_returns front room
    exact ⟨_, appended⟩

theorem append_eq_overwrite {buffer framed : Bytes} {length framedLength : Nat}
    (appended : appendFrameCheck buffer length = .ok (framedLength, framed)) :
    framedLength = length + frameCheckLength ∧
      Bytes.overwrite buffer length (frameCheck ((buffer.take length).drop preambleLength)) =
        .ok framed := by
  obtain ⟨front, room⟩ := (append_returns_iff buffer length).mp ⟨_, appended⟩
  rw [appendFrameCheck, if_neg (Nat.not_lt.mpr front), if_neg (Nat.not_lt.mpr room)] at appended
  cases appended
  exact ⟨rfl, if_pos room⟩

/-- Everything that the check looks at. -/
theorem check_framing_iff (framed : Bytes) (stop : Nat) :
    checkFraming framed = .ok stop ↔
      preambleLength + headerLength ≤ stop ∧ stop + frameCheckLength = framed.length ∧
      framed.take preambleLength = preamble ∧
      frameCheck ((framed.take stop).drop preambleLength) = framed.drop stop := by
  constructor
  · intro checked
    obtain ⟨long, whole⟩ := check_framing_inside checked
    refine ⟨long, whole, ?_⟩
    unfold checkFraming at checked
    split at checked
    · cases checked
    · split at checked
      · cases checked
      · next front =>
          dsimp only at checked
          split at checked
          · cases checked
          · next verified =>
              cases checked
              exact ⟨not_not.mp front, not_not.mp verified⟩
  · rintro ⟨long, whole, front, verified⟩
    have bodyEnd : framed.length - frameCheckLength = stop := by omega
    unfold checkFraming
    rw [if_neg (by omega), if_neg (not_not.mpr front)]
    dsimp only
    rw [bodyEnd, if_neg (not_not.mpr verified)]

theorem check_appended_iff {buffer framed : Bytes} {length framedLength : Nat}
    (appended : appendFrameCheck buffer length = .ok (framedLength, framed)) :
    checkFraming (framed.take framedLength) = .ok length ↔
      buffer.take preambleLength = preamble ∧ preambleLength + headerLength ≤ length := by
  obtain ⟨front, room⟩ := (append_returns_iff buffer length).mp ⟨_, appended⟩
  obtain ⟨rfl, same⟩ := SlotRing.finish_of_append appended
  have body : (buffer.take length).length = length := by
    rw [List.length_take]
    omega
  rw [same, SlotRing.finish, if_pos rfl, check_framing_iff, List.take_left' body,
    List.drop_left' body, List.length_append, body, length_frame_check,
    List.take_append_of_le_length (by omega), List.take_take, Nat.min_eq_left front]
  constructor
  · rintro ⟨long, -, starts, -⟩
    exact ⟨starts, long⟩
  · rintro ⟨starts, long⟩
    exact ⟨long, rfl, starts, rfl⟩

/-- Where a frame was accepted, its own sequence is what would be appended, whatever stands behind
the body. -/
theorem append_checked {framed : Bytes} {stop : Nat} (checked : checkFraming framed = .ok stop)
    {behind : Bytes} (room : frameCheckLength ≤ behind.length) :
    appendFrameCheck (framed.take stop ++ behind) stop =
      .ok (framed.length, framed ++ behind.drop frameCheckLength) := by
  obtain ⟨long, whole, -, verified⟩ := (check_framing_iff framed stop).mp checked
  have body : (framed.take stop).length = stop := by
    rw [List.length_take]
    omega
  have split : framed.take stop ++ frameCheck ((framed.take stop).drop preambleLength) = framed := by
    rw [verified, List.take_append_drop]
  unfold appendFrameCheck
  rw [if_neg (by omega), if_neg (by rw [List.length_append]; omega), List.take_left' body]
  dsimp only
  rw [split, ← List.drop_drop, List.drop_left' body, whole]

/-- What stands in a buffer once a sequence was to be appended. -/
def afterAppending (buffer : Bytes) (length : Nat) : Bytes :=
  match appendFrameCheck buffer length with
  | .ok (_, framed) => framed
  | .error _ => buffer

theorem length_after_appending (buffer : Bytes) (length : Nat) :
    (afterAppending buffer length).length = buffer.length := by
  unfold afterAppending
  split
  · next framedLength framed appended =>
      obtain ⟨-, written⟩ := append_eq_overwrite appended
      exact Bytes.length_overwrite written
  · rfl

theorem with_framing_body (frame : Bytes) :
    ((withFraming frame).drop preambleLength).take frame.length = frame := by
  rw [withFraming, List.append_assoc, List.drop_left' length_preamble, List.take_left]

theorem getElem_after_appending (buffer : Bytes) (length : Nat) {index : Nat}
    (outside : index < length ∨ length + frameCheckLength ≤ index) :
    (afterAppending buffer length)[index]? = buffer[index]? := by
  unfold afterAppending
  split
  · next framedLength framed appended =>
      obtain ⟨-, written⟩ := append_eq_overwrite appended
      rw [Bytes.getElem_overwritten written, if_neg]
      rw [length_frame_check]
      omega
  · rfl

/-- For every buffer and every length: a sequence is appended exactly if the preamble is there and
the sequence has room; it takes four octets and touches no other, and what comes of it is accepted
exactly if it starts with the preamble and has a header. What is accepted at all is what is appended
to its own body, and a frame with framing put around it is accepted and found again. -/
theorem framing_and_its_check_are_inverse :
    (∀ (buffer : Bytes) (length : Nat),
      ((∃ framed, appendFrameCheck buffer length = .ok framed) ↔
        8 ≤ length ∧ length + 4 ≤ buffer.length) ∧
      (afterAppending buffer length).length = buffer.length ∧
      (∀ index, index < length ∨ length + 4 ≤ index →
        (afterAppending buffer length)[index]? = buffer[index]?) ∧
      (∀ cause, appendFrameCheck buffer length = .error cause →
        afterAppending buffer length = buffer) ∧
      ∀ framedLength framed, appendFrameCheck buffer length = .ok (framedLength, framed) →
        framedLength = length + 4 ∧
        (checkFraming (framed.take (length + 4)) = .ok length ↔
          buffer.take 8 = preamble ∧ 22 ≤ length)) ∧
    (∀ (framed : Bytes) (stop : Nat), checkFraming framed = .ok stop →
      stop = framed.length - 4 ∧
      ∀ behind : Bytes, 4 ≤ behind.length →
        appendFrameCheck (framed.take stop ++ behind) stop =
          .ok (framed.length, framed ++ behind.drop 4)) ∧
    ∀ frame : Bytes, 14 ≤ frame.length →
      checkFraming (withFraming frame) = .ok (8 + frame.length) ∧
      ((withFraming frame).drop 8).take frame.length = frame := by
  refine ⟨fun buffer length => ⟨append_returns_iff buffer length, ?_, ?_, ?_, ?_⟩, ?_, ?_⟩
  · exact length_after_appending buffer length
  · exact fun index outside => getElem_after_appending buffer length outside
  · intro cause refused
    rw [afterAppending, refused]
  · intro framedLength framed appended
    obtain ⟨rfl, -⟩ := append_eq_overwrite appended
    exact ⟨rfl, check_appended_iff appended⟩
  · intro framed stop checked
    have inside := (check_framing_inside checked).2
    have check : frameCheckLength = 4 := rfl
    exact ⟨by omega, fun behind room => append_checked checked room⟩
  · intro frame header
    exact ⟨check_framing_with_framing header, with_framing_body frame⟩

/-- The shortest frame there is. -/
theorem blank_header_framed_and_checked :
    ∃ framed, appendFrameCheck (preamble ++ Bytes.zeros 18) 22 = .ok (26, framed) ∧
      checkFraming framed = .ok 22 ∧
      appendFrameCheck (framed.take 22 ++ Bytes.zeros 4) 22 = .ok (26, framed) := by
  obtain ⟨appends, checks, -⟩ := framing_and_its_check_are_inverse
  obtain ⟨returns, length, -, -, there⟩ := appends (preamble ++ Bytes.zeros 18) 22
  obtain ⟨⟨framedLength, framed⟩, appended⟩ := returns.mpr (by decide)
  obtain ⟨rfl, accepted⟩ := there framedLength framed appended
  rw [afterAppending, appended] at length
  have whole : framed.length = 26 := length
  have checked : checkFraming framed = .ok 22 := by
    rw [← accepted.mpr ⟨by decide, by decide⟩, List.take_of_length_le (Nat.le_of_eq whole)]
  refine ⟨framed, appended, checked, ?_⟩
  rw [(checks framed 22 checked).2 (Bytes.zeros 4) (by decide), whole,
    List.drop_of_length_le (by decide), List.append_nil]

end InstrumentLink.Ethernet
