import InstrumentLink.Ethernet.Frame
import InstrumentLink.Checksum.Crc32

/-!
Framing in software: the preamble in front of a frame and the frame check sequence behind it, for a
MAC that leaves both to its driver.

The check sequence is the CRC-32 of the frame without its preamble, least significant octet first.
-/

set_option autoImplicit false

namespace InstrumentLink.Ethernet

def preamble : Bytes := [0x55, 0x55, 0x55, 0x55, 0x55, 0x55, 0x55, 0xd5]

def preambleLength : Nat := 8

def frameCheckLength : Nat := 4

def frameCheck (frame : Bytes) : Bytes := Bytes.ofWord32Reversed (Checksum.Crc32.ofBytes frame)

inductive FramingError where
  | shorterThanPreamble
  | noRoomForFrameCheck
  | tooShort
  | badPreamble
  | frameCheckMismatch
  deriving DecidableEq, Repr

def FramingError.message : FramingError → String
  | .shorterThanPreamble => "Frame is shorter than its preamble"
  | .noRoomForFrameCheck => "No room for the frame check sequence"
  | .tooShort => "Frame too short to carry preamble, header and FCS"
  | .badPreamble => "Bad preamble"
  | .frameCheckMismatch => "Frame check sequence mismatch"

/-- Writes the frame check sequence behind the first `length` octets of a buffer and gives the new
frame length with the buffer. The preamble is part of the length but not of the sequence. -/
def appendFrameCheck (buffer : Bytes) (length : Nat) : Except FramingError (Nat × Bytes) :=
  if length < preambleLength then .error .shorterThanPreamble
  else if buffer.length < length + frameCheckLength then .error .noRoomForFrameCheck
  else
    let covered := (buffer.take length).drop preambleLength
    .ok (length + frameCheckLength,
      buffer.take length ++ frameCheck covered ++ buffer.drop (length + frameCheckLength))

/-- Verifies preamble and frame check sequence and gives the length without the latter; the
preamble is still counted. -/
def checkFraming (framed : Bytes) : Except FramingError Nat :=
  if framed.length < preambleLength + headerLength + frameCheckLength then .error .tooShort
  else if framed.take preambleLength ≠ preamble then .error .badPreamble
  else
    let bodyEnd := framed.length - frameCheckLength
    if frameCheck ((framed.take bodyEnd).drop preambleLength) ≠ framed.drop bodyEnd then
      .error .frameCheckMismatch
    else .ok bodyEnd

def withFraming (frame : Bytes) : Bytes := preamble ++ frame ++ frameCheck frame

@[simp] theorem length_frame_check (frame : Bytes) :
    (frameCheck frame).length = frameCheckLength := rfl

end InstrumentLink.Ethernet
