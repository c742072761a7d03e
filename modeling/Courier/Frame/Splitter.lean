import Courier.Frame.Basic

/-!
# A whole stream cut into frames

`Frame.split` says what a stream of bytes means: take a length, stop if it is
above the maximum, else take as many bytes, until what is left is no whole
frame. It looks at the stream in one piece and keeps no state, so it is the
measure of every reader that gets the stream piece by piece.
-/

namespace Courier.Frame

/-- How a stream ends: inside a frame, of which these bytes are there, or at a
length that is not admitted. -/
inductive Tail
  | rest (bytes : List UInt8)
  | tooLarge (declared : Nat)
  deriving DecidableEq, Repr

structure Split where
  frames : List (List UInt8)
  tail : Tail
  deriving DecidableEq, Repr

/-- The frames of a stream in order, and how it ends. -/
def split (max : Nat) (stream : List UInt8) : Split :=
  if stream.length < headerSize then ⟨[], .rest stream⟩
  else
    let declared := ofBigEndian (stream.take headerSize)
    if max < declared then ⟨[], .tooLarge declared⟩
    else if stream.length < headerSize + declared then ⟨[], .rest stream⟩
    else
      let later := split max (stream.drop (headerSize + declared))
      ⟨(stream.drop headerSize).take declared :: later.frames, later.tail⟩
termination_by stream.length
decreasing_by
  simp only [headerSize, List.length_drop] at *
  omega

end Courier.Frame
