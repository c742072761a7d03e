import Courier.Bytes

/-!
# Frames

A frame is a big-endian length in four bytes and as many bytes of content.
Both ends keep to one maximum: `Frame.encode` checks the content before it
computes the length, and a receiver checks the length before it waits for the
content.
-/

namespace Courier

/-- Why a frame cannot be written or read. Once one of these has been seen on a
stream, the place where the next frame starts is lost. -/
inductive FrameError
  /-- The content to be sent is above the maximum. -/
  | payloadTooLarge (size max : Nat)
  /-- The peer announces more than the maximum. -/
  | frameTooLarge (declared max : Nat)
  /-- The bytes offered do not fit beside those held. -/
  | bufferOverflow (held incoming limit : Nat)
  deriving DecidableEq, Repr

def FrameError.message : FrameError → String
  | .payloadTooLarge size max => s!"payload too large: {size} bytes exceeds maximum of {max}"
  | .frameTooLarge declared max =>
    s!"frame too large: peer declared {declared} bytes, maximum is {max}"
  | .bufferOverflow held incoming limit =>
    s!"receive buffer overflow: {held} buffered + {incoming} incoming exceeds {limit}"

namespace Frame

/-- Bytes of the length in front of a frame. -/
def headerSize : Nat := 4

/-- The largest content of a frame under any settings: one mebibyte. -/
def maxSize : Nat := 1048576

/-- The largest number that the length can express. -/
def maxDeclared : Nat := 4294967295

/-- The frame around a content. The length in front must be able to express the
size, whatever the maximum allows. -/
def encode (max : Nat) (payload : ByteArray) : Except FrameError ByteArray :=
  if max < payload.size then .error (.payloadTooLarge payload.size max)
  else if maxDeclared < payload.size then .error (.payloadTooLarge payload.size maxDeclared)
  else .ok (packed (bigEndian headerSize payload.size) ++ payload)

theorem encode_eq_ok {max : Nat} {payload : ByteArray} (h : payload.size ≤ max)
    (h' : payload.size ≤ maxDeclared) :
    encode max payload = .ok (packed (bigEndian headerSize payload.size) ++ payload) := by
  rw [encode, if_neg (by omega), if_neg (by omega)]

end Frame
end Courier
