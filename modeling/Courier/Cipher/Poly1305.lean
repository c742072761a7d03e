import Courier.Bytes

/-!
# Poly1305 tags

A message is cut into blocks of sixteen bytes, each read as a little-endian
number with a one above its last byte. The tag is the value of the polynomial
with these coefficients at the first half of the key, modulo the prime
`2 ^ 130 - 5`, plus the second half of the key.
-/

namespace Courier.Poly1305

def prime : Nat := (1 <<< 130) - 5

/-- The bits of the first half of a key that are kept. -/
def clampMask : Nat := 0x0ffffffc0ffffffc0ffffffc0fffffff

def ofLittleEndian : List UInt8 → Nat
  | [] => 0
  | b :: rest => b.toNat + 256 * ofLittleEndian rest

def littleEndian : (width : Nat) → Nat → List UInt8
  | 0, _ => []
  | width + 1, n => UInt8.ofNat (n % 256) :: littleEndian width (n / 256)

/-- The polynomial's value after the blocks of a message. -/
def accumulate (r : Nat) (value : Nat) (message : List UInt8) : Nat :=
  if message.isEmpty then value
  else
    accumulate r ((value + ofLittleEndian (message.take 16 ++ [1])) * r % prime) (message.drop 16)
termination_by message.length
decreasing_by
  cases message with
  | nil => simp at *
  | cons b rest => simp only [List.length_drop, List.length_cons]; omega

def tag (key message : List UInt8) : List UInt8 :=
  let r := ofLittleEndian (key.take 16) &&& clampMask
  let s := ofLittleEndian ((key.drop 16).take 16)
  littleEndian 16 ((accumulate r 0 message + s) % (1 <<< 128))

@[simp] theorem length_littleEndian (width n : Nat) : (littleEndian width n).length = width := by
  induction width generalizing n with
  | zero => rfl
  | succ width ih => simp [littleEndian, ih]

@[simp] theorem length_tag (key message : List UInt8) : (tag key message).length = 16 := by
  simp [tag]

end Courier.Poly1305
