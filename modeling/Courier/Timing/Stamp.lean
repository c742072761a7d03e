import Courier.Record

/-!
# Stamps

Sixteen bits of a millisecond clock. A clock that reads `noEcho` in its low
bits is stamped as zero, since that stamp has another meaning.
-/

namespace Courier.Stamp

/-- The stamp of a clock reading in milliseconds. -/
def ofMillis (ms : Nat) : UInt16 :=
  let low := UInt16.ofNat (ms % 65536)
  if low = noEcho then 0 else low

/-- Milliseconds from the older stamp to the newer one, on a clock that wraps. -/
def since (new old : UInt16) : UInt16 := new - old

theorem ofMillis_ne_noEcho (ms : Nat) : ofMillis ms ≠ noEcho := by
  unfold ofMillis
  dsimp only
  split
  · decide
  · assumption

end Courier.Stamp
