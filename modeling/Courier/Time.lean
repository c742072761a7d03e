/-!
# Time

Instants and durations are natural numbers of nanoseconds; an instant counts
from an origin that nobody reads. Everything on the wire is in milliseconds,
so the two conversions below are the only ones.
-/

namespace Courier

def millis (n : Nat) : Nat := n * 1000000

/-- Whole milliseconds of a duration; what is left over is dropped. -/
def wholeMillis (t : Nat) : Nat := t / 1000000

/-- The first whole millisecond that is not before an instant. -/
def nextMilli (t : Nat) : Nat := millis ((t + 999999) / 1000000)

/-- Keeps a duration between two bounds. -/
def clamp (low high t : Nat) : Nat := max low (min high t)

theorem clamp_le {low high : Nat} (h : low ≤ high) (t : Nat) : clamp low high t ≤ high := by
  simp only [clamp]
  omega

theorem le_clamp (low high t : Nat) : low ≤ clamp low high t := by
  simp only [clamp]
  omega

theorem clamp_eq_self {low high t : Nat} (hl : low ≤ t) (hh : t ≤ high) :
    clamp low high t = t := by
  simp only [clamp]
  omega

end Courier
