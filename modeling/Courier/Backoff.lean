import Courier.Time

/-!
# Waiting between attempts to reconnect

Nothing here sleeps. An outage is the number of attempts that have failed and
the instant from which the next may be made; each failure doubles the wait
after it, up to a ceiling.
-/

namespace Courier

structure Backoff where
  failures : Nat
  next : Nat
  deriving DecidableEq, Repr

namespace Backoff

def baseDelay : Nat := millis 100

/-- The wait is doubled at most so often. -/
def maxDoublings : Nat := 5

def maxDelay : Nat := millis 5000

/-- The count of failures stays at this number once it is reached. -/
def maxFailures : Nat := 4294967295

/-- The wait after so many failures. -/
def delay (failures : Nat) : Nat := min (baseDelay * (1 <<< min failures maxDoublings)) maxDelay

/-- A new outage, in which the first attempt may be made at once. -/
def start (now : Nat) : Backoff := ⟨0, now⟩

variable (b : Backoff)

def isDue (now : Nat) : Bool := b.next ≤ now

/-- The outage after another failure, which ended now. -/
def fail (now : Nat) : Backoff :=
  let failures := min (b.failures + 1) maxFailures
  ⟨failures, now + delay failures⟩

@[simp] theorem isDue_start (now : Nat) : (start now).isDue now = true := by simp [isDue, start]

theorem delay_mono {m n : Nat} (h : m ≤ n) : delay m ≤ delay n := by
  have hexp : 1 <<< min m maxDoublings ≤ 1 <<< min n maxDoublings := by
    rw [Nat.one_shiftLeft, Nat.one_shiftLeft]
    exact Nat.pow_le_pow_right (by decide) (by omega)
  have hmul := Nat.mul_le_mul_left baseDelay hexp
  simp only [delay]
  omega

@[simp] theorem next_fail (now : Nat) : (b.fail now).next = now + delay (b.fail now).failures := rfl

end Backoff
end Courier
