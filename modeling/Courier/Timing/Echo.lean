import Courier.Timing.Stamp
import Courier.Time

/-!
# Echoes

Each end stamps its records by a clock of its own and sends the latest stamp
of the peer back once, moved on by the whole milliseconds it was held. From an
echo of its own stamp an end reads off how long the round trip took.
-/

namespace Courier

/-- The origin of the local clock, and the peer's stamp that waits to be sent
back, with the instant at which it came. -/
structure Echo where
  origin : Nat
  pending : Option (UInt16 × Nat)

namespace Echo

/-- A stamp held this long is not sent back. -/
def holdLimit : Nat := millis 1000

/-- A round trip of so many milliseconds or more is no measurement. -/
def maxSample : Nat := 5000

def start (origin : Nat) : Echo := ⟨origin, none⟩

variable (e : Echo)

def hasPending : Bool := e.pending.isSome

/-- The stamp of a record sent at this instant. -/
def stampAt (now : Nat) : UInt16 := Stamp.ofMillis (wholeMillis (now - e.origin))

/-- The echo for a record sent at this instant. The pending stamp is used up,
whether or not it can be sent back. -/
def take (now : Nat) : Option UInt16 × Echo :=
  match e.pending with
  | none => (none, e)
  | some (stamp, since) =>
    let held := now - since
    let echo := stamp + UInt16.ofNat (wholeMillis held)
    (if holdLimit ≤ held ∨ echo = noEcho then none else some echo, { e with pending := none })

/-- Keeps the stamp of a received record, and measures the round trip if the
record carries a plausible echo. An echo of a stamp still to come wraps to a
value that is too large. -/
def receive (now : Nat) (stamp : UInt16) (echo : Option UInt16) : Option Nat × Echo :=
  let sample := echo.bind fun r =>
    let trip := (Stamp.since (e.stampAt now) r).toNat
    if trip < maxSample then some trip else none
  (sample, { e with pending := some (stamp, now) })

@[simp] theorem pending_take (now : Nat) : (e.take now).2.pending = none := by
  unfold take
  split
  · assumption
  · rfl

@[simp] theorem pending_receive (now : Nat) (stamp : UInt16) (echo : Option UInt16) :
    (e.receive now stamp echo).2.pending = some (stamp, now) := rfl

theorem sample_lt_of_receive {now : Nat} {stamp : UInt16} {echo : Option UInt16} {n : Nat}
    (h : (e.receive now stamp echo).1 = some n) : n < maxSample := by
  unfold receive at h
  cases echo with
  | none => simp at h
  | some r =>
    simp only [Option.bind_some] at h
    split at h
    · cases h; assumption
    · cases h

end Echo
end Courier
