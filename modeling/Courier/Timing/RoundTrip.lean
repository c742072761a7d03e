import Courier.Time

/-!
# Smoothed round trips

The estimate of the round-trip time and of its spread follows the usual
exponential smoothing: the spread is moved by a quarter towards the distance of
the new sample from the estimate, then the estimate by an eighth towards the
sample. The arithmetic is a parameter. It runs on floating-point numbers, in
the order in which it is written here; on exact rationals the same formulas can
be reasoned about.
-/

namespace Courier

/-- The numbers in which round trips are estimated, in milliseconds. -/
class Scalar (α : Type) extends Add α, Sub α, Mul α, Div α where
  ofNat : Nat → α
  abs : α → α
  /-- Whether this can be a measurement: a finite number that is not negative. -/
  isSample : α → Bool
  /-- The least whole number above, kept between two bounds. -/
  ceilWithin : (low high : Nat) → α → Nat

instance : Scalar Float where
  ofNat n := n.toUInt64.toFloat
  abs := Float.abs
  isSample x := x.isFinite && !(x < 0)
  ceilWithin low high x :=
    let c := x.ceil
    if c < low.toUInt64.toFloat then low
    else if high.toUInt64.toFloat < c then high
    else c.toUInt64.toNat

instance : Scalar Rat where
  ofNat n := n
  abs x := if x < 0 then -x else x
  isSample x := !(x < 0)
  ceilWithin low high x := (max (low : Int) (min (high : Int) x.ceil)).toNat

/-- The estimate, its spread, and whether any sample has been taken. -/
structure RoundTrip (α : Type) where
  smoothed : α
  spread : α
  sampled : Bool

namespace RoundTrip

variable {α : Type} [Scalar α]

/-- Milliseconds assumed before the first sample. -/
def initialSmoothed : α := Scalar.ofNat 1000

def initialSpread : α := Scalar.ofNat 500

/-- The weight of a new sample in the estimate. -/
def smoothedWeight : α := Scalar.ofNat 1 / Scalar.ofNat 8

/-- The weight of a new distance in the spread. -/
def spreadWeight : α := Scalar.ofNat 1 / Scalar.ofNat 4

/-- How many spreads the advised timeout lies above the estimate. -/
def spreadFactor : α := Scalar.ofNat 4

/-- The advised timeout stays between these numbers of milliseconds. -/
def minTimeout : Nat := 100

def maxTimeout : Nat := 1000

/-- Before any sample: values from which the advised timeout is the highest. -/
def initial : RoundTrip α := ⟨initialSmoothed, initialSpread, false⟩

/-- Takes in a sample; one that is no measurement changes nothing. -/
def record (r : RoundTrip α) (sample : α) : Bool × RoundTrip α :=
  if Scalar.isSample sample then
    let next :=
      if r.sampled then
        { smoothed := (Scalar.ofNat 1 - smoothedWeight) * r.smoothed + smoothedWeight * sample
          spread := (Scalar.ofNat 1 - spreadWeight) * r.spread +
            spreadWeight * Scalar.abs (r.smoothed - sample)
          sampled := true }
      else ⟨sample, sample / Scalar.ofNat 2, true⟩
    (true, next)
  else (false, r)

/-- A duration as a sample: whole seconds and the nanoseconds beyond them, in
milliseconds. -/
def sampleOf (t : Nat) : α :=
  (Scalar.ofNat (t / 1000000000) + Scalar.ofNat (t % 1000000000) / Scalar.ofNat 1000000000) *
    Scalar.ofNat 1000

def update (r : RoundTrip α) (t : Nat) : Bool × RoundTrip α := r.record (sampleOf t)

/-- The advised timeout in milliseconds. -/
def timeout (r : RoundTrip α) : Nat :=
  Scalar.ceilWithin minTimeout maxTimeout (r.smoothed + spreadFactor * r.spread)

theorem record_of_isSample_eq_false (r : RoundTrip α) {sample : α}
    (h : Scalar.isSample sample = false) : r.record sample = (false, r) := by
  simp [record, h]

end RoundTrip
end Courier
