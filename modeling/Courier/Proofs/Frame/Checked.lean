import Courier.Frame.Accumulator

/-!
# Cutting bytes within bounds

Cutting a piece out of an array of bytes means something only if the piece lies
within the array. The operations here have no result otherwise, and the copies
of the model's functions that are made of them show whether it always does.
-/

namespace Courier

/-- The bytes from one place to another, if they are there. -/
def slice? (b : ByteArray) (start stop : Nat) : Option ByteArray :=
  if start ≤ stop ∧ stop ≤ b.size then some (b.extract start stop) else none

/-- What stays of an array when so many bytes go, if there are so many. -/
def drain? (b : ByteArray) (count : Nat) : Option ByteArray :=
  if count ≤ b.size then some (b.extract count b.size) else none

/-- The bytes before a place and those from there on, if there is such a place. -/
def splitAt? (l : List UInt8) (place : Nat) : Option (List UInt8 × List UInt8) :=
  if place ≤ l.length then some (l.take place, l.drop place) else none

/-- The bytes before the last so many and those, if there are so many. -/
def splitEnd? (l : List UInt8) (count : Nat) : Option (List UInt8 × List UInt8) :=
  if count ≤ l.length then some (l.take (l.length - count), l.drop (l.length - count)) else none

theorem slice?_eq {b : ByteArray} {start stop : Nat} (h : start ≤ stop) (h' : stop ≤ b.size) :
    slice? b start stop = some (b.extract start stop) :=
  if_pos ⟨h, h'⟩

theorem drain?_eq {b : ByteArray} {count : Nat} (h : count ≤ b.size) :
    drain? b count = some (b.extract count b.size) :=
  if_pos h

theorem splitAt?_eq {l : List UInt8} {place : Nat} (h : place ≤ l.length) :
    splitAt? l place = some (l.take place, l.drop place) :=
  if_pos h

theorem splitEnd?_eq {l : List UInt8} {count : Nat} (h : count ≤ l.length) :
    splitEnd? l count = some (l.take (l.length - count), l.drop (l.length - count)) :=
  if_pos h

namespace Accumulator

variable (a : Accumulator)

/-- `Accumulator.pop` with every cut checked. -/
def popChecked : Option (Except FrameError (Option ByteArray) × Accumulator) :=
  match a.declared with
  | .error e => some (.error e, a)
  | .ok none => some (.ok none, a)
  | .ok (some n) =>
    let stop := Frame.headerSize + n
    if a.buffer.size < stop then some (.ok none, a)
    else do
      let content ← slice? a.buffer Frame.headerSize stop
      let rest ← drain? a.buffer stop
      return (.ok (some content), { a with buffer := rest })

theorem popChecked_eq : a.popChecked = some a.pop := by
  unfold popChecked pop
  cases a.declared with
  | error e => rfl
  | ok d =>
    cases d with
    | none => rfl
    | some n =>
      dsimp only
      by_cases h : a.buffer.size < Frame.headerSize + n
      · rw [if_pos h, if_pos h]
      · rw [if_neg h, if_neg h, slice?_eq (Nat.le_add_right _ _) (Nat.le_of_not_lt h),
          drain?_eq (Nat.le_of_not_lt h)]
        rfl

end Accumulator
end Courier
