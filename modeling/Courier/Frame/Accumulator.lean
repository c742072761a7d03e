import Courier.Frame.Basic

/-!
# Collecting frames from a byte stream

An accumulator holds what has been read of a stream and not yet been handed on,
and hands it on frame by frame. It refuses bytes that would take it above one
maximal frame with its header, whether or not a length has been read. A length
above the maximum is an error each time it is looked at; nothing is skipped.
-/

namespace Courier

/-- The bytes held, and the largest content that is admitted. -/
structure Accumulator where
  maxFrame : Nat
  buffer : ByteArray

namespace Accumulator

def empty (maxFrame : Nat) : Accumulator := ⟨maxFrame, ByteArray.empty⟩

variable (a : Accumulator)

/-- The most bytes that are ever held. -/
def limit : Nat := a.maxFrame + Frame.headerSize

def size : Nat := a.buffer.size

def isEmpty : Bool := a.buffer.size == 0

/-- How many more bytes are accepted. -/
def room : Nat := a.limit - a.size

def clear : Accumulator := { a with buffer := ByteArray.empty }

/-- The announced size of the pending frame, once its four bytes are there. -/
def declared : Except FrameError (Option Nat) :=
  if a.buffer.size < Frame.headerSize then .ok none
  else
    let n := ofBigEndian (octets (a.buffer.extract 0 Frame.headerSize))
    if a.maxFrame < n then .error (.frameTooLarge n a.maxFrame) else .ok (some n)

/-- Takes in bytes, all of them or none. -/
def extend (incoming : ByteArray) : Except FrameError Unit × Accumulator :=
  if a.limit < a.buffer.size + incoming.size then
    (.error (.bufferOverflow a.buffer.size incoming.size a.limit), a)
  else (.ok (), { a with buffer := a.buffer ++ incoming })

/-- The next frame, if all of it is held; what follows it stays. -/
def pop : Except FrameError (Option ByteArray) × Accumulator :=
  match a.declared with
  | .error e => (.error e, a)
  | .ok none => (.ok none, a)
  | .ok (some n) =>
    let stop := Frame.headerSize + n
    if a.buffer.size < stop then (.ok none, a)
    else
      (.ok (some (a.buffer.extract Frame.headerSize stop)),
        { a with buffer := a.buffer.extract stop a.buffer.size })

/-- Takes in bytes and hands on at most one frame. -/
def feed (incoming : ByteArray) : Except FrameError (Option ByteArray) × Accumulator :=
  match a.extend incoming with
  | (.error e, a) => (.error e, a)
  | (.ok (), a) => a.pop

/-- How many bytes the pending frame lacks; of its length, while that is not
complete. -/
def needed : Except FrameError Nat :=
  match a.declared with
  | .error e => .error e
  | .ok none => .ok (Frame.headerSize - a.buffer.size)
  | .ok (some n) => .ok (Frame.headerSize + n - a.buffer.size)

@[simp] theorem maxFrame_extend (incoming : ByteArray) :
    (a.extend incoming).2.maxFrame = a.maxFrame := by
  unfold extend
  split <;> rfl

@[simp] theorem maxFrame_pop : a.pop.2.maxFrame = a.maxFrame := by
  unfold pop
  split
  · rfl
  · rfl
  · dsimp only
    split <;> rfl

@[simp] theorem maxFrame_feed (incoming : ByteArray) :
    (a.feed incoming).2.maxFrame = a.maxFrame := by
  have h := a.maxFrame_extend incoming
  unfold feed
  split <;> simp_all

theorem extend_eq_ok {incoming : ByteArray} (h : a.size + incoming.size ≤ a.limit) :
    a.extend incoming = (.ok (), { a with buffer := a.buffer ++ incoming }) :=
  if_neg (Nat.not_lt.mpr h)

theorem extend_eq_error {incoming : ByteArray} (h : a.limit < a.size + incoming.size) :
    a.extend incoming = (.error (.bufferOverflow a.size incoming.size a.limit), a) :=
  if_pos h

/-- Without a frame to hand on there is room for another byte. -/
theorem room_pos_of_pop_eq_none (h : a.pop.1 = .ok none) : 0 < a.room := by
  have hd : ∀ n, a.declared = .ok (some n) → n ≤ a.maxFrame := by
    intro n hn
    unfold declared at hn
    dsimp only at hn
    split at hn
    · simp at hn
    · split at hn
      · simp at hn
      · simp only [Except.ok.injEq, Option.some.injEq] at hn
        omega
  have hshort : a.declared = .ok none → a.buffer.size < Frame.headerSize := by
    intro hn
    unfold declared at hn
    dsimp only at hn
    split at hn
    · assumption
    · split at hn <;> simp at hn
  unfold pop at h
  simp only [room, limit, size]
  split at h
  · simp at h
  · rename_i hn
    have := hshort hn
    omega
  · rename_i n hn
    have := hd n hn
    dsimp only at h
    split at h
    · omega
    · simp at h

end Accumulator
end Courier
