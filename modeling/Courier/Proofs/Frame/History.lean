import Courier.Proofs.Frame.Collecting
import Mathlib.Data.List.DropRight

/-!
# The history of an accumulator

Every call of an accumulator is recorded as an event, with what it was given and what
it returned. Of each event it is known which bytes it put in and which frames it took
out. A call other than `clear` keeps the books: what was held and what it put in are,
in this order, what it took out as it travels and what is held then. Over a history
they are kept since the last `clear`.
-/

namespace Courier.Accumulator

inductive Op
  | extend (bytes : ByteArray)
  | feed (bytes : ByteArray)
  | pop
  | measure
  | clear

inductive Event
  | extended (bytes : ByteArray) (result : Except FrameError Unit)
  | fed (bytes : ByteArray) (result : Except FrameError (Option ByteArray))
  | popped (result : Except FrameError (Option ByteArray))
  | measured (result : Except FrameError Nat)
  | cleared

namespace Event

/-- The bytes that went in, of those that were offered. They are in unless they did not
fit, also if what then stands in front is a length that is too large. -/
def takenIn {α : Type} (bytes : ByteArray) : Except FrameError α → List UInt8
  | .error (.bufferOverflow ..) => []
  | _ => octets bytes

/-- The bytes that were put in. -/
def accepted : Event → List UInt8
  | extended bytes result => takenIn bytes result
  | fed bytes result => takenIn bytes result
  | _ => []

/-- The frame in a result, if any. -/
def framesIn : Except FrameError (Option ByteArray) → List ByteArray
  | .ok (some frame) => [frame]
  | _ => []

/-- The frame that was taken out, if any. -/
def handedOn : Event → List ByteArray
  | fed _ result => framesIn result
  | popped result => framesIn result
  | _ => []

def clears : Event → Bool
  | cleared => true
  | _ => false

end Event

variable (a : Accumulator)

/-- Makes one call. -/
def run : Op → Event × Accumulator
  | .extend bytes => (.extended bytes (a.extend bytes).1, (a.extend bytes).2)
  | .feed bytes => (.fed bytes (a.feed bytes).1, (a.feed bytes).2)
  | .pop => (.popped a.pop.1, a.pop.2)
  | .measure => (.measured a.needed, a)
  | .clear => (.cleared, a.clear)

/-- Makes one call after another. -/
def perform (a : Accumulator) : List Op → List Event × Accumulator
  | [] => ([], a)
  | op :: ops => ((a.run op).1 :: ((a.run op).2.perform ops).1, ((a.run op).2.perform ops).2)

theorem perform_append (ops ops' : List Op) : a.perform (ops ++ ops') =
    ((a.perform ops).1 ++ ((a.perform ops).2.perform ops').1,
      ((a.perform ops).2.perform ops').2) := by
  induction ops generalizing a with
  | nil => rfl
  | cons op ops ih => simp [perform, ih]

theorem perform_concat (ops : List Op) (op : Op) : a.perform (ops ++ [op]) =
    ((a.perform ops).1 ++ [((a.perform ops).2.run op).1], ((a.perform ops).2.run op).2) :=
  a.perform_append ops [op]

/-- The events since the last `clear`. -/
def recent (trace : List Event) : List Event := trace.rtakeWhile fun e => !e.clears

theorem recent_concat (trace : List Event) (e : Event) :
    recent (trace ++ [e]) = if e.clears then [] else recent trace ++ [e] := by
  unfold recent
  split_ifs with he
  · exact List.rtakeWhile_concat_neg _ _ _ (by simp [he])
  · exact List.rtakeWhile_concat_pos _ _ _ (by simp [he])

/-! ## One call -/

section Call

/-- The bytes offered do not fit. -/
def Overflows {α : Type} (result : Except FrameError α) : Prop :=
  ∃ held incoming limit, result = .error (.bufferOverflow held incoming limit)

theorem pop_not_overflows : ¬ Overflows a.pop.1 := by
  have hp := a.popped
  generalize a.pop = r at hp
  rintro ⟨held, incoming, limit, h⟩
  cases hp <;> cases h

theorem feed_eq (bytes : ByteArray) : a.feed bytes =
    if a.limit < a.size + bytes.size then
      (.error (.bufferOverflow a.size bytes.size a.limit), a)
    else { a with buffer := a.buffer ++ bytes }.pop := by
  unfold feed
  split_ifs with h
  · rw [a.extend_eq_error h]
  · rw [a.extend_eq_ok (Nat.le_of_not_lt h)]

theorem overflows_extend_iff (bytes : ByteArray) :
    Overflows (a.extend bytes).1 ↔ a.limit < a.size + bytes.size := by
  by_cases h : a.limit < a.size + bytes.size
  · rw [a.extend_eq_error h]
    exact iff_of_true ⟨_, _, _, rfl⟩ h
  · rw [a.extend_eq_ok (Nat.le_of_not_lt h)]
    refine iff_of_false ?_ h
    rintro ⟨_, _, _, hr⟩
    cases hr

theorem overflows_feed_iff (bytes : ByteArray) :
    Overflows (a.feed bytes).1 ↔ a.limit < a.size + bytes.size := by
  rw [feed_eq]
  split_ifs with h
  · exact iff_of_true ⟨_, _, _, rfl⟩ h
  · exact iff_of_false (pop_not_overflows _) h

theorem Event.takenIn_eq {α : Type} {bytes : ByteArray} {result : Except FrameError α}
    (h : ¬ Overflows result) : takenIn bytes result = octets bytes := by
  unfold takenIn
  split
  · exact absurd ⟨_, _, _, rfl⟩ h
  · rfl

theorem Event.handedOn_of_clears {e : Event} (h : e.clears = true) : e.handedOn = [] := by
  cases e with
  | cleared => rfl
  | _ => cases h

/-- The books of a call: what was held and what it put in, what it took out and what is
held then. -/
structure Balanced (a : Accumulator) (e : Event) (a' : Accumulator) : Prop where
  maxFrame : a'.maxFrame = a.maxFrame
  bounded : a.size ≤ a.limit → a'.size ≤ a'.limit
  sizes : ∀ f ∈ e.handedOn, f.size ≤ a.maxFrame
  bytes : octets a.buffer ++ e.accepted =
    e.handedOn.flatMap (fun f => Frame.onWire (octets f)) ++ octets a'.buffer

theorem balanced_idle {e : Event} (ha : e.accepted = []) (hh : e.handedOn = []) :
    a.Balanced e a :=
  ⟨rfl, id, by simp [hh], by simp [ha, hh]⟩

theorem balanced_pop {b : Accumulator} {e : Event} (hmax : b.maxFrame = a.maxFrame)
    (hb : a.size ≤ a.limit → b.size ≤ b.limit)
    (hin : octets a.buffer ++ e.accepted = octets b.buffer)
    (hout : e.handedOn = Event.framesIn b.pop.1) : a.Balanced e b.pop.2 := by
  have hp := b.popped
  generalize b.pop = r at hp hout
  cases hp with
  | waiting => exact ⟨hmax, hb, by simp [hout, Event.framesIn], by simpa [hout, Event.framesIn]⟩
  | tooLarge => exact ⟨hmax, hb, by simp [hout, Event.framesIn], by simpa [hout, Event.framesIn]⟩
  | frame content rest hm hd h =>
    rw [Event.framesIn] at hout
    refine ⟨hmax, fun ha => ?_, by simpa [hout, ← hmax] using hm, by simp [hout, hin, h]⟩
    have hlen := congrArg List.length h
    simp only [length_octets, List.length_append] at hlen
    have := hb ha
    simp only [size, limit] at *
    omega

/-- A call keeps the books, unless it is `clear`. -/
theorem run_balanced (op : Op) (h : (a.run op).1.clears = false) :
    a.Balanced (a.run op).1 (a.run op).2 := by
  cases op with
  | extend bytes =>
    dsimp only [run]
    by_cases hfull : a.limit < a.size + bytes.size
    · rw [a.extend_eq_error hfull]
      exact a.balanced_idle rfl rfl
    · rw [a.extend_eq_ok (Nat.le_of_not_lt hfull)]
      refine ⟨rfl, fun _ => ?_, by simp [Event.handedOn], (octets_append _ _).symm⟩
      simpa [size, limit] using hfull
  | feed bytes =>
    dsimp only [run]
    rw [feed_eq]
    split_ifs with hfull
    · exact a.balanced_idle rfl rfl
    · refine a.balanced_pop rfl (fun _ => ?_) ?_ rfl
      · simpa [size, limit] using hfull
      · rw [Event.accepted, Event.takenIn_eq (pop_not_overflows _)]
        exact (octets_append _ _).symm
  | pop => exact a.balanced_pop rfl id (List.append_nil _) rfl
  | measure => exact a.balanced_idle rfl rfl
  | clear => cases h

theorem run_clears {op : Op} (h : (a.run op).1.clears = true) :
    (a.run op).2 = a.clear := by
  cases op with
  | clear => rfl
  | _ => cases h

end Call

/-! ## A history -/

section Record

variable {max : Nat}

/-- The bytes that were put in by these events. -/
def accepted (trace : List Event) : List UInt8 := trace.flatMap Event.accepted

/-- The frames that were taken out by these events. -/
def handedOn (trace : List Event) : List ByteArray := trace.flatMap Event.handedOn

/-- What the record of all calls says of the accumulator as it is now. -/
structure Recorded (max : Nat) (trace : List Event) (a : Accumulator) : Prop where
  maxFrame : a.maxFrame = max
  bounded : a.size ≤ a.limit
  sizes : ∀ f ∈ handedOn trace, f.size ≤ max
  books : accepted (recent trace) =
    (handedOn (recent trace)).flatMap (fun f => Frame.onWire (octets f)) ++ octets a.buffer

theorem recorded_empty (max : Nat) : Recorded max [] (empty max) :=
  ⟨rfl, Nat.zero_le _, by simp [handedOn], rfl⟩

theorem Recorded.run {trace : List Event} {a : Accumulator} (h : Recorded max trace a) (op : Op) :
    Recorded max (trace ++ [(a.run op).1]) (a.run op).2 := by
  cases hc : (a.run op).1.clears with
  | true =>
    have hout := Event.handedOn_of_clears hc
    rw [a.run_clears hc]
    refine ⟨h.maxFrame, Nat.zero_le _, ?_, ?_⟩
    · simpa [handedOn, hout] using h.sizes
    · rw [recent_concat, if_pos hc]
      rfl
  | false =>
    have hb := a.run_balanced op hc
    refine ⟨hb.maxFrame.trans h.maxFrame, hb.bounded h.bounded, ?_, ?_⟩
    · intro f hf
      simp only [handedOn, List.flatMap_append, List.mem_append, List.flatMap_singleton] at hf
      rcases hf with hf | hf
      · exact h.sizes f hf
      · exact h.maxFrame ▸ hb.sizes f hf
    · have hbooks := h.books
      rw [recent_concat, if_neg (by simp [hc])]
      simp only [accepted, handedOn, List.flatMap_append, List.flatMap_singleton] at hbooks ⊢
      rw [hbooks, List.append_assoc, hb.bytes, ← List.append_assoc]

/-- Every history is recorded. -/
theorem recorded_perform (max : Nat) (ops : List Op) :
    Recorded max ((empty max).perform ops).1 ((empty max).perform ops).2 := by
  induction ops using List.reverseRecOn with
  | nil => exact recorded_empty max
  | append_singleton ops op ih =>
    rw [perform_concat]
    exact ih.run op

end Record

/-- Whatever is done to an accumulator, it holds at most one maximal frame with its
length and has room for the rest of that; bytes are refused exactly if they would take
it above that, whatever it holds, and then nothing changes; no frame is larger than
admitted; and what was put in since the last `clear` is, byte by byte, what was taken
out since then and what is held. -/
theorem perform_conserves (max : Nat) (ops : List Op) :
    let trace := ((empty max).perform ops).1
    let a := ((empty max).perform ops).2
    a.size ≤ max + 4 ∧ a.size + a.room = max + 4 ∧
      (∀ bytes, (Overflows (a.extend bytes).1 ↔ max + 4 < a.size + bytes.size) ∧
        (Overflows (a.feed bytes).1 ↔ max + 4 < a.size + bytes.size) ∧
        (Overflows (a.extend bytes).1 →
          a.extend bytes = (.error (.bufferOverflow a.size bytes.size (max + 4)), a)) ∧
        (Overflows (a.feed bytes).1 →
          a.feed bytes = (.error (.bufferOverflow a.size bytes.size (max + 4)), a))) ∧
      (∀ f ∈ handedOn trace, f.size ≤ max) ∧
      accepted (recent trace) =
        (handedOn (recent trace)).flatMap (fun f => bigEndian 4 f.size ++ octets f) ++
          octets a.buffer := by
  intro trace a
  have h := recorded_perform max ops
  have hlimit : a.limit = max + 4 := congrArg (· + Frame.headerSize) h.maxFrame
  have hbound : a.size ≤ max + 4 := hlimit ▸ h.bounded
  refine ⟨hbound, ?_, fun bytes => ⟨?_, ?_, fun hover => ?_, fun hover => ?_⟩, h.sizes, h.books⟩
  · rw [room, hlimit]
    omega
  · rw [← hlimit, overflows_extend_iff]
  · rw [← hlimit, overflows_feed_iff]
  · rw [a.extend_eq_error ((a.overflows_extend_iff bytes).mp hover), hlimit]
  · rw [feed_eq, if_pos ((a.overflows_feed_iff bytes).mp hover), hlimit]

end Courier.Accumulator
