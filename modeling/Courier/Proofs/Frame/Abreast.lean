import Courier.Proofs.Frame.Collecting

/-!
# Streams with other contents in frames of the same sizes

Two streams are abreast if frame by frame they hold contents of one size that go
together, and end at the same place. The lengths in front of the frames are then the
same, and nothing but the contents is different. So a frame that is found on one of them
is found on the other in the same place, and two accumulators that hold as much of the
one and of the other hand on frames at the same time.
-/

namespace Courier

namespace Frame

variable {M : ByteArray → ByteArray → Prop} {x y : List UInt8} {b b' c : ByteArray}
  {cs : List ByteArray}

/-- Contents of one size, for which there is a frame, that go together. -/
structure Peers (M : ByteArray → ByteArray → Prop) (b b' : ByteArray) : Prop where
  related : M b b'
  size_eq : b.size = b'.size
  size_le : b.size ≤ maxDeclared

theorem Peers.size_le_right (h : Peers M b b') : b'.size ≤ maxDeclared :=
  h.size_eq ▸ h.size_le

theorem Peers.length_onWire_eq (h : Peers M b b') :
    (onWire (octets b)).length = (onWire (octets b')).length := by
  simp [h.size_eq]

inductive Abreast (M : ByteArray → ByteArray → Prop) : List UInt8 → List UInt8 → Prop
  | nil : Abreast M [] []
  /-- So many bytes of a frame each. -/
  | part {b b' : ByteArray} (hp : Peers M b b') (n : Nat) :
      Abreast M ((onWire (octets b)).take n) ((onWire (octets b')).take n)
  | frame {b b' : ByteArray} {x y : List UInt8} (hp : Peers M b b') (hr : Abreast M x y) :
      Abreast M (onWire (octets b) ++ x) (onWire (octets b') ++ y)

theorem take_onWire_of_le {n : Nat} (h : n ≤ headerSize) (content : List UInt8) :
    (onWire content).take n = (bigEndian headerSize content.length).take n :=
  List.take_append_of_le_length (by simpa using h)

namespace Abreast

theorem length_eq (h : Abreast M x y) : x.length = y.length := by
  induction h with
  | nil => rfl
  | part hp n => rw [List.length_take, List.length_take, hp.length_onWire_eq]
  | frame hp _ ih => rw [List.length_append, List.length_append, hp.length_onWire_eq, ih]

theorem take_eq (h : Abreast M x y) : x.take headerSize = y.take headerSize := by
  cases h with
  | nil => rfl
  | part hp n =>
    rw [List.take_take, List.take_take, take_onWire_of_le (Nat.min_le_left _ _),
      take_onWire_of_le (Nat.min_le_left _ _), length_octets, length_octets, hp.size_eq]
  | frame hp _ =>
    rw [take_onWire_append, take_onWire_append, length_octets, length_octets, hp.size_eq]

theorem of_frame (h : Abreast M (onWire (octets c) ++ x) y) (hc : c.size ≤ maxDeclared) :
    ∃ c' y', y = onWire (octets c') ++ y' ∧ Peers M c c' ∧ Abreast M x y' := by
  generalize hz : onWire (octets c) ++ x = z at h
  cases h with
  | nil =>
    have hlen := congrArg List.length hz
    simp [headerSize] at hlen
  | @part b b' hp n =>
    -- the part is all of the frame
    have hall := List.take_append_drop n (onWire (octets b))
    rw [← hz, List.append_assoc, ← List.append_nil (onWire (octets b))] at hall
    obtain ⟨hcb, hnil⟩ := onWire_append_inj hc hp.size_le hall
    obtain ⟨rfl, hdrop⟩ := List.append_eq_nil_iff.mp hnil
    rw [List.append_nil, List.drop_eq_nil_iff, hp.length_onWire_eq] at hdrop
    refine ⟨b', [], ?_, octets_inj.mp hcb ▸ hp, .nil⟩
    rw [List.take_of_length_le hdrop, List.append_nil]
  | @frame b b' x' y' hp hr =>
    obtain ⟨hcb, rfl⟩ := onWire_append_inj hc hp.size_le hz
    exact ⟨b', y', rfl, octets_inj.mp hcb ▸ hp, hr⟩

/-- Behind so many frames the streams are still abreast. -/
theorem of_frames (h : Abreast M ((cs.map octets).flatMap onWire ++ x) y)
    (hc : ∀ c ∈ cs, c.size ≤ maxDeclared) : ∃ front y', y = front ++ y' ∧ Abreast M x y' := by
  induction cs generalizing y with
  | nil => exact ⟨[], y, rfl, h⟩
  | cons c cs ih =>
    rw [List.map_cons, List.flatMap_cons, List.append_assoc] at h
    obtain ⟨c', y', rfl, -, hr⟩ := h.of_frame (hc c List.mem_cons_self)
    obtain ⟨front, y'', rfl, hrest⟩ := ih hr fun c h => hc c (List.mem_cons_of_mem _ h)
    exact ⟨onWire (octets c') ++ front, y'', (List.append_assoc ..).symm, hrest⟩

theorem back {front : List UInt8}
    (h : Abreast M ((cs.map octets).flatMap onWire ++ x) (front ++ y))
    (hc : ∀ c ∈ cs, c.size ≤ maxDeclared) (hlen : x.length = y.length) : Abreast M x y := by
  obtain ⟨front', y', heq, hrest⟩ := h.of_frames hc
  obtain ⟨-, rfl⟩ := List.append_inj' heq (hlen.symm.trans hrest.length_eq)
  exact hrest

theorem put (h : Abreast M ((cs.map octets).flatMap onWire) y)
    (hc : ∀ c ∈ cs, c.size ≤ maxDeclared) (hp : Peers M b b') (n : Nat) :
    Abreast M ((cs.map octets).flatMap onWire ++ (onWire (octets b)).take n)
      (y ++ (onWire (octets b')).take n) := by
  induction cs generalizing y with
  | nil =>
    have hnil : y = [] := List.eq_nil_of_length_eq_zero h.length_eq.symm
    rw [hnil]
    exact .part hp n
  | cons c cs ih =>
    rw [List.map_cons, List.flatMap_cons] at h ⊢
    obtain ⟨c', y', rfl, hp', hr⟩ := h.of_frame (hc c List.mem_cons_self)
    rw [List.append_assoc, List.append_assoc]
    exact .frame hp' (ih hr fun c h => hc c (List.mem_cons_of_mem _ h))

end Abreast
end Frame

namespace Accumulator

variable {M : ByteArray → ByteArray → Prop} {a a' : Accumulator} {x x' : List UInt8}

/-- As many bytes are held, under the same maximum. -/
structure Alike (a a' : Accumulator) : Prop where
  maxFrame : a.maxFrame = a'.maxFrame
  size : a.buffer.size = a'.buffer.size

theorem Alike.room (h : a.Alike a') : a.room = a'.room := by
  unfold Accumulator.room limit Accumulator.size
  rw [h.maxFrame, h.size]

theorem Alike.declared (h : a.Alike a')
    (hx : Frame.Abreast M (octets a.buffer ++ x) (octets a'.buffer ++ x')) :
    a.declared = a'.declared := by
  rw [declared_eq, declared_eq, length_octets, length_octets, h.size, h.maxFrame]
  by_cases hs : a'.buffer.size < Frame.headerSize
  · rw [if_pos hs, if_pos hs]
  · have hlong : Frame.headerSize ≤ (octets a.buffer).length := by
      rw [length_octets, h.size]
      exact Nat.le_of_not_lt hs
    have hlong' : Frame.headerSize ≤ (octets a'.buffer).length := Nat.le_of_not_lt hs
    have htake := hx.take_eq
    rw [List.take_append_of_le_length hlong, List.take_append_of_le_length hlong'] at htake
    rw [if_neg hs, if_neg hs, htake]

/-- What taking a frame out comes to on both: the same, or two frames that go together. -/
inductive Pops (M : ByteArray → ByteArray → Prop) (a a' : Accumulator) :
    Except FrameError (Option ByteArray) × Accumulator →
      Except FrameError (Option ByteArray) × Accumulator → Prop
  | failed (e : FrameError) : Pops M a a' (.error e, a) (.error e, a')
  | waiting : Pops M a a' (.ok none, a) (.ok none, a')
  | frame {c c' : ByteArray} {r r' : Accumulator} (hp : Frame.Peers M c c') (hr : r.Alike r') :
      Pops M a a' (.ok (some c), r) (.ok (some c'), r')

/-- Frames are handed on at the same time. -/
theorem Alike.pop (h : a.Alike a')
    (hx : Frame.Abreast M (octets a.buffer ++ x) (octets a'.buffer ++ x')) :
    Pops M a a' a.pop a'.pop := by
  have hdeclared := h.declared hx
  cases hd : a'.declared with
  | error e =>
    rw [hd] at hdeclared
    simp only [Accumulator.pop, hd, hdeclared]
    exact .failed e
  | ok size? =>
    rw [hd] at hdeclared
    cases size? with
    | none =>
      simp only [Accumulator.pop, hd, hdeclared]
      exact .waiting
    | some n =>
      by_cases hshort : a'.buffer.size < Frame.headerSize + n
      · simp only [Accumulator.pop, hd, hdeclared, h.size, if_pos hshort]
        exact .waiting
      · have hrest : (a.buffer.extract (Frame.headerSize + n) a'.buffer.size).size =
            (a'.buffer.extract (Frame.headerSize + n) a'.buffer.size).size := by
          rw [ByteArray.size_extract, ByteArray.size_extract, h.size]
        have hpop := a.popped
        have hpop' := a'.popped
        simp only [Accumulator.pop, hd, hdeclared, h.size, if_neg hshort] at hpop hpop' ⊢
        generalize a.buffer.extract Frame.headerSize (Frame.headerSize + n) = c at hpop ⊢
        generalize a'.buffer.extract Frame.headerSize (Frame.headerSize + n) = c' at hpop' ⊢
        generalize a.buffer.extract (Frame.headerSize + n) a'.buffer.size = r at hpop hrest ⊢
        generalize a'.buffer.extract (Frame.headerSize + n) a'.buffer.size = r' at hpop' hrest ⊢
        cases hpop with
        | frame _ _ _ hsize hbytes =>
          cases hpop' with
          | frame _ _ _ hsize' hbytes' =>
            rw [hbytes, hbytes', List.append_assoc, List.append_assoc] at hx
            obtain ⟨c₁, y, hcut, hp, -⟩ := hx.of_frame hsize
            obtain ⟨hc, -⟩ := Frame.onWire_append_inj hsize' hp.size_le_right hcut
            exact .frame (octets_inj.mp hc ▸ hp) ⟨h.maxFrame, hrest⟩

end Accumulator
end Courier
