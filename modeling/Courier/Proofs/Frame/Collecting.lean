import Courier.Frame.Accumulator
import Courier.Proofs.Frame.Splitting

/-!
# What an accumulator hands on

`Accumulator.Popped` says what taking the next frame out of an accumulator can
come to, in the words of the reference splitter: the bytes held are no whole
frame, they start with a length that is not admitted, or they are the frame
handed on followed by the bytes that stay.
-/

namespace Courier.Accumulator

variable (a : Accumulator)

inductive Popped : Except FrameError (Option ByteArray) × Accumulator → Prop
  | waiting (h : Frame.split a.maxFrame (octets a.buffer) = ⟨[], .rest (octets a.buffer)⟩) :
      Popped (.ok none, a)
  | tooLarge (n : Nat) (h : Frame.split a.maxFrame (octets a.buffer) = ⟨[], .tooLarge n⟩) :
      Popped (.error (.frameTooLarge n a.maxFrame), a)
  | frame (content rest : ByteArray) (hm : content.size ≤ a.maxFrame)
      (hd : content.size ≤ Frame.maxDeclared)
      (h : octets a.buffer = Frame.onWire (octets content) ++ octets rest) :
      Popped (.ok (some content), { a with buffer := rest })

theorem size_extend_le {a' : Accumulator} {incoming : ByteArray}
    (h : a.extend incoming = (.ok (), a')) : a'.size ≤ a'.limit := by
  unfold extend at h
  split at h
  · cases h
  · cases h
    simp only [size, limit, ByteArray.size_append] at *
    omega

theorem declared_eq : a.declared =
    if (octets a.buffer).length < Frame.headerSize then .ok none
    else
      let n := ofBigEndian ((octets a.buffer).take Frame.headerSize)
      if a.maxFrame < n then .error (.frameTooLarge n a.maxFrame) else .ok (some n) := by
  simp only [declared, octets_extract, List.drop_zero]
  rfl

theorem bytes_eq_onWire_append {l : List UInt8} {n : Nat}
    (hn : ofBigEndian (l.take Frame.headerSize) = n) (h : Frame.headerSize + n ≤ l.length) :
    l = Frame.onWire ((l.drop Frame.headerSize).take n) ++ l.drop (Frame.headerSize + n) := by
  have hfour : (l.take Frame.headerSize).length = Frame.headerSize := by
    rw [List.length_take]
    omega
  have hhead : bigEndian Frame.headerSize n = l.take Frame.headerSize := by
    have := bigEndian_ofBigEndian (l.take Frame.headerSize)
    rwa [hfour, hn] at this
  have hbody : ((l.drop Frame.headerSize).take n).length = n := by
    rw [List.length_take, List.length_drop]
    omega
  rw [Frame.onWire, hbody, hhead, ← List.drop_drop, List.append_assoc, List.take_append_drop,
    List.take_append_drop]

theorem declared_le_maxDeclared {l : List UInt8} (h : Frame.headerSize ≤ l.length) :
    ofBigEndian (l.take Frame.headerSize) ≤ Frame.maxDeclared := by
  have hlt := ofBigEndian_lt (l.take Frame.headerSize)
  rw [List.length_take, Nat.min_eq_left h] at hlt
  exact Nat.le_of_lt_succ hlt

theorem popped : a.Popped a.pop := by
  have hd := a.declared_eq
  unfold pop
  by_cases hs : (octets a.buffer).length < Frame.headerSize
  · rw [hd, if_pos hs]
    exact .waiting (Frame.split_of_length_lt hs)
  · rw [if_neg hs] at hd
    dsimp only at hd
    have hle : Frame.headerSize ≤ (octets a.buffer).length := Nat.le_of_not_lt hs
    by_cases hm : a.maxFrame < ofBigEndian ((octets a.buffer).take Frame.headerSize)
    · rw [hd, if_pos hm]
      exact .tooLarge _ (Frame.split_of_lt_declared hle hm)
    · rw [hd, if_neg hm]
      dsimp only
      generalize hn : ofBigEndian ((octets a.buffer).take Frame.headerSize) = n at hm
      by_cases hc : a.buffer.size < Frame.headerSize + n
      · rw [if_pos hc]
        exact .waiting (Frame.split_of_incomplete (by omega) (by rw [hn]; exact hc))
      · rw [if_neg hc]
        have hmax := declared_le_maxDeclared hle
        have hcut := bytes_eq_onWire_append hn (Nat.le_of_not_lt hc)
        refine .frame _ _ ?_ ?_ ?_
        · simp only [ByteArray.size_extract]
          omega
        · simp only [ByteArray.size_extract]
          omega
        · have hall : (octets a.buffer).take a.buffer.size = octets a.buffer :=
            List.take_of_length_le (Nat.le_of_eq (length_octets _))
          rw [octets_extract, octets_extract, hall, List.drop_take, Nat.add_sub_cancel_left, ← hcut]

end Courier.Accumulator
