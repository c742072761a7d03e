import Courier.Proofs.Frame.Splitting

/-!
# Orderly streams

A stream is orderly if there is nothing on it but frames of admitted sizes with
good contents, and at most the beginning of one more. Whoever has read so many
whole frames of it finds an orderly stream again behind them: no size on it is too
large, and the next frame on it has a good content too.
-/

namespace Courier.Frame

variable {max max' : Nat} {Good : List UInt8 → Prop} {stream bytes content left : List UInt8}

/-- Frames with good contents of at most some size, and at most the beginning of
one more. -/
def Orderly (max : Nat) (Good : List UInt8 → Prop) (stream : List UInt8) : Prop :=
  ∃ (contents : List (List UInt8)) (part : List UInt8),
    stream = contents.flatMap onWire ++ part ∧ Begun max part ∧
      ∀ c ∈ contents, c.length ≤ max ∧ Good c

theorem orderly_nil (max : Nat) (Good : List UInt8 → Prop) : Orderly max Good [] :=
  ⟨[], [], rfl, begun_nil max, by simp⟩

namespace Orderly

/-- What comes after the frames that have been read. -/
theorem rest {cs : List (List UInt8)} (h : Orderly max Good stream) (hmax : max ≤ maxDeclared)
    (hcs : ∀ c ∈ cs, c.length ≤ maxDeclared) (hfront : cs.flatMap onWire ++ bytes <+: stream) :
    ∃ back, Orderly max Good back ∧ bytes <+: back := by
  obtain ⟨contents, part, rfl, hpart, hall⟩ := h
  have hsizes : ∀ c ∈ contents, c.length ≤ maxDeclared :=
    fun c hc => Nat.le_trans (hall c hc).1 hmax
  obtain ⟨more, rfl⟩ := prefix_of_flatMap_onWire hcs hsizes (hpart.mono hmax) hfront
  rw [List.flatMap_append, List.append_assoc] at hfront
  refine ⟨_, ⟨more, part, rfl, hpart, ?_⟩, (List.prefix_append_right_inj _).mp hfront⟩
  exact fun c hc => hall c (List.mem_append_right _ hc)

theorem good (h : Orderly max Good stream) (hmax : max ≤ maxDeclared)
    (hc : content.length ≤ maxDeclared) (hfront : onWire content ++ left <+: stream) :
    Good content := by
  obtain ⟨contents, part, rfl, hpart, hall⟩ := h
  have hsizes : ∀ c ∈ contents, c.length ≤ maxDeclared :=
    fun c hc => Nat.le_trans (hall c hc).1 hmax
  have hone : [content] <+: contents := by
    refine prefix_of_flatMap_onWire (x := left) ?_ hsizes (hpart.mono hmax) (by simpa using hfront)
    simpa using hc
  exact (hall content (hone.subset List.mem_cons_self)).2

theorem split_ne_tooLarge {n : Nat} (h : Orderly max Good stream) (hmax : max ≤ maxDeclared)
    (hle : max ≤ max') (hfront : bytes <+: stream) : split max' bytes ≠ ⟨[], .tooLarge n⟩ := by
  obtain ⟨contents, part, rfl, ⟨last, hlast, hpart, -⟩, hall⟩ := h
  cases contents with
  | nil =>
    have hbegun : bytes <+: onWire last ++ [] := by
      rw [List.append_nil]
      exact hfront.trans hpart
    exact Frame.split_ne_tooLarge (Nat.le_trans hlast hle) (Nat.le_trans hlast hmax) hbegun
  | cons c cs =>
    have hsize := (hall c List.mem_cons_self).1
    rw [List.flatMap_cons, List.append_assoc] at hfront
    exact Frame.split_ne_tooLarge (Nat.le_trans hsize hle) (Nat.le_trans hsize hmax) hfront

end Orderly
end Courier.Frame
