import Courier.Proofs.Frame.Agreement
import Courier.Proofs.Frame.Needed

/-!
# After a length that is too large

Nothing is recorded of a length that is too large: it is found again each time, because the
four bytes that announce it stay where they are. No call but `clear` takes a byte from the
front, so an accumulator that has met such a length answers with it from then on, and
what is put in behind it is never looked at.
-/

namespace Courier.Accumulator

variable {a : Accumulator} {d max : Nat} {op : Op} {ops : List Op} {bytes : ByteArray}

/-- The bytes held begin with a length that is too large. -/
def Blocked (d : Nat) (a : Accumulator) : Prop :=
  Frame.split a.maxFrame (octets a.buffer) = ⟨[], .tooLarge d⟩

theorem Blocked.take_eq (h : Blocked d a) : Frame.headerSize ≤ a.size ∧
    (octets a.buffer).take Frame.headerSize = bigEndian Frame.headerSize d := by
  unfold Blocked Frame.split at h
  split at h
  · cases h
  · rename_i hlong
    have hle : Frame.headerSize ≤ (octets a.buffer).length := Nat.le_of_not_lt hlong
    dsimp only at h
    split at h
    · simp only [Frame.Split.mk.injEq, Frame.Tail.tooLarge.injEq, true_and] at h
      have hfour : ((octets a.buffer).take Frame.headerSize).length = Frame.headerSize := by
        rw [List.length_take, Nat.min_eq_left hle]
      have hback := bigEndian_ofBigEndian ((octets a.buffer).take Frame.headerSize)
      rw [hfour, h] at hback
      exact ⟨hle, hback.symm⟩
    · split at h <;> cases h

/-! ## One call -/

@[simp] theorem maxFrame_run (a : Accumulator) (op : Op) : (a.run op).2.maxFrame = a.maxFrame := by
  cases op <;> simp [run, clear]

theorem maxFrame_perform (a : Accumulator) (ops : List Op) :
    (a.perform ops).2.maxFrame = a.maxFrame := by
  induction ops generalizing a with
  | nil => rfl
  | cons op ops ih => exact (ih _).trans (a.maxFrame_run op)

theorem Blocked.pop_eq (h : Blocked d a) : a.pop = (.error (.frameTooLarge d a.maxFrame), a) :=
  a.pop_of_split_eq_tooLarge h

theorem Blocked.needed_eq (h : Blocked d a) : a.needed = .error (.frameTooLarge d a.maxFrame) :=
  a.needed_eq_error_iff.mpr (congrArg Prod.fst h.pop_eq)

theorem Blocked.append (h : Blocked d a) (bytes : ByteArray) :
    Blocked d { a with buffer := a.buffer ++ bytes } := by
  unfold Blocked
  rw [octets_append, Frame.split_append, h]

theorem Blocked.feed_eq (h : Blocked d a) (hfit : a.size + bytes.size ≤ a.limit) :
    a.feed bytes = (.error (.frameTooLarge d a.maxFrame),
      { a with buffer := a.buffer ++ bytes }) := by
  rw [Accumulator.feed_eq, if_neg (Nat.not_lt.mpr hfit), (h.append bytes).pop_eq]

theorem blocked_of_pop (h : a.pop.1 = .error (.frameTooLarge d max)) :
    Blocked d a ∧ a.maxFrame = max := by
  have hp := a.popped
  generalize a.pop = r at h hp
  cases hp with
  | waiting => cases h
  | tooLarge n hsplit =>
    cases h
    exact ⟨hsplit, rfl⟩
  | frame => cases h

/-- The error that was returned in place of a result. -/
def errorOf {α : Type} : Except FrameError α → Option FrameError
  | .error e => some e
  | .ok _ => none

theorem errorOf_eq_some_iff {α : Type} {r : Except FrameError α} {e : FrameError} :
    errorOf r = some e ↔ r = .error e := by
  cases r <;> simp [errorOf]

/-- The error that a call has returned. -/
def Event.error? : Event → Option FrameError
  | extended _ result => errorOf result
  | fed _ result => errorOf result
  | popped result => errorOf result
  | measured result => errorOf result
  | cleared => none

/-- Whichever call meets a length that is too large, it leaves it at the front. -/
theorem blocked_of_error? (h : (a.run op).1.error? = some (.frameTooLarge d max)) :
    Blocked d (a.run op).2 ∧ a.maxFrame = max := by
  cases op with
  | extend bytes =>
    have hresult := errorOf_eq_some_iff.mp h
    by_cases hfull : a.limit < a.size + bytes.size
    · rw [a.extend_eq_error hfull] at hresult
      cases hresult
    · rw [a.extend_eq_ok (Nat.le_of_not_lt hfull)] at hresult
      cases hresult
  | feed bytes =>
    have hresult := errorOf_eq_some_iff.mp h
    change Blocked d (a.feed bytes).2 ∧ _
    rw [Accumulator.feed_eq] at hresult ⊢
    split_ifs at hresult ⊢ with hfull
    · cases hresult
    · obtain ⟨hblocked, hmax⟩ := blocked_of_pop hresult
      rw [hblocked.pop_eq]
      exact ⟨hblocked, hmax⟩
  | pop =>
    obtain ⟨hblocked, hmax⟩ := blocked_of_pop (errorOf_eq_some_iff.mp h)
    change Blocked d a.pop.2 ∧ _
    rw [hblocked.pop_eq]
    exact ⟨hblocked, hmax⟩
  | measure => exact blocked_of_pop (a.needed_eq_error_iff.mp (errorOf_eq_some_iff.mp h))
  | clear => cases h

/-! ## Every later call -/

/-- A call other than `clear` takes no frame out and leaves the length at the front. -/
theorem Blocked.run (h : Blocked d a) (hop : op ≠ .clear) :
    Blocked d (a.run op).2 ∧ (a.run op).1.handedOn = [] := by
  cases op with
  | extend bytes =>
    dsimp only [Accumulator.run]
    by_cases hfull : a.limit < a.size + bytes.size
    · rw [a.extend_eq_error hfull]
      exact ⟨h, rfl⟩
    · rw [a.extend_eq_ok (Nat.le_of_not_lt hfull)]
      exact ⟨h.append bytes, rfl⟩
  | feed bytes =>
    dsimp only [Accumulator.run]
    by_cases hfull : a.limit < a.size + bytes.size
    · rw [Accumulator.feed_eq, if_pos hfull]
      exact ⟨h, rfl⟩
    · rw [h.feed_eq (Nat.le_of_not_lt hfull)]
      exact ⟨h.append bytes, rfl⟩
  | pop =>
    dsimp only [Accumulator.run]
    rw [h.pop_eq]
    exact ⟨h, rfl⟩
  | measure => exact ⟨h, rfl⟩
  | clear => exact absurd rfl hop

theorem Blocked.perform (h : Blocked d a) (hops : .clear ∉ ops) :
    Blocked d (a.perform ops).2 ∧ handedOn (a.perform ops).1 = [] := by
  induction ops generalizing a with
  | nil => exact ⟨h, rfl⟩
  | cons op ops ih =>
    obtain ⟨hop, hlater⟩ := List.ne_and_not_mem_of_not_mem_cons hops
    obtain ⟨hnext, hnone⟩ := h.run hop.symm
    obtain ⟨hlast, hrest⟩ := ih hnext hlater
    refine ⟨hlast, ?_⟩
    rw [Accumulator.perform, handedOn, List.flatMap_cons, hnone]
    exact hrest

end Courier.Accumulator
