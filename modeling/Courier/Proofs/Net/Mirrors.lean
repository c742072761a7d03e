import Courier.Net.Network

/-!
# Networks that are alike from some stream on

Two processes that have opened different numbers of streams may meet the same
system from now on: the same clock, the same answers to the next attempts to
connect, and the same arrivals and room on the streams that come. `Mirrors` says
so, with the streams of the two counted from different numbers. What is asked of
one such network comes to the same on the other, and leaves them alike.
-/

namespace Courier.Network

variable {j k : Nat} {a a' b : Network}

/-- The networks are alike, stream by stream from these two on. -/
structure Mirrors (j k : Nat) (a b : Network) : Prop where
  now : a.now = b.now
  patience : a.patience = b.patience
  dials : a.dials = b.dials
  opened : ∃ n, a.opened = j + n ∧ b.opened = k + n
  pipe : ∀ i d, a.pipe (j + i) d = b.pipe (k + i) d

namespace Mirrors

theorem symm (h : Mirrors j k a b) : Mirrors k j b a where
  now := h.now.symm
  patience := h.patience.symm
  dials := h.dials.symm
  opened := by
    obtain ⟨n, ha, hb⟩ := h.opened
    exact ⟨n, hb, ha⟩
  pipe i d := (h.pipe i d).symm

theorem tick (h : Mirrors j k a b) (t : Nat) :
    Mirrors j k { a with now := t } { b with now := t } :=
  ⟨rfl, h.patience, h.dials, h.opened, h.pipe⟩

theorem note (h : Mirrors j k a b) (x y : Act) : Mirrors j k (a.note x) (b.note y) :=
  ⟨h.now, h.patience, h.dials, h.opened, h.pipe⟩

theorem setPipe (h : Mirrors j k a b) (i : Nat) (d : Direction) (p : Pipe) :
    Mirrors j k (a.setPipe (j + i) d p) (b.setPipe (k + i) d p) where
  now := h.now
  patience := h.patience
  dials := h.dials
  opened := h.opened
  pipe i' d' := by
    by_cases heq : i' = i ∧ d' = d
    · obtain ⟨rfl, rfl⟩ := heq
      rw [pipe_setPipe_self, pipe_setPipe_self]
    · rw [pipe_setPipe_ne _ _ fun hc => heq ⟨Nat.add_left_cancel hc.1, hc.2⟩,
        pipe_setPipe_ne _ _ fun hc => heq ⟨Nat.add_left_cancel hc.1, hc.2⟩]
      exact h.pipe i' d'

theorem willing (h : Mirrors j k a b) (due : Nat) : a.willing due = b.willing due := by
  unfold Network.willing
  rw [h.now, h.patience]

theorem waitOut {α : Type} {deadline : Nat} {w : Waited α} (h : Mirrors j k a b)
    (ha : a.waitOut deadline = (w, a')) :
    ∃ b', b.waitOut deadline = (w, b') ∧ Mirrors j k a' b' := by
  unfold Network.waitOut at ha ⊢
  dsimp only at ha ⊢
  rw [← h.now, ← h.willing, ← h.patience]
  split at ha <;> rename_i hw <;> cases ha
  · exact ⟨_, if_pos hw, rfl, rfl, h.dials, h.opened, h.pipe⟩
  · exact ⟨_, if_neg hw, rfl, rfl, h.dials, h.opened, h.pipe⟩

theorem await {α : Type} {deadline : Nat} {event : Option (Timed α)} {w : Waited α}
    (h : Mirrors j k a b) (ha : a.await deadline event = (w, a')) :
    ∃ b', b.await deadline event = (w, b') ∧ Mirrors j k a' b' := by
  unfold Network.await at ha ⊢
  split at ha
  · exact h.waitOut ha
  · dsimp only at ha ⊢
    rw [← h.now, ← h.willing]
    split at ha <;> rename_i hdue
    · cases ha
      exact ⟨_, if_pos hdue, h.tick _⟩
    · rw [if_neg hdue]
      exact h.waitOut ha

theorem read {i want deadline : Nat} {d : Direction} {w : Waited Input} (h : Mirrors j k a b)
    (ha : a.read (j + i) d want deadline = (w, a')) :
    ∃ b', b.read (k + i) d want deadline = (w, b') ∧ Mirrors j k a' b' := by
  unfold Network.read at ha ⊢
  rw [← h.pipe]
  split at ha <;> rename_i hawait <;> obtain ⟨mid, hb, hmid⟩ := h.await hawait <;> rw [hb] <;>
    cases ha
  · exact ⟨_, rfl, hmid.setPipe i d _⟩
  · exact ⟨_, rfl, hmid⟩
  · exact ⟨_, rfl, hmid⟩

theorem write {i deadline : Nat} {d : Direction} {bytes : ByteArray} {w : Waited Output}
    (h : Mirrors j k a b) (ha : a.write (j + i) d bytes deadline = (w, a')) :
    ∃ b', b.write (k + i) d bytes deadline = (w, b') ∧ Mirrors j k a' b' := by
  unfold Network.write at ha ⊢
  rw [← h.pipe]
  split at ha <;> rename_i hawait <;> obtain ⟨mid, hb, hmid⟩ := h.await hawait <;> rw [hb] <;>
    cases ha
  · exact ⟨_, rfl, hmid.setPipe i d _⟩
  · exact ⟨_, rfl, hmid⟩
  · exact ⟨_, rfl, hmid⟩

/-- An attempt to connect opens the streams that stand in the same place, or none. -/
theorem dial {target : Address} {deadline : Nat} {w : Waited (Except IoError Nat)}
    (h : Mirrors j k a b) (ha : a.dial target deadline = (w, a')) :
    ∃ w' b', b.dial target deadline = (w', b') ∧ Mirrors j k a' b' ∧
      ((∃ i, w = .came (.ok (j + i)) ∧ w' = .came (.ok (k + i))) ∨
        w' = w ∧ ∀ s, w ≠ .came (.ok s)) := by
  unfold Network.dial at ha ⊢
  dsimp only at ha ⊢
  have hdialled : Mirrors j k { a.note (.dials target) with dials := a.dials.tail }
      { b.note (.dials target) with dials := b.dials.tail } :=
    ⟨h.now, h.patience, congrArg List.tail h.dials, h.opened, h.pipe⟩
  rw [← h.dials] at hdialled ⊢
  split at ha <;> rename_i hawait <;> obtain ⟨mid, hb, hmid⟩ := hdialled.await hawait <;>
    rw [hb] <;> cases ha
  · obtain ⟨n, hn, hn'⟩ := hmid.opened
    refine ⟨_, _, rfl, ⟨hmid.now, hmid.patience, hmid.dials, ⟨n + 1, ?_, ?_⟩, hmid.pipe⟩,
      .inl ⟨n, by rw [hn], by rw [hn']⟩⟩
    · dsimp only
      omega
    · dsimp only
      omega
  · exact ⟨_, _, rfl, hmid, .inr ⟨rfl, nofun⟩⟩
  · exact ⟨_, _, rfl, hmid, .inr ⟨rfl, nofun⟩⟩
  · exact ⟨_, _, rfl, hmid, .inr ⟨rfl, nofun⟩⟩

end Mirrors
end Courier.Network
