import Courier.Net.Network

/-!
# What reading and writing change

A read moves the front of one pipe and a write its end; both move the clock.
`Network.Touches` says that nothing else is different afterwards. The pipe
itself is described by the octets that its reader has taken and its writer has
put, which is all that later modules look at.
-/

namespace Courier

namespace Pipe

variable {p q : Pipe} {want due n : Nat} {b : ByteArray}

theorem pending_eq_cons {written taken : Nat} {l rest : List (Timed Arrival)} {a : Timed Arrival}
    (h : pending written taken l = a :: rest) :
    (∃ past, l = past ++ a :: rest ∧ ∀ x ∈ past, ∃ c, x.what = .upTo c ∧ min c written ≤ taken) ∧
      ∀ c, a.what = .upTo c → taken < min c written := by
  induction l with
  | nil => cases h
  | cons x l ih =>
    unfold pending at h
    split at h
    · rename_i c hc
      split at h
      · rename_i hold
        obtain ⟨⟨past, rfl, hpast⟩, hnew⟩ := ih h
        refine ⟨⟨x :: past, rfl, ?_⟩, hnew⟩
        intro y hy
        rcases List.mem_cons.mp hy with rfl | hy
        · exact ⟨c, hc, hold⟩
        · exact hpast y hy
      · rename_i hnew
        cases h
        refine ⟨⟨[], rfl, by simp⟩, ?_⟩
        intro c' hc'
        rw [hc] at hc'
        cases hc'
        omega
    · rename_i hother
      cases h
      exact ⟨⟨[], rfl, by simp⟩, fun c hc => absurd hc (hother c)⟩

/-- What a reader has taken grows by the bytes that it gets. -/
theorem read_bytes (h : p.read want = some ⟨due, .bytes b, q⟩) :
    q.written = p.written ∧ q.taken = p.taken + b.size ∧ q.taken ≤ p.written.size ∧
      b.size ≤ want ∧ (0 < want → 0 < b.size) ∧
      octets q.received = octets p.received ++ octets b := by
  unfold read at h
  split at h
  · cases h
  · rename_i a rest hp
    obtain ⟨-, hnew⟩ := pending_eq_cons hp
    split at h
    · rename_i c hc
      have hlt := hnew c hc
      simp only [Option.some.injEq, Timed.mk.injEq, Prod.mk.injEq, Input.bytes.injEq] at h
      obtain ⟨-, rfl, rfl⟩ := h
      have hsize : (p.written.extract p.taken
          (p.taken + min want (min c p.written.size - p.taken))).size =
          min want (min c p.written.size - p.taken) := by
        rw [ByteArray.size_extract]
        omega
      refine ⟨rfl, ?_, ?_, ?_, ?_, ?_⟩
      · rw [hsize]
      · dsimp only
        omega
      · omega
      · omega
      · simp only [received, octets_extract, List.drop_zero, List.drop_take,
          Nat.add_sub_cancel_left, Nat.sub_zero]
        exact List.take_add
    · cases h
    · cases h

theorem read_ended (h : p.read want = some ⟨due, .ended, q⟩) :
    q.written = p.written ∧ q.taken = p.taken := by
  unfold read at h
  split at h
  · cases h
  · split at h <;> cases h
    exact ⟨rfl, rfl⟩

theorem read_failed {e : IoError} (h : p.read want = some ⟨due, .failed e, q⟩) :
    q.written = p.written ∧ q.taken = p.taken := by
  unfold read at h
  split at h
  · cases h
  · split at h <;> cases h
    exact ⟨rfl, rfl⟩

/-- What a writer has put grows by the front part that is accepted. -/
theorem write_bytes (h : p.write b = some ⟨due, .accepted n, q⟩) :
    n ≤ b.size ∧ q.taken = p.taken ∧
      octets q.written = octets p.written ++ (octets b).take n := by
  unfold write at h
  split at h
  · cases h
  · split at h
    · simp only [Option.some.injEq, Timed.mk.injEq, Prod.mk.injEq, Output.accepted.injEq] at h
      obtain ⟨-, rfl, rfl⟩ := h
      exact ⟨Nat.min_le_right _ _, rfl, by simp⟩
    · cases h

theorem write_failed {e : IoError} (h : p.write b = some ⟨due, .failed e, q⟩) :
    q.written = p.written ∧ q.taken = p.taken := by
  unfold write at h
  split at h
  · cases h
  · split at h <;> cases h
    exact ⟨rfl, rfl⟩

end Pipe

namespace Network

variable {net after last : Network} {stream want deadline : Nat} {d : Direction} {b : ByteArray}

/-- Only one pipe and the clock are different. -/
structure Touches (stream : Nat) (d : Direction) (net after : Network) : Prop where
  rest : after = { net with now := after.now, pipe := after.pipe }
  other : ∀ s e, ¬(s = stream ∧ e = d) → after.pipe s e = net.pipe s e
  now_le : net.now ≤ after.now

namespace Touches

theorem refl (stream : Nat) (d : Direction) (net : Network) : Touches stream d net net :=
  ⟨rfl, fun _ _ _ => rfl, Nat.le_refl _⟩

theorem trans (h : Touches stream d net after) (h' : Touches stream d after last) :
    Touches stream d net last where
  rest := by
    have := h'.rest
    rw [h.rest] at this
    exact this
  other s e hne := (h'.other s e hne).trans (h.other s e hne)
  now_le := Nat.le_trans h.now_le h'.now_le

theorem opened (h : Touches stream d net after) : after.opened = net.opened := by
  rw [h.rest]

end Touches

theorem touches_clock {t : Nat} (h : net.now ≤ t) : Touches stream d net { net with now := t } :=
  ⟨rfl, fun _ _ _ => rfl, h⟩

theorem touches_setPipe (p : Pipe) : Touches stream d net (net.setPipe stream d p) :=
  ⟨rfl, fun _ _ hne => net.pipe_setPipe_ne p hne, Nat.le_refl _⟩

theorem await_clock {α : Type} {event : Option (Timed α)} {w : Waited α}
    (h : net.await deadline event = (w, after)) :
    ∃ t, net.now ≤ t ∧ after = { net with now := t } := by
  have hout : ∀ v : Waited α, net.waitOut deadline = (v, after) →
      ∃ t, net.now ≤ t ∧ after = { net with now := t } := by
    intro v hv
    unfold waitOut at hv
    dsimp only at hv
    split at hv <;> cases hv <;> exact ⟨_, Nat.le_max_left _ _, rfl⟩
  unfold await at h
  split at h
  · exact hout _ h
  · dsimp only at h
    split at h
    · cases h
      exact ⟨_, Nat.le_max_left _ _, rfl⟩
    · exact hout _ h

theorem touches_read {w : Waited Input} (h : net.read stream d want deadline = (w, after)) :
    Touches stream d net after := by
  unfold read at h
  split at h <;> rename_i hawait <;> obtain ⟨t, ht, rfl⟩ := await_clock hawait <;> cases h
  · exact (touches_clock ht).trans (touches_setPipe _)
  · exact touches_clock ht
  · exact touches_clock ht

theorem touches_write {w : Waited Output} (h : net.write stream d b deadline = (w, after)) :
    Touches stream d net after := by
  unfold write at h
  split at h <;> rename_i hawait <;> obtain ⟨t, ht, rfl⟩ := await_clock hawait <;> cases h
  · exact (touches_clock ht).trans (touches_setPipe _)
  · exact touches_clock ht
  · exact touches_clock ht

theorem pipe_read_vain {w : Waited Input} (h : net.read stream d want deadline = (w, after))
    (hw : ∀ i, w ≠ .came i) : after.pipe = net.pipe := by
  unfold read at h
  split at h <;> rename_i hawait <;> obtain ⟨t, ht, rfl⟩ := await_clock hawait <;> cases h
  · exact absurd rfl (hw _)
  · rfl
  · rfl

theorem pipe_write_vain {w : Waited Output} (h : net.write stream d b deadline = (w, after))
    (hw : ∀ o, w ≠ .came o) : after.pipe = net.pipe := by
  unfold write at h
  split at h <;> rename_i hawait <;> obtain ⟨t, ht, rfl⟩ := await_clock hawait <;> cases h
  · exact absurd rfl (hw _)
  · rfl
  · rfl

end Network
end Courier
