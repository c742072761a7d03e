import Courier.Proofs.Link.Run

/-!
# The phase of a link after an operation

Reading and writing leave the phase alone; accepting and reconnecting say in
their answer what has become of it. Giving the stream up is the one operation in
which the two roles differ.
-/

namespace Courier.Link

variable {l l' : Link} {net net' : Network}

@[simp] theorem phase_readFrame (l : Link) (net : Network) :
    (l.readFrame net).2.1.phase = l.phase := by
  unfold readFrame
  split
  · rfl
  · split <;> rfl

@[simp] theorem phase_writeFrame (l : Link) (frame : ByteArray) (net : Network) :
    (l.writeFrame frame net).2.1.phase = l.phase := by
  unfold writeFrame
  split
  · rfl
  · split
    · split <;> rfl
    · rfl

@[simp] theorem role_writeFrame (l : Link) (frame : ByteArray) (net : Network) :
    (l.writeFrame frame net).2.1.role = l.role := by
  unfold writeFrame
  split
  · rfl
  · split
    · split <;> rfl
    · rfl

theorem isConnected_iff : l.isConnected = true ↔ ∃ s, l.phase = .connected s := by
  unfold isConnected
  split <;> simp_all

theorem isConnected_accept {b : Bool} (h : l.accept net = (.returned (.ok b), l', net')) :
    l'.isConnected = b := by
  unfold accept at h
  split at h
  · rename_i hp
    have hnot : l.isConnected = false := by simp [isConnected, hp]
    split at h
    · cases h
      exact hnot
    · cases h
    · split at h <;> cases h
      exact hnot
    · cases h
    · cases h
      rfl
  · cases h
    rfl

theorem accept_ne_ok_true {o : Call (Except Failure Bool)} (hp : l.phase = .listening)
    (h : l.accept net = (o, l', net')) (ho : o ≠ .returned (.ok true)) :
    l' = l ∧ ∀ f, o = .returned (.error f) → ∃ e, f = .io e := by
  unfold accept at h
  rw [hp] at h
  dsimp only at h
  split at h
  · cases h
    exact ⟨rfl, nofun⟩
  · cases h
    exact ⟨rfl, nofun⟩
  · split at h <;> cases h
    · exact ⟨rfl, nofun⟩
    · exact ⟨rfl, fun f hf => by cases hf; exact ⟨_, rfl⟩⟩
  · cases h
    exact ⟨rfl, fun f hf => by cases hf; exact ⟨_, rfl⟩⟩
  · cases h
    exact absurd rfl ho

theorem isConnected_tryReconnect {b : Bool} (h : l.tryReconnect net = (.returned b, l', net')) :
    l'.isConnected = b := by
  unfold tryReconnect at h
  split at h
  · rename_i hp _
    have hnot : l.isConnected = false := by simp [isConnected, hp]
    split at h
    · split at h <;> cases h
      · rfl
      · rfl
    · cases h
      exact hnot
  · cases h
    rfl

theorem tryReconnect_abandoned (h : l.tryReconnect net = (.abandoned, l', net')) : l' = l := by
  unfold tryReconnect at h
  split at h
  · split at h
    · split at h <;> cases h
      rfl
    · cases h
  · cases h

theorem tryReconnect_of_not_reconnecting (h : ∀ b, l.phase ≠ .reconnecting b) :
    l.tryReconnect net = (.returned l.isConnected, l, net) := by
  unfold tryReconnect
  split
  · rename_i b _ hp _
    exact absurd hp (h b)
  · rfl

/-! ## Giving the stream up -/

/-- The stream is given up: a client may try to reconnect at once, and a server is
done. -/
def GivenUp (l : Link) (net : Network) : Prop :=
  match l.role with
  | .client => ∃ b, l.phase = .reconnecting b ∧ b.failures = 0 ∧ b.isDue net.now = true
  | .server => l.phase = .disconnected

theorem GivenUp.isConnected_eq_false (h : GivenUp l net) : l.isConnected = false := by
  unfold GivenUp at h
  split at h
  · obtain ⟨b, hp, -⟩ := h
    simp [isConnected, hp]
  · simp [isConnected, h]

@[simp] theorem now_close (l : Link) (net : Network) : (l.close net).2.now = net.now := by
  unfold close
  dsimp only
  split <;> rfl

theorem tearDown_client (hr : l.role = .client) : l.tearDown net =
    ({ l with phase := .reconnecting (Backoff.start net.now), writing := false },
      (l.close net).2) := by
  have hrole : (l.close net).1.role = .client := hr
  unfold tearDown
  dsimp only
  rw [hrole]
  dsimp only
  rw [now_close, hr]
  rfl

theorem tearDown_server (hr : l.role = .server) : l.tearDown net = l.close net := by
  have hrole : (l.close net).1.role = .server := hr
  unfold tearDown
  dsimp only
  rw [hrole]

theorem givenUp_tearDown (l : Link) (net : Network) :
    GivenUp (l.tearDown net).1 (l.tearDown net).2 := by
  cases hr : l.role with
  | client =>
    rw [tearDown_client hr]
    simp only [GivenUp, hr, now_close]
    exact ⟨_, rfl, rfl, Backoff.isDue_start _⟩
  | server =>
    rw [tearDown_server hr]
    simp only [GivenUp, role_close, hr, phase_close]

end Courier.Link
