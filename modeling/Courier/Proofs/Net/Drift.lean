import Courier.Proofs.Net.Effects

/-!
# What happens between two calls

While one end does nothing the network changes under it: the peer writes and
reads, bytes arrive, the system takes others, streams fail, visitors come.
`Network.Drift` keeps what nobody but the end itself can change, the bytes that
it has put on its streams and how many it has taken, and lets the peer's bytes
only grow. The clock may stand anywhere afterwards. So calls of the two ends
that overlap in time are covered as well, since a call that writes can be taken
to happen at its start and one that reads at its end.
-/

namespace Courier

theorem Pipe.octets_received (p : Pipe) :
    octets p.received = (octets p.written).take p.taken := by
  simp [Pipe.received]

theorem Pipe.received_prefix_written (p : Pipe) : octets p.received <+: octets p.written := by
  rw [p.octets_received]
  exact List.take_prefix _ _

namespace Network

variable {r : Role} {net after last : Network}

/-- What others may change while an end does nothing. -/
structure Drift (r : Role) (net after : Network) : Prop where
  written : ∀ s, (after.pipe s r.outgoing).written = (net.pipe s r.outgoing).written
  taken : ∀ s, (after.pipe s r.incoming).taken = (net.pipe s r.incoming).taken
  grows : ∀ s, octets (net.pipe s r.incoming).written <+: octets (after.pipe s r.incoming).written
  opened : net.opened ≤ after.opened

namespace Drift

theorem refl (r : Role) (net : Network) : Drift r net net :=
  ⟨fun _ => rfl, fun _ => rfl, fun _ => List.prefix_rfl, Nat.le_refl _⟩

theorem trans (h : Drift r net after) (h' : Drift r after last) : Drift r net last where
  written s := (h'.written s).trans (h.written s)
  taken s := (h'.taken s).trans (h.taken s)
  grows s := (h.grows s).trans (h'.grows s)
  opened := Nat.le_trans h.opened h'.opened

theorem taken_le (h : Drift r net after) {s : Nat}
    (hs : (net.pipe s r.incoming).taken ≤ (net.pipe s r.incoming).written.size) :
    (after.pipe s r.incoming).taken ≤ (after.pipe s r.incoming).written.size := by
  have hlen := (h.grows s).length_le
  simp only [length_octets] at hlen
  have := h.taken s
  omega

/-- What an end has taken stays what it was, however much comes after it. -/
theorem received (h : Drift r net after) {s : Nat}
    (hs : (net.pipe s r.incoming).taken ≤ (net.pipe s r.incoming).written.size) :
    (after.pipe s r.incoming).received = (net.pipe s r.incoming).received := by
  obtain ⟨more, hmore⟩ := h.grows s
  rw [← octets_inj, Pipe.octets_received, Pipe.octets_received, h.taken s, ← hmore]
  exact List.take_append_of_le_length (by simpa using hs)

end Drift

theorem drift_setPipe {s : Nat} {p : Pipe}
    (ht : p.taken = (net.pipe s r.incoming).taken)
    (hw : octets (net.pipe s r.incoming).written <+: octets p.written) :
    net.Drift r (net.setPipe s r.incoming p) where
  written t := by rw [net.pipe_setPipe_ne p (by simp [r.incoming_ne_outgoing.symm])]
  taken t := by
    by_cases hts : t = s
    · rw [hts, net.pipe_setPipe_self, ht]
    · rw [net.pipe_setPipe_ne p (by simp [hts])]
  grows t := by
    by_cases hts : t = s
    · rw [hts, net.pipe_setPipe_self]
      exact hw
    · have hsame : (net.setPipe s r.incoming p).pipe t r.incoming = net.pipe t r.incoming :=
        net.pipe_setPipe_ne p (by simp [hts])
      exact hsame ▸ List.prefix_rfl
  opened := Nat.le_refl _

/-- An end that has not been there yet has put nothing and taken nothing. -/
structure Untouched (r : Role) (net : Network) : Prop where
  written : ∀ s, (net.pipe s r.outgoing).written = ByteArray.empty
  taken : ∀ s, (net.pipe s r.incoming).taken = 0

theorem Untouched.drift (h : Untouched r net) (hd : Drift r net after) : Untouched r after :=
  ⟨fun s => (hd.written s).trans (h.written s), fun s => (hd.taken s).trans (h.taken s)⟩

/-- A network on which everything comes off at once: a peer comes, an attempt to
connect succeeds, and what is written arrives. -/
def obliging : Network where
  pipe _ _ := { arrivals := [⟨0, .upTo 1000⟩], uptakes := [⟨0, .room 1000⟩] }
  dials := [⟨0, .joined⟩]
  visits := [⟨0, .arrives 0 ⟨.v4 127 0 0 1, 50000⟩⟩]
  binding _ := .ok 9000
  lookup _ := .error "unknown name"

theorem untouched_obliging (r : Role) : Untouched r obliging := ⟨fun _ => rfl, fun _ => rfl⟩

/-- Nothing has happened on any stream; at most new ones have been opened. -/
structure Calm (net after : Network) : Prop where
  pipe : after.pipe = net.pipe
  opened : net.opened ≤ after.opened

namespace Calm

theorem refl (net : Network) : Calm net net := ⟨rfl, Nat.le_refl _⟩

theorem trans (h : Calm net after) (h' : Calm after last) : Calm net last :=
  ⟨h'.pipe.trans h.pipe, Nat.le_trans h.opened h'.opened⟩

theorem drift (h : Calm net after) (r : Role) : Drift r net after :=
  ⟨fun _ => by rw [h.pipe], fun _ => by rw [h.pipe],
    fun _ => h.pipe ▸ List.prefix_rfl, h.opened⟩

end Calm

theorem calm_await {α : Type} {deadline : Nat} {event : Option (Timed α)} {w : Waited α}
    (h : net.await deadline event = (w, after)) : Calm net after := by
  obtain ⟨t, -, rfl⟩ := await_clock h
  exact ⟨rfl, Nat.le_refl _⟩

theorem calm_note (act : Act) : Calm net (net.note act) := ⟨rfl, Nat.le_refl _⟩

theorem calm_welcome {deadline : Nat} {w : Waited Visit}
    (h : net.welcome deadline = (w, after)) : Calm net after := by
  unfold welcome at h
  split at h <;> rename_i hawait <;> have hcalm := calm_await hawait <;> cases h
  · exact ⟨hcalm.pipe, hcalm.opened⟩
  · exact hcalm
  · exact hcalm

theorem calm_dial {target : Address} {deadline : Nat} {w : Waited (Except IoError Nat)}
    (h : net.dial target deadline = (w, after)) :
    Calm net after ∧ ∀ s, w = .came (.ok s) → net.opened ≤ s ∧ s < after.opened := by
  unfold dial at h
  dsimp only at h
  split at h <;> rename_i hawait <;> obtain ⟨t, -, rfl⟩ := await_clock hawait <;> cases h
  · refine ⟨⟨rfl, Nat.le_succ _⟩, ?_⟩
    rintro s ⟨⟩
    exact ⟨Nat.le_refl _, Nat.lt_succ_self _⟩
  · exact ⟨⟨rfl, Nat.le_refl _⟩, by simp⟩
  · exact ⟨⟨rfl, Nat.le_refl _⟩, by simp⟩
  · exact ⟨⟨rfl, Nat.le_refl _⟩, by simp⟩

end Network

end Courier
