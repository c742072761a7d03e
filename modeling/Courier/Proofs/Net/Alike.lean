import Courier.Proofs.Net.Effects

/-!
# Networks on which other bytes travel

Two networks are alike if the world does the same on both, and on every stream as many
bytes have been put and taken. Which bytes these are makes no difference to a wait: it
goes by the scripts and by the numbers of bytes. So whatever is asked of one network
comes to the same on the other, but for the bytes that a read gets, and leaves the two
alike.
-/

namespace Courier

/-- Bytes of the same number, or otherwise the same. -/
inductive Input.Alike : Input → Input → Prop
  | bytes {b b' : ByteArray} (h : b.size = b'.size) : Alike (.bytes b) (.bytes b')
  | ended : Alike .ended .ended
  | failed (e : IoError) : Alike (.failed e) (.failed e)

/-- Events that are due at one instant and go together, or no event. -/
inductive Timed.Pairs {α β : Type} (R : α → β → Prop) :
    Option (Timed α) → Option (Timed β) → Prop
  | none : Pairs R none none
  | some (due : Nat) {x : α} {y : β} (h : R x y) : Pairs R (some ⟨due, x⟩) (some ⟨due, y⟩)

theorem Timed.pairs_eq {α : Type} (event : Option (Timed α)) : Pairs Eq event event := by
  cases event with
  | none => exact .none
  | some e => exact .some e.due rfl

/-- Waits that end in the same way, with what goes together. -/
inductive Waited.Pairs {α β : Type} (R : α → β → Prop) : Waited α → Waited β → Prop
  | came {x : α} {y : β} (h : R x y) : Pairs R (.came x) (.came y)
  | late : Pairs R .late .late
  | abandoned : Pairs R .abandoned .abandoned

theorem Waited.Pairs.eq {α : Type} {w w' : Waited α} (h : Pairs Eq w w') : w' = w := by
  cases h with
  | came h => rw [h]
  | late => rfl
  | abandoned => rfl

namespace Pipe

/-- As many bytes have been put and taken, and the script is the same. -/
structure Alike (p q : Pipe) : Prop where
  written : p.written.size = q.written.size
  taken : p.taken = q.taken
  arrivals : p.arrivals = q.arrivals
  uptakes : p.uptakes = q.uptakes

variable {p q : Pipe}

theorem Alike.read (h : p.Alike q) (want : Nat) :
    Timed.Pairs (fun x y => x.1.Alike y.1 ∧ x.2.Alike y.2) (p.read want) (q.read want) := by
  unfold Pipe.read
  rw [h.written, h.taken, h.arrivals]
  cases pending q.written.size q.taken q.arrivals with
  | nil => exact .none
  | cons e rest =>
    cases hwhat : e.what with
    | upTo count =>
      simp only [hwhat]
      refine .some e.due ⟨.bytes ?_, h.written, ?_, rfl, h.uptakes⟩
      · simp only [ByteArray.size_extract, h.written]
      · rfl
    | ended =>
      simp only [hwhat]
      exact .some e.due ⟨.ended, h.written, rfl, rfl, h.uptakes⟩
    | failed x =>
      simp only [hwhat]
      exact .some e.due ⟨.failed x, h.written, rfl, rfl, h.uptakes⟩

theorem Alike.write {b b' : ByteArray} (h : p.Alike q) (hb : b.size = b'.size) :
    Timed.Pairs (fun x y => x.1 = y.1 ∧ x.2.Alike y.2) (p.write b) (q.write b') := by
  unfold Pipe.write
  rw [h.uptakes]
  cases q.uptakes with
  | nil => exact .none
  | cons u rest =>
    cases hwhat : u.what with
    | room count =>
      simp only [hwhat, hb]
      refine .some u.due ⟨rfl, ?_, h.taken, h.arrivals, rfl⟩
      simp only [ByteArray.size_append, ByteArray.size_extract, h.written, hb]
    | failed x =>
      simp only [hwhat]
      exact .some u.due ⟨rfl, h.written, h.taken, h.arrivals, rfl⟩

end Pipe

namespace Network

variable {a a' b b' : Network} {stream want deadline : Nat} {d : Direction}

/-- The world does the same on two networks. -/
structure SameWorld (a b : Network) : Prop where
  now : a.now = b.now
  patience : a.patience = b.patience
  dials : a.dials = b.dials
  opened : a.opened = b.opened
  visits : a.visits = b.visits
  arrivals : ∀ s d, (a.pipe s d).arrivals = (b.pipe s d).arrivals
  uptakes : ∀ s d, (a.pipe s d).uptakes = (b.pipe s d).uptakes

structure Alike (a b : Network) : Prop where
  now : a.now = b.now
  patience : a.patience = b.patience
  dials : a.dials = b.dials
  opened : a.opened = b.opened
  visits : a.visits = b.visits
  pipe : ∀ s d, (a.pipe s d).Alike (b.pipe s d)

theorem SameWorld.alike (h : SameWorld a b)
    (hw : ∀ s d, (a.pipe s d).written.size = (b.pipe s d).written.size)
    (ht : ∀ s d, (a.pipe s d).taken = (b.pipe s d).taken) : Alike a b :=
  ⟨h.now, h.patience, h.dials, h.opened, h.visits,
    fun s d => ⟨hw s d, ht s d, h.arrivals s d, h.uptakes s d⟩⟩

namespace Alike

theorem refl (a : Network) : Alike a a :=
  ⟨rfl, rfl, rfl, rfl, rfl, fun _ _ => ⟨rfl, rfl, rfl, rfl⟩⟩

theorem tick (h : Alike a b) (t : Nat) : Alike { a with now := t } { b with now := t } :=
  ⟨rfl, h.patience, h.dials, h.opened, h.visits, h.pipe⟩

theorem note (h : Alike a b) (x y : Act) : Alike (a.note x) (b.note y) :=
  ⟨h.now, h.patience, h.dials, h.opened, h.visits, h.pipe⟩

theorem setPipe {p q : Pipe} (h : Alike a b) (hp : p.Alike q) (stream : Nat) (d : Direction) :
    Alike (a.setPipe stream d p) (b.setPipe stream d q) := by
  refine ⟨h.now, h.patience, h.dials, h.opened, h.visits, fun s e => ?_⟩
  by_cases hse : s = stream ∧ e = d
  · obtain ⟨rfl, rfl⟩ := hse
    rw [pipe_setPipe_self, pipe_setPipe_self]
    exact hp
  · rw [pipe_setPipe_ne _ _ hse, pipe_setPipe_ne _ _ hse]
    exact h.pipe s e

theorem willing (h : Alike a b) (due : Nat) : a.willing due = b.willing due := by
  unfold Network.willing
  rw [h.now, h.patience]

section

variable {α β : Type} {R : α → β → Prop} {w : Waited α}

theorem waitOut (h : Alike a b) (ha : a.waitOut deadline = (w, a')) :
    ∃ w' b', b.waitOut deadline = (w', b') ∧ Waited.Pairs R w w' ∧ Alike a' b' := by
  unfold Network.waitOut at ha ⊢
  dsimp only at ha ⊢
  rw [← h.now, ← h.willing, ← h.patience]
  split at ha <;> rename_i hw <;> cases ha
  · exact ⟨_, _, if_pos hw, .late, rfl, rfl, h.dials, h.opened, h.visits, h.pipe⟩
  · exact ⟨_, _, if_neg hw, .abandoned, rfl, rfl, h.dials, h.opened, h.visits, h.pipe⟩

theorem await {event : Option (Timed α)} {event' : Option (Timed β)} (h : Alike a b)
    (he : Timed.Pairs R event event') (ha : a.await deadline event = (w, a')) :
    ∃ w' b', b.await deadline event' = (w', b') ∧ Waited.Pairs R w w' ∧ Alike a' b' := by
  unfold Network.await at ha ⊢
  cases he with
  | none => exact h.waitOut ha
  | some due hxy =>
    dsimp only at ha ⊢
    rw [← h.now, ← h.willing]
    split at ha <;> rename_i hdue
    · cases ha
      exact ⟨_, _, if_pos hdue, .came hxy, h.tick _⟩
    · rw [if_neg hdue]
      exact h.waitOut ha

end

theorem read {w : Waited Input} (h : Alike a b)
    (ha : a.read stream d want deadline = (w, a')) :
    ∃ w' b', b.read stream d want deadline = (w', b') ∧ Waited.Pairs Input.Alike w w' ∧
      Alike a' b' := by
  unfold Network.read at ha ⊢
  split at ha <;> rename_i hawait <;>
    obtain ⟨w', mid, hb, hpairs, hmid⟩ := h.await ((h.pipe stream d).read want) hawait <;>
    rw [hb] <;> cases ha <;> cases hpairs
  · rename_i hxy
    exact ⟨_, _, rfl, .came hxy.1, hmid.setPipe hxy.2 stream d⟩
  · exact ⟨_, _, rfl, .late, hmid⟩
  · exact ⟨_, _, rfl, .abandoned, hmid⟩

theorem write {bytes bytes' : ByteArray} {w : Waited Output} (h : Alike a b)
    (hsize : bytes.size = bytes'.size) (ha : a.write stream d bytes deadline = (w, a')) :
    ∃ b', b.write stream d bytes' deadline = (w, b') ∧ Alike a' b' := by
  unfold Network.write at ha ⊢
  split at ha <;> rename_i hawait <;>
    obtain ⟨w', mid, hb, hpairs, hmid⟩ := h.await ((h.pipe stream d).write hsize) hawait <;>
    rw [hb] <;> cases ha <;> cases hpairs
  · rename_i x hxy
    obtain ⟨output, q⟩ := x
    obtain ⟨rfl, hq⟩ := hxy
    exact ⟨_, rfl, hmid.setPipe hq stream d⟩
  · exact ⟨_, rfl, hmid⟩
  · exact ⟨_, rfl, hmid⟩

theorem dial {target : Address} {w : Waited (Except IoError Nat)} (h : Alike a b)
    (ha : a.dial target deadline = (w, a')) :
    ∃ b', b.dial target deadline = (w, b') ∧ Alike a' b' := by
  unfold Network.dial at ha ⊢
  dsimp only at ha ⊢
  have hdialled : Alike { a.note (.dials target) with dials := a.dials.tail }
      { b.note (.dials target) with dials := b.dials.tail } :=
    ⟨h.now, h.patience, congrArg List.tail h.dials, h.opened, h.visits, h.pipe⟩
  rw [← h.dials] at hdialled ⊢
  split at ha <;> rename_i hawait <;>
    obtain ⟨w', mid, hb, hpairs, hmid⟩ := hdialled.await (Timed.pairs_eq _) hawait <;>
    cases hpairs.eq <;> rw [hb] <;> cases ha
  · refine ⟨{ mid.note (.opens mid.opened) with opened := mid.opened + 1 }, ?_, ?_⟩
    · simp only [hmid.opened]
    · exact ⟨hmid.now, hmid.patience, hmid.dials, congrArg (· + 1) hmid.opened, hmid.visits,
        hmid.pipe⟩
  · exact ⟨_, rfl, hmid⟩
  · exact ⟨_, rfl, hmid⟩
  · exact ⟨_, rfl, hmid⟩

theorem welcome {w : Waited Visit} (h : Alike a b) (ha : a.welcome deadline = (w, a')) :
    ∃ b', b.welcome deadline = (w, b') ∧ Alike a' b' := by
  unfold Network.welcome at ha ⊢
  rw [← h.visits]
  split at ha <;> rename_i hawait <;>
    obtain ⟨w', mid, hb, hpairs, hmid⟩ := h.await (Timed.pairs_eq _) hawait <;>
    cases hpairs.eq <;> rw [hb] <;> cases ha
  · exact ⟨_, rfl, hmid.now, hmid.patience, hmid.dials, hmid.opened,
      congrArg List.tail hmid.visits, hmid.pipe⟩
  · exact ⟨_, rfl, hmid⟩
  · exact ⟨_, rfl, hmid⟩

end Alike
end Network
end Courier
