import Courier.Proofs.Net.Arrivals

/-!
# Waiting until a deadline

However long it takes for something to come, a wait is over at its deadline, and it
is over without a result only if nothing was due until then. `Pipe.arrivedBefore`
counts the bytes that a reader can have before an instant, if he takes them as they
come; a reader who stops without having been given up has taken all of them.
-/

namespace Courier

namespace Network

variable {α : Type} {net mid after : Network} {deadline due stream t want : Nat} {d : Direction}

theorem willing_eq_true_iff : net.willing due = true ↔
    ∀ t, net.patience = some t → due ≤ max net.now t := by
  unfold willing
  cases net.patience with
  | none => simp
  | some t => simp

theorem willing_eq_false_iff : net.willing due = false ↔
    ∃ t, net.patience = some t ∧ max net.now t < due := by
  unfold willing
  cases net.patience with
  | none => simp
  | some t => simp only [decide_eq_false_iff_not, Nat.not_le, Option.some.injEq, exists_eq_left']

/-- The clock goes on, but not beyond a deadline that is still to come. -/
structure Within (deadline : Nat) (net after : Network) : Prop where
  now_le : net.now ≤ after.now
  le_deadline : after.now ≤ max net.now deadline
  patience : after.patience = net.patience

namespace Within

theorem refl (deadline : Nat) (net : Network) : Within deadline net net :=
  ⟨Nat.le_refl _, Nat.le_max_left _ _, rfl⟩

theorem trans (h : Within deadline net mid) (h' : Within deadline mid after) :
    Within deadline net after := by
  refine ⟨Nat.le_trans h.now_le h'.now_le, ?_, h'.patience.trans h.patience⟩
  have hfirst := h.le_deadline
  have hlast := h'.le_deadline
  omega

theorem of_eq {last : Network} (h : Within deadline net after) (hn : last.now = after.now)
    (hp : last.patience = after.patience) : Within deadline net last :=
  ⟨hn ▸ h.now_le, hn ▸ h.le_deadline, hp.trans h.patience⟩

theorem add {s : Nat} (h : Within (net.now + s) net mid) (h' : Within (mid.now + t) mid after) :
    Within (net.now + (s + t)) net after := by
  refine ⟨Nat.le_trans h.now_le h'.now_le, ?_, h'.patience.trans h.patience⟩
  have hfirst := h.le_deadline
  have hlast := h'.le_deadline
  omega

theorem mono {s : Nat} (h : Within (net.now + s) net after) (hle : s ≤ t) :
    Within (net.now + t) net after := by
  refine ⟨h.now_le, Nat.le_trans h.le_deadline ?_, h.patience⟩
  omega

end Within

theorem waitOut_spec {w : Waited α} (h : net.waitOut deadline = (w, after)) :
    Within deadline net after ∧ (w = .late → net.willing (max net.now deadline)) ∧
      (w = .abandoned → net.patience ≠ none) := by
  unfold waitOut at h
  dsimp only at h
  split at h <;> rename_i hw
  · cases h
    exact ⟨⟨Nat.le_max_left _ _, Nat.le_refl _, rfl⟩, fun _ => hw, nofun⟩
  · obtain ⟨t, ht, hlt⟩ := willing_eq_false_iff.mp (by simpa using hw)
    cases h
    refine ⟨⟨Nat.le_max_left _ _, ?_, rfl⟩, nofun, fun _ => by simp [ht]⟩
    rw [ht, Option.getD_some]
    exact Nat.le_of_lt hlt

/-- A wait that was not given up and came to nothing has lasted until the deadline. -/
theorem await_spec {event : Option (Timed α)} {w : Waited α}
    (h : net.await deadline event = (w, after)) :
    Within deadline net after ∧ (w = .late → ∀ x, event = some x → deadline < x.due) ∧
      (w = .abandoned → net.patience ≠ none) := by
  unfold await at h
  split at h
  · obtain ⟨hwithin, -, habandoned⟩ := waitOut_spec h
    exact ⟨hwithin, fun _ => nofun, habandoned⟩
  · rename_i x
    dsimp only at h
    split at h <;> rename_i hdue
    · cases h
      simp only [Bool.and_eq_true, decide_eq_true_eq] at hdue
      exact ⟨⟨Nat.le_max_left _ _, hdue.1, rfl⟩, nofun, nofun⟩
    · obtain ⟨hwithin, hlate, habandoned⟩ := waitOut_spec h
      refine ⟨hwithin, fun hw y hy => ?_, habandoned⟩
      cases hy
      apply Nat.lt_of_not_le
      intro hle
      have hstop := willing_eq_true_iff.mp (hlate hw)
      -- whoever waits until the deadline waits for what is due before it
      have hwilling : net.willing (max net.now x.due) = true := by
        rw [willing_eq_true_iff]
        intro t ht
        have := hstop t ht
        omega
      refine hdue ?_
      rw [hwilling, Bool.and_true, decide_eq_true_eq]
      omega

theorem read_spec {w : Waited Input} (h : net.read stream d want deadline = (w, after)) :
    Within deadline net after ∧
      (w = .late → ∀ x, (net.pipe stream d).read want = some x → deadline < x.due) ∧
      (w = .abandoned → net.patience ≠ none) := by
  unfold read at h
  split at h <;> rename_i hawait <;> obtain ⟨hwithin, hlate, habandoned⟩ := await_spec hawait <;>
    cases h
  · exact ⟨hwithin.of_eq rfl rfl, nofun, nofun⟩
  · exact ⟨hwithin, fun _ => hlate rfl, nofun⟩
  · exact ⟨hwithin, nofun, fun _ => habandoned rfl⟩

theorem write_spec {b : ByteArray} {w : Waited Output}
    (h : net.write stream d b deadline = (w, after)) :
    Within deadline net after ∧ (w = .abandoned → net.patience ≠ none) := by
  unfold write at h
  split at h <;> rename_i hawait <;> obtain ⟨hwithin, -, habandoned⟩ := await_spec hawait <;>
    cases h
  · exact ⟨hwithin.of_eq rfl rfl, nofun⟩
  · exact ⟨hwithin, nofun⟩
  · exact ⟨hwithin, fun _ => habandoned rfl⟩

theorem welcome_spec {w : Waited Visit} (h : net.welcome deadline = (w, after)) :
    Within deadline net after ∧ (w = .abandoned → net.patience ≠ none) := by
  unfold welcome at h
  split at h <;> rename_i hawait <;> obtain ⟨hwithin, -, habandoned⟩ := await_spec hawait <;>
    cases h
  · exact ⟨hwithin.of_eq rfl rfl, nofun⟩
  · exact ⟨hwithin, nofun⟩
  · exact ⟨hwithin, fun _ => habandoned rfl⟩

theorem dial_spec {w : Waited (Except IoError Nat)} {target : Address}
    (h : net.dial target deadline = (w, after)) :
    Within deadline net after ∧ (w = .abandoned → net.patience ≠ none) := by
  unfold dial at h
  dsimp only at h
  split at h <;> rename_i hawait <;> obtain ⟨hwithin, -, habandoned⟩ := await_spec hawait <;>
    have hwithin : Within deadline net _ := ⟨hwithin.now_le, hwithin.le_deadline, hwithin.patience⟩ <;>
    cases h
  · exact ⟨hwithin.of_eq rfl rfl, nofun⟩
  · exact ⟨hwithin, nofun⟩
  · exact ⟨hwithin, nofun⟩
  · exact ⟨hwithin, fun _ => habandoned rfl⟩

end Network

namespace Pipe

variable {p q : Pipe} {want due t : Nat}

/-- How many bytes come before an instant to a reader who has so many already: the
script is followed up to the first entry that is not due before it, or that ends the
reading. -/
def comeBefore (t written : Nat) : Nat → List (Timed Arrival) → Nat
  | n, [] => n
  | n, a :: rest =>
    match a.what with
    | .upTo count =>
      if min count written ≤ n then comeBefore t written n rest
      else if a.due < t then comeBefore t written (min count written) rest
      else n
    | .ended => n
    | .failed e => if e.isTransient && decide (a.due < t) then comeBefore t written n rest else n

/-- How many bytes of the pipe have arrived before an instant, from the first on. -/
def arrivedBefore (p : Pipe) (t : Nat) : Nat := comeBefore t p.written.size p.taken p.arrivals

theorem le_comeBefore (t written n : Nat) (l : List (Timed Arrival)) :
    n ≤ comeBefore t written n l := by
  fun_induction comeBefore t written n l with
  | case1 n => exact Nat.le_refl _
  | case2 n a rest c hc hstale ih => exact ih
  | case3 n a rest c hc hnew hdue ih => exact Nat.le_trans (Nat.le_of_not_le hnew) ih
  | case4 n a rest c hc hnew hdue => exact Nat.le_refl _
  | case5 n a rest hend => exact Nat.le_refl _
  | case6 n a rest e he hgo ih => exact ih
  | case7 n a rest e he hstop => exact Nat.le_refl _

theorem comeBefore_mono {n m : Nat} (h : n ≤ m) (t written : Nat) (l : List (Timed Arrival)) :
    comeBefore t written n l ≤ comeBefore t written m l := by
  fun_induction comeBefore t written n l generalizing m with
  | case1 n => exact h
  | case2 n a rest c hc hstale ih =>
    rw [comeBefore, hc]
    dsimp only
    rw [if_pos (Nat.le_trans hstale h)]
    exact ih h
  | case3 n a rest c hc hnew hdue ih =>
    rw [comeBefore, hc]
    dsimp only
    split
    · rename_i hstale
      exact ih hstale
    · exact Nat.le_refl _
  | case4 n a rest c hc hnew hdue => exact Nat.le_trans h (le_comeBefore _ _ _ _)
  | case5 n a rest hend => exact Nat.le_trans h (le_comeBefore _ _ _ _)
  | case6 n a rest e he hgo ih =>
    rw [comeBefore, he]
    dsimp only
    rw [if_pos hgo]
    exact ih h
  | case7 n a rest e he hstop => exact Nat.le_trans h (le_comeBefore _ _ _ _)

theorem comeBefore_pending (t written n : Nat) (l : List (Timed Arrival)) :
    comeBefore t written n (pending written n l) = comeBefore t written n l := by
  fun_induction pending written n l with
  | case1 => rfl
  | case2 a rest c hc hstale ih =>
    rw [ih, comeBefore, hc]
    dsimp only
    rw [if_pos hstale]
  | case3 => rfl
  | case4 => rfl

/-- What a read means for the bytes that come before an instant: there are none to be
had if the read cannot be made before it, or ends the reading, and they can be had
after the read too. -/
theorem arrivedBefore_read {i : Input} (h : p.read want = some ⟨due, i, q⟩) :
    (t ≤ due → p.arrivedBefore t = p.taken) ∧ (i = .ended → p.arrivedBefore t = p.taken) ∧
      (∀ e, i = .failed e → e.isTransient = false → p.arrivedBefore t = p.taken) ∧
      p.arrivedBefore t ≤ q.arrivedBefore t := by
  have hp : p.arrivedBefore t =
      comeBefore t p.written.size p.taken (pending p.written.size p.taken p.arrivals) :=
    (comeBefore_pending _ _ _ _).symm
  rw [hp]
  unfold read at h
  split at h
  · cases h
  · rename_i a rest hpend
    obtain ⟨-, hnew⟩ := pending_eq_cons hpend
    rw [hpend]
    split at h <;> rename_i hwhat
    · cases h
      have hlt := hnew _ hwhat
      refine ⟨fun hle => ?_, nofun, nofun, comeBefore_mono (Nat.le_add_right _ _) _ _ _⟩
      rw [comeBefore, hwhat]
      dsimp only
      rw [if_neg (Nat.not_le.mpr hlt), if_neg (Nat.not_lt.mpr hle)]
    · cases h
      have hnone : comeBefore t p.written.size p.taken (a :: rest) = p.taken := by
        rw [comeBefore, hwhat]
      exact ⟨fun _ => hnone, fun _ => hnone, nofun, Nat.le_refl _⟩
    · rename_i e
      cases h
      rw [comeBefore, hwhat]
      dsimp only
      refine ⟨fun hle => ?_, nofun, fun e' he hlasting => ?_, ?_⟩
      · simp [Nat.not_lt.mpr hle]
      · cases he
        simp [hlasting]
      · split
        · exact Nat.le_refl _
        · exact le_comeBefore _ _ _ _

theorem arrivedBefore_of_read_none (h : p.read want = none) : p.arrivedBefore t = p.taken := by
  have hp : p.arrivedBefore t =
      comeBefore t p.written.size p.taken (pending p.written.size p.taken p.arrivals) :=
    (comeBefore_pending _ _ _ _).symm
  rw [hp]
  unfold read at h
  split at h
  · rename_i hpend
    rw [hpend, comeBefore]
  · split at h <;> cases h

/-- The bytes that have not been taken and arrive before an instant. -/
def comingBefore (p : Pipe) (t : Nat) : List UInt8 :=
  p.unread.take (p.arrivedBefore t - p.taken)

theorem comingBefore_prefix {got : List UInt8} (hw : q.written = p.written)
    (hgot : octets q.received = octets p.received ++ got) (hle : p.arrivedBefore t ≤ q.taken) :
    p.comingBefore t <+: got := by
  have hunread : p.unread = got ++ q.unread := by
    have hall := q.received_append_unread
    rw [hw, hgot, ← p.received_append_unread, List.append_assoc] at hall
    exact (List.append_cancel_left hall).symm
  have hlen := congrArg List.length hgot
  simp only [received, hw, length_octets, ByteArray.size_extract, List.length_append] at hlen
  have hcoming : p.comingBefore t <+: got ++ q.unread := hunread ▸ List.take_prefix _ _
  apply List.prefix_of_prefix_length_le hcoming (List.prefix_append _ _)
  rw [comingBefore, List.length_take, unread, List.length_drop, length_octets]
  omega

end Pipe
end Courier
