import Courier.Proofs.Link.Deadlines

/-!
# How long writing takes

Every write of a frame may wait for as long as all the reads of a call together, so the
time that a frame takes grows with the number of pieces in which the system takes it.
`Pipe.waits` counts them ahead, along the script of the pipe. A frame that is taken in
one piece is written within one wait; one that is taken byte by byte can need a wait for
each byte, and is written all the same.
-/

namespace Courier

namespace Pipe

variable {p q : Pipe} {due n : Nat} {b : ByteArray}

/-- How often a writer of so many bytes waits, with what is coming on the pipe, until all
of them have been taken or it is clear that they will not be. -/
def waits : List (Timed Uptake) → Nat → Nat
  | [], n => min 1 n
  | u :: rest, n =>
    if n = 0 then 0
    else
      match u.what with
      | .room count => if count = 0 then 1 else 1 + waits rest (n - count)
      | .failed e => if e.isTransient then 1 + waits rest n else 1

/-- How many of the coming writes fail in passing. -/
def hiccups (l : List (Timed Uptake)) : Nat :=
  l.countP fun u =>
    match u.what with
    | .room _ => false
    | .failed e => e.isTransient

@[simp] theorem waits_zero (l : List (Timed Uptake)) : waits l 0 = 0 := by
  cases l <;> simp [waits]

theorem waits_pos (l : List (Timed Uptake)) (h : n ≠ 0) : 1 ≤ waits l n := by
  fun_cases waits l n with
  | case1 => omega
  | case2 u rest => exact absurd rfl h
  | case3 u rest hn count hwhat => exact Nat.le_refl _
  | case4 u rest hn count hwhat hcount => exact Nat.le_add_right _ _
  | case5 u rest hn e hwhat htrans => exact Nat.le_add_right _ _
  | case6 u rest hn e hwhat hlasting => exact Nat.le_refl _

/-- Every wait but the last gets a byte rid or ends with a failure in passing. -/
theorem waits_le (l : List (Timed Uptake)) (n : Nat) : waits l n ≤ n + hiccups l := by
  fun_induction waits l n with
  | case1 n => omega
  | case2 u rest => omega
  | case3 u rest n hn hwhat => omega
  | case4 u rest n hn count hwhat hcount ih =>
    have hpass : hiccups (u :: rest) = hiccups rest := by simp [hiccups, hwhat]
    omega
  | case5 u rest n hn e hwhat htrans ih =>
    have hcount : hiccups (u :: rest) = hiccups rest + 1 := by simp [hiccups, hwhat, htrans]
    omega
  | case6 u rest n hn e hwhat hlasting => omega

theorem waits_le_one {l : List (Timed Uptake)}
    (h : ∀ u, l.head? = some u → ∃ count, u.what = .room count ∧ n ≤ count) :
    waits l n ≤ 1 := by
  cases l with
  | nil => exact Nat.min_le_left _ _
  | cons u rest =>
    obtain ⟨count, hwhat, hn⟩ := h u rfl
    have hnone : n - count = 0 := Nat.sub_eq_zero_of_le hn
    simp only [waits, hwhat, hnone, waits_zero]
    split
    · exact Nat.zero_le _
    · split <;> exact Nat.le_refl _

theorem waits_write_accepted (hn : n ≠ 0) (h : p.write b = some ⟨due, .accepted n, q⟩) :
    waits p.uptakes b.size = 1 + waits q.uptakes (b.size - n) := by
  unfold write at h
  split at h
  · cases h
  · rename_i u rest huptakes
    split at h <;> rename_i hwhat
    · rename_i count
      simp only [Option.some.injEq, Timed.mk.injEq, Prod.mk.injEq, Output.accepted.injEq] at h
      obtain ⟨-, rfl, rfl⟩ := h
      have hb : b.size ≠ 0 := by omega
      have hcount : count ≠ 0 := by omega
      rw [huptakes, waits, if_neg hb, hwhat]
      dsimp only
      rw [if_neg hcount]
      by_cases hall : b.size < count
      · -- everything is taken, whatever room is left
        have hnone : b.size - min count b.size = 0 := by omega
        have hnone' : b.size - count = 0 := by omega
        rw [hnone, hnone', waits_zero, waits_zero]
      · have hmin : min count b.size = count := by omega
        rw [hmin, if_neg (Nat.lt_irrefl _)]
    · cases h

theorem waits_write_failed {e : IoError} (hb : b.size ≠ 0) (htrans : e.isTransient = true)
    (h : p.write b = some ⟨due, .failed e, q⟩) :
    waits p.uptakes b.size = 1 + waits q.uptakes b.size := by
  unfold write at h
  split at h
  · cases h
  · rename_i u rest huptakes
    split at h <;> rename_i hwhat
    · cases h
    · cases h
      rw [huptakes, waits, if_neg hb, hwhat]
      dsimp only
      rw [if_pos htrans]

end Pipe

namespace Link

variable {stream timeout : Nat} {d : Direction} {rest frame : ByteArray} {net net' after : Network}
  {l l' : Link} {o : Call (Except Failure Unit)}

/-- No wait is longer than the timeout, and nothing else takes time. -/
theorem transmit_within (h : transmit stream d timeout rest net = (o, after)) :
    Network.Within (net.now + Pipe.waits (net.pipe stream d).uptakes rest.size * timeout)
        net after ∧
      (o = .abandoned → net.patience ≠ none) := by
  have hone : ∀ (net : Network) {rest : ByteArray}, rest.size ≠ 0 →
      timeout ≤ Pipe.waits (net.pipe stream d).uptakes rest.size * timeout :=
    fun _ _ hsize => Nat.le_mul_of_pos_left _ (Pipe.waits_pos _ hsize)
  fun_induction transmit stream d timeout rest net with
  | case1 rest net hsize =>
    cases h
    exact ⟨.refl _ _, by simp⟩
  | case2 rest net hsize mid hwrite =>
    cases h
    exact ⟨(Network.write_spec hwrite).1.mono (hone net hsize), by simp⟩
  | case3 rest net hsize mid hwrite =>
    cases h
    obtain ⟨hwithin, habandoned⟩ := Network.write_spec hwrite
    exact ⟨hwithin.mono (hone net hsize), fun _ => habandoned rfl⟩
  | case4 rest net hsize mid hwrite =>
    cases h
    exact ⟨(Network.write_spec hwrite).1.mono (hone net hsize), by simp⟩
  | case5 rest net hsize n mid hwrite hn ih =>
    obtain ⟨hfirst, -⟩ := Network.write_spec hwrite
    obtain ⟨hrest, habandoned⟩ := ih h
    obtain ⟨due, hp⟩ := net.write_came hwrite
    rw [ByteArray.size_extract, Nat.min_self] at hrest
    rw [Pipe.waits_write_accepted hn hp, Nat.add_mul, Nat.one_mul]
    exact ⟨hfirst.add hrest, fun ho => hfirst.patience ▸ habandoned ho⟩
  | case6 rest net hsize e mid hwrite htrans ih =>
    obtain ⟨hfirst, -⟩ := Network.write_spec hwrite
    obtain ⟨hrest, habandoned⟩ := ih h
    obtain ⟨due, hp⟩ := net.write_came hwrite
    rw [Pipe.waits_write_failed hsize htrans hp, Nat.add_mul, Nat.one_mul]
    exact ⟨hfirst.add hrest, fun ho => hfirst.patience ▸ habandoned ho⟩
  | case7 rest net hsize e mid hwrite htrans =>
    cases h
    exact ⟨(Network.write_spec hwrite).1.mono (hone net hsize), by simp⟩

/-- How often a link waits that puts so many bytes on its stream. -/
def waits (l : Link) (net : Network) (n : Nat) : Nat :=
  match l.phase with
  | .connected s => Pipe.waits (net.pipe s l.role.outgoing).uptakes n
  | _ => 0

theorem writeFrame_within (h : l.writeFrame frame net = (o, l', net')) :
    Network.Within (net.now + l.waits net frame.size * l.ioTimeout) net net' ∧
      (o = .abandoned → net.patience ≠ none) := by
  unfold writeFrame at h
  split at h
  · cases h
    exact ⟨.refl _ _, nofun⟩
  · split at h
    · rename_i s hp
      rw [waits, hp]
      dsimp only
      split at h <;> rename_i htransmit <;> cases h <;> exact transmit_within htransmit
    · cases h
      exact ⟨.refl _ _, nofun⟩

/-! ## The slowest peer -/

/-- Room for one byte at a time, each time at the last moment. -/
def drip (timeout : Nat) : Nat → Nat → List (Timed Uptake)
  | _, 0 => []
  | now, n + 1 => ⟨now + timeout, .room 1⟩ :: drip timeout (now + timeout) n

theorem write_drip {n : Nat} (hpatience : net.patience = none) (hsize : rest.size = n + 1)
    (hdrip : (net.pipe stream d).uptakes = drip timeout net.now (n + 1)) :
    ∃ after, net.write stream d rest (net.now + timeout) = (.came (.accepted 1), after) ∧
      after.now = net.now + timeout ∧ after.patience = none ∧
      (after.pipe stream d).uptakes = drip timeout after.now n := by
  have hone : min 1 (n + 1) = 1 := by omega
  have hdue : max net.now (net.now + timeout) = net.now + timeout :=
    Nat.max_eq_right (Nat.le_add_right _ _)
  have hwilling : net.willing (net.now + timeout) = true := by rw [Network.willing, hpatience]
  simp only [Network.write, Pipe.write, hdrip, drip, hsize, hone, Network.await, hdue, hwilling,
    Nat.le_refl, decide_true, Bool.and_self, if_true, Nat.lt_irrefl, if_false]
  exact ⟨_, rfl, rfl, hpatience, by rw [Network.pipe_setPipe_self]; rfl⟩

/-- A peer may take a frame of any size byte by byte and each byte only when the wait for it
is almost over. The frame is written, and it takes a whole wait for each byte. -/
theorem transmit_drip (hpatience : net.patience = none)
    (hdrip : (net.pipe stream d).uptakes = drip timeout net.now rest.size) :
    ∃ after, transmit stream d timeout rest net = (.returned (.ok ()), after) ∧
      after.now = net.now + rest.size * timeout := by
  generalize hsize : rest.size = n at hdrip
  induction n generalizing rest net with
  | zero =>
    rw [transmit, if_pos hsize]
    exact ⟨net, rfl, by omega⟩
  | succ n ih =>
    obtain ⟨mid, hwrite, hnow, hpatience', hdrip'⟩ := write_drip hpatience hsize hdrip
    have hleft : (rest.extract 1 rest.size).size = n := by
      rw [ByteArray.size_extract, Nat.min_self, hsize]
      omega
    obtain ⟨after, htransmit, hafter⟩ := ih hpatience' hleft hdrip'
    refine ⟨after, ?_, by rw [hafter, hnow, Nat.add_mul, Nat.one_mul]; omega⟩
    rw [transmit, if_neg (by omega)]
    split <;> rename_i heq <;> rw [hwrite] at heq <;> cases heq
    exact htransmit

end Link
end Courier
