import Courier.Timing.Stamp

/-!
# From stamp to stamp

A stamp is the clock reading modulo 2¹⁶, but for one reading in each round of the clock, which gets
the stamp of the next. So the way from a stamp to a later one is the time between the readings,
but for the millisecond by which either of them may be ahead, and it wraps only after a whole
round.
-/

namespace Courier.Stamp

variable {a d x : Nat}

/-- By how much the stamp of a reading is ahead of it. -/
def ahead (ms : Nat) : Nat := if ms % 65536 = 65535 then 1 else 0

theorem ahead_le_one (ms : Nat) : ahead ms ≤ 1 := by
  unfold ahead
  split <;> omega

theorem toNat_ofMillis (ms : Nat) : (ofMillis ms).toNat = (ms + ahead ms) % 65536 := by
  have hlow : (UInt16.ofNat (ms % 65536)).toNat = ms % 65536 := by
    rw [UInt16.toNat_ofNat']
    omega
  unfold ofMillis ahead
  dsimp only
  by_cases h : ms % 65536 = 65535
  · have hnone : UInt16.ofNat (ms % 65536) = noEcho := by
      rw [h]
      rfl
    rw [if_pos hnone, if_pos h, UInt16.toNat_zero]
    omega
  · have hsome : UInt16.ofNat (ms % 65536) ≠ noEcho := fun heq => by
      rw [heq] at hlow
      exact h hlow.symm
    rw [if_neg hsome, if_neg h, hlow, Nat.add_zero]

/-- The way from a stamp, moved on by the time for which it was held, to a later stamp. -/
theorem toNat_since_ofMillis {sent held back trip : Nat} (h : back = sent + held + trip) :
    (since (ofMillis back) (ofMillis sent + UInt16.ofNat held)).toNat =
      (65536 + trip + ahead back - ahead sent) % 65536 := by
  have hone := ahead_le_one sent
  have hother := ahead_le_one back
  rw [since, UInt16.toNat_sub, UInt16.toNat_add, UInt16.toNat_ofNat', toNat_ofMillis,
    toNat_ofMillis, h]
  rw [h] at hother
  generalize ahead sent = x at *
  generalize ahead (sent + held + trip) = y at *
  omega

/-- The milliseconds from one reading to another, as their stamps measure them. -/
def elapsed (old new : Nat) : Nat := (since (ofMillis new) (ofMillis old)).toNat

theorem elapsed_eq (a d : Nat) :
    elapsed a (a + d) = (65536 + d + ahead (a + d) - ahead a) % 65536 := by
  have hunheld : ofMillis a + UInt16.ofNat 0 = ofMillis a := UInt16.add_zero _
  rw [elapsed, ← hunheld, toNat_since_ofMillis (by omega : a + d = a + 0 + d)]

theorem elapsed_add_ahead (h : d < 65535) : elapsed a (a + d) + ahead a = d + ahead (a + d) := by
  have hone := ahead_le_one a
  have hother := ahead_le_one (a + d)
  rw [elapsed_eq]
  rcases Nat.eq_zero_or_pos d with rfl | hpos
  · simp only [Nat.add_zero]
    omega
  · omega

/-- From a reading that is still to come the clock has almost a whole round to go, unless it is the
next reading, whose stamp may be that of the present one. -/
theorem elapsed_coming (h : 2 ≤ x) (hround : x < 65536) :
    elapsed (a + x) a + x + ahead (a + x) = 65536 + ahead a := by
  have hone := ahead_le_one a
  have hother := ahead_le_one (a + x)
  rw [elapsed, since, UInt16.toNat_sub, toNat_ofMillis, toNat_ofMillis]
  omega

theorem elapsed_lt_elapsed_coming (h : 2 ≤ x) (hround : d + x < 65535) :
    elapsed a (a + d) < elapsed (a + d + x) (a + d) := by
  have hpast := @elapsed_add_ahead a d (by omega)
  have hcoming := @elapsed_coming (a + d) x h (by omega)
  have hother := ahead_le_one (a + d + x)
  omega

/-- The stamps of two readings measure the time between these, moved by the millisecond by which
the later or the earlier stamp is ahead, modulo a round. So they are right to a millisecond for
every time short of a round, whatever the first reading was, and up to five seconds they measure
less than the stamp of any reading that comes two milliseconds to a minute later. No reading has
the stamp that stands for none. -/
theorem elapsed_exact (a d : Nat) :
    (elapsed a (a + d) : Int) = ((d : Int) + ahead (a + d) - ahead a) % 65536 ∧
    (d < 65535 → elapsed a (a + d) ≤ d + 1 ∧ d ≤ elapsed a (a + d) + 1) ∧
    (d ≤ 5000 → elapsed a (a + d) ≤ 5001 ∧
      ∀ x, 2 ≤ x → x ≤ 60000 → elapsed a (a + d) < elapsed (a + d + x) (a + d)) ∧
    ofMillis a ≠ 65535 := by
  have hone := ahead_le_one a
  have hother := ahead_le_one (a + d)
  have heq := elapsed_eq a d
  have hshort (h : d < 65535) : elapsed a (a + d) + ahead a = d + ahead (a + d) :=
    elapsed_add_ahead h
  refine ⟨?_, ?_, ?_, ofMillis_ne_noEcho a⟩
  · omega
  · intro h
    have := hshort h
    omega
  · intro h
    have := hshort (by omega)
    exact ⟨by omega, fun x hx hminute => elapsed_lt_elapsed_coming hx (by omega)⟩

/-- Five seconds from the one reading whose stamp is ahead of it: a millisecond is missing, and the
stamp of a reading two milliseconds later is far off. -/
theorem elapsed_exact_wrapping :
    elapsed 131071 (131071 + 5000) = 4999 ∧
      4999 < elapsed (131071 + 5000 + 2) (131071 + 5000) ∧ ofMillis 131071 ≠ 65535 := by
  obtain ⟨heq, -, hcoming, hsome⟩ := elapsed_exact 131071 5000
  have hahead : ahead 131071 = 1 ∧ ahead (131071 + 5000) = 0 := by decide
  rw [hahead.1, hahead.2] at heq
  have hmissing : elapsed 131071 (131071 + 5000) = 4999 := Int.ofNat_inj.mp heq
  have hbelow := (hcoming (by decide)).2 2 (by decide) (by decide)
  rw [hmissing] at hbelow
  exact ⟨hmissing, hbelow, hsome⟩

end Courier.Stamp
