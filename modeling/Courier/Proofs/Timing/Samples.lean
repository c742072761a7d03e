import Courier.Proofs.Timing.Stamp
import Courier.Timing.Echo

/-!
# What an echo measures

A stamp is the clock reading modulo 2¹⁶, but for one reading in each round of the
clock, which gets the stamp of the next. So the way from a stamp to a later one, less
the time for which it was held, is the time that the round trip took, give or take a
millisecond. One echo measures nothing: its stamp was taken at that one reading, it was
held for a while, and no whole millisecond was spent on the way. It lies ahead of the
clock that it comes back to.
-/

namespace Courier

namespace Echo

variable {a a' b : Echo} {sent came held back : Nat} {r : UInt16}

/-- The whole milliseconds that the clock shows. -/
def reading (e : Echo) (now : Nat) : Nat := wholeMillis (now - e.origin)

theorem take_eq_some_iff {now : Nat} : (b.take now).1 = some r ↔
    ∃ stamp came, b.pending = some (stamp, came) ∧ now - came < holdLimit ∧
      r = stamp + UInt16.ofNat (wholeMillis (now - came)) ∧ r ≠ noEcho := by
  unfold take
  cases hpending : b.pending with
  | none => simp
  | some waiting =>
    obtain ⟨stamp, came⟩ := waiting
    simp only [Option.some.injEq, Prod.mk.injEq]
    constructor
    · intro h
      split at h
      · cases h
      · rename_i hsent
        cases h
        exact ⟨stamp, came, ⟨rfl, rfl⟩, Nat.lt_of_not_le fun hle => hsent (.inl hle), rfl,
          fun hnone => hsent (.inr hnone)⟩
    · rintro ⟨_, _, ⟨rfl, rfl⟩, hheld, rfl, hsome⟩
      rw [if_neg (not_or.mpr ⟨Nat.not_le_of_lt hheld, hsome⟩)]

theorem take_ne_noEcho (e : Echo) (now : Nat) : (e.take now).1 ≠ some noEcho := by
  intro h
  obtain ⟨_, _, -, -, -, hsome⟩ := take_eq_some_iff.mp h
  exact hsome rfl

theorem take_receive {stamp : UInt16} {x : Option UInt16}
    (h : ((b.receive came stamp x).2.take (came + held)).1 = some r) :
    held < holdLimit ∧ r = stamp + UInt16.ofNat (wholeMillis held) := by
  obtain ⟨_, _, hpending, hheld, hr, -⟩ := take_eq_some_iff.mp h
  cases hpending
  rw [Nat.add_sub_cancel_left] at hheld hr
  exact ⟨hheld, hr⟩

theorem exists_reading_eq (hstart : a.origin ≤ sent) (hback : sent + held ≤ back) :
    ∃ trip, a.reading back = a.reading sent + wholeMillis held + trip := by
  refine ⟨a.reading back - a.reading sent - wholeMillis held, ?_⟩
  simp only [reading, wholeMillis]
  omega

/-- What the echo of one of our own stamps measures, whatever else has come since. -/
theorem receive_of_reading_eq {trip : Nat} (horigin : a'.origin = a.origin)
    (htrip : a.reading back = a.reading sent + wholeMillis held + trip) (peer : UInt16) :
    (a'.receive back peer
        (some (a.stampAt sent + UInt16.ofNat (wholeMillis held)))).1 =
      let n := (65536 + trip + Stamp.ahead (a.reading back) - Stamp.ahead (a.reading sent)) % 65536
      if n < maxSample then some n else none := by
  have hstamp : a'.stampAt back = Stamp.ofMillis (a.reading back) := by
    rw [stampAt, horigin, reading]
  simp only [receive, Option.bind_some, hstamp]
  rw [stampAt, ← reading, Stamp.toNat_since_ofMillis htrip]

/-- Two clocks with whatever origins: the time of a round trip is what our clock has counted,
less the whole milliseconds for which the peer has held our stamp. If it is short of the limit
by more than a millisecond, the echo that comes back measures it to a millisecond; and only an
echo that has spent no whole millisecond on the way is missed, if the stamp was that of the one
reading whose stamp is ahead of it and was not sent back at once. -/
theorem own_echo_measured {x : Option UInt16} (hstart : a.origin ≤ sent)
    (hecho : ((b.receive came (a.stampAt sent) x).2.take (came + held)).1 = some r)
    (hback : sent + held ≤ back) (horigin : a'.origin = a.origin) (peer : UInt16) :
    ∃ trip, a.reading back = a.reading sent + wholeMillis held + trip ∧ (trip ≤ 4998 →
      ((a'.receive back peer (some r)).1 = none ↔
        trip = 0 ∧ a.reading sent % 65536 = 65535 ∧ 1 ≤ wholeMillis held) ∧
      ∀ n, (a'.receive back peer (some r)).1 = some n → n ≤ trip + 1 ∧ trip ≤ n + 1) := by
  obtain ⟨trip, htrip⟩ := exists_reading_eq hstart hback
  obtain ⟨hheld, rfl⟩ := take_receive hecho
  refine ⟨trip, htrip, fun hle => ?_⟩
  rw [receive_of_reading_eq horigin htrip peer]
  have hwhole : wholeMillis held < 1000 := by
    simp only [holdLimit, millis] at hheld
    simp only [wholeMillis]
    omega
  have hone := Stamp.ahead_le_one (a.reading sent)
  have hother := Stamp.ahead_le_one (a.reading back)
  -- the stamp that comes back is ahead of the clock only if no time was spent on the way, and
  -- then our clock has gone on by less than a second and does not skip the next stamp
  have hahead : trip = 0 ∧ Stamp.ahead (a.reading sent) = 1 ∧ Stamp.ahead (a.reading back) = 0 ↔
      trip = 0 ∧ a.reading sent % 65536 = 65535 ∧ 1 ≤ wholeMillis held := by
    rw [htrip]
    unfold Stamp.ahead
    split <;> split <;> omega
  rw [← hahead]
  generalize Stamp.ahead (a.reading sent) = y at *
  generalize Stamp.ahead (a.reading back) = z at *
  have hmax : maxSample = 5000 := rfl
  dsimp only
  constructor
  · split
    · simp only [reduceCtorEq, false_iff]
      omega
    · simp only [true_iff]
      omega
  · intro n hn
    split at hn
    · cases hn
      omega
    · cases hn

/-- A clock that starts now, and one that started a day before. -/
def early : Echo := start 0

def late : Echo := start (millis 86400000)

/-- The stamp of the last reading of a round goes out as the first of the next; it comes back
after two milliseconds, of which it was held for one. -/
theorem own_echo_measured_wrapping :
    (∀ n, (early.receive (millis 65537) 9 (some 1)).1 = some n → n ≤ 2) ∧
      (early.receive (millis 65537) 9 (some 1)).1 ≠ none := by
  have hecho : ((late.receive (millis 86500000) (early.stampAt (millis 65535)) none).2.take
      (millis 86500000 + millis 1)).1 = some 1 := by decide
  have hshown : early.reading (millis 65535) = 65535 ∧ early.reading (millis 65537) = 65537 ∧
      wholeMillis (millis 1) = 1 := by decide
  have hstart : early.origin ≤ millis 65535 := by decide
  have hback : millis 65535 + millis 1 ≤ millis 65537 := by decide
  have horigin : early.origin = early.origin := rfl
  obtain ⟨trip, htrip, hmeasured⟩ := own_echo_measured hstart hecho hback horigin 9
  obtain ⟨hfirst, hlast, hheld⟩ := hshown
  rw [hfirst, hlast, hheld] at htrip
  obtain ⟨hmissed, hclose⟩ := hmeasured (by omega)
  refine ⟨fun n hn => ?_, fun hnone => ?_⟩
  · have := (hclose n hn).1
    omega
  · have := (hmissed.mp hnone).1
    omega

/-- An echo of our own stamp is missed: it was stamped at the last reading of a round, held for
a millisecond, and came back when the clock had counted this one millisecond and no other. -/
theorem own_echo_missed :
    ((late.receive (millis 86500000) (early.stampAt (millis 65535)) none).2.take
        (millis 86500000 + millis 1)).1 = some 1 ∧
      early.reading (millis 65536) = early.reading (millis 65535) + wholeMillis (millis 1) + 0 ∧
      (early.receive (millis 65536) 9 (some 1)).1 = none := by
  decide

end Echo
end Courier
