import Courier.Proofs.Timing.Samples
import Mathlib.Data.List.Forall2
import Mathlib.Data.List.Induction

/-!
# The history of echoes

Stamps come, echoes are asked for, and time passes in between. A history keeps a record
of what came and what was given, with the instants. There is one place for a stamp that
waits: the next stamp takes it, and whoever asks for an echo empties it. So only the stamp
that is last on record can be echoed, and no stamp twice.
-/

namespace Courier.Echo

/-- What can happen to the echoes of an end. -/
inductive Op
  | receive (stamp : UInt16) (echo : Option UInt16)
  | take
  | wait (t : Nat)

/-- What is put on record: a stamp that came, or an echo that was asked for and what was
given. -/
inductive Event
  | received (stamp : UInt16) (came : Nat)
  | took (echo : Option UInt16) (now : Nat)

namespace Event

/-- The stamp that came, and when. -/
def receipt? : Event → Option (UInt16 × Nat)
  | received stamp came => some (stamp, came)
  | took .. => none

/-- The echo that was given, and when. -/
def echo? : Event → Option (UInt16 × Nat)
  | received .. => none
  | took echo now => echo.map (·, now)

theorem receipt?_eq_some_iff {ev : Event} {stamp : UInt16} {came : Nat} :
    ev.receipt? = some (stamp, came) ↔ ev = received stamp came := by
  cases ev <;> simp [receipt?]

end Event

/-- The stamps on record, in order. -/
def receipts (events : List Event) : List (UInt16 × Nat) := events.filterMap Event.receipt?

/-- The echoes on record, in order. -/
def echoes (events : List Event) : List (UInt16 × Nat) := events.filterMap Event.echo?

theorem receipts_concat (events : List Event) (ev : Event) :
    receipts (events ++ [ev]) = receipts events ++ ev.receipt?.toList := by
  simp only [receipts, List.filterMap_eq_flatMap_toList, List.flatMap_append,
    List.flatMap_singleton]

theorem echoes_concat (events : List Event) (ev : Event) :
    echoes (events ++ [ev]) = echoes events ++ ev.echo?.toList := by
  simp only [echoes, List.filterMap_eq_flatMap_toList, List.flatMap_append,
    List.flatMap_singleton]

/-- An echo answers a stamp: it is the stamp, moved on by the whole milliseconds for which it
was held, which is for less than a second; and it is not what stands for no echo. -/
structure Answers (receipt echo : UInt16 × Nat) : Prop where
  came_le : receipt.2 ≤ echo.2
  held_lt : echo.2 - receipt.2 < millis 1000
  toNat_eq : echo.1.toNat = (receipt.1.toNat + wholeMillis (echo.2 - receipt.2)) % 65536
  toNat_ne : echo.1.toNat ≠ 65535

theorem take_eq_some_iff_answers {e : Echo} {now : Nat} {x : UInt16}
    (hcame : ∀ stamp came, e.pending = some (stamp, came) → came ≤ now) :
    (e.take now).1 = some x ↔
      ∃ stamp came, e.pending = some (stamp, came) ∧ Answers (stamp, came) (x, now) := by
  have hnone : x ≠ noEcho ↔ x.toNat ≠ 65535 := by
    rw [Ne, ← UInt16.toNat_inj]
    rfl
  have hmoved : ∀ (stamp : UInt16) (n : Nat),
      x = stamp + UInt16.ofNat n ↔ x.toNat = (stamp.toNat + n) % 65536 := by
    intro stamp n
    rw [← UInt16.toNat_inj, UInt16.toNat_add, UInt16.toNat_ofNat']
    omega
  rw [take_eq_some_iff]
  constructor
  · rintro ⟨stamp, came, hpending, hheld, hx, hsome⟩
    exact ⟨stamp, came, hpending, hcame _ _ hpending, hheld, (hmoved _ _).mp hx, hnone.mp hsome⟩
  · rintro ⟨stamp, came, hpending, -, hheld, hx, hsome⟩
    exact ⟨stamp, came, hpending, hheld, (hmoved _ _).mpr hx, hnone.mpr hsome⟩

/-- The record, the end as it is now, and the present instant. -/
structure History where
  events : List Event
  echo : Echo
  now : Nat

namespace History

/-- One more thing happens. -/
def next (h : History) : Op → History
  | .receive stamp x =>
    { h with
      events := h.events ++ [.received stamp h.now]
      echo := (h.echo.receive h.now stamp x).2 }
  | .take =>
    { h with
      events := h.events ++ [.took (h.echo.take h.now).1 h.now]
      echo := (h.echo.take h.now).2 }
  | .wait t => { h with now := h.now + t }

/-- All that has happened since an instant to an end whose clock has some origin. -/
def of (origin now : Nat) (ops : List Op) : History := ops.foldl next ⟨[], start origin, now⟩

/-- The record is true to the end. -/
structure Faithful (h : History) : Prop where
  /-- The stamp that waits is the one that is last on record. -/
  pending : h.echo.pending = h.events.getLast?.bind Event.receipt?
  came_le : ∀ stamp came, h.echo.pending = some (stamp, came) → came ≤ h.now
  /-- The echoes answer stamps that came before the one that waits, each another one. -/
  answered : ∃ answered, (answered ++ h.echo.pending.toList).Sublist (receipts h.events) ∧
    List.Forall₂ Answers answered (echoes h.events)

variable {h : History}

theorem Faithful.receive (hf : h.Faithful) (stamp : UInt16) (x : Option UInt16) :
    (h.next (.receive stamp x)).Faithful where
  pending := by simp [History.next, Event.receipt?]
  came_le := by
    rintro _ _ ⟨⟩
    exact Nat.le_refl _
  answered := by
    obtain ⟨answered, hsub, hall⟩ := hf.answered
    have hearlier : answered.Sublist (receipts h.events) :=
      (List.sublist_append_left _ _).trans hsub
    refine ⟨answered, ?_, ?_⟩
    · rw [History.next, receipts_concat]
      exact hearlier.append (.refl _)
    · rw [History.next, echoes_concat]
      simpa [Event.echo?] using hall

theorem Faithful.take (hf : h.Faithful) : (h.next .take).Faithful where
  pending := by simp [History.next, Event.receipt?]
  came_le := by simp [History.next]
  answered := by
    obtain ⟨answered, hsub, hall⟩ := hf.answered
    have hreceipts : receipts (h.next .take).events = receipts h.events := by
      rw [History.next, receipts_concat]
      exact List.append_nil _
    have hechoes : echoes (h.next .take).events =
        echoes h.events ++ ((h.echo.take h.now).1.map (·, h.now)).toList :=
      echoes_concat _ _
    have hused : (h.next .take).echo.pending = none := h.echo.pending_take h.now
    rw [hreceipts, hechoes, hused]
    cases hx : (h.echo.take h.now).1 with
    | none => exact ⟨answered, by simpa using (List.sublist_append_left _ _).trans hsub, by simpa⟩
    | some x =>
      -- what is given answers the stamp that waited, which came after all that were answered
      obtain ⟨stamp, came, hpending, hanswers⟩ := (take_eq_some_iff_answers hf.came_le).mp hx
      rw [hpending] at hsub
      exact ⟨answered ++ [(stamp, came)], by simpa using hsub,
        List.rel_append hall (.cons hanswers .nil)⟩

theorem Faithful.wait (hf : h.Faithful) (t : Nat) : (h.next (.wait t)).Faithful where
  pending := hf.pending
  came_le stamp came hpending := Nat.le_add_right_of_le (hf.came_le stamp came hpending)
  answered := hf.answered

/-- Every history is faithful. -/
theorem faithful_of (origin now : Nat) (ops : List Op) : (of origin now ops).Faithful := by
  induction ops using List.reverseRecOn with
  | nil => exact ⟨rfl, nofun, [], .refl _, .nil⟩
  | append_singleton ops op ih =>
    rw [of, List.foldl_append]
    cases op with
    | receive stamp x => exact ih.receive stamp x
    | take => exact ih.take
    | wait t => exact ih.wait t

theorem Faithful.pending_eq_some_iff (hf : h.Faithful) {stamp : UInt16} {came : Nat} :
    h.echo.pending = some (stamp, came) ↔ h.events.getLast? = some (.received stamp came) := by
  simp [hf.pending, Option.bind_eq_some_iff, Event.receipt?_eq_some_iff]

/-- Whatever has happened, an echo is given just if it answers the stamp that is last on record:
no other stamp has come since, and no echo has been asked for. All the echoes that have been
given answer stamps that came, in their order, and each another one. A stamp waits just if it
is last on record, and neither a stamp that is read off the clock nor an echo is the one that
stands for no echo. -/
theorem latest_echoed_once (origin start : Nat) (ops : List Op) :
    let h := History.of origin start ops
    (∀ x, (h.echo.take h.now).1 = some x ↔ ∃ stamp came,
      h.events.getLast? = some (.received stamp came) ∧ Answers (stamp, came) (x, h.now)) ∧
    (∃ answered, answered.Sublist (receipts h.events) ∧
      List.Forall₂ Answers answered (echoes h.events)) ∧
    (h.echo.hasPending = true ↔ ∃ stamp came,
      h.events.getLast? = some (.received stamp came)) ∧
    h.echo.stampAt h.now ≠ noEcho ∧ (h.echo.take h.now).1 ≠ some noEcho := by
  intro h
  have hf : h.Faithful := faithful_of origin start ops
  refine ⟨fun x => ?_, ?_, ?_, Stamp.ofMillis_ne_noEcho _, h.echo.take_ne_noEcho h.now⟩
  · simp only [take_eq_some_iff_answers hf.came_le, hf.pending_eq_some_iff]
  · obtain ⟨answered, hsub, hall⟩ := hf.answered
    exact ⟨answered, (List.sublist_append_left _ _).trans hsub, hall⟩
  · simp only [hasPending, Option.isSome_iff_exists, Prod.exists, hf.pending_eq_some_iff]

/-- A stamp that would have become the reserved one is not echoed, and is not kept either. -/
example : (of 0 0 [.receive 7 none, .receive 65534 none, .wait (millis 1), .take, .take]).events =
    [.received 7 0, .received 65534 0, .took none (millis 1), .took none (millis 1)] := by rfl

end History
end Courier.Echo
