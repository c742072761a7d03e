import Courier.Backoff
import Mathlib.Data.List.Induction

/-!
# The course of an outage

How far an outage has come depends on two things only: when it began, and when
the attempts that were made in it failed. `Backoff.course` puts the state together
from these instants, and the lemmas read off it how many failures are counted and
from when on the next attempt may be made.
-/

namespace Courier.Backoff

variable {lost f : Nat} {fs : List Nat}

/-- The wait after so many failures, in a closed form. -/
def wait (k : Nat) : Nat := min (millis 100 * Nat.pow 2 (min k 5)) (millis 5000)

/-- From when on an attempt may be made in an outage that began at an instant, after
attempts that failed at these: at once, and then the wait after the last failure. -/
def deadline (lost : Nat) (fs : List Nat) : Nat :=
  match fs.getLast? with
  | none => lost
  | some f => f + wait fs.length

/-- The outage that began at an instant, after attempts that failed at these. -/
def course (lost : Nat) (fs : List Nat) : Backoff := fs.foldl fail (start lost)

theorem delay_eq_wait (k : Nat) : delay k = wait k := by
  rw [delay, Nat.one_shiftLeft]
  rfl

/-- The count stops far beyond the failure from which on the wait is the longest. -/
theorem delay_min_maxFailures (k : Nat) : delay (min k maxFailures) = wait k := by
  have hmin : min (min k maxFailures) 5 = min k 5 := by
    simp only [maxFailures]
    omega
  rw [delay_eq_wait, wait, hmin, wait]

theorem wait_mono {j k : Nat} (h : j ≤ k) : wait j ≤ wait k := by
  rw [← delay_eq_wait, ← delay_eq_wait]
  exact delay_mono h

theorem wait_le_maxDelay (k : Nat) : wait k ≤ maxDelay := Nat.min_le_right _ _

/-- The waits after the first six attempts that fail. -/
example : [1, 2, 3, 4, 5, 6].map wait = [200, 400, 800, 1600, 3200, 3200].map millis := by
  decide

@[simp] theorem course_concat : course lost (fs ++ [f]) = (course lost fs).fail f := by
  simp [course]

theorem failures_course (lost : Nat) (fs : List Nat) :
    (course lost fs).failures = min fs.length maxFailures := by
  induction fs using List.reverseRecOn with
  | nil => rfl
  | append_singleton fs f ih =>
    have hstep : (course lost (fs ++ [f])).failures =
        min ((course lost fs).failures + 1) maxFailures := by
      rw [course_concat]
      rfl
    rw [hstep, ih, List.length_append, List.length_singleton]
    omega

theorem next_course (lost : Nat) (fs : List Nat) : (course lost fs).next = deadline lost fs := by
  rcases List.eq_nil_or_concat fs with rfl | ⟨fs, f, rfl⟩
  · rfl
  · have hcount := failures_course lost (fs ++ [f])
    rw [List.concat_eq_append, course_concat, next_fail, ← course_concat, hcount,
      delay_min_maxFailures, deadline, List.getLast?_concat]

end Courier.Backoff
