import Courier.Net.IoError

/-!
# One direction of a stream

A pipe keeps every byte that its writer got rid of, how many of them its reader
has taken, and what the coming reads and writes meet. These two scripts are the
whole freedom of the system: when bytes arrive and in which pieces, how many
bytes it takes at a time, when the stream ends or fails. A script that is used
up means that nothing more happens.
-/

namespace Courier

/-- Something that comes to pass at an instant, or as soon after it as somebody
waits for it. -/
structure Timed (α : Type) where
  due : Nat
  what : α
  deriving DecidableEq, Repr

/-- What a reader meets. -/
inductive Arrival
  /-- So many bytes of the pipe have arrived, counted from its start. -/
  | upTo (count : Nat)
  /-- Nothing comes any more. -/
  | ended
  | failed (e : IoError)
  deriving DecidableEq, Repr

/-- What a writer meets. -/
inductive Uptake
  /-- There is room for so many bytes. -/
  | room (count : Nat)
  | failed (e : IoError)
  deriving DecidableEq, Repr

structure Pipe where
  written : ByteArray := ByteArray.empty
  taken : Nat := 0
  arrivals : List (Timed Arrival) := []
  uptakes : List (Timed Uptake) := []

/-- What a read yields. -/
inductive Input
  | bytes (b : ByteArray)
  | ended
  | failed (e : IoError)

/-- What a write yields. -/
inductive Output
  | accepted (count : Nat)
  | failed (e : IoError)
  deriving DecidableEq, Repr

namespace Pipe

variable (p : Pipe)

/-- Bytes that the reader has taken, from the first on. -/
def received : ByteArray := p.written.extract 0 p.taken

/-- The script from the first entry on that says something new: an entry about
bytes that have all been taken is passed over. -/
def pending (written taken : Nat) : List (Timed Arrival) → List (Timed Arrival)
  | [] => []
  | a :: rest =>
    match a.what with
    | .upTo count => if min count written ≤ taken then pending written taken rest else a :: rest
    | _ => a :: rest

theorem length_pending (written taken : Nat) (l : List (Timed Arrival)) :
    (pending written taken l).length ≤ l.length := by
  induction l with
  | nil => exact Nat.le_refl _
  | cons a rest ih =>
    unfold pending
    split
    · split
      · exact Nat.le_succ_of_le ih
      · exact Nat.le_refl _
    · exact Nat.le_refl _

/-- The next read of at most so many bytes: when it can be made, what it yields,
and the pipe after it. An end stays; a failure is met once. -/
def read (want : Nat) : Option (Timed (Input × Pipe)) :=
  match pending p.written.size p.taken p.arrivals with
  | [] => none
  | a :: rest =>
    match a.what with
    | .upTo count =>
      let n := min want (min count p.written.size - p.taken)
      some ⟨a.due, .bytes (p.written.extract p.taken (p.taken + n)),
        { p with taken := p.taken + n, arrivals := a :: rest }⟩
    | .ended => some ⟨a.due, .ended, { p with arrivals := a :: rest }⟩
    | .failed e => some ⟨a.due, .failed e, { p with arrivals := rest }⟩

/-- The next write: when it can be made, what it yields, and the pipe after it.
Room that is not used up stays. -/
def write (b : ByteArray) : Option (Timed (Output × Pipe)) :=
  match p.uptakes with
  | [] => none
  | u :: rest =>
    match u.what with
    | .room count =>
      let n := min count b.size
      let rest := if n < count then ⟨u.due, .room (count - n)⟩ :: rest else rest
      some ⟨u.due, .accepted n,
        { p with written := p.written ++ b.extract 0 n, uptakes := rest }⟩
    | .failed e => some ⟨u.due, .failed e, { p with uptakes := rest }⟩

/-- An upper bound on the reads that still yield something other than the end. -/
def outstanding : Nat := p.written.size - p.taken + p.arrivals.length

theorem outstanding_read_bytes {want due : Nat} {b : ByteArray} {q : Pipe} (hw : 0 < want)
    (h : p.read want = some ⟨due, .bytes b, q⟩) : q.outstanding < p.outstanding := by
  have hlen := length_pending p.written.size p.taken p.arrivals
  unfold read at h
  split at h
  · cases h
  · rename_i a rest hp
    rw [hp] at hlen
    split at h
    · rename_i count hc
      have hnew : p.taken < min count p.written.size := by
        have : ∀ l, pending p.written.size p.taken l = a :: rest →
            p.taken < min count p.written.size := by
          intro l
          induction l with
          | nil => intro h; cases h
          | cons x l ih =>
            intro h
            unfold pending at h
            split at h
            · split at h
              · exact ih h
              · cases h
                simp_all
            · cases h
              simp_all
        exact this _ hp
      simp only [Option.some.injEq, Timed.mk.injEq, Prod.mk.injEq] at h
      obtain ⟨_, _, rfl⟩ := h
      simp only [outstanding]
      omega
    · simp at h
    · simp at h

theorem outstanding_read_failed {want due : Nat} {e : IoError} {q : Pipe}
    (h : p.read want = some ⟨due, .failed e, q⟩) : q.outstanding < p.outstanding := by
  have hlen := length_pending p.written.size p.taken p.arrivals
  unfold read at h
  split at h
  · cases h
  · rename_i a rest hp
    rw [hp] at hlen
    split at h
    · simp at h
    · simp at h
    · simp only [Option.some.injEq, Timed.mk.injEq, Prod.mk.injEq] at h
      obtain ⟨_, _, rfl⟩ := h
      simp only [outstanding, List.length_cons] at *
      omega

/-- A write takes no more than it is offered, and uses up an entry of the script
unless it takes everything. -/
theorem write_accepted {b : ByteArray} {due n : Nat} {q : Pipe}
    (h : p.write b = some ⟨due, .accepted n, q⟩) :
    n ≤ b.size ∧ q.uptakes.length ≤ p.uptakes.length := by
  unfold write at h
  split at h
  · cases h
  · rename_i hu
    rw [hu]
    split at h
    · dsimp only at h
      simp only [Option.some.injEq, Timed.mk.injEq, Prod.mk.injEq, Output.accepted.injEq] at h
      obtain ⟨_, rfl, rfl⟩ := h
      refine ⟨Nat.min_le_right _ _, ?_⟩
      dsimp only
      split <;> simp
    · simp at h

theorem uptakes_write_failed {b : ByteArray} {due : Nat} {e : IoError} {q : Pipe}
    (h : p.write b = some ⟨due, .failed e, q⟩) : q.uptakes.length < p.uptakes.length := by
  unfold write at h
  split at h
  · cases h
  · rename_i hu
    rw [hu]
    split at h
    · simp at h
    · cases h
      simp

end Pipe
end Courier
