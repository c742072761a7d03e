import Courier.Proofs.Net.Effects

/-!
# When bytes arrive

The script of a pipe is free, so what it promises has to be said where a result
needs it. `Pipe.Orderly` is what every stream keeps: its end is not met before
all its bytes. `Pipe.Arrived` says that all the bytes are there to be read, and
what the script goes on with after them.
-/

namespace Courier.Pipe

variable {p q : Pipe} {want due now : Nat} {later : List (Timed Arrival)}

/-- The bytes that have not been taken. -/
def unread (p : Pipe) : List UInt8 := (octets p.written).drop p.taken

theorem received_append_unread (p : Pipe) : octets p.received ++ p.unread = octets p.written := by
  simp [received, unread]

theorem unread_read {b : ByteArray} (h : p.read want = some ⟨due, .bytes b, q⟩) :
    p.unread = octets b ++ q.unread := by
  obtain ⟨hw, -, -, -, -, hr⟩ := read_bytes h
  have hall := q.received_append_unread
  rw [hw, hr, ← p.received_append_unread, List.append_assoc] at hall
  exact (List.append_cancel_left hall).symm

/-- The script has come to the last byte. -/
def Covers (p : Pipe) (early : List (Timed Arrival)) : Prop :=
  p.written.size ≤ p.taken ∨ ∃ x ∈ early, ∃ c, x.what = .upTo c ∧ p.written.size ≤ c

/-- The end of the stream comes after all its bytes. -/
def Orderly (p : Pipe) : Prop :=
  ∀ early due later, p.arrivals = early ++ ⟨due, .ended⟩ :: later → p.Covers early

/-- All the bytes can be read at this instant; afterwards the script goes on. -/
def Arrived (p : Pipe) (now : Nat) (later : List (Timed Arrival)) : Prop :=
  ∃ early, p.arrivals = early ++ later ∧ p.Covers early ∧
    ∀ x ∈ early, x.due ≤ now ∧ ∃ c, x.what = .upTo c

theorem Covers.taken {early past : List (Timed Arrival)} (h : p.Covers early)
    (hsub : ∀ x ∈ early, x ∈ past)
    (hp : ∀ x ∈ past, ∃ c, x.what = .upTo c ∧ min c p.written.size ≤ p.taken) :
    p.written.size ≤ p.taken := by
  rcases h with hle | ⟨x, hx, c, hc, hle⟩
  · exact hle
  · obtain ⟨c', hc', hmin⟩ := hp x (hsub x hx)
    rw [hc] at hc'
    cases hc'
    omega

/-- What a read does to the script: what is used up goes, and a failure. -/
theorem arrivals_read {i : Input} (h : p.read want = some ⟨due, i, q⟩) :
    ∃ past a rest, p.arrivals = past ++ a :: rest ∧ a.due = due ∧
      (∀ x ∈ past, ∃ c, x.what = .upTo c ∧ min c p.written.size ≤ p.taken) ∧
      (i = .ended → a.what = .ended) ∧
      (q.arrivals = a :: rest ∨ q.arrivals = rest ∧ ∃ e, a.what = .failed e) := by
  unfold read at h
  split at h
  · cases h
  · rename_i a rest hp
    obtain ⟨⟨past, hcut, hpast⟩, -⟩ := pending_eq_cons hp
    refine ⟨past, a, rest, hcut, ?_⟩
    split at h <;> rename_i hwhat <;> cases h
    · exact ⟨rfl, hpast, nofun, .inl rfl⟩
    · exact ⟨rfl, hpast, fun _ => hwhat, .inl rfl⟩
    · exact ⟨rfl, hpast, nofun, .inr ⟨rfl, _, hwhat⟩⟩

theorem read_grows {i : Input} (h : p.read want = some ⟨due, i, q⟩) :
    q.written = p.written ∧ p.taken ≤ q.taken := by
  cases i with
  | bytes b =>
    obtain ⟨hw, ht, -⟩ := read_bytes h
    exact ⟨hw, by omega⟩
  | ended =>
    obtain ⟨hw, ht⟩ := read_ended h
    exact ⟨hw, Nat.le_of_eq ht.symm⟩
  | failed e =>
    obtain ⟨hw, ht⟩ := read_failed h
    exact ⟨hw, Nat.le_of_eq ht.symm⟩

theorem Orderly.read {i : Input} (ho : p.Orderly) (h : p.read want = some ⟨due, i, q⟩) :
    q.Orderly := by
  obtain ⟨past, a, rest, hcut, -, hpast, -, hq⟩ := arrivals_read h
  obtain ⟨hw, ht⟩ := read_grows h
  intro early due' later hsplit
  -- the same end of the stream in the script before the read
  have hbefore : ∃ more, (∀ x ∈ more, x ∈ early ∨ x ∈ past ∨ ∃ e, x.what = .failed e) ∧
      p.arrivals = more ++ ⟨due', .ended⟩ :: later := by
    rcases hq with hq | ⟨hq, e, he⟩ <;> rw [hq] at hsplit
    · refine ⟨past ++ early, ?_, by rw [hcut, hsplit, List.append_assoc]⟩
      intro x hx
      rcases List.mem_append.mp hx with hx | hx
      · exact .inr (.inl hx)
      · exact .inl hx
    · refine ⟨past ++ a :: early, ?_, by rw [hcut, hsplit]; simp⟩
      intro x hx
      rcases List.mem_append.mp hx with hx | hx
      · exact .inr (.inl hx)
      · rcases List.mem_cons.mp hx with rfl | hx
        · exact .inr (.inr ⟨e, he⟩)
        · exact .inl hx
  obtain ⟨more, hmore, hscript⟩ := hbefore
  rcases ho more due' later hscript with hle | ⟨x, hx, c, hc, hle⟩
  · exact .inl (by rw [hw]; omega)
  · rcases hmore x hx with hx | hx | ⟨e, he⟩
    · exact .inr ⟨x, hx, c, hc, by rw [hw]; exact hle⟩
    · obtain ⟨c', hc', hmin⟩ := hpast x hx
      rw [hc] at hc'
      cases hc'
      exact .inl (by rw [hw]; omega)
    · rw [hc] at he
      cases he

/-- A reader that meets the end has taken every byte. -/
theorem Orderly.taken (ho : p.Orderly) (h : p.read want = some ⟨due, .ended, q⟩) :
    p.written.size ≤ p.taken := by
  obtain ⟨past, a, rest, hcut, hdue, hpast, hend, -⟩ := arrivals_read h
  obtain ⟨adue, what⟩ := a
  have hwhat : what = .ended := hend rfl
  rw [hwhat] at hcut
  exact (ho past adue rest hcut).taken (fun _ hx => hx) hpast

theorem pending_append {written taken : Nat} {past l : List (Timed Arrival)}
    (h : ∀ x ∈ past, ∃ c, x.what = .upTo c ∧ min c written ≤ taken) :
    pending written taken (past ++ l) = pending written taken l := by
  induction past with
  | nil => rfl
  | cons x past ih =>
    obtain ⟨c, hc, hle⟩ := h x List.mem_cons_self
    rw [List.cons_append, pending]
    simp only [hc, if_pos hle]
    exact ih fun y hy => h y (List.mem_cons_of_mem _ hy)

theorem pending_eq_nil {written taken : Nat} {l : List (Timed Arrival)}
    (h : pending written taken l = []) :
    ∀ x ∈ l, ∃ c, x.what = .upTo c ∧ min c written ≤ taken := by
  induction l with
  | nil => simp
  | cons x l ih =>
    unfold pending at h
    split at h
    · rename_i c hc
      split at h
      · rename_i hle
        intro y hy
        rcases List.mem_cons.mp hy with rfl | hy
        · exact ⟨c, hc, hle⟩
        · exact ih h y hy
      · cases h
    · cases h

theorem read_upTo (want : Nat) {a : Timed Arrival} {rest : List (Timed Arrival)} {c : Nat}
    (h : pending p.written.size p.taken p.arrivals = a :: rest) (hc : a.what = .upTo c) :
    ∃ b n, p.read want =
      some ⟨a.due, .bytes b, { p with taken := p.taken + n, arrivals := a :: rest }⟩ := by
  unfold Pipe.read
  rw [h]
  simp only [hc]
  exact ⟨_, _, rfl⟩

theorem Arrived.read (want : Nat) (ha : p.Arrived now later) (hlt : p.taken < p.written.size) :
    ∃ due b q, p.read want = some ⟨due, .bytes b, q⟩ ∧ due ≤ now ∧ q.Arrived now later := by
  obtain ⟨early, hscript, hcov, hearly⟩ := ha
  have hshort : ∀ past : List (Timed Arrival), (∀ x ∈ early, x ∈ past) →
      ¬ ∀ x ∈ past, ∃ c, x.what = .upTo c ∧ min c p.written.size ≤ p.taken := by
    intro past hsub hpast
    have := hcov.taken hsub hpast
    omega
  generalize hpend : pending p.written.size p.taken p.arrivals = l
  cases l with
  | nil =>
    apply absurd (pending_eq_nil hpend)
    apply hshort
    intro x hx
    rw [hscript]
    exact List.mem_append_left _ hx
  | cons a rest =>
    obtain ⟨⟨past, hcut, hpast⟩, -⟩ := pending_eq_cons hpend
    rw [hscript] at hcut
    rcases List.append_eq_append_iff.mp hcut with ⟨bs, rfl, -⟩ | ⟨as, rfl, hrest⟩
    · exact absurd hpast (hshort _ fun x hx => List.mem_append_left _ hx)
    · cases as with
      | nil => exact absurd hpast (hshort _ fun x hx => by simpa using hx)
      | cons a' as =>
        cases hrest
        obtain ⟨hdue, c, hc⟩ := hearly a (by simp)
        obtain ⟨b, n, hread⟩ := read_upTo want hpend hc
        refine ⟨a.due, b, _, hread, hdue, a :: as, rfl, ?_, ?_⟩
        · rcases hcov with hle | ⟨x, hx, c', hc', hle⟩
          · omega
          · rcases List.mem_append.mp hx with hx | hx
            · obtain ⟨c'', hc'', hmin⟩ := hpast x hx
              rw [hc'] at hc''
              cases hc''
              omega
            · exact .inr ⟨x, hx, c', hc', hle⟩
        · exact fun x hx => hearly x (List.mem_append_right _ hx)

theorem Arrived.read_end (want : Nat) {rest : List (Timed Arrival)}
    (ha : p.Arrived now (⟨due, .ended⟩ :: rest)) (hle : p.written.size ≤ p.taken) :
    ∃ q, p.read want = some ⟨due, .ended, q⟩ := by
  obtain ⟨early, hscript, -, hearly⟩ := ha
  have hpend : pending p.written.size p.taken p.arrivals = ⟨due, .ended⟩ :: rest := by
    rw [hscript, pending_append]
    · rfl
    · intro x hx
      obtain ⟨-, c, hc⟩ := hearly x hx
      exact ⟨c, hc, by omega⟩
  exact ⟨{ p with arrivals := ⟨due, .ended⟩ :: rest }, by simp only [Pipe.read, hpend]⟩

end Courier.Pipe
