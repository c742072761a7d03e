import Courier.Proofs.Link.Transfers
import Courier.Proofs.Net.Arrivals

/-!
# Reading what has arrived

Reading waits only for bytes that are not there yet. So when it ends without a
frame although every byte has arrived, it has taken all of them, and if the
stream is known to have ended it says so. The end of an orderly stream is
reported only when no byte is left.
-/

namespace Courier

variable {stream deadline : Nat} {d : Direction} {net mid after : Network}

theorem Network.await_due {β : Type} {a : β} {due : Nat} (hdue : due ≤ net.now) :
    net.await deadline (some ⟨due, a⟩) = (.came a, net) := by
  have hnow : max net.now due = net.now := Nat.max_eq_left hdue
  have hin : net.now ≤ max net.now deadline := Nat.le_max_left _ _
  have hwilling : net.willing net.now = true := by
    unfold Network.willing
    split
    · rfl
    · exact decide_eq_true (Nat.le_max_left _ _)
  simp only [Network.await, hnow, hwilling, decide_eq_true hin, Bool.and_self, if_pos]

theorem Network.read_due {want due : Nat} {i : Input} {q : Pipe}
    (h : (net.pipe stream d).read want = some ⟨due, i, q⟩) (hdue : due ≤ net.now) :
    net.read stream d want deadline = (.came i, net.setPipe stream d q) := by
  rw [Network.read, h, Network.await_due hdue]

theorem Network.welcome_due {due : Nat} {v : Visit} {rest : List (Timed Visit)}
    (h : net.visits = ⟨due, v⟩ :: rest) (hdue : due ≤ net.now) :
    net.welcome deadline = (.came v, { net with visits := rest }) := by
  rw [Network.welcome, h, List.head?_cons, Network.await_due hdue]
  dsimp only
  rw [h, List.tail_cons]

namespace Link

variable {a a' : Accumulator} {o : Call (Except Failure (Option ByteArray))}
  {later : List (Timed Arrival)}

/-- The call that a last read makes end. -/
inductive Ends : Waited Input → Call (Except Failure (Option ByteArray)) → Prop
  | late : Ends .late (.returned (.ok none))
  | abandoned : Ends .abandoned .abandoned
  | ended : Ends (.came .ended) (.returned (.error .connectionClosed))
  | failed (e : IoError) : Ends (.came (.failed e)) (.returned (.error (.io e)))

/-- The reads of a call that ends without a frame. -/
inductive Reads (stream : Nat) (d : Direction) (deadline : Nat) :
    Network → Call (Except Failure (Option ByteArray)) → Network → Prop
  | last {want : Nat} {net after : Network} {w : Waited Input}
      {o : Call (Except Failure (Option ByteArray))}
      (h : net.read stream d want deadline = (w, after)) (he : Ends w o) :
      Reads stream d deadline net o after
  | next {want : Nat} {net mid after : Network} {i : Input}
      {o : Call (Except Failure (Option ByteArray))}
      (h : net.read stream d want deadline = (.came i, mid)) (hi : i ≠ .ended)
      (hr : Reads stream d deadline mid o after) : Reads stream d deadline net o after

theorem reads_of_gather (h : gather stream d deadline a net = (o, a', after)) (hi : Idle o) :
    Reads stream d deadline net o after := by
  fun_induction gather stream d deadline a net with
  | case1 a net e a₁ hpop =>
    cases h
    cases hi
  | case2 a net frame a₁ hpop =>
    cases h
    cases hi
  | case3 a net a₁ hpop mid hread =>
    cases h
    exact .last hread .late
  | case4 a net a₁ hpop mid hread =>
    cases h
    exact .last hread .abandoned
  | case5 a net a₁ hpop mid hread =>
    cases h
    exact .last hread .ended
  | case6 a net a₁ hpop e mid hread htrans ih => exact .next hread (by simp) (ih h)
  | case7 a net a₁ hpop e mid hread htrans =>
    cases h
    exact .last hread (.failed e)
  | case8 a net a₁ hpop b mid hread e a₂ hext =>
    cases h
    cases hi
  | case9 a net a₁ hpop b mid hread a₂ hext ih => exact .next hread (by simp) (ih h)

theorem read_of_arrived {want : Nat} {w : Waited Input}
    (hread : net.read stream d want deadline = (w, mid))
    (ha : (net.pipe stream d).Arrived net.now later)
    (hlt : (net.pipe stream d).taken < (net.pipe stream d).written.size) :
    (∃ b, w = .came (.bytes b)) ∧ mid.now = net.now ∧
      (mid.pipe stream d).Arrived net.now later := by
  obtain ⟨due, b, q, hq, hdue, ha'⟩ := ha.read want hlt
  rw [Network.read_due hq hdue] at hread
  cases hread
  exact ⟨⟨b, rfl⟩, rfl, by simpa using ha'⟩

theorem read_grows {want : Nat} {w : Waited Input}
    (hread : net.read stream d want deadline = (w, mid)) :
    (mid.pipe stream d).written = (net.pipe stream d).written ∧
      (net.pipe stream d).taken ≤ (mid.pipe stream d).taken := by
  by_cases hw : ∃ i, w = .came i
  · obtain ⟨i, rfl⟩ := hw
    obtain ⟨due, hp⟩ := net.read_came hread
    exact Pipe.read_grows hp
  · rw [Network.pipe_read_vain hread fun i hi => hw ⟨i, hi⟩]
    exact ⟨rfl, Nat.le_refl _⟩

namespace Reads

theorem grows (h : Reads stream d deadline net o after) :
    (after.pipe stream d).written = (net.pipe stream d).written ∧
      (net.pipe stream d).taken ≤ (after.pipe stream d).taken := by
  induction h with
  | last h => exact read_grows h
  | next h _ _ ih =>
    obtain ⟨hw, ht⟩ := read_grows h
    exact ⟨ih.1.trans hw, Nat.le_trans ht ih.2⟩

/-- Reading that ends without a frame has taken whatever had arrived. -/
theorem taken (h : Reads stream d deadline net o after)
    (ha : (net.pipe stream d).Arrived net.now later) :
    (net.pipe stream d).written.size ≤ (after.pipe stream d).taken := by
  induction h with
  | @last want net after w o h he =>
    have hall : (net.pipe stream d).written.size ≤ (net.pipe stream d).taken := by
      apply Nat.le_of_not_lt
      intro hlt
      obtain ⟨⟨b, rfl⟩, -⟩ := read_of_arrived h ha hlt
      cases he
    exact Nat.le_trans hall (read_grows h).2
  | @next want net mid after i o h hi hr ih =>
    obtain ⟨hw, ht⟩ := read_grows h
    by_cases hlt : (net.pipe stream d).taken < (net.pipe stream d).written.size
    · obtain ⟨-, hnow, ha'⟩ := read_of_arrived h ha hlt
      rw [← hnow] at ha'
      rw [← hw]
      exact ih ha'
    · have := hr.grows.2
      omega

theorem eq_closed {due : Nat} {rest : List (Timed Arrival)}
    (h : Reads stream d deadline net o after)
    (ha : (net.pipe stream d).Arrived net.now (⟨due, .ended⟩ :: rest)) (hdue : due ≤ net.now) :
    o = .returned (.error .connectionClosed) := by
  have hend : ∀ {net mid : Network} {want : Nat} {w : Waited Input},
      net.read stream d want deadline = (w, mid) →
      (net.pipe stream d).Arrived net.now (⟨due, .ended⟩ :: rest) → due ≤ net.now →
      ¬ (net.pipe stream d).taken < (net.pipe stream d).written.size → w = .came .ended := by
    intro net mid want w hread ha hdue hle
    obtain ⟨q, hq⟩ := ha.read_end want (Nat.le_of_not_lt hle)
    rw [Network.read_due hq hdue] at hread
    exact (Prod.mk.inj hread).1.symm
  induction h with
  | @last want net after w o h he =>
    by_cases hlt : (net.pipe stream d).taken < (net.pipe stream d).written.size
    · obtain ⟨⟨b, rfl⟩, -⟩ := read_of_arrived h ha hlt
      cases he
    · rw [hend h ha hdue hlt] at he
      cases he
      rfl
  | @next want net mid after i o h hi hr ih =>
    by_cases hlt : (net.pipe stream d).taken < (net.pipe stream d).written.size
    · obtain ⟨-, hnow, ha'⟩ := read_of_arrived h ha hlt
      rw [← hnow] at ha' hdue
      exact ih ha' hdue
    · have heq := hend h ha hdue hlt
      cases heq
      exact absurd rfl hi

theorem taken_of_closed (h : Reads stream d deadline net o after)
    (ho : o = .returned (.error .connectionClosed)) (hord : (net.pipe stream d).Orderly) :
    (net.pipe stream d).written.size ≤ (after.pipe stream d).taken := by
  induction h with
  | last h he =>
    subst ho
    cases he
    obtain ⟨due, hp⟩ := Network.read_came _ h
    exact Nat.le_trans (hord.taken hp) (Pipe.read_grows hp).2
  | next h hi hr ih =>
    obtain ⟨due, hp⟩ := Network.read_came _ h
    rw [← (Pipe.read_grows hp).1]
    exact ih ho (hord.read hp)

end Reads

theorem read_of_pop_none {content : ByteArray} {rest : List UInt8} {w : Waited Input}
    (hm : content.size ≤ a.maxFrame) (hd : content.size ≤ Frame.maxDeclared)
    (ha : (net.pipe stream d).Arrived net.now later)
    (hbytes : octets a.buffer ++ (net.pipe stream d).unread =
      Frame.onWire (octets content) ++ rest)
    (hpop : a.pop = (.ok none, a')) (hread : net.read stream d (want a') deadline = (w, mid)) :
    (∃ b, w = .came (.bytes b)) ∧ mid.now = net.now ∧
      (mid.pipe stream d).Arrived net.now later := by
  obtain ⟨rfl, hsplit⟩ := eq_of_pop_none hpop
  apply read_of_arrived hread ha
  apply Nat.lt_of_not_le
  intro hle
  have hnil : (net.pipe stream d).unread = [] := List.drop_of_length_le (by simpa using hle)
  rw [hnil, List.append_nil] at hbytes
  rw [hbytes, Frame.split_onWire_append rest (by simpa using hm) (by simpa using hd)] at hsplit
  cases hsplit

/-- A frame that has arrived is handed on at once, and what has arrived behind it
can still be read. -/
theorem gather_of_arrived (deadline : Nat) {content : ByteArray} {rest : List UInt8}
    (hm : content.size ≤ a.maxFrame) (hd : content.size ≤ Frame.maxDeclared)
    (ha : (net.pipe stream d).Arrived net.now later)
    (hbytes : octets a.buffer ++ (net.pipe stream d).unread =
      Frame.onWire (octets content) ++ rest) :
    ∃ a' after, gather stream d deadline a net = (.returned (.ok (some content)), a', after) ∧
      a'.maxFrame = a.maxFrame ∧ after.now = net.now ∧
      (after.pipe stream d).Arrived after.now later ∧
      octets a'.buffer ++ (after.pipe stream d).unread = rest := by
  fun_induction gather stream d deadline a net with
  | case1 a net e a₁ hpop =>
    have hp := a.popped
    rw [hpop] at hp
    cases hp with
    | tooLarge n hsplit =>
      exact absurd hsplit (Frame.split_ne_tooLarge hm hd ⟨_, hbytes⟩)
  | case2 a net frame a₁ hpop =>
    have hp := a.popped
    rw [hpop] at hp
    cases hp with
    | frame _ left hm' hd' hcut =>
      rw [hcut, List.append_assoc] at hbytes
      obtain ⟨hsame, hrest⟩ := Frame.onWire_append_inj hd' hd hbytes
      cases octets_inj.mp hsame
      exact ⟨{ a with buffer := left }, net, rfl, rfl, rfl, ha, hrest⟩
  | case3 a net a₁ hpop mid hr =>
    obtain ⟨⟨b, hb⟩, -⟩ := read_of_pop_none hm hd ha hbytes hpop hr
    cases hb
  | case4 a net a₁ hpop mid hr =>
    obtain ⟨⟨b, hb⟩, -⟩ := read_of_pop_none hm hd ha hbytes hpop hr
    cases hb
  | case5 a net a₁ hpop mid hr =>
    obtain ⟨⟨b, hb⟩, -⟩ := read_of_pop_none hm hd ha hbytes hpop hr
    cases hb
  | case6 a net a₁ hpop e mid hr =>
    obtain ⟨⟨b, hb⟩, -⟩ := read_of_pop_none hm hd ha hbytes hpop hr
    cases hb
  | case7 a net a₁ hpop e mid hr =>
    obtain ⟨⟨b, hb⟩, -⟩ := read_of_pop_none hm hd ha hbytes hpop hr
    cases hb
  | case8 a net a₁ hpop b mid hr e a₂ hext =>
    obtain ⟨due, hp⟩ := net.read_came hr
    obtain ⟨-, -, -, hle, -⟩ := Pipe.read_bytes hp
    rw [extend_of_pop_none hpop hle] at hext
    cases hext
  | case9 a net a₁ hpop b mid hr a₂ hext ih =>
    obtain ⟨-, hnow, ha'⟩ := read_of_pop_none hm hd ha hbytes hpop hr
    obtain ⟨due, hp⟩ := net.read_came hr
    obtain ⟨-, -, -, hle, -⟩ := Pipe.read_bytes hp
    rw [extend_of_pop_none hpop hle] at hext
    cases hext
    rw [Pipe.unread_read hp, ← List.append_assoc] at hbytes
    rw [← hnow] at ha' ⊢
    exact ih hm ha' (by simpa using hbytes)

end Link
end Courier
