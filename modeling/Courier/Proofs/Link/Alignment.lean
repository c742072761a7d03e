import Courier.Proofs.Link.Run

/-!
# Whole frames on every stream

What a link puts on a stream is the frames whose writing succeeded, one after
the other, and after them at most a part of one frame whose writing did not.
The mark that a link carries from then on is what keeps a further frame from
being put behind that part: with it no transfer does anything, and it goes away
only together with the stream.
-/

namespace Courier.Link

variable {l₀ l l' : Link} {net₀ net net' : Network} {e : Event} {tr : List Event} {s : Nat}

/-! ## What a history says of a stream -/

namespace Event

/-- The frame that the event has put on a stream. -/
def whole? (s : Nat) : Event → Option ByteArray
  | writes stream frame (.returned (.ok ())) => if stream = some s then some frame else none
  | _ => none

/-- A write on a stream that did not succeed. -/
inductive Fails (s : Nat) : Event → Prop
  | intro (frame : ByteArray) {o : Call (Except Failure Unit)} (ho : o ≠ .returned (.ok ())) :
      Fails s (.writes (some s) frame o)

theorem on_eq_of_whole?_eq_some {frame : ByteArray} (h : e.whole? s = some frame) :
    e.on = some s := by
  unfold whole? at h
  split at h
  · split at h
    · assumption
    · cases h
  · cases h

theorem whole?_eq_none (h : e.on ≠ some s) : e.whole? s = none := by
  by_cases hn : e.whole? s = none
  · exact hn
  · obtain ⟨frame, hf⟩ := Option.ne_none_iff_exists'.mp hn
    exact absurd (on_eq_of_whole?_eq_some hf) h

theorem Fails.on_eq (h : e.Fails s) : e.on = some s := by
  cases h
  rfl

end Event

/-- The frames that a link has put on a stream, in order. -/
def wholeOn (s : Nat) (tr : List Event) : List ByteArray := tr.filterMap (·.whole? s)

/-- A write on this stream has failed or was given up. -/
def Broken (s : Nat) (tr : List Event) : Prop := ∃ e ∈ tr, e.Fails s

@[simp] theorem wholeOn_nil : wholeOn s [] = [] := rfl

theorem wholeOn_append (es : List Event) : wholeOn s (tr ++ es) = wholeOn s tr ++ wholeOn s es :=
  List.filterMap_append

theorem wholeOn_eq_nil (h : ∀ e ∈ tr, e.on ≠ some s) : wholeOn s tr = [] :=
  List.filterMap_eq_nil_iff.mpr fun e he => Event.whole?_eq_none (h e he)

theorem wholeOn_concat_none (h : e.whole? s = none) : wholeOn s (tr ++ [e]) = wholeOn s tr := by
  simp [wholeOn, h]

theorem wholeOn_concat_some {frame : ByteArray} (h : e.whole? s = some frame) :
    wholeOn s (tr ++ [e]) = wholeOn s tr ++ [frame] := by
  simp [wholeOn, h]

theorem writes_of_mem_wholeOn {frame : ByteArray} (h : frame ∈ wholeOn s tr) :
    .writes (some s) frame (.returned (.ok ())) ∈ tr := by
  obtain ⟨e, he, hwhole⟩ := List.mem_filterMap.mp h
  unfold Event.whole? at hwhole
  split at hwhole
  · split at hwhole <;> rename_i hs <;> cases hwhole
    rwa [hs] at he
  · cases hwhole

theorem not_broken_nil : ¬ Broken s [] := by
  rintro ⟨e, he, -⟩
  cases he

theorem broken_concat : Broken s (tr ++ [e]) ↔ Broken s tr ∨ e.Fails s := by
  constructor
  · rintro ⟨x, hx, hf⟩
    rcases List.mem_append.mp hx with hx | hx
    · exact .inl ⟨x, hx, hf⟩
    · rw [List.mem_singleton.mp hx] at hf
      exact .inr hf
  · rintro (⟨x, hx, hf⟩ | hf)
    · exact ⟨x, List.mem_append_left _ hx, hf⟩
    · exact ⟨e, by simp, hf⟩

/-- Part of a frame whose writing did not succeed. -/
def Cut (s : Nat) (tr : List Event) (part : List UInt8) : Prop :=
  ∃ frame o, Event.writes (some s) frame o ∈ tr ∧ o ≠ .returned (.ok ()) ∧
    part <+: octets frame ∧ part.length < frame.size

theorem Cut.broken {part : List UInt8} (h : Cut s tr part) : Broken s tr := by
  obtain ⟨frame, o, hmem, ho, -⟩ := h
  exact ⟨_, hmem, .intro frame ho⟩

theorem Cut.append {part : List UInt8} (h : Cut s tr part) (es : List Event) :
    Cut s (tr ++ es) part := by
  obtain ⟨frame, o, hmem, hrest⟩ := h
  exact ⟨frame, o, List.mem_append_left _ hmem, hrest⟩

/-! ## The invariant of one stream -/

/-- What a link has put on a stream, and how its mark goes with it. -/
structure Sending (s : Nat) (tr : List Event) (l : Link) (net : Network) : Prop where
  fresh : l.Fresh net s → (net.pipe s l.role.outgoing).written = ByteArray.empty ∧
    ∀ e ∈ tr, e.on ≠ some s
  written : ∃ part, octets (net.pipe s l.role.outgoing).written =
    (wholeOn s tr).flatMap octets ++ part ∧ (part = [] ∨ Cut s tr part)
  broken : l.phase = .connected s → (l.writing = true ↔ Broken s tr)

namespace Sending

theorem new (h : New l net) : Sending s [] l net where
  fresh _ := ⟨h.untouched.written s, by simp⟩
  written := ⟨[], by simp [h.untouched.written s], .inl rfl⟩
  broken _ := by simp [h.writing, not_broken_nil]

theorem not_broken_of_fresh (h : Sending s tr l net) (hf : l.Fresh net s) : ¬ Broken s tr := by
  rintro ⟨e, he, hfails⟩
  exact (h.fresh hf).2 e he hfails.on_eq

/-- As long as no write has failed there is nothing but whole frames. -/
theorem written_eq (h : Sending s tr l net) (hb : ¬ Broken s tr) :
    octets (net.pipe s l.role.outgoing).written = (wholeOn s tr).flatMap octets := by
  obtain ⟨part, hpart, rfl | hcut⟩ := h.written
  · simpa using hpart
  · exact absurd hcut.broken hb

theorem of_off (h : Sending s tr l net) (hc : Change l net e l' net') (he : e.on ≠ some s) :
    Sending s (tr ++ [e]) l' net' := by
  have hwhole : wholeOn s (tr ++ [e]) = wholeOn s tr :=
    wholeOn_concat_none (Event.whole?_eq_none he)
  have hbroken : Broken s (tr ++ [e]) ↔ Broken s tr := by
    rw [broken_concat, or_iff_left fun hf : e.Fails s => he hf.on_eq]
  refine ⟨?_, ?_, ?_⟩
  · intro hf
    obtain ⟨hw, hoff⟩ := h.fresh (hc.fresh hf)
    rw [hc.role, hc.pipe_eq he]
    exact ⟨hw, List.forall_mem_append.mpr ⟨hoff, List.forall_mem_singleton.mpr he⟩⟩
  · obtain ⟨part, hpart, hcut⟩ := h.written
    rw [hc.role, hc.pipe_eq he, hwhole]
    exact ⟨part, hpart, hcut.imp_right fun hcut => hcut.append _⟩
  · intro hp
    rw [hbroken]
    rcases hc.connected_of_off he hp with ⟨hp, hw, -⟩ | ⟨hf, hw, -⟩
    · rw [hw]
      exact h.broken hp
    · simp [hw, h.not_broken_of_fresh hf]

theorem of_on (h : Sending s tr l net) (hcoh : Coherent l net) (hc : Change l net e l' net')
    (he : e.on = some s) : Sending s (tr ++ [e]) l' net' := by
  obtain ⟨hp, ht⟩ := hc.transfer he
  have hfresh : ¬ l'.Fresh net' s := fun hf => hcoh.not_fresh hp (hc.fresh hf)
  obtain ⟨part, hpart, hcut⟩ := h.written
  refine ⟨?_, ?_, ?_⟩
  · intro hf
    exact absurd hf hfresh
  · cases ht with
    | refused _ hbar =>
      refine ⟨part, ?_, hcut.imp_right fun hcut => hcut.append _⟩
      cases hbar <;> rw [wholeOn_concat_none rfl] <;> exact hpart
    | writes frame put o b hw hb ht htaken hput hdone =>
      have hwhole := h.written_eq fun hbr => by simp [(h.broken hp).mpr hbr] at hw
      cases hdone with
      | whole =>
        refine ⟨[], ?_, .inl rfl⟩
        have hsome : Event.whole? s (.writes (some s) (packed frame) (.returned (.ok ()))) =
            some (packed frame) := if_pos rfl
        rw [hput, hwhole, wholeOn_concat_some hsome]
        simp
      | part ho hpre hlt =>
        have hcut : Cut s (tr ++ [.writes (some s) (packed frame) o]) put :=
          ⟨packed frame, o, by simp, ho, by simpa using hpre, by simpa using hlt⟩
        refine ⟨put, ?_, .inr hcut⟩
        rw [hput, hwhole, wholeOn_concat_none]
        unfold Event.whole?
        split
        · rename_i heq
          cases heq
          exact absurd rfl ho
        · rfl
    | reads a got o hw ht =>
      refine ⟨part, ?_, hcut.imp_right fun hcut => hcut.append _⟩
      have hpipe := ht.other s l.role.outgoing (by simp [l.role.incoming_ne_outgoing.symm])
      rw [wholeOn_concat_none rfl, ← hpart, hpipe]
  · intro _
    rw [broken_concat]
    cases ht with
    | refused hw => simp [hw, (h.broken hp).mp hw]
    | writes frame put o b hw hb =>
      have hnot : ¬ Broken s tr := fun hbr => by simp [(h.broken hp).mpr hbr] at hw
      rw [or_iff_right hnot]
      rw [hb]
      constructor
      · intro ho
        exact .intro _ ho
      · rintro ⟨_, ho⟩
        exact ho
    | reads a got o hw =>
      rw [or_iff_left fun hf : (Event.reads (some s) o).Fails s => nomatch hf]
      exact h.broken hp

theorem step (h : Sending s tr l net) (hcoh : Coherent l net) (hc : Change l net e l' net') :
    Sending s (tr ++ [e]) l' net' := by
  by_cases he : e.on = some s
  · exact h.of_on hcoh hc he
  · exact h.of_off hc he

theorem drift (h : Sending s tr l net) (hd : net.Drift l.role net') : Sending s tr l net' where
  fresh hf := by
    rw [hd.written s]
    exact h.fresh (hf.of_drift hd)
  written := by
    rw [hd.written s]
    exact h.written
  broken := h.broken

end Sending

theorem Run.sending (hn : New l₀ net₀) (h : Run l₀ net₀ tr l net) : Sending s tr l net := by
  induction h with
  | nil => exact .new hn
  | call hr hs ih =>
    have hcoh := hr.coherent hn.coherent
    exact ih.step hcoh (hs.change hcoh)
  | drift _ hd ih => exact ih.drift hd

end Courier.Link
