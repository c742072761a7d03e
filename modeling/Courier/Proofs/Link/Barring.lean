import Courier.Proofs.Link.Alignment

/-!
# After a failed write

A stream on which a write has failed carries no further byte either way. Until
it is given up every transfer is refused, and once it is given up it does not
come back, because a client counts its streams and a server has only one.
-/

namespace Courier.Link

variable {l l' : Link} {net net' : Network} {e : Event} {post : List Event} {s : Nat}

/-- The link does not have this stream and will not get it. -/
structure Gone (s : Nat) (l : Link) (net : Network) : Prop where
  fresh : ¬ l.Fresh net s
  phase : l.phase ≠ .connected s

/-- The link has this stream and may not use it. -/
structure Marked (s : Nat) (l : Link) : Prop where
  phase : l.phase = .connected s
  writing : l.writing = true

theorem Gone.drift {r : Role} (h : Gone s l net) (hd : net.Drift r net') : Gone s l net' where
  fresh hf := h.fresh (hf.of_drift hd)
  phase := h.phase

def Event.Transfers : Event → Prop
  | writes .. | reads .. => True
  | _ => False

theorem Step.on_eq (h : Step l net e l' net') (ht : e.Transfers) : e.on = l.stream? := by
  cases h with
  | accept => cases ht
  | tryReconnect => cases ht
  | writeFrame => rfl
  | readFrame => rfl
  | tearDown => cases ht
  | close => cases ht
  | setIoTimeout => cases ht

namespace Change

theorem off_of_gone (h : Change l net e l' net') (hg : Gone s l net) : e.on ≠ some s := by
  intro he
  rcases h.on_eq with hon | hon
  · rw [he] at hon
    cases hon
  · exact hg.phase (stream?_eq_some.mp (hon.symm.trans he))

theorem gone (h : Change l net e l' net') (hg : Gone s l net) : Gone s l' net' where
  fresh hf := hg.fresh (h.fresh hf)
  phase hp := by
    rcases h.connected_of_off (h.off_of_gone hg) hp with ⟨hp, -⟩ | ⟨hf, -⟩
    · exact hg.phase hp
    · exact hg.fresh hf

end Change

theorem Run.gone {es : List Event} (hc : Coherent l net) (hg : Gone s l net)
    (h : Run l net es l' net') : Gone s l' net' ∧ ∀ e ∈ es, e.on ≠ some s := by
  induction h with
  | nil => exact ⟨hg, by simp⟩
  | call hr hs ih =>
    obtain ⟨hg, hoff⟩ := ih
    have hchange := hs.change (hr.coherent hc)
    have hlast := hchange.off_of_gone hg
    refine ⟨hchange.gone hg, List.forall_mem_append.mpr ⟨hoff, ?_⟩⟩
    exact List.forall_mem_singleton.mpr hlast
  | drift _ hd ih => exact ⟨ih.1.drift hd, ih.2⟩

namespace Change

theorem of_marked (h : Change l net e l' net') (hc : Coherent l net) (hm : Marked s l) :
    net'.pipe = net.pipe ∧ (e.on = some s → e.Barred (some s)) ∧
      (Marked s l' ∧ ¬ e.Releases ∨ Gone s l' net' ∧ e.Releases) := by
  have hfresh : ¬ l'.Fresh net' s := fun hf => hc.not_fresh hm.phase (h.fresh hf)
  cases h with
  | stays he hn hr hw ha hp =>
    refine ⟨hn.pipe, ?_, .inl ⟨⟨?_, hw.trans hm.writing⟩, ?_⟩⟩
    · intro hon
      rw [he.on_eq_none] at hon
      cases hon
    · rcases hp with hp | ⟨b, b', hb, -⟩
      · exact hp.trans hm.phase
      · rw [hm.phase] at hb
        cases hb
    · rintro (rfl | rfl) <;> cases he
  | joins t _ _ _ _ _ _ _ _ hs => exact absurd hm.phase (stream?_eq_none.mp hs s)
  | leaves he hn hr hw ha hp =>
    refine ⟨hn.pipe, ?_, .inr ⟨⟨hfresh, ?_⟩, he⟩⟩
    · intro hon
      rw [he.on_eq_none] at hon
      cases hon
    · intro hphase
      rcases hp with hp | ⟨-, b, hp⟩ <;> rw [hp] at hphase <;> cases hphase
  | transfers t hp ht =>
    rw [hm.phase] at hp
    cases hp
    cases ht with
    | refused _ he =>
      refine ⟨rfl, fun _ => he, .inl ⟨hm, ?_⟩⟩
      rintro (rfl | rfl) <;> cases he
    | writes _ _ _ _ hw =>
      rw [hm.writing] at hw
      cases hw
    | reads _ _ _ hw =>
      rw [hm.writing] at hw
      cases hw

end Change

/-- What comes after a failed write on a stream: no byte is put on it or taken
from it, every transfer is refused until the stream is given up, and from then
on none is made on it. -/
structure Spoilt (s : Nat) (l : Link) (net : Network) (post : List Event) (l' : Link)
    (net' : Network) : Prop where
  written : (net'.pipe s l.role.outgoing).written = (net.pipe s l.role.outgoing).written
  taken : (net'.pipe s l.role.incoming).taken = (net.pipe s l.role.incoming).taken
  refused : ∀ early later, post = early ++ later → (∀ e ∈ early, ¬ e.Releases) →
    ∀ e ∈ early, e.Transfers → e.Barred (some s)
  unused : ∀ early e later, post = early ++ e :: later → e.Releases → ∀ x ∈ later, x.on ≠ some s
  phase : Marked s l' ∧ (∀ e ∈ post, ¬ e.Releases) ∨ Gone s l' net' ∧ ∃ e ∈ post, e.Releases

theorem append_eq_concat_cases {early later : List Event} (h : post ++ [e] = early ++ later) :
    later = [] ∧ early = post ++ [e] ∨ ∃ rest, later = rest ++ [e] ∧ post = early ++ rest := by
  rcases List.eq_nil_or_concat later with rfl | ⟨rest, x, rfl⟩
  · exact .inl ⟨rfl, by simpa using h.symm⟩
  · rw [List.concat_eq_append, ← List.append_assoc] at h
    obtain ⟨hpost, hx⟩ := List.append_inj' h rfl
    cases hx
    exact .inr ⟨rest, by simp, hpost⟩

theorem Spoilt.concat {last : Link} {final : Network} (h : Spoilt s l net post l' net')
    (hpipe : ∀ d, final.pipe s d = net'.pipe s d)
    (hrefused : (∀ x ∈ post ++ [e], ¬ x.Releases) → e.Transfers → e.Barred (some s))
    (hunused : (∃ x ∈ post, x.Releases) → e.on ≠ some s)
    (hphase : Marked s last ∧ (∀ x ∈ post ++ [e], ¬ x.Releases) ∨
      Gone s last final ∧ ∃ x ∈ post ++ [e], x.Releases) :
    Spoilt s l net (post ++ [e]) last final where
  written := by rw [hpipe, h.written]
  taken := by rw [hpipe, h.taken]
  refused early later heq hearly x hx ht := by
    rcases append_eq_concat_cases heq with ⟨-, rfl⟩ | ⟨rest, -, hpost⟩
    · rcases List.mem_append.mp hx with hmem | hmem
      · apply h.refused post [] (by simp) ?_ x hmem ht
        intro y hy
        exact hearly y (List.mem_append_left _ hy)
      · rw [List.mem_singleton.mp hmem] at ht ⊢
        exact hrefused hearly ht
    · exact h.refused early rest hpost hearly x hx ht
  unused early x later heq hx y hy := by
    rcases append_eq_concat_cases heq with ⟨hnil, -⟩ | ⟨rest, hlater, hpost⟩
    · cases hnil
    · cases rest with
      | nil =>
        cases hlater
        cases hy
      | cons z rest =>
        obtain ⟨rfl, rfl⟩ := List.cons.inj hlater
        rcases List.mem_append.mp hy with hmem | hmem
        · exact h.unused early x rest hpost hx y hmem
        · rw [List.mem_singleton.mp hmem]
          exact hunused ⟨x, by simp [hpost], hx⟩
  phase := hphase

/-- A link that carries the mark of a failed write uses the stream no more. -/
theorem Run.spoilt (hc : Coherent l net) (hm : Marked s l) (h : Run l net post l' net') :
    Spoilt s l net post l' net' := by
  induction h with
  | nil =>
    refine ⟨rfl, rfl, ?_, ?_, .inl ⟨hm, by simp⟩⟩
    · intro early later heq _ e he
      rw [(List.append_eq_nil_iff.mp heq.symm).1] at he
      cases he
    · intro early e later heq
      simp at heq
  | @call post l₁ l₂ net₁ net₂ e hr hs ih =>
    have hcoh := hr.coherent hc
    have hchange := hs.change hcoh
    rcases ih.phase with ⟨hm, hheld⟩ | ⟨hg, x, hx, hrel⟩
    · obtain ⟨hpipe, hbar, hnext⟩ := hchange.of_marked hcoh hm
      refine ih.concat (fun d => by rw [hpipe]) ?_ ?_ ?_
      · intro _ ht
        exact hbar ((hs.on_eq ht).trans (stream?_eq_some.mpr hm.phase))
      · rintro ⟨x, hx, hrel⟩
        exact absurd hrel (hheld x hx)
      · rcases hnext with ⟨hm, hrel⟩ | ⟨hg, hrel⟩
        · refine .inl ⟨hm, List.forall_mem_append.mpr ⟨hheld, ?_⟩⟩
          exact List.forall_mem_singleton.mpr hrel
        · exact .inr ⟨hg, e, by simp, hrel⟩
    · have hoff := hchange.off_of_gone hg
      refine ih.concat (hchange.pipe_eq hoff) ?_ (fun _ => hoff) ?_
      · intro hnone
        exact absurd hrel (hnone x (List.mem_append_left _ hx))
      · exact .inr ⟨hchange.gone hg, x, List.mem_append_left _ hx, hrel⟩
  | drift hr hd ih =>
    rw [hr.role hc] at hd
    refine ⟨(hd.written s).trans ih.written, (hd.taken s).trans ih.taken, ih.refused, ih.unused, ?_⟩
    rcases ih.phase with hm | ⟨hg, hrel⟩
    · exact .inl hm
    · exact .inr ⟨hg.drift hd, hrel⟩

theorem Change.marked (h : Change l net e l' net') (hf : e.Fails s) : Marked s l' := by
  obtain ⟨hp, ht⟩ := h.transfer hf.on_eq
  refine ⟨ht.phase.trans hp, ?_⟩
  cases hf with
  | intro frame ho =>
    cases ht with
    | refused hw => exact hw
    | writes _ _ _ b _ hb => exact hb.mpr ho

theorem Run.marked (hc : Coherent l net) (h : Run l net post l' net') {early : List Event}
    (hpost : post = early ++ [e]) (hf : e.Fails s) : Marked s l' := by
  induction h with
  | nil => simp at hpost
  | call hr hs =>
    obtain ⟨-, hlast⟩ := List.append_inj' hpost rfl
    cases hlast
    exact (hs.change (hr.coherent hc)).marked hf
  | drift _ _ ih => exact ih hpost

theorem Run.cut (h : Run l net post l' net') {early later : List Event}
    (hpost : post = early ++ later) :
    ∃ l₁ net₁, Run l net early l₁ net₁ ∧ Run l₁ net₁ later l' net' := by
  induction h generalizing later with
  | nil =>
    obtain ⟨rfl, rfl⟩ := List.append_eq_nil_iff.mp hpost.symm
    exact ⟨l, net, .nil, .nil⟩
  | call hr hs ih =>
    rcases append_eq_concat_cases hpost with ⟨rfl, rfl⟩ | ⟨rest, rfl, hrest⟩
    · exact ⟨_, _, hr.call hs, .nil⟩
    · obtain ⟨l₁, net₁, hearly, hlater⟩ := ih hrest
      exact ⟨l₁, net₁, hearly, hlater.call hs⟩
  | drift _ hd ih =>
    obtain ⟨l₁, net₁, hearly, hlater⟩ := ih hpost
    exact ⟨l₁, net₁, hearly, hlater.drift hd⟩

/-- Success means that the whole frame was put on the stream, once. -/
theorem writeFrame_eq_ok_iff {frame : ByteArray} {o : Call (Except Failure Unit)}
    (h : l.writeFrame frame net = (o, l', net')) :
    o = .returned (.ok ()) ↔ ∃ s, l.phase = .connected s ∧ l.writing = false ∧
      octets (net'.pipe s l.role.outgoing).written =
        octets (net.pipe s l.role.outgoing).written ++ octets frame := by
  unfold writeFrame at h
  split at h
  · rename_i hw
    cases h
    simp [hw]
  · rename_i hw
    split at h
    · rename_i s hp
      generalize hsend : transmit s l.role.outgoing l.ioTimeout frame net = sent at h
      obtain ⟨outcome, after⟩ := sent
      obtain ⟨-, -, put, hput, hdone⟩ := transmit_spec hsend
      have hsame : o = outcome ∧ net' = after := by
        split at h <;> rename_i heq <;> cases heq <;> cases h <;> exact ⟨rfl, rfl⟩
      obtain ⟨rfl, rfl⟩ := hsame
      rw [hdone.eq_ok_iff]
      constructor
      · rintro rfl
        exact ⟨s, hp, by simpa using hw, hput⟩
      · rintro ⟨t, ht, -, hall⟩
        rw [hp] at ht
        cases ht
        rw [hput] at hall
        exact List.append_cancel_left hall
    · rename_i hp
      cases h
      constructor
      · nofun
      · rintro ⟨s, hs, -⟩
        exact absurd hs (hp s)

/-- What can be said of the streams of a link after a run. -/
structure Aligned (l₀ : Link) (net₀ : Network) (tr : List Event) (l : Link) (net : Network) :
    Prop where
  written : ∀ s, ∃ part, octets (net.pipe s l.role.outgoing).written =
    (wholeOn s tr).flatMap octets ++ part ∧ (part = [] ∨ Cut s tr part)
  writing : l.writing = true → l.isConnected = true
  ok_iff : ∀ frame o l' net', l.writeFrame frame net = (o, l', net') →
    (o = .returned (.ok ()) ↔ ∃ s, l.phase = .connected s ∧ l.writing = false ∧
      octets (net'.pipe s l.role.outgoing).written =
        octets (net.pipe s l.role.outgoing).written ++ octets frame)
  failed : ∀ s early e later, tr = early ++ e :: later → e.Fails s →
    ∃ l₁ net₁, Run l₀ net₀ (early ++ [e]) l₁ net₁ ∧ Spoilt s l₁ net₁ later l net

theorem Run.aligned {l₀ : Link} {net₀ : Network} {tr : List Event} (hn : New l₀ net₀)
    (h : Run l₀ net₀ tr l net) : Aligned l₀ net₀ tr l net where
  written s := (h.sending hn).written
  writing hw := by
    obtain ⟨s, hp⟩ := (h.coherent hn.coherent).writing hw
    simp [isConnected, hp]
  ok_iff _ _ _ _ hwrite := writeFrame_eq_ok_iff hwrite
  failed s early e later htr hf := by
    obtain ⟨l₁, net₁, hearly, hlater⟩ := h.cut (htr.trans (List.append_cons early e later))
    refine ⟨l₁, net₁, hearly, ?_⟩
    exact hlater.spoilt (hearly.coherent hn.coherent) (hearly.marked hn.coherent rfl hf)

end Courier.Link
