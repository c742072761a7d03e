import Courier.Proofs.Link.Steps

/-!
# Runs of a link

A run starts with a link that has just been set up by a process that has not
used the network before, and goes on by operations, in any order and whatever
they come to, with anything the rest of the world may do between them. `Calls`
are operations with nothing between them.
-/

namespace Courier.Link

variable {l₀ l l' : Link} {net₀ net net' : Network} {e : Event} {s : Nat}

/-- A link that has just been set up. -/
inductive Start : Link → Network → Prop
  | listen {settings : ServerSettings} {net net' : Network} {l : Link}
      (hu : Network.Untouched .server net) (h : listen settings net = (.ok l, net')) : Start l net'
  | connect {settings : ClientSettings} {net net' : Network} {l : Link}
      (hu : Network.Untouched .client net)
      (h : connect settings net = (.returned (.ok l), net')) : Start l net'

/-- A client next door. -/
def nearby : ClientSettings := { host := "127.0.0.1", port := 9000 }

def nearbyLink : Link := joined nearby ⟨.v4 127 0 0 1, 9000⟩ 0

inductive Run (l₀ : Link) (net₀ : Network) : List Event → Link → Network → Prop
  | nil : Run l₀ net₀ [] l₀ net₀
  | call {tr : List Event} {l l' : Link} {net net' : Network} {e : Event}
      (hr : Run l₀ net₀ tr l net) (hs : Step l net e l' net') : Run l₀ net₀ (tr ++ [e]) l' net'
  | drift {tr : List Event} {l : Link} {net net' : Network}
      (hr : Run l₀ net₀ tr l net) (hd : net.Drift l.role net') : Run l₀ net₀ tr l net'

theorem Run.trans {tr es : List Event} (h : Run l₀ net₀ tr l net) (h' : Run l net es l' net') :
    Run l₀ net₀ (tr ++ es) l' net' := by
  induction h' with
  | nil => simpa using h
  | call _ hs ih => simpa using ih.call hs
  | drift _ hd ih => exact ih.drift hd

inductive Calls : Link → Network → List Event → Link → Network → Prop
  | nil {l : Link} {net : Network} : Calls l net [] l net
  | cons {l l' last : Link} {net net' final : Network} {e : Event} {es : List Event}
      (hs : Step l net e l' net') (hc : Calls l' net' es last final) :
      Calls l net (e :: es) last final

theorem Calls.run {es : List Event} (h : Calls l net es l' net') : Run l net es l' net' := by
  induction h with
  | nil => exact .nil
  | cons hs _ ih => exact (Run.nil.call hs).trans ih

theorem Calls.single (h : Step l net e l' net') : Calls l net [e] l' net' := .cons h .nil

theorem Calls.trans {last : Link} {final : Network} {es es' : List Event}
    (h : Calls l net es l' net') (h' : Calls l' net' es' last final) :
    Calls l net (es ++ es') last final := by
  induction h with
  | nil => exact h'
  | cons hs _ ih => exact .cons hs (ih h')

/-! ## What an operation keeps -/

namespace Transfer

theorem link_eq (h : Transfer s l net e l' net') :
    l' = { l with writing := l'.writing, accumulator := l'.accumulator } ∧
      l'.maxFrame = l.maxFrame := by
  cases h with
  | refused => exact ⟨rfl, rfl⟩
  | writes => exact ⟨rfl, rfl⟩
  | reads _ _ _ _ _ _ _ ha => exact ⟨rfl, ha⟩

theorem phase (h : Transfer s l net e l' net') : l'.phase = l.phase := by
  rw [h.link_eq.1]

theorem role (h : Transfer s l net e l' net') : l'.role = l.role := by
  rw [h.link_eq.1]

theorem opened (h : Transfer s l net e l' net') : net'.opened = net.opened := by
  cases h with
  | refused => rfl
  | writes _ _ _ _ _ _ ht => exact ht.opened
  | reads _ _ _ _ ht => exact ht.opened

/-- What a transfer of one end is for the other. -/
theorem drift (h : Transfer s l net e l' net') : net.Drift l.role.opposite net' := by
  have hne := l.role.incoming_ne_outgoing
  have hopened := h.opened
  cases h with
  | refused => exact .refl _ _
  | writes frame put o b hw hb ht htaken hput =>
    refine ⟨?_, ?_, ?_, Nat.le_of_eq hopened.symm⟩ <;> intro t <;>
      simp only [Role.outgoing_opposite, Role.incoming_opposite]
    · rw [ht.other t _ (by simp [hne])]
    · by_cases hts : t = s
      · rw [hts, htaken]
      · rw [ht.other t _ (by simp [hts])]
    · by_cases hts : t = s
      · rw [hts, hput]
        exact List.prefix_append _ _
      · exact ht.other t l.role.outgoing (by simp [hts]) ▸ List.prefix_rfl
  | reads a got o hw ht hwritten =>
    refine ⟨?_, ?_, ?_, Nat.le_of_eq hopened.symm⟩ <;> intro t <;>
      simp only [Role.outgoing_opposite, Role.incoming_opposite]
    · by_cases hts : t = s
      · rw [hts, hwritten]
      · rw [ht.other t _ (by simp [hts])]
    · rw [ht.other t _ (by simp [hne.symm])]
    · exact ht.other t l.role.outgoing (by simp [hne.symm]) ▸ List.prefix_rfl

end Transfer

namespace Change

theorem role (h : Change l net e l' net') : l'.role = l.role := by
  cases h with
  | stays _ _ hr => exact hr
  | joins _ _ _ hr => exact hr
  | leaves _ _ hr => exact hr
  | transfers _ _ ht => exact ht.role

theorem maxFrame (h : Change l net e l' net') : l'.maxFrame = l.maxFrame := by
  cases h with
  | stays _ _ _ _ ha => rw [Link.maxFrame, ha, Link.maxFrame]
  | joins _ _ _ _ _ ha => rw [Link.maxFrame, ha, Accumulator.empty]
  | leaves _ _ _ _ ha => rw [Link.maxFrame, ha, Link.maxFrame]
  | transfers _ _ ht => exact ht.link_eq.2

theorem opened (h : Change l net e l' net') : net.opened ≤ net'.opened := by
  cases h with
  | stays _ hn => exact hn.opened
  | joins _ _ hn => exact hn.opened
  | leaves _ hn => exact hn.opened
  | transfers _ _ ht => exact Nat.le_of_eq ht.opened.symm

theorem coherent (hc : Coherent l net) (h : Change l net e l' net') : Coherent l' net' := by
  have hopened := h.opened
  have hrole := h.role
  cases h with
  | stays he hn hr hw ha hp =>
    rcases hp with hp | ⟨b, b', hb, hp⟩
    · refine ⟨?_, ?_, ?_, ?_⟩
      · rw [hp, hr, ha]
        exact hc.listening
      · rw [hp, hr]
        exact hc.reconnecting
      · rw [hp, hr]
        exact fun s hs hclient => Nat.lt_of_lt_of_le (hc.opened s hs hclient) hopened
      · rw [hp, hw]
        exact hc.writing
    · have hwf := hc.writing_eq_false (by simp [stream?, hb])
      refine ⟨by simp [hp], ?_, by simp [hp], by simp [hw, hwf]⟩
      rw [hr]
      exact fun _ _ => hc.reconnecting b hb
  | joins s he hn hr hw ha hf hp ho =>
    refine ⟨by simp [hp], by simp [hp], ?_, by simp [hw]⟩
    intro t ht hclient
    rw [hp] at ht
    cases ht
    exact ho (hr ▸ hclient)
  | leaves he hn hr hw ha hp =>
    rcases hp with hp | ⟨hclient, b, hp⟩
    · exact ⟨by simp [hp], by simp [hp], by simp [hp], by simp [hw]⟩
    · exact ⟨by simp [hp], fun _ _ => hr.trans hclient, by simp [hp], by simp [hw]⟩
  | transfers s hp ht =>
    have hphase := ht.phase.trans hp
    refine ⟨by simp [hphase], by simp [hphase], ?_, fun _ => ⟨s, hphase⟩⟩
    rw [ht.phase, hrole, ht.opened]
    exact hc.opened

theorem fresh (h : Change l net e l' net') (hf : l'.Fresh net' s) : l.Fresh net s := by
  have hopened := h.opened
  have hrole := h.role
  have hphase : l'.phase = .listening → l.phase = .listening := by
    intro hl
    cases h with
    | stays _ _ _ _ _ hp =>
      rcases hp with hp | ⟨b, b', hb, hp⟩
      · rwa [← hp]
      · rw [hp] at hl
        cases hl
    | joins _ _ _ _ _ _ _ hp =>
      rw [hp] at hl
      cases hl
    | leaves _ _ _ _ _ hp =>
      rcases hp with hp | ⟨-, b, hp⟩ <;> rw [hp] at hl <;> cases hl
    | transfers _ _ ht => rwa [← ht.phase]
  rcases hf with hl | ⟨hclient, hle⟩
  · exact .inl (hphase hl)
  · exact .inr ⟨hrole ▸ hclient, Nat.le_trans hopened hle⟩

/-- What an operation of one end is for the other. -/
theorem drift (h : Change l net e l' net') : net.Drift l.role.opposite net' := by
  cases h with
  | stays _ hn => exact hn.drift _
  | joins _ _ hn => exact hn.drift _
  | leaves _ hn => exact hn.drift _
  | transfers _ _ ht => exact ht.drift

theorem on_eq (h : Change l net e l' net') : e.on = none ∨ e.on = l.stream? := by
  cases h with
  | stays he => exact .inl he.on_eq_none
  | joins _ he => exact .inl he.on_eq_none
  | leaves he => exact .inl he.on_eq_none
  | transfers s hp ht => exact .inr (ht.on_eq.trans (stream?_eq_some.mpr hp).symm)

theorem transfer (h : Change l net e l' net') (he : e.on = some s) :
    l.phase = .connected s ∧ Transfer s l net e l' net' := by
  cases h with
  | stays hi =>
    rw [hi.on_eq_none] at he
    cases he
  | joins _ hi =>
    rw [hi.on_eq_none] at he
    cases he
  | leaves hi =>
    rw [hi.on_eq_none] at he
    cases he
  | transfers t hp ht =>
    rw [ht.on_eq] at he
    cases he
    exact ⟨hp, ht⟩

theorem pipe_eq (h : Change l net e l' net') (hs : e.on ≠ some s) (d : Direction) :
    net'.pipe s d = net.pipe s d := by
  cases h with
  | stays _ hn => rw [hn.pipe]
  | joins _ _ hn => rw [hn.pipe]
  | leaves _ hn => rw [hn.pipe]
  | transfers t _ ht =>
    have hne : s ≠ t := fun h => hs (h ▸ ht.on_eq)
    cases ht with
    | refused => rfl
    | writes _ _ _ _ _ _ ht => exact ht.other s d fun h => hne h.1
    | reads _ _ _ _ ht => exact ht.other s d fun h => hne h.1

/-- Without a transfer on it, a stream that a link has afterwards is the one
that it had, or is new to it. -/
theorem connected_of_off (h : Change l net e l' net') (hs : e.on ≠ some s)
    (hp : l'.phase = .connected s) :
    l.phase = .connected s ∧ l'.writing = l.writing ∧ l'.accumulator = l.accumulator ∨
      l.Fresh net s ∧ l'.writing = false ∧ l'.accumulator = .empty l.maxFrame := by
  cases h with
  | stays _ _ _ hw ha hphase =>
    rcases hphase with hphase | ⟨b, b', -, hphase⟩
    · exact .inl ⟨hphase ▸ hp, hw, ha⟩
    · rw [hphase] at hp
      cases hp
  | joins t _ _ _ hw ha hf hphase =>
    rw [hphase] at hp
    cases hp
    exact .inr ⟨hf, hw, ha⟩
  | leaves _ _ _ _ _ hphase =>
    rcases hphase with hphase | ⟨-, b, hphase⟩ <;> rw [hphase] at hp <;> cases hp
  | transfers t hphase ht =>
    rw [ht.phase, hphase] at hp
    cases hp
    exact absurd ht.on_eq hs

end Change

theorem Calls.drift {es : List Event} (hc : Coherent l net) (h : Calls l net es l' net') :
    net.Drift l.role.opposite net' := by
  induction h with
  | nil => exact .refl _ _
  | cons hs _ ih =>
    have hchange := hs.change hc
    have hlater := ih (hchange.coherent hc)
    rw [hchange.role] at hlater
    exact hchange.drift.trans hlater

/-! ## What holds from the start on -/

theorem of_checkMaxFrame {size : Nat} (h : checkMaxFrame size = .ok ()) :
    1 ≤ size ∧ size ≤ Frame.maxSize := by
  unfold checkMaxFrame at h
  split at h
  · cases h
  · omega

/-- What setting a link up leaves. -/
structure New (l : Link) (net : Network) : Prop where
  coherent : Coherent l net
  untouched : net.Untouched l.role
  maxFrame_pos : 1 ≤ l.maxFrame
  maxFrame_le : l.maxFrame ≤ Frame.maxSize
  buffer : l.accumulator.buffer = ByteArray.empty
  writing : l.writing = false

theorem New.maxFrame_le_maxDeclared (h : New l net) : l.maxFrame ≤ Frame.maxDeclared :=
  Nat.le_trans h.maxFrame_le (by decide)

theorem calm_bindFirst {last : IoError} {targets : List Address} {o : Except Failure Nat}
    (h : bindFirst last targets net = (o, net')) : net.Calm net' := by
  induction targets generalizing last net with
  | nil =>
    cases h
    exact .refl _
  | cons target rest ih =>
    unfold bindFirst at h
    split at h <;> rename_i hbind <;> obtain ⟨-, rfl⟩ := Prod.mk.inj hbind
    · split at h <;> cases h <;> exact Network.calm_note _
    · exact (Network.calm_note _).trans (ih h)

theorem of_listen {settings : ServerSettings} (h : listen settings net = (.ok l, net')) :
    net.Calm net' ∧ ∃ port, l = listening settings port ∧ settings.validate = .ok () := by
  unfold listen at h
  split at h
  · cases h
  · rename_i hv
    split at h
    · cases h
    · split at h <;> rename_i hbind <;> cases h
      exact ⟨calm_bindFirst hbind, _, rfl, hv⟩

theorem of_connect {settings : ClientSettings}
    (h : connect settings net = (.returned (.ok l), net')) :
    net.Calm net' ∧ ∃ remote s, l = joined settings remote s ∧ s < net'.opened ∧
      checkMaxFrame settings.maxFrame = .ok () := by
  unfold connect at h
  split at h
  · cases h
  · rename_i hv
    have hmax : checkMaxFrame settings.maxFrame = .ok () := by
      unfold ClientSettings.validate at hv
      split at hv
      · cases hv
      · split at hv
        · cases hv
        · split at hv
          · cases hv
          · exact hv
    split at h
    · cases h
    · split at h <;> rename_i hopen <;> obtain ⟨hcalm, hnew⟩ := calm_openStream hopen <;> cases h
      exact ⟨hcalm, _, _, rfl, (hnew _ rfl).2, hmax⟩

theorem resolve_of_connect {settings : ClientSettings}
    (h : connect settings net = (.returned (.ok l), net')) :
    ∃ remote others s, net.resolve settings.host settings.port = .ok (remote :: others) ∧
      l = joined settings remote s := by
  unfold connect at h
  split at h
  · cases h
  · split at h
    · cases h
    · rename_i hlocate
      split at h <;> cases h
      exact ⟨_, _, _, net.resolve_eq_ok_iff.mpr hlocate, rfl⟩

theorem Start.new (h : Start l net) : New l net := by
  cases h with
  | listen hu h =>
    obtain ⟨hcalm, port, rfl, hv⟩ := of_listen h
    obtain ⟨hpos, hle⟩ := of_checkMaxFrame hv
    refine ⟨⟨fun _ => ⟨rfl, rfl⟩, ?_, ?_, ?_⟩, hu.drift (hcalm.drift _), hpos, hle, rfl, rfl⟩
    · rintro b ⟨⟩
    · rintro s ⟨⟩
    · rintro ⟨⟩
  | connect hu h =>
    obtain ⟨hcalm, remote, s, rfl, hs, hv⟩ := of_connect h
    obtain ⟨hpos, hle⟩ := of_checkMaxFrame hv
    refine ⟨⟨?_, fun _ _ => rfl, ?_, ?_⟩, hu.drift (hcalm.drift _), hpos, hle, rfl, rfl⟩
    · rintro ⟨⟩
    · rintro t ⟨⟩ -
      exact hs
    · rintro ⟨⟩

namespace Run

variable {tr : List Event}

theorem coherent (hc : Coherent l₀ net₀) (h : Run l₀ net₀ tr l net) : Coherent l net := by
  induction h with
  | nil => exact hc
  | call _ hs ih => exact (hs.change ih).coherent ih
  | drift _ hd ih => exact ih.drift hd

theorem role (hc : Coherent l₀ net₀) (h : Run l₀ net₀ tr l net) : l.role = l₀.role := by
  induction h with
  | nil => rfl
  | call hr hs ih => exact (hs.change (hr.coherent hc)).role.trans ih
  | drift _ _ ih => exact ih

theorem maxFrame (hc : Coherent l₀ net₀) (h : Run l₀ net₀ tr l net) :
    l.maxFrame = l₀.maxFrame := by
  induction h with
  | nil => rfl
  | call hr hs ih => exact (hs.change (hr.coherent hc)).maxFrame.trans ih
  | drift _ _ ih => exact ih

end Run
end Courier.Link
