import Courier.Proofs.Link.Phases
import Courier.Proofs.Net.Mirrors
import Mathlib.Data.List.Forall2

/-!
# Links that cannot be told apart

Two clients that differ in nothing but the numbers of their streams, on networks
that are alike from these streams on, do the same: every operation comes to the
same, and leaves two such links on two such networks. What others do to one of the
networks can be done to the other, so a run of one link is a run of its twin.
-/

namespace Courier

variable {j k : Nat} {a a' b b' : Network}

namespace Link

/-! ## Transfers -/

theorem transmit_of_left {stream timeout : Nat} {d : Direction} {rest : ByteArray} {net : Network}
    (h : rest.size ≠ 0) : transmit stream d timeout rest net =
      match net.write stream d rest (net.now + timeout) with
      | (.late, after) => (.returned (.error .writeTimeout), after)
      | (.abandoned, after) => (.abandoned, after)
      | (.came (.accepted n), after) =>
        if n = 0 then (.returned (.error (.io ⟨.writeZero, none⟩)), after)
        else transmit stream d timeout (rest.extract n rest.size) after
      | (.came (.failed e), after) =>
        if e.isTransient then transmit stream d timeout rest after
        else (.returned (.error (.io e)), after) := by
  rw [transmit, if_neg h]
  split <;> rename_i heq <;> rw [heq]

theorem gather_of_pop_none {stream deadline : Nat} {d : Direction} {acc acc' : Accumulator}
    {net : Network} (h : acc.pop = (.ok none, acc')) : gather stream d deadline acc net =
      match net.read stream d (want acc') deadline with
      | (.late, after) => (.returned (.ok none), acc', after)
      | (.abandoned, after) => (.abandoned, acc', after)
      | (.came .ended, after) => (.returned (.error .connectionClosed), acc', after)
      | (.came (.failed e), after) =>
        if e.isTransient then gather stream d deadline acc' after
        else (.returned (.error (.io e)), acc', after)
      | (.came (.bytes bytes), after) =>
        match acc'.extend bytes with
        | (.error e, last) => (.returned (.error (.frame e)), last, after)
        | (.ok (), last) => gather stream d deadline last after := by
  rw [gather]
  split <;> rename_i hpop <;> cases h.symm.trans hpop
  generalize net.read stream d (want acc') deadline = w
  obtain ⟨(_ | _ | _) | _ | _, after⟩ := w <;> rfl

/-- A relation of networks that writing keeps, on one stream each, if the bytes that are
written go together. -/
structure WritesAlike (R : Network → Network → Prop) (B : ByteArray → ByteArray → Prop)
    (s t : Nat) (d : Direction) : Prop where
  now : ∀ {a b}, R a b → a.now = b.now
  size : ∀ {x y}, B x y → x.size = y.size
  rest : ∀ {x y} (n : Nat), B x y → B (x.extract n x.size) (y.extract n y.size)
  write : ∀ {a b a' x y deadline w}, R a b → B x y → a.write s d x deadline = (w, a') →
    ∃ b', b.write t d y deadline = (w, b') ∧ R a' b'

theorem transmit_related {R : Network → Network → Prop} {B : ByteArray → ByteArray → Prop}
    {s t timeout : Nat} {d : Direction} {bytes bytes' : ByteArray}
    {o : Call (Except Failure Unit)} (hR : WritesAlike R B s t d) (h : R a b)
    (hbytes : B bytes bytes') (ha : transmit s d timeout bytes a = (o, a')) :
    ∃ b', transmit t d timeout bytes' b = (o, b') ∧ R a' b' := by
  fun_induction transmit s d timeout bytes a generalizing b bytes' with
  | case1 bytes net hsize =>
    cases ha
    rw [transmit, if_pos (hR.size hbytes ▸ hsize)]
    exact ⟨b, rfl, h⟩
  | case2 bytes net hsize mid hwrite =>
    obtain ⟨mid', hb, hmid⟩ := hR.write h hbytes hwrite
    cases ha
    rw [transmit_of_left (hR.size hbytes ▸ hsize), ← hR.now h, hb]
    exact ⟨mid', rfl, hmid⟩
  | case3 bytes net hsize mid hwrite =>
    obtain ⟨mid', hb, hmid⟩ := hR.write h hbytes hwrite
    cases ha
    rw [transmit_of_left (hR.size hbytes ▸ hsize), ← hR.now h, hb]
    exact ⟨mid', rfl, hmid⟩
  | case4 bytes net hsize mid hwrite =>
    obtain ⟨mid', hb, hmid⟩ := hR.write h hbytes hwrite
    cases ha
    rw [transmit_of_left (hR.size hbytes ▸ hsize), ← hR.now h, hb]
    exact ⟨mid', rfl, hmid⟩
  | case5 bytes net hsize n mid hwrite hn ih =>
    obtain ⟨mid', hb, hmid⟩ := hR.write h hbytes hwrite
    rw [transmit_of_left (hR.size hbytes ▸ hsize), ← hR.now h, hb]
    dsimp only
    rw [if_neg hn]
    exact ih hmid (hR.rest n hbytes) ha
  | case6 bytes net hsize e mid hwrite htrans ih =>
    obtain ⟨mid', hb, hmid⟩ := hR.write h hbytes hwrite
    rw [transmit_of_left (hR.size hbytes ▸ hsize), ← hR.now h, hb]
    dsimp only
    rw [if_pos htrans]
    exact ih hmid hbytes ha
  | case7 bytes net hsize e mid hwrite htrans =>
    obtain ⟨mid', hb, hmid⟩ := hR.write h hbytes hwrite
    cases ha
    rw [transmit_of_left (hR.size hbytes ▸ hsize), ← hR.now h, hb]
    exact ⟨mid', if_neg htrans, hmid⟩

theorem writesAlike_mirrors (i : Nat) (d : Direction) :
    WritesAlike (Network.Mirrors j k) Eq (j + i) (k + i) d where
  now h := h.now
  size h := congrArg ByteArray.size h
  rest _ h := h ▸ rfl
  write h hxy ha := hxy ▸ h.write ha

theorem transmit_mirrors {i timeout : Nat} {d : Direction} {rest : ByteArray}
    {o : Call (Except Failure Unit)} (h : a.Mirrors j k b)
    (ha : transmit (j + i) d timeout rest a = (o, a')) :
    ∃ b', transmit (k + i) d timeout rest b = (o, b') ∧ a'.Mirrors j k b' :=
  transmit_related (writesAlike_mirrors i d) h rfl ha

theorem gather_mirrors {i deadline : Nat} {d : Direction} {acc acc' : Accumulator}
    {o : Call (Except Failure (Option ByteArray))} (h : a.Mirrors j k b)
    (ha : gather (j + i) d deadline acc a = (o, acc', a')) :
    ∃ b', gather (k + i) d deadline acc b = (o, acc', b') ∧ a'.Mirrors j k b' := by
  fun_induction gather (j + i) d deadline acc a generalizing b with
  | case1 acc net e acc₁ hpop =>
    cases ha
    rw [gather, hpop]
    exact ⟨b, rfl, h⟩
  | case2 acc net frame acc₁ hpop =>
    cases ha
    rw [gather, hpop]
    exact ⟨b, rfl, h⟩
  | case3 acc net acc₁ hpop mid hread =>
    obtain ⟨mid', hb, hmid⟩ := h.read hread
    cases ha
    rw [gather_of_pop_none hpop, hb]
    exact ⟨mid', rfl, hmid⟩
  | case4 acc net acc₁ hpop mid hread =>
    obtain ⟨mid', hb, hmid⟩ := h.read hread
    cases ha
    rw [gather_of_pop_none hpop, hb]
    exact ⟨mid', rfl, hmid⟩
  | case5 acc net acc₁ hpop mid hread =>
    obtain ⟨mid', hb, hmid⟩ := h.read hread
    cases ha
    rw [gather_of_pop_none hpop, hb]
    exact ⟨mid', rfl, hmid⟩
  | case6 acc net acc₁ hpop e mid hread htrans ih =>
    obtain ⟨mid', hb, hmid⟩ := h.read hread
    rw [gather_of_pop_none hpop, hb]
    dsimp only
    rw [if_pos htrans]
    exact ih hmid ha
  | case7 acc net acc₁ hpop e mid hread htrans =>
    obtain ⟨mid', hb, hmid⟩ := h.read hread
    cases ha
    rw [gather_of_pop_none hpop, hb]
    exact ⟨mid', if_neg htrans, hmid⟩
  | case8 acc net acc₁ hpop bytes mid hread e acc₂ hext =>
    obtain ⟨mid', hb, hmid⟩ := h.read hread
    cases ha
    rw [gather_of_pop_none hpop, hb]
    dsimp only
    rw [hext]
    exact ⟨mid', rfl, hmid⟩
  | case9 acc net acc₁ hpop bytes mid hread acc₂ hext ih =>
    obtain ⟨mid', hb, hmid⟩ := h.read hread
    rw [gather_of_pop_none hpop, hb]
    dsimp only
    rw [hext]
    exact ih hmid ha

theorem openStream_mirrors {target : Address} {timeout : Nat} {o : Call (Except Failure Nat)}
    (h : a.Mirrors j k b) (ha : openStream target timeout a = (o, a')) :
    ∃ o' b', openStream target timeout b = (o', b') ∧ a'.Mirrors j k b' ∧
      ((∃ i, o = .returned (.ok (j + i)) ∧ o' = .returned (.ok (k + i))) ∨
        o' = o ∧ ∀ s, o ≠ .returned (.ok s)) := by
  unfold openStream at ha ⊢
  rw [← h.now]
  generalize hdial : a.dial target (a.now + timeout) = w at ha
  obtain ⟨w, mid⟩ := w
  obtain ⟨w', mid', hb, hmid, hw⟩ := h.dial hdial
  rw [hb]
  rcases hw with ⟨i, rfl, rfl⟩ | ⟨rfl, hnone⟩
  · cases ha
    exact ⟨_, _, rfl, hmid, .inl ⟨i, rfl, rfl⟩⟩
  · rcases w' with (e | s) | _ | _
    · cases ha
      exact ⟨_, _, rfl, hmid, .inr ⟨rfl, nofun⟩⟩
    · exact absurd rfl (hnone s)
    · cases ha
      exact ⟨_, _, rfl, hmid, .inr ⟨rfl, nofun⟩⟩
    · cases ha
      exact ⟨_, _, rfl, hmid, .inr ⟨rfl, nofun⟩⟩

/-! ## Twins -/

/-- The same phase, with the streams in the same place. -/
inductive PhaseTwins (j k : Nat) : Phase → Phase → Prop
  | connected (i : Nat) : PhaseTwins j k (.connected (j + i)) (.connected (k + i))
  | reconnecting (b : Backoff) : PhaseTwins j k (.reconnecting b) (.reconnecting b)
  | disconnected : PhaseTwins j k .disconnected .disconnected

/-- The same stream, or no stream at all. -/
inductive StreamTwins (j k : Nat) : Option Nat → Option Nat → Prop
  | some (i : Nat) : StreamTwins j k (some (j + i)) (some (k + i))
  | none : StreamTwins j k none none

/-- The same operation, which has come to the same. -/
inductive EventTwins (j k : Nat) : Event → Event → Prop
  | accepts (o : Call (Except Failure Bool)) : EventTwins j k (.accepts o) (.accepts o)
  | reconnects (o : Call Bool) : EventTwins j k (.reconnects o) (.reconnects o)
  | writes {s t : Option Nat} (hs : StreamTwins j k s t) (frame : ByteArray)
      (o : Call (Except Failure Unit)) : EventTwins j k (.writes s frame o) (.writes t frame o)
  | reads {s t : Option Nat} (hs : StreamTwins j k s t)
      (o : Call (Except Failure (Option ByteArray))) : EventTwins j k (.reads s o) (.reads t o)
  | tearsDown : EventTwins j k .tearsDown .tearsDown
  | closes : EventTwins j k .closes .closes
  | adjusts (t : Nat) : EventTwins j k (.adjusts t) (.adjusts t)

/-- Two clients that differ in the numbers of their streams only. -/
def Twins (j k : Nat) (l m : Link) : Prop :=
  l.role = .client ∧ ∃ p, PhaseTwins j k l.phase p ∧ m = { l with phase := p }

namespace PhaseTwins

variable {p q : Phase}

theorem symm (h : PhaseTwins j k p q) : PhaseTwins k j q p := by
  cases h with
  | connected i => exact .connected i
  | reconnecting b => exact .reconnecting b
  | disconnected => exact .disconnected

end PhaseTwins

namespace Twins

variable {l l' m : Link} {e : Event}

theorem symm (h : Twins j k l m) : Twins k j m l := by
  obtain ⟨hr, p, hp, rfl⟩ := h
  exact ⟨hr, l.phase, hp.symm, rfl⟩

theorem stream (h : Twins j k l m) : StreamTwins j k l.stream? m.stream? := by
  obtain ⟨-, p, hp, rfl⟩ := h
  unfold stream?
  generalize l.phase = q at hp
  cases hp with
  | connected i => exact .some i
  | reconnecting b => exact .none
  | disconnected => exact .none

theorem accept {o : Call (Except Failure Bool)} (h : Twins j k l m) (hn : a.Mirrors j k b)
    (ha : l.accept a = (o, l', a')) :
    ∃ m' b', m.accept b = (o, m', b') ∧ Twins j k l' m' ∧ a'.Mirrors j k b' := by
  have htwins := h
  obtain ⟨-, p, hp, rfl⟩ := h
  unfold Link.accept isConnected at ha ⊢
  dsimp only
  generalize hphase : l.phase = q at ha hp
  cases hp with
  | connected i =>
    cases ha
    exact ⟨_, _, rfl, htwins, hn⟩
  | reconnecting x =>
    cases ha
    exact ⟨_, _, rfl, htwins, hn⟩
  | disconnected =>
    cases ha
    exact ⟨_, _, rfl, htwins, hn⟩

theorem tryReconnect {o : Call Bool} (h : Twins j k l m) (hn : a.Mirrors j k b)
    (ha : l.tryReconnect a = (o, l', a')) :
    ∃ m' b', m.tryReconnect b = (o, m', b') ∧ Twins j k l' m' ∧ a'.Mirrors j k b' := by
  have htwins := h
  obtain ⟨hr, p, hp, rfl⟩ := h
  generalize hphase : l.phase = q at hp
  cases hp with
  | connected i =>
    rw [tryReconnect_of_not_reconnecting (by simp [hphase])] at ha
    rw [tryReconnect_of_not_reconnecting (by simp)]
    simp only [isConnected, hphase] at ha
    cases ha
    exact ⟨_, _, rfl, htwins, hn⟩
  | disconnected =>
    rw [tryReconnect_of_not_reconnecting (by simp [hphase])] at ha
    rw [tryReconnect_of_not_reconnecting (by simp)]
    simp only [isConnected, hphase] at ha
    cases ha
    exact ⟨_, _, rfl, htwins, hn⟩
  | reconnecting x =>
    have hsame : ({ l with phase := .reconnecting x } : Link) = l := by rw [← hphase]
    rw [hsame] at htwins ⊢
    unfold Link.tryReconnect at ha ⊢
    split at ha
    · rename_i outage remote hl hm
      rw [← hn.now]
      split at ha <;> rename_i hdue
      · rw [if_pos hdue]
        generalize hopen : openStream remote l.connectTimeout a = w at ha
        obtain ⟨w, mid⟩ := w
        obtain ⟨w', mid', hb, hmid, hw⟩ := openStream_mirrors hn hopen
        rw [hb]
        rcases hw with ⟨i, rfl, rfl⟩ | ⟨rfl, hnone⟩
        · cases ha
          exact ⟨_, _, rfl, ⟨hr, _, .connected i, rfl⟩, hmid⟩
        · rcases w' with (e | s) | _
          · cases ha
            refine ⟨_, _, rfl, ⟨hr, _, .reconnecting _, ?_⟩, hmid⟩
            rw [hmid.now]
          · exact absurd rfl (hnone s)
          · cases ha
            exact ⟨_, _, rfl, htwins, hmid⟩
      · rw [if_neg hdue]
        cases ha
        exact ⟨_, _, rfl, htwins, hn⟩
    · cases ha
      exact ⟨_, _, rfl, htwins, hn⟩

theorem writeFrame {frame : ByteArray} {o : Call (Except Failure Unit)} (h : Twins j k l m)
    (hn : a.Mirrors j k b) (ha : l.writeFrame frame a = (o, l', a')) :
    ∃ m' b', m.writeFrame frame b = (o, m', b') ∧ Twins j k l' m' ∧ a'.Mirrors j k b' := by
  have htwins := h
  obtain ⟨hr, p, hp, rfl⟩ := h
  unfold Link.writeFrame at ha ⊢
  dsimp only
  split at ha <;> rename_i hw
  · rw [if_pos hw]
    cases ha
    exact ⟨_, _, rfl, htwins, hn⟩
  · rw [if_neg hw]
    generalize hphase : l.phase = q at ha hp
    cases hp with
    | connected i =>
      dsimp only at ha ⊢
      generalize hsend : transmit (j + i) l.role.outgoing l.ioTimeout frame a = w at ha
      obtain ⟨outcome, mid⟩ := w
      obtain ⟨mid', hb, hmid⟩ := transmit_mirrors hn hsend
      rw [hb]
      rcases outcome with (f | u) | _ <;> cases ha
      · exact ⟨_, _, rfl, ⟨hr, _, .connected i, rfl⟩, hmid⟩
      · exact ⟨_, _, rfl, htwins, hmid⟩
      · exact ⟨_, _, rfl, ⟨hr, _, .connected i, rfl⟩, hmid⟩
    | reconnecting x =>
      cases ha
      exact ⟨_, _, rfl, htwins, hn⟩
    | disconnected =>
      cases ha
      exact ⟨_, _, rfl, htwins, hn⟩

theorem readFrame {o : Call (Except Failure (Option ByteArray))} (h : Twins j k l m)
    (hn : a.Mirrors j k b) (ha : l.readFrame a = (o, l', a')) :
    ∃ m' b', m.readFrame b = (o, m', b') ∧ Twins j k l' m' ∧ a'.Mirrors j k b' := by
  have htwins := h
  obtain ⟨hr, p, hp, rfl⟩ := h
  unfold Link.readFrame at ha ⊢
  dsimp only
  split at ha <;> rename_i hw
  · rw [if_pos hw]
    cases ha
    exact ⟨_, _, rfl, htwins, hn⟩
  · rw [if_neg hw]
    generalize hphase : l.phase = q at ha hp
    cases hp with
    | connected i =>
      dsimp only at ha ⊢
      rw [← hn.now]
      generalize hgather : gather (j + i) l.role.incoming (a.now + l.ioTimeout) l.accumulator a = w
        at ha
      obtain ⟨outcome, acc, mid⟩ := w
      obtain ⟨mid', hb, hmid⟩ := gather_mirrors hn hgather
      rw [hb]
      cases ha
      exact ⟨_, _, rfl, ⟨hr, _, .connected i, rfl⟩, hmid⟩
    | reconnecting x =>
      cases ha
      exact ⟨_, _, rfl, htwins, hn⟩
    | disconnected =>
      cases ha
      exact ⟨_, _, rfl, htwins, hn⟩

theorem close (h : Twins j k l m) (hn : a.Mirrors j k b) (ha : l.close a = (l', a')) :
    ∃ m' b', m.close b = (m', b') ∧ Twins j k l' m' ∧ a'.Mirrors j k b' := by
  obtain ⟨hr, p, hp, rfl⟩ := h
  unfold Link.close at ha ⊢
  dsimp only at ha ⊢
  generalize l.phase = q at ha hp
  cases hp with
  | connected i =>
    cases ha
    exact ⟨_, _, rfl, ⟨hr, _, .disconnected, rfl⟩, hn.note _ _⟩
  | reconnecting x =>
    cases ha
    exact ⟨_, _, rfl, ⟨hr, _, .disconnected, rfl⟩, hn⟩
  | disconnected =>
    cases ha
    exact ⟨_, _, rfl, ⟨hr, _, .disconnected, rfl⟩, hn⟩

theorem tearDown (h : Twins j k l m) (hn : a.Mirrors j k b) (ha : l.tearDown a = (l', a')) :
    ∃ m' b', m.tearDown b = (m', b') ∧ Twins j k l' m' ∧ a'.Mirrors j k b' := by
  obtain ⟨m', b', hclose, -, hmid⟩ := h.close hn (Prod.eta (l.close a)).symm
  obtain ⟨hr, p, hp, rfl⟩ := h
  have hr' : ({ l with phase := p } : Link).role = .client := hr
  rw [tearDown_client hr] at ha
  rw [tearDown_client hr', hclose, ← hn.now]
  cases ha
  exact ⟨_, _, rfl, ⟨hr, _, .reconnecting _, rfl⟩, hmid⟩

theorem setIoTimeout (h : Twins j k l m) (t : Nat) :
    Twins j k (l.setIoTimeout t) (m.setIoTimeout t) := by
  obtain ⟨hr, p, hp, rfl⟩ := h
  exact ⟨hr, p, hp, rfl⟩

/-- Every operation comes to the same. -/
theorem step (h : Twins j k l m) (hn : a.Mirrors j k b) (hs : Step l a e l' a') :
    ∃ e' m' b', Step m b e' m' b' ∧ EventTwins j k e e' ∧ Twins j k l' m' ∧ a'.Mirrors j k b' := by
  cases hs with
  | accept hs =>
    obtain ⟨m', b', hm, htwins, hmirrors⟩ := h.accept hn hs
    exact ⟨_, m', b', .accept hm, .accepts _, htwins, hmirrors⟩
  | tryReconnect hs =>
    obtain ⟨m', b', hm, htwins, hmirrors⟩ := h.tryReconnect hn hs
    exact ⟨_, m', b', .tryReconnect hm, .reconnects _, htwins, hmirrors⟩
  | writeFrame hs =>
    obtain ⟨m', b', hm, htwins, hmirrors⟩ := h.writeFrame hn hs
    exact ⟨_, m', b', .writeFrame hm, .writes h.stream _ _, htwins, hmirrors⟩
  | readFrame hs =>
    obtain ⟨m', b', hm, htwins, hmirrors⟩ := h.readFrame hn hs
    exact ⟨_, m', b', .readFrame hm, .reads h.stream _, htwins, hmirrors⟩
  | tearDown hs =>
    obtain ⟨m', b', hm, htwins, hmirrors⟩ := h.tearDown hn hs
    exact ⟨_, m', b', .tearDown hm, .tearsDown, htwins, hmirrors⟩
  | close hs =>
    obtain ⟨m', b', hm, htwins, hmirrors⟩ := h.close hn hs
    exact ⟨_, m', b', .close hm, .closes, htwins, hmirrors⟩
  | setIoTimeout t => exact ⟨_, _, _, .setIoTimeout t, .adjusts t, h.setIoTimeout t, hn⟩

end Twins

/-! ## What others do -/

/-- A network to which others have done what they have done to one that is like it. -/
def follow (j k : Nat) (a b : Network) : Network :=
  { b with
    now := a.now
    patience := a.patience
    dials := a.dials
    opened := k + (a.opened - j)
    pipe := fun s d => if k ≤ s then a.pipe (j + (s - k)) d else b.pipe s d }

theorem mirrors_follow (h : j ≤ a.opened) (b : Network) : a.Mirrors j k (follow j k a b) where
  now := rfl
  patience := rfl
  dials := rfl
  opened := ⟨a.opened - j, by omega, rfl⟩
  pipe i d := by
    unfold follow
    dsimp only
    rw [if_pos (Nat.le_add_right k i), Nat.add_sub_cancel_left]

theorem drift_follow {r : Role} (h : a.Mirrors j k b) (hd : a.Drift r a') :
    b.Drift r (follow j k a' b) := by
  have hpipe : ∀ s d, (k ≤ s → ∃ i, (follow j k a' b).pipe s d = a'.pipe (j + i) d ∧
      b.pipe s d = a.pipe (j + i) d) ∧ (¬ k ≤ s → (follow j k a' b).pipe s d = b.pipe s d) := by
    intro s d
    refine ⟨fun hle => ⟨s - k, if_pos hle, ?_⟩, fun hlt => if_neg hlt⟩
    rw [h.pipe, Nat.add_sub_cancel' hle]
  refine ⟨?_, ?_, ?_, ?_⟩
  · intro s
    by_cases hle : k ≤ s
    · obtain ⟨i, hfollow, hb⟩ := (hpipe s r.outgoing).1 hle
      rw [hfollow, hb, hd.written]
    · rw [(hpipe s r.outgoing).2 hle]
  · intro s
    by_cases hle : k ≤ s
    · obtain ⟨i, hfollow, hb⟩ := (hpipe s r.incoming).1 hle
      rw [hfollow, hb, hd.taken]
    · rw [(hpipe s r.incoming).2 hle]
  · intro s
    by_cases hle : k ≤ s
    · obtain ⟨i, hfollow, hb⟩ := (hpipe s r.incoming).1 hle
      rw [hfollow, hb]
      exact hd.grows _
    · exact (hpipe s r.incoming).2 hle ▸ List.prefix_rfl
  · obtain ⟨n, ha, hb⟩ := h.opened
    have hopened := hd.opened
    unfold follow
    dsimp only
    omega

/-- A run of a link is a run of its twin. -/
theorem Twins.run {l l' m : Link} {es : List Event} (h : Twins j k l m) (hn : a.Mirrors j k b)
    (hr : Run l a es l' a') :
    ∃ es' m' b', Run m b es' m' b' ∧ List.Forall₂ (EventTwins j k) es es' ∧ Twins j k l' m' ∧
      a'.Mirrors j k b' := by
  induction hr with
  | nil => exact ⟨[], m, b, .nil, .nil, h, hn⟩
  | call _ hs ih =>
    obtain ⟨es', m₁, b₁, hrun, hevents, htwins, hmirrors⟩ := ih
    obtain ⟨e', m', b', hs', he, htwins', hmirrors'⟩ := htwins.step hmirrors hs
    exact ⟨_, m', b', hrun.call hs', List.rel_append hevents (.cons he .nil), htwins', hmirrors'⟩
  | @drift _ l₁ net net' _ hd ih =>
    obtain ⟨es', m₁, b₁, hrun, hevents, htwins, hmirrors⟩ := ih
    have hopened : j ≤ net'.opened := by
      obtain ⟨n, hj, -⟩ := hmirrors.opened
      have := hd.opened
      omega
    have hrole : m₁.role = l₁.role := by
      obtain ⟨-, p, -, rfl⟩ := htwins
      rfl
    refine ⟨es', m₁, _, hrun.drift ?_, hevents, htwins, mirrors_follow hopened b₁⟩
    rw [hrole]
    exact drift_follow hmirrors hd

end Link
end Courier
