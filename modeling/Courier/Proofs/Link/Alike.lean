import Courier.Proofs.Frame.Abreast
import Courier.Proofs.Link.Twins
import Courier.Proofs.Net.Alike
import Courier.Proofs.Net.Arrivals

/-!
# Links that hold other bytes

Two links that differ in nothing but the bytes that they hold, on networks on which the
streams are abreast, do the same at the same time. Writing frames of one size gets as
far; reading finds frames that go together. What lies on the streams of one link,
`InFrames`, says in which places the frames are.
-/

namespace Courier

variable {M : Role → ByteArray → ByteArray → Prop} {a a' b b' : Network}

namespace Network

/-- Networks that are alike and whose streams are abreast, each with contents of its
sender. -/
structure Abreast (M : Role → ByteArray → ByteArray → Prop) (a b : Network) : Prop
    extends Alike a b where
  streams : ∀ s r, Frame.Abreast (M r) (octets (a.pipe s r.outgoing).written)
    (octets (b.pipe s r.outgoing).written)

theorem Abreast.of_written (h : Abreast M a b) (halike : Alike a' b')
    (ha : ∀ s d, (a'.pipe s d).written = (a.pipe s d).written)
    (hb : ∀ s d, (b'.pipe s d).written = (b.pipe s d).written) : Abreast M a' b' where
  toAlike := halike
  streams s r := by
    rw [ha, hb]
    exact h.streams s r

theorem Abreast.of_calm (h : Abreast M a b) (halike : Alike a' b') (ha : Calm a a')
    (hb : Calm b b') : Abreast M a' b' :=
  h.of_written halike (fun _ _ => by rw [ha.pipe]) fun _ _ => by rw [hb.pipe]

variable {stream want deadline : Nat} {d : Direction}

theorem unread_read_bytes {bytes : ByteArray}
    (h : a.read stream d want deadline = (.came (.bytes bytes), a')) :
    (a.pipe stream d).unread = octets bytes ++ (a'.pipe stream d).unread := by
  obtain ⟨due, hread⟩ := a.read_came h
  exact Pipe.unread_read hread

theorem unread_read_failed {e : IoError}
    (h : a.read stream d want deadline = (.came (.failed e), a')) :
    (a'.pipe stream d).unread = (a.pipe stream d).unread := by
  obtain ⟨due, hread⟩ := a.read_came h
  obtain ⟨hw, ht⟩ := Pipe.read_failed hread
  rw [Pipe.unread, Pipe.unread, hw, ht]

end Network

namespace Link

variable {l l' m : Link} {s : Nat}

/-! ## Transfers -/

/-- The same answer, or byte strings that go together. -/
inductive Answers (R : ByteArray → ByteArray → Prop) :
    Call (Except Failure (Option ByteArray)) → Call (Except Failure (Option ByteArray)) → Prop
  | same {o : Call (Except Failure (Option ByteArray))}
      (h : ∀ b, o ≠ .returned (.ok (some b))) : Answers R o o
  | bytes {b b' : ByteArray} (h : R b b') :
      Answers R (.returned (.ok (some b))) (.returned (.ok (some b')))

theorem writesAlike_alike (s : Nat) (d : Direction) :
    WritesAlike Network.Alike (fun x y => x.size = y.size) s s d where
  now h := h.now
  size h := h
  rest n h := by rw [ByteArray.size_extract, ByteArray.size_extract, h]
  write h hxy ha := h.write hxy ha

section

variable {R : ByteArray → ByteArray → Prop} {stream deadline : Nat} {d : Direction}
  {acc acc₁ acc' accb : Accumulator} {w : Waited Input} {mid : Network}

theorem read_alike (h : a.Alike b) (hacc : acc.Alike accb)
    (hx : Frame.Abreast R (octets acc.buffer ++ (a.pipe stream d).unread)
      (octets accb.buffer ++ (b.pipe stream d).unread))
    (hpop : acc.pop = (.ok none, acc₁)) (hread : a.read stream d (want acc₁) deadline = (w, mid)) :
    acc₁ = acc ∧ ∃ w' mid', accb.pop = (.ok none, accb) ∧
      b.read stream d (want accb) deadline = (w', mid') ∧ Waited.Pairs Input.Alike w w' ∧
        mid.Alike mid' := by
  have hpops := hacc.pop hx
  rw [hpop] at hpops
  generalize hpopb : accb.pop = v at hpops
  cases hpops
  obtain ⟨w', mid', hb, hpairs, hmid⟩ := h.read hread
  refine ⟨rfl, w', mid', rfl, ?_, hpairs, hmid⟩
  rwa [want, ← hacc.room]

/-- What is held and what is still to come is abreast throughout, so reading finds frames
that go together, or ends in the same way. -/
theorem gather_alike {o : Call (Except Failure (Option ByteArray))} (h : a.Alike b)
    (hacc : acc.Alike accb)
    (hx : Frame.Abreast R (octets acc.buffer ++ (a.pipe stream d).unread)
      (octets accb.buffer ++ (b.pipe stream d).unread))
    (ha : gather stream d deadline acc a = (o, acc', a')) :
    ∃ o' accb' b', gather stream d deadline accb b = (o', accb', b') ∧
      Answers (Frame.Peers R) o o' ∧ acc'.Alike accb' ∧ a'.Alike b' := by
  fun_induction gather stream d deadline acc a generalizing b accb with
  | case1 acc net e acc₁ hpop =>
    have hpops := hacc.pop hx
    rw [hpop] at hpops
    generalize hpopb : accb.pop = v at hpops
    cases hpops
    cases ha
    rw [gather, hpopb]
    exact ⟨_, _, b, rfl, .same (by simp), hacc, h⟩
  | case2 acc net frame acc₁ hpop =>
    have hpops := hacc.pop hx
    rw [hpop] at hpops
    generalize hpopb : accb.pop = v at hpops
    cases hpops with
    | frame hp hr =>
      cases ha
      rw [gather, hpopb]
      exact ⟨_, _, b, rfl, .bytes hp, hr, h⟩
  | case3 acc net acc₁ hpop mid hread =>
    obtain ⟨rfl, w', mid', hpopb, hb, hpairs, hmid⟩ := read_alike h hacc hx hpop hread
    cases hpairs
    cases ha
    rw [gather_of_pop_none hpopb, hb]
    exact ⟨_, _, mid', rfl, .same (by simp), hacc, hmid⟩
  | case4 acc net acc₁ hpop mid hread =>
    obtain ⟨rfl, w', mid', hpopb, hb, hpairs, hmid⟩ := read_alike h hacc hx hpop hread
    cases hpairs
    cases ha
    rw [gather_of_pop_none hpopb, hb]
    exact ⟨_, _, mid', rfl, .same (by simp), hacc, hmid⟩
  | case5 acc net acc₁ hpop mid hread =>
    obtain ⟨rfl, w', mid', hpopb, hb, hpairs, hmid⟩ := read_alike h hacc hx hpop hread
    obtain ⟨hi⟩ := hpairs
    cases hi
    cases ha
    rw [gather_of_pop_none hpopb, hb]
    exact ⟨_, _, mid', rfl, .same (by simp), hacc, hmid⟩
  | case6 acc net acc₁ hpop e mid hread htrans ih =>
    obtain ⟨rfl, w', mid', hpopb, hb, hpairs, hmid⟩ := read_alike h hacc hx hpop hread
    obtain ⟨hi⟩ := hpairs
    cases hi
    rw [gather_of_pop_none hpopb, hb]
    dsimp only
    rw [if_pos htrans]
    refine ih hmid hacc ?_ ha
    rwa [Network.unread_read_failed hread, Network.unread_read_failed hb]
  | case7 acc net acc₁ hpop e mid hread htrans =>
    obtain ⟨rfl, w', mid', hpopb, hb, hpairs, hmid⟩ := read_alike h hacc hx hpop hread
    obtain ⟨hi⟩ := hpairs
    cases hi
    cases ha
    rw [gather_of_pop_none hpopb, hb]
    exact ⟨_, _, mid', if_neg htrans, .same (by simp), hacc, hmid⟩
  | case8 acc net acc₁ hpop bytes mid hread e acc₂ hext =>
    obtain ⟨due, hp⟩ := net.read_came hread
    obtain ⟨-, -, -, hle, -⟩ := Pipe.read_bytes hp
    rw [extend_of_pop_none hpop hle] at hext
    cases hext
  | case9 acc net acc₁ hpop bytes mid hread acc₂ hext ih =>
    obtain ⟨due, hp⟩ := net.read_came hread
    obtain ⟨-, -, -, hle, -⟩ := Pipe.read_bytes hp
    rw [extend_of_pop_none hpop hle] at hext
    cases hext
    obtain ⟨rfl, w', mid', hpopb, hb, hpairs, hmid⟩ := read_alike h hacc hx hpop hread
    obtain ⟨hi⟩ := hpairs
    cases hi with
    | @bytes _ bytes' hsize =>
      obtain ⟨due', hp'⟩ := b.read_came hb
      obtain ⟨-, -, -, hle', -⟩ := Pipe.read_bytes hp'
      rw [gather_of_pop_none hpopb, hb]
      dsimp only
      rw [extend_of_pop_none hpopb hle']
      refine ih hmid ⟨hacc.maxFrame, ?_⟩ ?_ ha
      · rw [ByteArray.size_append, ByteArray.size_append, hacc.size, hsize]
      · rwa [octets_append, octets_append, List.append_assoc, List.append_assoc,
          ← Network.unread_read_bytes hread, ← Network.unread_read_bytes hb]

end

/-! ## Getting and losing a stream -/

theorem calm_accept {o : Call (Except Failure Bool)} (h : l.accept a = (o, l', a')) :
    a.Calm a' := by
  unfold accept at h
  split at h
  · split at h <;> rename_i hvisit <;> have hcalm := Network.calm_welcome hvisit <;>
      (try split at h) <;> cases h <;> exact hcalm
  · cases h
    exact .refl _

theorem calm_tryReconnect {o : Call Bool} (h : l.tryReconnect a = (o, l', a')) : a.Calm a' := by
  unfold tryReconnect at h
  split at h
  · split at h
    · split at h <;> rename_i hopen <;> have hcalm := (calm_openStream hopen).1 <;> cases h <;>
        exact hcalm
    · cases h
      exact .refl _
  · cases h
    exact .refl _

theorem calm_tearDown (h : l.tearDown a = (l', a')) : a.Calm a' := by
  have hcalm : a.Calm (l.close a).2 := Change.calm_close rfl
  unfold tearDown at h
  dsimp only at h
  split at h <;> cases h <;> exact hcalm

theorem openStream_alike {target : Address} {timeout : Nat} {o : Call (Except Failure Nat)}
    (h : a.Alike b) (ha : openStream target timeout a = (o, a')) :
    ∃ b', openStream target timeout b = (o, b') ∧ a'.Alike b' := by
  unfold openStream at ha ⊢
  rw [← h.now]
  split at ha <;> rename_i hdial <;> obtain ⟨mid, hb, hmid⟩ := h.dial hdial <;> rw [hb] <;>
    cases ha <;> exact ⟨_, rfl, hmid⟩

/-! ## Where the frames are -/

/-- What lies on a stream that a link has. It has put whole frames there, unless a write
is left half done; it has taken whole frames, and behind them the bytes that it holds. -/
structure InFrames (s : Nat) (l : Link) (net : Network) : Prop where
  put : l.writing = false → ∃ bodies : List ByteArray, (∀ b ∈ bodies, b.size ≤ Frame.maxDeclared) ∧
    octets (net.pipe s l.role.outgoing).written = (bodies.map octets).flatMap Frame.onWire
  taken : ∃ frames : List ByteArray, (∀ f ∈ frames, f.size ≤ Frame.maxDeclared) ∧
    octets (net.pipe s l.role.incoming).received =
      (frames.map octets).flatMap Frame.onWire ++ octets l.accumulator.buffer

/-- The frames are where they should be, also after operations that transfer nothing. -/
def Tidy (l : Link) (net : Network) : Prop :=
  ∀ es l' net' s, Calls l net es l' net' → (∀ x ∈ es, x.on = none) → l'.phase = .connected s →
    InFrames s l' net'

theorem Tidy.inFrames {net : Network} (h : Tidy l net) (hp : l.phase = .connected s) :
    InFrames s l net :=
  h [] l net s .nil (by simp) hp

theorem Tidy.after {net net' : Network} {es : List Event} (h : Tidy l net)
    (hc : Calls l net es l' net') (hes : ∀ x ∈ es, x.on = none) : Tidy l' net' := by
  intro es' last final s hc' hes' hp
  exact h _ last final s (hc.trans hc') (List.forall_mem_append.mpr ⟨hes, hes'⟩) hp

/-- The same link with as many bytes held. -/
def Alike (l m : Link) : Prop := ∃ acc, l.accumulator.Alike acc ∧ m = { l with accumulator := acc }

/-- Of the streams that two links have what is held and what is to come is abreast. -/
theorem coming_abreast (h : l.Alike m) (hn : a.Abreast M b) (hl : InFrames s l a)
    (hm : InFrames s m b) : Frame.Abreast (M l.role.opposite)
      (octets l.accumulator.buffer ++ (a.pipe s l.role.incoming).unread)
      (octets m.accumulator.buffer ++ (b.pipe s l.role.incoming).unread) := by
  obtain ⟨acc, hacc, rfl⟩ := h
  obtain ⟨frames, hsizes, hl⟩ := hl.taken
  obtain ⟨frames', -, hm⟩ := hm.taken
  dsimp only at hm ⊢
  have hstreams := hn.streams s l.role.opposite
  rw [Role.outgoing_opposite, ← Pipe.received_append_unread, ← Pipe.received_append_unread, hl, hm,
    List.append_assoc, List.append_assoc] at hstreams
  refine hstreams.back hsizes ?_
  have hpipe := hn.pipe s l.role.incoming
  simp only [List.length_append, Pipe.unread, List.length_drop, length_octets, hacc.size,
    hpipe.written, hpipe.taken]

theorem Collects.written_eq {stream : Nat} {d : Direction} {acc acc' : Accumulator}
    {o : Call (Except Failure (Option ByteArray))} (h : Collects stream d acc a o acc' a') (t : Nat)
    (e : Direction) : (a'.pipe t e).written = (a.pipe t e).written := by
  by_cases hte : t = stream ∧ e = d
  · rw [hte.1, hte.2]
    exact h.written
  · rw [h.touches.other t e hte]

theorem Transmitted.isPrefix {frame put : List UInt8} {o : Call (Except Failure Unit)}
    (h : Transmitted frame o put) : put <+: frame := by
  cases h with
  | whole => exact List.prefix_rfl
  | part _ hp _ => exact hp

theorem abreast_of_emits {r : Role} {frame frame' body body' : ByteArray} {bodies : List ByteArray}
    {o o' : Call (Except Failure Unit)} (h : a.Abreast M b) (halike : a'.Alike b')
    (ha : Emits s r.outgoing frame a o a') (hb : Emits s r.outgoing frame' b o' b')
    (hf : octets frame = Frame.onWire (octets body))
    (hf' : octets frame' = Frame.onWire (octets body')) (hp : Frame.Peers (M r) body body')
    (hsizes : ∀ b ∈ bodies, b.size ≤ Frame.maxDeclared)
    (hwhole : octets (a.pipe s r.outgoing).written = (bodies.map octets).flatMap Frame.onWire) :
    a'.Abreast M b' where
  toAlike := halike
  streams t q := by
    by_cases htq : t = s ∧ q = r
    · obtain ⟨rfl, rfl⟩ := htq
      have hstream := h.streams t q
      obtain ⟨put, hput, hdone⟩ := ha.put
      obtain ⟨put', hput', hdone'⟩ := hb.put
      have hlen : put.length = put'.length := by
        have hbefore := (h.pipe t q.outgoing).written
        have hafter := (halike.pipe t q.outgoing).written
        rw [← length_octets, ← length_octets] at hbefore hafter
        rw [hput, hput', List.length_append, List.length_append, hbefore] at hafter
        exact Nat.add_left_cancel hafter
      have hfront := hdone.isPrefix
      have hfront' := hdone'.isPrefix
      rw [hf, List.prefix_iff_eq_take] at hfront
      rw [hf', List.prefix_iff_eq_take, ← hlen] at hfront'
      rw [hwhole] at hstream hput
      rw [hput, hput', hfront, hfront']
      exact hstream.put hsizes hp put.length
    · have hother : ¬(t = s ∧ q.outgoing = r.outgoing) := by
        rintro ⟨rfl, hq⟩
        cases q <;> cases r <;> simp_all [Role.outgoing]
      rw [ha.touches.other t _ hother, hb.touches.other t _ hother]
      exact h.streams t q

namespace Alike

variable {o : Call (Except Failure Unit)}

theorem refl (l : Link) : Alike l l := ⟨_, ⟨rfl, rfl⟩, rfl⟩

theorem role (h : l.Alike m) : m.role = l.role := by
  obtain ⟨acc, -, rfl⟩ := h
  rfl

theorem phase (h : l.Alike m) : m.phase = l.phase := by
  obtain ⟨acc, -, rfl⟩ := h
  rfl

theorem stream (h : l.Alike m) : m.stream? = l.stream? := by
  obtain ⟨acc, -, rfl⟩ := h
  rfl

theorem maxFrame (h : l.Alike m) : m.maxFrame = l.maxFrame := by
  obtain ⟨acc, hacc, rfl⟩ := h
  exact hacc.maxFrame.symm

theorem ioTimeout (h : l.Alike m) : m.ioTimeout = l.ioTimeout := by
  obtain ⟨acc, -, rfl⟩ := h
  rfl

theorem writing (h : l.Alike m) : m.writing = l.writing := by
  obtain ⟨acc, -, rfl⟩ := h
  rfl

theorem isConnected (h : l.Alike m) : m.isConnected = l.isConnected := by
  unfold Link.isConnected
  rw [h.phase]

theorem accept {o : Call (Except Failure Bool)} (h : l.Alike m) (hn : a.Alike b)
    (ha : l.accept a = (o, l', a')) :
    ∃ m' b', m.accept b = (o, m', b') ∧ l'.Alike m' ∧ a'.Alike b' := by
  unfold Link.accept at ha ⊢
  rw [h.phase, h.ioTimeout, h.isConnected, ← hn.now]
  split at ha
  · split at ha <;> rename_i hvisit <;> obtain ⟨mid, hb, hmid⟩ := hn.welcome hvisit <;> rw [hb]
    · cases ha
      exact ⟨_, _, rfl, h, hmid⟩
    · cases ha
      exact ⟨_, _, rfl, h, hmid⟩
    · dsimp only
      split at ha <;> rename_i he <;> cases ha
      · exact ⟨_, _, if_pos he, h, hmid⟩
      · exact ⟨_, _, if_neg he, h, hmid⟩
    · cases ha
      exact ⟨_, _, rfl, h, hmid⟩
    · cases ha
      refine ⟨_, _, rfl, ?_, hmid⟩
      obtain ⟨acc, hacc, rfl⟩ := h
      exact ⟨acc, hacc, rfl⟩
  · cases ha
    exact ⟨_, _, rfl, h, hn⟩

theorem tryReconnect {o : Call Bool} (h : l.Alike m) (hn : a.Alike b)
    (ha : l.tryReconnect a = (o, l', a')) :
    ∃ m' b', m.tryReconnect b = (o, m', b') ∧ l'.Alike m' ∧ a'.Alike b' := by
  have hsame : m.remote = l.remote ∧ m.connectTimeout = l.connectTimeout := by
    obtain ⟨acc, -, rfl⟩ := h
    exact ⟨rfl, rfl⟩
  unfold Link.tryReconnect at ha ⊢
  rw [h.phase, h.isConnected, hsame.1, hsame.2, ← hn.now]
  split at ha
  · split at ha <;> rename_i hdue
    · rw [if_pos hdue]
      split at ha <;> rename_i hopen <;> obtain ⟨mid, hb, hmid⟩ := openStream_alike hn hopen <;>
        rw [hb] <;> cases ha
      · obtain ⟨acc, hacc, rfl⟩ := h
        exact ⟨_, _, rfl, ⟨acc.clear, ⟨hacc.maxFrame, rfl⟩, rfl⟩, hmid⟩
      · refine ⟨_, _, rfl, ?_, hmid⟩
        rw [← hmid.now]
        obtain ⟨acc, hacc, rfl⟩ := h
        exact ⟨acc, hacc, rfl⟩
      · exact ⟨_, _, rfl, h, hmid⟩
    · rw [if_neg hdue]
      cases ha
      exact ⟨_, _, rfl, h, hn⟩
  · cases ha
    exact ⟨_, _, rfl, h, hn⟩

theorem writeFrame {frame frame' body body' : ByteArray} (h : l.Alike m) (hn : a.Abreast M b)
    (hl : Tidy l a) (hf : octets frame = Frame.onWire (octets body))
    (hf' : octets frame' = Frame.onWire (octets body')) (hp : Frame.Peers (M l.role) body body')
    (ha : l.writeFrame frame a = (o, l', a')) :
    ∃ m' b', m.writeFrame frame' b = (o, m', b') ∧ l'.Alike m' ∧ a'.Abreast M b' := by
  unfold Link.writeFrame at ha ⊢
  rw [h.writing, h.phase, h.role, h.ioTimeout]
  split at ha <;> rename_i hw
  · cases ha
    rw [if_pos hw]
    exact ⟨_, _, rfl, h, hn⟩
  · rw [if_neg hw]
    split at ha
    · rename_i s hphase
      have hw : l.writing = false := by simpa using hw
      obtain ⟨bodies, hsizes, hwhole⟩ := (hl.inFrames hphase).put hw
      have hsize : frame.size = frame'.size := by
        rw [← length_octets, ← length_octets, hf, hf', hp.length_onWire_eq]
      generalize hsend : transmit s l.role.outgoing l.ioTimeout frame a = v at ha
      obtain ⟨outcome, mid⟩ := v
      obtain ⟨mid', hb, hmid⟩ := transmit_related (writesAlike_alike s _) hn.toAlike hsize hsend
      have hab := abreast_of_emits hn hmid (transmit_spec hsend) (transmit_spec hb) hf hf' hp
        hsizes hwhole
      rw [hb]
      have hrest := h
      obtain ⟨acc, hacc, rfl⟩ := hrest
      rcases outcome with (f | u) | _ <;> cases ha
      · exact ⟨_, _, rfl, ⟨acc, hacc, rfl⟩, hab⟩
      · exact ⟨_, _, rfl, h, hab⟩
      · exact ⟨_, _, rfl, ⟨acc, hacc, rfl⟩, hab⟩
    · cases ha
      exact ⟨_, _, rfl, h, hn⟩

theorem readFrame {o : Call (Except Failure (Option ByteArray))} (h : l.Alike m)
    (hn : a.Abreast M b) (hl : Tidy l a) (hm : Tidy m b) (ha : l.readFrame a = (o, l', a')) :
    ∃ o' m' b', m.readFrame b = (o', m', b') ∧ Answers (Frame.Peers (M l.role.opposite)) o o' ∧
      l'.Alike m' ∧ a'.Abreast M b' := by
  unfold Link.readFrame at ha ⊢
  rw [h.writing, h.phase, h.role, h.ioTimeout, ← hn.now]
  split at ha <;> rename_i hw
  · cases ha
    rw [if_pos hw]
    exact ⟨_, _, _, rfl, .same (by simp), h, hn⟩
  · rw [if_neg hw]
    split at ha
    · rename_i s hphase
      have hx := coming_abreast h hn (hl.inFrames hphase) (hm.inFrames (h.phase.trans hphase))
      generalize hg : gather s l.role.incoming (a.now + l.ioTimeout) l.accumulator a = v at ha
      obtain ⟨outcome, acc, mid⟩ := v
      cases ha
      have hacc : l.accumulator.Alike m.accumulator := by
        obtain ⟨acc, hacc, rfl⟩ := h
        exact hacc
      obtain ⟨o', acc', b', hb, hanswers, hacc', hmid⟩ := gather_alike hn.toAlike hacc hx hg
      rw [hb]
      refine ⟨_, _, _, rfl, hanswers, ?_, hn.of_written hmid ?_ ?_⟩
      · obtain ⟨acc, -, rfl⟩ := h
        exact ⟨_, hacc', rfl⟩
      · exact (gather_spec hg).written_eq
      · exact (gather_spec hb).written_eq
    · cases ha
      exact ⟨_, _, _, rfl, .same (by simp), h, hn⟩

theorem close (h : l.Alike m) (hn : a.Alike b) (ha : l.close a = (l', a')) :
    ∃ m' b', m.close b = (m', b') ∧ l'.Alike m' ∧ a'.Alike b' := by
  unfold Link.close at ha ⊢
  rw [h.phase]
  cases ha
  refine ⟨_, _, rfl, ?_, ?_⟩
  · obtain ⟨acc, hacc, rfl⟩ := h
    exact ⟨acc, hacc, rfl⟩
  · split
    · exact hn.note _ _
    · exact hn

theorem tearDown (h : l.Alike m) (hn : a.Alike b) (ha : l.tearDown a = (l', a')) :
    ∃ m' b', m.tearDown b = (m', b') ∧ l'.Alike m' ∧ a'.Alike b' := by
  obtain ⟨m', b', hclose, hlike, hmid⟩ := h.close hn (Prod.eta (l.close a)).symm
  cases hr : l.role with
  | client =>
    rw [tearDown_client hr] at ha
    rw [tearDown_client (h.role.trans hr), hclose, ← hn.now]
    cases ha
    refine ⟨_, _, rfl, ?_, hmid⟩
    obtain ⟨acc, hacc, rfl⟩ := h
    exact ⟨acc, hacc, rfl⟩
  | server =>
    rw [tearDown_server hr] at ha
    rw [tearDown_server (h.role.trans hr)]
    exact h.close hn ha

theorem setIoTimeout (h : l.Alike m) (t : Nat) : (l.setIoTimeout t).Alike (m.setIoTimeout t) := by
  obtain ⟨acc, hacc, rfl⟩ := h
  exact ⟨acc, hacc, rfl⟩

end Alike

end Link
end Courier
