import Courier.Proofs.Link.Barring
import Courier.Proofs.Link.Reading
import Courier.Proofs.Link.Twins

/-!
# A reconnected link is a new one

Nothing of what has been before is left in a link that gets its stream back: the
bytes held are dropped, the mark of a write that was given up went with its
stream, and whatever else it has it was set up with. So it is the link that
connecting anew gives, and on a system that does the same it does the same. What
it hands on from now on comes from streams that it has not had before.
-/

namespace Courier.Link

variable {l₀ l l' m : Link} {net₀ net net' : Network} {e : Event} {tr es : List Event} {s : Nat}

/-! ## What a link is set up with -/

theorem clampIoTimeout_idem (t : Nat) : clampIoTimeout (clampIoTimeout t) = clampIoTimeout t := by
  obtain ⟨hmin, hmax⟩ := clampIoTimeout_mem t
  exact clamp_eq_self hmin hmax

/-- The port that is bound, and how long a call waits. -/
def equipment (l : Link) : Option Nat × Nat := (l.boundPort, l.ioTimeout)

theorem equipment_accept (l : Link) (net : Network) :
    (l.accept net).2.1.equipment = l.equipment := by
  unfold accept
  split
  · split <;> (try split) <;> rfl
  · rfl

theorem equipment_tryReconnect (l : Link) (net : Network) :
    (l.tryReconnect net).2.1.equipment = l.equipment := by
  unfold tryReconnect
  split
  · split
    · split <;> rfl
    · rfl
  · rfl

theorem equipment_writeFrame (l : Link) (frame : ByteArray) (net : Network) :
    (l.writeFrame frame net).2.1.equipment = l.equipment := by
  unfold writeFrame
  split
  · rfl
  · split
    · split <;> rfl
    · rfl

theorem equipment_readFrame (l : Link) (net : Network) :
    (l.readFrame net).2.1.equipment = l.equipment := by
  unfold readFrame
  split
  · rfl
  · split <;> rfl

theorem equipment_tearDown (l : Link) (net : Network) :
    (l.tearDown net).1.equipment = l.equipment := by
  unfold tearDown
  dsimp only
  split <;> rfl

theorem Step.equipment (h : Step l net e l' net') :
    l'.equipment = l.equipment ∨ ∃ t, l' = l.setIoTimeout t := by
  cases h with
  | accept h =>
    have := equipment_accept l net
    rw [h] at this
    exact .inl this
  | tryReconnect h =>
    have := equipment_tryReconnect l net
    rw [h] at this
    exact .inl this
  | @writeFrame frame _ _ _ h =>
    have := equipment_writeFrame l frame net
    rw [h] at this
    exact .inl this
  | readFrame h =>
    have := equipment_readFrame l net
    rw [h] at this
    exact .inl this
  | tearDown h =>
    have := equipment_tearDown l net
    rw [h] at this
    exact .inl this
  | close h =>
    cases h
    exact .inl rfl
  | setIoTimeout t => exact .inr ⟨t, rfl⟩

/-- A client has bound no port, and waits for a time within the bounds. -/
structure Equipped (l : Link) : Prop where
  boundPort : l.role = .client → l.boundPort = none
  ioTimeout : clampIoTimeout l.ioTimeout = l.ioTimeout

theorem Equipped.step (h : Equipped l) (hc : Coherent l net) (hs : Step l net e l' net') :
    Equipped l' := by
  have hrole := (hs.change hc).role
  rcases hs.equipment with heq | ⟨t, rfl⟩
  · obtain ⟨hport, ht⟩ := Prod.mk.inj heq
    exact ⟨fun hr => hport.trans (h.boundPort (hrole ▸ hr)), by rw [ht, h.ioTimeout]⟩
  · exact ⟨h.boundPort, clampIoTimeout_idem t⟩

theorem Start.equipped (h : Start l net) : Equipped l := by
  cases h with
  | listen hu h =>
    obtain ⟨-, port, rfl, -⟩ := of_listen h
    exact ⟨nofun, clampIoTimeout_idem _⟩
  | connect hu h =>
    obtain ⟨-, remote, s, rfl, -⟩ := of_connect h
    exact ⟨fun _ => rfl, clampIoTimeout_idem _⟩

theorem Run.equipped (hc : Coherent l₀ net₀) (hl : Equipped l₀) (h : Run l₀ net₀ tr l net) :
    Equipped l := by
  induction h with
  | nil => exact hl
  | call hr hs ih => exact ih.step (hr.coherent hc) hs
  | drift _ _ ih => exact ih

/-! ## Getting the stream back -/

theorem tryReconnect_true {b : Backoff} (hp : l.phase = .reconnecting b)
    (h : l.tryReconnect net = (.returned true, l', net')) :
    ∃ remote t, l.remote = some remote ∧
      openStream remote l.connectTimeout net = (.returned (.ok t), net') ∧
      l' = { l with phase := .connected t, accumulator := l.accumulator.clear } := by
  unfold tryReconnect at h
  split at h
  · rename_i remote _ hm
    split at h
    · split at h <;> rename_i hopen <;> cases h
      exact ⟨_, _, hm, hopen, rfl⟩
    · cases h
  · have hnot : l.isConnected = false := by simp [isConnected, hp]
    rw [hnot] at h
    cases h

/-- The settings that a link could have been set up with. -/
structure Suits (settings : ClientSettings) (l : Link) : Prop where
  ioTimeout : settings.ioTimeout = l.ioTimeout
  connectTimeout : settings.connectTimeout = l.connectTimeout
  maxFrame : settings.maxFrame = l.maxFrame

/-- The link that has its stream back is one that has just connected. -/
theorem renewed_eq_joined {remote : Address} {t : Nat} {settings : ClientSettings}
    (hr : l.role = .client) (hl : Equipped l) (hw : l.writing = false)
    (hm : l.remote = some remote) (hs : Suits settings l) :
    ({ l with phase := .connected t, accumulator := l.accumulator.clear } : Link) =
      joined settings remote t := by
  obtain ⟨hio, hconnect, hmax⟩ := hs
  unfold joined
  rw [hio, hl.ioTimeout, hconnect, hmax, ← hr, ← hm, ← hl.boundPort hr, ← hw]
  rfl

/-- Two links in the same state, each on its stream. -/
structure Indistinguishable (j k : Nat) (l : Link) (net : Network) (m : Link) (other : Network) :
    Prop where
  there : ∀ es l' net', Run l net es l' net' → ∃ es' m' other', Run m other es' m' other' ∧
    List.Forall₂ (EventTwins j k) es es' ∧ Twins j k l' m' ∧ net'.Mirrors j k other'
  back : ∀ es m' other', Run m other es m' other' → ∃ es' l' net', Run l net es' l' net' ∧
    List.Forall₂ (EventTwins k j) es es' ∧ Twins k j m' l' ∧ other'.Mirrors k j net'

/-- What can be said of a link that has got its stream back, after this history. -/
structure Renewed (tr : List Event) (l : Link) (net : Network) (l' : Link) (net' : Network) :
    Prop where
  /-- It is what connecting to the same peer would have given then. -/
  same : ∀ settings remote others, settings.validate = .ok () → l.remote = some remote →
    net.resolve settings.host settings.port = .ok (remote :: others) → Suits settings l →
    connect settings net = (.returned (.ok l'), net')
  /-- Nor can it be told from one that has connected to this peer elsewhere, if the
  system does the same for both from now on. -/
  elsewhere : ∀ settings there m other s t, connect settings there = (.returned (.ok m), other) →
    m.remote = l.remote → Suits settings l → l'.phase = .connected s → m.phase = .connected t →
    net'.Mirrors s t other → Indistinguishable s t l' net' m other
  /-- What it hands on it has received on a stream that it did not have before. -/
  frames : ∀ es last final, Run l' net' es last final → ∀ t, (∀ e ∈ es, e.on ≠ some t) ∨
    (∀ e ∈ tr, e.on ≠ some t) ∧ (net.pipe t .toClient).taken = 0 ∧
      ∃ left, octets (final.pipe t .toClient).received =
        ((framesOn t es).map octets).flatMap Frame.onWire ++ left
  /-- No write is refused but for one that has failed since then. -/
  writing : ∀ es last final, Run l' net' es last final → last.writing = true →
    ∃ t, last.phase = .connected t ∧ Broken t es

theorem Twins.indistinguishable {j k : Nat} {other : Network} (h : Twins j k l m)
    (hn : net.Mirrors j k other) : Indistinguishable j k l net m other where
  there _ _ _ hr := h.run hn hr
  back _ _ _ hr := h.symm.run hn.symm hr

/-- Streams that a link has had before are not used again after it has got a new one,
and of the others it has seen nothing before. -/
theorem Run.renews (hn : New l₀ net₀) (hr : Run l₀ net₀ tr l net)
    (hnone : ∀ t, l.phase ≠ .connected t) {last : Link} {final : Network}
    (hlater : Run l net es last final) (t : Nat) :
    Gone t last final ∧ (∀ e ∈ es, e.on ≠ some t) ∨ (∀ e ∈ tr, e.on ≠ some t) ∧
      (net.pipe t l.role.incoming).taken = 0 := by
  by_cases hf : l.Fresh net t
  · exact .inr ⟨((hr.sending hn).fresh hf).2, (hr.receiving hn).fresh hf⟩
  · exact .inl (hlater.gone (hr.coherent hn.coherent) ⟨hf, hnone t⟩)

/-- Whatever has been done with a client's link, once it gets its stream back it is as
good as a new one. -/
theorem reconnected_as_new {b : Backoff} (hs : Start l₀ net₀) (hr : Run l₀ net₀ tr l net)
    (hp : l.phase = .reconnecting b) (h : l.tryReconnect net = (.returned true, l', net')) :
    Renewed tr l net l' net' := by
  have hn := hs.new
  have hcoh := hr.coherent hn.coherent
  have hclient := hcoh.reconnecting b hp
  have hequipped := hr.equipped hn.coherent hs.equipped
  have hwf := hcoh.writing_eq_false (by simp [stream?, hp])
  obtain ⟨remote, t, hm, hopen, rfl⟩ := tryReconnect_true hp h
  have hback : Run l net [.reconnects (.returned true)] _ net' := Run.nil.call (.tryReconnect h)
  have hnone : ∀ u, l.phase ≠ .connected u := by simp [hp]
  refine ⟨?_, ?_, ?_, ?_⟩
  · intro settings peer others hvalid hpeer hresolve hsuits
    cases hm.symm.trans hpeer
    rw [renewed_eq_joined hclient hequipped hwf hpeer hsuits]
    unfold connect
    rw [hvalid, net.resolve_eq_ok_iff.mp hresolve, hsuits.connectTimeout]
    dsimp only
    rw [hopen]
  · intro settings there m other s u hconnect hmr hsuits hls hmu hmirrors
    obtain ⟨peer, others, v, -, rfl⟩ := resolve_of_connect hconnect
    cases hls
    cases hmu
    refine Twins.indistinguishable ⟨hclient, _, .connected 0, ?_⟩ hmirrors
    exact (renewed_eq_joined hclient hequipped hwf hmr.symm hsuits).symm
  · intro es last final hlater u
    have hwhole := hr.trans (hback.trans hlater)
    rcases hr.renews hn hnone (hback.trans hlater) u with ⟨-, hoff⟩ | ⟨hoff, htaken⟩
    · exact .inl fun e he => hoff e (List.mem_append_right _ he)
    · obtain ⟨left, hleft, -⟩ := (hwhole.receiving hn (s := u)).received
      have hrole := ((hback.trans hlater).role hcoh).trans hclient
      rw [framesOn_append, framesOn_append, framesOn_eq_nil hoff, hrole] at hleft
      rw [hclient] at htaken
      exact .inr ⟨hoff, htaken, left, hleft⟩
  · intro es last final hlater hw
    have hwhole := hr.trans (hback.trans hlater)
    obtain ⟨u, hu⟩ := (hwhole.coherent hn.coherent).writing hw
    obtain ⟨e, he, hfails⟩ := ((hwhole.sending hn).broken hu).mp hw
    refine ⟨u, hu, e, ?_, hfails⟩
    rcases hr.renews hn hnone (hback.trans hlater) u with ⟨hgone, -⟩ | ⟨hoff, -⟩
    · exact absurd hu hgone.phase
    · rcases List.mem_append.mp he with he | he
      · exact absurd hfails.on_eq (hoff e he)
      · rcases List.mem_cons.mp he with rfl | he
        · cases hfails
        · exact he

/-- A network on which two attempts to connect succeed. -/
def generous : Network := { Network.obliging with dials := [⟨0, .joined⟩, ⟨0, .joined⟩] }

/-- A client next door that has lost its stream. -/
def lost : Link × Network := nearbyLink.tearDown (connect nearby generous).2

theorem run_lost : Start nearbyLink (connect nearby generous).2 ∧
    Run nearbyLink (connect nearby generous).2 [.tearsDown] lost.1 lost.2 := by
  have hu : Network.Untouched .client generous := ⟨fun _ => rfl, fun _ => rfl⟩
  have h : connect nearby generous =
      (.returned (.ok nearbyLink), (connect nearby generous).2) := rfl
  exact ⟨.connect hu h, Run.nil.call (.tearDown (Prod.eta _).symm)⟩

/-- It is back on its second stream what another client is on its first. -/
theorem reconnected_as_new_nearby : ∃ l net, l.phase = .connected 1 ∧
    connect nearby lost.2 = (.returned (.ok l), net) ∧
    Indistinguishable 1 0 l net nearbyLink (connect nearby .obliging).2 := by
  obtain ⟨hs, hr⟩ := run_lost
  have h : lost.1.tryReconnect lost.2 = (.returned true, (lost.1.tryReconnect lost.2).2) := rfl
  have hnew := reconnected_as_new hs hr rfl h
  have hsuits : Suits nearby lost.1 := ⟨rfl, rfl, rfl⟩
  have hmirrors : (lost.1.tryReconnect lost.2).2.2.Mirrors 1 0 (connect nearby .obliging).2 :=
    ⟨rfl, rfl, rfl, ⟨1, rfl, rfl⟩, fun _ _ => rfl⟩
  exact ⟨_, _, rfl, hnew.same nearby _ [] rfl rfl rfl hsuits,
    hnew.elsewhere nearby .obliging nearbyLink _ 1 0 rfl rfl hsuits rfl rfl hmirrors⟩

end Courier.Link
