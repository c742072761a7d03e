import Courier.Proofs.Endpoint.Receiving
import Courier.Proofs.Endpoint.Run
import Courier.Proofs.Endpoint.Sending
import Courier.Proofs.Link.Course

/-!
# The life of an endpoint

Whatever is called on an endpoint, its link makes the moves of its role and no
others, and only closing it does more. Nothing brings it back from the end: after
it every call leaves the link and the network as they are. So a server has one
peer in its life, and a client keeps the server that it was set up for.
-/

namespace Courier.Endpoint

open Simulation (SampleCipher)

variable {κ α : Type} [Cipher κ] {e₀ e e' e₁ : Endpoint κ α} {net₀ net net' net₁ : Network}
  {hist : List Event} {ev : Event}

/-! ## One call -/

theorem isConnected_of_phase_eq {l l' : Link} (h : l'.phase = l.phase) :
    l'.isConnected = l.isConnected := by
  unfold Link.isConnected
  rw [h]

theorem goes_of_transfer {l l₁ l' : Link} {first : Link.Event}
    (hs : Link.Step l net first l₁ net₁) (ht : Link.Turn l net l₁ net₁)
    (hconn : l₁.isConnected = true)
    (h : (l', net') = (l₁, net₁) ∨ (l', net') = l₁.tearDown net₁) :
    ∃ es, Link.Goes l net es l' net' := by
  have hfirst := Link.Goes.single hs ht
  rcases h with h | h
  · cases h
    exact ⟨_, hfirst⟩
  · exact ⟨_, hfirst.trans (.single (.tearDown h.symm) (.of_tearDown hconn h.symm))⟩

theorem goes_receiveConnected [Scalar α] {o : Call (Except Failure Received)}
    (hs : e.link.isConnected = true)
    (h : e.receiveConnected net = (o, e', net')) :
    ∃ es, Link.Goes e.link net es e'.link net' := by
  have hread : e.link.readFrame net = ((e.link.readFrame net).1, (e.link.readFrame net).2) := rfl
  refine goes_of_transfer (.readFrame hread) (.of_readFrame hread) ?_ (link_receiveConnected h)
  rw [isConnected_of_phase_eq (Link.phase_readFrame _ _), hs]

theorem goes_sendConnected {payload : ByteArray} {o : Call (Except Failure Sent)}
    (hs : e.link.isConnected = true)
    (h : e.sendConnected payload net = (o, e', net')) :
    ∃ es, Link.Goes e.link net es e'.link net' := by
  rcases link_sendConnected h with heq | ⟨frame, hlink⟩
  · obtain ⟨hlink, rfl⟩ := Prod.mk.inj heq
    rw [hlink]
    exact ⟨[], .nil⟩
  · have hwrite : e.link.writeFrame frame net =
        ((e.link.writeFrame frame net).1, (e.link.writeFrame frame net).2) := rfl
    refine goes_of_transfer (.writeFrame hwrite) (.of_writeFrame hwrite) ?_ hlink
    rw [isConnected_of_phase_eq (Link.phase_writeFrame _ _ _), hs]

theorem goes_accept {l l' : Link} {o : Call (Except Failure Bool)} (hc : Link.Coherent l net)
    (h : l.accept net = (o, l', net')) : Link.Goes l net [.accepts o] l' net' :=
  .single (.accept h) (.of_accept hc h)

theorem goes_tryReconnect {l l' : Link} {o : Call Bool} (hc : Link.Coherent l net)
    (h : l.tryReconnect net = (o, l', net')) : Link.Goes l net [.reconnects o] l' net' :=
  .single (.tryReconnect h) (.of_tryReconnect hc h)

omit [Cipher κ] in
theorem Attends.goes (hc : Link.Coherent e.link net) (h : Attends e net e₁ net₁) :
    ∃ es, Link.Goes e.link net es e₁.link net₁ := by
  cases h with
  | held => exact ⟨[], .nil⟩
  | visited _ h => exact ⟨_, goes_accept hc h⟩
  | rejoined _ h => exact ⟨_, goes_tryReconnect hc h⟩

omit [Cipher κ] in
theorem Misses.goes {o : Call (Except Failure Received)} {link : Link}
    (hc : Link.Coherent e.link net) (h : Misses e net o link net') :
    ∃ es, Link.Goes e.link net es link net' := by
  cases h with
  | unvisited _ h => exact ⟨_, goes_accept hc h⟩
  | apart _ h => exact ⟨_, goes_tryReconnect hc h⟩
  | closed => exact ⟨[], .nil⟩

omit [Cipher κ] in
theorem goes_prepare {o : Call Unit} (hc : Link.Coherent e.link net)
    (h : e.prepare net = (o, e₁, net₁)) : ∃ es, Link.Goes e.link net es e₁.link net₁ := by
  unfold prepare at h
  split at h
  · cases h
    exact ⟨[], .nil⟩
  · dsimp only at h
    cases h
    exact ⟨_, goes_tryReconnect hc rfl⟩

theorem goes_receive [Scalar α] {o : Call (Except Failure Received)}
    (hc : Link.Coherent e.link net) (h : e.receive net = (o, e', net')) :
    ∃ es, Link.Goes e.link net es e'.link net' := by
  rcases receive_cases h with ⟨e₁, net₁, ha, hconn⟩ | ⟨link, hm, rfl⟩
  · obtain ⟨es, hfirst⟩ := ha.goes hc
    obtain ⟨es', hrest⟩ := goes_receiveConnected ha.isConnected hconn
    exact ⟨_, hfirst.trans hrest⟩
  · exact hm.goes hc

theorem goes_send {payload : ByteArray} {o : Call (Except Failure Sent)}
    (hc : Link.Coherent e.link net) (h : e.send payload net = (o, e', net')) :
    ∃ es, Link.Goes e.link net es e'.link net' := by
  rcases send_cases h with ⟨e₁, net₁, hp, hconn⟩ | ⟨hprep, -⟩ | ⟨e₁, hprep, -, hlink, -⟩
  · obtain ⟨es, hfirst⟩ := goes_prepare hc hp.prepare
    obtain ⟨es', hrest⟩ := goes_sendConnected hp.isConnected hconn
    exact ⟨_, hfirst.trans hrest⟩
  · exact goes_prepare hc hprep
  · rw [hlink]
    exact goes_prepare hc hprep

/-- Every call but `close` is made of moves of the role. -/
theorem Step.goes [Scalar α] (hc : Link.Coherent e.link net) (h : Step e net ev e' net')
    (hev : ev ≠ .closes) : ∃ es, Link.Goes e.link net es e'.link net' := by
  cases h with
  | send h => exact goes_send hc h
  | receive h => exact goes_receive hc h
  | close h => exact absurd rfl hev
  | setIoTimeout t => exact ⟨_, .single (.setIoTimeout t) (Link.turn_setIoTimeout t)⟩
  | setLastRoundTrip ms => exact ⟨[], .nil⟩

/-! ## After the end -/

/-- What a call says after the end: that there is nobody to send to, and nobody to
receive from. -/
def Event.Refuses (r : Role) : Event → Prop
  | .sends _ _ o => o = .returned (.ok .notConnected)
  | .receives _ o => o = .returned (.error (closedFailure r))
  | _ => True

/-- Closing a link lets go of its stream at most. -/
structure Closes (l : Link) (net : Network) (l' : Link) (net' : Network) : Prop where
  phase : l'.phase = .disconnected
  remote : l'.remote = l.remote
  asks : net.Asks (fun act => ∃ s, act = .releases s ∧ l.phase = .connected s) net'

theorem Step.closes [Scalar α] (h : Step e net .closes e' net') :
    e'.link = (e.link.close net).1 ∧ Closes e.link net e'.link net' := by
  cases h with
  | close h =>
    unfold Endpoint.close at h
    cases h
    exact ⟨rfl, rfl, rfl, Link.Turn.asks_close fun s hp => ⟨s, rfl, hp⟩⟩

/-- After the end nothing happens any more. -/
structure Ended (r : Role) (l : Link) (net : Network) (ev : Event) (l' : Link) (net' : Network) :
    Prop where
  phase : l'.phase = .disconnected
  remote : l'.remote = l.remote
  network : net' = net
  refuses : ev.Refuses r

theorem Step.ended [Scalar α] (hp : e.link.phase = .disconnected) (h : Step e net ev e' net') :
    Ended e.link.role e.link net ev e'.link net' := by
  cases h with
  | send h =>
    unfold Endpoint.send at h
    rw [prepare_of_not_reconnecting (by simp [hp])] at h
    dsimp only at h
    rw [hp] at h
    cases h
    exact ⟨hp, rfl, rfl, rfl⟩
  | receive h =>
    rcases receive_cases h with ⟨e₁, net₁, ha, -⟩ | ⟨link, hm, rfl⟩
    · cases ha with
      | held hs => rw [hp] at hs; cases hs
      | visited hs => rw [hp] at hs; cases hs
      | rejoined hs => rw [hp] at hs; cases hs
    · cases hm with
      | unvisited hs => rw [hp] at hs; cases hs
      | apart hs => rw [hp] at hs; cases hs
      | closed => exact ⟨hp, rfl, rfl, rfl⟩
  | close h =>
    unfold Endpoint.close Link.close at h
    rw [hp] at h
    cases h
    exact ⟨rfl, rfl, rfl, trivial⟩
  | setIoTimeout t => exact ⟨hp, rfl, rfl, trivial⟩
  | setLastRoundTrip ms => exact ⟨hp, rfl, rfl, trivial⟩

/-! ## A whole run -/

theorem Step.coherent [Scalar α] (hc : Link.Coherent e.link net) (h : Step e net ev e' net') :
    Link.Coherent e'.link net' := by
  obtain ⟨es, hdoes⟩ := h.does keeps_true trivial
  exact hdoes.calls.run.coherent hc

/-- What a run leaves of a life. -/
structure Lived (e : Endpoint κ α) (hist : List Event) (e' : Endpoint κ α) (net' : Network) :
    Prop where
  coherent : Link.Coherent e'.link net'
  placed : Link.Placed e'.link
  later : Link.Later e.link e'.link
  /-- A client ends only by being closed. -/
  closed : e.link.role = .client → e'.link.phase = .disconnected →
    e.link.phase = .disconnected ∨ .closes ∈ hist

theorem Lived.call [Scalar α] (h : Lived e₀ hist e net) (hs : Step e net ev e' net') :
    Lived e₀ (hist ++ [ev]) e' net' := by
  have hcoh := hs.coherent h.coherent
  by_cases hev : ev = .closes
  · subst hev
    obtain ⟨hlink, -⟩ := hs.closes
    refine ⟨hcoh, ?_, ?_, fun _ _ => .inr (by simp)⟩
    · rw [hlink]
      exact Link.placed_close h.placed
    · rw [hlink]
      exact h.later.trans (Link.later_close _ _)
  · obtain ⟨es, hgoes⟩ := hs.goes h.coherent hev
    obtain ⟨hplaced, hlater, hopen⟩ := hgoes.spec h.placed
    refine ⟨hcoh, hplaced, h.later.trans hlater, fun hr hp => ?_⟩
    rcases h.closed hr (hopen (h.later.role.trans hr) hp) with hp | hmem
    · exact .inl hp
    · exact .inr (List.mem_append_left _ hmem)

theorem Run.lived [Scalar α] (hc : Link.Coherent e₀.link net₀) (hp : Link.Placed e₀.link)
    (h : Run e₀ net₀ hist e net) : Lived e₀ hist e net := by
  induction h with
  | nil => exact ⟨hc, hp, .refl _, fun _ hp => .inl hp⟩
  | call _ hs ih => exact ih.call hs
  | drift _ hd ih => exact ⟨ih.coherent.drift hd, ih.placed, ih.later, ih.closed⟩

/-- What can be said of the life of an endpoint from some moment on. -/
structure Conforms [Scalar α] (e : Endpoint κ α) (net : Network) : Prop where
  /-- A call is made of moves. -/
  moves : ∀ ev e' net', Step e net ev e' net' → ev ≠ .closes →
    ∃ es, Link.Goes e.link net es e'.link net'
  closes : ∀ e' net', Step e net .closes e' net' → Closes e.link net e'.link net'
  /-- After the end there are none. -/
  ended : e.link.phase = .disconnected → ∀ ev e' net', Step e net ev e' net' →
    Ended e.link.role e.link net ev e'.link net'
  later : ∀ hist e' net', Run e net hist e' net' → Link.Later e.link e'.link ∧
    (e.link.role = .client → e'.link.phase = .disconnected →
      e.link.phase = .disconnected ∨ .closes ∈ hist)

theorem Lived.dials [Scalar α] {a : Address} (h : Lived e₀ hist e net)
    (hm : e.link.remote = some a) (hs : Step e net ev e' net') :
    net.Asks (fun act => ∀ b, act = .dials b → b = a) net' := by
  by_cases hev : ev = .closes
  · subst hev
    refine hs.closes.2.asks.mono ?_
    rintro act ⟨s, rfl, -⟩
    nofun
  · obtain ⟨es, hgoes⟩ := hs.goes h.coherent hev
    exact hgoes.dials h.placed hm

theorem Lived.conforms [Scalar α] (h : Lived e₀ hist e net) : Conforms e net where
  moves _ _ _ hs hev := hs.goes h.coherent hev
  closes _ _ hs := hs.closes.2
  ended hp _ _ _ hs := hs.ended hp
  later _ _ _ hr := by
    have hlived := hr.lived h.coherent h.placed
    exact ⟨hlived.later, hlived.closed⟩

omit [Cipher κ] in
theorem link_of_server [Scalar α] {settings : ServerSettings} {cipher : κ}
    (h : Endpoint.server settings cipher net = (.ok e, net')) :
    ∃ port, e.link = Link.listening settings port := by
  unfold Endpoint.server at h
  split at h <;> rename_i hl <;> cases h
  obtain ⟨-, port, rfl, -⟩ := Link.of_listen hl
  exact ⟨port, rfl⟩

omit [Cipher κ] in
theorem link_of_client [Scalar α] {settings : ClientSettings} {cipher : κ}
    (h : Endpoint.client settings cipher net = (.returned (.ok e), net')) :
    ∃ remote others s, net.resolve settings.host settings.port = .ok (remote :: others) ∧
      e.link = Link.joined settings remote s := by
  unfold Endpoint.client at h
  split at h <;> rename_i hl <;> cases h
  exact Link.resolve_of_connect hl

/-- A server at any moment of its life. -/
structure ServerLife [Scalar α] (e : Endpoint κ α) (net : Network) : Prop where
  role : e.link.role = .server
  phase : ∀ b, e.link.phase ≠ .reconnecting b
  alone : e.link.phase = .listening → e.link.remote = none
  met : ∀ s, e.link.phase = .connected s → e.link.remote.isSome = true
  conforms : Conforms e net

/-- A client at any moment of its life, after these calls. -/
structure ClientLife [Scalar α] (peer : Address) (hist : List Event) (e : Endpoint κ α)
    (net : Network) : Prop where
  role : e.link.role = .client
  phase : e.link.phase ≠ .listening
  closed : e.link.phase = .disconnected → .closes ∈ hist
  remote : e.link.remote = some peer
  dials : ∀ ev e' net', Step e net ev e' net' →
    net.Asks (fun act => ∀ a, act = .dials a → a = peer) net'
  conforms : Conforms e net

/-- Whatever is called and however the system behaves, a server and a client live the
lives of their roles, from being set up on. -/
theorem life_conforms [Scalar α] :
    (∀ settings (cipher : κ) net (e₀ : Endpoint κ α) net₀ hist e net',
      Network.Untouched .server net →
      Endpoint.server settings cipher net = (.ok e₀, net₀) → Run e₀ net₀ hist e net' →
      e₀.link.phase = .listening ∧ ServerLife e net') ∧
    ∀ settings (cipher : κ) net (e₀ : Endpoint κ α) net₀ hist e net',
      Network.Untouched .client net →
      Endpoint.client settings cipher net = (.returned (.ok e₀), net₀) → Run e₀ net₀ hist e net' →
      ∃ peer others, net.resolve settings.host settings.port = .ok (peer :: others) ∧
        (∃ s, e₀.link.phase = .connected s) ∧ ClientLife peer hist e net' := by
  constructor
  · intro settings cipher net e₀ net₀ hist e net' hu h hr
    have hs : Start e₀ net₀ := .server hu h
    have hlived := hr.lived hs.link.new.coherent hs.link.placed
    obtain ⟨port, hlink⟩ := link_of_server h
    have hrole : e.link.role = .server := by rw [hlived.later.role, hlink]; rfl
    have hplaced := hlived.placed
    refine ⟨by rw [hlink]; rfl, hrole, ?_, ?_, ?_, hlived.conforms⟩
    · intro b hb
      rw [hplaced.reconnecting b hb] at hrole
      cases hrole
    · exact fun hp => (hplaced.listening hp).2
    · exact fun s hp => hplaced.met (by simp [hp]) (by simp [hp])
  · intro settings cipher net e₀ net₀ hist e net' hu h hr
    have hs : Start e₀ net₀ := .client hu h
    have hlived := hr.lived hs.link.new.coherent hs.link.placed
    obtain ⟨remote, others, s, hresolve, hlink⟩ := link_of_client h
    have hrole : e.link.role = .client := by rw [hlived.later.role, hlink]; rfl
    have hremote : e.link.remote = some remote := hlived.later.remote remote (by rw [hlink]; rfl)
    refine ⟨remote, others, hresolve, ⟨s, by rw [hlink]; rfl⟩, hrole, ?_, ?_, hremote,
      fun _ _ _ hs => hlived.dials hremote hs, hlived.conforms⟩
    · intro hp
      rw [(hlived.placed.listening hp).1] at hrole
      cases hrole
    · intro hp
      rcases hlived.closed (by rw [hlink]; rfl) hp with hp | hmem
      · rw [hlink] at hp
        cases hp
      · exact hmem

/-- A server that waits, and a client next door that has been closed. -/
theorem life_conforms_obliging :
    (∃ (e : Endpoint SampleCipher Rat) (net : Network),
      e.link.phase = .listening ∧ ServerLife e net) ∧
    ∃ (e : Endpoint SampleCipher Rat) (net : Network),
      e.link.phase = .disconnected ∧ ClientLife ⟨.v4 127 0 0 1, 9000⟩ [.closes] e net := by
  obtain ⟨hserver, hclient⟩ := @life_conforms SampleCipher Rat _ _
  constructor
  · have h : Endpoint.server {} (SampleCipher.masked 7) .obliging =
        (.ok (ofLink (Link.listening {} 9000) (.masked 7) 0 : Endpoint SampleCipher Rat),
          (Link.listen {} Network.obliging).2) := rfl
    obtain ⟨hp, hlife⟩ := hserver _ _ _ _ _ _ _ _ (Network.untouched_obliging _) h .nil
    exact ⟨_, _, hp, hlife⟩
  · have h : Endpoint.client Link.nearby (SampleCipher.masked 7) .obliging =
        (.returned (.ok (ofLink Link.nearbyLink (.masked 7) 0 : Endpoint SampleCipher Rat)),
          (Link.connect Link.nearby .obliging).2) := rfl
    obtain ⟨peer, others, hresolve, -, hlife⟩ := hclient _ _ _ _ _ _ _ _
      (Network.untouched_obliging _) h (Run.nil.call (.close (Prod.eta _).symm))
    have hfirst : Network.obliging.resolve "127.0.0.1" 9000 =
        .ok [⟨.v4 127 0 0 1, 9000⟩] := by decide +kernel
    cases hfirst.symm.trans hresolve
    exact ⟨_, _, rfl, hlife⟩

end Courier.Endpoint
