import Courier.Proofs.Endpoint.Outage
import Courier.Proofs.Timing.Samples

/-!
# Where echoes come from

A stamp gets into the place of the pending one when a message is received, and goes
out of it with the next message that is sent. So an echo is the stamp of the latest
message received, moved on by the time it was held, and none is sent twice. Nothing
clears the place when a stream is lost: until then the echo goes back on the stream
that its stamp came from, but a stamp that is pending at a loss goes out on the next
stream.
-/

namespace Courier

theorem Echo.take_eq_some {echo : Echo} {now : Nat} {x : UInt16} (h : (echo.take now).1 = some x) :
    ∃ stamp came, echo.pending = some (stamp, came) ∧ now - came < Echo.holdLimit ∧
      x = stamp + UInt16.ofNat (wholeMillis (now - came)) := by
  obtain ⟨stamp, came, hpending, hheld, hx, -⟩ := take_eq_some_iff.mp h
  exact ⟨stamp, came, hpending, hheld, hx⟩

namespace Endpoint

open Simulation (SampleCipher)

variable {κ α : Type} [Cipher κ] {e₀ e e' e₁ : Endpoint κ α} {net₀ net net' net₁ : Network}
  {hist : List Event} {ev : Event} {payload : ByteArray} {stamp : UInt16} {came s : Nat}

/-! ## One call -/

/-- A call of `receive` takes a message off a stream. -/
structure Hears [Scalar α] (e : Endpoint κ α) (net : Network) (s : Nat) (record : Record)
    (e' : Endpoint κ α) (net' : Network) : Prop where
  receive : e.receive net = (.returned (.ok (.payload record.payload)), e', net')
  read : ∃ e₁ net₁ frame link, Attends e net e₁ net₁ ∧ e₁.link.phase = .connected s ∧
    e₁.link.readFrame net₁ = (.returned (.ok (some frame)), link, net') ∧
    (openFrame { e₁ with link } frame).1 = .ok record
  phase : e'.link.phase = .connected s

theorem echo_receiveRecord [Scalar α] {r : Call (Except Failure (Option ByteArray))}
    (h : e.receiveRecord net = (r, e', net')) :
    (∀ p, r ≠ .returned (.ok (some p))) ∧ e'.echo = e.echo ∨
      ∃ frame link record, e.link.readFrame net = (.returned (.ok (some frame)), link, net') ∧
        (openFrame { e with link } frame).1 = .ok record ∧
        r = .returned (.ok (some record.payload)) ∧ e'.link = link ∧
        e'.echo.pending = some (record.stamp, net'.now) := by
  unfold receiveRecord at h
  generalize hread : e.link.readFrame net = w at h
  obtain ⟨o, link, after⟩ := w
  rcases o with (f | _ | frame) | _
  · cases h
    exact .inl ⟨nofun, rfl⟩
  · cases h
    exact .inl ⟨nofun, rfl⟩
  · dsimp only at h
    have hsnd := openFrame_snd { e with link } frame
    generalize hopen : openFrame { e with link } frame = opened at h hsnd
    obtain ⟨f | record, e₁⟩ := opened
    · subst hsnd
      cases h
      exact .inl ⟨nofun, rfl⟩
    · simp only [Prod.mk.injEq] at h
      subst hsnd
      obtain ⟨rfl, rfl, rfl⟩ := h
      exact .inr ⟨frame, link, record, rfl, by rw [hopen], rfl, rfl, rfl⟩
  · cases h
    exact .inl ⟨nofun, rfl⟩

theorem echo_receive [Scalar α] {o : Call (Except Failure Received)}
    (h : e.receive net = (o, e', net')) :
    (∀ p, o ≠ .returned (.ok (.payload p))) ∧ e'.echo = e.echo ∨
      ∃ t record, Hears e net t record e' net' ∧
        e'.echo.pending = some (record.stamp, net'.now) := by
  rcases receive_cases h with ⟨e₁, net₁, ha, hconn⟩ | ⟨link, hm, rfl⟩
  · have hsame := ha.echo
    unfold receiveConnected at hconn
    generalize hrecord : e₁.receiveRecord net₁ = w at hconn
    obtain ⟨r, e₂, after⟩ := w
    rcases echo_receiveRecord hrecord with ⟨hnone, hecho⟩ | ⟨frame, link, record, hread, hopen, rfl,
      hlink, hpending⟩
    · rw [hsame] at hecho
      split at hconn <;> rename_i heq <;> cases heq
      · cases hconn
        exact .inl ⟨nofun, hecho⟩
      · exact absurd rfl (hnone _)
      · cases hconn
        exact .inl ⟨nofun, hecho⟩
      · dsimp only [lose] at hconn
        split at hconn <;> cases hconn <;> exact .inl ⟨nofun, hecho⟩
    · cases hconn
      obtain ⟨t, hp, hp'⟩ := Link.readFrame_some hread
      have hhears : Hears e net t record _ _ :=
        ⟨h, ⟨e₁, net₁, frame, link, ha, hp, hread, hopen⟩, hlink ▸ hp'⟩
      exact .inr ⟨t, record, hhears, hpending⟩
  · exact .inl ⟨hm.unheard, rfl⟩

theorem pending_pack (e : Endpoint κ α) (payload : ByteArray) (now : Nat) :
    (e.pack payload now).2.echo.pending = none := by
  have hused := e.echo.pending_take now
  unfold pack stamp
  dsimp only
  split
  · exact hused
  · split <;> exact hused

theorem pending_sendConnected {o : Call (Except Failure Sent)}
    (h : e.sendConnected payload net = (o, e', net')) : e'.echo.pending = none := by
  have hused := pending_pack e payload net.now
  cases sendConnected_delivers h with
  | refused hp => rwa [hp] at hused
  | abandoned hp hw => rwa [hp] at hused
  | sent hp hw => rwa [hp] at hused
  | lost hp hw => rwa [hp] at hused

omit [Cipher κ] in
theorem echo_prepare {o : Call Unit} (h : e.prepare net = (o, e', net')) : e'.echo = e.echo := by
  unfold prepare at h
  split at h <;> cases h <;> rfl

theorem echo_send {o : Call (Except Failure Sent)} (h : e.send payload net = (o, e', net')) :
    o ≠ .returned (.ok .sent) ∧ e'.echo = e.echo ∨ e'.echo.pending = none := by
  unfold send at h
  generalize hprep : e.prepare net = w at h
  obtain ⟨r, e₁, after⟩ := w
  have hecho := echo_prepare hprep
  cases r with
  | abandoned =>
    cases h
    exact .inl ⟨nofun, hecho⟩
  | returned u =>
    dsimp only at h
    split at h
    · exact .inr (pending_sendConnected h)
    · cases h
      exact .inl ⟨nofun, hecho⟩
    · cases h
      exact .inl ⟨nofun, hecho⟩
    · cases h
      exact .inl ⟨nofun, hecho⟩

/-! ## Since a message was heard -/

theorem sent?_eq_none {stream : Option Nat} {o : Call (Except Failure Sent)}
    (ho : o ≠ .returned (.ok .sent)) (t : Nat) : (Event.sends stream payload o).sent? t = none := by
  unfold Event.sent?
  split
  · rename_i heq
    cases heq
    exact absurd rfl ho
  · rfl

theorem received?_eq_none {stream : Option Nat} {o : Call (Except Failure Received)}
    (ho : ∀ p, o ≠ .returned (.ok (.payload p))) (t : Nat) :
    (Event.receives stream o).received? t = none := by
  unfold Event.received?
  split
  · rename_i heq
    cases heq
    exact absurd rfl (ho _)
  · rfl

/-- The stamp of a message that was heard in a run, and when, with none heard or sent since. -/
def Heard [Scalar α] (e₀ : Endpoint κ α) (net₀ : Network) (e : Endpoint κ α) (net : Network)
    (stamp : UInt16) (came : Nat) : Prop :=
  ∃ before a neta s record b netb since, Run e₀ net₀ before a neta ∧ Hears a neta s record b netb ∧
    Run b netb since e net ∧ (∀ ev ∈ since, ∀ t, ev.sent? t = none ∧ ev.received? t = none) ∧
    record.stamp = stamp ∧ netb.now = came

theorem Heard.call [Scalar α] (h : Heard e₀ net₀ e net stamp came) (hs : Step e net ev e' net')
    (hev : ∀ t, ev.sent? t = none ∧ ev.received? t = none) :
    Heard e₀ net₀ e' net' stamp came := by
  obtain ⟨before, a, neta, s, record, b, netb, since, hbefore, hhears, hsince, hquiet, hrest⟩ := h
  refine ⟨before, a, neta, s, record, b, netb, since ++ [ev], hbefore, hhears, hsince.call hs,
    fun x hx => ?_, hrest⟩
  rcases List.mem_append.mp hx with hx | hx
  · exact hquiet x hx
  · rw [List.mem_singleton.mp hx]
    exact hev

theorem Heard.drift [Scalar α] (h : Heard e₀ net₀ e net stamp came)
    (hd : net.Drift e.link.role net') : Heard e₀ net₀ e net' stamp came := by
  obtain ⟨before, a, neta, s, record, b, netb, since, hbefore, hhears, hsince, hrest⟩ := h
  exact ⟨before, a, neta, s, record, b, netb, since, hbefore, hhears, hsince.drift hd, hrest⟩

omit [Cipher κ] in
theorem Start.pending [Scalar α] (h : Start e net) : e.echo.pending = none := by
  cases h with
  | server hu h =>
    unfold Endpoint.server at h
    split at h <;> cases h
    rfl
  | client hu h =>
    unfold Endpoint.client at h
    split at h <;> cases h
    rfl

/-- What is pending was heard in the run. -/
theorem Run.heard [Scalar α] (hs : Start e₀ net₀) (h : Run e₀ net₀ hist e net)
    (hpending : e.echo.pending = some (stamp, came)) : Heard e₀ net₀ e net stamp came := by
  -- a call that leaves a stamp pending has set it, or else has neither heard nor sent anything
  induction h with
  | nil =>
    rw [hs.pending] at hpending
    cases hpending
  | call hr hstep ih =>
    cases hstep with
    | send h =>
      rcases echo_send h with ⟨ho, hecho⟩ | hused
      · exact (ih (hecho ▸ hpending)).call (.send h) fun t => ⟨sent?_eq_none ho t, rfl⟩
      · rw [hused] at hpending
        cases hpending
    | receive h =>
      rcases echo_receive h with ⟨ho, hecho⟩ | ⟨t, record, hhears, hnew⟩
      · exact (ih (hecho ▸ hpending)).call (.receive h) fun t => ⟨rfl, received?_eq_none ho t⟩
      · rw [hnew] at hpending
        cases hpending
        exact ⟨_, _, _, t, record, _, _, [], hr, hhears, .nil, by simp, rfl, rfl⟩
    | close h =>
      cases h
      exact (ih hpending).call (.close rfl) fun _ => ⟨rfl, rfl⟩
    | setIoTimeout t => exact (ih hpending).call (.setIoTimeout t) fun _ => ⟨rfl, rfl⟩
    | setLastRoundTrip ms => exact (ih hpending).call (.setLastRoundTrip ms) fun _ => ⟨rfl, rfl⟩
  | drift _ hd ih => exact (ih hpending).drift hd

/-! ## The stream that it came on -/

theorem Step.keeps_or_loses [Scalar α] (hp : e.link.phase = .connected s)
    (h : Step e net ev e' net') (hev : ev ≠ .closes) :
    e'.link.phase = .connected s ∨ e'.link.isConnected = false := by
  have hgiven : ∀ l net, (Link.tearDown l net).1.isConnected = false :=
    fun l net => (Link.givenUp_tearDown l net).isConnected_eq_false
  have hstream : e.link.isConnected = true := Link.isConnected_iff.mpr ⟨s, hp⟩
  cases h with
  | send h =>
    have hprepares : Prepares e net e net := ⟨prepare_of_not_reconnecting (by simp [hp]), hstream⟩
    rw [hprepares.send_eq] at h
    rcases link_sendConnected h with hsame | ⟨frame, hwrites | hloses⟩
    · exact .inl ((congrArg (·.1.phase) hsame).trans hp)
    · exact .inl ((congrArg (·.1.phase) hwrites).trans ((Link.phase_writeFrame _ _ _).trans hp))
    · exact .inr ((congrArg (·.1.isConnected) hloses).trans (hgiven _ _))
  | receive h =>
    rw [(Attends.held hp).receive_eq] at h
    rcases link_receiveConnected h with hreads | hloses
    · exact .inl ((congrArg (·.1.phase) hreads).trans ((Link.phase_readFrame _ _).trans hp))
    · exact .inr ((congrArg (·.1.isConnected) hloses).trans (hgiven _ _))
  | close => exact absurd rfl hev
  | setIoTimeout => exact .inl hp
  | setLastRoundTrip => exact .inl hp

/-- A stream is lost in a call of a run. -/
def LosesBetween [Scalar α] (e : Endpoint κ α) (net : Network) (e' : Endpoint κ α)
    (net' : Network) : Prop :=
  ∃ before a neta b netb since, Run e net before a neta ∧ Loses a neta b netb ∧
    Run b netb since e' net'

/-- Whoever had a stream still has it, or has been closed, or has lost one. -/
theorem Run.keeps_or_loses [Scalar α] (hp : e₀.link.phase = .connected s)
    (h : Run e₀ net₀ hist e net) : e.link.phase = .connected s ∨ e.link.phase = .disconnected ∨
      LosesBetween e₀ net₀ e net := by
  -- a loss in the past stays one, and what is closed has no stream to lose
  induction h with
  | nil => exact .inl hp
  | @call _ e e' net net' ev hr hs ih =>
    rcases ih with hkept | hclosed | ⟨before, a, neta, b, netb, since, hbefore, hloses, hsince⟩
    · by_cases hev : ev = .closes
      · subst hev
        exact .inr (.inl hs.closes.2.phase)
      · rcases hs.keeps_or_loses hkept hev with hkept' | hlost
        · exact .inl hkept'
        · have hstream : e.link.isConnected = true := Link.isConnected_iff.mpr ⟨s, hkept⟩
          exact .inr (.inr ⟨_, _, _, _, _, [], hr, ⟨⟨ev, hs, hev⟩, .inl hstream, hlost⟩, .nil⟩)
    · exact .inr (.inl (hs.ended hclosed).phase)
    · exact .inr (.inr ⟨before, a, neta, b, netb, _, hbefore, hloses, hsince.call hs⟩)
  | drift hr hd ih =>
    rcases ih with hkept | hclosed | ⟨before, a, neta, b, netb, since, hbefore, hloses, hsince⟩
    · exact .inl hkept
    · exact .inr (.inl hclosed)
    · exact .inr (.inr ⟨before, a, neta, b, netb, _, hbefore, hloses, hsince.drift hd⟩)

/-! ## Echoes -/

/-- In every run a record that is sent echoes nothing, or else the latest message received, which
came less than a second ago and has not been echoed before. It is sent on the stream on
which that message came, unless a stream has been lost in between. -/
theorem echoes_heard [Scalar α] (hs : Start e₀ net₀) (hr : Run e₀ net₀ hist e net)
    (hp : Prepares e net e₁ net₁) (payload : ByteArray) :
    (e₁.stamp payload net₁.now).1.echo = none ∨
      ∃ before a neta s record b netb since, Run e₀ net₀ before a neta ∧
        Hears a neta s record b netb ∧ Run b netb since e net ∧
        (∀ ev ∈ since, ∀ t, ev.sent? t = none ∧ ev.received? t = none) ∧
        net₁.now - netb.now < millis 1000 ∧
        (e₁.stamp payload net₁.now).1.echo =
          some (record.stamp + UInt16.ofNat (wholeMillis (net₁.now - netb.now))) ∧
        (e₁.link.phase = .connected s ∨ LosesBetween b netb e net) := by
  have hsame : e₁.echo = e.echo := echo_prepare hp.prepare
  have htake : (e₁.stamp payload net₁.now).1.echo = (e.echo.take net₁.now).1 := by
    rw [← hsame]
    rfl
  rw [htake]
  cases hx : (e.echo.take net₁.now).1 with
  | none => exact .inl rfl
  | some x =>
    obtain ⟨stamp, came, hpending, hheld, rfl⟩ := Echo.take_eq_some hx
    obtain ⟨before, a, neta, s, record, b, netb, since, hbefore, hhears, hsince, hquiet, rfl,
      rfl⟩ := hr.heard hs hpending
    refine .inr ⟨before, a, neta, s, record, b, netb, since, hbefore, hhears, hsince, hquiet, hheld,
      rfl, ?_⟩
    rcases hsince.keeps_or_loses hhears.phase with hkept | hclosed | hlost
    · have hidle : e.prepare net = (.returned (), e, net) :=
        prepare_of_not_reconnecting (by simp [hkept])
      cases hp.prepare.symm.trans hidle
      exact .inl hkept
    · have hidle : e.prepare net = (.returned (), e, net) :=
        prepare_of_not_reconnecting (by simp [hclosed])
      cases hp.prepare.symm.trans hidle
      have hstream := hp.isConnected
      simp [Link.isConnected, hclosed] at hstream
    · exact .inr hlost

/-- A network on which one message comes, stamped 7, before the stream ends, and on which
a second attempt to connect succeeds. -/
def relapsing : Network where
  pipe s d :=
    if s = 0 ∧ d = .toClient then
      { written := packed [0, 0, 0, 6, 1, 0, 7, 255, 255, 9]
        arrivals := [⟨0, .upTo 10⟩, ⟨0, .ended⟩] }
    else { uptakes := [⟨0, .room 1000⟩] }
  dials := [⟨0, .joined⟩, ⟨0, .joined⟩]
  binding _ := .ok 9000
  lookup _ := .error "unknown name"

/-- A client next door that seals nothing. -/
def unsealed : Endpoint SampleCipher Rat := ofLink Link.nearbyLink (.plain none none) 0

/-- It has heard the message, and the stamp is pending. -/
def informed : Endpoint SampleCipher Rat × Network :=
  (unsealed.receive (Link.connect Link.nearby relapsing).2).2

/-- It has lost the stream on which the stamp came. -/
def relapsed : Endpoint SampleCipher Rat × Network := (informed.1.receive informed.2).2

/-- It has sent a message on the next stream. -/
def resumed : Endpoint SampleCipher Rat × Network :=
  (relapsed.1.send (packed [1]) relapsed.2).2

theorem untouched_relapsing : Network.Untouched .client relapsing := by
  constructor
  · intro s
    simp [relapsing, Role.outgoing]
  · intro s
    unfold relapsing
    dsimp only
    split <;> rfl

theorem start_unsealed : Start unsealed (Link.connect Link.nearby relapsing).2 := by
  have h : Endpoint.client Link.nearby (.plain none none) relapsing =
      (.returned (.ok unsealed), (Link.connect Link.nearby relapsing).2) := rfl
  exact .client untouched_relapsing h

theorem run_relapsed : Run unsealed (Link.connect Link.nearby relapsing).2
    [.receives (some 0) (.returned (.ok (.payload (packed [9])))),
      .receives none (.returned (.ok .nothingYet))] relapsed.1 relapsed.2 := by
  have hfirst : (unsealed.receive (Link.connect Link.nearby relapsing).2).1 =
      .returned (.ok (.payload (packed [9]))) := by with_unfolding_all rfl
  have hsecond : (informed.1.receive informed.2).1 = .returned (.ok .nothingYet) := by
    with_unfolding_all rfl
  have hstream : informed.1.link.stream? = some 0 := by decide +kernel
  have hnone : relapsed.1.link.stream? = none := by decide +kernel
  rw [← hstream, ← hnone]
  exact (Run.nil.call (.receive (Prod.ext hfirst rfl))).call (.receive (Prod.ext hsecond rfl))

/-- The stamp that goes out on the second stream has been heard in the run. -/
theorem echoes_heard_relapsing : ∃ a neta s record b netb since,
    Hears a neta s record b netb ∧ Run b netb since relapsed.1 relapsed.2 ∧
      7 = record.stamp + UInt16.ofNat (wholeMillis (resumed.2.now - netb.now)) := by
  have ho : (relapsed.1.prepare relapsed.2).1 = .returned () := by decide +kernel
  have hprepares : Prepares relapsed.1 relapsed.2 (relapsed.1.prepare relapsed.2).2.1
      (relapsed.1.prepare relapsed.2).2.2 := ⟨Prod.ext ho rfl, by decide +kernel⟩
  have hecho : ((relapsed.1.prepare relapsed.2).2.1.stamp (packed [1])
      (relapsed.1.prepare relapsed.2).2.2.now).1.echo = some 7 := by decide +kernel
  have hnow : (relapsed.1.prepare relapsed.2).2.2.now = resumed.2.now := by decide +kernel
  rcases echoes_heard start_unsealed run_relapsed hprepares (packed [1]) with
    hnone | ⟨-, a, neta, s, record, b, netb, since, -, hhears, hsince, -, -, hx, -⟩
  · rw [hecho] at hnone
    cases hnone
  · rw [hecho, hnow] at hx
    exact ⟨a, neta, s, record, b, netb, since, hhears, hsince, Option.some.inj hx⟩

/-- A stamp crosses from one stream to the next: the record that a client sends on its second
stream echoes the stamp 7, and nothing has been received on that stream. -/
theorem echo_crosses_streams : ∃ (e₀ e e' : Endpoint SampleCipher Rat) (net₀ net net' : Network),
    Start e₀ net₀ ∧ e₀.link.role = .client ∧
    Run e₀ net₀ [.receives (some 0) (.returned (.ok (.payload (packed [9])))),
      .receives none (.returned (.ok .nothingYet))] e net ∧
    e.send (packed [1]) net = (.returned (.ok .sent), e', net') ∧
    e'.link.phase = .connected 1 ∧ (net'.pipe 1 .toClient).taken = 0 ∧
    octets (net'.pipe 1 .toServer).written =
      Frame.onWire (octets (Record.encode ⟨.toServer, 0, some 7, packed [1]⟩)) := by
  have hsent : (relapsed.1.send (packed [1]) relapsed.2).1 = .returned (.ok .sent) := by
    decide +kernel
  have hphase : resumed.1.link.phase = .connected 1 := by decide +kernel
  have htaken : (resumed.2.pipe 1 .toClient).taken = 0 := by decide +kernel
  have hwritten : octets (resumed.2.pipe 1 .toServer).written =
      Frame.onWire (octets (Record.encode ⟨.toServer, 0, some 7, packed [1]⟩)) := by decide +kernel
  exact ⟨_, _, _, _, _, _, start_unsealed, rfl, run_relapsed, Prod.ext hsent rfl, hphase, htaken,
    hwritten⟩

end Endpoint
end Courier
