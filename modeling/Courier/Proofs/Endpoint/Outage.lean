import Courier.Proofs.Endpoint.Faults
import Courier.Proofs.Endpoint.Lifecycle
import Courier.Proofs.Link.Outage

/-!
# A client in an outage

Sending and receiving both begin with an attempt to get the stream back, and what
they do with a stream that is there asks the system for none. So whichever of them
a client is made to do while it has no stream, the attempts keep to the rule of the
waits; and a stream that is lost again begins an outage of its own.
-/

namespace Courier.Endpoint

open Simulation (SampleCipher)

variable {κ α : Type} [Cipher κ] {e₀ e e' e₁ e₂ : Endpoint κ α}
  {net₀ net net' net₁ net₂ : Network} {hist : List Event} {ev : Event} {fs : List Nat} {lost : Nat}

/-! ## One call -/

theorem tries_served {l l₁ l₂ l' : Link} (hfirst : Link.Attempt l net (.returned true) l₁ net₁)
    (hr : l₁.role = .client) (hturn : Link.Turn l₁ net₁ l₂ net₂) (hp : l₂.phase = l₁.phase)
    (h : (l', net') = (l₂, net₂) ∨ (l', net') = l₂.tearDown net₂) :
    Link.Tries l net (.returned true) l' net' := by
  obtain ⟨s, hs⟩ := Link.isConnected_iff.mp hfirst.isConnected
  have hasks : ∀ {l net l' net'}, Link.Turn l net l' net' → l.phase = .connected s →
      net.Asks (fun act => ∃ t, act = .releases t) net' := by
    intro l net l' net' ht hphase
    refine ht.asks.mono fun act hdue => ?_
    cases act with
    | binds => exact hdue.elim
    | dials =>
      obtain ⟨-, b, hb⟩ := hdue
      rw [hphase] at hb
      cases hb
    | opens =>
      obtain ⟨⟨b, hb⟩, -⟩ := hdue
      rw [hphase] at hb
      cases hb
    | releases t => exact ⟨t, rfl⟩
  rcases h with h | h
  · cases h
    exact .served hfirst (hasks hturn hs) (.inl hp)
  · have hs' := hp.trans hs
    have hgiven := Link.Turn.of_tearDown (Link.isConnected_iff.mpr ⟨s, hs'⟩) h.symm
    refine .served hfirst ((hasks hturn hs).trans (hasks hgiven hs')) (.inr ?_)
    have hnow := Link.now_close l₂ net₂
    rw [Link.tearDown_client (hturn.role.trans hr)] at h
    cases h
    rw [hnow]

theorem tries_receive [Scalar α] {o : Call (Except Failure Received)}
    (hr : e.link.role = .client) (hl : e.link.phase ≠ .listening)
    (hm : e.link.remote.isSome = true) (h : e.receive net = (o, e', net')) :
    ∃ a, Link.Tries e.link net a e'.link net' ∧ (a = .abandoned → o = .abandoned) := by
  have hkept : (∀ b, e.link.phase ≠ .reconnecting b) →
      Link.Attempt e.link net (.returned e.link.isConnected) e.link net := .needless
  rcases receive_cases h with ⟨e₁, net₁, ha, hconn⟩ | ⟨link, hmiss, rfl⟩
  · have hfirst : Link.Attempt e.link net (.returned true) e₁.link net₁ := by
      have hstream := ha.isConnected
      cases ha with
      | held hp =>
        have hheld := hkept (by simp [hp])
        rwa [hstream] at hheld
      | visited hp => exact absurd hp hl
      | rejoined hp h => exact Link.attempt_of_tryReconnect hm h
    have hread : e₁.link.readFrame net₁ =
        ((e₁.link.readFrame net₁).1, (e₁.link.readFrame net₁).2) := rfl
    exact ⟨_, tries_served hfirst (ha.role.trans hr) (.of_readFrame hread)
      (Link.phase_readFrame _ _) (link_receiveConnected hconn), nofun⟩
  · cases hmiss with
    | unvisited hp => exact absurd hp hl
    | apart hp h ho =>
      exact ⟨_, .apart (Link.attempt_of_tryReconnect hm h) ho, fun ha => by rw [ha]; rfl⟩
    | closed hp => exact ⟨_, (hkept (by simp [hp])).tries, nofun⟩

omit [Cipher κ] in
theorem prepare_client {o : Call Unit} (hr : e.link.role = .client)
    (h : e.prepare net = (o, e₁, net₁)) :
    ∃ a, e.link.tryReconnect net = (a, e₁.link, net₁) ∧ o = a.map fun _ => () := by
  unfold prepare at h
  rw [hr] at h
  cases h
  exact ⟨_, rfl, rfl⟩

theorem tries_send {payload : ByteArray} {o : Call (Except Failure Sent)}
    (hr : e.link.role = .client) (hm : e.link.remote.isSome = true)
    (h : e.send payload net = (o, e', net')) :
    ∃ a, Link.Tries e.link net a e'.link net' ∧ (a = .abandoned → o = .abandoned) := by
  rcases send_cases h with ⟨e₁, net₁, hp, hconn⟩ | ⟨hprep, ho⟩ | ⟨e₁, hprep, hnone, hlink, -⟩
  · obtain ⟨a, ha, hdone⟩ := prepare_client hr hp.prepare
    have hstream := hp.isConnected
    cases a with
    | abandoned => cases hdone
    | returned b =>
      rw [Link.isConnected_tryReconnect ha] at hstream
      subst hstream
      have hfirst := Link.attempt_of_tryReconnect hm ha
      rcases link_sendConnected hconn with hsame | ⟨frame, hlink⟩
      · obtain ⟨hlink, rfl⟩ := Prod.mk.inj hsame
        rw [hlink]
        exact ⟨_, hfirst.tries, nofun⟩
      · have hwrite : e₁.link.writeFrame frame net₁ =
            ((e₁.link.writeFrame frame net₁).1, (e₁.link.writeFrame frame net₁).2) := rfl
        exact ⟨_, tries_served hfirst (hp.role.trans hr) (.of_writeFrame hwrite)
          (Link.phase_writeFrame _ _ _) hlink, nofun⟩
  · obtain ⟨a, ha, -⟩ := prepare_client hr hprep
    exact ⟨a, (Link.attempt_of_tryReconnect hm ha).tries, fun _ => ho⟩
  · obtain ⟨a, ha, hdone⟩ := prepare_client hr hprep
    rw [hlink]
    refine ⟨a, (Link.attempt_of_tryReconnect hm ha).tries, fun habandoned => ?_⟩
    subst habandoned
    cases hdone

theorem receive_early [Scalar α] {b : Backoff} (hp : e.link.phase = .reconnecting b)
    (hd : net.now < b.next) : e.receive net = (.returned (.ok .nothingYet), e, net) := by
  unfold receive
  rw [hp]
  dsimp only
  rw [Link.tryReconnect_early hp hd]

theorem send_early {payload : ByteArray} {b : Backoff} (hr : e.link.role = .client)
    (hp : e.link.phase = .reconnecting b) (hd : net.now < b.next) :
    e.send payload net =
      (.returned (.ok .dropped), { e with sendFault := some .reconnecting }, net) := by
  unfold send prepare
  rw [hr]
  dsimp only
  rw [Link.tryReconnect_early hp hd]
  dsimp only [Call.map]
  rw [hp]

/-! ## Whole outages -/

/-- A completed call of `send` or of `receive`. -/
def Completes [Scalar α] (e : Endpoint κ α) (net : Network) (e' : Endpoint κ α) (net' : Network) :
    Prop :=
  (∃ payload r, e.send payload net = (.returned r, e', net')) ∨
    ∃ r, e.receive net = (.returned r, e', net')

/-- What can be said of a client at any moment of an outage. -/
structure Waits [Scalar α] (lost : Nat) (fs : List Nat) (e : Endpoint κ α) (net : Network) :
    Prop where
  isConnected : e.link.isConnected = false
  attempts : e.link.attempts = some (min fs.length 4294967295)
  sends : ∀ payload o e' net', e.send payload net = (o, e', net') →
    Link.Disciplined lost fs net net'
      (o = .returned (.ok .dropped) ∧ e' = { e with sendFault := some .reconnecting })
  receives : ∀ o e' net', e.receive net = (o, e', net') →
    Link.Disciplined lost fs net net' (o = .returned (.ok .nothingYet) ∧ e' = e)

theorem waits_of_apart [Scalar α] (ha : Link.Apart lost fs e.link) : Waits lost fs e net where
  isConnected := ha.isConnected
  attempts := ha.attempts
  sends payload o e' net' h := by
    obtain ⟨a, htries, -⟩ := tries_send ha.role ha.remote h
    refine htries.disciplined ha fun hlt => ?_
    rw [← Backoff.next_course] at hlt
    rw [send_early ha.role ha.phase hlt] at h
    cases h
    exact ⟨rfl, rfl⟩
  receives o e' net' h := by
    obtain ⟨a, htries, -⟩ := tries_receive ha.role (by simp [ha.phase]) ha.remote h
    refine htries.disciplined ha fun hlt => ?_
    rw [← Backoff.next_course] at hlt
    rw [receive_early ha.phase hlt] at h
    cases h
    exact ⟨rfl, rfl⟩

theorem Completes.link [Scalar α] (ha : Link.Apart lost fs e.link) (h : Completes e net e' net') :
    ∃ o, Link.Tries e.link net o e'.link net' ∧ o ≠ .abandoned := by
  rcases h with ⟨payload, r, h⟩ | ⟨r, h⟩
  · obtain ⟨a, htries, hdone⟩ := tries_send ha.role ha.remote h
    exact ⟨a, htries, fun habandoned => by cases hdone habandoned⟩
  · obtain ⟨a, htries, hdone⟩ := tries_receive ha.role (by simp [ha.phase]) ha.remote h
    exact ⟨a, htries, fun habandoned => by cases hdone habandoned⟩

/-- A client loses its stream in a call that began with one, or got one. -/
structure Loses [Scalar α] (e : Endpoint κ α) (net : Network) (e' : Endpoint κ α)
    (net' : Network) : Prop where
  step : ∃ ev, Step e net ev e' net' ∧ ev ≠ .closes
  before : e.link.isConnected = true ∨ net.Opens net'
  after : e'.link.isConnected = false

/-- Whatever stream it was, the outage begins anew, at the moment at which it was lost. -/
theorem Loses.apart [Scalar α] (hclient : e₀.link.role = .client) (hlived : Lived e₀ hist e net)
    (h : Loses e net e' net') : Link.Apart net'.now [] e'.link := by
  obtain ⟨⟨ev, hs, hev⟩, hbefore, hafter⟩ := h
  have hrole := hlived.later.role.trans hclient
  have hremote := hlived.placed.client hrole
  have hlistening : e.link.phase ≠ .listening := by
    intro hp
    rw [(hlived.placed.listening hp).1] at hrole
    cases hrole
  have hlater := hlived.call hs
  have hrole' := hlater.later.role.trans hclient
  refine ⟨hrole', hlater.placed.client hrole', ?_⟩
  -- a call that does nothing to the link leaves it connected
  have hidle : net' = net → e'.link.phase = e.link.phase → False := by
    rintro rfl hp
    rcases hbefore with hstream | hopens
    · rw [isConnected_of_phase_eq hp, hstream] at hafter
      cases hafter
    · exact Network.not_opens_self _ hopens
  cases hs with
  | send h =>
    obtain ⟨a, htries, -⟩ := tries_send hrole hremote h
    exact htries.of_loss hbefore hafter
  | receive h =>
    obtain ⟨a, htries, -⟩ := tries_receive hrole hlistening hremote h
    exact htries.of_loss hbefore hafter
  | close => exact absurd rfl hev
  | setIoTimeout => exact (hidle rfl rfl).elim
  | setLastRoundTrip => exact (hidle rfl rfl).elim

theorem Run.waits [Scalar α] (hs : Start e₀ net₀) (hclient : e₀.link.role = .client)
    (hr : Run e₀ net₀ hist e net) (hloss : Loses e net e₁ net₁)
    (h : Outage Completes e₁ net₁ fs e₂ net₂) : Waits net₁.now fs e₂ net₂ := by
  have hlived := hr.lived hs.link.new.coherent hs.link.placed
  exact waits_of_apart (.outage Endpoint.link (hloss.apart hclient hlived) h Completes.link)

/-- The waits between attempts grow, up to five seconds; and in every outage of a client,
of its link used by itself or with calls of `send` and `receive`, whatever the system does
and whenever it is called, attempts are made when the wait since the last one is over, and
not before. -/
theorem backoff_kept [Scalar α] :
    (∀ j k, j ≤ k → Backoff.wait j ≤ Backoff.wait k ∧ Backoff.wait k ≤ millis 5000) ∧
    (∀ l₀ net₀ tr l net l₁ net₁ fs l₂ net₂, Link.Start l₀ net₀ → l₀.role = .client →
      Link.Run l₀ net₀ tr l net → l.tearDown net = (l₁, net₁) →
      Outage Link.Retries l₁ net₁ fs l₂ net₂ → Link.Waits net₁.now fs l₂ net₂) ∧
    ∀ (e₀ : Endpoint κ α) net₀ hist e net e₁ net₁ fs e₂ net₂, Start e₀ net₀ →
      e₀.link.role = .client → Run e₀ net₀ hist e net → Loses e net e₁ net₁ →
      Outage Completes e₁ net₁ fs e₂ net₂ → Waits net₁.now fs e₂ net₂ := by
  refine ⟨?_, ?_, ?_⟩
  · exact fun j k h => ⟨Backoff.wait_mono h, Backoff.wait_le_maxDelay k⟩
  · exact fun _ _ _ _ _ _ _ _ _ _ hs hclient hr hloss h => hr.waits hs hclient hloss h
  · exact fun _ _ _ _ _ _ _ _ _ _ hs hclient hr hloss h => hr.waits hs hclient hloss h

/-- A network on which a stream ends at once, and after that an attempt to connect fails
before one succeeds. -/
def wavering : Network where
  pipe _ _ := { arrivals := [⟨0, .ended⟩], uptakes := [⟨0, .room 1000⟩] }
  dials := [⟨0, .joined⟩, ⟨0, .failed ⟨.connectionRefused, none⟩⟩, ⟨0, .joined⟩]
  binding _ := .ok 9000
  lookup _ := .error "unknown name"

/-- The link of a client next door, given up, and after its first attempt to reconnect. -/
def givenUp : Link × Network := Link.nearbyLink.tearDown (Link.connect Link.nearby wavering).2

def retried : Link × Network := (givenUp.1.tryReconnect givenUp.2).2

/-- A client next door when its stream has ended, and after its first attempt to reconnect. -/
def bereft : Endpoint SampleCipher Rat × Network :=
  (waiting.receive (Link.connect Link.nearby wavering).2).2

def retrying : Endpoint SampleCipher Rat × Network := (bereft.1.receive bereft.2).2

theorem outage_retried : Outage Link.Retries givenUp.1 givenUp.2 [0] retried.1 retried.2 := by
  have hasked : givenUp.2.since retried.2 = [⟨0, .dials ⟨.v4 127 0 0 1, 9000⟩⟩] := rfl
  have hvain : ¬ givenUp.2.Opens retried.2 := by simp [Network.Opens, hasked]
  have hcall : Link.Retries givenUp.1 givenUp.2 retried.1 retried.2 := ⟨false, rfl⟩
  exact Outage.begins.call hcall hvain

theorem outage_retrying : Outage Completes bereft.1 bereft.2 [0] retrying.1 retrying.2 := by
  have hasked : bereft.2.since retrying.2 = [⟨0, .dials ⟨.v4 127 0 0 1, 9000⟩⟩] := by decide +kernel
  have hnow : retrying.2.now = 0 := by decide +kernel
  have hvain : ¬ bereft.2.Opens retrying.2 := by simp [Network.Opens, hasked]
  have ho : (bereft.1.receive bereft.2).1 = .returned (.ok .nothingYet) := by with_unfolding_all rfl
  have hcall : Completes bereft.1 bereft.2 retrying.1 retrying.2 := .inr ⟨_, Prod.ext ho rfl⟩
  have h := Outage.begins.call hcall hvain
  rwa [Network.dialled, hasked, hnow] at h

theorem loses_bereft : Loses waiting (Link.connect Link.nearby wavering).2 bereft.1 bereft.2 where
  step := ⟨_, .receive rfl, nofun⟩
  before := .inl rfl
  after := by decide +kernel

/-- One attempt has failed, of a link that was given up and of a client that has lost its
stream in a call of `receive`; the next is due after 200 milliseconds. -/
theorem backoff_kept_wavering : Backoff.deadline 0 [0] = millis 200 ∧
    Link.Waits 0 [0] retried.1 retried.2 ∧ Waits 0 [0] retrying.1 retrying.2 := by
  obtain ⟨-, hlink, hendpoint⟩ := @backoff_kept SampleCipher Rat _ _
  have hu : Network.Untouched .client wavering := ⟨fun _ => rfl, fun _ => rfl⟩
  have hnow : bereft.2.now = 0 := by decide +kernel
  have hl : Link.connect Link.nearby wavering =
      (.returned (.ok Link.nearbyLink), (Link.connect Link.nearby wavering).2) := rfl
  have he : Endpoint.client Link.nearby (.masked 7) wavering =
      (.returned (.ok waiting), (Link.connect Link.nearby wavering).2) := rfl
  refine ⟨rfl, ?_, ?_⟩
  · exact hlink _ _ _ _ _ _ _ _ _ _ (.connect hu hl) rfl .nil rfl outage_retried
  · have hwaits := hendpoint _ _ _ _ _ _ _ _ _ _ (.client hu he) rfl .nil loses_bereft
      outage_retrying
    rwa [hnow] at hwaits

end Courier.Endpoint
