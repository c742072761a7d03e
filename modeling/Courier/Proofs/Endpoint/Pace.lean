import Courier.Proofs.Endpoint.Echoes
import Courier.Proofs.Endpoint.Timely
import Courier.Proofs.Link.Pace

/-!
# Sending and the clock

A call of `send` makes one attempt to get the stream back, if that is due, and then
waits for each piece of its frame. `Paced` says how the clock goes: within one wait if
the system takes the frame in one piece, and never more than a wait for every byte of
the largest frame and for every failure in passing. A peer who takes his time over each
byte can make the call last that long.
-/

namespace Courier.Endpoint

open Simulation (SampleCipher)

variable {κ α : Type} [Cipher κ] {e₀ e e' e₁ : Endpoint κ α} {net₀ net net' net₁ : Network}
  {hist : List Event} {payload frame : ByteArray}

/-- The most time that goes by before a message is written. -/
def preparation (l : Link) (now : Nat) : Nat :=
  match l.phase with
  | .reconnecting outage => if outage.isDue now then l.connectTimeout else 0
  | _ => 0

/-- How often it is waited while a message is sent over the stream that is there. -/
def waits (e : Endpoint κ α) (payload : ByteArray) (net : Network) : Nat :=
  match (e.pack payload net.now).1 with
  | .error _ => 0
  | .ok frame => e.link.waits net frame.size

theorem size_of_pack {now : Nat} (h : (e.pack payload now).1 = .ok frame) :
    frame.size ≤ Frame.headerSize + e.link.maxFrame := by
  obtain ⟨-, -, hframe⟩ := pack_spec keeps_true trivial (Prod.ext h rfl)
  obtain ⟨body, -, hframed, hmax⟩ := hframe frame rfl
  rw [hframed.size]
  omega

theorem waits_le {s : Nat} (hp : e.link.phase = .connected s) : e.waits payload net ≤
    Frame.headerSize + e.link.maxFrame +
      Pipe.hiccups (net.pipe s e.link.role.outgoing).uptakes := by
  unfold waits
  split
  · exact Nat.zero_le _
  · rename_i frame hpack
    have hle := Pipe.waits_le (net.pipe s e.link.role.outgoing).uptakes frame.size
    have hsize := size_of_pack hpack
    rw [Link.waits, hp]
    dsimp only
    omega

theorem waits_le_one {s : Nat} (hp : e.link.phase = .connected s)
    (hpack : (e.pack payload net.now).1 = .ok frame)
    (hroom : ∀ u, (net.pipe s e.link.role.outgoing).uptakes.head? = some u →
      ∃ count, u.what = .room count ∧ frame.size ≤ count) : e.waits payload net ≤ 1 := by
  rw [waits, hpack]
  dsimp only
  rw [Link.waits, hp]
  exact Pipe.waits_le_one hroom

omit [Cipher κ] in
theorem prepare_within {o : Call Unit} (h : e.prepare net = (o, e₁, net₁)) :
    e₁.link.ioTimeout = e.link.ioTimeout ∧
      Network.Within (net.now + preparation e.link net.now) net net₁ ∧
      (o = .abandoned → net.patience ≠ none) := by
  unfold prepare at h
  split at h
  · cases h
    exact ⟨rfl, .refl _ _, by simp⟩
  · have hequipment := Link.equipment_tryReconnect e.link net
    generalize hreconnect : e.link.tryReconnect net = w at h hequipment
    obtain ⟨r, link, after⟩ := w
    cases h
    refine ⟨(Prod.mk.inj hequipment).2, ?_⟩
    have hgiven : r.map (fun _ => ()) = .abandoned → r = .abandoned := by
      cases r <;> simp [Call.map]
    by_cases hp : ∃ b, e.link.phase = .reconnecting b
    · obtain ⟨b, hp⟩ := hp
      obtain ⟨hwithin, habandoned, -⟩ := Link.tryReconnect_within hp hreconnect
      rw [preparation, hp]
      exact ⟨hwithin, fun ho => habandoned (hgiven ho)⟩
    · rw [Link.tryReconnect_of_not_reconnecting fun b hb => hp ⟨b, hb⟩] at hreconnect
      cases hreconnect
      exact ⟨.refl _ _, by simp [Call.map]⟩

theorem sendConnected_within {o : Call (Except Failure Sent)}
    (h : e.sendConnected payload net = (o, e', net')) :
    Network.Within (net.now + e.waits payload net * e.link.ioTimeout) net net' ∧
      (o = .abandoned → net.patience ≠ none) := by
  have hlink := link_pack e payload net.now
  unfold waits
  cases sendConnected_delivers h with
  | refused hp => exact ⟨.refl _ _, nofun⟩
  | abandoned hp hw =>
    rw [hp] at hlink ⊢
    obtain ⟨hwithin, habandoned⟩ := Link.writeFrame_within hw
    rw [hlink] at hwithin
    exact ⟨hwithin, fun _ => habandoned rfl⟩
  | sent hp hw =>
    rw [hp] at hlink ⊢
    obtain ⟨hwithin, -⟩ := Link.writeFrame_within hw
    rw [hlink] at hwithin
    exact ⟨hwithin, nofun⟩
  | lost hp hw =>
    rw [hp] at hlink ⊢
    obtain ⟨hwithin, -⟩ := Link.writeFrame_within hw
    rw [hlink] at hwithin
    -- giving the stream up takes no time
    exact ⟨hwithin.trans (Link.tearDown_within _ _ _), nofun⟩

/-- How a call of `send` goes with the clock. -/
structure Paced (payload : ByteArray) (e : Endpoint κ α) (net : Network)
    (o : Call (Except Failure Sent)) (net' : Network) : Prop where
  forward : net.now ≤ net'.now
  /-- Nobody but the caller gives a call up. -/
  returns : net.patience = none → o ≠ .abandoned
  /-- Without a stream there is nothing to wait for but one attempt to connect. -/
  streamless : (∀ e₁ net₁, ¬ Prepares e net e₁ net₁) →
    net'.now ≤ net.now + preparation e.link net.now
  /-- Over a stream each piece of the frame may take the time of a wait. -/
  allowed : ∀ e₁ net₁, Prepares e net e₁ net₁ → net'.now ≤
    net.now + preparation e.link net.now + e₁.waits payload net₁ * e.link.ioTimeout
  /-- A frame that is taken in one piece, or not at all, takes one wait. -/
  prompt : ∀ e₁ net₁ s frame, Prepares e net e₁ net₁ → e₁.link.phase = .connected s →
    (e₁.pack payload net₁.now).1 = .ok frame →
    (∀ u, (net₁.pipe s e₁.link.role.outgoing).uptakes.head? = some u →
      ∃ count, u.what = .room count ∧ frame.size ≤ count) →
    net'.now ≤ net.now + preparation e.link net.now + e.link.ioTimeout
  /-- Any frame takes at most a wait for each byte of the largest frame, and for each
  failure in passing. -/
  bounded : ∀ e₁ net₁ s, Prepares e net e₁ net₁ → e₁.link.phase = .connected s →
    net'.now ≤ net.now + preparation e.link net.now +
      (Frame.headerSize + e.link.maxFrame +
        Pipe.hiccups (net₁.pipe s e₁.link.role.outgoing).uptakes) * e.link.ioTimeout

/-- A call takes the time of its preparation, and over a stream that of its waits. -/
theorem send_within {o : Call (Except Failure Sent)} (h : e.send payload net = (o, e', net')) :
    (o = .abandoned → net.patience ≠ none) ∧
      ((∀ e₁ net₁, ¬ Prepares e net e₁ net₁) ∧
          Network.Within (net.now + preparation e.link net.now) net net' ∨
        ∃ e₁ net₁, Prepares e net e₁ net₁ ∧ e₁.link.maxFrame = e.link.maxFrame ∧
          Network.Within (net.now + (preparation e.link net.now +
            e₁.waits payload net₁ * e.link.ioTimeout)) net net') := by
  rcases send_cases h with ⟨e₁, net₁, hp, hconn⟩ | ⟨hprep, rfl⟩ | ⟨e₁, hprep, hapart, -, rfl⟩
  · obtain ⟨htime, hfirst, -⟩ := prepare_within hp.prepare
    obtain ⟨hrest, habandoned⟩ := sendConnected_within hconn
    obtain ⟨-, -, -, -, hmax, -⟩ := prepare_spec hp.prepare
    rw [htime] at hrest
    exact ⟨fun ho => hfirst.patience ▸ habandoned ho,
      .inr ⟨e₁, net₁, hp, hmax, hfirst.add hrest⟩⟩
  · obtain ⟨-, hwithin, habandoned⟩ := prepare_within hprep
    refine ⟨fun _ => habandoned rfl, .inl ⟨fun e₁ net₁ hp => ?_, hwithin⟩⟩
    cases hp.prepare.symm.trans hprep
  · obtain ⟨-, hwithin, -⟩ := prepare_within hprep
    refine ⟨nofun, .inl ⟨fun e₂ net₂ hp => ?_, hwithin⟩⟩
    cases hp.prepare.symm.trans hprep
    rw [hp.isConnected] at hapart
    cases hapart

theorem send_paced {o : Call (Except Failure Sent)} (h : e.send payload net = (o, e', net')) :
    Paced payload e net o net' := by
  obtain ⟨habandoned, hclock⟩ := send_within h
  have hreturns : net.patience = none → o ≠ .abandoned := fun hnone ho => habandoned ho hnone
  rcases hclock with ⟨hnone, hwithin⟩ | ⟨e₁, net₁, hp, hmax, hwithin⟩
  · have hle := hwithin.le_deadline
    rw [Nat.max_eq_right (Nat.le_add_right _ _)] at hle
    exact ⟨hwithin.now_le, hreturns, fun _ => hle, fun e₂ net₂ hp => absurd hp (hnone e₂ net₂),
      fun e₂ net₂ s frame hp => absurd hp (hnone e₂ net₂),
      fun e₂ net₂ s hp => absurd hp (hnone e₂ net₂)⟩
  · have hle := hwithin.le_deadline
    rw [Nat.max_eq_right (Nat.le_add_right _ _), ← Nat.add_assoc] at hle
    refine ⟨hwithin.now_le, hreturns, fun hnone => absurd hp (hnone e₁ net₁), ?_, ?_, ?_⟩
    · intro e₂ net₂ hp₂
      obtain ⟨rfl, rfl⟩ := hp.eq hp₂
      exact hle
    · intro e₂ net₂ s frame hp₂ hs hpack hroom
      obtain ⟨rfl, rfl⟩ := hp.eq hp₂
      have hone := Nat.mul_le_mul_right e.link.ioTimeout (waits_le_one hs hpack hroom)
      omega
    · intro e₂ net₂ s hp₂ hs
      obtain ⟨rfl, rfl⟩ := hp.eq hp₂
      have hwaits : e₁.waits payload net₁ ≤ _ := waits_le hs
      have hall := Nat.mul_le_mul_right e.link.ioTimeout hwaits
      rw [hmax] at hall
      omega

/-! ## The slowest peer -/

/-- The network on which the peer takes so many bytes one by one, each at the last moment. -/
def dripping (net : Network) (s : Nat) (d : Direction) (timeout n : Nat) : Network :=
  { net.setPipe s d { net.pipe s d with uptakes := Link.drip timeout net.now n } with
    patience := none }

theorem drift_dripping (r : Role) (net : Network) (s timeout n : Nat) :
    net.Drift r (dripping net s r.outgoing timeout n) := by
  have hin : ∀ t, (dripping net s r.outgoing timeout n).pipe t r.incoming =
      net.pipe t r.incoming :=
    fun t => net.pipe_setPipe_ne _ (by simp [r.incoming_ne_outgoing])
  have hout : ∀ t, ((dripping net s r.outgoing timeout n).pipe t r.outgoing).written =
      (net.pipe t r.outgoing).written := by
    intro t
    unfold dripping Network.setPipe
    dsimp only
    split <;> simp_all
  exact ⟨hout, fun t => by rw [hin], fun t => hin t ▸ List.prefix_rfl, Nat.le_refl _⟩

/-- Whatever message is sent over a stream, a peer can take it so slowly that the call lasts
a whole wait for each byte of the frame. -/
theorem send_dripping {s : Nat} (hp : e.link.phase = .connected s)
    (hw : e.link.writing = false) (hpack : (e.pack payload net.now).1 = .ok frame) :
    ∃ e' net', e.send payload
        (dripping net s e.link.role.outgoing e.link.ioTimeout frame.size) =
          (.returned (.ok .sent), e', net') ∧
      net'.now = net.now + frame.size * e.link.ioTimeout := by
  generalize hnet₁ : dripping net s e.link.role.outgoing e.link.ioTimeout frame.size = net₁
  have hpatience : net₁.patience = none := hnet₁ ▸ rfl
  have hnow : net₁.now = net.now := hnet₁ ▸ rfl
  have hdrip : (net₁.pipe s e.link.role.outgoing).uptakes =
      Link.drip e.link.ioTimeout net₁.now frame.size := by
    rw [← hnet₁]
    exact congrArg Pipe.uptakes (net.pipe_setPipe_self _ _ _)
  obtain ⟨after, htransmit, hafter⟩ := Link.transmit_drip hpatience hdrip
  have hlink := link_pack e payload net.now
  rw [(Prepares.of_connected hp).send_eq, sendConnected, hnow]
  generalize e.pack payload net.now = w at hpack hlink
  obtain ⟨packed, e₁⟩ := w
  cases hpack
  have hlink : e₁.link = e.link := hlink
  have hwrite : e₁.link.writeFrame frame net₁ = (.returned (.ok ()), e₁.link, after) := by
    rw [hlink, Link.writeFrame, hw, hp]
    dsimp only
    rw [htransmit]
    rfl
  dsimp only
  rw [hwrite]
  exact ⟨_, _, rfl, by rw [hafter, hnow]⟩

/-! ## Calls of `send` -/

/-- In every run and whatever the peer does, a call of `send` is over when its waits are:
one for a connection, if an attempt is due, and one for each piece in which the system takes
the frame. So it is over in the time of one wait if the frame is taken in one piece. There is
no such bound for a peer who takes it bit by bit: on any stream that is still in order, any
message can be made to take a whole wait for each byte of its frame. -/
theorem send_timely [Scalar α] (hs : Start e₀ net₀) (h : Run e₀ net₀ hist e net) :
    (millis 100 ≤ e.link.ioTimeout ∧ e.link.ioTimeout ≤ millis 1000) ∧
      (∀ payload o e' net', e.send payload net = (o, e', net') → Paced payload e net o net') ∧
      ∀ s payload frame, e.link.phase = .connected s → e.link.writing = false →
        (e.pack payload net.now).1 = .ok frame →
        ∃ net₁ e' net', net.Drift e.link.role net₁ ∧ net₁.now = net.now ∧
          e.send payload net₁ = (.returned (.ok .sent), e', net') ∧
          net'.now = net₁.now + frame.size * e.link.ioTimeout := by
  refine ⟨?_, fun payload o e' net' hsend => send_paced hsend, ?_⟩
  · obtain ⟨tr, hstory⟩ := h.story keeps_true hs trivial
    have hequipped := hstory.run.equipped hs.link.new.coherent hs.link.equipped
    rw [← hequipped.ioTimeout]
    exact clampIoTimeout_mem _
  · intro s payload frame hp hw hpack
    obtain ⟨e', net', hsend, hnow⟩ := send_dripping hp hw hpack
    exact ⟨_, e', net', drift_dripping _ _ _ _ _, rfl, hsend, hnow⟩

/-- A client next door whose system takes nothing gives up after the time of one wait. -/
theorem send_timely_halting : ∃ e net,
    waiting.send (packed [1]) (Link.connect Link.nearby Link.halting).2 =
        (.returned (.ok .dropped), e, net) ∧ net.now ≤ millis 500 := by
  obtain ⟨hs, -⟩ := run_waiting
  have hp : waiting.link.phase = .connected 0 := by decide +kernel
  have ho : (waiting.send (packed [1]) (Link.connect Link.nearby Link.halting).2).1 =
      .returned (.ok .dropped) := by decide +kernel
  have hpaced := (send_timely hs .nil).2.1 (packed [1]) _ _ _ (Prod.ext ho rfl)
  obtain ⟨frame, hpack⟩ : ∃ frame, (waiting.pack (packed [1])
      (Link.connect Link.nearby Link.halting).2.now).1 = .ok frame := ⟨_, by with_unfolding_all rfl⟩
  -- nothing is ever taken, so no piece can be less than the whole
  have hnothing : ((Link.connect Link.nearby Link.halting).2.pipe 0
      waiting.link.role.outgoing).uptakes = [] := by decide +kernel
  have hprompt := hpaced.prompt _ _ 0 frame (.of_connected hp) hp hpack
    (by simp [hnothing])
  have hwait : (Link.connect Link.nearby Link.halting).2.now +
      preparation waiting.link (Link.connect Link.nearby Link.halting).2.now +
        waiting.link.ioTimeout = millis 500 := by decide +kernel
  rw [hwait] at hprompt
  exact ⟨_, _, Prod.ext ho rfl, hprompt⟩

/-- A network on which the peer takes ten bytes one by one, each after half a second. -/
def drizzling : Network where
  pipe _ _ := { uptakes := Link.drip (millis 500) 0 10 }
  dials := [⟨0, .joined⟩]
  binding _ := .ok 9000
  lookup _ := .error "unknown name"

/-- One wait is no bound: a client that waits for half a second at most sends one byte in a
call that takes five seconds. -/
theorem send_outlasts_wait : ∃ (e e' : Endpoint SampleCipher Rat) (net net' : Network),
    Start e net ∧ e.send (packed [1]) net = (.returned (.ok .sent), e', net') ∧
      preparation e.link net.now = 0 ∧ e.link.ioTimeout = millis 500 ∧
      net.now = 0 ∧ net'.now = millis 5000 := by
  have h : Endpoint.client Link.nearby (.plain none none) drizzling =
      (.returned (.ok unsealed), (Link.connect Link.nearby drizzling).2) := rfl
  have hs : Start unsealed (Link.connect Link.nearby drizzling).2 :=
    .client ⟨fun _ => rfl, fun _ => rfl⟩ h
  have ho : (unsealed.send (packed [1]) (Link.connect Link.nearby drizzling).2).1 =
      .returned (.ok .sent) := by decide +kernel
  have hnow : (unsealed.send (packed [1]) (Link.connect Link.nearby drizzling).2).2.2.now =
      millis 5000 := by decide +kernel
  exact ⟨_, _, _, _, hs, Prod.ext ho rfl, rfl, rfl, rfl, hnow⟩

end Courier.Endpoint
