import Courier.Proofs.Link.Phases

/-!
# The course of a link

A server listens, has its peer, and is done; a client has a stream or tries to
get one back. `Phase.Arrow` lists these moves, and `Turn` is what an operation
may do besides: who the peer is, and what is asked of the system. The one
operation that could bring a closed client back is to tear it down, so a `Turn`
is promised only where that is done to a stream.
-/

namespace Courier

/-- The moves of a link of one role, but for closing it. -/
inductive Phase.Arrow : Role → Phase → Phase → Prop
  | arrives (s : Nat) : Arrow .server .listening (.connected s)
  | ends (s : Nat) : Arrow .server (.connected s) .disconnected
  | loses (s now : Nat) : Arrow .client (.connected s) (.reconnecting (Backoff.start now))
  | fails (b : Backoff) (now : Nat) : Arrow .client (.reconnecting b) (.reconnecting (b.fail now))
  | rejoins (b : Backoff) (s : Nat) : Arrow .client (.reconnecting b) (.connected s)

namespace Phase.Arrow

variable {r : Role} {p q : Phase} {s : Nat} {b : Backoff}

theorem ne_listening (h : Arrow r p q) : q ≠ .listening := by
  cases h <;> nofun

theorem not_of_disconnected (h : Arrow r p q) : p ≠ .disconnected := by
  cases h <;> nofun

theorem client_of_reconnecting (h : Arrow r p q) (hq : q = .reconnecting b) : r = .client := by
  cases h <;> first | rfl | cases hq

theorem disconnected_of_server (h : Arrow r p q) (hr : r = .server) (hp : p = .connected s) :
    q = .disconnected := by
  subst hr hp
  cases h
  rfl

theorem ne_disconnected_of_client (h : Arrow r p q) (hr : r = .client) : q ≠ .disconnected := by
  subst hr
  cases h <;> nofun

end Phase.Arrow

namespace Network

variable {P Q : Act → Prop} {net after last : Network}

/-- Whatever has been asked of the system in between is of this kind. -/
def Asks (P : Act → Prop) (net after : Network) : Prop :=
  ∃ new, after.log = new ++ net.log ∧ ∀ x ∈ new, P x.what

namespace Asks

theorem of_log_eq (h : after.log = net.log) : Asks P net after := ⟨[], h, by simp⟩

theorem refl (net : Network) : Asks P net net := of_log_eq rfl

theorem trans (h : Asks P net after) (h' : Asks P after last) : Asks P net last := by
  obtain ⟨new, hlog, hnew⟩ := h
  obtain ⟨newer, hlog', hnewer⟩ := h'
  exact ⟨newer ++ new, by rw [hlog', hlog, List.append_assoc],
    List.forall_mem_append.mpr ⟨hnewer, hnew⟩⟩

theorem mono (h : Asks P net after) (hpq : ∀ act, P act → Q act) : Asks Q net after := by
  obtain ⟨new, hlog, hnew⟩ := h
  exact ⟨new, hlog, fun x hx => hpq _ (hnew x hx)⟩

end Asks

theorem asks_note {act : Act} (h : P act) : Asks P net (net.note act) :=
  ⟨[⟨net.now, act⟩], rfl, fun x hx => by rw [List.mem_singleton.mp hx]; exact h⟩

theorem Touches.log {s : Nat} {d : Direction} (h : Touches s d net after) :
    after.log = net.log := by
  rw [h.rest]

theorem log_await {α : Type} {deadline : Nat} {event : Option (Timed α)} {w : Waited α}
    (h : net.await deadline event = (w, after)) : after.log = net.log := by
  obtain ⟨t, -, rfl⟩ := await_clock h
  rfl

theorem log_welcome {deadline : Nat} {w : Waited Visit}
    (h : net.welcome deadline = (w, after)) : after.log = net.log := by
  unfold welcome at h
  split at h <;> rename_i hawait <;> have hlog := log_await hawait <;> cases h <;> exact hlog

end Network

namespace Link

variable {l l' : Link} {net net' : Network} {e : Event} {s : Nat}

/-! ## Moves -/

/-- What an operation on a link may ask of the system: to connect to the peer that
it has, if it has lost its stream, and to let go of its stream. -/
def Due (l l' : Link) : Act → Prop
  | .binds _ => False
  | .dials a => l.remote = some a ∧ ∃ b, l.phase = .reconnecting b
  | .opens s => (∃ b, l.phase = .reconnecting b) ∧ l'.phase = .connected s
  | .releases s => l.phase = .connected s

/-- What an operation may change of the phase and of the peer, and what it asks of
the system. -/
structure Turn (l : Link) (net : Network) (l' : Link) (net' : Network) : Prop where
  role : l'.role = l.role
  phase : l'.phase = l.phase ∨ Phase.Arrow l.role l.phase l'.phase
  remote : l'.remote = l.remote ∧ (l.phase = .listening → l'.phase = .listening) ∨
    l.phase = .listening ∧ l'.phase ≠ .listening ∧ l'.remote.isSome = true
  asks : net.Asks (Due l l') net'

theorem Turn.of_quiet (hr : l'.role = l.role) (hp : l'.phase = l.phase)
    (hm : l'.remote = l.remote) (hlog : net'.log = net.log) : Turn l net l' net' :=
  ⟨hr, .inl hp, .inl ⟨hm, fun hl => hp.trans hl⟩, .of_log_eq hlog⟩

theorem Turn.of_arrow (hr : l'.role = l.role) (ha : Phase.Arrow l.role l.phase l'.phase)
    (hl : l.phase ≠ .listening) (hm : l'.remote = l.remote) (hasks : net.Asks (Due l l') net') :
    Turn l net l' net' :=
  ⟨hr, .inr ha, .inl ⟨hm, fun hp => absurd hp hl⟩, hasks⟩

namespace Turn

theorem of_accept {o : Call (Except Failure Bool)} (hc : Coherent l net)
    (h : l.accept net = (o, l', net')) : Turn l net l' net' := by
  unfold accept at h
  split at h
  · rename_i hl
    split at h <;> rename_i hvisit <;> have hlog := Network.log_welcome hvisit
    · cases h
      exact .of_quiet rfl rfl rfl hlog
    · cases h
      exact .of_quiet rfl rfl rfl hlog
    · split at h <;> cases h <;> exact .of_quiet rfl rfl rfl hlog
    · cases h
      exact .of_quiet rfl rfl rfl hlog
    · cases h
      refine ⟨rfl, .inr ?_, .inr ⟨hl, nofun, rfl⟩, .of_log_eq hlog⟩
      rw [(hc.listening hl).1, hl]
      exact .arrives _
  · cases h
    exact .of_quiet rfl rfl rfl rfl

theorem asks_openStream {target : Address} {timeout : Nat} {o : Call (Except Failure Nat)}
    {P : Act → Prop} (h : openStream target timeout net = (o, net')) (ht : P (.dials target))
    (ho : ∀ s, o = .returned (.ok s) → P (.opens s)) : net.Asks P net' := by
  unfold openStream Network.dial at h
  dsimp only at h
  have hdial : net.Asks P { net.note (.dials target) with dials := net.dials.tail } :=
    Network.asks_note ht
  generalize hawait : Network.await _ _ _ = w at h
  obtain ⟨w, after⟩ := w
  have hlog := hdial.trans (.of_log_eq (Network.log_await hawait))
  rcases w with (_ | _) | _ | _ <;> cases h
  · exact hlog.trans (Network.asks_note (ho _ rfl))
  · exact hlog
  · exact hlog
  · exact hlog

theorem of_tryReconnect {o : Call Bool} (hc : Coherent l net)
    (h : l.tryReconnect net = (o, l', net')) : Turn l net l' net' := by
  unfold tryReconnect at h
  split at h
  · rename_i b remote hl hm
    have hclient := hc.reconnecting b hl
    split at h
    · split at h <;> rename_i hopen <;> cases h
      · refine .of_arrow rfl ?_ (by simp [hl]) rfl (asks_openStream hopen ⟨hm, b, hl⟩ ?_)
        · rw [hclient, hl]
          exact .rejoins b _
        · rintro s ⟨⟩
          exact ⟨⟨b, hl⟩, rfl⟩
      · refine .of_arrow rfl ?_ (by simp [hl]) rfl (asks_openStream hopen ⟨hm, b, hl⟩ nofun)
        rw [hclient, hl]
        exact .fails b _
      · exact ⟨rfl, .inl rfl, .inl ⟨rfl, fun h => h⟩, asks_openStream hopen ⟨hm, b, hl⟩ nofun⟩
    · cases h
      exact .of_quiet rfl rfl rfl rfl
  · cases h
    exact .of_quiet rfl rfl rfl rfl

theorem of_writeFrame {frame : ByteArray} {o : Call (Except Failure Unit)}
    (h : l.writeFrame frame net = (o, l', net')) : Turn l net l' net' := by
  unfold writeFrame at h
  split at h
  · cases h
    exact .of_quiet rfl rfl rfl rfl
  · split at h
    · split at h <;> rename_i hsend <;> obtain ⟨htouch, -⟩ := transmit_spec hsend <;> cases h
      · exact .of_quiet rfl rfl rfl htouch.log
      · exact .of_quiet rfl rfl rfl htouch.log
    · cases h
      exact .of_quiet rfl rfl rfl rfl

theorem of_readFrame {o : Call (Except Failure (Option ByteArray))}
    (h : l.readFrame net = (o, l', net')) : Turn l net l' net' := by
  unfold readFrame at h
  split at h
  · cases h
    exact .of_quiet rfl rfl rfl rfl
  · split at h
    · generalize hgather : gather _ _ _ _ _ = w at h
      obtain ⟨outcome, a, after⟩ := w
      obtain ⟨htouch, -⟩ := gather_spec hgather
      cases h
      exact .of_quiet rfl rfl rfl htouch.log
    · cases h
      exact .of_quiet rfl rfl rfl rfl

theorem asks_close {P : Act → Prop} (h : ∀ s, l.phase = .connected s → P (.releases s)) :
    net.Asks P (l.close net).2 := by
  unfold close
  dsimp only
  split
  · rename_i s hp
    exact Network.asks_note (h s hp)
  · exact .refl _

theorem of_tearDown (hs : l.isConnected = true) (h : l.tearDown net = (l', net')) :
    Turn l net l' net' := by
  obtain ⟨s, hp⟩ := isConnected_iff.mp hs
  cases hr : l.role with
  | client =>
    rw [tearDown_client hr] at h
    cases h
    refine .of_arrow rfl ?_ (by simp [hp]) rfl (asks_close fun _ h => h)
    rw [hr, hp]
    exact .loses s _
  | server =>
    rw [tearDown_server hr] at h
    cases h
    refine .of_arrow rfl ?_ (by simp [hp]) rfl (asks_close fun _ h => h)
    rw [hr, hp]
    exact .ends s

end Turn

theorem turn_setIoTimeout (t : Nat) : Turn l net (l.setIoTimeout t) net :=
  .of_quiet rfl rfl rfl rfl

/-- Operations with nothing between them, each of which makes a move at most. -/
inductive Goes : Link → Network → List Event → Link → Network → Prop
  | nil {l : Link} {net : Network} : Goes l net [] l net
  | cons {l l' last : Link} {net net' final : Network} {e : Event} {es : List Event}
      (hs : Step l net e l' net') (ht : Turn l net l' net') (hg : Goes l' net' es last final) :
      Goes l net (e :: es) last final

theorem Goes.single (hs : Step l net e l' net') (ht : Turn l net l' net') :
    Goes l net [e] l' net' := .cons hs ht .nil

theorem Goes.trans {last : Link} {final : Network} {es es' : List Event}
    (h : Goes l net es l' net') (h' : Goes l' net' es' last final) :
    Goes l net (es ++ es') last final := by
  induction h with
  | nil => exact h'
  | cons hs ht _ ih => exact .cons hs ht (ih h')

/-! ## The course of a life -/

/-- A phase, a role and a peer that fit together. -/
structure Placed (l : Link) : Prop where
  listening : l.phase = .listening → l.role = .server ∧ l.remote = none
  reconnecting : ∀ b, l.phase = .reconnecting b → l.role = .client
  met : l.phase ≠ .listening → l.phase ≠ .disconnected → l.remote.isSome = true
  client : l.role = .client → l.remote.isSome = true

/-- What a link keeps for the rest of its life. -/
structure Later (l l' : Link) : Prop where
  role : l'.role = l.role
  remote : ∀ a, l.remote = some a → l'.remote = some a
  listening : l'.phase = .listening → l.phase = .listening
  server : l.role = .server → ∀ s, l.phase = .connected s →
    l'.phase = .connected s ∨ l'.phase = .disconnected
  disconnected : l.phase = .disconnected → l'.phase = .disconnected ∧ l'.remote = l.remote

namespace Later

theorem refl (l : Link) : Later l l :=
  ⟨rfl, fun _ h => h, fun h => h, fun _ _ h => .inl h, fun h => ⟨h, rfl⟩⟩

theorem trans {last : Link} (h : Later l l') (h' : Later l' last) : Later l last where
  role := h'.role.trans h.role
  remote a ha := h'.remote a (h.remote a ha)
  listening hl := h.listening (h'.listening hl)
  server hr s hp := by
    rcases h.server hr s hp with hp | hp
    · exact h'.server (h.role.trans hr) s hp
    · exact .inr (h'.disconnected hp).1
  disconnected hp := by
    obtain ⟨hp, hm⟩ := h.disconnected hp
    obtain ⟨hp', hm'⟩ := h'.disconnected hp
    exact ⟨hp', hm'.trans hm⟩

end Later

namespace Turn

theorem remote_isSome (h : Turn l net l' net') (hs : l.remote.isSome = true) :
    l'.remote.isSome = true := by
  rcases h.remote with ⟨hm, -⟩ | ⟨-, -, hm⟩
  · rwa [hm]
  · exact hm

theorem listening (h : Turn l net l' net') (hp : l'.phase = .listening) :
    l.phase = .listening ∧ l'.remote = l.remote := by
  refine ⟨?_, ?_⟩
  · rcases h.phase with heq | ha
    · rwa [← heq]
    · exact absurd hp ha.ne_listening
  · rcases h.remote with ⟨hm, -⟩ | ⟨-, hne, -⟩
    · exact hm
    · exact absurd hp hne

theorem disconnected (h : Turn l net l' net') (hp : l.phase = .disconnected) :
    l'.phase = .disconnected ∧ l'.remote = l.remote := by
  refine ⟨?_, ?_⟩
  · rcases h.phase with heq | ha
    · exact heq.trans hp
    · exact absurd hp ha.not_of_disconnected
  · rcases h.remote with ⟨hm, -⟩ | ⟨hl, -⟩
    · exact hm
    · rw [hp] at hl
      cases hl

theorem placed (h : Turn l net l' net') (hl : Placed l) : Placed l' where
  listening hp := by
    obtain ⟨hbefore, hm⟩ := h.listening hp
    rw [h.role, hm]
    exact hl.listening hbefore
  reconnecting b hp := by
    rw [h.role]
    rcases h.phase with heq | ha
    · exact hl.reconnecting b (heq ▸ hp)
    · exact ha.client_of_reconnecting hp
  met hp hp' := by
    rcases h.remote with ⟨hm, hstay⟩ | ⟨-, -, hm⟩
    · rw [hm]
      exact hl.met (fun hbefore => hp (hstay hbefore)) fun hbefore => hp' (h.disconnected hbefore).1
    · exact hm
  client hr := h.remote_isSome (hl.client (h.role ▸ hr))

theorem later (h : Turn l net l' net') (hl : Placed l) : Later l l' where
  role := h.role
  remote a ha := by
    rcases h.remote with ⟨hm, -⟩ | ⟨hp, -⟩
    · exact hm.trans ha
    · rw [(hl.listening hp).2] at ha
      cases ha
  listening hp := (h.listening hp).1
  server hr s hp := by
    rcases h.phase with heq | ha
    · exact .inl (heq.trans hp)
    · exact .inr (ha.disconnected_of_server hr hp)
  disconnected := h.disconnected

end Turn

theorem Step.remote_isSome (hc : Coherent l net)
    (h : Step l net e l' net') (hm : l.remote.isSome = true) : l'.remote.isSome = true := by
  cases h with
  | accept h => exact (Turn.of_accept hc h).remote_isSome hm
  | tryReconnect h => exact (Turn.of_tryReconnect hc h).remote_isSome hm
  | writeFrame h => exact (Turn.of_writeFrame h).remote_isSome hm
  | readFrame h => exact (Turn.of_readFrame h).remote_isSome hm
  | tearDown h =>
    cases hr : l.role with
    | client =>
      rw [tearDown_client hr] at h
      cases h
      exact hm
    | server =>
      rw [tearDown_server hr] at h
      cases h
      exact hm
  | close h =>
    cases h
    exact hm
  | setIoTimeout t => exact hm

theorem Run.remote_isSome {l₀ : Link} {net₀ : Network} {tr : List Event} (hc : Coherent l₀ net₀)
    (hm : l₀.remote.isSome = true) (h : Run l₀ net₀ tr l net) : l.remote.isSome = true := by
  induction h with
  | nil => exact hm
  | call hr hs ih => exact hs.remote_isSome (hr.coherent hc) ih
  | drift _ _ ih => exact ih

theorem placed_close (hl : Placed l) : Placed (l.close net).1 where
  listening := nofun
  reconnecting := nofun
  met _ hp := absurd rfl hp
  client := hl.client

theorem later_close (l : Link) (net : Network) : Later l (l.close net).1 where
  role := rfl
  remote _ h := h
  listening := nofun
  server _ _ _ := .inr rfl
  disconnected _ := ⟨rfl, rfl⟩

theorem Goes.spec {es : List Event} (hl : Placed l) (h : Goes l net es l' net') :
    Placed l' ∧ Later l l' ∧
      (l.role = .client → l'.phase = .disconnected → l.phase = .disconnected) := by
  induction h with
  | nil => exact ⟨hl, .refl _, fun _ hp => hp⟩
  | @cons l l₁ _ _ _ _ _ _ _ ht _ ih =>
    have hlater := ht.later hl
    obtain ⟨hplaced, hrest, hopen⟩ := ih (ht.placed hl)
    refine ⟨hplaced, hlater.trans hrest, fun hr hp => ?_⟩
    have hp := hopen (ht.role.trans hr) hp
    rcases ht.phase with heq | ha
    · exact heq ▸ hp
    · exact absurd hp (ha.ne_disconnected_of_client hr)

/-- A link connects to nobody but the peer that it has. -/
theorem Goes.dials {es : List Event} {a : Address} (hl : Placed l) (hm : l.remote = some a)
    (h : Goes l net es l' net') : net.Asks (fun act => ∀ b, act = .dials b → b = a) net' := by
  induction h with
  | nil => exact .refl _
  | cons _ ht _ ih =>
    have hrest := ih (ht.placed hl) ((ht.later hl).remote a hm)
    refine (ht.asks.mono ?_).trans hrest
    rintro act hdue b rfl
    exact Option.some.inj (hdue.1.symm.trans hm)

theorem Start.placed (h : Start l net) : Placed l := by
  cases h with
  | listen hu h =>
    obtain ⟨-, port, rfl, -⟩ := of_listen h
    exact ⟨fun _ => ⟨rfl, rfl⟩, nofun, fun hp => absurd rfl hp, nofun⟩
  | connect hu h =>
    obtain ⟨-, remote, s, rfl, -⟩ := of_connect h
    exact ⟨nofun, nofun, fun _ _ => rfl, fun _ => rfl⟩

end Link
end Courier
