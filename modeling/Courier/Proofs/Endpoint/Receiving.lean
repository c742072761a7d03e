import Courier.Proofs.Endpoint.Calls
import Courier.Proofs.Link.Phases

/-!
# How a call of `receive` goes

It reads from the stream that the endpoint has, or from one that it gets first;
`Attends` is the state in which it begins to read, and `Misses` is what it comes
to without a stream. What goes wrong with the stream is a `StreamFault`: the
lemmas say what the call comes to with one and without, so that nobody has to
open its definition again.
-/

namespace Courier.Endpoint

variable {κ α : Type} [Cipher κ] {e e' e₁ : Endpoint κ α} {net net' net₁ : Network} {f : Failure}

/-! ## Receiving -/

/-- The state in which a call of `receive` begins to read: the endpoint has its
stream, or gets one first. -/
inductive Attends (e : Endpoint κ α) (net : Network) : Endpoint κ α → Network → Prop
  | held {s : Nat} (hp : e.link.phase = .connected s) : Attends e net e net
  | visited {link : Link} {net' : Network} (hp : e.link.phase = .listening)
      (h : e.link.accept net = (.returned (.ok true), link, net')) :
      Attends e net { e with link } net'
  | rejoined {b : Backoff} {link : Link} {net' : Network} (hp : e.link.phase = .reconnecting b)
      (h : e.link.tryReconnect net = (.returned true, link, net')) :
      Attends e net { e with link } net'

/-- Why a frame is no message: it cannot be opened, what is in it is no record, or
the record travels our way. -/
inductive Refusal (c : κ) (r : Role) (frame : ByteArray) : Failure → Prop
  | opening {x : CipherError} (hc : (Cipher.decrypt c frame).1 = .error x) :
      Refusal c r frame (.ofCipher x)
  | decoding {plain : ByteArray} {x : RecordError} (hc : (Cipher.decrypt c frame).1 = .ok plain)
      (hd : Record.decode plain = .error x) : Refusal c r frame (.record x)
  | reflected {plain : ByteArray} {record : Record} (hc : (Cipher.decrypt c frame).1 = .ok plain)
      (hd : Record.decode plain = .ok record) (hr : record.direction ≠ r.incoming) :
      Refusal c r frame .unexpectedDirection

/-- What can go wrong with a stream that a message is received from: a frame cannot
be read, or one is read that is no message. -/
inductive StreamFault (e : Endpoint κ α) (net : Network) (f : Failure) : Prop
  | reading {link : Link} {net' : Network}
      (h : e.link.readFrame net = (.returned (.error f), link, net'))
  | refused {frame : ByteArray} {link : Link} {net' : Network}
      (h : e.link.readFrame net = (.returned (.ok (some frame)), link, net'))
      (hr : Refusal e.cipher e.link.role frame f)

namespace Attends

omit [Cipher κ] in
theorem role (h : Attends e net e₁ net₁) : e₁.link.role = e.link.role := by
  cases h with
  | held => rfl
  | visited _ h => exact congrArg (·.2.1.role) h ▸ Link.role_accept _ _
  | rejoined _ h => exact congrArg (·.2.1.role) h ▸ Link.role_tryReconnect _ _

omit [Cipher κ] in
theorem isConnected (h : Attends e net e₁ net₁) : e₁.link.isConnected = true := by
  cases h with
  | held hp => simp [Link.isConnected, hp]
  | visited _ h => exact Link.isConnected_accept h
  | rejoined _ h => exact Link.isConnected_tryReconnect h

omit [Cipher κ] in
theorem cipher (h : Attends e net e₁ net₁) : e₁.cipher = e.cipher := by
  cases h <;> rfl

omit [Cipher κ] in
theorem echo (h : Attends e net e₁ net₁) : e₁.echo = e.echo := by
  cases h <;> rfl

omit [Cipher κ] in
theorem calls (h : Attends e net e₁ net₁) :
    ∃ es, Link.Calls e.link net es e₁.link net₁ := by
  cases h with
  | held => exact ⟨[], .nil⟩
  | visited _ h => exact ⟨_, .single (.accept h)⟩
  | rejoined _ h => exact ⟨_, .single (.tryReconnect h)⟩

theorem receive_eq [Scalar α] (h : Attends e net e₁ net₁) :
    e.receive net = e₁.receiveConnected net₁ := by
  unfold receive
  cases h with
  | held hp => rw [hp]
  | visited hp h =>
    rw [hp]
    dsimp only
    rw [h]
  | rejoined hp h =>
    rw [hp]
    dsimp only
    rw [h]

end Attends

/-- What an endpoint that has been closed says when it is to receive. -/
def closedFailure : Role → Failure
  | .server => .connectionClosed
  | .client => .notConnected

/-- What a call of `receive` comes to that finds no stream to read from, with the
link and the network after it. -/
inductive Misses (e : Endpoint κ α) (net : Network) :
    Call (Except Failure Received) → Link → Network → Prop
  | unvisited {o : Call (Except Failure Bool)} {link : Link} {net' : Network}
      (hp : e.link.phase = .listening) (h : e.link.accept net = (o, link, net'))
      (ho : o ≠ .returned (.ok true)) :
      Misses e net (o.map (Except.map fun _ => .nothingYet)) link net'
  | apart {b : Backoff} {o : Call Bool} {link : Link} {net' : Network}
      (hp : e.link.phase = .reconnecting b) (h : e.link.tryReconnect net = (o, link, net'))
      (ho : o ≠ .returned true) : Misses e net (o.map fun _ => .ok .nothingYet) link net'
  | closed (hp : e.link.phase = .disconnected) :
      Misses e net (.returned (.error (closedFailure e.link.role))) e.link net

theorem Misses.receive_eq [Scalar α] {o : Call (Except Failure Received)} {link : Link}
    (h : Misses e net o link net') : e.receive net = (o, { e with link }, net') := by
  unfold receive
  cases h with
  | @unvisited r _ _ hp h ho =>
    rw [hp]
    dsimp only
    rw [h]
    rcases r with (f | _ | _) | _
    · rfl
    · rfl
    · exact absurd rfl ho
    · rfl
  | @apart b r _ _ hp h ho =>
    rw [hp]
    dsimp only
    rw [h]
    rcases r with (_ | _) | _
    · rfl
    · exact absurd rfl ho
    · rfl
  | closed hp =>
    rw [hp]
    dsimp only
    cases e.link.role <;> rfl

omit [Cipher κ] in
theorem Misses.unheard {o : Call (Except Failure Received)} {link : Link}
    (h : Misses e net o link net') (b : ByteArray) : o ≠ .returned (.ok (.payload b)) := by
  cases h with
  | @unvisited r => rcases r with (_ | _) | _ <;> nofun
  | @apart _ r => rcases r with _ | _ <;> nofun
  | closed => nofun

/-- A call of `receive` reads from a stream or finds none. -/
theorem receive_cases [Scalar α] {o : Call (Except Failure Received)}
    (h : e.receive net = (o, e', net')) :
    (∃ e₁ net₁, Attends e net e₁ net₁ ∧ e₁.receiveConnected net₁ = (o, e', net')) ∨
      ∃ link, Misses e net o link net' ∧ e' = { e with link } := by
  unfold receive at h
  split at h
  · rename_i hp
    exact .inl ⟨e, net, .held hp, h⟩
  · rename_i hp
    generalize hacc : e.link.accept net = w at h
    obtain ⟨r, link, after⟩ := w
    split at h <;> rename_i heq <;> cases heq
    · cases h
      exact .inr ⟨link, .unvisited hp hacc nofun, rfl⟩
    · cases h
      exact .inr ⟨link, .unvisited hp hacc nofun, rfl⟩
    · cases h
      exact .inr ⟨link, .unvisited hp hacc nofun, rfl⟩
    · exact .inl ⟨_, _, .visited hp hacc, h⟩
  · rename_i b hp
    generalize htry : e.link.tryReconnect net = w at h
    obtain ⟨r, link, after⟩ := w
    split at h <;> rename_i heq <;> cases heq
    · cases h
      exact .inr ⟨link, .apart hp htry nofun, rfl⟩
    · cases h
      exact .inr ⟨link, .apart hp htry nofun, rfl⟩
    · exact .inl ⟨_, _, .rejoined hp htry, h⟩
  · rename_i hp
    have hclosed : Misses e net _ _ net := .closed hp
    split at h <;> rename_i hr <;> cases h <;> rw [hr] at hclosed
    · exact .inr ⟨_, hclosed, rfl⟩
    · exact .inr ⟨_, hclosed, rfl⟩

omit [Cipher κ] in
theorem Misses.spec {o : Call (Except Failure Received)} {link : Link}
    (h : Misses e net o link net') : link.isConnected = false ∧
      ∀ f, o = .returned (.error f) →
        (e.link.phase = .listening ∧ link = e.link ∧ ∃ x, f = .io x) ∨
          e.link.phase = .disconnected ∧ f = closedFailure e.link.role := by
  cases h with
  | @unvisited r _ _ hp h ho =>
    obtain ⟨rfl, hio⟩ := Link.accept_ne_ok_true hp h ho
    refine ⟨by simp [Link.isConnected, hp], fun f hf => .inl ⟨hp, rfl, hio f ?_⟩⟩
    rcases r with (f' | _) | _ <;> cases hf
    rfl
  | @apart b r _ _ hp h ho =>
    rcases r with (_ | _) | _
    · exact ⟨Link.isConnected_tryReconnect h, fun f hf => by cases hf⟩
    · exact absurd rfl ho
    · cases Link.tryReconnect_abandoned h
      exact ⟨by simp [Link.isConnected, hp], fun f hf => by cases hf⟩
  | closed hp =>
    refine ⟨by simp [Link.isConnected, hp], ?_⟩
    rintro f ⟨⟩
    exact .inr ⟨hp, rfl⟩

theorem openFrame_snd (e : Endpoint κ α) (frame : ByteArray) :
    (e.openFrame frame).2 = { e with cipher := (Cipher.decrypt e.cipher frame).2 } := by
  unfold openFrame
  split <;> rename_i hc
  · rw [hc]
  · rw [hc]
    split
    · rfl
    · split <;> rfl

theorem link_openFrame (e : Endpoint κ α) (frame : ByteArray) :
    (e.openFrame frame).2.link = e.link := by
  rw [openFrame_snd]

theorem openFrame_error_iff {frame : ByteArray} :
    (e.openFrame frame).1 = .error f ↔ Refusal e.cipher e.link.role frame f := by
  unfold openFrame
  generalize hc : Cipher.decrypt e.cipher frame = d
  obtain ⟨r, cipher⟩ := d
  constructor
  · intro h
    cases r with
    | error x =>
      cases h
      exact .opening (by rw [hc])
    | ok plain =>
      dsimp only at h
      cases hd : Record.decode plain with
      | error x =>
        rw [hd] at h
        cases h
        exact .decoding (by rw [hc]) hd
      | ok record =>
        rw [hd] at h
        dsimp only at h
        by_cases hr : record.direction = e.link.role.incoming
        · rw [if_pos hr] at h
          cases h
        · rw [if_neg hr] at h
          cases h
          exact .reflected (by rw [hc]) hd hr
  · intro h
    cases h with
    | opening hx =>
      rw [hc] at hx
      cases hx
      rfl
    | decoding hx hd =>
      rw [hc] at hx
      cases hx
      dsimp only
      rw [hd]
    | reflected hx hd hr =>
      rw [hc] at hx
      cases hx
      dsimp only
      rw [hd]
      dsimp only
      rw [if_neg hr]

theorem link_receiveRecord [Scalar α] (e : Endpoint κ α) (net : Network) :
    (e.receiveRecord net).2.1.link = (e.link.readFrame net).2.1 ∧
      (e.receiveRecord net).2.2 = (e.link.readFrame net).2.2 := by
  unfold receiveRecord
  generalize e.link.readFrame net = w
  obtain ⟨r, link, after⟩ := w
  cases r with
  | abandoned => exact ⟨rfl, rfl⟩
  | returned result =>
    rcases result with f | _ | frame
    · exact ⟨rfl, rfl⟩
    · exact ⟨rfl, rfl⟩
    · dsimp only
      have hlink := link_openFrame { e with link } frame
      generalize openFrame { e with link } frame = opened at hlink
      obtain ⟨f | record, e₁⟩ := opened
      · exact ⟨hlink, rfl⟩
      · exact ⟨hlink, rfl⟩

/-- Receiving a record fails just by a fault of the stream. -/
theorem receiveRecord_error_iff [Scalar α] :
    (e.receiveRecord net).1 = .returned (.error f) ↔ StreamFault e net f := by
  unfold receiveRecord
  generalize hread : e.link.readFrame net = w
  obtain ⟨r, link, after⟩ := w
  have hrole : link.role = e.link.role := by
    have := e.link.role_readFrame net
    rwa [hread] at this
  -- a frame that is read is opened by the endpoint that has read it
  have hopen : ∀ frame, (openFrame { e with link } frame).1 = .error f ↔
      Refusal e.cipher e.link.role frame f := by
    intro frame
    rw [openFrame_error_iff, ← hrole]
  constructor
  · intro h
    cases r with
    | abandoned => cases h
    | returned result =>
      rcases result with f | _ | frame
      · cases h
        exact .reading hread
      · cases h
      · dsimp only at h
        refine .refused hread ((hopen frame).mp ?_)
        generalize openFrame { e with link } frame = opened at h
        obtain ⟨f | record, e₁⟩ := opened <;> cases h
        rfl
  · intro h
    cases h with
    | reading h =>
      rw [hread] at h
      cases h
      rfl
    | @refused frame _ _ h hr =>
      rw [hread] at h
      cases h
      dsimp only
      have hfails := (hopen frame).mpr hr
      generalize openFrame { e with link } frame = opened at hfails
      obtain ⟨f | record, e₁⟩ := opened <;> cases hfails
      rfl

/-- What an endpoint says of a fault of its stream: a client keeps to itself what
the peer is not to blame for. -/
def reported (r : Role) (f : Failure) : Except Failure Received :=
  match r with
  | .server => .error f
  | .client => if f.isViolation then .error f else .ok .nothingYet

theorem receiveConnected_of_fault [Scalar α] (h : StreamFault e net f) :
    ∃ e' net', e.receiveConnected net = (.returned (reported e.link.role f), e', net') ∧
      e'.link.GivenUp net' := by
  have hfails := receiveRecord_error_iff.mpr h
  have hrole := e.link.role_readFrame net
  rw [← (link_receiveRecord e net).1] at hrole
  unfold receiveConnected
  generalize e.receiveRecord net = w at hfails hrole
  obtain ⟨r, e₁, after⟩ := w
  cases hfails
  refine ⟨(e₁.lose after).1, (e₁.lose after).2, ?_, Link.givenUp_tearDown e₁.link after⟩
  have hsame : (e₁.link.tearDown after).1.role = e.link.role :=
    (Link.role_tearDown _ _).trans hrole
  dsimp only [lose]
  rw [hsame]
  unfold reported
  cases e.link.role with
  | server => rfl
  | client => cases f.isViolation <;> rfl

theorem receiveConnected_of_sound [Scalar α] {o : Call (Except Failure Received)}
    (hn : ∀ f, ¬ StreamFault e net f) (h : e.receiveConnected net = (o, e', net')) :
    e'.link = (e.link.readFrame net).2.1 ∧ ∀ f, o ≠ .returned (.error f) := by
  have hsound : ∀ f, (e.receiveRecord net).1 ≠ .returned (.error f) :=
    fun f hf => hn f (receiveRecord_error_iff.mp hf)
  have hlink := (link_receiveRecord e net).1
  unfold receiveConnected at h
  generalize e.receiveRecord net = w at h hsound hlink
  obtain ⟨r, e₁, after⟩ := w
  split at h <;> rename_i heq <;> cases heq
  · cases h
    exact ⟨hlink, nofun⟩
  · cases h
    exact ⟨hlink, nofun⟩
  · cases h
    exact ⟨hlink, nofun⟩
  · exact absurd rfl (hsound _)

theorem link_receiveConnected [Scalar α] {o : Call (Except Failure Received)}
    (h : e.receiveConnected net = (o, e', net')) :
    (e'.link, net') = (e.link.readFrame net).2 ∨
      (e'.link, net') = (e.link.readFrame net).2.1.tearDown (e.link.readFrame net).2.2 := by
  obtain ⟨hlink, hnet⟩ := link_receiveRecord e net
  rw [← Prod.eta (e.link.readFrame net).2, ← hlink, ← hnet]
  unfold receiveConnected at h
  generalize e.receiveRecord net = w at h
  obtain ⟨r, e₁, after⟩ := w
  split at h <;> rename_i heq <;> cases heq
  · cases h
    exact .inl rfl
  · cases h
    exact .inl rfl
  · cases h
    exact .inl rfl
  · dsimp only [lose] at h
    split at h <;> cases h
    · exact .inr rfl
    · exact .inr rfl

end Courier.Endpoint
