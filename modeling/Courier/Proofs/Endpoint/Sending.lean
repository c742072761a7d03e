import Courier.Proofs.Endpoint.Calls
import Courier.Proofs.Link.Phases

/-!
# How a call of `send` goes

A client that has lost its stream first tries to get one; `Prepares` is the state
in which there is a stream to write to. Then a frame is made, which may fail
without touching the stream (`LocalFault`), and written (`WriteFault`). The lemmas
say what the call comes to in each of these cases.
-/

namespace Courier.Endpoint

variable {κ α : Type} [Cipher κ] {e e' e₁ : Endpoint κ α} {net net' net₁ : Network} {f : Failure}

/-- The state in which a call of `send` begins to write: the endpoint has its stream,
or a client gets one first. -/
structure Prepares (e : Endpoint κ α) (net : Network) (e₁ : Endpoint κ α) (net₁ : Network) :
    Prop where
  prepare : e.prepare net = (.returned (), e₁, net₁)
  isConnected : e₁.link.isConnected = true

/-- What can go wrong before a message is written: it cannot be sealed, or is too
large when it is. -/
inductive LocalFault (payload : ByteArray) (e : Endpoint κ α) (now : Nat) : Failure → Prop
  | sealing {x : CipherError}
      (hc : (Cipher.encrypt e.cipher (e.stamp payload now).1.encode).1 = .error x) :
      LocalFault payload e now (.ofCipher x)
  | framing {body : ByteArray}
      (hc : (Cipher.encrypt e.cipher (e.stamp payload now).1.encode).1 = .ok body)
      (hlarge : e.link.maxFrame < body.size) :
      LocalFault payload e now (.frame (.payloadTooLarge body.size e.link.maxFrame))

/-- What goes wrong when the frame of a message is written. -/
inductive WriteFault (payload : ByteArray) (e : Endpoint κ α) (net : Network) (f : Failure) : Prop
  | intro {frame : ByteArray} {e' : Endpoint κ α} {link : Link} {net' : Network}
      (hp : e.pack payload net.now = (.ok frame, e'))
      (hw : e'.link.writeFrame frame net = (.returned (.error f), link, net'))

theorem link_pack (e : Endpoint κ α) (payload : ByteArray) (now : Nat) :
    (e.pack payload now).2.link = e.link := by
  unfold pack stamp
  dsimp only
  split
  · rfl
  · split <;> rfl

theorem pack_eq_ok_iff {payload frame : ByteArray} {now : Nat} :
    (e.pack payload now).1 = .ok frame ↔
      ∃ body, (Cipher.encrypt e.cipher (e.stamp payload now).1.encode).1 = .ok body ∧
        Frame.encode e.link.maxFrame body = .ok frame := by
  have hcipher : (e.stamp payload now).2.cipher = e.cipher := rfl
  have hlink : (e.stamp payload now).2.link = e.link := rfl
  unfold pack
  generalize e.stamp payload now = w at hcipher hlink ⊢
  obtain ⟨record, e₁⟩ := w
  dsimp only at hcipher hlink ⊢
  rw [hcipher, hlink]
  generalize Cipher.encrypt e.cipher record.encode = d
  obtain ⟨r, cipher⟩ := d
  cases r with
  | error x => simp
  | ok body =>
    simp only [Except.ok.injEq, exists_eq_left']
    cases Frame.encode e.link.maxFrame body <;> simp

theorem pack_error_iff {payload : ByteArray} {now : Nat}
    (hmax : e.link.maxFrame ≤ Frame.maxDeclared) :
    (e.pack payload now).1 = .error f ↔ LocalFault payload e now f := by
  have hstamp : (e.stamp payload now).2.cipher = e.cipher ∧
      (e.stamp payload now).2.link = e.link := ⟨rfl, rfl⟩
  unfold pack
  generalize hrec : e.stamp payload now = w at hstamp
  obtain ⟨record, e₁⟩ := w
  obtain ⟨hcipher, hlink⟩ := hstamp
  dsimp only at hcipher hlink ⊢
  rw [hcipher, hlink]
  generalize hc : Cipher.encrypt e.cipher record.encode = d
  obtain ⟨r, cipher⟩ := d
  constructor
  · intro h
    cases r with
    | error x =>
      cases h
      exact .sealing (by rw [hrec, hc])
    | ok body =>
      dsimp only at h
      by_cases hlarge : e.link.maxFrame < body.size
      · rw [Frame.encode, if_pos hlarge] at h
        cases h
        exact .framing (by rw [hrec, hc]) hlarge
      · rw [Frame.encode_eq_ok (Nat.le_of_not_lt hlarge)
          (Nat.le_trans (Nat.le_of_not_lt hlarge) hmax)] at h
        cases h
  · intro h
    cases h with
    | sealing hx =>
      rw [hrec, hc] at hx
      cases hx
      rfl
    | framing hx hlarge =>
      rw [hrec, hc] at hx
      cases hx
      dsimp only
      rw [Frame.encode, if_pos hlarge]

/-- What an endpoint says of a message that could not be written. -/
def reportedUnsent (r : Role) (f : Failure) : Except Failure Sent :=
  match r with
  | .server => .error f
  | .client => .ok .dropped

theorem sendConnected_of_local {payload : ByteArray}
    (h : (e.pack payload net.now).1 = .error f) :
    e.sendConnected payload net =
      (.returned (.error f), (e.pack payload net.now).2, net) := by
  unfold sendConnected
  generalize e.pack payload net.now = w at h
  obtain ⟨r, e₁⟩ := w
  cases h
  rfl

theorem sendConnected_of_fault {payload : ByteArray} (h : WriteFault payload e net f) :
    ∃ e' net', e.sendConnected payload net =
        (.returned (reportedUnsent e.link.role f), e', net') ∧ e'.link.GivenUp net' := by
  obtain ⟨hpack, hwrite⟩ := h
  rename_i frame e₁ link after
  have hlink := link_pack e payload net.now
  rw [hpack] at hlink
  have hrole := e₁.link.role_writeFrame frame net
  rw [hwrite, hlink] at hrole
  have hsame : (link.tearDown after).1.role = e.link.role :=
    (Link.role_tearDown _ _).trans hrole
  unfold sendConnected
  rw [hpack]
  dsimp only
  rw [hwrite]
  dsimp only [lose]
  rw [hsame]
  have hgiven := Link.givenUp_tearDown link after
  cases e.link.role with
  | client => exact ⟨_, _, rfl, hgiven⟩
  | server => exact ⟨_, _, rfl, hgiven⟩

theorem sendConnected_of_sound {payload : ByteArray} {o : Call (Except Failure Sent)}
    (hn : ∀ f, ¬ WriteFault payload e net f) (h : e.sendConnected payload net = (o, e', net')) :
    e'.link.phase = e.link.phase ∧
      ∀ f, o = .returned (.error f) → (e.pack payload net.now).1 = .error f := by
  unfold sendConnected at h
  have hlink := link_pack e payload net.now
  generalize hpack : e.pack payload net.now = w at h hlink
  obtain ⟨r, e₁⟩ := w
  have hlink : e₁.link = e.link := hlink
  cases r with
  | error f =>
    cases h
    refine ⟨by rw [hlink], ?_⟩
    rintro _ ⟨⟩
    rfl
  | ok frame =>
    dsimp only at h
    have hphase := e₁.link.phase_writeFrame frame net
    generalize hwrite : e₁.link.writeFrame frame net = w at h hphase
    obtain ⟨r, link, after⟩ := w
    have hkept : link.phase = e.link.phase := by
      rw [← hlink]
      exact hphase
    split at h <;> rename_i heq <;> cases heq
    · cases h
      exact ⟨hkept, nofun⟩
    · cases h
      exact ⟨hkept, nofun⟩
    · exact absurd ⟨hpack, hwrite⟩ (hn _)

/-- How a call goes over the stream that is there: no frame is made, or it is written as far
as writing goes, and after a fault the stream is given up. -/
inductive Delivers (payload : ByteArray) (e : Endpoint κ α) (net : Network) :
    Call (Except Failure Sent) → Endpoint κ α → Network → Prop
  | refused {e₁ : Endpoint κ α} {f : Failure} (hp : e.pack payload net.now = (.error f, e₁)) :
      Delivers payload e net (.returned (.error f)) e₁ net
  | abandoned {frame : ByteArray} {e₁ : Endpoint κ α} {link : Link} {after : Network}
      (hp : e.pack payload net.now = (.ok frame, e₁))
      (hw : e₁.link.writeFrame frame net = (.abandoned, link, after)) :
      Delivers payload e net .abandoned { e₁ with link } after
  | sent {frame : ByteArray} {e₁ : Endpoint κ α} {link : Link} {after : Network}
      (hp : e.pack payload net.now = (.ok frame, e₁))
      (hw : e₁.link.writeFrame frame net = (.returned (.ok ()), link, after)) :
      Delivers payload e net (.returned (.ok .sent)) { e₁ with link, sendFault := none } after
  | lost {frame : ByteArray} {e₁ : Endpoint κ α} {link : Link} {after : Network} {f : Failure}
      (hp : e.pack payload net.now = (.ok frame, e₁))
      (hw : e₁.link.writeFrame frame net = (.returned (.error f), link, after)) :
      Delivers payload e net (.returned (reportedUnsent e.link.role f))
        { e₁ with link := (link.tearDown after).1, sendFault := some (.failed f) }
        (link.tearDown after).2

theorem sendConnected_delivers {payload : ByteArray} {o : Call (Except Failure Sent)}
    (h : e.sendConnected payload net = (o, e', net')) : Delivers payload e net o e' net' := by
  unfold sendConnected at h
  have hlink := link_pack e payload net.now
  generalize hpack : e.pack payload net.now = w at h hlink
  obtain ⟨r, e₁⟩ := w
  have hlink : e₁.link = e.link := hlink
  cases r with
  | error f =>
    cases h
    exact .refused hpack
  | ok frame =>
    dsimp only at h
    have hrole := e₁.link.role_writeFrame frame net
    generalize hwrite : e₁.link.writeFrame frame net = w at h hrole
    obtain ⟨r, link, after⟩ := w
    split at h <;> rename_i heq <;> cases heq
    · cases h
      exact .abandoned hpack hwrite
    · cases h
      exact .sent hpack hwrite
    · have hdelivers : Delivers payload e net _ _ _ := .lost hpack hwrite
      have hsame : (link.tearDown after).1.role = e.link.role :=
        (Link.role_tearDown _ _).trans (hrole.trans (congrArg Link.role hlink))
      dsimp only [lose] at h
      rw [hsame] at h
      cases hr : e.link.role <;> rw [hr] at h hdelivers <;> cases h <;> exact hdelivers

theorem link_sendConnected {payload : ByteArray} {o : Call (Except Failure Sent)}
    (h : e.sendConnected payload net = (o, e', net')) : (e'.link, net') = (e.link, net) ∨
      ∃ frame, (e'.link, net') = (e.link.writeFrame frame net).2 ∨
        (e'.link, net') =
          (e.link.writeFrame frame net).2.1.tearDown (e.link.writeFrame frame net).2.2 := by
  have hlink := link_pack e payload net.now
  cases sendConnected_delivers h with
  | refused hp =>
    rw [hp] at hlink
    exact .inl (by rw [← hlink])
  | @abandoned frame _ _ _ hp hw =>
    rw [hp] at hlink
    exact .inr ⟨frame, .inl (by rw [← hlink, hw])⟩
  | @sent frame _ _ _ hp hw =>
    rw [hp] at hlink
    exact .inr ⟨frame, .inl (by rw [← hlink, hw])⟩
  | @lost frame _ _ _ _ hp hw =>
    rw [hp] at hlink
    exact .inr ⟨frame, .inr (by rw [← hlink, hw])⟩

omit [Cipher κ] in
theorem prepare_of_not_reconnecting (h : ∀ b, e.link.phase ≠ .reconnecting b) :
    e.prepare net = (.returned (), e, net) := by
  unfold prepare
  split
  · rfl
  · rw [Link.tryReconnect_of_not_reconnecting h]
    rfl

omit [Cipher κ] in
theorem Prepares.role (h : Prepares e net e₁ net₁) : e₁.link.role = e.link.role := by
  obtain ⟨-, -, -, hrole, -⟩ := prepare_spec h.prepare
  exact hrole

omit [Cipher κ] in
theorem Prepares.of_connected {s : Nat} (h : e.link.phase = .connected s) :
    Prepares e net e net :=
  ⟨prepare_of_not_reconnecting (by simp [h]), Link.isConnected_iff.mpr ⟨s, h⟩⟩

omit [Cipher κ] in
theorem Prepares.eq {e₂ : Endpoint κ α} {net₂ : Network} (h : Prepares e net e₁ net₁)
    (h' : Prepares e net e₂ net₂) : e₁ = e₂ ∧ net₁ = net₂ := by
  cases h.prepare.symm.trans h'.prepare
  exact ⟨rfl, rfl⟩

theorem Prepares.send_eq {payload : ByteArray} (h : Prepares e net e₁ net₁) :
    e.send payload net = e₁.sendConnected payload net₁ := by
  obtain ⟨s, hp⟩ := Link.isConnected_iff.mp h.isConnected
  unfold send
  rw [h.prepare]
  dsimp only
  rw [hp]

/-- What a call of `send` says for which there is no stream. -/
def unsent : Phase → Sent
  | .reconnecting _ => .dropped
  | _ => .notConnected

/-- A call of `send` writes to a stream, or it is given up before it does, or there
is none. -/
theorem send_cases {payload : ByteArray} {o : Call (Except Failure Sent)}
    (h : e.send payload net = (o, e', net')) :
    (∃ e₁ net₁, Prepares e net e₁ net₁ ∧ e₁.sendConnected payload net₁ = (o, e', net')) ∨
      (e.prepare net = (.abandoned, e', net') ∧ o = .abandoned) ∨
      ∃ e₁, e.prepare net = (.returned (), e₁, net') ∧ e₁.link.isConnected = false ∧
        e'.link = e₁.link ∧ o = .returned (.ok (unsent e₁.link.phase)) := by
  unfold send at h
  generalize hprep : e.prepare net = w at h
  obtain ⟨r, e₁, after⟩ := w
  cases r with
  | abandoned =>
    cases h
    exact .inr (.inl ⟨rfl, rfl⟩)
  | returned u =>
    dsimp only at h
    split at h <;> rename_i hp
    · exact .inl ⟨e₁, after, ⟨hprep, Link.isConnected_iff.mpr ⟨_, hp⟩⟩, h⟩
    · cases h
      exact .inr (.inr ⟨e₁, rfl, by simp [Link.isConnected, hp], rfl, by rw [hp]; rfl⟩)
    · cases h
      exact .inr (.inr ⟨e₁, rfl, by simp [Link.isConnected, hp], rfl, by rw [hp]; rfl⟩)
    · cases h
      exact .inr (.inr ⟨e₁, rfl, by simp [Link.isConnected, hp], rfl, by rw [hp]; rfl⟩)

end Courier.Endpoint
