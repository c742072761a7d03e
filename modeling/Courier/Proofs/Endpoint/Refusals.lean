import Courier.Proofs.Cipher
import Courier.Proofs.Endpoint.SendErrors

/-!
# What a refused message costs

A message that cannot be sealed or framed is refused before anything is written. The
network, the link and all that has been measured stay as they were, and opening what
comes goes on as before. But the record has been stamped by then, and the stamp of the
peer that waited to be echoed is gone: until a message is received again, nothing is
echoed. `Endpoint.reset` is an end in which only the cipher and the waiting stamp are
others, and the calls on it are followed beside those on the end itself.
-/

namespace Courier

/-- Ciphers that open alike, whatever is opened; sealing makes no difference to it. -/
structure Cipher.Indifferent {κ : Type} [Cipher κ] (R : κ → κ → Prop) : Prop where
  opens : ∀ c c' y, R c c' → (Cipher.decrypt c y).1 = (Cipher.decrypt c' y).1 ∧
    R (Cipher.decrypt c y).2 (Cipher.decrypt c' y).2
  seals : ∀ c x, R c (Cipher.encrypt c x).2

theorem SessionCipher.indifferent :
    Cipher.Indifferent fun c c' : SessionCipher => c.key = c'.key where
  opens c c' y hkey := by
    change (Sealed.decrypt c.key.bytes (octets y)).map packed =
      (Sealed.decrypt c'.key.bytes (octets y)).map packed ∧ c.key = c'.key
    exact ⟨by rw [hkey], hkey⟩
  seals _ _ := rfl

namespace Endpoint

open Simulation (SampleCipher)

variable {κ α : Type} [Cipher κ] {R : κ → κ → Prop} {e₀ e e' e₁ : Endpoint κ α}
  {net₀ net net' net₁ : Network} {hist : List Event} {ev : Event} {payload : ByteArray}
  {f : Failure} {c : κ} {p : Option (UInt16 × Nat)}

/-- Another cipher and another stamp that waits to be echoed. -/
def reset (e : Endpoint κ α) (c : κ) (p : Option (UInt16 × Nat)) : Endpoint κ α :=
  { e with cipher := c, echo := { e.echo with pending := p } }

omit [Cipher κ] in
theorem snd_stamp (e : Endpoint κ α) (payload : ByteArray) (now : Nat) :
    (e.stamp payload now).2 = e.reset e.cipher none := by
  unfold stamp Echo.take reset
  dsimp only
  split <;> rename_i hpending
  · rw [← hpending]
  · rfl

/-! ## The refusal -/

theorem pack_of_localFault {now : Nat} (h : LocalFault payload e now f) : e.pack payload now =
    (.error f, e.reset (Cipher.encrypt e.cipher (e.stamp payload now).1.encode).2 none) := by
  have hstamp : e.stamp payload now = ((e.stamp payload now).1, e.reset e.cipher none) :=
    Prod.ext rfl (snd_stamp e payload now)
  unfold pack
  rw [hstamp]
  dsimp only [reset]
  cases h with
  | sealing hc =>
    generalize Cipher.encrypt e.cipher (e.stamp payload now).1.encode = w at hc ⊢
    obtain ⟨r, c⟩ := w
    cases hc
    rfl
  | framing hc hlarge =>
    generalize Cipher.encrypt e.cipher (e.stamp payload now).1.encode = w at hc ⊢
    obtain ⟨r, c⟩ := w
    cases hc
    dsimp only
    rw [Frame.encode, if_pos hlarge]

theorem send_of_localFault {s : Nat} (hp : e.link.phase = .connected s)
    (h : LocalFault payload e net.now f) : e.send payload net =
      (.returned (.error f),
        e.reset (Cipher.encrypt e.cipher (e.stamp payload net.now).1.encode).2 none, net) := by
  have hpack := pack_of_localFault h
  rw [(Prepares.of_connected hp).send_eq, sendConnected_of_local (congrArg Prod.fst hpack), hpack]

/-- A message is refused as too large just if it was sealed and is too large then. -/
theorem send_tooLarge_iff {s n m : Nat} {o : Call (Except Failure Sent)}
    (hmax : e.link.maxFrame ≤ Frame.maxDeclared) (hp : e.link.phase = .connected s)
    (h : e.send payload net = (o, e', net')) :
    o = .returned (.error (.frame (.payloadTooLarge n m))) ↔
      m = e.link.maxFrame ∧ m < n ∧ ∃ body,
        (Cipher.encrypt e.cipher (e.stamp payload net.now).1.encode).1 = .ok body ∧
          body.size = n := by
  constructor
  · rintro rfl
    have hmax' : ∀ e₁ net₁, Prepares e net e₁ net₁ → e₁.link.maxFrame ≤ Frame.maxDeclared := by
      intro e₁ net₁ hp₁
      rwa [← ((Prepares.of_connected hp).eq hp₁).1]
    obtain ⟨e₁, net₁, hp₁, ⟨hlocal, -⟩ | ⟨hfault, -⟩⟩ := send_error hmax' h
    · obtain ⟨rfl, rfl⟩ := (Prepares.of_connected hp).eq hp₁
      generalize hf : Failure.frame (.payloadTooLarge n m) = f at hlocal
      cases hlocal with
      | @sealing x => cases x <;> cases hf
      | @framing body hc hlarge =>
        cases hf
        exact ⟨rfl, hlarge, body, hc, rfl⟩
    · cases isOfWriting_of_writeFault hfault hp₁.isConnected
  · rintro ⟨rfl, hlarge, body, hc, rfl⟩
    rw [send_of_localFault hp (.framing hc hlarge)] at h
    cases h
    rfl

/-! ## What comes after it -/

theorem fst_openFrame_congr {g : Endpoint κ α} {y : ByteArray} (hrole : g.link.role = e.link.role)
    (hsame : (Cipher.decrypt g.cipher y).1 = (Cipher.decrypt e.cipher y).1) :
    (g.openFrame y).1 = (e.openFrame y).1 := by
  unfold openFrame
  rw [hrole]
  generalize Cipher.decrypt g.cipher y = w at hsame
  generalize Cipher.decrypt e.cipher y = w' at hsame
  obtain ⟨r, c₁⟩ := w
  obtain ⟨r', c₂⟩ := w'
  cases hsame
  cases r with
  | error x => rfl
  | ok plain =>
    dsimp only
    split
    · rfl
    · split <;> rfl

theorem openFrame_reset (hR : Cipher.Indifferent R) (hc : R e.cipher c) (y : ByteArray) :
    ∃ c', (e.reset c p).openFrame y = ((e.openFrame y).1, (e.openFrame y).2.reset c' p) ∧
      R (e.openFrame y).2.cipher c' := by
  obtain ⟨hsame, hnext⟩ := hR.opens _ _ y hc
  refine ⟨(Cipher.decrypt c y).2, Prod.ext (fst_openFrame_congr rfl hsame.symm) ?_, ?_⟩
  · rw [openFrame_snd, openFrame_snd]
    rfl
  · rw [openFrame_snd]
    exact hnext

/-- The ends differ in ciphers that open alike, and in the stamp that waits to be echoed. -/
inductive Apart (R : κ → κ → Prop) (e : Endpoint κ α) : Endpoint κ α → Prop
  | intro {c : κ} (p : Option (UInt16 × Nat)) (h : R e.cipher c) : Apart R e (e.reset c p)

/-- What a call leaves of such a difference: none in the stamps if there was none before or
a message has been heard, and otherwise each end keeps its own. -/
structure Closer (R : κ → κ → Prop) (heard : Prop) (e g e₁ g₁ : Endpoint κ α) : Prop where
  apart : Apart R e₁ g₁
  echo : g.echo = e.echo ∨ heard → g₁.echo = e₁.echo
  pending : ¬ heard → g₁.echo.pending = g.echo.pending

omit [Cipher κ] in
theorem Closer.of_kept {heard : Prop} {c' : κ} (hc : R e₁.cipher c') (hecho : e₁.echo = e.echo)
    (hheard : ¬ heard) : Closer R heard e (e.reset c p) e₁ (e₁.reset c' p) where
  apart := .intro p hc
  echo h := by
    rcases h with hsame | h
    · unfold reset at hsame ⊢
      dsimp only at hsame ⊢
      rw [hecho, hsame]
    · exact absurd h hheard
  pending _ := rfl

omit [Cipher κ] in
theorem Closer.of_heard [Scalar α] {heard : Prop} {c' : κ} {g : Endpoint κ α} {now : Nat}
    (record : Record) (hc : R e₁.cipher c') (hheard : heard) :
    Closer R heard e g (e₁.heed record now) ((e₁.reset c' p).heed record now) where
  apart := .intro (some (record.stamp, now)) hc
  echo _ := rfl
  pending h := absurd hheard h

omit [Cipher κ] in
theorem Closer.congr {heard heard' : Prop} {g g₁ : Endpoint κ α}
    (h : Closer R heard e g e₁ g₁) (hiff : heard' ↔ heard) : Closer R heard' e g e₁ g₁ where
  apart := h.apart
  echo hor := h.echo (hor.imp_right hiff.mp)
  pending hnot := h.pending fun hheard => hnot (hiff.mpr hheard)

omit [Cipher κ] in
theorem Closer.of_link {heard : Prop} {g g₁ : Endpoint κ α} (h : Closer R heard e g e₁ g₁)
    (link : Link) : Closer R heard e g { e₁ with link } { g₁ with link } where
  apart := by
    obtain ⟨p, hc⟩ := h.apart
    exact .intro p hc
  echo := h.echo
  pending := h.pending

theorem receiveRecord_reset [Scalar α] {r : Call (Except Failure (Option ByteArray))}
    (hR : Cipher.Indifferent R) (hc : R e.cipher c) (h : e.receiveRecord net = (r, e', net')) :
    ∃ g', (e.reset c p).receiveRecord net = (r, g', net') ∧
      Closer R (∃ b, r = .returned (.ok (some b))) e (e.reset c p) e' g' := by
  have hlink : (e.reset c p).link = e.link := rfl
  unfold receiveRecord at h ⊢
  rw [hlink]
  generalize e.link.readFrame net = w at h ⊢
  obtain ⟨o, link, after⟩ := w
  rcases o with (f | _ | frame) | _
  · cases h
    exact ⟨_, rfl, .of_kept hc rfl (by simp)⟩
  · cases h
    exact ⟨_, rfl, .of_kept hc rfl (by simp)⟩
  · have hc' : R ({ e with link } : Endpoint κ α).cipher c := hc
    obtain ⟨c', hopen, hnext⟩ := openFrame_reset (p := p) hR hc' frame
    have hecho : (openFrame { e with link } frame).2.echo = e.echo := by rw [openFrame_snd]
    have hreset : ({ e.reset c p with link } : Endpoint κ α) = reset { e with link } c p := rfl
    dsimp only at h ⊢
    rw [hreset, hopen]
    generalize openFrame { e with link } frame = opened at h hnext hecho ⊢
    obtain ⟨f | record, e₂⟩ := opened
    · cases h
      exact ⟨_, rfl, .of_kept hnext hecho (by simp)⟩
    · cases h
      exact ⟨_, rfl, .of_heard record hnext ⟨_, rfl⟩⟩
  · cases h
    exact ⟨_, rfl, .of_kept hc rfl (by simp)⟩

theorem receiveConnected_reset [Scalar α] {o : Call (Except Failure Received)}
    (hR : Cipher.Indifferent R) (hc : R e.cipher c)
    (h : e.receiveConnected net = (o, e', net')) :
    ∃ g', (e.reset c p).receiveConnected net = (o, g', net') ∧
      Closer R (∃ b, o = .returned (.ok (.payload b))) e (e.reset c p) e' g' := by
  unfold receiveConnected at h ⊢
  generalize hrecord : e.receiveRecord net = w at h
  obtain ⟨r, e₁, after⟩ := w
  obtain ⟨g₁, hrecord', hcloser⟩ := receiveRecord_reset (p := p) hR hc hrecord
  rw [hrecord']
  split at h <;> rename_i heq <;> cases heq
  · cases h
    exact ⟨_, rfl, hcloser.congr (by simp)⟩
  · cases h
    exact ⟨_, rfl, hcloser.congr (by simp)⟩
  · cases h
    exact ⟨_, rfl, hcloser.congr (by simp)⟩
  · have hlink : g₁.link = e₁.link := by
      obtain ⟨p', hc'⟩ := hcloser.apart
      rfl
    dsimp only [lose] at h ⊢
    rw [hlink]
    have hlost := hcloser.of_link (e₁.link.tearDown after).1
    split at h <;> rename_i hreport <;> cases h
    · rw [if_pos hreport]
      exact ⟨_, rfl, hlost.congr (by simp)⟩
    · rw [if_neg hreport]
      exact ⟨_, rfl, hlost.congr (by simp)⟩

omit [Cipher κ] in
theorem Attends.reset (h : Attends e net e₁ net₁) (c : κ) (p : Option (UInt16 × Nat)) :
    Attends (e.reset c p) net (e₁.reset c p) net₁ := by
  cases h with
  | held hp => exact .held hp
  | visited hp h => exact .visited hp h
  | rejoined hp h => exact .rejoined hp h

omit [Cipher κ] in
theorem Misses.reset {o : Call (Except Failure Received)} {link : Link}
    (h : Misses e net o link net') (c : κ) (p : Option (UInt16 × Nat)) :
    Misses (e.reset c p) net o link net' := by
  cases h with
  | unvisited hp h ho => exact .unvisited hp h ho
  | apart hp h ho => exact .apart hp h ho
  | closed hp => exact .closed hp

theorem receive_reset [Scalar α] {o : Call (Except Failure Received)}
    (hR : Cipher.Indifferent R) (hc : R e.cipher c) (h : e.receive net = (o, e', net')) :
    ∃ g', (e.reset c p).receive net = (o, g', net') ∧
      Closer R (∃ b, o = .returned (.ok (.payload b))) e (e.reset c p) e' g' := by
  rcases receive_cases h with ⟨e₁, net₁, ha, hconn⟩ | ⟨link, hm, rfl⟩
  · have hecho := ha.echo
    rw [← ha.cipher] at hc
    obtain ⟨g', hconn', hcloser⟩ := receiveConnected_reset (p := p) hR hc hconn
    refine ⟨g', (ha.reset c p).receive_eq.trans hconn', hcloser.apart, ?_, hcloser.pending⟩
    intro hor
    refine hcloser.echo (hor.imp_left fun hsame => ?_)
    rw [hecho, ← hsame, Endpoint.reset, Endpoint.reset, hecho]
  · have hsilent : ¬ ∃ b, o = .returned (.ok (.payload b)) := fun ⟨b, ho⟩ => hm.unheard b ho
    exact ⟨_, (hm.reset c p).receive_eq, .of_kept hc rfl hsilent⟩

/-! ## Runs without a message sent -/

def Event.isSend : Event → Bool
  | sends .. => true
  | _ => false

/-- What an event has received, on whatever stream. -/
def Event.heard? : Event → Option ByteArray
  | receives _ (.returned (.ok (.payload b))) => some b
  | _ => none

theorem Step.reset [Scalar α] (hR : Cipher.Indifferent R) (hc : R e.cipher c)
    (h : Step e net ev e' net') (hq : ev.isSend = false) :
    ∃ g', Step (e.reset c p) net ev g' net' ∧
      Closer R (ev.heard? ≠ none) e (e.reset c p) e' g' := by
  cases h with
  | send h => cases hq
  | @receive o _ _ h =>
    obtain ⟨g', hreceive, hcloser⟩ := receive_reset (p := p) hR hc h
    have hlink : g'.link = e'.link := by
      obtain ⟨p', hc'⟩ := hcloser.apart
      rfl
    refine ⟨g', hlink ▸ .receive hreceive, hcloser.congr ?_⟩
    rcases o with (f | _ | _) | _ <;> simp [Event.heard?]
  | close h =>
    cases h
    exact ⟨_, .close rfl, .of_kept hc rfl (by simp [Event.heard?])⟩
  | setIoTimeout t => exact ⟨_, .setIoTimeout t, .of_kept hc rfl (by simp [Event.heard?])⟩
  | setLastRoundTrip ms =>
    exact ⟨_, .setLastRoundTrip ms, .of_kept hc rfl (by simp [Event.heard?])⟩

omit [Cipher κ] in
theorem Closer.trans {heard heard' : Prop} {g g₁ : Endpoint κ α} {e₂ g₂ : Endpoint κ α}
    (h : Closer R heard e g e₁ g₁) (h' : Closer R heard' e₁ g₁ e₂ g₂) :
    Closer R (heard ∨ heard') e g e₂ g₂ where
  apart := h'.apart
  echo hor := by
    rcases hor with hsame | hheard | hheard
    · exact h'.echo (.inl (h.echo (.inl hsame)))
    · exact h'.echo (.inl (h.echo (.inr hheard)))
    · exact h'.echo (.inr hheard)
  pending hnot := (h'.pending fun hx => hnot (.inr hx)).trans (h.pending fun hx => hnot (.inl hx))

/-- A run in which nothing is sent goes the same way. -/
theorem Run.reset [Scalar α] (hR : Cipher.Indifferent R) (hc : R e.cipher c)
    (h : Run e net hist e₁ net₁) (hq : ∀ ev ∈ hist, ev.isSend = false) :
    ∃ g₁, Run (e.reset c p) net hist g₁ net₁ ∧
      Closer R (∃ ev ∈ hist, ev.heard? ≠ none) e (e.reset c p) e₁ g₁ := by
  induction h with
  | nil => exact ⟨_, .nil, .of_kept hc rfl (by simp)⟩
  | @call hist e₁ e₂ net₁ net₂ ev hr hs ih =>
    obtain ⟨g₁, hrun, hcloser⟩ := ih fun x hx => hq x (List.mem_append_left _ hx)
    obtain ⟨p', hc'⟩ := hcloser.apart
    obtain ⟨g₂, hstep, hcloser'⟩ := hs.reset (p := p') hR hc'
      (hq ev (List.mem_append_right _ (List.mem_singleton_self _)))
    refine ⟨g₂, hrun.call hstep, (hcloser.trans hcloser').congr ?_⟩
    simp [or_and_right, exists_or]
  | drift hr hd ih =>
    obtain ⟨g₁, hrun, hcloser⟩ := ih hq
    obtain ⟨p', hc'⟩ := hcloser.apart
    exact ⟨_, hrun.drift hd, hcloser⟩

/-! ## Refused messages -/

/-- How an end that has its stream refuses a message. -/
structure Spares [Scalar α] (payload : ByteArray) (e : Endpoint κ α) (net : Network) : Prop where
  /-- The error says why, nothing is written, and the end loses the stamp that waited. -/
  refused : ∀ f, LocalFault payload e net.now f → e.send payload net =
    (.returned (.error f),
      e.reset (Cipher.encrypt e.cipher (e.stamp payload net.now).1.encode).2 none, net)
  tooLarge : ∀ o e' net', e.send payload net = (o, e', net') →
    ∀ n m, o = .returned (.error (.frame (.payloadTooLarge n m))) ↔
      m = e.link.maxFrame ∧ m < n ∧ ∃ body,
        (Cipher.encrypt e.cipher (e.stamp payload net.now).1.encode).1 = .ok body ∧
          body.size = n
  /-- Whatever is received until the next message is sent, it is received as it would have
  been. What is echoed next is what would have been if no stamp waited at the refusal, or
  if a message has come since; otherwise it is nothing. -/
  unnoticed : ∀ f R hist e₁ net₁, LocalFault payload e net.now f → Cipher.Indifferent R →
    Run e net hist e₁ net₁ → (∀ ev ∈ hist, ev.isSend = false) →
    ∃ e₂, Run (e.send payload net).2.1 net hist e₂ net₁ ∧ Apart R e₁ e₂ ∧
      (e.echo.pending = none ∨ (∃ ev ∈ hist, ev.heard? ≠ none) → e₂.echo = e₁.echo) ∧
      ((¬ ∃ ev ∈ hist, ev.heard? ≠ none) → e₂.echo.pending = none)

/-- In every run a message that cannot be sealed, or is too large when it is, is refused with
nothing written, and it costs the end the stamp that waited to be echoed, and nothing else
but what the cipher has changed in itself. So what is received afterwards is received as if
nothing had been tried, if sealing makes no difference to opening, and nothing is echoed
before a message has been received again. With the cipher of a session a message is too
large if a frame does not hold 45 bytes more than it has. -/
theorem refusal_costs_echo [Scalar α] :
    (∀ (e₀ : Endpoint κ α) net₀ hist e net s payload, Start e₀ net₀ → Run e₀ net₀ hist e net →
      e.link.phase = .connected s → Spares payload e net) ∧
    Cipher.Indifferent (fun c c' : SessionCipher => c.key = c'.key) ∧
    ∀ (e₀ : Endpoint SessionCipher α) net₀ hist e net s payload o e' net', Start e₀ net₀ →
      Run e₀ net₀ hist e net → e.link.phase = .connected s →
      e.send payload net = (o, e', net') →
      ((∃ n m, o = .returned (.error (.frame (.payloadTooLarge n m)))) ↔
        e.link.maxFrame < payload.size + 45 ∧ (payload.size + 5) / 64 < Sealed.maxBlocks) := by
  refine ⟨?_, SessionCipher.indifferent, ?_⟩
  · intro e₀ net₀ hist e net s payload hs hr hp
    have hle := hr.maxFrame_le hs
    refine ⟨fun f hf => send_of_localFault hp hf,
      fun o e' net' h n m => send_tooLarge_iff hle hp h, ?_⟩
    intro f R hist' e₁ net₁ hf hR hrun hq
    rw [send_of_localFault hp hf]
    obtain ⟨e₂, hrun', hcloser⟩ := hrun.reset hR (hR.seals e.cipher _) hq
    refine ⟨e₂, hrun', hcloser.apart, fun hor => hcloser.echo (hor.imp_left fun hnone => ?_),
      hcloser.pending⟩
    rw [reset, ← hnone]
  · intro e₀ net₀ hist e net s payload o e' net' hs hr hp h
    have hle := hr.maxFrame_le hs
    have hsize : (e.stamp payload net.now).1.encode.size = Record.headerSize + payload.size :=
      Record.size_encode _
    simp only [send_tooLarge_iff hle hp h, SessionCipher.exists_encrypt_iff, hsize,
      Sealed.overhead, Sealed.nonceSize, Sealed.tagSize, Record.headerSize]
    constructor
    · rintro ⟨n, m, rfl, hlarge, hblocks, rfl⟩
      exact ⟨by omega, by omega⟩
    · rintro ⟨hlarge, hblocks⟩
      exact ⟨_, _, rfl, by omega, by omega, rfl⟩

/-- It has heard a message and has its stamp to echo. -/
def attentive : Endpoint SampleCipher Rat × Network :=
  (narrowed.receive (Link.connect narrow relapsing).2).2

theorem run_attentive : Run narrowed (Link.connect narrow relapsing).2
    [.receives (some 0) (.returned (.ok (.payload (packed [9]))))] attentive.1 attentive.2 := by
  have ho : (narrowed.receive (Link.connect narrow relapsing).2).1 =
      .returned (.ok (.payload (packed [9]))) := by with_unfolding_all rfl
  have hstream : attentive.1.link.stream? = some 0 := by decide +kernel
  rw [← hstream]
  exact Run.nil.call (.receive (Prod.ext ho rfl))

theorem phase_attentive : attentive.1.link.phase = .connected 0 := by decide +kernel

theorem localFault_attentive : LocalFault (packed [1, 2, 3, 4, 5, 6, 7, 8]) attentive.1
    attentive.2.now (.frame (.payloadTooLarge 13 12)) := by
  have hc : (Cipher.encrypt attentive.1.cipher
      (attentive.1.stamp (packed [1, 2, 3, 4, 5, 6, 7, 8]) attentive.2.now).1.encode).1 =
        .ok (packed [0, 0, 0, 0, 7, 1, 2, 3, 4, 5, 6, 7, 8]) := by decide +kernel
  have hmax : attentive.1.link.maxFrame = 12 := by decide +kernel
  have hlocal := LocalFault.framing hc (by rw [hmax]; decide)
  rw [hmax] at hlocal
  exact hlocal

/-- A message of eight bytes is too large for a frame of twelve and is refused; a small message
is not too large with the cipher of a session. -/
theorem refusal_costs_echo_narrowed :
    (∃ e, attentive.1.send (packed [1, 2, 3, 4, 5, 6, 7, 8]) attentive.2 =
      (.returned (.error (.frame (.payloadTooLarge 13 12))), e, attentive.2) ∧
        e.echo.pending = none) ∧
    ∀ c : SessionCipher, ¬ ∃ n m,
      (send (ofLink Link.nearbyLink c 0 : Endpoint SessionCipher Rat) (packed [1])
        (Link.connect Link.nearby .obliging).2).1 =
          .returned (.error (.frame (.payloadTooLarge n m))) := by
  obtain ⟨hspares, -, hsession⟩ := @refusal_costs_echo SampleCipher Rat _ _
  constructor
  · have hrefused := (hspares _ _ _ _ _ _ (packed [1, 2, 3, 4, 5, 6, 7, 8]) start_narrowed
      run_attentive phase_attentive).refused _ localFault_attentive
    exact ⟨_, hrefused, rfl⟩
  · intro c htoo
    have hlarge := ((hsession _ _ _ _ _ 0 (packed [1]) _ _ _ (start_nearby c) .nil rfl rfl).mp
      htoo).1
    have hfits : ¬ Link.nearbyLink.maxFrame < (packed [1]).size + 45 := by decide
    exact hfits hlarge

/-- A refused message leaves a trace: the record that is sent after it echoes nothing, and
without the call it would have echoed the stamp 7. -/
theorem refusal_drops_echo : ∃ (e₀ e e' : Endpoint SampleCipher Rat) (net₀ net : Network),
    Start e₀ net₀ ∧
    Run e₀ net₀ [.receives (some 0) (.returned (.ok (.payload (packed [9]))))] e net ∧
    e.link.phase = .connected 0 ∧
    e.send (packed [1, 2, 3, 4, 5, 6, 7, 8]) net =
      (.returned (.error (.frame (.payloadTooLarge 13 12))), e', net) ∧
    (e.send (packed [1]) net).1 = .returned (.ok .sent) ∧
    octets ((e.send (packed [1]) net).2.2.pipe 0 .toServer).written =
      Frame.onWire (octets (Record.encode ⟨.toServer, 0, some 7, packed [1]⟩)) ∧
    (e'.send (packed [1]) net).1 = .returned (.ok .sent) ∧
    octets ((e'.send (packed [1]) net).2.2.pipe 0 .toServer).written =
      Frame.onWire (octets (Record.encode ⟨.toServer, 0, none, packed [1]⟩)) := by
  have hrefused := send_of_localFault phase_attentive localFault_attentive
  exact ⟨_, _, _, _, _, start_narrowed, run_attentive, phase_attentive, hrefused,
    by decide +kernel, by decide +kernel, by decide +kernel, by decide +kernel⟩

end Endpoint
end Courier
