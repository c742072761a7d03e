import Courier.Proofs.Endpoint.Faults
import Courier.Proofs.Session.Arrival

/-!
# How a frame is judged

A frame that has been read is a message if it can be opened, holds a header, and
names the way to us in its first byte; `verdict` says so of the bytes, and why not,
in the order in which it is looked at. What is no message leaves no trace in what an
endpoint knows of its peer. Frames of its own are of this kind: whoever shares the
key opens them, and finds the wrong way in them.
-/

namespace Courier

namespace Endpoint

open Simulation (SampleCipher)

variable {κ α : Type} [Cipher κ] {P : κ → Prop} {e₀ e e' e₁ : Endpoint κ α}
  {net₀ net net' net₁ net₂ : Network} {hist : List Event} {f : Failure} {frame : ByteArray}
  {link : Link}

/-! ## The verdict on the bytes -/

/-- What an end makes of what a frame was opened to. -/
def verdict (r : Role) : Except CipherError ByteArray → Except Failure ByteArray
  | .error x => .error (.ofCipher x)
  | .ok plain =>
    match octets plain with
    | m :: _ :: _ :: _ :: _ :: payload =>
      if m = r.incoming.marker then .ok (packed payload)
      else if m = r.outgoing.marker then .error .unexpectedDirection
      else .error (.record (.invalidDirection m))
    | short => .error (.record (.tooShort 5 short.length))

theorem verdict_of_short {r : Role} {plain : ByteArray} (h : plain.size < Record.headerSize) :
    verdict r (.ok plain) = .error (.record (.tooShort Record.headerSize plain.size)) := by
  unfold verdict
  dsimp only
  split
  · rename_i heq
    have hlen := congrArg List.length heq
    simp only [length_octets, List.length_cons] at hlen
    simp only [Record.headerSize] at h
    omega
  · rw [length_octets]
    rfl

/-- A message has a header in front, whose first byte names the way to us. -/
theorem verdict_eq_ok_iff {r : Role} {d : Except CipherError ByteArray} {p : ByteArray} :
    verdict r d = .ok p ↔ ∃ plain, d = .ok plain ∧ Record.headerSize ≤ plain.size ∧
      (octets plain).head? = some r.incoming.marker ∧
      octets p = (octets plain).drop Record.headerSize := by
  cases d with
  | error x => simp [verdict]
  | ok plain =>
    by_cases hshort : plain.size < Record.headerSize
    · rw [verdict_of_short hshort]
      simp [Nat.not_le.mpr hshort]
    · have hle := Nat.le_of_not_lt hshort
      obtain ⟨m, s₁, s₀, e₁, e₀, rest, hoct⟩ := Record.exists_header hle
      have hdrop : (m :: s₁ :: s₀ :: e₁ :: e₀ :: rest).drop Record.headerSize = rest := rfl
      simp only [verdict, hoct, Except.ok.injEq, exists_eq_left', hle, true_and, List.head?_cons,
        Option.some.injEq, hdrop]
      by_cases hm : m = r.incoming.marker
      · rw [if_pos hm, Except.ok.injEq, eq_comm, ← octets_inj, octets_packed]
        simp [hm]
      · rw [if_neg hm]
        split <;> simp [hm]

theorem openFrame_verdict (e : Endpoint κ α) (frame : ByteArray) :
    (e.openFrame frame).1.map Record.payload =
      verdict e.link.role (Cipher.decrypt e.cipher frame).1 := by
  unfold openFrame
  generalize Cipher.decrypt e.cipher frame = d
  obtain ⟨r, cipher⟩ := d
  cases r with
  | error x => rfl
  | ok plain =>
    dsimp only
    by_cases hshort : plain.size < Record.headerSize
    · rw [Record.decode_of_short hshort, verdict_of_short hshort]
      rfl
    · obtain ⟨m, s₁, s₀, e₁, e₀, rest, hoct⟩ := Record.exists_header (Nat.le_of_not_lt hshort)
      rw [Record.decode_of_octets hoct, e.link.role.ofMarker?_eq m]
      simp only [verdict, hoct]
      by_cases hin : m = e.link.role.incoming.marker
      · simp only [hin, if_true]
        rfl
      · by_cases hout : m = e.link.role.outgoing.marker
        · simp only [hin, if_false, if_pos hout]
          rw [if_neg e.link.role.incoming_ne_outgoing.symm]
          rfl
        · simp only [hin, hout, if_false]
          rfl

/-! ## What is left of a frame -/

/-- What is known of the peer is what it was. -/
structure Unmoved (e e' : Endpoint κ α) : Prop where
  roundTrip : e'.roundTrip = e.roundTrip
  echo : e'.echo = e.echo
  lastHeard : e'.lastHeard = e.lastHeard

theorem receiveRecord_verdict [Scalar α]
    (h : e.link.readFrame net = (.returned (.ok (some frame)), link, net')) :
    (e.receiveRecord net).1 =
        .returned ((verdict e.link.role (Cipher.decrypt e.cipher frame).1).map some) ∧
      ∀ f, verdict e.link.role (Cipher.decrypt e.cipher frame).1 = .error f →
        Unmoved e (e.receiveRecord net).2.1 := by
  have hrole : link.role = e.link.role := by
    have := e.link.role_readFrame net
    rwa [h] at this
  have hverdict := openFrame_verdict { e with link } frame
  have hsnd := openFrame_snd { e with link } frame
  dsimp only at hverdict
  rw [hrole] at hverdict
  rw [← hverdict]
  unfold receiveRecord
  rw [h]
  dsimp only
  generalize openFrame { e with link } frame = opened at hsnd
  obtain ⟨f | record, e₁⟩ := opened
  · subst hsnd
    exact ⟨rfl, fun _ _ => ⟨rfl, rfl, rfl⟩⟩
  · exact ⟨rfl, nofun⟩

omit [Cipher κ] in
theorem unmoved_attends (h : Attends e net e₁ net₁) : Unmoved e e₁ := by
  cases h <;> exact ⟨rfl, rfl, rfl⟩

/-- How a call goes that has read a frame which is no message. -/
structure Refuses [Scalar α] (e : Endpoint κ α) (net : Network) (e₁ : Endpoint κ α)
    (net₁ : Network) (f : Failure) : Prop where
  record : (e₁.receiveRecord net₁).1 = .returned (.error f)
  answer : (e.receive net).1 = .returned (reported e.link.role f)
  unmoved : Unmoved e (e.receive net).2.1

theorem refuses_of_verdict [Scalar α] (ha : Attends e net e₁ net₁)
    (h : e₁.link.readFrame net₁ = (.returned (.ok (some frame)), link, net₂))
    (hf : verdict e.link.role (Cipher.decrypt e.cipher frame).1 = .error f) :
    Refuses e net e₁ net₁ f := by
  rw [← ha.role, ← ha.cipher] at hf
  obtain ⟨hjudged, hunmoved⟩ := receiveRecord_verdict h
  have hrecord : (e₁.receiveRecord net₁).1 = .returned (.error f) := by
    rw [hjudged, hf]
    rfl
  have hfault := receiveRecord_error_iff.mp hrecord
  obtain ⟨e', net', hconn, -⟩ := receiveConnected_of_fault hfault
  have hanswer : (e.receive net).1 = .returned (reported e.link.role f) := by
    rw [ha.receive_eq, hconn, ha.role]
  refine ⟨hrecord, hanswer, ?_⟩
  -- nothing moves before the frame is read, when it is judged, or when the stream is lost
  have hfirst := unmoved_attends ha
  have hrest := hunmoved f hf
  have hlast : Unmoved (e₁.receiveRecord net₁).2.1 (e.receive net).2.1 := by
    rw [ha.receive_eq]
    unfold receiveConnected
    generalize e₁.receiveRecord net₁ = w at hrecord
    obtain ⟨r, e₂, after⟩ := w
    cases hrecord
    dsimp only
    split <;> exact ⟨rfl, rfl, rfl⟩
  exact ⟨hlast.roundTrip.trans (hrest.roundTrip.trans hfirst.roundTrip),
    hlast.echo.trans (hrest.echo.trans hfirst.echo),
    hlast.lastHeard.trans (hrest.lastHeard.trans hfirst.lastHeard)⟩

theorem receive_payload_iff [Scalar α] {p : ByteArray} (ha : Attends e net e₁ net₁)
    (h : e₁.link.readFrame net₁ = (.returned (.ok (some frame)), link, net₂)) :
    (e.receive net).1 = .returned (.ok (.payload p)) ↔
      verdict e.link.role (Cipher.decrypt e.cipher frame).1 = .ok p := by
  cases hv : verdict e.link.role (Cipher.decrypt e.cipher frame).1 with
  | error f =>
    rw [(refuses_of_verdict ha h hv).answer]
    unfold reported
    cases e.link.role with
    | server => simp
    | client => cases f.isViolation <;> simp
  | ok payload =>
    rw [← ha.role, ← ha.cipher] at hv
    have hrecord : (e₁.receiveRecord net₁).1 = .returned (.ok (some payload)) := by
      rw [(receiveRecord_verdict h).1, hv]
      rfl
    rw [ha.receive_eq]
    unfold receiveConnected
    generalize e₁.receiveRecord net₁ = w at hrecord
    obtain ⟨r, e₂, after⟩ := w
    cases hrecord
    simp

/-! ## Frames of one's own -/

theorem exists_seals_of_mem_split [Scalar α] {tr : List Link.Event} {t : Nat}
    {content : List UInt8} (hn : Link.New e₀.link net₀) (h : Story P e₀ net₀ hist tr e net)
    (hmem : content ∈ (Frame.split Frame.maxDeclared
      (octets (net.pipe t e₀.link.role.outgoing).written)).frames) :
    ∃ payload, Seals P e₀.link.role payload (packed content) := by
  obtain ⟨bodies, part, hposted⟩ := h.posted hn t
  have hmax := hn.maxFrame_le_maxDeclared
  have hsizes : ∀ c ∈ bodies.map octets, c.length ≤ Frame.maxDeclared ∧
      c.length ≤ Frame.maxDeclared := by
    intro c hc
    obtain ⟨b, hb, rfl⟩ := List.mem_map.mp hc
    exact ⟨Nat.le_trans (hposted.sizes b hb) hmax, Nat.le_trans (hposted.sizes b hb) hmax⟩
  rw [hposted.stream_eq, Frame.split_flatMap_onWire_append part hsizes,
    (hposted.part.mono hmax).split_eq (Nat.le_refl _), List.append_nil] at hmem
  obtain ⟨body, hbody, rfl⟩ := List.mem_map.mp hmem
  rw [packed_octets]
  exact hposted.exists_seals hbody

/-- What an end has sealed itself goes the wrong way when it comes back. -/
theorem verdict_of_seals {r : Role} {payload body : ByteArray} {d : κ}
    (hm : Cipher.Matched fun _ : Role => P) (hs : Seals P r payload body) (hd : P d) :
    verdict r (Cipher.decrypt d body).1 = .error .unexpectedDirection := by
  obtain ⟨c, record, hc, henc, hdir, -⟩ := hs
  rw [hm.opens r c d _ body hc hd henc]
  have hsize : Record.headerSize ≤ record.encode.size := by simp
  obtain ⟨m, s₁, s₀, e₁, e₀, rest, hoct⟩ := Record.exists_header hsize
  have hmarker : m = r.outgoing.marker := by
    have hhead : (octets record.encode).head? = some record.direction.marker := by
      simp [Record.encode, Record.header]
    rw [hoct, hdir] at hhead
    exact Option.some.inj hhead
  have hne : m ≠ r.incoming.marker := by
    rw [hmarker]
    cases r <;> decide
  simp only [verdict, hoct]
  rw [if_neg hne, if_pos hmarker]

/-- Which frames an endpoint takes for messages, whatever its cipher and whichever they are,
and what it makes of the others: it knows what is wrong with them, gives them no effect but
the loss of the stream, and says of them what its role lets it say. And if whoever has the
key can open whatever was sealed with it, the frames that an endpoint has put on a stream
itself are none, whenever they come back to it and on whichever stream. -/
theorem frames_judged [Scalar α] :
    (∀ (e : Endpoint κ α) net e₁ net₁ frame link net₂, Attends e net e₁ net₁ →
      e₁.link.readFrame net₁ = (.returned (.ok (some frame)), link, net₂) →
      (∀ p, (e.receive net).1 = .returned (.ok (.payload p)) ↔
        ∃ plain, (Cipher.decrypt e.cipher frame).1 = .ok plain ∧ 5 ≤ plain.size ∧
          (octets plain).head? = some e.link.role.incoming.marker ∧
          octets p = (octets plain).drop 5) ∧
      ∀ f, verdict e.link.role (Cipher.decrypt e.cipher frame).1 = .error f →
        Refuses e net e₁ net₁ f) ∧
    ∀ (P : κ → Prop) (e₀ : Endpoint κ α) net₀ hist e net e₁ net₁ frame link net₂ t,
      Cipher.Matched (fun _ : Role => P) → P e₀.cipher → Start e₀ net₀ →
      Run e₀ net₀ hist e net → Attends e net e₁ net₁ →
      e₁.link.readFrame net₁ = (.returned (.ok (some frame)), link, net₂) →
      octets frame ∈ (Frame.split Frame.maxDeclared
        (octets (net.pipe t e₀.link.role.outgoing).written)).frames →
      Refuses e net e₁ net₁ .unexpectedDirection := by
  constructor
  · intro e net e₁ net₁ frame link net₂ ha h
    refine ⟨fun p => ?_, fun f hf => refuses_of_verdict ha h hf⟩
    rw [receive_payload_iff ha h]
    exact verdict_eq_ok_iff
  · intro P e₀ net₀ hist e net e₁ net₁ frame link net₂ t hm hp hs hr ha h hmem
    obtain ⟨tr, hstory⟩ := hr.story (hm.keeps .server) hs hp
    obtain ⟨payload, hseals⟩ := exists_seals_of_mem_split hs.link.new hstory hmem
    rw [packed_octets] at hseals
    have hrole := (hr.coherent hs).2.1
    refine refuses_of_verdict ha h ?_
    rw [hrole]
    exact verdict_of_seals hm hseals hstory.cipher

/-- What a client next door has sent, come back to it. -/
def reflected : Network :=
  sentNearby.2.setPipe 0 .toClient
    { sentNearby.2.pipe 0 .toClient with written := (sentNearby.2.pipe 0 .toServer).written }

theorem drift_reflected : sentNearby.2.Drift sentNearby.1.link.role reflected := by
  have hrole : sentNearby.1.link.role = .client := by decide +kernel
  have hnone : octets (sentNearby.2.pipe 0 .toClient).written = [] := by decide +kernel
  rw [hrole]
  refine Network.drift_setPipe rfl ?_
  change octets (sentNearby.2.pipe 0 .toClient).written <+: _
  rw [hnone]
  exact List.nil_prefix

/-- A frame that holds no record, and one that a client gets back. -/
theorem frames_judged_reflected :
    (∃ e₁ net₁, Refuses waited.1 waited.2 e₁ net₁ (.record (.tooShort 5 0))) ∧
    ∃ e₁ net₁, Refuses sentNearby.1 reflected e₁ net₁ .unexpectedDirection := by
  obtain ⟨hjudged, hown⟩ := @frames_judged SampleCipher Rat _ _
  constructor
  · have hp : waited.1.link.phase = .connected 0 := by decide +kernel
    have hread : (waited.1.link.readFrame waited.2).1 =
        .returned (.ok (some (packed [7]))) := by decide +kernel
    have hverdict : verdict waited.1.link.role (Cipher.decrypt waited.1.cipher (packed [7])).1 =
        .error (.record (.tooShort 5 0)) := by decide +kernel
    exact ⟨_, _, (hjudged _ _ _ _ _ _ _ (.held hp) (Prod.ext hread rfl)).2 _ hverdict⟩
  · have hp : sentNearby.1.link.phase = .connected 0 := by decide +kernel
    have hread : (sentNearby.1.link.readFrame reflected).1 =
        .returned (.ok (some (packed [7, 7, 7, 248, 248, 6, 5, 7]))) := by decide +kernel
    have hmem : octets (packed [7, 7, 7, 248, 248, 6, 5, 7]) ∈ (Frame.split Frame.maxDeclared
        (octets (reflected.pipe 0 .toServer).written)).frames := by
      have hframes : (Frame.split Frame.maxDeclared
          (octets (reflected.pipe 0 .toServer).written)).frames =
            [[7, 7, 7, 248, 248, 6, 5, 7]] := by decide +kernel
      rw [hframes, octets_packed]
      exact List.mem_singleton_self _
    exact ⟨_, _, hown (· = .masked 7) _ _ _ _ _ _ _ _ _ _ _ (Session.matched_masked 7) rfl
      (start_nearby _) (run_nearby.drift drift_reflected) (.held hp) (Prod.ext hread rfl) hmem⟩

end Endpoint
end Courier
