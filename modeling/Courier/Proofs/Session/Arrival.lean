import Courier.Proofs.Session.Delivery

/-!
# Messages that have arrived are received

When everything that an end sent has arrived and nothing has failed, the other
end gets the messages by calling `receive` as often as there are messages left,
each call handing on the next one. So what is sent is delivered in full.
-/

namespace Courier

namespace Endpoint

variable {κ α : Type} [Cipher κ] {P : Role → κ → Prop} {r : Role} {s : Nat} {e e' : Endpoint κ α}
  {net net' : Network} {later : List (Timed Arrival)}

/-- An end that has this stream and can read these sealed messages from it at
once. -/
structure Ready (P : Role → κ → Prop) (r : Role) (s : Nat) (later : List (Timed Arrival))
    (e : Endpoint κ α) (net : Network) (bodies : List ByteArray) (tail : List UInt8) : Prop where
  phase : e.link.phase = .connected s
  writing : e.link.writing = false
  role : e.link.role = r
  cipher : P r e.cipher
  arrived : (net.pipe s r.incoming).Arrived net.now later
  bytes : octets e.link.accumulator.buffer ++ (net.pipe s r.incoming).unread =
    (bodies.map octets).flatMap Frame.onWire ++ tail
  sizes : ∀ b ∈ bodies, b.size ≤ e.link.maxFrame ∧ b.size ≤ Frame.maxDeclared

theorem openFrame_of_seals {payload body : ByteArray} (hm : Cipher.Matched P)
    (hs : Seals (P r.opposite) r.opposite payload body) (hr : e.link.role = r)
    (hc : P r e.cipher) :
    ∃ record e', e.openFrame body = (.ok record, e') ∧ record.payload = payload := by
  obtain ⟨record, hdec, hback, hdir, rfl⟩ := hs.decrypt hm hc
  have hpair : Cipher.decrypt e.cipher body =
      (.ok record.encode, (Cipher.decrypt e.cipher body).2) := Prod.ext hdec rfl
  unfold openFrame
  rw [hpair]
  dsimp only
  rw [hback]
  dsimp only
  rw [if_pos (by rw [hr]; exact hdir)]
  exact ⟨_, _, rfl, rfl⟩

/-- One call hands on the next message. -/
theorem Ready.receive [Scalar α] {payload body : ByteArray} {bodies : List ByteArray}
    {tail : List UInt8} (hm : Cipher.Matched P)
    (h : Ready P r s later e net (body :: bodies) tail)
    (hs : Seals (P r.opposite) r.opposite payload body) :
    ∃ e' net', e.receive net = (.returned (.ok (.payload payload)), e', net') ∧
      Ready P r s later e' net' bodies tail := by
  obtain ⟨hsize, hd⟩ := h.sizes body List.mem_cons_self
  have hbytes := h.bytes
  rw [List.map_cons, List.flatMap_cons, List.append_assoc] at hbytes
  obtain ⟨a, after, hgather, hmax, -, harrived, hrest⟩ :=
    Link.gather_of_arrived (net.now + e.link.ioTimeout) hsize hd h.arrived hbytes
  -- reading the frame
  generalize hread : e.link.readFrame net = w
  obtain ⟨o, link, net'⟩ := w
  obtain ⟨a', hg, hlink⟩ := Link.readFrame_connected h.phase h.writing hread
  rw [h.role, hgather] at hg
  cases hg
  have hphase : link.phase = .connected s := by rw [hlink, ← h.phase]
  have hwriting : link.writing = false := by rw [hlink, ← h.writing]
  have hrole : link.role = r := by rw [hlink, ← h.role]
  have hheld : link.accumulator = a := by rw [hlink]
  -- opening what is in it
  obtain ⟨record, e₁, hopen, rfl⟩ := openFrame_of_seals (e := { e with link }) hm hs hrole h.cipher
  obtain ⟨hlink₁, hcipher, -⟩ := openFrame_spec (e := { e with link }) (hm.keeps r) h.cipher hopen
  have hlink₁ : e₁.link = link := hlink₁
  have hrecord : e.receiveRecord net =
      (.returned (.ok (some record.payload)), e₁.heed record after.now, after) := by
    unfold receiveRecord
    rw [hread]
    dsimp only
    rw [hopen]
  refine ⟨e₁.heed record after.now, after, ?_, ?_⟩
  · unfold Endpoint.receive
    rw [h.phase]
    dsimp only
    unfold receiveConnected
    rw [hrecord]
  · refine ⟨?_, ?_, ?_, ?_, harrived, ?_, ?_⟩ <;>
      simp only [link_heed, cipher_heed, hlink₁]
    · exact hphase
    · exact hwriting
    · exact hrole
    · exact hcipher
    · rw [hheld]
      exact hrest
    · intro b hb
      have := h.sizes b (List.mem_cons_of_mem _ hb)
      rwa [Link.maxFrame, ← hmax, ← hheld] at this

/-- So many calls of `receive`, one after the other. -/
def receives [Scalar α] : Nat → Endpoint κ α → Network →
    List (Call (Except Failure Received)) × Endpoint κ α × Network
  | 0, e, net => ([], e, net)
  | n + 1, e, net =>
    let (o, e, net) := e.receive net
    let (os, e, net) := receives n e net
    (o :: os, e, net)

theorem receives_of_ready [Scalar α] {payloads bodies : List ByteArray} {tail : List UInt8}
    (hm : Cipher.Matched P) (hs : List.Forall₂ (Seals (P r.opposite) r.opposite) payloads bodies)
    (h : Ready P r s later e net bodies tail) :
    (receives payloads.length e net).1 =
      payloads.map fun b => .returned (.ok (.payload b)) := by
  induction hs generalizing e net with
  | nil => rfl
  | cons hseal _ ih =>
    obtain ⟨e', net', hreceive, hready⟩ := h.receive hm hseal
    rw [List.length_cons, receives, hreceive]
    dsimp only
    rw [List.map_cons, ih hready]

/-- The end has the stream and no write on it has failed, or it takes the stream
with its next call. -/
inductive Has (s : Nat) (e : Endpoint κ α) (net : Network) : Prop
  | connected (hp : e.link.phase = .connected s) (hw : e.link.writing = false)
  | listening {peer : Address} {due : Nat} {rest : List (Timed Visit)}
      (hl : e.link.phase = .listening) (hv : net.visits = ⟨due, .arrives s peer⟩ :: rest)
      (hdue : due ≤ net.now)

omit [Cipher κ] in
theorem Has.not_gone (h : Has s e net) : ¬ Link.Gone s e.link net := by
  intro hg
  cases h with
  | connected hp => exact hg.phase hp
  | listening hl => exact hg.fresh (.inl hl)

/-- The state in which the next call of `receive` reads from the stream. -/
structure Joined (s : Nat) (e : Endpoint κ α) (net : Network) (e₁ : Endpoint κ α)
    (net₁ : Network) : Prop where
  phase : e₁.link.phase = .connected s
  writing : e₁.link.writing = false
  role : e₁.link.role = e.link.role
  accumulator : e₁.link.accumulator = e.link.accumulator
  cipher : e₁.cipher = e.cipher
  net_eq : net₁ = { net with visits := net₁.visits }

theorem Has.joined [Scalar α] (h : Has s e net) (hc : e.link.Coherent net) :
    ∃ e₁ net₁, e.receive net = e₁.receive net₁ ∧ Joined s e net e₁ net₁ := by
  cases h with
  | connected hp hw => exact ⟨e, net, rfl, hp, hw, rfl, rfl, rfl, rfl⟩
  | @listening peer due rest hl hv hdue =>
    have hw : e.link.writing = false := hc.writing_eq_false (by simp [Link.stream?, hl])
    have haccept : e.link.accept net =
        (.returned (.ok true), { e.link with phase := .connected s, remote := some peer },
          { net with visits := rest }) := by
      unfold Link.accept
      rw [hl, Network.welcome_due hv hdue]
    refine ⟨{ e with link := { e.link with phase := .connected s, remote := some peer } },
      { net with visits := rest }, ?_, rfl, hw, rfl, rfl, rfl, rfl⟩
    unfold receive
    rw [hl]
    dsimp only
    rw [haccept]

end Endpoint

namespace Session

open Simulation (SampleCipher)

variable {κ α : Type} [Cipher κ] [Scalar α] {P : Role → κ → Prop} {S₀ S : Session κ α}
  {tr : List (Role × Endpoint.Event)} {r : Role} {s : Nat} {frames bodies : List ByteArray}
  {part : List UInt8}

namespace Wire

omit [Scalar α] in
/-- What an end has taken from a stream that it has: the frames that it has read
and the bytes that it holds. -/
theorem received_eq (h : Wire P S tr r s frames bodies part) (hs : (S.ends r).Has s S.net) :
    octets (S.net.pipe s r.incoming).received =
      (frames.map octets).flatMap Frame.onWire ++ octets (S.ends r).link.accumulator.buffer := by
  obtain ⟨left, hleft, hheld⟩ := h.received
  cases hs with
  | connected hp => rw [hleft, hheld hp]
  | listening hl =>
    have hnone := Link.Receiving.received_of_taken (h.fresh (.inl hl))
    rw [hleft] at hnone
    rw [hleft, (List.append_eq_nil_iff.mp hnone).2, (h.coherent.listening hl).2]
    rfl

omit [Scalar α] in
theorem remaining (h : Wire P S tr r s frames bodies part) (hs : (S.ends r).Has s S.net) :
    ∃ rest, bodies = frames ++ rest ∧
      octets (S.ends r).link.accumulator.buffer ++ (S.net.pipe s r.incoming).unread =
        (rest.map octets).flatMap Frame.onWire ++ part ∧
      List.Forall₂ (Endpoint.Seals (P r.opposite) r.opposite)
        ((sentBy r.opposite s tr).drop (receivedBy r s tr).length) rest := by
  obtain ⟨rest, rfl⟩ := h.frames_prefix_bodies
  refine ⟨rest, rfl, ?_, ?_⟩
  · have hall := (S.net.pipe s r.incoming).received_append_unread
    rw [h.received_eq hs, h.posted.stream_eq, List.map_append, List.flatMap_append,
      List.append_assoc, List.append_assoc] at hall
    exact List.append_cancel_left hall
  · obtain ⟨good, bad, rfl, hgood, hbad⟩ := h.messages
    have hnone : bad = [] := hbad.resolve_right hs.not_gone
    have hdrop := List.forall₂_drop (receivedBy r s tr).length h.posted.sealed
    rwa [hgood.length_eq, hnone, List.append_nil, List.drop_left, ← hgood.length_eq] at hdrop

omit [Scalar α] in
theorem mem_split (h : Wire P S tr r s frames bodies part) {b : ByteArray} (hb : b ∈ bodies) :
    octets b ∈
      (Frame.split Frame.maxDeclared (octets (S.net.pipe s r.incoming).written)).frames := by
  rw [h.posted.stream_eq, Frame.split_flatMap_onWire_append]
  · exact List.mem_append_left _ (List.mem_map_of_mem hb)
  · intro c hc
    exact ⟨h.bodies_sizes c hc, h.bodies_sizes c hc⟩

end Wire

/-- Two ends on one machine, with ciphers that mask every byte. -/
def nearby : Session SampleCipher Rat :=
  .of (.ofLink (Link.listening {} 9000) (.masked 7) 0) (.ofLink Link.nearbyLink (.masked 7) 0)
    (Link.connect Link.nearby (Link.listen {} .obliging).2).2

theorem start_nearby : Start nearby := by
  have hserver : Endpoint.server {} (SampleCipher.masked 7) .obliging =
      (.ok (.ofLink (Link.listening {} 9000) (.masked 7) 0 : Endpoint SampleCipher Rat),
        (Link.listen {} .obliging).2) := rfl
  have hclient : Endpoint.client Link.nearby (SampleCipher.masked 7) (Link.listen {} .obliging).2 =
      (.returned (.ok (.ofLink Link.nearbyLink (.masked 7) 0 : Endpoint SampleCipher Rat)),
        (Link.connect Link.nearby (Link.listen {} .obliging).2).2) := rfl
  exact .intro Network.untouched_obliging hserver
    ⟨fun _ _ => rfl, fun _ _ => rfl, Nat.le_refl _⟩ hclient

theorem matched_masked (key : UInt8) :
    Cipher.Matched fun (_ : Role) c => c = SampleCipher.masked key where
  keeps _ := by
    constructor
    · rintro _ x rfl
      rfl
    · rintro _ x rfl
      change (SampleCipher.decrypt _ _).2 = _
      unfold SampleCipher.decrypt
      dsimp only
      split <;> rfl
  opens := by
    rintro _ _ _ plain body rfl rfl h
    cases h
    change (SampleCipher.decrypt _ _).1 = _
    have hcancel : ∀ x : UInt8, x ^^^ key ^^^ key = x := fun x => by
      rw [UInt8.xor_assoc, UInt8.xor_self, UInt8.xor_zero]
    simp [SampleCipher.decrypt, Function.comp_def, hcancel]

/-- The session in which the client has sent a message. -/
def sentNearby : Session SampleCipher Rat :=
  let sent := (nearby.ends .client).send (packed [1, 2]) nearby.net
  nearby.act .client sent.2.1 sent.2.2

theorem run_nearby : Run nearby
    [(.client, .sends (some 0) (packed [1, 2]) (.returned (.ok .sent)))] sentNearby := by
  have ho : ((nearby.ends .client).send (packed [1, 2]) nearby.net).1 =
      .returned (.ok .sent) := by decide +kernel
  have hstream : ((nearby.ends .client).send (packed [1, 2]) nearby.net).2.1.link.stream? =
      some 0 := by decide +kernel
  rw [← hstream]
  exact Run.nil.call (.send (Prod.ext ho rfl))

/-- Whatever the two ends do and whatever happens to the stream, what one end has
received on it is the front of what the other has sent. Once the rest has arrived,
an end that has the stream and admits the frames on it gets this rest by as many
calls as there are messages in it. -/
theorem Run.delivers (hm : Cipher.Matched P) (hs : Start S₀) (hc : ∀ r, P r (S₀.ends r).cipher)
    (hr : Run S₀ tr S) (r : Role) (s : Nat) :
    receivedBy r s tr <+: sentBy r.opposite s tr ∧
    ∀ rest later, sentBy r.opposite s tr = receivedBy r s tr ++ rest →
      (S.ends r).Has s S.net → (S.net.pipe s r.incoming).Arrived S.net.now later →
      (∀ c ∈ (Frame.split Frame.maxDeclared (octets (S.net.pipe s r.incoming).written)).frames,
        c.length ≤ (S.ends r).link.maxFrame) →
      (Endpoint.receives rest.length (S.ends r) S.net).1 =
        rest.map fun b => .returned (.ok (.payload b)) := by
  obtain ⟨frames, bodies, part, h⟩ := hr.wire hm hs hc r s
  refine ⟨h.received_prefix_sent hm, ?_⟩
  intro rest later hsent hhas harr hwide
  obtain ⟨left, hbodies, hbytes, hsealed⟩ := h.remaining hhas
  rw [hsent, List.drop_left] at hsealed
  obtain ⟨e₁, net₁, hsame, hjoined⟩ := hhas.joined h.coherent
  have hpipe : net₁.pipe = S.net.pipe := by rw [hjoined.net_eq]
  have hnow : net₁.now = S.net.now := by rw [hjoined.net_eq]
  have hready : Endpoint.Ready P r s later e₁ net₁ left part := by
    refine ⟨hjoined.phase, hjoined.writing, hjoined.role.trans h.role, ?_, ?_, ?_, ?_⟩
    · rw [hjoined.cipher]
      exact h.cipher
    · rw [hpipe, hnow]
      exact harr
    · rw [hjoined.accumulator, hpipe]
      exact hbytes
    · intro b hb
      have hmem : b ∈ bodies := by
        rw [hbodies]
        exact List.mem_append_right _ hb
      rw [Link.maxFrame, hjoined.accumulator]
      exact ⟨hwide _ (h.mem_split hmem), h.posted.sizes b hmem⟩
  rw [← Endpoint.receives_of_ready hm hsealed hready]
  cases rest with
  | nil => rfl
  | cons b rest =>
    rw [List.length_cons, Endpoint.receives, Endpoint.receives, hsame]

/-- The server gets the message by its first call. -/
theorem delivers_nearby : ∃ tr S, Run nearby tr S ∧ sentBy .client 0 tr = [packed [1, 2]] ∧
    receivedBy .server 0 tr = [] ∧
    (Endpoint.receives 1 (S.ends .server) S.net).1 =
      [.returned (.ok (.payload (packed [1, 2])))] := by
  have hciphers : ∀ r, (nearby.ends r).cipher = .masked 7 := by
    intro r
    cases r <;> rfl
  have hhas : (sentNearby.ends .server).Has 0 sentNearby.net := by
    have hvisits : sentNearby.net.visits = [⟨0, .arrives 0 ⟨.v4 127 0 0 1, 50000⟩⟩] := by
      decide +kernel
    exact .listening rfl hvisits (Nat.zero_le _)
  have hscript : (sentNearby.net.pipe 0 .toServer).arrivals = [⟨0, .upTo 1000⟩] := by
    decide +kernel
  have hsize : (sentNearby.net.pipe 0 .toServer).written.size = 12 := by decide +kernel
  have hfits : (sentNearby.net.pipe 0 .toServer).written.size ≤ 1000 := by
    rw [hsize]
    decide
  have harr : (sentNearby.net.pipe 0 .toServer).Arrived sentNearby.net.now [] := by
    refine ⟨[⟨0, .upTo 1000⟩], hscript, .inr ⟨_, List.mem_singleton_self _, 1000, rfl, hfits⟩, ?_⟩
    intro x hx
    rw [List.mem_singleton.mp hx]
    exact ⟨Nat.zero_le _, 1000, rfl⟩
  have hwide : ((Frame.split Frame.maxDeclared
      (octets (sentNearby.net.pipe 0 .toServer).written)).frames.all
        (·.length ≤ Frame.maxSize)) = true := by decide +kernel
  obtain ⟨-, hall⟩ :=
    run_nearby.delivers (matched_masked 7) start_nearby hciphers .server 0
  refine ⟨_, _, run_nearby, rfl, rfl, hall [packed [1, 2]] [] rfl hhas harr ?_⟩
  intro c hc
  exact of_decide_eq_true (List.all_eq_true.mp hwide c hc)

end Session
end Courier
