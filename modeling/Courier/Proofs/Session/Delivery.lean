import Courier.Proofs.Cipher
import Courier.Proofs.Record
import Courier.Proofs.Session.Run

/-!
# Messages arrive in order, once, or not at all

What an end has put on a stream is the messages that it has sent, sealed and
framed, and after them at most part of a frame. What the other end has read is
the front of those bytes, cut into the same frames. So the messages that it has
received are the first of those that were sent.
-/

namespace Courier

/-- Ciphers of the two ends of a session: whatever one of them seals the other
opens, at any time. -/
structure Cipher.Matched {κ : Type} [Cipher κ] (P : Role → κ → Prop) : Prop where
  keeps : ∀ r, Cipher.Keeps (P r)
  opens : ∀ (r : Role) (c d : κ) (plain body : ByteArray), P r c → P r.opposite d →
    (Cipher.encrypt c plain).1 = .ok body → (Cipher.decrypt d body).1 = .ok plain

/-- The ciphers of a session match if they have one key. -/
theorem SessionCipher.matched (key : SessionKey) :
    Cipher.Matched fun (_ : Role) (c : SessionCipher) => c.key = key where
  keeps _ := ⟨fun _ _ h => h, fun _ _ h => h⟩
  opens := by
    rintro _ c d plain body hc hd h
    exact decrypt_of_encrypt (hd.trans hc.symm) h

namespace Endpoint

variable {κ α : Type} [Cipher κ] {P : Role → κ → Prop} {q r : Role}
  {e₀ e : Endpoint κ α} {net₀ net : Network} {hist : List Event} {tr : List Link.Event} {s : Nat}

theorem Seals.decrypt {payload body : ByteArray} {d : κ} (hm : Cipher.Matched P)
    (h : Seals (P r.opposite) r.opposite payload body) (hd : P r d) :
    ∃ record : Record, (Cipher.decrypt d body).1 = .ok record.encode ∧
      Record.decode record.encode = .ok { record with echo := record.echo.filter (· != noEcho) } ∧
      record.direction = r.incoming ∧ record.payload = payload := by
  obtain ⟨c, record, hc, henc, hdir, hpay⟩ := h
  refine ⟨record, ?_, Record.decode_encode record, ?_, hpay⟩
  · exact hm.opens r.opposite c d _ body hc (by rwa [Role.opposite_opposite]) henc
  · rw [hdir, Role.outgoing_opposite]

theorem Seals.eq_of_opens {payload payload' body : ByteArray} (hm : Cipher.Matched P)
    (hs : Seals (P r.opposite) r.opposite payload body) (ho : Opens (P r) r payload' body) :
    payload' = payload := by
  obtain ⟨d, plain, record', hd, hdec, hdecode, -, rfl⟩ := ho
  obtain ⟨record, hplain, hback, -, rfl⟩ := hs.decrypt hm hd
  rw [hdec] at hplain
  cases hplain
  rw [hback] at hdecode
  cases hdecode
  rfl

/-- What is on a stream from an end that has sent these messages, in frames of at
most some size. -/
structure Posted (P : κ → Prop) (max : Nat) (r : Role) (sent : List ByteArray)
    (stream : List UInt8) (bodies : List ByteArray) (part : List UInt8) : Prop where
  stream_eq : stream = (bodies.map octets).flatMap Frame.onWire ++ part
  sealed : List.Forall₂ (Seals P r) sent bodies
  sizes : ∀ b ∈ bodies, b.size ≤ max
  part : Frame.Begun max part

theorem Posted.mono {P : κ → Prop} {max max' : Nat} {sent bodies : List ByteArray}
    {stream part : List UInt8} (h : Posted P max r sent stream bodies part) (hle : max ≤ max') :
    Posted P max' r sent stream bodies part where
  stream_eq := h.stream_eq
  sealed := h.sealed
  sizes b hb := Nat.le_trans (h.sizes b hb) hle
  part := h.part.mono hle

theorem Posted.exists_seals {P : κ → Prop} {max : Nat} {sent bodies : List ByteArray}
    {stream part : List UInt8} (h : Posted P max r sent stream bodies part) {body : ByteArray}
    (hb : body ∈ bodies) : ∃ payload, Seals P r payload body := by
  obtain ⟨n, hn, rfl⟩ := List.getElem_of_mem hb
  exact ⟨_, h.sealed.get ((h.sealed.length_eq).symm ▸ hn) hn⟩

theorem flatMap_octets_of_framed {frames bodies : List ByteArray}
    (h : List.Forall₂ Framed frames bodies) :
    frames.flatMap octets = (bodies.map octets).flatMap Frame.onWire := by
  induction h with
  | nil => rfl
  | cons hf _ ih => rw [List.flatMap_cons, List.map_cons, List.flatMap_cons, hf.octets_eq, ih]

theorem sizes_of_framed {max : Nat} {frames bodies : List ByteArray}
    (h : List.Forall₂ Framed frames bodies)
    (hmax : ∀ f ∈ frames, f.size ≤ Frame.headerSize + max) : ∀ b ∈ bodies, b.size ≤ max := by
  induction h with
  | nil => simp
  | cons hf _ ih =>
    intro b hb
    rcases List.mem_cons.mp hb with rfl | hb
    · have hle := hmax _ List.mem_cons_self
      rw [hf.size] at hle
      exact Nat.le_of_add_le_add_left hle
    · exact ih (fun f hmem => hmax f (List.mem_cons_of_mem _ hmem)) b hb

theorem Story.posted {P : κ → Prop} (hn : Link.New e₀.link net₀)
    (h : Story P e₀ net₀ hist tr e net) (s : Nat) :
    ∃ bodies part, Posted P e₀.link.maxFrame e₀.link.role (sentOn s hist)
      (octets (net.pipe s e₀.link.role.outgoing).written) bodies part := by
  obtain ⟨bodies, hsealed, hframed⟩ := h.sent s
  obtain ⟨part, hpart, hcut⟩ := (h.run.sending hn (s := s)).written
  rw [h.run.role hn.coherent, flatMap_octets_of_framed hframed] at hpart
  have hsize : ∀ frame ∈ Link.wholeOn s tr, frame.size ≤ Frame.headerSize + e₀.link.maxFrame := by
    intro frame hmem
    obtain ⟨body, hbody, hle⟩ := h.framed s frame _ (Link.writes_of_mem_wholeOn hmem)
    rw [hbody.size]
    exact Nat.add_le_add_left hle _
  refine ⟨bodies, part, hpart, hsealed, sizes_of_framed hframed hsize, ?_⟩
  rcases hcut with rfl | ⟨frame, o, hmem, -, hpre, hlt⟩
  · exact Frame.begun_nil _
  · obtain ⟨body, hbody, hle⟩ := h.framed s frame o hmem
    refine ⟨octets body, ?_, hbody.octets_eq ▸ hpre, ?_⟩
    · rwa [length_octets]
    · rw [← hbody.octets_eq, length_octets]
      exact hlt

end Endpoint

/-- Lists that go with two lists of which one is the front of the other. -/
theorem prefix_of_forall₂ {α β : Type} {R C : α → β → Prop} {xs ys : List α} {front all : List β}
    (hx : List.Forall₂ R xs front) (hy : List.Forall₂ C ys all) (hp : front <+: all)
    (h : ∀ x y z, R x z → C y z → x = y) : xs <+: ys := by
  induction hx generalizing ys all with
  | nil => exact List.nil_prefix
  | @cons x z xs front hr _ ih =>
    obtain ⟨more, rfl⟩ := hp
    cases hy with
    | cons hc hy =>
      rw [h x _ z hr hc]
      exact (List.prefix_cons_inj _).mpr (ih hy (List.prefix_append _ _))

theorem prefix_of_map_octets {a b : List ByteArray} (h : a.map octets <+: b.map octets) :
    a <+: b := by
  have := h.map packed
  simpa [Function.comp_def] using this

namespace Session

variable {κ α : Type} [Cipher κ] [Scalar α] {P : Role → κ → Prop} {S₀ S : Session κ α}
  {tr : List (Role × Endpoint.Event)}

/-- What one end has received on a stream and what the other has put on it. -/
structure Wire (P : Role → κ → Prop) (S : Session κ α) (tr : List (Role × Endpoint.Event))
    (r : Role) (s : Nat) (frames bodies : List ByteArray) (part : List UInt8) : Prop where
  posted : Endpoint.Posted (P r.opposite) Frame.maxDeclared r.opposite (sentBy r.opposite s tr)
    (octets (S.net.pipe s r.incoming).written) bodies part
  coherent : (S.ends r).link.Coherent S.net
  role : (S.ends r).link.role = r
  cipher : P r (S.ends r).cipher
  fresh : (S.ends r).link.Fresh S.net s → (S.net.pipe s r.incoming).taken = 0
  sizes : ∀ f ∈ frames, f.size ≤ (S.ends r).link.maxFrame ∧ f.size ≤ Frame.maxDeclared
  received : ∃ left, octets (S.net.pipe s r.incoming).received =
    (frames.map octets).flatMap Frame.onWire ++ left ∧
      ((S.ends r).link.phase = .connected s → left = octets (S.ends r).link.accumulator.buffer)
  messages : ∃ good bad, frames = good ++ bad ∧
    List.Forall₂ (Endpoint.Opens (P r) r) (receivedBy r s tr) good ∧
      (bad = [] ∨ Link.Gone s (S.ends r).link S.net)

theorem Run.wire (hm : Cipher.Matched P) (hs : Start S₀) (hc : ∀ r, P r (S₀.ends r).cipher)
    (hr : Run S₀ tr S) (r : Role) (s : Nat) :
    ∃ frames bodies part, Wire P S tr r s frames bodies part := by
  obtain ⟨e₀, net₀, hstart, hrole, hcipher, hrun⟩ := hr.seen hs r
  obtain ⟨f₀, net₀', hstart', hrole', hcipher', hrun'⟩ := hr.seen hs r.opposite
  obtain ⟨lt, hstory⟩ := hrun.story (hm.keeps r) hstart (hcipher ▸ hc r)
  obtain ⟨lt', hstory'⟩ := hrun'.story (hm.keeps r.opposite) hstart' (hcipher' ▸ hc r.opposite)
  obtain ⟨bodies, part, hposted⟩ := hstory'.posted hstart'.link.new s
  have hn := hstart.link.new
  have hrecv := hstory.run.receiving hn (s := s)
  have hnow := (hstory.run.role hn.coherent).trans hrole
  have hposted := hposted.mono hstart'.link.new.maxFrame_le_maxDeclared
  rw [hrole', Role.outgoing_opposite] at hposted
  obtain ⟨hfresh, -, hsizes, hreceived⟩ := hrecv
  rw [hnow] at hfresh hreceived
  have hmessages := hstory.received s
  rw [hrole] at hmessages
  exact ⟨Link.framesOn s lt, bodies, part, hposted, hstory.run.coherent hn.coherent, hnow,
    hstory.cipher, hfresh, hsizes, hreceived, hmessages⟩

namespace Wire

variable {r : Role} {s : Nat} {frames bodies : List ByteArray} {part : List UInt8}

omit [Scalar α] in
theorem bodies_sizes (h : Wire P S tr r s frames bodies part) :
    ∀ c ∈ bodies.map octets, c.length ≤ Frame.maxDeclared := by
  intro c hc
  obtain ⟨b, hb, rfl⟩ := List.mem_map.mp hc
  exact h.posted.sizes b hb

omit [Scalar α] in
theorem frames_prefix_bodies (h : Wire P S tr r s frames bodies part) : frames <+: bodies := by
  obtain ⟨left, hleft, -⟩ := h.received
  have hfront := (S.net.pipe s r.incoming).received_prefix_written
  rw [hleft, h.posted.stream_eq] at hfront
  refine prefix_of_map_octets
    (Frame.prefix_of_flatMap_onWire ?_ h.bodies_sizes h.posted.part hfront)
  intro c hc
  obtain ⟨f, hf, rfl⟩ := List.mem_map.mp hc
  exact (h.sizes f hf).2

omit [Scalar α] in
/-- The messages that have been received are the first of those that were sent. -/
theorem received_prefix_sent (h : Wire P S tr r s frames bodies part) (hm : Cipher.Matched P) :
    receivedBy r s tr <+: sentBy r.opposite s tr := by
  obtain ⟨good, bad, rfl, hgood, -⟩ := h.messages
  refine prefix_of_forall₂ hgood h.posted.sealed ?_ fun x y z ho hs => hs.eq_of_opens hm ho
  exact (List.prefix_append good bad).trans h.frames_prefix_bodies

end Wire
end Session
end Courier
