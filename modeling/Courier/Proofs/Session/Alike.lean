import Courier.Proofs.Endpoint.Sending
import Courier.Proofs.Link.Alike
import Courier.Proofs.Session.Delivery

/-!
# Ends that carry other messages

Two ends are alike if they differ at most in the bytes that they hold and in their
ciphers. Records of one size with the same stamps are sealed to bodies of one size, and
what the other ends open them to has the same stamps again. So a call with a message of
the same size comes to the same on both, but for the bytes of a message received.
-/

namespace Courier

/-- Whether sealing succeeds, and how many bytes it yields, goes by the number of bytes
that are sealed and by nothing else. -/
def Cipher.Uniform {κ : Type} [Cipher κ] (P Q : Role → κ → Prop) : Prop :=
  ∀ r c c' (x x' : ByteArray), P r c → Q r c' → x.size = x'.size →
    (Cipher.encrypt c x).1.map ByteArray.size = (Cipher.encrypt c' x').1.map ByteArray.size

/-- The cipher of a session goes by sizes, whatever the keys and the nonces are. -/
theorem SessionCipher.uniform (P Q : Role → SessionCipher → Prop) : Cipher.Uniform P Q := by
  intro r c c' x x' _ _ hx
  rw [map_size_encrypt, map_size_encrypt, hx]

/-- Records with the same header and as many bytes of payload. -/
structure Record.Alike (x y : Record) : Prop where
  direction : x.direction = y.direction
  stamp : x.stamp = y.stamp
  echo : x.echo = y.echo
  payload : x.payload.size = y.payload.size

namespace Endpoint

variable {κ α : Type} [Cipher κ] {P Q : Role → κ → Prop} {r : Role}
  {e e' f f' : Endpoint κ α} {a a' b b' : Network} {payload payload' : ByteArray}

/-- What two ends in one role have sealed: records that are alike. -/
def Counterparts (P Q : Role → κ → Prop) (r : Role) (body body' : ByteArray) : Prop :=
  ∃ (c c' : κ) (x x' : Record), P r c ∧ Q r c' ∧ (Cipher.encrypt c x.encode).1 = .ok body ∧
    (Cipher.encrypt c' x'.encode).1 = .ok body' ∧ x.direction = r.outgoing ∧ x.Alike x'

/-- The ends differ at most in the bytes that they hold and in their ciphers. -/
structure Alike (e f : Endpoint κ α) : Prop where
  link : e.link.Alike f.link
  roundTrip : e.roundTrip = f.roundTrip
  echo : e.echo = f.echo
  sendFault : e.sendFault = f.sendFault
  lastHeard : e.lastHeard = f.lastHeard
  lastRoundTrip : e.lastRoundTrip = f.lastRoundTrip

/-- The answers to two calls of `receive`: the same, or messages of one size. -/
inductive Replies : Call (Except Failure Received) → Call (Except Failure Received) → Prop
  | same (o : Call (Except Failure Received)) : Replies o o
  | payload {p p' : ByteArray} (h : p.size = p'.size) :
      Replies (.returned (.ok (.payload p))) (.returned (.ok (.payload p')))

/-- Two ends in one role that are alike, each with a cipher of its run and with frames
where they should be, on networks with streams that are abreast. -/
structure Beside (P Q : Role → κ → Prop) (r : Role) (e : Endpoint κ α) (a : Network)
    (f : Endpoint κ α) (b : Network) : Prop where
  alike : e.Alike f
  streams : a.Abreast (Counterparts P Q) b
  role : e.link.role = r
  left : P r e.cipher
  right : Q r f.cipher
  tidy : e.link.Tidy a
  tidy' : f.link.Tidy b

omit [Cipher κ] in
theorem Alike.of_link {l m : Link} (h : e.Alike f) (hlink : l.Alike m) :
    ({ e with link := l } : Endpoint κ α).Alike { f with link := m } :=
  ⟨hlink, h.roundTrip, h.echo, h.sendFault, h.lastHeard, h.lastRoundTrip⟩

omit [Cipher κ] in
theorem Alike.of_fault {l m : Link} (h : e.Alike f) (hlink : l.Alike m) (x : Option SendFault) :
    ({ e with link := l, sendFault := x } : Endpoint κ α).Alike
      { f with link := m, sendFault := x } :=
  ⟨hlink, h.roundTrip, h.echo, rfl, h.lastHeard, h.lastRoundTrip⟩

omit [Cipher κ] in
theorem Alike.of_cipher (h : e.Alike f) (c c' : κ) :
    ({ e with cipher := c } : Endpoint κ α).Alike { f with cipher := c' } :=
  ⟨h.link, h.roundTrip, h.echo, h.sendFault, h.lastHeard, h.lastRoundTrip⟩

section

variable {l m : Link}

theorem Beside.visited {o : Call (Except Failure Bool)} (h : Beside P Q r e a f b)
    (ha : e.link.accept a = (o, l, a')) :
    ∃ m b', f.link.accept b = (o, m, b') ∧
      Beside P Q r { e with link := l } a' { f with link := m } b' := by
  obtain ⟨m, b', hb, hlinks, hmid⟩ := h.alike.link.accept h.streams.toAlike ha
  have hoff : ∀ x ∈ [Link.Event.accepts o], x.on = none := by simp [Link.Event.on]
  have hrole := e.link.role_accept a
  rw [ha] at hrole
  exact ⟨m, b', hb, h.alike.of_link hlinks,
    h.streams.of_calm hmid (Link.calm_accept ha) (Link.calm_accept hb), hrole.trans h.role, h.left,
    h.right, h.tidy.after (.single (.accept ha)) hoff, h.tidy'.after (.single (.accept hb)) hoff⟩

theorem Beside.rejoined {o : Call Bool} (h : Beside P Q r e a f b)
    (ha : e.link.tryReconnect a = (o, l, a')) :
    ∃ m b', f.link.tryReconnect b = (o, m, b') ∧
      Beside P Q r { e with link := l } a' { f with link := m } b' := by
  obtain ⟨m, b', hb, hlinks, hmid⟩ := h.alike.link.tryReconnect h.streams.toAlike ha
  have hoff : ∀ x ∈ [Link.Event.reconnects o], x.on = none := by simp [Link.Event.on]
  have hrole := e.link.role_tryReconnect a
  rw [ha] at hrole
  exact ⟨m, b', hb, h.alike.of_link hlinks,
    h.streams.of_calm hmid (Link.calm_tryReconnect ha) (Link.calm_tryReconnect hb),
    hrole.trans h.role, h.left, h.right, h.tidy.after (.single (.tryReconnect ha)) hoff,
    h.tidy'.after (.single (.tryReconnect hb)) hoff⟩

end

/-! ## Sending -/

/-- Frames that are packed of messages of one size: none, or two that go together. -/
inductive Packs (R : ByteArray → ByteArray → Prop) :
    Except Failure ByteArray → Except Failure ByteArray → Prop
  | failed (x : Failure) : Packs R (.error x) (.error x)
  | frame {frame frame' body body' : ByteArray} (hf : octets frame = Frame.onWire (octets body))
      (hf' : octets frame' = Frame.onWire (octets body')) (hp : Frame.Peers R body body') :
      Packs R (.ok frame) (.ok frame')

theorem Beside.pack (h : Beside P Q r e a f b) (hU : Cipher.Uniform P Q)
    (hsize : payload.size = payload'.size) (now : Nat) :
    Packs (Counterparts P Q r) (e.pack payload now).1 (f.pack payload' now).1 ∧
      (e.pack payload now).2.Alike (f.pack payload' now).2 := by
  have hrecords : (e.stamp payload now).1.Alike (f.stamp payload' now).1 := by
    refine ⟨?_, ?_, ?_, hsize⟩ <;> simp only [stamp, h.alike.link.role, h.alike.echo]
  have hstamped : (e.stamp payload now).2.Alike (f.stamp payload' now).2 := by
    obtain ⟨hlink, hround, hecho, hfault, hheard, hlast⟩ := h.alike
    refine ⟨hlink, hround, ?_, hfault, hheard, hlast⟩
    simp only [stamp, hecho]
  have hdirection : (e.stamp payload now).1.direction = r.outgoing := by
    rw [← h.role]
    rfl
  unfold Endpoint.pack
  generalize hx : e.stamp payload now = v at hrecords hstamped hdirection
  generalize hx' : f.stamp payload' now = v' at hrecords hstamped
  obtain ⟨x, e₁⟩ := v
  obtain ⟨x', f₁⟩ := v'
  have hcipher : e₁.cipher = e.cipher := by
    cases hx
    rfl
  have hcipher' : f₁.cipher = f.cipher := by
    cases hx'
    rfl
  have hencoded : x.encode.size = x'.encode.size := by
    rw [Record.size_encode, Record.size_encode, hrecords.payload]
  have hsealed := hU r e.cipher f.cipher x.encode x'.encode h.left h.right hencoded
  dsimp only
  rw [hcipher, hcipher']
  generalize hc : Cipher.encrypt e.cipher x.encode = w at hsealed
  generalize hc' : Cipher.encrypt f.cipher x'.encode = w' at hsealed
  obtain ⟨result, c⟩ := w
  obtain ⟨result', c'⟩ := w'
  have hsame := hstamped.of_cipher c c'
  rcases result with z | body <;> rcases result' with z' | body'
  · cases hsealed
    exact ⟨.failed _, hsame⟩
  · cases hsealed
  · cases hsealed
  · have hbodies : body.size = body'.size := Except.ok.inj hsealed
    have hcounter : Counterparts P Q r body body' :=
      ⟨_, _, x, x', h.left, h.right, by rw [hc], by rw [hc'], hdirection, hrecords⟩
    simp only [hstamped.link.maxFrame]
    by_cases hmax : body'.size ≤ e₁.link.maxFrame
    · by_cases hd : body'.size ≤ Frame.maxDeclared
      · rw [Frame.encode_eq_ok (hbodies ▸ hmax) (hbodies ▸ hd), Frame.encode_eq_ok hmax hd]
        refine ⟨.frame ?_ ?_ ⟨hcounter, hbodies, hbodies ▸ hd⟩, hsame⟩
        · simp [Frame.onWire]
        · simp [Frame.onWire]
      · simp only [Frame.encode, hbodies, if_neg (Nat.not_lt.mpr hmax), if_pos (Nat.lt_of_not_le hd)]
        exact ⟨.failed _, hsame⟩
    · simp only [Frame.encode, hbodies, if_pos (Nat.lt_of_not_le hmax)]
      exact ⟨.failed _, hsame⟩

theorem Alike.lose (h : e.Alike f) (hn : a.Abreast (Counterparts P Q) b)
    (ha : e.lose a = (e', a')) :
    ∃ f' b', f.lose b = (f', b') ∧ e'.Alike f' ∧ a'.Abreast (Counterparts P Q) b' := by
  unfold Endpoint.lose at ha ⊢
  obtain ⟨m, b', hb, hlike, hmid⟩ := h.link.tearDown hn.toAlike (Prod.eta (e.link.tearDown a)).symm
  rw [hb]
  cases ha
  exact ⟨_, _, rfl, h.of_link hlike,
    hn.of_calm hmid (Link.calm_tearDown rfl) (Link.calm_tearDown hb)⟩

theorem Beside.close (h : Beside P Q r e a f b) (ha : e.close a = (e', a')) :
    ∃ f' b', f.close b = (f', b') ∧ e'.Alike f' ∧ a'.Abreast (Counterparts P Q) b' := by
  unfold Endpoint.close at ha ⊢
  obtain ⟨m, b', hb, hlinks, hmid⟩ :=
    h.alike.link.close h.streams.toAlike (Prod.eta (e.link.close a)).symm
  rw [hb]
  cases ha
  exact ⟨_, _, rfl, h.alike.of_link hlinks,
    h.streams.of_calm hmid (Link.Change.calm_close rfl) (Link.Change.calm_close hb)⟩

theorem Beside.sendConnected {o : Call (Except Failure Sent)} (h : Beside P Q r e a f b)
    (hU : Cipher.Uniform P Q) (hsize : payload.size = payload'.size)
    (ha : e.sendConnected payload a = (o, e', a')) :
    ∃ f' b', f.sendConnected payload' b = (o, f', b') ∧ e'.Alike f' ∧
      a'.Abreast (Counterparts P Q) b' := by
  obtain ⟨hpacks, hlike⟩ := h.pack hU hsize a.now
  have hn := h.streams
  have hlink := link_pack e payload a.now
  unfold Endpoint.sendConnected at ha ⊢
  rw [← hn.now]
  generalize e.pack payload a.now = v at ha hpacks hlike hlink
  generalize f.pack payload' a.now = v' at hpacks hlike
  obtain ⟨x, e₁⟩ := v
  obtain ⟨x', f₁⟩ := v'
  have hlink : e₁.link = e.link := hlink
  cases hpacks with
  | failed z =>
    cases ha
    exact ⟨_, _, rfl, hlike, hn⟩
  | @frame frame frame' body body' hf hf' hp =>
    dsimp only at ha hlike ⊢
    generalize hw : e₁.link.writeFrame frame a = w at ha
    obtain ⟨outcome, link, mid⟩ := w
    rw [← h.role, ← hlink] at hp
    obtain ⟨m, mid', hb, hlinks, hmid⟩ :=
      hlike.link.writeFrame hn (hlink ▸ h.tidy) hf hf' hp hw
    rw [hb]
    split at ha <;> rename_i heq <;> cases heq
    · cases ha
      exact ⟨_, _, rfl, hlike.of_link hlinks, hmid⟩
    · cases ha
      exact ⟨_, _, rfl, hlike.of_fault hlinks _, hmid⟩
    · rename_i z
      have hmarked := hlike.of_fault hlinks (some (.failed z))
      dsimp only at ha ⊢
      generalize hlost : Endpoint.lose { e₁ with link, sendFault := some (.failed z) } mid = w
        at ha
      obtain ⟨e₂, a₂⟩ := w
      obtain ⟨f₂, b₂, hb₂, hlike₂, hab⟩ := hmarked.lose hmid hlost
      rw [hb₂]
      dsimp only at ha ⊢
      rw [hlike₂.link.role]
      split at ha <;> cases ha <;> exact ⟨_, _, rfl, hlike₂, hab⟩

theorem Beside.prepare {o : Call Unit} (h : Beside P Q r e a f b)
    (ha : e.prepare a = (o, e', a')) :
    ∃ f' b', f.prepare b = (o, f', b') ∧ Beside P Q r e' a' f' b' := by
  unfold Endpoint.prepare at ha ⊢
  rw [h.alike.link.role]
  split at ha
  · cases ha
    exact ⟨_, _, rfl, h⟩
  · generalize htry : e.link.tryReconnect a = w at ha
    obtain ⟨outcome, link, mid⟩ := w
    obtain ⟨m, mid', hb, hmid⟩ := h.rejoined htry
    rw [hb]
    cases ha
    exact ⟨_, _, rfl, hmid⟩

theorem Beside.send {o : Call (Except Failure Sent)} (h : Beside P Q r e a f b)
    (hU : Cipher.Uniform P Q) (hsize : payload.size = payload'.size)
    (ha : e.send payload a = (o, e', a')) :
    ∃ f' b', f.send payload' b = (o, f', b') ∧ e'.Alike f' ∧
      a'.Abreast (Counterparts P Q) b' := by
  unfold Endpoint.send at ha ⊢
  generalize hprep : e.prepare a = w at ha
  obtain ⟨outcome, e₁, a₁⟩ := w
  obtain ⟨f₁, b₁, hb, hmid⟩ := h.prepare hprep
  have hlike := hmid.alike
  rw [hb]
  cases outcome with
  | abandoned =>
    cases ha
    exact ⟨_, _, rfl, hlike, hmid.streams⟩
  | returned u =>
    dsimp only at ha ⊢
    rw [hlike.link.phase]
    split at ha
    · exact hmid.sendConnected hU hsize ha
    · cases ha
      exact ⟨_, _, rfl, hlike.of_fault hlike.link _, hmid.streams⟩
    · cases ha
      exact ⟨_, _, rfl, hlike.of_fault hlike.link _, hmid.streams⟩
    · cases ha
      exact ⟨_, _, rfl, hlike.of_fault hlike.link _, hmid.streams⟩

/-! ## Receiving -/

theorem Alike.openFrame {body body' : ByteArray} (h : e.Alike f) (hmP : Cipher.Matched P)
    (hmQ : Cipher.Matched Q) (hr : e.link.role = r) (hP : P r e.cipher) (hQ : Q r f.cipher)
    (hb : Counterparts P Q r.opposite body body') :
    ∃ x x' e' f', e.openFrame body = (.ok x, e') ∧ f.openFrame body' = (.ok x', f') ∧
      x.Alike x' ∧ e'.Alike f' := by
  obtain ⟨c, c', x, x', hc, hc', henc, henc', hdir, hx⟩ := hb
  have hplain := hmP.opens r.opposite c e.cipher x.encode body hc
    (by rwa [Role.opposite_opposite]) henc
  have hplain' := hmQ.opens r.opposite c' f.cipher x'.encode body' hc'
    (by rwa [Role.opposite_opposite]) henc'
  have hpair : Cipher.decrypt e.cipher body =
      (.ok x.encode, (Cipher.decrypt e.cipher body).2) := Prod.ext hplain rfl
  have hpair' : Cipher.decrypt f.cipher body' =
      (.ok x'.encode, (Cipher.decrypt f.cipher body').2) := Prod.ext hplain' rfl
  rw [Role.outgoing_opposite, ← hr] at hdir
  unfold Endpoint.openFrame
  rw [hpair, hpair']
  dsimp only
  rw [Record.decode_encode, Record.decode_encode]
  dsimp only
  rw [if_pos hdir, if_pos (by rw [← hx.direction, hdir, h.link.role])]
  refine ⟨_, _, _, _, rfl, rfl, ⟨hx.direction, hx.stamp, ?_, hx.payload⟩, ?_⟩
  · dsimp only
    rw [hx.echo]
  · exact h.of_cipher _ _

variable [Scalar α]

omit [Cipher κ] in
theorem Alike.heed {x x' : Record} (h : e.Alike f) (hx : x.Alike x') (now : Nat) :
    (e.heed x now).Alike (f.heed x' now) := by
  refine ⟨h.link, ?_, ?_, h.sendFault, rfl, h.lastRoundTrip⟩ <;>
    simp only [Endpoint.heed, h.echo, h.roundTrip, hx.stamp, hx.echo]

theorem Beside.receiveRecord {o : Call (Except Failure (Option ByteArray))}
    (h : Beside P Q r e a f b) (hmP : Cipher.Matched P) (hmQ : Cipher.Matched Q)
    (ha : e.receiveRecord a = (o, e', a')) :
    ∃ o' f' b', f.receiveRecord b = (o', f', b') ∧
      Link.Answers (fun p p' => p.size = p'.size) o o' ∧ e'.Alike f' ∧
        a'.Abreast (Counterparts P Q) b' := by
  unfold Endpoint.receiveRecord at ha ⊢
  generalize hread : e.link.readFrame a = w at ha
  obtain ⟨outcome, link, mid⟩ := w
  obtain ⟨outcome', m, mid', hb, hanswers, hlinks, hmid⟩ :=
    h.alike.link.readFrame h.streams h.tidy h.tidy' hread
  have hlike := h.alike.of_link hlinks
  rw [hb]
  cases hanswers with
  | same hnone =>
    split at ha <;> rename_i heq <;> cases heq
    · cases ha
      exact ⟨_, _, _, rfl, .same (by simp), hlike, hmid⟩
    · cases ha
      exact ⟨_, _, _, rfl, .same (by simp), hlike, hmid⟩
    · cases ha
      exact ⟨_, _, _, rfl, .same (by simp), hlike, hmid⟩
    · exact absurd rfl (hnone _)
  | @bytes body body' hp =>
    have hrole : link.role = r := by
      have := e.link.role_readFrame a
      rw [hread] at this
      exact this.trans h.role
    rw [h.role] at hp
    obtain ⟨x, x', e₁, f₁, hopen, hopen', hx, hopened⟩ :=
      hlike.openFrame hmP hmQ hrole h.left h.right hp.related
    dsimp only at ha ⊢
    rw [hopen] at ha
    rw [hopen', ← hmid.now]
    cases ha
    exact ⟨_, _, _, rfl, .bytes hx.payload, hopened.heed hx _, hmid⟩

theorem Beside.receiveConnected {o : Call (Except Failure Received)} (h : Beside P Q r e a f b)
    (hmP : Cipher.Matched P) (hmQ : Cipher.Matched Q)
    (ha : e.receiveConnected a = (o, e', a')) :
    ∃ o' f' b', f.receiveConnected b = (o', f', b') ∧ Replies o o' ∧ e'.Alike f' ∧
      a'.Abreast (Counterparts P Q) b' := by
  unfold Endpoint.receiveConnected at ha ⊢
  generalize hrec : e.receiveRecord a = w at ha
  obtain ⟨outcome, e₁, mid⟩ := w
  obtain ⟨outcome', f₁, mid', hb, hanswers, hlike, hmid⟩ :=
    h.receiveRecord hmP hmQ hrec
  rw [hb]
  cases hanswers with
  | bytes hsize =>
    cases ha
    exact ⟨_, _, _, rfl, .payload hsize, hlike, hmid⟩
  | same hnone =>
    split at ha <;> rename_i heq <;> cases heq
    · cases ha
      exact ⟨_, _, _, rfl, .same _, hlike, hmid⟩
    · exact absurd rfl (hnone _)
    · cases ha
      exact ⟨_, _, _, rfl, .same _, hlike, hmid⟩
    · dsimp only at ha ⊢
      generalize hlost : e₁.lose mid = w at ha
      obtain ⟨e₂, a₂⟩ := w
      obtain ⟨f₂, b₂, hb₂, hlike₂, hab⟩ := hlike.lose hmid hlost
      rw [hb₂]
      dsimp only at ha ⊢
      rw [hlike₂.link.role]
      split at ha <;> rename_i hreport <;> cases ha
      · exact ⟨_, _, _, if_pos hreport, .same _, hlike₂, hab⟩
      · exact ⟨_, _, _, if_neg hreport, .same _, hlike₂, hab⟩

/-- A call of `receive` comes to the same, or to messages of one size. -/
theorem Beside.receive {o : Call (Except Failure Received)} (h : Beside P Q r e a f b)
    (hmP : Cipher.Matched P) (hmQ : Cipher.Matched Q) (ha : e.receive a = (o, e', a')) :
    ∃ o' f' b', f.receive b = (o', f', b') ∧ Replies o o' ∧ e'.Alike f' ∧
      a'.Abreast (Counterparts P Q) b' := by
  unfold Endpoint.receive at ha ⊢
  rw [h.alike.link.phase, h.alike.link.role]
  split at ha
  · exact h.receiveConnected hmP hmQ ha
  · generalize hacc : e.link.accept a = w at ha
    obtain ⟨outcome, link, mid⟩ := w
    obtain ⟨m, mid', hb, hmid⟩ := h.visited hacc
    rw [hb]
    split at ha <;> rename_i heq <;> cases heq
    · cases ha
      exact ⟨_, _, _, rfl, .same _, hmid.alike, hmid.streams⟩
    · cases ha
      exact ⟨_, _, _, rfl, .same _, hmid.alike, hmid.streams⟩
    · cases ha
      exact ⟨_, _, _, rfl, .same _, hmid.alike, hmid.streams⟩
    · exact hmid.receiveConnected hmP hmQ ha
  · generalize htry : e.link.tryReconnect a = w at ha
    obtain ⟨outcome, link, mid⟩ := w
    obtain ⟨m, mid', hb, hmid⟩ := h.rejoined htry
    rw [hb]
    split at ha <;> rename_i heq <;> cases heq
    · cases ha
      exact ⟨_, _, _, rfl, .same _, hmid.alike, hmid.streams⟩
    · cases ha
      exact ⟨_, _, _, rfl, .same _, hmid.alike, hmid.streams⟩
    · exact hmid.receiveConnected hmP hmQ ha
  · split at ha <;> cases ha <;> exact ⟨_, _, _, rfl, .same _, h.alike, h.streams⟩

end Endpoint
end Courier
