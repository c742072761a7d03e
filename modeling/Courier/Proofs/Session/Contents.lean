import Courier.Proofs.Session.Alike
import Courier.Proofs.Session.Arrival

/-!
# What is in the messages makes no difference

Two runs of a session are paired if the same calls are made in the same order with
messages of the same sizes, and the world does the same in both. By induction over the
pair the ends stay alike and the streams abreast, so the runs can be told apart by the
bytes of the messages received and by nothing else.
-/

namespace Courier

namespace Network

/-- The network on which the world goes on as on another one. -/
def led (b a : Network) : Network :=
  { b with
    now := a.now
    patience := a.patience
    dials := a.dials
    opened := a.opened
    visits := a.visits
    pipe := fun s d =>
      { b.pipe s d with
        arrivals := (a.pipe s d).arrivals
        uptakes := (a.pipe s d).uptakes } }

theorem sameWorld_led (a b : Network) : a.SameWorld (b.led a) :=
  ⟨rfl, rfl, rfl, rfl, rfl, fun _ _ => rfl, fun _ _ => rfl⟩

end Network

namespace Endpoint

variable {κ α : Type} {P : κ → Prop} {e₀ e f : Endpoint κ α} {net₀ net : Network}
  {hist : List Event} {tr : List Link.Event}

theorem size_le_of_framed {frames bodies : List ByteArray}
    (h : List.Forall₂ Framed frames bodies) : ∀ b ∈ bodies, b.size ≤ Frame.maxDeclared := by
  induction h with
  | nil => simp
  | cons hf _ ih => exact List.forall_mem_cons.mpr ⟨hf.size_le, ih⟩

theorem Story.tidy [Cipher κ] (hn : Link.New e₀.link net₀) (h : Story P e₀ net₀ hist tr e net) :
    e.link.Tidy net := by
  intro es l net' s hcalls hes hp
  have hrun := h.run.trans hcalls.run
  have hsend := hrun.sending hn (s := s)
  have hrecv := hrun.receiving hn (s := s)
  have hoff := off_of_on_eq_none hes s
  constructor
  · intro hw
    have hwhole := hsend.written_eq fun hb => by simp [(hsend.broken hp).mpr hb] at hw
    obtain ⟨bodies, -, hframed⟩ := h.sent s
    rw [Link.wholeOn_append, Link.wholeOn_eq_nil hoff, List.append_nil,
      flatMap_octets_of_framed hframed] at hwhole
    exact ⟨bodies, size_le_of_framed hframed, hwhole⟩
  · exact ⟨_, fun f hf => (hrecv.sizes f hf).2, hrecv.received_eq hp⟩

namespace Event

/-- The message that is to be sent. -/
def message? : Event → Option ByteArray
  | sends _ payload _ => some payload
  | _ => none

/-- The same call, with a message of the same size. -/
inductive SameCall : Event → Event → Prop
  | sends {s s' : Option Nat} {p p' : ByteArray} {o o' : Call (Except Failure Sent)}
      (h : p.size = p'.size) : SameCall (.sends s p o) (.sends s' p' o')
  | receives {s s' : Option Nat} {o o' : Call (Except Failure Received)} :
      SameCall (.receives s o) (.receives s' o')
  | closes : SameCall .closes .closes
  | adjusts (t : Nat) : SameCall (.adjusts t) (.adjusts t)
  | marks (ms : Nat) : SameCall (.marks ms) (.marks ms)

/-- The same call with the same result, up to the bytes of messages. -/
inductive Alike : Event → Event → Prop
  | sends (s : Option Nat) {p p' : ByteArray} (h : p.size = p'.size)
      (o : Call (Except Failure Sent)) : Alike (.sends s p o) (.sends s p' o)
  | receives (s : Option Nat) {o o' : Call (Except Failure Received)} (h : Replies o o') :
      Alike (.receives s o) (.receives s o')
  | closes : Alike .closes .closes
  | adjusts (t : Nat) : Alike (.adjusts t) (.adjusts t)
  | marks (ms : Nat) : Alike (.marks ms) (.marks ms)

end Event

theorem Beside.step [Cipher κ] [Scalar α] {Q R : Role → κ → Prop} {r : Role}
    {e' f' : Endpoint κ α} {a a' b b' : Network} {ev ev' : Event} (h : Beside Q R r e a f b)
    (hQ : Cipher.Matched Q) (hR : Cipher.Matched R) (hU : Cipher.Uniform Q R)
    (hs : Step e a ev e' a') (ht : Step f b ev' f' b') (hc : ev.SameCall ev') :
    ev.Alike ev' ∧ e'.Alike f' ∧ a'.Abreast (Counterparts Q R) b' := by
  cases hc with
  | sends hsize =>
    cases hs with
    | send hs =>
      cases ht with
      | send ht =>
        obtain ⟨_, _, hb, hlike, hnet⟩ := h.send hU hsize hs
        cases hb.symm.trans ht
        rw [hlike.link.stream]
        exact ⟨.sends _ hsize _, hlike, hnet⟩
  | receives =>
    cases hs with
    | receive hs =>
      cases ht with
      | receive ht =>
        obtain ⟨_, _, _, hb, hreplies, hlike, hnet⟩ := h.receive hQ hR hs
        cases hb.symm.trans ht
        rw [hlike.link.stream]
        exact ⟨.receives _ hreplies, hlike, hnet⟩
  | closes =>
    cases hs with
    | close hs =>
      cases ht with
      | close ht =>
        obtain ⟨_, _, hb, hlike, hnet⟩ := h.close hs
        cases hb.symm.trans ht
        exact ⟨.closes, hlike, hnet⟩
  | adjusts t =>
    cases hs
    cases ht
    exact ⟨.adjusts t, h.alike.of_link (h.alike.link.setIoTimeout t), h.streams⟩
  | marks ms =>
    cases hs
    cases ht
    obtain ⟨hlink, hround, hecho, hfault, hheard, -⟩ := h.alike
    exact ⟨.marks ms, ⟨hlink, hround, hecho, hfault, hheard, rfl⟩, h.streams⟩

theorem Step.counterpart [Cipher κ] [Scalar α] {e' : Endpoint κ α} {net' : Network} {ev : Event}
    (h : Step e net ev e' net') (f : Endpoint κ α) (b : Network) {last : List ByteArray}
    (hlast : List.Forall₂ (fun p' p => p.size = p'.size) last ev.message?.toList) :
    ∃ ev' f' b', Step f b ev' f' b' ∧ ev.SameCall ev' ∧ ev'.message?.toList = last := by
  cases h with
  | @send p =>
    have hlast : List.Forall₂ (fun p' p => p.size = p'.size) last [p] := hlast
    obtain ⟨p', _, hsize, ⟨⟩, rfl⟩ := List.forall₂_cons_right_iff.mp hlast
    exact ⟨_, _, _, .send rfl, .sends hsize, rfl⟩
  | receive =>
    cases hlast
    exact ⟨_, _, _, .receive rfl, .receives, rfl⟩
  | close =>
    cases hlast
    exact ⟨_, _, _, .close rfl, .closes, rfl⟩
  | setIoTimeout t =>
    cases hlast
    exact ⟨_, _, _, .setIoTimeout t, .adjusts t, rfl⟩
  | setLastRoundTrip ms =>
    cases hlast
    exact ⟨_, _, _, .setLastRoundTrip ms, .marks ms, rfl⟩

/-- What can be seen of an end without looking into messages. -/
structure Agrees [Scalar α] (e f : Endpoint κ α) : Prop where
  phase : e.link.phase = f.link.phase
  attempts : e.link.attempts = f.link.attempts
  buffered : e.link.buffered = f.link.buffered
  echo : e.echo = f.echo
  smoothed : e.roundTrip.smoothed = f.roundTrip.smoothed
  spread : e.roundTrip.spread = f.roundTrip.spread
  timeout : e.timeout = f.timeout
  sendError : e.sendError = f.sendError
  lastHeard : e.lastHeard = f.lastHeard
  lastRoundTrip : e.lastRoundTrip = f.lastRoundTrip

theorem Alike.agrees [Scalar α] (h : e.Alike f) : e.Agrees f := by
  obtain ⟨hlink, hround, hecho, hfault, hheard, hlast⟩ := h
  have hphase := hlink.phase.symm
  obtain ⟨acc, hacc, hm⟩ := hlink
  refine ⟨hphase, ?_, ?_, hecho, ?_, ?_, ?_, ?_, hheard, hlast⟩
  · rw [Link.attempts, Link.attempts, hphase]
  · rw [Link.buffered, Link.buffered, hm]
    exact hacc.size
  · rw [hround]
  · rw [hround]
  · rw [timeout, timeout, hround]
  · rw [sendError, sendError, hfault]

end Endpoint

namespace Session

open Simulation (SampleCipher)

variable {κ α : Type} {P Q : Role → κ → Prop} {S₀ T₀ S T : Session κ α}
  {tr tr' : List (Role × Endpoint.Event)}

/-- Both ends are alike, and the networks. -/
structure Alike (S T : Session κ α) : Prop where
  ends : ∀ r, (S.ends r).Alike (T.ends r)
  net : S.net.Alike T.net

/-- The same session with other ciphers. -/
def withCiphers (S : Session κ α) (k : Role → κ) : Session κ α where
  ends r := { S.ends r with cipher := k r }
  net := S.net

theorem alike_withCiphers (S : Session κ α) (k : Role → κ) : S.Alike (S.withCiphers k) where
  ends _ := ⟨.refl _, rfl, rfl, rfl, rfl, rfl⟩
  net := .refl _

variable [Scalar α]

theorem Start.withCiphers (h : Start S₀) (k : Role → κ) : Start (S₀.withCiphers k) := by
  cases h with
  | @intro serving connecting c d net net₁ net₂ net₃ server client hu hserver hi hclient =>
    have hserver' : Endpoint.server serving (k .server) net =
        (.ok { server with cipher := k .server }, net₁) := by
      unfold Endpoint.server at hserver ⊢
      split at hserver <;> cases hserver
      rfl
    have hclient' : Endpoint.client connecting (k .client) net₂ =
        (.returned (.ok { client with cipher := k .client }), net₃) := by
      unfold Endpoint.client at hclient ⊢
      split at hclient <;> cases hclient
      rfl
    have hsame : (of server client net₃).withCiphers k =
        of { server with cipher := k .server } { client with cipher := k .client } net₃ := by
      unfold Session.withCiphers of
      congr 1
      funext r
      cases r <;> rfl
    rw [hsame]
    exact .intro hu hserver' hi hclient'

theorem Start.untouched (h : Start S₀) (r : Role) : S₀.net.Untouched r := by
  cases h with
  | intro hu hserver hi hclient =>
    obtain ⟨-, hcalm, -⟩ := role_of_server hserver
    obtain ⟨-, hcalm', -⟩ := role_of_client hclient
    exact (((hu r).drift (hcalm.drift r)).drift (hi.drift r)).drift (hcalm'.drift r)

variable [Cipher κ]

/-- Two runs in which the same calls are made at the same times, with messages of the
same sizes, and the world does the same. -/
inductive Paired (S₀ T₀ : Session κ α) : List (Role × Endpoint.Event) → Session κ α →
    List (Role × Endpoint.Event) → Session κ α → Prop
  | nil : Paired S₀ T₀ [] S₀ [] T₀
  | call {tr tr' : List (Role × Endpoint.Event)} {S T : Session κ α} {r : Role}
      {ev ev' : Endpoint.Event} {e f : Endpoint κ α} {a b : Network}
      (hp : Paired S₀ T₀ tr S tr' T) (hs : Endpoint.Step (S.ends r) S.net ev e a)
      (ht : Endpoint.Step (T.ends r) T.net ev' f b) (hc : ev.SameCall ev') :
      Paired S₀ T₀ (tr ++ [(r, ev)]) (S.act r e a) (tr' ++ [(r, ev')]) (T.act r f b)
  | idles {tr tr' : List (Role × Endpoint.Event)} {S T : Session κ α} {a b : Network}
      (hp : Paired S₀ T₀ tr S tr' T) (hs : S.net.Idles a) (ht : T.net.Idles b)
      (hw : a.SameWorld b) : Paired S₀ T₀ tr { S with net := a } tr' { T with net := b }

theorem Paired.left (h : Paired S₀ T₀ tr S tr' T) : Run S₀ tr S := by
  induction h with
  | nil => exact .nil
  | call _ hs _ _ ih => exact ih.call hs
  | idles _ hs _ _ ih => exact ih.idles hs

theorem Paired.right (h : Paired S₀ T₀ tr S tr' T) : Run T₀ tr' T := by
  induction h with
  | nil => exact .nil
  | call _ _ ht _ ih => exact ih.call ht
  | idles _ _ ht _ ih => exact ih.idles ht

theorem Run.kept (hm : Cipher.Matched P) (hs : Start S₀) (hc : ∀ r, P r (S₀.ends r).cipher)
    (h : Run S₀ tr S) (r : Role) : (S.ends r).link.role = r ∧ P r (S.ends r).cipher ∧
      (S.ends r).link.Tidy S.net := by
  obtain ⟨e₀, net₀, hseen⟩ := h.seen hs r
  obtain ⟨lt, hstory⟩ := hseen.run.story (hm.keeps r) hseen.start (hseen.cipher ▸ hc r)
  exact ⟨hseen.coherent.2, hstory.cipher, hstory.tidy hseen.start.link.new⟩

theorem beside (hP : Cipher.Matched P) (hQ : Cipher.Matched Q) (hs : Start S₀) (ht : Start T₀)
    (hc : ∀ r, P r (S₀.ends r).cipher) (hd : ∀ r, Q r (T₀.ends r).cipher) (h : Run S₀ tr S)
    (h' : Run T₀ tr' T) (hends : ∀ r, (S.ends r).Alike (T.ends r))
    (hnet : S.net.Abreast (Endpoint.Counterparts P Q) T.net) (r : Role) :
    Endpoint.Beside P Q r (S.ends r) S.net (T.ends r) T.net := by
  obtain ⟨hrole, hcipher, htidy⟩ := h.kept hP hs hc r
  obtain ⟨-, hcipher', htidy'⟩ := h'.kept hQ ht hd r
  exact ⟨hends r, hnet, hrole, hcipher, hcipher', htidy, htidy'⟩

/-- In paired runs the ends stay alike and the streams abreast. -/
theorem Paired.invariant (hP : Cipher.Matched P) (hQ : Cipher.Matched Q)
    (hU : Cipher.Uniform P Q) (hs : Start S₀) (ht : Start T₀)
    (hc : ∀ r, P r (S₀.ends r).cipher) (hd : ∀ r, Q r (T₀.ends r).cipher) (h₀ : S₀.Alike T₀)
    (h : Paired S₀ T₀ tr S tr' T) :
    List.Forall₂ (fun x y => x.1 = y.1 ∧ x.2.Alike y.2) tr tr' ∧
      (∀ r, (S.ends r).Alike (T.ends r)) ∧ S.net.Abreast (Endpoint.Counterparts P Q) T.net := by
  induction h with
  | nil =>
    refine ⟨.nil, h₀.ends, h₀.net, fun s r => ?_⟩
    rw [(hs.untouched r).written, (ht.untouched r).written]
    exact .nil
  | @call tr tr' S T r ev ev' e f a b hp hcall hcall' hsame ih =>
    obtain ⟨htraces, hends, hnet⟩ := ih
    obtain ⟨hev, hafter, hstreams⟩ :=
      (beside hP hQ hs ht hc hd hp.left hp.right hends hnet r).step hP hQ hU hcall hcall' hsame
    refine ⟨List.rel_append htraces (.cons ⟨rfl, hev⟩ .nil), fun q => ?_, hstreams⟩
    by_cases hq : q = r
    · rw [hq, ends_act_self, ends_act_self]
      exact hafter
    · rw [ends_act_other _ hq, ends_act_other _ hq]
      exact hends q
  | @idles tr tr' S T a b hp hidles hidles' hw ih =>
    obtain ⟨htraces, hends, hnet⟩ := ih
    refine ⟨htraces, hends, hnet.of_written (hw.alike ?_ ?_) hidles.written hidles'.written⟩
    · intro s d
      rw [hidles.written, hidles'.written]
      exact (hnet.pipe s d).written
    · intro s d
      rw [hidles.taken, hidles'.taken]
      exact (hnet.pipe s d).taken

/-- The messages that are given to `send`, in order. -/
def messages (tr : List (Role × Endpoint.Event)) : List ByteArray :=
  tr.filterMap fun (_, ev) => ev.message?

theorem messages_concat (r : Role) (ev : Endpoint.Event) :
    messages (tr ++ [(r, ev)]) = messages tr ++ ev.message?.toList := by
  rw [messages, List.filterMap_append]
  cases h : ev.message? <;> simp [messages, h]

/-- Every run can be paired with a run that has any other messages of the same sizes. -/
theorem Run.exists_paired (hP : Cipher.Matched P) (hQ : Cipher.Matched Q)
    (hU : Cipher.Uniform P Q) (hs : Start S₀) (ht : Start T₀)
    (hc : ∀ r, P r (S₀.ends r).cipher) (hd : ∀ r, Q r (T₀.ends r).cipher) (h₀ : S₀.Alike T₀)
    (h : Run S₀ tr S) {others : List ByteArray}
    (hsizes : List.Forall₂ (fun p' p => p.size = p'.size) others (messages tr)) :
    ∃ tr' T, Paired S₀ T₀ tr S tr' T ∧ messages tr' = others := by
  induction h generalizing others with
  | nil =>
    cases hsizes
    exact ⟨[], T₀, .nil, rfl⟩
  | @call tr S r ev e a hr hstep ih =>
    rw [messages_concat] at hsizes
    obtain ⟨tr', T, hp, hmessages⟩ := ih (List.forall₂_take_append _ _ _ hsizes)
    obtain ⟨ev', f, b, hstep', hsame, hlast⟩ :=
      hstep.counterpart (T.ends r) T.net (List.forall₂_drop_append _ _ _ hsizes)
    refine ⟨_, _, hp.call hstep hstep' hsame, ?_⟩
    rw [messages_concat, hmessages, hlast, List.take_append_drop]
  | @idles tr S a hr hidles ih =>
    obtain ⟨tr', T, hp, hmessages⟩ := ih hsizes
    obtain ⟨-, -, hnet⟩ := hp.invariant hP hQ hU hs ht hc hd h₀
    have hidles' : T.net.Idles (T.net.led a) :=
      ⟨fun _ _ => rfl, fun _ _ => rfl, hnet.opened ▸ hidles.opened⟩
    exact ⟨tr', _, hp.idles hidles hidles' (Network.sameWorld_led a T.net), hmessages⟩

/-- The client sends a message and the server receives. -/
def exchange (S : Session κ α) (payload : ByteArray) : Session κ α :=
  let sent := (S.ends .client).send payload S.net
  let between := S.act .client sent.2.1 sent.2.2
  let got := (between.ends .server).receive between.net
  between.act .server got.2.1 got.2.2

/-- The calls of an exchange. -/
def exchanged (S : Session κ α) (payload : ByteArray) : List (Role × Endpoint.Event) :=
  let sent := (S.ends .client).send payload S.net
  let between := S.act .client sent.2.1 sent.2.2
  let got := (between.ends .server).receive between.net
  [(.client, .sends sent.2.1.link.stream? payload sent.1),
    (.server, .receives got.2.1.link.stream? got.1)]

theorem paired_exchange (S T : Session κ α) {p p' : ByteArray} (h : p.size = p'.size) :
    Paired S T (S.exchanged p) (S.exchange p) (T.exchanged p') (T.exchange p') :=
  (Paired.nil.call (.send rfl) (.send rfl) (.sends h)).call (.receive rfl) (.receive rfl) .receives

theorem uniform_masked (key key' : UInt8) :
    Cipher.Uniform (fun (_ : Role) c => c = SampleCipher.masked key)
      fun _ c => c = SampleCipher.masked key' := by
  rintro _ _ _ x x' rfl rfl hx
  apply congrArg Except.ok
  simp [hx]

/-- Whatever two runs of a session are, in which the same calls are made at the same
times with messages of the same sizes and the world does the same, they agree after every
call on everything but the bytes of the messages: on what the calls have come to, on the
clock, on how many bytes have been put on each stream and taken from it, and on all that
the ends keep. -/
theorem Paired.contents_unseen (hP : Cipher.Matched P) (hQ : Cipher.Matched Q)
    (hU : Cipher.Uniform P Q) (hs : Start S₀) (ht : Start T₀)
    (hc : ∀ r, P r (S₀.ends r).cipher) (hd : ∀ r, Q r (T₀.ends r).cipher) (h₀ : S₀.Alike T₀)
    (h : Paired S₀ T₀ tr S tr' T) :
    List.Forall₂ (fun x y => x.1 = y.1 ∧ x.2.Alike y.2) tr tr' ∧ S.net.now = T.net.now ∧
      (∀ s d, (S.net.pipe s d).written.size = (T.net.pipe s d).written.size ∧
        (S.net.pipe s d).taken = (T.net.pipe s d).taken) ∧
      ∀ r, (S.ends r).Agrees (T.ends r) := by
  obtain ⟨htraces, hends, hnet⟩ := h.invariant hP hQ hU hs ht hc hd h₀
  exact ⟨htraces, hnet.now, fun s d => ⟨(hnet.pipe s d).written, (hnet.pipe s d).taken⟩,
    fun r => (hends r).agrees⟩

/-- Two messages are exchanged under two masks. -/
theorem contents_unseen_masked : ∃ tr S tr' T,
    Paired nearby (nearby.withCiphers fun _ => .masked 9) tr S tr' T ∧
      receivedBy .server 0 tr = [packed [1, 2]] ∧ receivedBy .server 0 tr' = [packed [3, 4]] ∧
      ∀ r, (S.ends r).Agrees (T.ends r) := by
  have hpaired := paired_exchange nearby (nearby.withCiphers fun _ => .masked 9)
    (show (packed [1, 2]).size = (packed [3, 4]).size from rfl)
  have hciphers : ∀ r, (nearby.ends r).cipher = .masked 7 := by
    intro r
    cases r <;> rfl
  obtain ⟨-, -, -, hagree⟩ := hpaired.contents_unseen (matched_masked 7) (matched_masked 9)
    (uniform_masked 7 9) start_nearby (start_nearby.withCiphers _) hciphers (fun _ => rfl)
    (alike_withCiphers _ _)
  refine ⟨_, _, _, _, hpaired, map_octets_inj.mp ?_, map_octets_inj.mp ?_, hagree⟩
  · decide +kernel
  · decide +kernel

end Session
end Courier
