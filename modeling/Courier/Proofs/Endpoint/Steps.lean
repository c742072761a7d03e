import Courier.Endpoint
import Courier.Proofs.Link.Barring
import Courier.Proofs.Link.Reading

/-!
# What a call on an endpoint does to its link

A call on an endpoint is a few operations on its link with nothing between
them. `Does` puts the two side by side, stream by stream: a message that was
sent is a whole frame that was written, a message that was received is a frame
that was read, and a frame that is read and not accepted costs the stream.
-/

namespace Courier

/-- A property of ciphers that sealing and opening keep. -/
structure Cipher.Keeps {κ : Type} [Cipher κ] (P : κ → Prop) : Prop where
  encrypt : ∀ c x, P c → P (Cipher.encrypt c x).2
  decrypt : ∀ c x, P c → P (Cipher.decrypt c x).2

namespace Endpoint

variable {κ α : Type} [Cipher κ]

/-- A call on an endpoint and what it came to, with the stream that the endpoint
has afterwards. -/
inductive Event
  | sends (stream : Option Nat) (payload : ByteArray) (outcome : Call (Except Failure Sent))
  | receives (stream : Option Nat) (outcome : Call (Except Failure Received))
  | closes
  | adjusts (timeout : Nat)
  | marks (ms : Nat)

/-- The calls on an endpoint. -/
inductive Step [Scalar α] (e : Endpoint κ α) (net : Network) : Event → Endpoint κ α → Network → Prop
  | send {payload : ByteArray} {o : Call (Except Failure Sent)} {e' : Endpoint κ α}
      {net' : Network} (h : e.send payload net = (o, e', net')) :
      Step e net (.sends e'.link.stream? payload o) e' net'
  | receive {o : Call (Except Failure Received)} {e' : Endpoint κ α} {net' : Network}
      (h : e.receive net = (o, e', net')) : Step e net (.receives e'.link.stream? o) e' net'
  | close {e' : Endpoint κ α} {net' : Network} (h : e.close net = (e', net')) :
      Step e net .closes e' net'
  | setIoTimeout (t : Nat) : Step e net (.adjusts t) (e.setIoTimeout t) net
  | setLastRoundTrip (ms : Nat) : Step e net (.marks ms) (e.setLastRoundTrip ms) net

namespace Event

/-- The message that the event has sent on a stream. -/
def sent? (s : Nat) : Event → Option ByteArray
  | sends stream payload (.returned (.ok .sent)) => if stream = some s then some payload else none
  | _ => none

/-- The message that the event has received on a stream. -/
def received? (s : Nat) : Event → Option ByteArray
  | receives stream (.returned (.ok (.payload b))) => if stream = some s then some b else none
  | _ => none

end Event

/-- A message as an end seals it, with a cipher that has a property. -/
def Seals (P : κ → Prop) (r : Role) (payload body : ByteArray) : Prop :=
  ∃ (c : κ) (record : Record), P c ∧ (Cipher.encrypt c record.encode).1 = .ok body ∧
    record.direction = r.outgoing ∧ record.payload = payload

/-- A message as an end opens it, with a cipher that has a property. -/
def Opens (P : κ → Prop) (r : Role) (payload body : ByteArray) : Prop :=
  ∃ (c : κ) (plain : ByteArray) (record : Record), P c ∧ (Cipher.decrypt c body).1 = .ok plain ∧
    Record.decode plain = .ok record ∧ record.direction = r.incoming ∧ record.payload = payload

/-- A frame around a sealed message. -/
structure Framed (frame body : ByteArray) : Prop where
  octets_eq : octets frame = Frame.onWire (octets body)
  size_le : body.size ≤ Frame.maxDeclared

theorem Framed.size {frame body : ByteArray} (h : Framed frame body) :
    frame.size = Frame.headerSize + body.size := by
  have := congrArg List.length h.octets_eq
  simpa using this

/-- What a call sends on a stream: nothing, or one message as one whole frame. -/
inductive Sends (P : κ → Prop) (r : Role) (s : Nat) (ev : Event) (es : List Link.Event) : Prop
  | nothing (hev : ev.sent? s = none) (hes : Link.wholeOn s es = [])
  | message {payload frame body : ByteArray} (hev : ev.sent? s = some payload)
      (hes : Link.wholeOn s es = [frame]) (hs : Seals P r payload body) (hf : Framed frame body)

/-- What a call receives on a stream: nothing, or one message from one frame; or
there was a frame that is no message, and then the stream is given up. -/
inductive Receives (P : κ → Prop) (r : Role) (s : Nat) (ev : Event) (es : List Link.Event)
    (l : Link) : Prop
  | nothing (hev : ev.received? s = none) (hes : Link.framesOn s es = [])
  | message {payload frame : ByteArray} (hev : ev.received? s = some payload)
      (hes : Link.framesOn s es = [frame]) (ho : Opens P r payload frame)
  | rejected (hev : ev.received? s = none) (hp : l.phase ≠ .connected s)

/-- What a call on an endpoint does to its link. -/
structure Does (P : κ → Prop) (e : Endpoint κ α) (net : Network) (ev : Event)
    (e' : Endpoint κ α) (net' : Network) (es : List Link.Event) : Prop where
  calls : Link.Calls e.link net es e'.link net'
  cipher : P e'.cipher
  framed : ∀ s frame o, .writes (some s) frame o ∈ es →
    ∃ body, Framed frame body ∧ body.size ≤ e.link.maxFrame
  sends : ∀ s, Sends P e.link.role s ev es
  receives : ∀ s, Receives P e.link.role s ev es e'.link

/-! ## Operations that transfer nothing -/

theorem off_of_on_eq_none {es : List Link.Event} (h : ∀ x ∈ es, x.on = none) (s : Nat) :
    ∀ x ∈ es, x.on ≠ some s := by
  intro x hx
  rw [h x hx]
  simp

variable {P : κ → Prop} {e e₁ e' : Endpoint κ α} {net net₁ net' : Network} {ev : Event}

theorem Does.quiet {es : List Link.Event} (hc : Link.Calls e.link net es e'.link net')
    (hp : P e'.cipher) (hes : ∀ x ∈ es, x.on = none) (hs : ∀ s, ev.sent? s = none)
    (hr : ∀ s, ev.received? s = none) : Does P e net ev e' net' es where
  calls := hc
  cipher := hp
  framed s frame o hmem := by cases hes _ hmem
  sends s := .nothing (hs s) (Link.wholeOn_eq_nil (off_of_on_eq_none hes s))
  receives s := .nothing (hr s) (Link.framesOn_eq_nil (off_of_on_eq_none hes s))

theorem Does.after {pre es : List Link.Event} (hc : Link.Calls e.link net pre e₁.link net₁)
    (hpre : ∀ x ∈ pre, x.on = none) (hr : e₁.link.role = e.link.role)
    (hmax : e₁.link.maxFrame = e.link.maxFrame)
    (h : Does P e₁ net₁ ev e' net' es) : Does P e net ev e' net' (pre ++ es) where
  calls := hc.trans h.calls
  cipher := h.cipher
  framed s frame o hmem := by
    rcases List.mem_append.mp hmem with hmem | hmem
    · cases hpre _ hmem
    · rw [← hmax]
      exact h.framed s frame o hmem
  sends s := by
    have hw : Link.wholeOn s (pre ++ es) = Link.wholeOn s es := by
      rw [Link.wholeOn_append, Link.wholeOn_eq_nil (off_of_on_eq_none hpre s), List.nil_append]
    rw [← hr]
    cases h.sends s with
    | nothing hev hes => exact .nothing hev (hw.trans hes)
    | message hev hes hs hf => exact .message hev (hw.trans hes) hs hf
  receives s := by
    have hf : Link.framesOn s (pre ++ es) = Link.framesOn s es := by
      rw [Link.framesOn_append, Link.framesOn_eq_nil (off_of_on_eq_none hpre s), List.nil_append]
    rw [← hr]
    cases h.receives s with
    | nothing hev hes => exact .nothing hev (hf.trans hes)
    | message hev hes ho => exact .message hev (hf.trans hes) ho
    | rejected hev hp => exact .rejected hev hp

end Endpoint
end Courier
