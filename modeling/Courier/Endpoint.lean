import Courier.Cipher.Basic
import Courier.Link.Transfer
import Courier.Timing.Echo
import Courier.Timing.RoundTrip

/-!
# Endpoints

An endpoint carries messages over a link. To send, a message is put into a
record with the stamp of the moment and the echo that is due, sealed, framed
and written; receiving goes the same way back and feeds the estimate of the
round trip. A client takes the loss of its stream upon itself and reconnects; a
server reports it.
-/

namespace Courier

/-- What a call of `send` came to when nothing failed for good. -/
inductive Sent
  | sent
  /-- There is no peer, and nothing was written. -/
  | notConnected
  /-- The client has no stream, or lost it while writing. -/
  | dropped
  deriving DecidableEq, Repr

inductive Received
  | payload (b : ByteArray)
  /-- Nothing complete came in time. -/
  | nothingYet

/-- Why the latest message was not sent. -/
inductive SendFault
  | reconnecting
  | failed (f : Failure)
  deriving DecidableEq, Repr

def SendFault.message : SendFault → String
  | reconnecting => "reconnecting"
  | failed f => f.message

/-- One end of a session, over ciphers `κ` and estimates in numbers `α`. -/
structure Endpoint (κ α : Type) where
  link : Link
  cipher : κ
  roundTrip : RoundTrip α
  echo : Echo
  sendFault : Option SendFault := none
  lastHeard : Option Nat := none
  /-- Milliseconds at which the layer above last saw a round trip succeed. -/
  lastRoundTrip : Nat := 0

namespace Endpoint

variable {κ α : Type} [Cipher κ] [Scalar α]

/-- The largest message worth sending in one piece. -/
def messageSize : Nat := 8192

def ofLink (link : Link) (cipher : κ) (now : Nat) : Endpoint κ α where
  link := link
  cipher := cipher
  roundTrip := RoundTrip.initial
  echo := Echo.start now

def server (s : ServerSettings) (cipher : κ) (net : Network) :
    Except Failure (Endpoint κ α) × Network :=
  match Link.listen s net with
  | (.ok link, net) => (.ok (ofLink link cipher net.now), net)
  | (.error f, net) => (.error f, net)

def client (s : ClientSettings) (cipher : κ) (net : Network) :
    Call (Except Failure (Endpoint κ α)) × Network :=
  match Link.connect s net with
  | (.returned (.ok link), net) => (.returned (.ok (ofLink link cipher net.now)), net)
  | (.returned (.error f), net) => (.returned (.error f), net)
  | (.abandoned, net) => (.abandoned, net)

variable (e : Endpoint κ α)

/-- Gives the stream up because of a failure. -/
def lose (net : Network) : Endpoint κ α × Network :=
  let (link, net) := e.link.tearDown net
  ({ e with link }, net)

/-- The record for a message sent now; the echo in it is used up. -/
def stamp (payload : ByteArray) (now : Nat) : Record × Endpoint κ α :=
  let (echo, rest) := e.echo.take now
  (⟨e.link.role.outgoing, e.echo.stampAt now, echo, payload⟩, { e with echo := rest })

/-- The frame for a message sent now. A cipher that fails, or a message that is
too large when sealed, leaves the stream alone. -/
def pack (payload : ByteArray) (now : Nat) : Except Failure ByteArray × Endpoint κ α :=
  let (record, e) := e.stamp payload now
  match Cipher.encrypt e.cipher record.encode with
  | (.error f, cipher) => (.error (Failure.ofCipher f), { e with cipher })
  | (.ok bytes, cipher) =>
    match Frame.encode e.link.maxFrame bytes with
    | .error f => (.error (.frame f), { e with cipher })
    | .ok frame => (.ok frame, { e with cipher })

/-- Sends over the stream that is there. -/
def sendConnected (payload : ByteArray) (net : Network) :
    Call (Except Failure Sent) × Endpoint κ α × Network :=
  match e.pack payload net.now with
  | (.error f, e) => (.returned (.error f), e, net)
  | (.ok frame, e) =>
    match e.link.writeFrame frame net with
    | (.abandoned, link, net) => (.abandoned, { e with link }, net)
    | (.returned (.ok ()), link, net) =>
      (.returned (.ok .sent), { e with link, sendFault := none }, net)
    | (.returned (.error f), link, net) =>
      let (e, net) := lose { e with link, sendFault := some (.failed f) } net
      match e.link.role with
      | .client => (.returned (.ok .dropped), e, net)
      | .server => (.returned (.error f), e, net)

/-- Tries to get the stream back before a message is sent; only a client does. -/
def prepare (net : Network) : Call Unit × Endpoint κ α × Network :=
  match e.link.role with
  | .server => (.returned (), e, net)
  | .client =>
    let (outcome, link, net) := e.link.tryReconnect net
    (outcome.map fun _ => (), { e with link }, net)

/-- Sends one message. -/
def send (payload : ByteArray) (net : Network) :
    Call (Except Failure Sent) × Endpoint κ α × Network :=
  match e.prepare net with
  | (.abandoned, e, net) => (.abandoned, e, net)
  | (.returned (), e, net) =>
    match e.link.phase with
    | .connected _ => e.sendConnected payload net
    | .reconnecting _ =>
      (.returned (.ok .dropped), { e with sendFault := some .reconnecting }, net)
    | .listening | .disconnected =>
      (.returned (.ok .notConnected), { e with sendFault := some (.failed .notConnected) }, net)

/-- The record in the content of a frame, if the peer can have sent it. -/
def openFrame (frame : ByteArray) : Except Failure Record × Endpoint κ α :=
  match Cipher.decrypt e.cipher frame with
  | (.error f, cipher) => (.error (Failure.ofCipher f), { e with cipher })
  | (.ok plain, cipher) =>
    match Record.decode plain with
    | .error f => (.error (.record f), { e with cipher })
    | .ok record =>
      if record.direction = e.link.role.incoming then (.ok record, { e with cipher })
      else (.error .unexpectedDirection, { e with cipher })

/-- Takes note of the stamps of a record that has come. -/
def heed (record : Record) (now : Nat) : Endpoint κ α :=
  let (sample, echo) := e.echo.receive now record.stamp record.echo
  { e with
    echo
    roundTrip :=
      match sample with
      | none => e.roundTrip
      | some ms => (e.roundTrip.record (Scalar.ofNat ms)).2
    lastHeard := some now }

/-- Reads at most one record from the stream that is there. -/
def receiveRecord (net : Network) :
    Call (Except Failure (Option ByteArray)) × Endpoint κ α × Network :=
  match e.link.readFrame net with
  | (.abandoned, link, net) => (.abandoned, { e with link }, net)
  | (.returned (.error f), link, net) => (.returned (.error f), { e with link }, net)
  | (.returned (.ok none), link, net) => (.returned (.ok none), { e with link }, net)
  | (.returned (.ok (some frame)), link, net) =>
    match openFrame { e with link } frame with
    | (.error f, e) => (.returned (.error f), e, net)
    | (.ok record, e) => (.returned (.ok (some record.payload)), e.heed record net.now, net)

/-- Receives over the stream that is there. Whatever fails, the stream is given
up; a client reports only what the peer must not have sent. -/
def receiveConnected (net : Network) :
    Call (Except Failure Received) × Endpoint κ α × Network :=
  match e.receiveRecord net with
  | (.abandoned, e, net) => (.abandoned, e, net)
  | (.returned (.ok (some payload)), e, net) => (.returned (.ok (.payload payload)), e, net)
  | (.returned (.ok none), e, net) => (.returned (.ok .nothingYet), e, net)
  | (.returned (.error f), e, net) =>
    let (e, net) := e.lose net
    if e.link.role = .client ∧ f.isViolation = false then (.returned (.ok .nothingYet), e, net)
    else (.returned (.error f), e, net)

/-- Receives at most one message, after one attempt to get a stream if there is
none. -/
def receive (net : Network) : Call (Except Failure Received) × Endpoint κ α × Network :=
  match e.link.phase with
  | .connected _ => e.receiveConnected net
  | .listening =>
    match e.link.accept net with
    | (.abandoned, link, net) => (.abandoned, { e with link }, net)
    | (.returned (.error f), link, net) => (.returned (.error f), { e with link }, net)
    | (.returned (.ok false), link, net) =>
      (.returned (.ok .nothingYet), { e with link }, net)
    | (.returned (.ok true), link, net) => receiveConnected { e with link } net
  | .reconnecting _ =>
    match e.link.tryReconnect net with
    | (.abandoned, link, net) => (.abandoned, { e with link }, net)
    | (.returned false, link, net) => (.returned (.ok .nothingYet), { e with link }, net)
    | (.returned true, link, net) => receiveConnected { e with link } net
  | .disconnected =>
    match e.link.role with
    | .server => (.returned (.error .connectionClosed), e, net)
    | .client => (.returned (.error .notConnected), e, net)

/-- Lets go of the socket. A closed client does not come back. -/
def close (net : Network) : Endpoint κ α × Network :=
  let (link, net) := e.link.close net
  ({ e with link }, net)

def setIoTimeout (t : Nat) : Endpoint κ α := { e with link := e.link.setIoTimeout t }

def setLastRoundTrip (ms : Nat) : Endpoint κ α := { e with lastRoundTrip := ms }

/-- Why the latest message was not sent; empty once one has been. -/
def sendError : String :=
  match e.sendFault with
  | none => ""
  | some fault => fault.message

/-- Bytes of the system's form of the peer's address. -/
def remoteSize : Nat :=
  match e.link.remote with
  | none => 0
  | some a => a.nativeSize

/-- The advised time in milliseconds before a message is sent again. -/
def timeout : Nat := e.roundTrip.timeout

/-- The local port in decimal, if there is one. -/
def portText (net : Network) : String :=
  match e.link.localPort net with
  | none => ""
  | some port => toString port

end Endpoint
end Courier
