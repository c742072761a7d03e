import Courier.Backoff
import Courier.Frame.Accumulator
import Courier.Net.Network
import Courier.Settings

/-!
# Links

A link is the end of a session that owns sockets: at most one at a time, the
listener or the stream. A server goes from listening to connected to
disconnected; a client goes back and forth between connected and reconnecting.
This module holds the state and the way it is set up.
-/

namespace Courier

/-- Where a link is in its life. -/
inductive Phase
  | listening
  | connected (stream : Nat)
  | reconnecting (outage : Backoff)
  | disconnected
  deriving DecidableEq, Repr

structure Link where
  role : Role
  phase : Phase
  /-- A server's peer, once it has come; a client's server, always. -/
  remote : Option Address
  boundPort : Option Nat
  ioTimeout : Nat
  connectTimeout : Nat
  accumulator : Accumulator
  /-- A frame has been begun and not been finished. -/
  writing : Bool := false

namespace Link

/-- A server that has just bound its port. -/
def listening (s : ServerSettings) (port : Nat) : Link where
  role := .server
  phase := .listening
  remote := none
  boundPort := some port
  ioTimeout := clampIoTimeout s.ioTimeout
  connectTimeout := 0
  accumulator := Accumulator.empty s.maxFrame

/-- A client that has just connected. -/
def joined (s : ClientSettings) (remote : Address) (stream : Nat) : Link where
  role := .client
  phase := .connected stream
  remote := some remote
  boundPort := none
  ioTimeout := clampIoTimeout s.ioTimeout
  connectTimeout := s.connectTimeout
  accumulator := Accumulator.empty s.maxFrame

/-- The addresses a server tries on each port, in order: those of its host, or
all interfaces, IPv6 first. -/
def candidates (s : ServerSettings) (net : Network) : Except Failure (List Address) :=
  match s.host with
  | some host => net.resolve host 0
  | none => .ok [⟨Ip.any6, 0⟩, ⟨Ip.any4, 0⟩]

/-- Binds the first of these addresses that can be bound, and asks the socket for
its port. Without one, the error is that of the last, or the given one if there
was none to try. -/
def bindFirst (last : IoError) : List Address → Network → Except Failure Nat × Network
  | [], net => (.error (.bind last), net)
  | target :: rest, net =>
    match net.bind target with
    | (.ok port, net) =>
      match net.unnamed target with
      | none => (.ok port, net)
      | some e => (.error (.io e), net)
    | (.error e, net) => bindFirst e rest net

def noCandidate : IoError := ⟨.addressNotAvailable, some "no candidate address"⟩

/-- What a server tries to bind: port by port, every address on each. -/
def targets (ports : PortRange) (hosts : List Address) : List Address :=
  ports.ports.flatMap fun port => hosts.map fun a => { a with port }

/-- Sets up a server. -/
def listen (s : ServerSettings) (net : Network) : Except Failure Link × Network :=
  match s.validate with
  | .error f => (.error f, net)
  | .ok () =>
    match candidates s net with
    | .error f => (.error f, net)
    | .ok hosts =>
      match bindFirst noCandidate (targets s.ports hosts) net with
      | (.ok port, net) => (.ok (listening s port), net)
      | (.error f, net) => (.error f, net)

/-- One attempt to open a stream. -/
def openStream (target : Address) (timeout : Nat) (net : Network) :
    Call (Except Failure Nat) × Network :=
  match net.dial target (net.now + timeout) with
  | (.came (.ok stream), net) => (.returned (.ok stream), net)
  | (.came (.error e), net) => (.returned (.error (.io e)), net)
  | (.late, net) => (.returned (.error .connectTimeout), net)
  | (.abandoned, net) => (.abandoned, net)

/-- Sets up a client. The first address of its host is its server for good. -/
def connect (s : ClientSettings) (net : Network) : Call (Except Failure Link) × Network :=
  match s.validate with
  | .error f => (.returned (.error f), net)
  | .ok () =>
    match net.locate s.host s.port with
    | .error f => (.returned (.error f), net)
    | .ok (remote, _) =>
      match openStream remote s.connectTimeout net with
      | (.returned (.ok stream), net) => (.returned (.ok (joined s remote stream)), net)
      | (.returned (.error f), net) => (.returned (.error f), net)
      | (.abandoned, net) => (.abandoned, net)

/-- How many peers may wait to be accepted: a session has one. -/
def backlog : Nat := 1

variable (l : Link)

def isConnected : Bool :=
  match l.phase with
  | .connected _ => true
  | _ => false

/-- The port that a server has bound, or that a client's stream has. -/
def localPort (net : Network) : Option Nat :=
  match l.role, l.phase with
  | .server, _ => l.boundPort
  | .client, .connected stream => net.localPort stream
  | .client, _ => none

/-- Changes the time that one call waits, within its bounds. -/
def setIoTimeout (t : Nat) : Link := { l with ioTimeout := clampIoTimeout t }

def maxFrame : Nat := l.accumulator.maxFrame

/-- Bytes held of frames that have not been handed on. -/
def buffered : Nat := l.accumulator.size

/-- Attempts to reconnect that have failed since the stream was lost. -/
def attempts : Option Nat :=
  match l.phase with
  | .reconnecting outage => some outage.failures
  | _ => none

/-- How many sockets there are to watch: a listener or a stream. -/
def sockets : Nat :=
  match l.phase with
  | .listening | .connected _ => 1
  | .reconnecting _ | .disconnected => 0

end Link
end Courier
