import Courier.Simulation.Step

/-!
# Setting up a simulation

A scenario says which ends there are and how they are configured. The server is
set up first. A client goes to the server, or to a listener that the simulation
plays.
-/

namespace Courier.Simulation

structure ServerScenario where
  ioTimeout : Nat
  maxFrame : Nat
  host : Option String
  /-- The system chooses the port. -/
  anyPort : Bool
  /-- Consecutive ports, and whether each is in use already. -/
  taken : List Bool

structure ClientScenario where
  ioTimeout : Nat
  connectTimeout : Nat
  maxFrame : Nat
  host : String
  port : Option Nat

structure Scenario where
  machine : Machine
  /-- Whole endpoints are simulated, or only their links. -/
  endpoints : Bool
  server : Option ServerScenario
  client : Option ClientScenario
  cipher : SampleCipher
  listener : Listener

namespace Scenario

/-- The first port of a server's range. -/
def basePort : Nat := 40000

/-- The port that the system chooses. -/
def chosenPort : Nat := 49152

def portRange (s : ServerScenario) : PortRange :=
  if s.anyPort then PortRange.any
  else
    let high := min 65535 (basePort + max 1 s.taken.length - 1)
    if h : basePort ≤ high then ⟨basePort, high, h, Nat.min_le_left _ _⟩ else PortRange.any

/-- What binding an address yields. A port in use on the loopback address is in
use for all interfaces, too. -/
def binding (machine : Machine) (taken : List Bool) (a : Address) : Except IoError Nat :=
  let inUse := basePort ≤ a.port && taken.getD (a.port - basePort) false &&
    (a.ip.plain = Ip.loopback4 || a.ip.isAny)
  match machine.bindable a.ip with
  | .error e => .error e
  | .ok () =>
    if inUse then .error IoError.addressInUse
    else .ok (if a.port = 0 then chosenPort else a.port)

def emptyWorld (s : Scenario) : World where
  machine := s.machine
  cipher := s.cipher
  listener := s.listener
  net :=
    { binding := binding s.machine ((s.server.map ServerScenario.taken).getD [])
      lookup := s.machine.lookup
      localPort := fun stream => some (50000 + stream) }

/-- The address that was bound last. -/
def lastBound (net : Network) (port : Nat) : Option Address :=
  net.log.findSome? fun a =>
    match a.what with
    | .binds target => some { target with port }
    | _ => none

def subjectOf (s : Scenario) (l : Link) (now : Nat) : Subject :=
  if s.endpoints then .endpoint (Endpoint.ofLink l s.cipher now) else .link l

def setUpServer (s : Scenario) (w : World) : Except Failure World :=
  match s.server with
  | none => .ok w
  | some c =>
    let settings : ServerSettings :=
      { host := c.host, ports := portRange c, ioTimeout := c.ioTimeout, maxFrame := c.maxFrame }
    match Link.listen settings w.net with
    | (.error f, _) => .error f
    | (.ok l, net) =>
      .ok { w with
        net
        server := some (s.subjectOf l net.now)
        address := lastBound net (l.boundPort.getD 0) }

/-- A client's setup may take time, whether or not it succeeds. -/
def setUpClient (s : Scenario) (w : World) : Except (Failure × Nat) World :=
  match s.client with
  | none => .ok w
  | some c =>
    let port := c.port.getD (w.address.getD World.listenerAddress).port
    let settings : ClientSettings :=
      { host := c.host, port, ioTimeout := c.ioTimeout, connectTimeout := c.connectTimeout,
        maxFrame := c.maxFrame }
    let target :=
      match w.net.locate c.host port with
      | .ok (first, _) => some first
      | .error _ => none
    let scripted := w.prepare .client none target
    match Link.connect settings scripted with
    | (.returned (.ok l), after) =>
      .ok ((w.settle .client target scripted after).setSubject .client
        (s.subjectOf l after.now))
    | (.returned (.error f), after) => .error (f, after.now)
    | (.abandoned, after) => .error (.connectTimeout, after.now)

/-- The world in which a scenario begins, or the failure of its setup and the
instant of it. -/
def setUp (s : Scenario) : Except (Failure × Nat) World :=
  match s.setUpServer s.emptyWorld with
  | .error f => .error (f, 0)
  | .ok w => s.setUpClient w

/-- Where in its range the server's port is, or whether it has one. -/
def boundOffset (w : World) : Nat := (w.address.map Address.port).getD 0 - basePort

end Scenario
end Courier.Simulation
