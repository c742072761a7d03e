import Courier.Endpoint
import Courier.Simulation.Cipher

/-!
# A simulated world

One machine on which the ends of a session run, with the peers that they talk
to. Time passes only while somebody waits, and in whole milliseconds: a wait
that would end in between ends at the next. Before a call the scripts of the
network are written from what is known to happen; after it, what the call did
is read off: streams opened, accepted, given up, bytes read and written.
-/

namespace Courier.Simulation

/-- The interfaces of a machine. -/
structure Machine where
  /-- Whether there is a way to an address, or the error of trying it. -/
  route : Ip → Except IoError Unit
  /-- Whether an address can be bound, or the error of trying it. -/
  bindable : Ip → Except IoError Unit
  lookup : String → Except String (List Ip)

namespace Machine

def unknownName (_name : String) : Except String (List Ip) :=
  .error "failed to lookup address information: Name or service not known"

/-- Only the machine itself can be reached. Calling all interfaces is calling
it, too. -/
def loopback : Machine where
  route ip :=
    if ip.isLoopback || ip.isAny then .ok ()
    else if ip.isLinkLocal6 then .error IoError.invalidArgument
    else .error IoError.networkUnreachable
  bindable ip :=
    if ip.isLoopback || ip.isAny then .ok ()
    else if ip.isMulticast6 || ip.isLinkLocal6 then .error IoError.invalidArgument
    else .error IoError.addressNotAvailable
  lookup := unknownName

/-- Without any interface nothing can be reached: there is no way to an IPv4
address, and no address to call an IPv6 one from. A listener may have any IPv4
address, since none is known to be another's, but of IPv6 only all interfaces.
An IPv6 address that needs an interface to mean something is refused as such. -/
def isolated : Machine where
  route ip :=
    match ip.plain with
    | .v4 .. => .error IoError.networkUnreachable
    | .v6 _ =>
      if ip.isMulticast6 then .error IoError.networkUnreachable
      else if ip.isLinkLocal6 then .error IoError.invalidArgument
      else .error IoError.addressNotAvailable
  bindable ip :=
    match ip.plain with
    | .v4 .. => .ok ()
    | .v6 _ =>
      if ip.isAny then .ok ()
      else if ip.isMulticast6 || ip.isLinkLocal6 then .error IoError.invalidArgument
      else .error IoError.addressNotAvailable
  lookup := unknownName

end Machine

/-- What runs in a simulation: a whole endpoint, or only its link. -/
inductive Subject
  | endpoint (e : Endpoint SampleCipher Float)
  | link (l : Link)

def Subject.toLink : Subject → Link
  | endpoint e => e.link
  | link l => l

/-- How one end of a stream stands. -/
inductive Ending
  | present
  /-- It sends nothing more. -/
  | shut
  | closed
  | reset
  deriving DecidableEq, Repr

/-- One end of a stream in the world. -/
structure EndState where
  ending : Ending := .present
  /-- Something was written towards an end that had closed. -/
  vanished : Bool := false
  /-- The reset by the other end has been noticed. -/
  noticed : Bool := false

/-- A peer that is played by the simulation. -/
structure Peer where
  stream : Nat
  role : Role
  /-- Bytes read that are not yet a whole frame. -/
  leftover : ByteArray := ByteArray.empty

inductive Deed
  | writes (b : ByteArray)
  | shuts

/-- Something a peer will do at an instant. -/
structure Plan where
  due : Nat
  stream : Nat
  role : Role
  deed : Deed

/-- The listener played by the simulation. -/
inductive Listener
  | ready
  | full
  | closed
  deriving DecidableEq, Repr

structure World where
  machine : Machine
  net : Network
  cipher : SampleCipher
  server : Option Subject := none
  client : Option Subject := none
  /-- Where the server listens. -/
  address : Option Address := none
  listener : Listener := .closed
  /-- Streams that nobody has accepted yet, oldest first, and who opened them. -/
  waiting : List (Nat × Address) := []
  ends : Nat → Role → EndState := fun _ _ => {}
  peers : List (Nat × Peer) := []
  plans : List Plan := []

namespace World

variable (w : World)

/-- Bytes on their way for which a stream has room. -/
def capacity : Nat := 4194304

def setEnd (stream : Nat) (role : Role) (s : EndState) : World :=
  { w with ends := fun i r => if i = stream ∧ r = role then s else w.ends i r }

def setEnding (stream : Nat) (role : Role) (ending : Ending) : World :=
  w.setEnd stream role { w.ends stream role with ending }

/-- Puts bytes of one end on a stream. From an end that sends nothing more they
are lost. -/
def append (stream : Nat) (role : Role) (b : ByteArray) : World :=
  let p := w.net.pipe stream role.outgoing
  match (w.ends stream role).ending with
  | .present =>
    { w with net := w.net.setPipe stream role.outgoing { p with written := p.written ++ b } }
  | .shut | .closed | .reset => w

/-- An end that is still there sends nothing more. -/
def shut (stream : Nat) (role : Role) : World :=
  match (w.ends stream role).ending with
  | .present => w.setEnding stream role .shut
  | .shut | .closed | .reset => w

def carryOut (p : Plan) : World :=
  match p.deed with
  | .writes b => w.append p.stream p.role b
  | .shuts => w.shut p.stream p.role

/-- Lets everything happen that is due by now. -/
def catchUp : World :=
  let due := (w.plans.filter fun p => p.due ≤ w.net.now).mergeSort fun a b => a.due ≤ b.due
  due.foldl carryOut { w with plans := w.plans.filter fun p => w.net.now < p.due }

/-! ## Writing the scripts -/

/-- What comes of an end's plans, after the bytes written so far, and all bytes
that will then have been written. Nothing follows once the end has shut. -/
def scheduled : List Plan → ByteArray → List (Timed Arrival) × ByteArray
  | [], written => ([], written)
  | p :: rest, written =>
    match p.deed with
    | .writes b =>
      let (arrivals, all) := scheduled rest (written ++ b)
      (⟨p.due, .upTo (written ++ b).size⟩ :: arrivals, all)
    | .shuts => ([⟨p.due, .ended⟩], written)

/-- What an end reads: what has arrived, then what the other end will do, or how
it has ended. -/
def arrivalsFor (stream : Nat) (role : Role) : Pipe :=
  let p := w.net.pipe stream role.incoming
  let now := w.net.now
  let there : List (Timed Arrival) := [⟨now, .upTo p.written.size⟩]
  match (w.ends stream role.opposite).ending with
  | .shut | .closed => { p with arrivals := there ++ [⟨now, .ended⟩] }
  | .reset =>
    let failure : List (Timed Arrival) :=
      if (w.ends stream role).noticed then [] else [⟨now, .failed IoError.reset⟩]
    { p with arrivals := there ++ failure ++ [⟨now, .ended⟩] }
  | .present =>
    let plans := (w.plans.filter fun q => q.stream = stream ∧ q.role = role.opposite).mergeSort
      fun a b => a.due ≤ b.due
    let (later, written) := scheduled plans p.written
    { p with written, arrivals := there ++ later }

/-- What an end meets that writes. -/
def uptakesFor (stream : Nat) (role : Role) : Pipe :=
  let p := w.net.pipe stream role.outgoing
  let now := w.net.now
  let room := capacity - (p.written.size - p.taken)
  let uptakes : List (Timed Uptake) :=
    match (w.ends stream role.opposite).ending with
    | .present | .shut => if room = 0 then [] else [⟨now, .room room⟩]
    | .closed =>
      if (w.ends stream role).vanished then [⟨now, .failed IoError.brokenPipe⟩]
      else [⟨now, .room capacity⟩]
    | .reset =>
      if (w.ends stream role).noticed then [⟨now, .failed IoError.brokenPipe⟩]
      else [⟨now, .failed IoError.reset⟩]
  { p with uptakes }

/-- Where the simulation's own listener waits. -/
def listenerAddress : Address := ⟨Ip.loopback4, 45000⟩

/-- Where a call goes: to all interfaces is to this machine. -/
def destination (ip : Ip) : Ip :=
  if ip = Ip.any6 then Ip.loopback6
  else if ip.isAny then Ip.loopback4
  else ip.plain

/-- Whether a listener at an address hears a call to another. -/
def hears (bound target : Address) : Bool :=
  bound.port = target.port &&
    match bound.ip.plain, destination target.ip with
    | .v4 a b c d, .v4 a' b' c' d' => bound.ip.isAny || (a, b, c, d) = (a', b', c', d')
    | .v4 .., .v6 _ => false
    | .v6 groups, ip => bound.ip.isAny || ip = .v6 groups

def serverListens : Bool :=
  match w.server with
  | some s => s.toLink.phase = .listening
  | none => false

/-- What an attempt to connect comes to now. -/
def dialsFor (target : Address) : List (Timed Dial) :=
  let now := w.net.now
  match w.machine.route target.ip with
  | .error e => [⟨now, .failed e⟩]
  | .ok () =>
    match w.address with
    | some bound =>
      if w.serverListens && hears bound target then [⟨now, .joined⟩]
      else [⟨now, .failed IoError.refused⟩]
    | none =>
      match w.listener, hears listenerAddress target with
      | .ready, true => [⟨now, .joined⟩]
      | .full, true => []
      | _, _ => [⟨now, .failed IoError.refused⟩]

/-- Writes the scripts for a call by one end. -/
def prepare (role : Role) (patience : Option Nat) (target : Option Address) : Network :=
  let net := (List.range (w.net.opened + 1)).foldl (fun net stream =>
    (net.setPipe stream role.incoming (w.arrivalsFor stream role)).setPipe stream role.outgoing
      (w.uptakesFor stream role)) w.net
  { net with
    patience
    dials := (target.map w.dialsFor).getD []
    visits :=
      match role with
      | .server => w.waiting.map fun v => ⟨w.net.now, .arrives v.1 v.2⟩
      | .client => [] }

/-! ## Reading off what a call did -/

def isFailure (a : Timed Arrival) : Bool :=
  match a.what with
  | .failed _ => true
  | _ => false

/-- What happened at one end of a stream during a call. -/
def settleEnd (role : Role) (scripted after : Network) (w : World) (stream : Nat) : World :=
  let other := role.opposite
  let state := w.ends stream role
  let incoming := after.pipe stream role.incoming
  let outgoing := after.pipe stream role.outgoing
  let wrote :=
    (scripted.pipe stream role.outgoing).written.size < outgoing.written.size
  let metReset := (w.ends stream other).ending = .reset &&
    (!incoming.arrivals.any isFailure || outgoing.uptakes.isEmpty)
  let arrived := (w.net.pipe stream role.incoming).written
  let net := w.net.setPipe stream role.incoming
    { incoming with written := arrived, arrivals := [] }
  let net := net.setPipe stream role.outgoing { outgoing with uptakes := [] }
  let w := { w with net }
  w.setEnd stream role { state with
    vanished := state.vanished || (wrote && (w.ends stream other).ending = .closed)
    noticed := state.noticed || metReset }

/-- Connections that were not accepted are reset when their listener closes. -/
def resetWaiting : World :=
  w.waiting.foldl (fun w v => w.setEnding v.1 .server .reset) { w with waiting := [] }

/-- Where a new stream comes from, as its listener sees it. -/
def callerOf (stream : Nat) (target : Address) : Address :=
  let port := 50000 + stream
  match w.address.map Address.ip, destination target.ip with
  | some (.v6 _), .v4 .. => ⟨Ip.mapped 127 0 0 1, port⟩
  | _, .v4 .. => ⟨Ip.loopback4, port⟩
  | _, .v6 _ => ⟨Ip.loopback6, port⟩

/-- Takes over what a call by one end did to the network. -/
def settle (role : Role) (target : Option Address) (scripted after : Network) : World :=
  let streams := List.range (after.opened + 1)
  let w := streams.foldl (settleEnd role scripted after) w
  let accepted :=
    match role with
    | .server => w.waiting.length - after.visits.length
    | .client => 0
  let opened := (List.range after.opened).drop w.net.opened
  let callers := opened.map fun stream =>
    (stream, w.callerOf stream (target.getD ⟨Ip.loopback4, 0⟩))
  let acts := after.log.take (after.log.length - w.net.log.length)
  let w := { w with
    net := { w.net with
      now := nextMilli after.now
      opened := after.opened
      log := after.log }
    waiting := w.waiting.drop accepted ++ callers }
  let w := acts.foldl (fun w a =>
    match a.what with
    | .releases stream => w.setEnding stream role .closed
    | _ => w) w
  w.catchUp

end World
end Courier.Simulation
