import Courier.Simulation.World

/-!
# The steps of a simulation

What the ends of a session are told to do, what their peers do, and what each
step reports. A step by an end of the session takes as long as that end waits;
a step of the world takes no time, except letting time pass.
-/

namespace Courier.Simulation

/-- What an end is told to do. A message is for endpoints and a frame for
links. -/
inductive Order
  | send (payload : ByteArray)
  /-- Sends until something other than success comes of it. -/
  | sendUntilStall (payload : ByteArray)
  | receive
  | accept
  | tryReconnect (times : Nat)
  | writeFrame (bytes : ByteArray)
  | writeUntilStall (bytes : ByteArray)
  | readFrame
  | tearDown
  | close
  | setIoTimeout (t : Nat)
  | setLastRoundTrip (ms : Nat)
  | describe

/-- What a peer or the world does. -/
inductive Event
  | advance (ms : Nat)
  | peerConnect (peer : Nat)
  | peerAccept (peer : Nat)
  | peerListen (full : Bool)
  | peerUnlisten
  | peerWrite (peer : Nat) (bytes : ByteArray)
  | peerWriteAt (peer ms : Nat) (bytes : ByteArray)
  | peerShutdown (peer : Nat)
  | peerShutdownAt (peer ms : Nat)
  | peerRead (peer : Nat)
  | peerClose (peer : Nat)
  | peerReset (peer : Nat)

inductive Step
  | order (role : Option Role) (withinMs : Option Nat) (o : Order)
  | event (e : Event)

/-- A frame as a peer sees it: its size and, if it could be opened, what was in
it. -/
structure SeenFrame where
  size : Nat
  record : Option ByteArray

inductive Report
  | nothing
  | done
  | cancelled
  | flag (b : Bool)
  | number (n : Nat)
  | decimal (n : Nat)
  | failed (f : Failure)
  | sent (s : Sent)
  | received (r : Received)
  | frame (f : Option ByteArray)
  | seen (frames : List SeenFrame) (rest : Nat) (closed : Bool)
  /-- Everything about the end that took the step. -/
  | description

/-- Whether a call that is repeated until it stalls is to be made again. -/
def Report.isSuccess : Report → Bool
  | .sent .sent | .done => true
  | _ => false

/-- A step that the simulation cannot take. -/
inductive Refusal
  | noSuchPeer
  | noSuchEnd
  | notForThisEnd
  deriving DecidableEq, Repr

def Refusal.message : Refusal → String
  | noSuchPeer => "no such peer"
  | noSuchEnd => "no such end"
  | notForThisEnd => "not for this end"

namespace World

variable (w : World)

def subject? (role : Role) : Option Subject :=
  match role with
  | .server => w.server
  | .client => w.client

def setSubject (role : Role) (s : Subject) : World :=
  let listened := w.serverListens
  match role with
  | .server =>
    let w := { w with server := some s }
    if listened && !w.serverListens then w.resetWaiting else w
  | .client => { w with client := some s }

/-- How often a stalling call is repeated at most. -/
def maxRepeats : Nat := 64

def reportSend : Call (Except Failure Sent) → Report
  | .abandoned => .cancelled
  | .returned (.error f) => .failed f
  | .returned (.ok s) => .sent s

def reportReceive : Call (Except Failure Received) → Report
  | .abandoned => .cancelled
  | .returned (.error f) => .failed f
  | .returned (.ok r) => .received r

def reportWrite : Call (Except Failure Unit) → Report
  | .abandoned => .cancelled
  | .returned (.error f) => .failed f
  | .returned (.ok ()) => .done

def reportRead : Call (Except Failure (Option ByteArray)) → Report
  | .abandoned => .cancelled
  | .returned (.error f) => .failed f
  | .returned (.ok f) => .frame f

def reportAccept : Call (Except Failure Bool) → Report
  | .abandoned => .cancelled
  | .returned (.error f) => .failed f
  | .returned (.ok b) => .flag b

def reportReconnect : Call Bool → Report
  | .abandoned => .cancelled
  | .returned b => .flag b

/-- One call on a whole endpoint. -/
def callEndpoint (e : Endpoint SampleCipher Float) (net : Network) :
    Order → Option (Report × Endpoint SampleCipher Float × Network)
  | .send payload | .sendUntilStall payload =>
    let (r, e, net) := e.send payload net
    some (reportSend r, e, net)
  | .receive =>
    let (r, e, net) := e.receive net
    some (reportReceive r, e, net)
  | .close =>
    let (e, net) := e.close net
    some (.nothing, e, net)
  | .setIoTimeout t =>
    let e := e.setIoTimeout t
    some (.number (wholeMillis e.link.ioTimeout), e, net)
  | .setLastRoundTrip ms =>
    let e := e.setLastRoundTrip ms
    some (.decimal e.lastRoundTrip, e, net)
  | .describe => some (.description, e, net)
  | _ => none

/-- One call on a link alone. -/
def callLink (l : Link) (net : Network) : Order → Option (Report × Link × Network)
  | .accept =>
    let (r, l, net) := l.accept net
    some (reportAccept r, l, net)
  | .tryReconnect _ =>
    let (r, l, net) := l.tryReconnect net
    some (reportReconnect r, l, net)
  | .writeFrame bytes | .writeUntilStall bytes =>
    let (r, l, net) := l.writeFrame bytes net
    some (reportWrite r, l, net)
  | .readFrame =>
    let (r, l, net) := l.readFrame net
    some (reportRead r, l, net)
  | .tearDown =>
    let (l, net) := l.tearDown net
    some (.nothing, l, net)
  | .close =>
    let (l, net) := l.close net
    some (.nothing, l, net)
  | .setIoTimeout t =>
    let l := l.setIoTimeout t
    some (.number (wholeMillis l.ioTimeout), l, net)
  | .describe => some (.description, l, net)
  | _ => none

def callSubject (s : Subject) (net : Network) (o : Order) : Option (Report × Subject × Network) :=
  match s with
  | .endpoint e => (callEndpoint e net o).map fun (r, e, net) => (r, .endpoint e, net)
  | .link l => (callLink l net o).map fun (r, l, net) => (r, .link l, net)

/-- Lets one end carry out an order once. -/
def obeyOnce (role : Role) (within : Option Nat) (o : Order) : Except Refusal (Report × World) :=
  match w.subject? role with
  | none => .error .noSuchEnd
  | some s =>
    let target := s.toLink.remote
    let scripted := w.prepare role (within.map (w.net.now + ·)) target
    match callSubject s scripted o with
    | none => .error .notForThisEnd
    | some (report, s, after) =>
      .ok (report, (w.settle role target scripted after).setSubject role s)

def obeyUntilStall (role : Role) (within : Option Nat) (o : Order) :
    Nat → World → Except Refusal (Report × World)
  | 0, w => w.obeyOnce role within o
  | n + 1, w =>
    match w.obeyOnce role within o with
    | .error r => .error r
    | .ok (report, w) =>
      if report.isSuccess then obeyUntilStall role within o n w else .ok (report, w)

def obeyTimes (role : Role) (within : Option Nat) (o : Order) :
    Nat → World → Except Refusal (Report × World)
  | 0, w => w.obeyOnce role within o
  | n + 1, w =>
    match w.obeyOnce role within o with
    | .error r => .error r
    | .ok (_, w) => obeyTimes role within o n w

def obey (role : Role) (within : Option Nat) (o : Order) : Except Refusal (Report × World) :=
  match o with
  | .sendUntilStall _ | .writeUntilStall _ => obeyUntilStall role within o (maxRepeats - 1) w
  | .tryReconnect times => obeyTimes role within o (times - 1) w
  | _ => w.obeyOnce role within o

/-! ## Peers -/

def peer? (id : Nat) : Except Refusal Peer :=
  match w.peers.find? (·.1 = id) with
  | some p => .ok p.2
  | none => .error .noSuchPeer

def setPeer (id : Nat) (p : Peer) : World :=
  { w with peers := (id, p) :: w.peers.filter (·.1 ≠ id) }

/-- Bytes cut at their length prefixes, and what is left over. -/
def cutFrames (bytes : ByteArray) : (fuel : Nat) → List ByteArray × ByteArray
  | 0 => ([], bytes)
  | fuel + 1 =>
    if bytes.size < Frame.headerSize then ([], bytes)
    else
      let stop := Frame.headerSize + ofBigEndian (octets (bytes.extract 0 Frame.headerSize))
      if bytes.size < stop then ([], bytes)
      else
        let (frames, rest) := cutFrames (bytes.extract stop bytes.size) fuel
        (bytes.extract Frame.headerSize stop :: frames, rest)

/-- What an observer makes of a frame: of a link's its bytes, of an endpoint's
the record in it. -/
def lookInto (frame : ByteArray) : Option ByteArray :=
  match w.server.or w.client with
  | some (.endpoint _) =>
    match (w.cipher.decrypt frame).1 with
    | .ok plain => some plain
    | .error _ => none
  | _ => some frame

/-- A peer takes everything that has arrived. -/
def takeAll (p : Peer) : ByteArray × World :=
  let pipe := w.net.pipe p.stream p.role.incoming
  (pipe.written.extract pipe.taken pipe.written.size,
    { w with net := w.net.setPipe p.stream p.role.incoming { pipe with taken := pipe.written.size } })

def isOver (p : Peer) : Bool :=
  match (w.ends p.stream p.role.opposite).ending with
  | .closed | .reset => true
  | _ => false

def peerRead (id : Nat) (p : Peer) : Report × World :=
  let (bytes, w) := w.takeAll p
  let all := p.leftover ++ bytes
  let (frames, leftover) := cutFrames all all.size
  let seen := frames.map fun f => SeenFrame.mk f.size (w.lookInto f)
  (.seen seen leftover.size (w.isOver p), w.setPeer id { p with leftover })

/-- A connection to the server by a peer. -/
def peerConnect (id : Nat) : Report × World :=
  match w.address with
  | none => (.flag false, w)
  | some bound =>
    let target : Address := ⟨Ip.loopback4, bound.port⟩
    match w.dialsFor target with
    | [⟨_, .joined⟩] =>
      let stream := w.net.opened
      let w := { w with
        net := { w.net with opened := stream + 1 }
        waiting := w.waiting ++ [(stream, w.callerOf stream target)] }
      (.flag true, w.setPeer id { stream, role := .client })
    | _ => (.flag false, w)

def peerAccept (id : Nat) : Report × World :=
  match w.address, w.waiting with
  | none, (stream, _) :: rest =>
    (.flag true, { w with waiting := rest }.setPeer id { stream, role := .server })
  | _, _ => (.flag false, w)

/-- A peer goes away, having read what has arrived. It can do so once. -/
def peerLeaves (p : Peer) (ending : Ending) : World :=
  match (w.ends p.stream p.role).ending with
  | .present | .shut => ((w.takeAll p).2).setEnding p.stream p.role ending
  | .closed | .reset => w

def plan (p : Peer) (ms : Nat) (deed : Deed) : World :=
  { w with plans := w.plans ++ [⟨w.net.now + millis ms, p.stream, p.role, deed⟩] }

def happen (e : Event) : Except Refusal (Report × World) :=
  match e with
  | .advance ms =>
    .ok (.nothing, { w with net := { w.net with now := w.net.now + millis ms } }.catchUp)
  | .peerConnect id => .ok (w.peerConnect id)
  | .peerAccept id => .ok (w.peerAccept id)
  | .peerListen full => .ok (.nothing, { w with listener := if full then .full else .ready })
  | .peerUnlisten =>
    .ok (.nothing, { (if w.address.isNone then w.resetWaiting else w) with listener := .closed })
  | .peerWrite id bytes => do
    let p ← w.peer? id
    .ok (.nothing, w.append p.stream p.role bytes)
  | .peerWriteAt id ms bytes => do .ok (.nothing, w.plan (← w.peer? id) ms (.writes bytes))
  | .peerShutdown id => do
    let p ← w.peer? id
    .ok (.nothing, w.shut p.stream p.role)
  | .peerShutdownAt id ms => do .ok (.nothing, w.plan (← w.peer? id) ms .shuts)
  | .peerRead id => do .ok (w.peerRead id (← w.peer? id))
  | .peerClose id => do .ok (.nothing, w.peerLeaves (← w.peer? id) .closed)
  | .peerReset id => do .ok (.nothing, w.peerLeaves (← w.peer? id) .reset)

/-- The end that carries out orders addressed to nobody: the one set up first. -/
def firstRole : Role := if w.server.isSome then .server else .client

/-- Takes one step, and names the end that took it. -/
def step (s : Step) : Except Refusal (Report × Option Role × World) :=
  match s with
  | .order role within o =>
    let role := role.getD w.firstRole
    (w.obey role (within.map millis) o).map fun (r, w) => (r, some role, w)
  | .event e => (w.happen e).map fun (r, w) => (r, none, w)

end World
end Courier.Simulation
