import Courier.Failure
import Courier.Net.Address
import Courier.Net.Pipe
import Courier.Role

/-!
# The network as one process meets it

The clock, the streams, and what the attempts to bind, to connect and to accept
come to. Everything that the system may decide is a script in here, so a
statement about all networks is a statement about every behaviour of the
system. Streams are numbered; those that are opened by connecting get the
numbers in order. A log keeps what was asked of the system, latest first.
-/

namespace Courier

/-- What an attempt to connect comes to. -/
inductive Dial
  | joined
  | failed (e : IoError)
  deriving DecidableEq, Repr

/-- What waiting for a peer comes to. -/
inductive Visit
  | arrives (stream : Nat) (peer : Address)
  | failed (e : IoError)
  /-- A peer came, but its stream cannot be set up as it must be. -/
  | unusable (e : IoError)
  deriving DecidableEq

/-- What a process asks of the system. -/
inductive Act
  | binds (target : Address)
  | dials (target : Address)
  | opens (stream : Nat)
  | releases (stream : Nat)
  deriving DecidableEq

structure Network where
  now : Nat := 0
  /-- The instant at which the caller gives the present call up. -/
  patience : Option Nat := none
  pipe : Nat → Direction → Pipe := fun _ _ => {}
  /-- What the coming attempts to connect come to, one each. -/
  dials : List (Timed Dial) := []
  /-- How many streams have been opened by connecting. -/
  opened : Nat := 0
  /-- The peers that come to a listening process. -/
  visits : List (Timed Visit) := []
  /-- The port that binding an address yields. -/
  binding : Address → Except IoError Nat
  /-- Why a socket that is bound to an address does not tell which, if it does not. -/
  unnamed : Address → Option IoError := fun _ => none
  /-- What a name that is no address literal stands for. -/
  lookup : String → Except String (List Ip)
  localPort : Nat → Option Nat := fun _ => none
  log : List (Timed Act) := []

/-- How a wait ends: with what was waited for, at the deadline, or because the
caller gave up. -/
inductive Waited (α : Type)
  | came (a : α)
  | late
  | abandoned
  deriving DecidableEq

/-- A call that waits either returns or is given up on the way. -/
inductive Call (α : Type)
  | returned (a : α)
  | abandoned
  deriving DecidableEq

def Call.map {α β : Type} (f : α → β) : Call α → Call β
  | returned a => returned (f a)
  | abandoned => abandoned

namespace Network

variable (net : Network)

def note (act : Act) : Network := { net with log := ⟨net.now, act⟩ :: net.log }

def setPipe (stream : Nat) (d : Direction) (p : Pipe) : Network :=
  { net with pipe := fun s e => if s = stream ∧ e = d then p else net.pipe s e }

/-- Whether something due at an instant comes before the caller gives up. -/
def willing (due : Nat) : Bool :=
  match net.patience with
  | none => true
  | some t => due ≤ max net.now t

/-- When a wait ends that nothing comes to: at the deadline or, if that is
earlier, when the caller gives up. Either instant is met exactly, so what is
proved about the time that calls take is about an exact clock. The timers of the
real system end a wait at the next millisecond, as the simulation's
`World.settle` does. -/
def waitOut {α : Type} (deadline : Nat) : Waited α × Network :=
  let stop := max net.now deadline
  if net.willing stop then (.late, { net with now := stop })
  else (.abandoned, { net with now := max net.now (net.patience.getD net.now) })

/-- Waits for an event until a deadline. -/
def await {α : Type} (deadline : Nat) (event : Option (Timed α)) : Waited α × Network :=
  match event with
  | none => net.waitOut deadline
  | some e =>
    let due := max net.now e.due
    if due ≤ max net.now deadline && net.willing due then (.came e.what, { net with now := due })
    else net.waitOut deadline

/-- Waits for input on a pipe. -/
def read (stream : Nat) (d : Direction) (want deadline : Nat) : Waited Input × Network :=
  match net.await deadline ((net.pipe stream d).read want) with
  | (.came (input, p), net) => (.came input, net.setPipe stream d p)
  | (.late, net) => (.late, net)
  | (.abandoned, net) => (.abandoned, net)

/-- Waits until a pipe takes some of the bytes. -/
def write (stream : Nat) (d : Direction) (b : ByteArray) (deadline : Nat) :
    Waited Output × Network :=
  match net.await deadline ((net.pipe stream d).write b) with
  | (.came (output, p), net) => (.came output, net.setPipe stream d p)
  | (.late, net) => (.late, net)
  | (.abandoned, net) => (.abandoned, net)

/-- Makes one attempt to connect; the stream that it opens gets the next number. -/
def dial (target : Address) (deadline : Nat) : Waited (Except IoError Nat) × Network :=
  let next := net.dials.head?
  let net := { net.note (.dials target) with dials := net.dials.tail }
  match net.await deadline next with
  | (.came .joined, net) =>
    (.came (.ok net.opened), { net.note (.opens net.opened) with opened := net.opened + 1 })
  | (.came (.failed e), net) => (.came (.error e), net)
  | (.late, net) => (.late, net)
  | (.abandoned, net) => (.abandoned, net)

/-- Waits for a peer. -/
def welcome (deadline : Nat) : Waited Visit × Network :=
  match net.await deadline net.visits.head? with
  | (.came v, net) => (.came v, { net with visits := net.visits.tail })
  | (.late, net) => (.late, net)
  | (.abandoned, net) => (.abandoned, net)

def bind (target : Address) : Except IoError Nat × Network :=
  (net.binding target, net.note (.binds target))

/-- The first of the addresses that a host stands for, and the others: itself, if
it is a literal. A text with a NUL in it is no name. -/
def locate (host : String) (port : Nat) : Except Failure (Address × List Address) :=
  let unresolved (reason : String) : Failure := .resolve s!"{host}:{port}" reason
  match Ip.parse? host with
  | some ip => .ok (⟨ip, port⟩, [])
  | none =>
    if host.toList.contains (Char.ofNat 0) then
      .error (unresolved "file name contained an unexpected NUL byte")
    else
      match net.lookup host with
      | .error reason => .error (unresolved reason)
      | .ok [] => .error (unresolved "no addresses")
      | .ok (ip :: ips) => .ok (⟨ip, port⟩, ips.map fun ip => ⟨ip, port⟩)

/-- The addresses that a host stands for. -/
def resolve (host : String) (port : Nat) : Except Failure (List Address) :=
  (net.locate host port).map fun found => found.1 :: found.2

theorem resolve_eq_ok_iff {host : String} {port : Nat} {first : Address} {others : List Address} :
    net.resolve host port = .ok (first :: others) ↔ net.locate host port = .ok (first, others) := by
  unfold resolve
  cases net.locate host port <;> simp [Except.map, Prod.ext_iff]

/-- A name that stands for no address is not resolved. -/
theorem resolve_ne_nil {host : String} {port : Nat} {hosts : List Address}
    (h : net.resolve host port = .ok hosts) : hosts ≠ [] := by
  unfold resolve at h
  cases hfound : net.locate host port <;> rw [hfound] at h <;> cases h
  exact List.cons_ne_nil _ _

@[simp] theorem pipe_setPipe_self (stream : Nat) (d : Direction) (p : Pipe) :
    (net.setPipe stream d p).pipe stream d = p := by
  simp [setPipe]

theorem pipe_setPipe_ne {stream s : Nat} {d e : Direction} (p : Pipe)
    (h : ¬(s = stream ∧ e = d)) : (net.setPipe stream d p).pipe s e = net.pipe s e := by
  simp [setPipe, h]

theorem await_came {α : Type} {deadline : Nat} {event : Option (Timed α)} {a : α}
    {after : Network} (h : net.await deadline event = (.came a, after)) :
    ∃ due, event = some ⟨due, a⟩ ∧ after = { net with now := max net.now due } := by
  have hout : net.waitOut deadline ≠ (.came a, after) := by
    unfold waitOut
    dsimp only
    split <;> simp
  unfold await at h
  split at h
  · exact absurd h hout
  · rename_i e
    dsimp only at h
    split at h
    · cases h
      exact ⟨e.due, rfl, rfl⟩
    · exact absurd h hout

theorem read_came {stream want deadline : Nat} {d : Direction} {input : Input} {after : Network}
    (h : net.read stream d want deadline = (.came input, after)) :
    ∃ due, (net.pipe stream d).read want = some ⟨due, input, after.pipe stream d⟩ := by
  unfold read at h
  split at h
  · rename_i hawait
    obtain ⟨due, hread, rfl⟩ := net.await_came hawait
    cases h
    exact ⟨due, by simpa using hread⟩
  · cases h
  · cases h

theorem write_came {stream deadline : Nat} {d : Direction} {b : ByteArray} {output : Output}
    {after : Network} (h : net.write stream d b deadline = (.came output, after)) :
    ∃ due, (net.pipe stream d).write b = some ⟨due, output, after.pipe stream d⟩ := by
  unfold write at h
  split at h
  · rename_i hawait
    obtain ⟨due, hwrite, rfl⟩ := net.await_came hawait
    cases h
    exact ⟨due, by simpa using hwrite⟩
  · cases h
  · cases h

end Network
end Courier
