/-!
# Input and output errors

What the operating system reports when a socket fails: a kind, which decides
how the failure is dealt with, and a text of its own if it came with one.
-/

namespace Courier

inductive IoKind
  | notFound | permissionDenied | connectionRefused | connectionReset | hostUnreachable
  | networkUnreachable | connectionAborted | notConnected | addressInUse | addressNotAvailable
  | networkDown | brokenPipe | alreadyExists | wouldBlock | invalidInput | invalidData | timedOut
  | writeZero | interrupted | unsupported | unexpectedEof | outOfMemory | other
  deriving DecidableEq, Repr

def IoKind.description : IoKind → String
  | notFound => "entity not found"
  | permissionDenied => "permission denied"
  | connectionRefused => "connection refused"
  | connectionReset => "connection reset"
  | hostUnreachable => "host unreachable"
  | networkUnreachable => "network unreachable"
  | connectionAborted => "connection aborted"
  | notConnected => "not connected"
  | addressInUse => "address in use"
  | addressNotAvailable => "address not available"
  | networkDown => "network down"
  | brokenPipe => "broken pipe"
  | alreadyExists => "entity already exists"
  | wouldBlock => "operation would block"
  | invalidInput => "invalid input parameter"
  | invalidData => "invalid data"
  | timedOut => "timed out"
  | writeZero => "write zero"
  | interrupted => "operation interrupted"
  | unsupported => "unsupported"
  | unexpectedEof => "unexpected end of file"
  | outOfMemory => "out of memory"
  | other => "other error"

structure IoError where
  kind : IoKind
  text : Option String := none
  deriving DecidableEq, Repr

namespace IoError

def message (e : IoError) : String := e.text.getD e.kind.description

/-- An interrupted call is tried again, and so is one that would have had to
wait. -/
def isTransient (e : IoError) : Bool :=
  match e.kind with
  | .interrupted | .wouldBlock => true
  | _ => false

/-- Whether the error means that the stream it arose on is gone. -/
def isLoss (e : IoError) : Bool :=
  match e.kind with
  | .connectionReset | .connectionAborted | .brokenPipe | .notConnected | .unexpectedEof
  | .writeZero | .timedOut => true
  | _ => false

/-- An attempt to accept a peer that only failed because of that peer. -/
def isAbortedVisit (e : IoError) : Bool := e.isTransient || e.kind = .connectionAborted

/-- The text of an error that the system numbers. -/
def numbered (kind : IoKind) (text : String) (code : Nat) : IoError :=
  ⟨kind, some s!"{text} (os error {code})"⟩

def refused : IoError := numbered .connectionRefused "Connection refused" 111

def reset : IoError := numbered .connectionReset "Connection reset by peer" 104

def brokenPipe : IoError := numbered .brokenPipe "Broken pipe" 32

def addressInUse : IoError := numbered .addressInUse "Address already in use" 98

def addressNotAvailable : IoError :=
  numbered .addressNotAvailable "Cannot assign requested address" 99

def networkUnreachable : IoError := numbered .networkUnreachable "Network is unreachable" 101

def invalidArgument : IoError := numbered .invalidInput "Invalid argument" 22

end IoError
end Courier
