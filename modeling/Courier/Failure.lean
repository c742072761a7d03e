import Courier.Cipher.Basic
import Courier.Frame.Basic
import Courier.Net.IoError
import Courier.Record

/-!
# Failures

Everything that can go wrong between two ends, by cause. What follows from a
failure depends on the group it belongs to: a failure of the setup is final,
the loss of the peer lets a client connect again and stops a server, a
violation of the protocol ends the stream, and a transient failure is never
seen outside.
-/

namespace Courier

inductive Failure
  /-- A name stands for no address. -/
  | resolve (target reason : String)
  | bind (e : IoError)
  | settings (text : String)
  | io (e : IoError)
  | connectTimeout
  /-- A write made no progress in time; part of a frame may be on the stream. -/
  | writeTimeout
  /-- An earlier write was given up; part of a frame is on the stream. -/
  | interruptedWrite
  | connectionClosed
  | notConnected
  | frame (e : FrameError)
  | record (e : RecordError)
  /-- The peer sent a record that travels our way. -/
  | unexpectedDirection
  | authenticationFailed
  | cipher (e : CipherError)
  deriving DecidableEq, Repr

namespace Failure

def message : Failure → String
  | resolve target reason => s!"cannot resolve {target}: {reason}"
  | bind e => s!"bind failed: {e.message}"
  | settings text => s!"configuration error: {text}"
  | io e => s!"i/o error: {e.message}"
  | connectTimeout => "connect timeout"
  | writeTimeout => "write timeout"
  | interruptedWrite => "a cancelled write left a partial frame on the stream"
  | connectionClosed => "connection closed"
  | notConnected => "not connected"
  | frame e => s!"frame error: {e.message}"
  | record e => s!"record error: {e.message}"
  | unexpectedDirection => "record direction does not match peer role"
  | authenticationFailed => "authentication failed"
  | cipher e => s!"crypto error: {e.message}"

/-- A record that cannot be opened was not sealed by the peer. -/
def ofCipher : CipherError → Failure
  | .openFailed => authenticationFailed
  | e => cipher e

/-- The failure arose before there was anything to carry frames. -/
def isSetup : Failure → Bool
  | resolve .. | bind _ | settings _ => true
  | _ => false

/-- The stream is gone, or can carry no more frames. -/
def isPeerLoss : Failure → Bool
  | connectionClosed | writeTimeout | interruptedWrite => true
  | io e => e.isLoss
  | _ => false

def isTransient : Failure → Bool
  | io e => e.isTransient
  | _ => false

/-- The peer sent what it must not send. -/
def isViolation : Failure → Bool
  | frame _ | record _ | unexpectedDirection | authenticationFailed => true
  | _ => false

/-- Only a transient failure leaves the stream usable. -/
def isFatal (f : Failure) : Bool := !f.isTransient

end Failure
end Courier
