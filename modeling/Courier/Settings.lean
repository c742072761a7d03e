import Courier.PortRange
import Courier.Time

/-!
# Settings of the two ends

What a server and a client are told before they start. Settings are plain
values; they are checked once, before any socket is touched.
-/

namespace Courier

/-- Bounds of the time that one call waits for the peer. -/
def minIoTimeout : Nat := millis 100

def maxIoTimeout : Nat := millis 1000

def defaultIoTimeout : Nat := millis 500

def defaultConnectTimeout : Nat := millis 1000

def clampIoTimeout (t : Nat) : Nat := clamp minIoTimeout maxIoTimeout t

theorem clampIoTimeout_mem (t : Nat) :
    minIoTimeout ≤ clampIoTimeout t ∧ clampIoTimeout t ≤ maxIoTimeout :=
  ⟨le_clamp _ _ _, clamp_le (by decide) _⟩

def checkMaxFrame (size : Nat) : Except Failure Unit :=
  if size = 0 ∨ Frame.maxSize < size then
    .error (.settings s!"max frame size {size} outside 1..={Frame.maxSize}")
  else .ok ()

/-- When the system asks whether a silent peer is still there, how long it waits
between two questions, and how many go unanswered before it gives up. -/
structure Keepalive where
  idle : Nat
  interval : Nat
  retries : Nat

def Keepalive.standard : Keepalive := ⟨millis 10000, millis 3000, 3⟩

structure ServerSettings where
  /-- The local name to bind; all interfaces if there is none. -/
  host : Option String := none
  ports : PortRange := PortRange.any
  ioTimeout : Nat := defaultIoTimeout
  maxFrame : Nat := Frame.maxSize

namespace ServerSettings

def withIoTimeout (s : ServerSettings) (t : Nat) : ServerSettings :=
  { s with ioTimeout := clampIoTimeout t }

def withMaxFrame (s : ServerSettings) (size : Nat) : ServerSettings := { s with maxFrame := size }

def validate (s : ServerSettings) : Except Failure Unit := checkMaxFrame s.maxFrame

end ServerSettings

structure ClientSettings where
  host : String
  port : Nat
  ioTimeout : Nat := defaultIoTimeout
  connectTimeout : Nat := defaultConnectTimeout
  maxFrame : Nat := Frame.maxSize

namespace ClientSettings

def withIoTimeout (s : ClientSettings) (t : Nat) : ClientSettings :=
  { s with ioTimeout := clampIoTimeout t }

def withConnectTimeout (s : ClientSettings) (t : Nat) : ClientSettings :=
  { s with connectTimeout := t }

def withMaxFrame (s : ClientSettings) (size : Nat) : ClientSettings := { s with maxFrame := size }

/-- The host is checked first, then the port, the time to connect, and the
frame size. -/
def validate (s : ClientSettings) : Except Failure Unit :=
  if s.host = "" then .error (.settings "empty server host")
  else if s.port = 0 then .error (.settings "server port must be non-zero")
  else if s.connectTimeout = 0 then .error (.settings "connect timeout must be non-zero")
  else checkMaxFrame s.maxFrame

end ClientSettings
end Courier
