import Courier.Failure
import Courier.Text.Decimal
import Courier.Text.Quoted

/-!
# Port ranges

The ports that a server may bind, in the order in which it tries them. A range
is written as one port, or as its two ends with a colon between them; port
zero leaves the choice to the system.
-/

namespace Courier

/-- An inclusive range of ports. -/
structure PortRange where
  low : Nat
  high : Nat
  low_le_high : low ≤ high
  high_le : high ≤ 65535
  deriving DecidableEq

namespace PortRange

def maxPort : Nat := 65535

def single (port : Nat) (h : port ≤ 65535) : PortRange := ⟨port, port, Nat.le_refl _, h⟩

/-- The range a server takes by convention. -/
def conventional : PortRange := ⟨60001, 60999, by decide, by decide⟩

/-- Any port that the system chooses. -/
def any : PortRange := single 0 (by decide)

def ofBounds (low high : Nat) (h : high ≤ 65535) : Except Failure PortRange :=
  if h' : low ≤ high then .ok ⟨low, high, h', h⟩
  else .error (.settings s!"port range {low}:{high} is inverted")

def invalid (text : String) : Failure :=
  .settings ("invalid port or port range: " ++ Text.quoted '"' text)

/-- A port with white space around it. -/
def readPort? (cs : List Char) : Option { port : Nat // port ≤ 65535 } :=
  match Text.readNat? maxPort (Text.trim cs) with
  | none => none
  | some n => if h : n ≤ 65535 then some ⟨n, h⟩ else none

/-- Reads a range. The first colon parts its two ends, and the lower end is
read first. -/
def parse (text : String) : Except Failure PortRange :=
  let cs := text.toList
  match cs.dropWhile (· ≠ ':') with
  | [] =>
    match readPort? cs with
    | none => .error (invalid text)
    | some port => .ok (single port.1 port.2)
  | _ :: later =>
    match readPort? (cs.takeWhile (· ≠ ':')), readPort? later with
    | some low, some high => ofBounds low.1 high.1 high.2
    | _, _ => .error (invalid text)

def ports (r : PortRange) : List Nat := List.range' r.low (r.high - r.low + 1)

def toText (r : PortRange) : String :=
  if r.low = r.high then toString r.low else s!"{r.low}:{r.high}"

theorem mem_ports {r : PortRange} {p : Nat} : p ∈ r.ports ↔ r.low ≤ p ∧ p ≤ r.high := by
  have := r.low_le_high
  simp only [ports, List.mem_range'_1]
  omega

theorem ports_ne_nil (r : PortRange) : r.ports ≠ [] := by
  simp [ports]

end PortRange
end Courier
