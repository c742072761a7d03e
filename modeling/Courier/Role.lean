/-!
# The two ends

A server waits for exactly one peer and stops when it is lost; a client
connects to a fixed address and connects again. Bytes travel one way or the
other between them, and every record says which.
-/

namespace Courier

/-- Which way bytes travel between the two ends. -/
inductive Direction
  | toServer
  | toClient
  deriving DecidableEq, Repr

namespace Direction

def marker : Direction → UInt8
  | toServer => 0
  | toClient => 1

def ofMarker? (b : UInt8) : Option Direction :=
  if b = 0 then some toServer else if b = 1 then some toClient else none

def reverse : Direction → Direction
  | toServer => toClient
  | toClient => toServer

theorem reverse_ne (d : Direction) : d.reverse ≠ d := by cases d <;> decide

@[simp] theorem ofMarker?_marker (d : Direction) : ofMarker? d.marker = some d := by
  cases d <;> rfl

theorem ofMarker?_eq_some_iff {b : UInt8} {d : Direction} :
    ofMarker? b = some d ↔ b = d.marker := by
  constructor
  · intro h
    unfold ofMarker? at h
    split at h
    · cases h; assumption
    · split at h
      · cases h; assumption
      · cases h
  · rintro rfl
    exact ofMarker?_marker d

end Direction

inductive Role
  | server
  | client
  deriving DecidableEq, Repr

namespace Role

/-- The direction of what this end sends. -/
def outgoing : Role → Direction
  | server => .toClient
  | client => .toServer

def incoming (r : Role) : Direction := r.outgoing.reverse

/-- The other end. -/
def opposite : Role → Role
  | server => client
  | client => server

@[simp] theorem opposite_opposite (r : Role) : r.opposite.opposite = r := by cases r <;> rfl

@[simp] theorem outgoing_opposite (r : Role) : r.opposite.outgoing = r.incoming := by
  cases r <;> rfl

@[simp] theorem incoming_opposite (r : Role) : r.opposite.incoming = r.outgoing := by
  cases r <;> rfl

theorem incoming_ne_outgoing (r : Role) : r.incoming ≠ r.outgoing := r.outgoing.reverse_ne

theorem opposite_ne (r : Role) : r.opposite ≠ r := by cases r <;> decide

end Role
end Courier
