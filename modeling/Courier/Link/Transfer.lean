import Courier.Link.Lifecycle

/-!
# Frames through a link

Writing puts a whole frame on the stream, as many bytes at a time as the system
takes; each write may wait the full time. Reading collects bytes until a frame
is complete, and all its reads together wait no longer than one deadline. While
a frame is begun and not finished the link is marked, so that a write given up
half way bars the stream from further use.
-/

namespace Courier.Link

variable (l : Link)

/-- The most bytes that one read asks for. -/
def readSize : Nat := 4096

/-- How much to ask for: never more than there is room for. -/
def want (a : Accumulator) : Nat := max 1 (min readSize a.room)

theorem want_pos (a : Accumulator) : 0 < want a := by
  simp only [want]
  omega

theorem want_le_room {a : Accumulator} (h : a.pop.1 = .ok none) : want a ≤ a.room := by
  have := a.room_pos_of_pop_eq_none h
  simp only [want]
  omega

/-- Writes what is left of a frame. A transient failure is tried again. -/
def transmit (stream : Nat) (d : Direction) (timeout : Nat) (rest : ByteArray) (net : Network) :
    Call (Except Failure Unit) × Network :=
  if rest.size = 0 then (.returned (.ok ()), net)
  else
    match _h : net.write stream d rest (net.now + timeout) with
    | (.late, after) => (.returned (.error .writeTimeout), after)
    | (.abandoned, after) => (.abandoned, after)
    | (.came (.accepted n), after) =>
      if n = 0 then (.returned (.error (.io ⟨.writeZero, none⟩)), after)
      else transmit stream d timeout (rest.extract n rest.size) after
    | (.came (.failed e), after) =>
      if e.isTransient then transmit stream d timeout rest after
      else (.returned (.error (.io e)), after)
termination_by rest.size + (net.pipe stream d).uptakes.length
decreasing_by
  · obtain ⟨_, hwrite⟩ := net.write_came _h
    have := Pipe.write_accepted _ hwrite
    simp only [ByteArray.size_extract]
    omega
  · obtain ⟨_, hwrite⟩ := net.write_came _h
    have := Pipe.uptakes_write_failed _ hwrite
    omega

/-- Reads until a frame is complete or the deadline has come. -/
def gather (stream : Nat) (d : Direction) (deadline : Nat) (a : Accumulator) (net : Network) :
    Call (Except Failure (Option ByteArray)) × Accumulator × Network :=
  match a.pop with
  | (.error e, a) => (.returned (.error (.frame e)), a, net)
  | (.ok (some frame), a) => (.returned (.ok (some frame)), a, net)
  | (.ok none, a) =>
    match _h : net.read stream d (want a) deadline with
    | (.late, after) => (.returned (.ok none), a, after)
    | (.abandoned, after) => (.abandoned, a, after)
    | (.came .ended, after) => (.returned (.error .connectionClosed), a, after)
    | (.came (.failed e), after) =>
      if e.isTransient then gather stream d deadline a after
      else (.returned (.error (.io e)), a, after)
    | (.came (.bytes b), after) =>
      match a.extend b with
      | (.error e, a) => (.returned (.error (.frame e)), a, after)
      | (.ok (), a) => gather stream d deadline a after
termination_by (net.pipe stream d).outstanding
decreasing_by
  · obtain ⟨_, hread⟩ := net.read_came _h
    exact Pipe.outstanding_read_failed _ hread
  · obtain ⟨_, hread⟩ := net.read_came _h
    exact Pipe.outstanding_read_bytes _ (want_pos _) hread

/-- Writes a whole frame to the stream. -/
def writeFrame (frame : ByteArray) (net : Network) : Call (Except Failure Unit) × Link × Network :=
  if l.writing then (.returned (.error .interruptedWrite), l, net)
  else
    match l.phase with
    | .connected stream =>
      match transmit stream l.role.outgoing l.ioTimeout frame net with
      | (.returned (.ok ()), net) => (.returned (.ok ()), l, net)
      | (outcome, net) => (outcome, { l with writing := true }, net)
    | _ => (.returned (.error .notConnected), l, net)

/-- Reads the next frame; without one, nothing complete has come in time, and
what has come is kept. -/
def readFrame (net : Network) : Call (Except Failure (Option ByteArray)) × Link × Network :=
  if l.writing then (.returned (.error .interruptedWrite), l, net)
  else
    match l.phase with
    | .connected stream =>
      let (outcome, accumulator, net) :=
        gather stream l.role.incoming (net.now + l.ioTimeout) l.accumulator net
      (outcome, { l with accumulator }, net)
    | _ => (.returned (.error .notConnected), l, net)

end Courier.Link
