import Courier.Link.Basic

/-!
# The life of a link

How a server gets its one peer, how a client gets back to its server, and how a
stream is given up. An attempt to reconnect is made only when it is due, and a
new stream starts with nothing held of the one before.
-/

namespace Courier.Link

variable (l : Link) (net : Network)

/-- Waits for a server's peer. Nobody may come in time, which is no failure;
once somebody has come, the listener is closed. -/
def accept : Call (Except Failure Bool) × Link × Network :=
  match l.phase with
  | .listening =>
    match net.welcome (net.now + l.ioTimeout) with
    | (.late, net) => (.returned (.ok false), l, net)
    | (.abandoned, net) => (.abandoned, l, net)
    | (.came (.failed e), net) =>
      if e.isAbortedVisit then (.returned (.ok false), l, net)
      else (.returned (.error (.io e)), l, net)
    | (.came (.unusable e), net) => (.returned (.error (.io e)), l, net)
    | (.came (.arrives stream peer), net) =>
      (.returned (.ok true), { l with phase := .connected stream, remote := some peer }, net)
  | _ => (.returned (.ok l.isConnected), l, net)

/-- Makes an attempt to reconnect, if one is due. Says whether there is a stream
afterwards. -/
def tryReconnect : Call Bool × Link × Network :=
  match l.phase, l.remote with
  | .reconnecting outage, some remote =>
    if outage.isDue net.now then
      match openStream remote l.connectTimeout net with
      | (.returned (.ok stream), net) =>
        (.returned true,
          { l with phase := .connected stream, accumulator := l.accumulator.clear }, net)
      | (.returned (.error _), net) =>
        (.returned false, { l with phase := .reconnecting (outage.fail net.now) }, net)
      | (.abandoned, net) => (.abandoned, l, net)
    else (.returned false, l, net)
  | _, _ => (.returned l.isConnected, l, net)

/-- Lets go of whatever socket is held. -/
def close : Link × Network :=
  let net :=
    match l.phase with
    | .connected stream => net.note (.releases stream)
    | _ => net
  ({ l with phase := .disconnected, writing := false }, net)

/-- Gives the stream up after a failure. A client may try to reconnect at once;
a server is done. -/
def tearDown : Link × Network :=
  let (l, net) := l.close net
  match l.role with
  | .client => ({ l with phase := .reconnecting (Backoff.start net.now) }, net)
  | .server => (l, net)

@[simp] theorem role_accept : (l.accept net).2.1.role = l.role := by
  unfold accept
  split
  · split <;> (try split) <;> rfl
  · rfl

@[simp] theorem role_tryReconnect : (l.tryReconnect net).2.1.role = l.role := by
  unfold tryReconnect
  split
  · split
    · split <;> rfl
    · rfl
  · rfl

@[simp] theorem role_close : (l.close net).1.role = l.role := rfl

@[simp] theorem phase_close : (l.close net).1.phase = .disconnected := rfl

@[simp] theorem role_tearDown : (l.tearDown net).1.role = l.role := by
  unfold tearDown
  dsimp only
  split <;> rfl

end Courier.Link
