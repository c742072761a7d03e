import Courier.Proofs.Link.Transfers
import Courier.Proofs.Net.Drift

/-!
# One operation on a link

An `Event` is an operation with its outcome and, for a transfer, the stream it
was made on. `Step` lists the operations. `Change` says what they come to for
the streams: nothing, a stream that is new to the link, the end of the one it
has, or a transfer on it. Invariants of links are shown by going through these
cases.
-/

namespace Courier.Link

/-- An operation on a link, and what it came to. -/
inductive Event
  | accepts (outcome : Call (Except Failure Bool))
  | reconnects (outcome : Call Bool)
  | writes (stream : Option Nat) (frame : ByteArray) (outcome : Call (Except Failure Unit))
  | reads (stream : Option Nat) (outcome : Call (Except Failure (Option ByteArray)))
  | tearsDown
  | closes
  | adjusts (timeout : Nat)

namespace Event

/-- The stream of a transfer. -/
def on : Event → Option Nat
  | writes stream _ _ | reads stream _ => stream
  | _ => none

/-- The event gives the stream up. -/
def Releases (e : Event) : Prop := e = tearsDown ∨ e = closes

/-- No transfer, or one for which there was no stream. -/
inductive Idle : Event → Prop
  | accepts (o : Call (Except Failure Bool)) : Idle (.accepts o)
  | reconnects (o : Call Bool) : Idle (.reconnects o)
  | adjusts (t : Nat) : Idle (.adjusts t)
  | unwritten (frame : ByteArray) : Idle (.writes none frame (.returned (.error .notConnected)))
  | unread : Idle (.reads none (.returned (.error .notConnected)))

/-- A transfer that was refused because of an earlier write. -/
inductive Barred (stream : Option Nat) : Event → Prop
  | write (frame : ByteArray) :
      Barred stream (.writes stream frame (.returned (.error .interruptedWrite)))
  | read : Barred stream (.reads stream (.returned (.error .interruptedWrite)))

theorem Idle.on_eq_none {e : Event} (h : e.Idle) : e.on = none := by
  cases h <;> rfl

theorem Releases.on_eq_none {e : Event} (h : e.Releases) : e.on = none := by
  rcases h with rfl | rfl <;> rfl

theorem Barred.on_eq {e : Event} {stream : Option Nat} (h : e.Barred stream) : e.on = stream := by
  cases h <;> rfl

end Event

variable {l l' : Link} {net net' : Network} {e : Event} {s : Nat}

/-- The stream that a link has. -/
def stream? (l : Link) : Option Nat :=
  match l.phase with
  | .connected s => some s
  | _ => none

theorem stream?_eq_some : l.stream? = some s ↔ l.phase = .connected s := by
  unfold stream?
  split <;> simp_all

theorem stream?_eq_none : l.stream? = none ↔ ∀ s, l.phase ≠ .connected s := by
  unfold stream?
  split <;> simp_all

/-- The operations on a link. -/
inductive Step (l : Link) (net : Network) : Event → Link → Network → Prop
  | accept {o : Call (Except Failure Bool)} {l' : Link} {net' : Network}
      (h : l.accept net = (o, l', net')) : Step l net (.accepts o) l' net'
  | tryReconnect {o : Call Bool} {l' : Link} {net' : Network}
      (h : l.tryReconnect net = (o, l', net')) : Step l net (.reconnects o) l' net'
  | writeFrame {frame : ByteArray} {o : Call (Except Failure Unit)} {l' : Link} {net' : Network}
      (h : l.writeFrame frame net = (o, l', net')) : Step l net (.writes l.stream? frame o) l' net'
  | readFrame {o : Call (Except Failure (Option ByteArray))} {l' : Link} {net' : Network}
      (h : l.readFrame net = (o, l', net')) : Step l net (.reads l.stream? o) l' net'
  | tearDown {l' : Link} {net' : Network} (h : l.tearDown net = (l', net')) :
      Step l net .tearsDown l' net'
  | close {l' : Link} {net' : Network} (h : l.close net = (l', net')) : Step l net .closes l' net'
  | setIoTimeout (t : Nat) : Step l net (.adjusts t) (l.setIoTimeout t) net

/-- The link has not had this stream, and may still get it. -/
def Fresh (l : Link) (net : Network) (s : Nat) : Prop :=
  l.phase = .listening ∨ l.role = .client ∧ net.opened ≤ s

/-- What fits together in every link that has been set up: only a server
listens, and holds nothing then, only a client reconnects, a client's streams
have been opened, and a frame is begun on a stream only. -/
structure Coherent (l : Link) (net : Network) : Prop where
  listening : l.phase = .listening → l.role = .server ∧ l.accumulator.buffer = ByteArray.empty
  reconnecting : ∀ b, l.phase = .reconnecting b → l.role = .client
  opened : ∀ s, l.phase = .connected s → l.role = .client → s < net.opened
  writing : l.writing = true → ∃ s, l.phase = .connected s

theorem Fresh.of_drift {r : Role} (h : l.Fresh net' s) (hd : net.Drift r net') :
    l.Fresh net s := by
  rcases h with hl | ⟨hclient, hle⟩
  · exact .inl hl
  · exact .inr ⟨hclient, Nat.le_trans hd.opened hle⟩

namespace Coherent

theorem drift (h : Coherent l net) {r : Role} (hd : net.Drift r net') : Coherent l net' where
  listening := h.listening
  reconnecting := h.reconnecting
  opened s hs hc := Nat.lt_of_lt_of_le (h.opened s hs hc) hd.opened
  writing := h.writing

theorem not_fresh (h : Coherent l net) (hs : l.phase = .connected s) : ¬ l.Fresh net s := by
  rintro (hl | ⟨hc, hle⟩)
  · rw [hs] at hl
    cases hl
  · have := h.opened s hs hc
    omega

theorem writing_eq_false (h : Coherent l net) (hs : l.stream? = none) : l.writing = false := by
  by_cases hw : l.writing = true
  · obtain ⟨s, hp⟩ := h.writing hw
    exact absurd hp (stream?_eq_none.mp hs s)
  · simpa using hw

end Coherent

theorem readFrame_connected {o : Call (Except Failure (Option ByteArray))}
    (hp : l.phase = .connected s) (hw : l.writing = false)
    (h : l.readFrame net = (o, l', net')) :
    ∃ a, gather s l.role.incoming (net.now + l.ioTimeout) l.accumulator net = (o, a, net') ∧
      l' = { l with accumulator := a } := by
  unfold readFrame at h
  rw [if_neg (by simp [hw]), hp] at h
  cases h
  exact ⟨_, rfl, by rw [hp]⟩

theorem readFrame_unconnected (hs : l.stream? = none) (hw : l.writing = false) :
    l.readFrame net = (.returned (.error .notConnected), l, net) := by
  unfold readFrame
  rw [if_neg (by simp [hw])]
  split
  · rename_i s hp
    exact absurd hp (stream?_eq_none.mp hs s)
  · rfl

/-- A transfer on the stream that a link has. -/
inductive Transfer (s : Nat) (l : Link) (net : Network) : Event → Link → Network → Prop
  /-- A write that was given up bars the stream. -/
  | refused {e : Event} (hw : l.writing = true) (he : e.Barred (some s)) : Transfer s l net e l net
  | writes {net' : Network} (frame put : List UInt8) (o : Call (Except Failure Unit)) (b : Bool)
      (hw : l.writing = false) (hb : b = true ↔ o ≠ .returned (.ok ()))
      (ht : net.Touches s l.role.outgoing net')
      (htaken : (net'.pipe s l.role.outgoing).taken = (net.pipe s l.role.outgoing).taken)
      (hput : octets (net'.pipe s l.role.outgoing).written =
        octets (net.pipe s l.role.outgoing).written ++ put)
      (hdone : Transmitted frame o put) :
      Transfer s l net (.writes (some s) (packed frame) o) { l with writing := b } net'
  | reads {net' : Network} (a : Accumulator) (got : List UInt8)
      (o : Call (Except Failure (Option ByteArray))) (hw : l.writing = false)
      (ht : net.Touches s l.role.incoming net')
      (hwritten : (net'.pipe s l.role.incoming).written = (net.pipe s l.role.incoming).written)
      (htaken : (net.pipe s l.role.incoming).taken ≤ (net.pipe s l.role.incoming).written.size →
        (net'.pipe s l.role.incoming).taken ≤ (net.pipe s l.role.incoming).written.size)
      (ha : a.maxFrame = l.maxFrame)
      (hfit : l.accumulator.size ≤ l.accumulator.limit → a.size ≤ a.limit)
      (hgot : octets (net'.pipe s l.role.incoming).received =
        octets (net.pipe s l.role.incoming).received ++ got)
      (hend : Gathered l.maxFrame (octets l.accumulator.buffer ++ got) o (octets a.buffer)) :
      Transfer s l net (.reads (some s) o) { l with accumulator := a } net'

theorem Transfer.on_eq (h : Transfer s l net e l' net') : e.on = some s := by
  cases h with
  | refused _ he => exact he.on_eq
  | writes => rfl
  | reads => rfl

/-- What an operation comes to. -/
inductive Change (l : Link) (net : Network) : Event → Link → Network → Prop
  /-- The link keeps the stream that it has, or stays without one. -/
  | stays {e : Event} {l' : Link} {net' : Network} (he : e.Idle) (hn : net.Calm net')
      (hr : l'.role = l.role) (hw : l'.writing = l.writing)
      (ha : l'.accumulator = l.accumulator)
      (hp : l'.phase = l.phase ∨
        ∃ b b', l.phase = .reconnecting b ∧ l'.phase = .reconnecting b') : Change l net e l' net'
  | joins {e : Event} {l' : Link} {net' : Network} (s : Nat) (he : e.Idle) (hn : net.Calm net')
      (hr : l'.role = l.role) (hw : l'.writing = false)
      (ha : l'.accumulator = .empty l.maxFrame) (hf : l.Fresh net s)
      (hp : l'.phase = .connected s) (ho : l.role = .client → s < net'.opened)
      (hs : l.stream? = none) : Change l net e l' net'
  | leaves {e : Event} {l' : Link} {net' : Network} (he : e.Releases) (hn : net.Calm net')
      (hr : l'.role = l.role) (hw : l'.writing = false)
      (ha : l'.accumulator = l.accumulator)
      (hp : l'.phase = .disconnected ∨ l.role = .client ∧ ∃ b, l'.phase = .reconnecting b) :
      Change l net e l' net'
  | transfers {e : Event} {l' : Link} {net' : Network} (s : Nat) (hp : l.phase = .connected s)
      (ht : Transfer s l net e l' net') : Change l net e l' net'

theorem calm_openStream {target : Address} {timeout : Nat} {o : Call (Except Failure Nat)}
    (h : openStream target timeout net = (o, net')) :
    net.Calm net' ∧ ∀ s, o = .returned (.ok s) → net.opened ≤ s ∧ s < net'.opened := by
  unfold openStream at h
  split at h <;> rename_i hdial <;> obtain ⟨hcalm, hnew⟩ := Network.calm_dial hdial <;> cases h
  · refine ⟨hcalm, ?_⟩
    rintro s ⟨⟩
    exact hnew _ rfl
  · exact ⟨hcalm, by simp⟩
  · exact ⟨hcalm, by simp⟩
  · exact ⟨hcalm, by simp⟩

namespace Change

theorem of_accept {o : Call (Except Failure Bool)} (hc : Coherent l net)
    (h : l.accept net = (o, l', net')) : Change l net (.accepts o) l' net' := by
  unfold accept at h
  split at h
  · rename_i hl
    obtain ⟨hserver, hbuffer⟩ := hc.listening hl
    split at h <;> rename_i hvisit <;> have hcalm := Network.calm_welcome hvisit
    · cases h
      exact .stays (.accepts _) hcalm rfl rfl rfl (.inl rfl)
    · cases h
      exact .stays (.accepts _) hcalm rfl rfl rfl (.inl rfl)
    · split at h <;> cases h <;> exact .stays (.accepts _) hcalm rfl rfl rfl (.inl rfl)
    · cases h
      exact .stays (.accepts _) hcalm rfl rfl rfl (.inl rfl)
    · cases h
      have hs : l.stream? = none := by simp [stream?, hl]
      refine .joins _ (.accepts _) hcalm rfl (hc.writing_eq_false hs) ?_ (.inl hl) rfl ?_ hs
      · simp only [Accumulator.empty, maxFrame, ← hbuffer]
      · simp [hserver]
  · cases h
    exact .stays (.accepts _) (.refl _) rfl rfl rfl (.inl rfl)

theorem of_tryReconnect {o : Call Bool} (hc : Coherent l net)
    (h : l.tryReconnect net = (o, l', net')) : Change l net (.reconnects o) l' net' := by
  unfold tryReconnect at h
  split at h
  · rename_i outage remote hl _
    split at h
    · split at h <;> rename_i hopen <;> obtain ⟨hcalm, hnew⟩ := calm_openStream hopen <;> cases h
      · obtain ⟨hle, hlt⟩ := hnew _ rfl
        have hs : l.stream? = none := by simp [stream?, hl]
        exact .joins _ (.reconnects _) hcalm rfl (hc.writing_eq_false hs) rfl
          (.inr ⟨hc.reconnecting _ hl, hle⟩) rfl (fun _ => hlt) hs
      · exact .stays (.reconnects _) hcalm rfl rfl rfl (.inr ⟨_, _, hl, rfl⟩)
      · exact .stays (.reconnects _) hcalm rfl rfl rfl (.inl rfl)
    · cases h
      exact .stays (.reconnects _) (.refl _) rfl rfl rfl (.inl rfl)
  · cases h
    exact .stays (.reconnects _) (.refl _) rfl rfl rfl (.inl rfl)

theorem of_writeFrame {frame : ByteArray} {o : Call (Except Failure Unit)} (hc : Coherent l net)
    (h : l.writeFrame frame net = (o, l', net')) :
    Change l net (.writes l.stream? frame o) l' net' := by
  unfold writeFrame at h
  split at h
  · rename_i hw
    obtain ⟨s, hp⟩ := hc.writing hw
    cases h
    rw [stream?_eq_some.mpr hp]
    exact .transfers s hp (.refused hw (.write frame))
  · rename_i hw
    have hw : l.writing = false := by simpa using hw
    split at h
    · rename_i s hp
      rw [stream?_eq_some.mpr hp, ← packed_octets frame]
      apply Change.transfers s hp
      split at h <;> rename_i hsend <;>
        obtain ⟨htouch, htaken, put, hput, hdone⟩ := transmit_spec hsend
      · cases h
        have := Transfer.writes (octets frame) put _ false hw (by simp) htouch htaken hput hdone
        rwa [← hw] at this
      · rename_i hne
        cases h
        refine .writes (octets frame) put _ true hw ?_ htouch htaken hput hdone
        exact ⟨fun _ ho => hne ho, fun _ => rfl⟩
    · rename_i hp
      cases h
      rw [stream?_eq_none.mpr hp]
      exact .stays (.unwritten frame) (.refl _) rfl rfl rfl (.inl rfl)

theorem of_readFrame {o : Call (Except Failure (Option ByteArray))} (hc : Coherent l net)
    (h : l.readFrame net = (o, l', net')) : Change l net (.reads l.stream? o) l' net' := by
  by_cases hw : l.writing = true
  · obtain ⟨s, hp⟩ := hc.writing hw
    rw [readFrame, if_pos hw] at h
    cases h
    rw [stream?_eq_some.mpr hp]
    exact .transfers s hp (.refused hw .read)
  · have hw : l.writing = false := by simpa using hw
    cases hs : l.stream? with
    | some s =>
      have hp := stream?_eq_some.mp hs
      obtain ⟨a, hg, rfl⟩ := readFrame_connected hp hw h
      obtain ⟨htouch, hwritten, htaken, hmax, hfit, got, hgot, hend⟩ := gather_spec hg
      exact .transfers s hp (.reads a got _ hw htouch hwritten htaken hmax hfit hgot hend)
    | none =>
      rw [readFrame_unconnected hs hw] at h
      cases h
      exact .stays .unread (.refl _) rfl rfl rfl (.inl rfl)

theorem calm_close (h : l.close net = (l', net')) : net.Calm net' := by
  unfold close at h
  dsimp only at h
  split at h <;> cases h
  · exact Network.calm_note _
  · exact .refl _

theorem of_close (h : l.close net = (l', net')) : Change l net .closes l' net' := by
  have hcalm := calm_close h
  cases h
  exact .leaves (.inr rfl) hcalm rfl rfl rfl (.inl rfl)

theorem of_tearDown (h : l.tearDown net = (l', net')) : Change l net .tearsDown l' net' := by
  have hcalm : net.Calm (l.close net).2 := calm_close rfl
  unfold tearDown at h
  dsimp only at h
  split at h <;> rename_i hr <;> cases h
  · exact .leaves (.inl rfl) hcalm rfl rfl rfl (.inr ⟨hr, _, rfl⟩)
  · exact .leaves (.inl rfl) hcalm rfl rfl rfl (.inl rfl)

end Change

theorem Step.change (hc : Coherent l net) (h : Step l net e l' net') : Change l net e l' net' := by
  cases h with
  | accept h => exact .of_accept hc h
  | tryReconnect h => exact .of_tryReconnect hc h
  | writeFrame h => exact .of_writeFrame hc h
  | readFrame h => exact .of_readFrame hc h
  | tearDown h => exact .of_tearDown h
  | close h => exact .of_close h
  | setIoTimeout t => exact .stays (.adjusts t) (.refl _) rfl rfl rfl (.inl rfl)

end Courier.Link
