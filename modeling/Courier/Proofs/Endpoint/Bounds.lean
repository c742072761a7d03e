import Courier.Endpoint
import Courier.Proofs.Cipher
import Courier.Proofs.Link.Bounds
import Courier.Proofs.Link.Reading
import Courier.Proofs.Record

/-!
# Receiving stays within bounds

What a frame is taken apart into, nonce, sealed data, tag and the header of the
record, is there whenever it is taken. Together with the reading loop this makes
a checked copy of `receive` that always has a result, that of `receive` itself.
-/

namespace Courier

namespace Endpoint

variable {α : Type} [Scalar α]

/-- `openFrame` with every cut checked. -/
def openFrameChecked (e : Endpoint SessionCipher α) (frame : ByteArray) :
    Option (Except Failure Record × Endpoint SessionCipher α) :=
  match e.cipher.decryptChecked frame with
  | none => none
  | some (.error f, cipher) => some (.error (Failure.ofCipher f), { e with cipher })
  | some (.ok plain, cipher) =>
    match Record.decodeChecked plain with
    | none => none
    | some (.error f) => some (.error (.record f), { e with cipher })
    | some (.ok record) =>
      if record.direction = e.link.role.incoming then some (.ok record, { e with cipher })
      else some (.error .unexpectedDirection, { e with cipher })

omit [Scalar α] in
theorem openFrameChecked_eq (e : Endpoint SessionCipher α) (frame : ByteArray) :
    e.openFrameChecked frame = some (e.openFrame frame) := by
  unfold openFrameChecked openFrame
  rw [SessionCipher.decryptChecked_eq]
  generalize Cipher.decrypt e.cipher frame = opened
  obtain ⟨f | plain, cipher⟩ := opened
  · rfl
  · dsimp only
    rw [Record.decodeChecked_eq]
    generalize Record.decode plain = decoded
    cases decoded with
    | error f => rfl
    | ok record =>
      dsimp only
      split <;> rfl

/-- `receiveRecord` with every cut checked and a record of the passes of its
loop. -/
def receiveRecordChecked (e : Endpoint SessionCipher α) (net : Network) :
    Option (List Link.Pass × Call (Except Failure (Option ByteArray)) ×
      Endpoint SessionCipher α × Network) :=
  match e.link.readFrameChecked net with
  | none => none
  | some (passes, .abandoned, link, net) => some (passes, .abandoned, { e with link }, net)
  | some (passes, .returned (.error f), link, net) =>
    some (passes, .returned (.error f), { e with link }, net)
  | some (passes, .returned (.ok none), link, net) =>
    some (passes, .returned (.ok none), { e with link }, net)
  | some (passes, .returned (.ok (some frame)), link, net) =>
    match openFrameChecked { e with link } frame with
    | none => none
    | some (.error f, e) => some (passes, .returned (.error f), e, net)
    | some (.ok record, e) =>
      some (passes, .returned (.ok (some record.payload)), e.heed record net.now, net)

theorem receiveRecordChecked_eq {e : Endpoint SessionCipher α} {net : Network}
    {passes : List Link.Pass}
    (h : e.link.readFrameChecked net = some (passes, e.link.readFrame net)) :
    e.receiveRecordChecked net = some (passes, e.receiveRecord net) := by
  unfold receiveRecordChecked receiveRecord
  rw [h]
  generalize e.link.readFrame net = read
  obtain ⟨(f | none | frame) | _, link, net'⟩ := read
  · rfl
  · rfl
  · dsimp only
    rw [openFrameChecked_eq]
    generalize openFrame { e with link } frame = opened
    obtain ⟨f | record, e'⟩ := opened <;> rfl
  · rfl

/-- `receiveConnected` with every cut checked. -/
def receiveConnectedChecked (e : Endpoint SessionCipher α) (net : Network) :
    Option (List Link.Pass × Call (Except Failure Received) × Endpoint SessionCipher α × Network) :=
  match e.receiveRecordChecked net with
  | none => none
  | some (passes, .abandoned, e, net) => some (passes, .abandoned, e, net)
  | some (passes, .returned (.ok (some payload)), e, net) =>
    some (passes, .returned (.ok (.payload payload)), e, net)
  | some (passes, .returned (.ok none), e, net) =>
    some (passes, .returned (.ok .nothingYet), e, net)
  | some (passes, .returned (.error f), e, net) =>
    let (e, net) := e.lose net
    if e.link.role = .client ∧ f.isViolation = false then
      some (passes, .returned (.ok .nothingYet), e, net)
    else some (passes, .returned (.error f), e, net)

theorem receiveConnectedChecked_eq {e : Endpoint SessionCipher α} {net : Network}
    {passes : List Link.Pass}
    (h : e.link.readFrameChecked net = some (passes, e.link.readFrame net)) :
    e.receiveConnectedChecked net = some (passes, e.receiveConnected net) := by
  unfold receiveConnectedChecked receiveConnected
  rw [receiveRecordChecked_eq h]
  generalize e.receiveRecord net = received
  obtain ⟨(f | none | payload) | _, e', net'⟩ := received
  · dsimp only
    split <;> rfl
  · rfl
  · rfl
  · rfl

/-- `receive` with every cut checked. -/
def receiveChecked (e : Endpoint SessionCipher α) (net : Network) :
    Option (List Link.Pass × Call (Except Failure Received) × Endpoint SessionCipher α × Network) :=
  match e.link.phase with
  | .connected _ => e.receiveConnectedChecked net
  | .listening =>
    match e.link.accept net with
    | (.abandoned, link, net) => some ([], .abandoned, { e with link }, net)
    | (.returned (.error f), link, net) => some ([], .returned (.error f), { e with link }, net)
    | (.returned (.ok false), link, net) =>
      some ([], .returned (.ok .nothingYet), { e with link }, net)
    | (.returned (.ok true), link, net) => receiveConnectedChecked { e with link } net
  | .reconnecting _ =>
    match e.link.tryReconnect net with
    | (.abandoned, link, net) => some ([], .abandoned, { e with link }, net)
    | (.returned false, link, net) => some ([], .returned (.ok .nothingYet), { e with link }, net)
    | (.returned true, link, net) => receiveConnectedChecked { e with link } net
  | .disconnected =>
    match e.link.role with
    | .server => some ([], .returned (.error .connectionClosed), e, net)
    | .client => some ([], .returned (.error .notConnected), e, net)

/-- The checked copy of `receive` has a result, that of `receive`. -/
theorem receiveChecked_spec {e : Endpoint SessionCipher α} {net : Network}
    (hc : e.link.Coherent net) (hfit : e.link.accumulator.size ≤ e.link.accumulator.limit) :
    ∃ passes, e.receiveChecked net = some (passes, e.receive net) ∧
      Link.Bounded e.link.accumulator.limit passes := by
  have hread : ∀ {link : Link} {net' : Network}, link.maxFrame = e.link.maxFrame →
      link.accumulator.size ≤ link.accumulator.limit →
      ∃ passes, receiveConnectedChecked { e with link } net' =
          some (passes, receiveConnected { e with link } net') ∧
        Link.Bounded e.link.accumulator.limit passes := by
    intro link net' hmax hfit
    obtain ⟨passes, heq, hbound⟩ := link.readFrameChecked_spec net' hfit
    have hlimit : link.accumulator.limit = e.link.accumulator.limit :=
      congrArg (· + Frame.headerSize) hmax
    rw [hlimit] at hbound
    exact ⟨passes, receiveConnectedChecked_eq (e := { e with link }) heq, hbound⟩
  unfold receiveChecked receive
  cases hp : e.link.phase with
  | connected s => exact hread rfl hfit
  | listening =>
    dsimp only
    generalize ha : e.link.accept net = accepted
    obtain ⟨(f | joined) | _, link, net'⟩ := accepted
    · exact ⟨[], rfl, .nil _⟩
    · have hchange := Link.Change.of_accept hc ha
      cases joined with
      | false => exact ⟨[], rfl, .nil _⟩
      | true => exact hread hchange.maxFrame (hchange.fits hfit)
    · exact ⟨[], rfl, .nil _⟩
  | reconnecting outage =>
    dsimp only
    generalize hr : e.link.tryReconnect net = reconnected
    obtain ⟨joined | _, link, net'⟩ := reconnected
    · have hchange := Link.Change.of_tryReconnect hc hr
      cases joined with
      | false => exact ⟨[], rfl, .nil _⟩
      | true => exact hread hchange.maxFrame (hchange.fits hfit)
    · exact ⟨[], rfl, .nil _⟩
  | disconnected =>
    dsimp only
    cases e.link.role <;> exact ⟨[], rfl, .nil _⟩

/-! ## No overflow -/

section Overflow

variable {κ : Type} [Cipher κ] (e : Endpoint κ α) (net : Network)

omit [Scalar α] in
theorem openFrame_ne_frame (frame : ByteArray) (f : FrameError) :
    (e.openFrame frame).1 ≠ .error (.frame f) := by
  unfold openFrame
  split
  · rename_i g cipher _
    cases g <;> simp [Failure.ofCipher]
  · split
    · simp
    · split <;> simp

theorem receiveRecord_ne_overflow (held incoming limit : Nat) :
    (e.receiveRecord net).1 ≠
      .returned (.error (.frame (.bufferOverflow held incoming limit))) := by
  have hread := e.link.readFrame_ne_overflow net held incoming limit
  unfold receiveRecord
  split
  · simp
  · rename_i f link net' heq
    rw [heq] at hread
    simpa using hread
  · simp
  · rename_i frame link net' heq
    have hopen := openFrame_ne_frame { e with link } frame (.bufferOverflow held incoming limit)
    split
    · rename_i f e' heq'
      rw [heq'] at hopen
      simpa using hopen
    · simp

theorem receiveConnected_ne_overflow (held incoming limit : Nat) :
    (e.receiveConnected net).1 ≠
      .returned (.error (.frame (.bufferOverflow held incoming limit))) := by
  have hrecord := e.receiveRecord_ne_overflow net held incoming limit
  unfold receiveConnected
  split
  · simp
  · simp
  · simp
  · rename_i f e' net' heq
    rw [heq] at hrecord
    dsimp only
    split
    · simp
    · simpa using hrecord

omit [Scalar α] [Cipher κ] in
theorem accept_ne_frame (f : FrameError) :
    (e.link.accept net).1 ≠ .returned (.error (.frame f)) := by
  unfold Link.accept
  split
  · split
    · simp
    · simp
    · split <;> simp
    · simp
    · simp
  · simp

theorem receive_ne_overflow (held incoming limit : Nat) :
    (e.receive net).1 ≠ .returned (.error (.frame (.bufferOverflow held incoming limit))) := by
  unfold receive
  split
  · exact e.receiveConnected_ne_overflow net held incoming limit
  · split
    · simp
    · rename_i f link net' heq
      have haccept := e.accept_ne_frame net (.bufferOverflow held incoming limit)
      rw [heq] at haccept
      simpa using haccept
    · simp
    · exact receiveConnected_ne_overflow _ _ held incoming limit
  · split
    · simp
    · simp
    · exact receiveConnected_ne_overflow _ _ held incoming limit
  · split <;> simp

end Overflow

/-! ## Every reachable link -/

/-- An endpoint whose link holds part of a frame. -/
def zeroEndpoint : Endpoint SessionCipher Rat :=
  ofLink Link.halfway ⟨⟨List.replicate 32 0, rfl⟩, ⟨fun _ => 0, 0⟩⟩ 0

/-- Whatever a peer sends and however it arrives, a link that has been set up keeps
to its limit: it holds no more than one frame of the largest size, asks for no more
than there is room for and for at least one byte, cuts nothing that is not there,
and never has to refuse what it has read. -/
theorem reads_within_bounds {l₀ l : Link} {net₀ net : Network} {tr : List Link.Event}
    (hs : Link.Start l₀ net₀) (hr : Link.Run l₀ net₀ tr l net) :
    (1 ≤ l.maxFrame ∧ l.maxFrame ≤ Frame.maxSize) ∧
    l.accumulator.size ≤ l.maxFrame + Frame.headerSize ∧
    (∃ passes, l.readFrameChecked net = some (passes, l.readFrame net) ∧
      Link.Bounded (l.maxFrame + Frame.headerSize) passes) ∧
    (∀ held incoming limit,
      (l.readFrame net).1 ≠ .returned (.error (.frame (.bufferOverflow held incoming limit)))) ∧
    (∀ e : Endpoint SessionCipher α, e.link = l →
      ∃ passes, e.receiveChecked net = some (passes, e.receive net) ∧
        Link.Bounded (l.maxFrame + Frame.headerSize) passes) ∧
    ∀ (κ : Type) [Cipher κ] (e : Endpoint κ α), e.link = l → ∀ held incoming limit,
      (e.receive net).1 ≠
        .returned (.error (.frame (.bufferOverflow held incoming limit))) := by
  have hn := hs.new
  have hmax := hr.maxFrame hn.coherent
  have hfit := hr.fits hn
  refine ⟨⟨hmax ▸ hn.maxFrame_pos, hmax ▸ hn.maxFrame_le⟩, hfit, l.readFrameChecked_spec net hfit,
    l.readFrame_ne_overflow net, ?_, ?_⟩
  · rintro e rfl
    exact receiveChecked_spec (hr.coherent hn.coherent) hfit
  · rintro κ _ e rfl held incoming limit
    exact e.receive_ne_overflow net held incoming limit

/-- A link that holds two bytes of a frame reads the others at once. -/
theorem reads_within_bounds_halting :
    Link.Bounded (Frame.maxSize + Frame.headerSize) [⟨2, Frame.maxSize + 2, 4096, some 3⟩] ∧
    ∃ passes, receiveChecked zeroEndpoint Link.haltingLater =
        some (passes, receive zeroEndpoint Link.haltingLater) ∧
      Link.Bounded (Frame.maxSize + Frame.headerSize) passes := by
  obtain ⟨-, -, ⟨passes, hread, hbound⟩, -, hreceive, -⟩ :=
    @reads_within_bounds Rat _ _ _ _ _ _ Link.start_halting Link.run_halting
  have hpasses : (Link.halfway.readFrameChecked Link.haltingLater).map Prod.fst =
      some [⟨2, Frame.maxSize + 2, 4096, some 3⟩] := by decide +kernel
  rw [hread, Option.map_some, Option.some.injEq] at hpasses
  exact ⟨hpasses ▸ hbound, hreceive _ rfl⟩

end Endpoint
end Courier
