import Courier.Proofs.Endpoint.Receiving
import Courier.Proofs.Endpoint.Run
import Courier.Proofs.Endpoint.Sending

/-!
# What becomes of a failure

Whatever goes wrong with a stream costs the stream: a client may reconnect at
once, a server is done. A server says what went wrong, and so does a client that
was sent what must not be sent; any other loss a client keeps to itself. Only a
message that cannot be made into a frame is refused with the stream left as it
is. `ReceiveAnswer` and `SendAnswer` are what may be said of the two calls, and
every call on an endpoint that has been set up is answered like this.
-/

namespace Courier

/-- A failure that says nothing of a stream that was there: no loss of the peer, no
write given up, nothing that comes from the system. -/
def Failure.IsLocal (f : Failure) : Prop := f.isPeerLoss = false ∧ ∀ x, f ≠ .io x

theorem Failure.isLocal_of_isViolation {f : Failure} (h : f.isViolation = true) : f.IsLocal := by
  cases f <;> first | exact ⟨rfl, nofun⟩ | cases h

theorem Failure.isLocal_ofCipher (x : CipherError) : (Failure.ofCipher x).IsLocal := by
  cases x <;> exact ⟨rfl, nofun⟩

namespace Endpoint

open Simulation (SampleCipher)

variable {κ α : Type} [Cipher κ] {e₀ e e' e₁ : Endpoint κ α} {net₀ net net' net₁ : Network}
  {hist : List Event} {payload : ByteArray} {f : Failure}

theorem isLocal_of_localFault {now : Nat} (h : LocalFault payload e now f) :
    f.IsLocal := by
  cases h with
  | sealing => exact Failure.isLocal_ofCipher _
  | framing => exact ⟨rfl, nofun⟩

/-- What may be said of a call of `receive`. -/
structure ReceiveAnswer (e : Endpoint κ α) (net : Network) (o : Call (Except Failure Received))
    (e' : Endpoint κ α) (net' : Network) : Prop where
  /-- After a fault the stream is given up. -/
  failed : ∀ e₁ net₁ f, Attends e net e₁ net₁ → StreamFault e₁ net₁ f →
    o = .returned (reported e.link.role f) ∧ e'.link.GivenUp net'
  /-- Without one it is kept, and nothing fails. -/
  kept : ∀ e₁ net₁ s, Attends e net e₁ net₁ → (∀ f, ¬ StreamFault e₁ net₁ f) →
    e₁.link.phase = .connected s → e'.link.phase = .connected s ∧ ∀ f, o ≠ .returned (.error f)
  /-- An error is returned without a stream: one that was given up for it, none that
  could be waited for, or none after the end. -/
  surfaced : ∀ f, o = .returned (.error f) → e'.link.isConnected = false ∧
    ((∃ e₁ net₁, Attends e net e₁ net₁ ∧ StreamFault e₁ net₁ f) ∨
      (e.link.role = .server ∧ e.link.phase = .listening ∧ e'.link = e.link ∧ ∃ x, f = .io x) ∨
      e.link.phase = .disconnected ∧ f = closedFailure e.link.role)
  /-- A client speaks of violations, and says that it was closed. -/
  client : e.link.role = .client → ∀ f, o = .returned (.error f) → f.IsLocal ∧
    (f.isViolation = true ∨ e.link.phase = .disconnected ∧ f = .notConnected)

/-- What may be said of a call of `send`. -/
structure SendAnswer (payload : ByteArray) (e : Endpoint κ α) (net : Network)
    (o : Call (Except Failure Sent)) (e' : Endpoint κ α) (net' : Network) : Prop where
  /-- A message without a frame is refused, and nothing is done to the stream. -/
  refused : ∀ e₁ net₁ f, Prepares e net e₁ net₁ → LocalFault payload e₁ net₁.now f →
    o = .returned (.error f) ∧ e'.link = e₁.link ∧ net' = net₁
  /-- After a fault in writing the stream is given up. -/
  failed : ∀ e₁ net₁ f, Prepares e net e₁ net₁ → WriteFault payload e₁ net₁ f →
    o = .returned (reportedUnsent e.link.role f) ∧ e'.link.GivenUp net'
  /-- Without one it is kept. -/
  kept : ∀ e₁ net₁ s, Prepares e net e₁ net₁ → (∀ f, ¬ WriteFault payload e₁ net₁ f) →
    e₁.link.phase = .connected s → e'.link.phase = .connected s
  /-- An error is returned for a message without a frame, or by a server that has
  given its stream up. -/
  surfaced : ∀ f, o = .returned (.error f) → ∃ e₁ net₁, Prepares e net e₁ net₁ ∧
    (LocalFault payload e₁ net₁.now f ∧ e'.link = e₁.link ∧ net' = net₁ ∨
      WriteFault payload e₁ net₁ f ∧ e.link.role = .server ∧ e'.link.isConnected = false)
  /-- A client speaks of its own part only. -/
  client : e.link.role = .client → ∀ f, o = .returned (.error f) → f.IsLocal

/-! ## Receiving -/

theorem reported_eq_error {r : Role} {f' : Failure}
    (h : reported r f = .error f') : f' = f ∧ (r = .client → f.isViolation = true) := by
  unfold reported at h
  cases r with
  | server =>
    cases h
    exact ⟨rfl, nofun⟩
  | client =>
    dsimp only at h
    split at h <;> cases h
    exact ⟨rfl, fun _ => by assumption⟩

theorem receive_of_fault [Scalar α] {o : Call (Except Failure Received)}
    (ha : Attends e net e₁ net₁) (hf : StreamFault e₁ net₁ f)
    (h : e.receive net = (o, e', net')) :
    o = .returned (reported e.link.role f) ∧ e'.link.GivenUp net' := by
  obtain ⟨e₂, net₂, hconn, hgiven⟩ := receiveConnected_of_fault hf
  rw [ha.receive_eq, hconn, ha.role] at h
  cases h
  exact ⟨rfl, hgiven⟩

theorem receive_of_sound [Scalar α] {o : Call (Except Failure Received)}
    (ha : Attends e net e₁ net₁) (hn : ∀ f, ¬ StreamFault e₁ net₁ f)
    (h : e.receive net = (o, e', net')) :
    e'.link.phase = e₁.link.phase ∧ ∀ f, o ≠ .returned (.error f) := by
  rw [ha.receive_eq] at h
  obtain ⟨hlink, hsound⟩ := receiveConnected_of_sound hn h
  refine ⟨?_, hsound⟩
  rw [hlink]
  exact Link.phase_readFrame _ _

/-- An error has its reason, and no stream is left. -/
theorem receive_error [Scalar α] (h : e.receive net = (.returned (.error f), e', net')) :
    e'.link.isConnected = false ∧
      ((∃ e₁ net₁, Attends e net e₁ net₁ ∧ StreamFault e₁ net₁ f ∧
          (e.link.role = .client → f.isViolation = true)) ∨
        (e.link.phase = .listening ∧ e'.link = e.link ∧ ∃ x, f = .io x) ∨
        e.link.phase = .disconnected ∧ f = closedFailure e.link.role) := by
  rcases receive_cases h with ⟨e₁, net₁, ha, -⟩ | ⟨link, hm, rfl⟩
  · by_cases hsound : ∀ f', ¬ StreamFault e₁ net₁ f'
    · exact absurd rfl ((receive_of_sound ha hsound h).2 f)
    · obtain ⟨f', hfault⟩ := not_forall_not.mp hsound
      obtain ⟨ho, hgiven⟩ := receive_of_fault ha hfault h
      obtain ⟨rfl, hclient⟩ := reported_eq_error (Call.returned.inj ho).symm
      exact ⟨hgiven.isConnected_eq_false, .inl ⟨e₁, net₁, ha, hfault, hclient⟩⟩
  · obtain ⟨hnot, hwhy⟩ := hm.spec
    exact ⟨hnot, .inr (hwhy f rfl)⟩

theorem receive_answer [Scalar α] {o : Call (Except Failure Received)}
    (hc : Link.Coherent e.link net) (h : e.receive net = (o, e', net')) :
    ReceiveAnswer e net o e' net' where
  failed _ _ _ ha hf := receive_of_fault ha hf h
  kept _ _ _ ha hn hp := by
    obtain ⟨hphase, hsound⟩ := receive_of_sound ha hn h
    exact ⟨hphase.trans hp, hsound⟩
  surfaced f ho := by
    subst ho
    obtain ⟨hnot, hwhy⟩ := receive_error h
    refine ⟨hnot, ?_⟩
    rcases hwhy with ⟨e₁, net₁, ha, hf, -⟩ | ⟨hp, hlink, hio⟩ | hclosed
    · exact .inl ⟨e₁, net₁, ha, hf⟩
    · exact .inr (.inl ⟨(hc.listening hp).1, hp, hlink, hio⟩)
    · exact .inr (.inr hclosed)
  client hr f ho := by
    subst ho
    obtain ⟨-, ⟨_, _, -, -, hv⟩ | ⟨hp, -⟩ | ⟨hp, rfl⟩⟩ := receive_error h
    · exact ⟨Failure.isLocal_of_isViolation (hv hr), .inl (hv hr)⟩
    · rw [(hc.listening hp).1] at hr
      cases hr
    · rw [hr]
      exact ⟨⟨rfl, nofun⟩, .inr ⟨hp, rfl⟩⟩

/-! ## Sending -/

theorem send_of_local {o : Call (Except Failure Sent)} (hmax : e₁.link.maxFrame ≤ Frame.maxDeclared)
    (hp : Prepares e net e₁ net₁) (hf : LocalFault payload e₁ net₁.now f)
    (h : e.send payload net = (o, e', net')) :
    o = .returned (.error f) ∧ e'.link = e₁.link ∧ net' = net₁ := by
  rw [hp.send_eq, sendConnected_of_local ((pack_error_iff hmax).mpr hf)] at h
  cases h
  exact ⟨rfl, link_pack e₁ payload _, rfl⟩

theorem send_of_fault {o : Call (Except Failure Sent)} (hp : Prepares e net e₁ net₁)
    (hf : WriteFault payload e₁ net₁ f) (h : e.send payload net = (o, e', net')) :
    o = .returned (reportedUnsent e.link.role f) ∧ e'.link.GivenUp net' := by
  obtain ⟨e₂, net₂, hconn, hgiven⟩ := sendConnected_of_fault hf
  rw [hp.send_eq, hconn, hp.role] at h
  cases h
  exact ⟨rfl, hgiven⟩

/-- An error has its reason: the message, with the stream left alone, or the stream
of a server, which is given up. -/
theorem send_error (hmax : ∀ e₁ net₁, Prepares e net e₁ net₁ → e₁.link.maxFrame ≤ Frame.maxDeclared)
    (h : e.send payload net = (.returned (.error f), e', net')) :
    ∃ e₁ net₁, Prepares e net e₁ net₁ ∧
      (LocalFault payload e₁ net₁.now f ∧ e'.link = e₁.link ∧ net' = net₁ ∨
        WriteFault payload e₁ net₁ f ∧ e.link.role = .server ∧ e'.link.isConnected = false) := by
  rcases send_cases h with ⟨e₁, net₁, hp, hconn⟩ | ⟨-, ho⟩ | ⟨_, -, -, -, ho⟩
  · refine ⟨e₁, net₁, hp, ?_⟩
    by_cases hsound : ∀ f', ¬ WriteFault payload e₁ net₁ f'
    · have hlocal := (pack_error_iff (hmax _ _ hp)).mp
        ((sendConnected_of_sound hsound hconn).2 f rfl)
      exact .inl ⟨hlocal, (send_of_local (hmax _ _ hp) hp hlocal h).2⟩
    · obtain ⟨f', hfault⟩ := not_forall_not.mp hsound
      obtain ⟨ho, hgiven⟩ := send_of_fault hp hfault h
      cases hr : e.link.role with
      | client =>
        rw [hr] at ho
        cases ho
      | server =>
        rw [hr] at ho
        cases ho
        exact .inr ⟨hfault, rfl, hgiven.isConnected_eq_false⟩
  · cases ho
  · cases ho

theorem send_answer {o : Call (Except Failure Sent)} (hc : Link.Coherent e.link net)
    (hmax : e.link.maxFrame ≤ Frame.maxDeclared) (h : e.send payload net = (o, e', net')) :
    SendAnswer payload e net o e' net' := by
  have hmax : ∀ e₁ net₁, Prepares e net e₁ net₁ → e₁.link.maxFrame ≤ Frame.maxDeclared := by
    intro e₁ net₁ hp
    obtain ⟨es, hcalls, -⟩ := prepare_spec hp.prepare
    rwa [hcalls.run.maxFrame hc]
  refine ⟨?_, ?_, ?_, ?_, ?_⟩
  · intro e₁ net₁ f hp hf
    exact send_of_local (hmax _ _ hp) hp hf h
  · intro e₁ net₁ f hp hf
    exact send_of_fault hp hf h
  · intro e₁ net₁ s hp hn hs
    rw [hp.send_eq] at h
    exact (sendConnected_of_sound hn h).1.trans hs
  · intro f ho
    subst ho
    exact send_error hmax h
  · intro hr f ho
    subst ho
    obtain ⟨e₁, net₁, -, ⟨hlocal, -⟩ | ⟨-, hserver, -⟩⟩ := send_error hmax h
    · exact isLocal_of_localFault hlocal
    · rw [hserver] at hr
      cases hr

/-- However the peer and the system behave, every call of `receive` and of `send` on an
endpoint that has been set up is answered as its role demands. -/
theorem failures_handled [Scalar α] (hs : Start e₀ net₀) (h : Run e₀ net₀ hist e net) :
    (∀ o e' net', e.receive net = (o, e', net') → ReceiveAnswer e net o e' net') ∧
      ∀ payload o e' net', e.send payload net = (o, e', net') →
        SendAnswer payload e net o e' net' := by
  obtain ⟨hcoh, -, hmax⟩ := h.coherent hs
  have hle : e.link.maxFrame ≤ Frame.maxDeclared := by
    rw [hmax]
    exact hs.link.new.maxFrame_le_maxDeclared
  exact ⟨fun _ _ _ hreceive => receive_answer hcoh hreceive,
    fun _ _ _ _ hsend => send_answer hcoh hle hsend⟩

/-- A client next door, and what has become of it when half of its peer's first frame
has come. -/
def waiting : Endpoint SampleCipher Rat := ofLink Link.nearbyLink (.masked 7) 0

def waited : Endpoint SampleCipher Rat × Network :=
  (waiting.receive (Link.connect Link.nearby Link.halting).2).2

theorem run_waiting : Start waiting (Link.connect Link.nearby Link.halting).2 ∧
    Run waiting (Link.connect Link.nearby Link.halting).2
      [.receives (some 0) (.returned (.ok .nothingYet))] waited.1 waited.2 := by
  constructor
  · have h : Endpoint.client Link.nearby (.masked 7) Link.halting =
        (.returned (.ok waiting), (Link.connect Link.nearby Link.halting).2) := rfl
    exact .client ⟨fun _ => rfl, fun _ => rfl⟩ h
  · have ho : (waiting.receive (Link.connect Link.nearby Link.halting).2).1 =
        .returned (.ok .nothingYet) := by with_unfolding_all rfl
    have hstream : waited.1.link.stream? = some 0 := by decide +kernel
    rw [← hstream]
    exact Run.nil.call (.receive (Prod.ext ho rfl))

/-- The frame that comes in the end holds no record. -/
theorem failures_handled_waiting : ∃ e net,
    waited.1.receive waited.2 = (.returned (.error (.record (.tooShort 5 0))), e, net) ∧
      e.link.GivenUp net := by
  obtain ⟨hs, hr⟩ := run_waiting
  have hp : waited.1.link.phase = .connected 0 := by decide +kernel
  have hclient : waited.1.link.role = .client := by decide +kernel
  have hfault : StreamFault waited.1 waited.2 (.record (.tooShort 5 0)) := by
    refine receiveRecord_error_iff.mp ?_
    decide +kernel
  generalize hw : waited.1.receive waited.2 = w
  obtain ⟨o, e, net⟩ := w
  have hanswer := (failures_handled hs hr).1 o e net hw
  obtain ⟨rfl, hgiven⟩ := hanswer.failed _ _ _ (.held hp) hfault
  rw [hclient]
  exact ⟨e, net, rfl, hgiven⟩

end Endpoint
end Courier
