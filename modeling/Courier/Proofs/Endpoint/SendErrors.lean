import Courier.Proofs.Endpoint.Echoes

/-!
# What is said of the latest message

An endpoint keeps why its latest message was not sent, and forgets it once one has
been. `Tells` is what a call of `send` leaves there, for each way in which it can end:
a message that is refused before anything is written leaves what was there before, and
so does a call that is given up. Nothing but a call of `send` changes it, so in every
run it is the latest call with something to say that is told about.
-/

namespace Courier

namespace Failure

/-- What writing to a stream fails with. -/
def isOfWriting : Failure → Bool
  | writeTimeout | interruptedWrite | io _ => true
  | _ => false

theorem not_isLocal_of_isOfWriting {f : Failure} (h : f.isOfWriting = true) : ¬ f.IsLocal := by
  rintro ⟨hloss, hio⟩
  cases f with
  | io x => exact hio x rfl
  | writeTimeout => cases hloss
  | interruptedWrite => cases hloss
  | _ => cases h

theorem message_ne_empty (f : Failure) : f.message ≠ "" := by
  have hfront : ∀ {s t : String}, s ≠ "" → s ++ t ≠ "" :=
    fun hs heq => hs (String.append_eq_empty_iff.mp heq).1
  cases f with
  | resolve => exact hfront (hfront (hfront (by decide)))
  | bind => exact hfront (by decide)
  | settings => exact hfront (by decide)
  | io => exact hfront (by decide)
  | frame => exact hfront (by decide)
  | record => exact hfront (by decide)
  | cipher => exact hfront (by decide)
  | _ => decide

end Failure

theorem SendFault.message_ne_empty (fault : SendFault) : fault.message ≠ "" := by
  cases fault with
  | reconnecting => decide
  | failed f => exact f.message_ne_empty

namespace Link

variable {l l' : Link} {net net' after : Network} {f : Failure}

theorem isOfWriting_of_transmit {stream timeout : Nat} {d : Direction} {rest : ByteArray}
    (h : transmit stream d timeout rest net = (.returned (.error f), after)) :
    f.isOfWriting = true := by
  fun_induction transmit stream d timeout rest net with
  | case1 rest net hsize => cases h
  | case2 rest net hsize mid hwrite =>
    cases h
    rfl
  | case3 rest net hsize mid hwrite => cases h
  | case4 rest net hsize mid hwrite =>
    cases h
    rfl
  | case5 rest net hsize n mid hwrite hn ih => exact ih h
  | case6 rest net hsize e mid hwrite htrans ih => exact ih h
  | case7 rest net hsize e mid hwrite htrans =>
    cases h
    rfl

theorem isOfWriting_of_writeFrame {frame : ByteArray} (hc : l.isConnected = true)
    (h : l.writeFrame frame net = (.returned (.error f), l', net')) : f.isOfWriting = true := by
  obtain ⟨s, hp⟩ := isConnected_iff.mp hc
  unfold writeFrame at h
  rw [hp] at h
  split at h
  · cases h
    rfl
  · dsimp only at h
    split at h <;> rename_i htransmit
    · cases h
    · cases h
      exact isOfWriting_of_transmit htransmit

end Link

namespace Endpoint

open Simulation (SampleCipher)

variable {κ α : Type} [Cipher κ] {e₀ e e' e₁ : Endpoint κ α} {net₀ net net' net₁ : Network}
  {hist : List Event} {ev : Event} {payload : ByteArray} {f : Failure}

omit [Cipher κ] in
theorem sendError_eq_empty_iff : e.sendError = "" ↔ e.sendFault = none := by
  unfold sendError
  split <;> rename_i hfault
  · simp [hfault]
  · simp [hfault, SendFault.message_ne_empty]

theorem isOfWriting_of_writeFault (h : WriteFault payload e net f)
    (hc : e.link.isConnected = true) : f.isOfWriting = true := by
  obtain ⟨hpack, hwrite⟩ := h
  rename_i frame e₁ link after
  have hlink := link_pack e payload net.now
  rw [hpack] at hlink
  exact Link.isOfWriting_of_writeFrame (hlink ▸ hc) hwrite

/-! ## What is told after a call -/

/-- Why a message is not sent for which there is no stream. -/
def absence : Phase → SendFault
  | .reconnecting _ => .reconnecting
  | _ => .failed .notConnected

/-- What a call of `send` comes to, and what is told after it. -/
inductive Tells (payload : ByteArray) (e : Endpoint κ α) (net : Network) :
    Call (Except Failure Sent) → Option SendFault → Prop
  | sent {e₁ : Endpoint κ α} {net₁ : Network} (hp : Prepares e net e₁ net₁) :
      Tells payload e net (.returned (.ok .sent)) none
  /-- There is no stream, and none to be had. -/
  | apart {e₁ : Endpoint κ α} {net₁ : Network} (hprep : e.prepare net = (.returned (), e₁, net₁))
      (hapart : e₁.link.isConnected = false) :
      Tells payload e net (.returned (.ok (unsent e₁.link.phase))) (some (absence e₁.link.phase))
  | failed {e₁ : Endpoint κ α} {net₁ : Network} {f : Failure} (hp : Prepares e net e₁ net₁)
      (hf : WriteFault payload e₁ net₁ f) :
      Tells payload e net (.returned (reportedUnsent e.link.role f)) (some (.failed f))
  /-- Nothing has been written, and nothing is noted. -/
  | refused {e₁ : Endpoint κ α} {net₁ : Network} {f : Failure} (hp : Prepares e net e₁ net₁)
      (hf : LocalFault payload e₁ net₁.now f) :
      Tells payload e net (.returned (.error f)) e.sendFault
  | abandoned : Tells payload e net .abandoned e.sendFault

theorem sendFault_pack (e : Endpoint κ α) (payload : ByteArray) (now : Nat) :
    (e.pack payload now).2.sendFault = e.sendFault := by
  unfold pack stamp
  dsimp only
  split
  · rfl
  · split <;> rfl

omit [Cipher κ] in
theorem sendFault_prepare {o : Call Unit} (h : e.prepare net = (o, e', net')) :
    e'.sendFault = e.sendFault := by
  unfold prepare at h
  split at h <;> cases h <;> rfl

theorem send_of_apart (hprep : e.prepare net = (.returned (), e₁, net₁))
    (hapart : e₁.link.isConnected = false) : e.send payload net =
      (.returned (.ok (unsent e₁.link.phase)),
        { e₁ with sendFault := some (absence e₁.link.phase) }, net₁) := by
  unfold send
  rw [hprep]
  dsimp only
  split <;> rename_i hphase
  · simp [Link.isConnected, hphase] at hapart
  · rw [hphase]
    rfl
  · rw [hphase]
    rfl
  · rw [hphase]
    rfl

theorem Prepares.tells {o : Call (Except Failure Sent)} (hp : Prepares e net e₁ net₁)
    (hmax : e₁.link.maxFrame ≤ Frame.maxDeclared)
    (h : e₁.sendConnected payload net₁ = (o, e', net')) : Tells payload e net o e'.sendFault := by
  have hbefore := (sendFault_pack e₁ payload net₁.now).trans (sendFault_prepare hp.prepare)
  cases sendConnected_delivers h with
  | refused hpack =>
    rw [hpack] at hbefore
    have hlocal := (pack_error_iff hmax).mp (congrArg Prod.fst hpack)
    exact hbefore ▸ .refused hp hlocal
  | abandoned hpack hwrite =>
    rw [hpack] at hbefore
    exact hbefore ▸ .abandoned
  | sent hpack hwrite => exact .sent hp
  | lost hpack hwrite => exact hp.role ▸ .failed hp ⟨hpack, hwrite⟩

theorem send_tells {o : Call (Except Failure Sent)} (hmax : e.link.maxFrame ≤ Frame.maxDeclared)
    (h : e.send payload net = (o, e', net')) : Tells payload e net o e'.sendFault := by
  rcases send_cases h with ⟨e₁, net₁, hp, hconn⟩ | ⟨hprep, rfl⟩ | ⟨e₁, hprep, hapart, -, -⟩
  · obtain ⟨-, -, -, -, hsame, -⟩ := prepare_spec hp.prepare
    exact hp.tells (hsame ▸ hmax) hconn
  · exact sendFault_prepare hprep ▸ .abandoned
  · rw [send_of_apart hprep hapart] at h
    cases h
    exact .apart hprep hapart

/-! ## What other calls leave as it is -/

omit [Cipher κ] in
theorem Attends.sendFault (h : Attends e net e₁ net₁) : e₁.sendFault = e.sendFault := by
  cases h <;> rfl

theorem sendFault_receiveRecord [Scalar α] {r : Call (Except Failure (Option ByteArray))}
    (h : e.receiveRecord net = (r, e', net')) : e'.sendFault = e.sendFault := by
  unfold receiveRecord at h
  generalize e.link.readFrame net = w at h
  obtain ⟨o, link, after⟩ := w
  split at h <;> rename_i heq <;> cases heq
  · cases h
    rfl
  · cases h
    rfl
  · cases h
    rfl
  · rename_i frame
    have hsnd := openFrame_snd { e with link } frame
    split at h <;> rename_i hopen <;> rw [hopen] at hsnd <;> cases h <;> cases hsnd <;> rfl

theorem sendFault_receive [Scalar α] {o : Call (Except Failure Received)}
    (h : e.receive net = (o, e', net')) : e'.sendFault = e.sendFault := by
  rcases receive_cases h with ⟨e₁, net₁, ha, hconn⟩ | ⟨link, hm, rfl⟩
  · rw [← ha.sendFault]
    unfold receiveConnected at hconn
    generalize hrecord : e₁.receiveRecord net₁ = w at hconn
    obtain ⟨r, e₂, after⟩ := w
    rw [← sendFault_receiveRecord hrecord]
    split at hconn <;> rename_i heq <;> cases heq
    · cases hconn
      rfl
    · cases hconn
      rfl
    · cases hconn
      rfl
    · dsimp only [lose] at hconn
      split at hconn <;> cases hconn <;> rfl
  · rfl

/-! ## The latest call with something to say -/

/-- Whether a call of `send` has sent its message, if it leaves a word about that. -/
def Event.told? : Event → Option Bool
  | sends _ _ (.returned (.ok .sent)) => some true
  | sends _ _ (.returned (.ok _)) => some false
  | sends _ _ (.returned (.error f)) => if f.isOfWriting then some false else none
  | _ => none

theorem isOfWriting_of_localFault {now : Nat} (h : LocalFault payload e now f) :
    f.isOfWriting = false := by
  rw [← Bool.not_eq_true]
  exact fun hw => Failure.not_isLocal_of_isOfWriting hw (isLocal_of_localFault h)

theorem Tells.told {o : Call (Except Failure Sent)} {fault : Option SendFault}
    (h : Tells payload e net o fault) (stream : Option Nat) :
    (∀ sent, (Event.sends stream payload o).told? = some sent → (fault = none ↔ sent = true)) ∧
      ((Event.sends stream payload o).told? = none → fault = e.sendFault) := by
  cases h with
  | sent => simp [Event.told?]
  | @apart e₁ net₁ hprep hapart =>
    cases e₁.link.phase <;> simp [Event.told?, unsent]
  | @failed e₁ net₁ f hp hf =>
    have hwriting := isOfWriting_of_writeFault hf hp.isConnected
    cases e.link.role <;> simp [Event.told?, reportedUnsent, hwriting]
  | refused hp hf => simp [Event.told?, isOfWriting_of_localFault hf]
  | abandoned => simp [Event.told?]

theorem Step.told [Scalar α] (hmax : e.link.maxFrame ≤ Frame.maxDeclared)
    (h : Step e net ev e' net') :
    (∀ sent, ev.told? = some sent → (e'.sendFault = none ↔ sent = true)) ∧
      (ev.told? = none → e'.sendFault = e.sendFault) := by
  cases h with
  | send h => exact (send_tells hmax h).told _
  | receive h => exact ⟨nofun, fun _ => sendFault_receive h⟩
  | close h =>
    cases h
    exact ⟨nofun, fun _ => rfl⟩
  | setIoTimeout t => exact ⟨nofun, fun _ => rfl⟩
  | setLastRoundTrip ms => exact ⟨nofun, fun _ => rfl⟩

omit [Cipher κ] in
theorem Start.sendFault [Scalar α] (h : Start e net) : e.sendFault = none := by
  cases h with
  | server hu h =>
    unfold Endpoint.server at h
    split at h <;> cases h
    rfl
  | client hu h =>
    unfold Endpoint.client at h
    split at h <;> cases h
    rfl

/-- Nothing is told just if the latest call that left a word has sent its message. -/
theorem Run.told [Scalar α] (hs : Start e₀ net₀) (h : Run e₀ net₀ hist e net) :
    e.sendFault = none ↔ (hist.filterMap Event.told?).getLast? ≠ some false := by
  induction h with
  | nil => simp [hs.sendFault]
  | drift hr hd ih => exact ih
  | @call hist e e' net net' ev hr hstep ih =>
    obtain ⟨hword, hsilent⟩ := hstep.told (hr.maxFrame_le hs)
    rw [List.filterMap_append]
    cases htold : ev.told? with
    | none => simpa [htold, hsilent htold] using ih
    | some sent => simp [htold, hword sent htold]

/-! ## What is said of the latest message -/

theorem Tells.eq_none_iff {o : Call (Except Failure Sent)} {fault : Option SendFault}
    (h : Tells payload e net o fault) (ho : o ≠ .abandoned)
    (hn : ∀ e₁ net₁ f, Prepares e net e₁ net₁ → ¬ LocalFault payload e₁ net₁.now f) :
    fault = none ↔ o = .returned (.ok .sent) := by
  cases h with
  | sent => simp
  | @apart e₁ net₁ hprep hapart => cases e₁.link.phase <;> simp [unsent]
  | failed hp hf => cases e.link.role <;> simp [reportedUnsent]
  | refused hp hf => exact absurd hf (hn _ _ _ hp)
  | abandoned => exact absurd rfl ho

/-- In every run the text about the latest message is empty just if the latest call of `send`
that had something to say has sent its message. After a call of `send` that has returned it
is empty just if the message was sent, unless the message was refused before anything was
written; then, as after a call that was given up, the text is that from before. Receiving,
accepting a peer and reconnecting do not change it. -/
theorem sendError_tells [Scalar α] (hs : Start e₀ net₀) (h : Run e₀ net₀ hist e net) :
    (e.sendError = "" ↔ (hist.filterMap Event.told?).getLast? ≠ some false) ∧
      (∀ payload o e' net', e.send payload net = (o, e', net') →
        Tells payload e net o e'.sendFault ∧
          (o ≠ .abandoned → (∀ e₁ net₁ f, Prepares e net e₁ net₁ →
              ¬ LocalFault payload e₁ net₁.now f) →
            (e'.sendError = "" ↔ o = .returned (.ok .sent)))) ∧
      (∀ o e' net', e.receive net = (o, e', net') → e'.sendError = e.sendError) ∧
      ∀ o e₁ net₁, e.prepare net = (o, e₁, net₁) → e₁.sendError = e.sendError := by
  refine ⟨sendError_eq_empty_iff.trans (h.told hs), ?_, ?_, ?_⟩
  · intro payload o e' net' hsend
    have htells := send_tells (h.maxFrame_le hs) hsend
    exact ⟨htells, fun ho hn => sendError_eq_empty_iff.trans (htells.eq_none_iff ho hn)⟩
  · intro o e' net' hreceive
    rw [sendError, sendFault_receive hreceive, sendError]
  · intro o e₁ net₁ hprep
    rw [sendError, sendFault_prepare hprep, sendError]

/-- A client that has sent a message has nothing to tell, and one that has lost its stream
while sending has. -/
theorem sendError_tells_nearby : sentNearby.1.sendError = "" ∧ ∃ e net,
    waiting.send (packed [1]) (Link.connect Link.nearby Link.halting).2 =
        (.returned (.ok .dropped), e, net) ∧ e.sendError ≠ "" := by
  constructor
  · exact (sendError_tells (start_nearby _) run_nearby).1.mpr (by decide)
  · obtain ⟨hs, -⟩ := run_waiting
    have hp : waiting.link.phase = .connected 0 := by decide +kernel
    have ho : (waiting.send (packed [1]) (Link.connect Link.nearby Link.halting).2).1 =
        .returned (.ok .dropped) := by decide +kernel
    obtain ⟨frame, hpack⟩ : ∃ frame, (waiting.pack (packed [1])
        (Link.connect Link.nearby Link.halting).2.now).1 = .ok frame :=
      ⟨_, by with_unfolding_all rfl⟩
    obtain ⟨-, hempty⟩ := (sendError_tells hs .nil).2.1 (packed [1]) _ _ _ (Prod.ext ho rfl)
    refine ⟨_, _, Prod.ext ho rfl, fun htext => ?_⟩
    have hsent := (hempty (by simp) fun e₁ net₁ f hp₁ hlocal => ?_).mp htext
    · cases hsent
    · obtain ⟨rfl, rfl⟩ := Prepares.eq (.of_connected hp) hp₁
      rw [(pack_error_iff (by decide)).mpr hlocal] at hpack
      cases hpack

/-- A client next door that sends small frames only. -/
def narrow : ClientSettings := { Link.nearby with maxFrame := 12 }

def narrowed : Endpoint SampleCipher Rat :=
  ofLink (Link.joined narrow ⟨.v4 127 0 0 1, 9000⟩ 0) (.plain none none) 0

theorem start_narrowed : Start narrowed (Link.connect narrow relapsing).2 := by
  have h : Endpoint.client narrow (.plain none none) relapsing =
      (.returned (.ok narrowed), (Link.connect narrow relapsing).2) := rfl
  exact .client untouched_relapsing h

/-- A failure that is not told: the message is too large and the call says so, but the text
about the latest message is empty. -/
theorem sendError_omits_refusal : ∃ (e e' : Endpoint SampleCipher Rat) (net net' : Network),
    Start e net ∧ e.send (packed [1, 2, 3, 4, 5, 6, 7, 8]) net =
      (.returned (.error (.frame (.payloadTooLarge 13 12))), e', net') ∧ e'.sendError = "" := by
  have ho : (narrowed.send (packed [1, 2, 3, 4, 5, 6, 7, 8])
      (Link.connect narrow relapsing).2).1 =
        .returned (.error (.frame (.payloadTooLarge 13 12))) := by decide +kernel
  have htext : (narrowed.send (packed [1, 2, 3, 4, 5, 6, 7, 8])
      (Link.connect narrow relapsing).2).2.1.sendError = "" := by decide +kernel
  exact ⟨_, _, _, _, start_narrowed, Prod.ext ho rfl, htext⟩

end Endpoint
end Courier
