import Courier.Proofs.Endpoint.Judging
import Courier.Proofs.Link.Deadlines
import Courier.Proofs.Link.Renewal

/-!
# Receiving in time

A call of `receive` waits once for a stream, if there is none, and once for a frame.
So `allowance` is all the time that it takes, whatever the peer does. If it comes back
with nothing and still has its stream, no frame was complete when the time to read was
over; a frame that was complete by then, on a stream on which no write has been given
up, is what the call deals with.
-/

namespace Courier

namespace Link

variable {l l' : Link} {net net' : Network}

theorem writing_tearDown (l : Link) (net : Network) : (l.tearDown net).1.writing = false := by
  unfold tearDown
  dsimp only
  split <;> rfl

theorem writing_accept (l : Link) (net : Network) : (l.accept net).2.1.writing = l.writing := by
  unfold accept
  split
  · split <;> (try split) <;> rfl
  · rfl

theorem writing_tryReconnect (l : Link) (net : Network) :
    (l.tryReconnect net).2.1.writing = l.writing := by
  unfold tryReconnect
  split
  · split
    · split <;> rfl
    · rfl
  · rfl

theorem writing_readFrame (l : Link) (net : Network) :
    (l.readFrame net).2.1.writing = l.writing := by
  unfold readFrame
  split
  · rfl
  · split <;> rfl

end Link

namespace Endpoint

variable {κ α : Type} [Cipher κ] [Scalar α] {e₀ e e' e₁ : Endpoint κ α}
  {net₀ net net' net₁ : Network} {hist : List Event} {o : Call (Except Failure Received)}

/-! ## What is made of what has been read -/

/-- What an end says that has read a frame, by what the frame was opened to. -/
def answer (r : Role) (opened : Except CipherError ByteArray) : Except Failure Received :=
  match verdict r opened with
  | .ok payload => .ok (.payload payload)
  | .error f => reported r f

/-- How a call goes over the stream that is there, by what reading from it came to. -/
inductive Handles (e : Endpoint κ α) (e' : Endpoint κ α) :
    Call (Except Failure (Option ByteArray)) → Call (Except Failure Received) → Prop
  | abandoned : Handles e e' .abandoned .abandoned
  | nothing : Handles e e' (.returned (.ok none)) (.returned (.ok .nothingYet))
  | frame {frame : ByteArray} (hkept : e'.link.isConnected = true → ∃ p,
      verdict e.link.role (Cipher.decrypt e.cipher frame).1 = .ok p) :
      Handles e e' (.returned (.ok (some frame)))
        (.returned (answer e.link.role (Cipher.decrypt e.cipher frame).1))
  | failed {f : Failure} (hlost : e'.link.isConnected = false) :
      Handles e e' (.returned (.error f)) (.returned (reported e.link.role f))

theorem receiveConnected_handles (h : e.receiveConnected net = (o, e', net')) :
    Handles e e' (e.link.readFrame net).1 o := by
  generalize hread : e.link.readFrame net = w
  obtain ⟨r, link, after⟩ := w
  cases r with
  | abandoned =>
    unfold receiveConnected receiveRecord at h
    rw [hread] at h
    cases h
    exact .abandoned
  | returned result =>
    rcases result with f | _ | frame
    · obtain ⟨e₂, net₂, hfault, hgiven⟩ := receiveConnected_of_fault (.reading hread)
      rw [h] at hfault
      cases hfault
      exact .failed hgiven.isConnected_eq_false
    · unfold receiveConnected receiveRecord at h
      rw [hread] at h
      cases h
      exact .nothing
    · have hanswer : o = .returned (answer e.link.role (Cipher.decrypt e.cipher frame).1) ∧
          (e'.link.isConnected = true → ∃ p,
            verdict e.link.role (Cipher.decrypt e.cipher frame).1 = .ok p) := by
        have hrecord := (receiveRecord_verdict hread).1
        unfold answer
        cases hv : verdict e.link.role (Cipher.decrypt e.cipher frame).1 with
        | error f =>
          rw [hv] at hrecord
          obtain ⟨e₂, net₂, hfault, hgiven⟩ :=
            receiveConnected_of_fault (receiveRecord_error_iff.mp hrecord)
          rw [h] at hfault
          cases hfault
          refine ⟨rfl, fun hkept => ?_⟩
          rw [hgiven.isConnected_eq_false] at hkept
          cases hkept
        | ok payload =>
          rw [hv] at hrecord
          refine ⟨?_, fun _ => ⟨payload, rfl⟩⟩
          unfold receiveConnected at h
          generalize e.receiveRecord net = w at h hrecord
          obtain ⟨r, e₁, after⟩ := w
          cases hrecord
          cases h
          rfl
      obtain ⟨rfl, hkept⟩ := hanswer
      exact .frame hkept

/-! ## The time that a call takes -/

/-- The most time that a call of `receive` takes. -/
def allowance (l : Link) (now : Nat) : Nat :=
  match l.phase with
  | .connected _ => l.ioTimeout
  | .listening => 2 * l.ioTimeout
  | .reconnecting outage => if outage.isDue now then l.connectTimeout + l.ioTimeout else 0
  | .disconnected => 0

theorem receiveConnected_within (h : e.receiveConnected net = (o, e', net')) :
    Network.Within (net.now + e.link.ioTimeout) net net' ∧
      (o = .abandoned → net.patience ≠ none) := by
  have hhandles := receiveConnected_handles h
  have hlink := link_receiveConnected h
  generalize hread : e.link.readFrame net = w at hhandles hlink
  obtain ⟨r, link, after⟩ := w
  obtain ⟨hwithin, habandoned⟩ := Link.readFrame_within hread
  constructor
  · rcases hlink with heq | heq <;> rw [(Prod.mk.inj heq).2]
    · exact hwithin
    · exact hwithin.trans (Link.tearDown_within _ _ _)
  · rintro rfl
    cases hhandles
    exact habandoned rfl

omit [Cipher κ] [Scalar α] in
theorem Attends.within (h : Attends e net e₁ net₁) :
    e₁.link.ioTimeout = e.link.ioTimeout ∧
      ∃ t, Network.Within (net.now + t) net net₁ ∧
        t + e.link.ioTimeout ≤ allowance e.link net.now := by
  unfold allowance
  cases h with
  | held hp =>
    rw [hp]
    exact ⟨rfl, 0, .refl _ _, Nat.le_of_eq (Nat.zero_add _)⟩
  | visited hp h =>
    have hequipment := Link.equipment_accept e.link net
    rw [h] at hequipment
    rw [hp]
    dsimp only
    exact ⟨(Prod.mk.inj hequipment).2, _, (Link.accept_within h).1, by omega⟩
  | rejoined hp h =>
    have hequipment := Link.equipment_tryReconnect e.link net
    rw [h] at hequipment
    obtain ⟨hwithin, -, hdue⟩ := Link.tryReconnect_within hp h
    rw [if_pos (hdue rfl)] at hwithin
    rw [hp]
    dsimp only
    rw [if_pos (hdue rfl)]
    exact ⟨(Prod.mk.inj hequipment).2, _, hwithin, Nat.le_refl _⟩

omit [Cipher κ] [Scalar α] in
theorem Misses.within {link : Link} (h : Misses e net o link net') :
    Network.Within (net.now + allowance e.link net.now) net net' ∧
      (o = .abandoned → net.patience ≠ none) := by
  unfold allowance
  cases h with
  | @unvisited r _ _ hp h ho =>
    obtain ⟨hwithin, habandoned⟩ := Link.accept_within h
    rw [hp]
    dsimp only
    refine ⟨hwithin.mono (by omega), fun hgiven => habandoned ?_⟩
    cases r with
    | abandoned => rfl
    | returned result => cases hgiven
  | @apart b r _ _ hp h ho =>
    obtain ⟨hwithin, habandoned, -⟩ := Link.tryReconnect_within hp h
    rw [hp]
    dsimp only
    refine ⟨hwithin.mono (by split <;> omega), fun hgiven => habandoned ?_⟩
    cases r with
    | abandoned => rfl
    | returned result => cases hgiven
  | closed hp => exact ⟨.refl _ _, nofun⟩

/-- However the peer behaves, a call of `receive` is over in time. -/
theorem receive_within (h : e.receive net = (o, e', net')) :
    Network.Within (net.now + allowance e.link net.now) net net' ∧
      (o = .abandoned → net.patience ≠ none) := by
  rcases receive_cases h with ⟨e₁, net₁, ha, hconn⟩ | ⟨link, hm, -⟩
  · obtain ⟨htime, t, hfirst, hle⟩ := ha.within
    obtain ⟨hrest, habandoned⟩ := receiveConnected_within hconn
    rw [htime] at hrest
    exact ⟨(hfirst.add hrest).mono hle, fun ho => hfirst.patience ▸ habandoned ho⟩
  · exact hm.within

/-! ## What has come in time -/

/-- The bytes that a call has which begins to read now: those that are held, and those
that arrive before it stops reading. -/
def inTime (e : Endpoint κ α) (net : Network) (s : Nat) : List UInt8 :=
  Link.bytesBefore s e.link.role.incoming (net.now + e.link.ioTimeout) e.link.accumulator net

theorem receiveConnected_nothing {s : Nat}
    (h : e.receiveConnected net = (.returned (.ok .nothingYet), e', net'))
    (hp : e'.link.phase = .connected s) : e.link.phase = .connected s ∧
      Frame.split e.link.maxFrame (e.inTime net s) = ⟨[], .rest (e.inTime net s)⟩ := by
  have hkept : e'.link.isConnected = true := Link.isConnected_iff.mpr ⟨s, hp⟩
  have hhandles := receiveConnected_handles h
  have hphase : e.link.phase = .connected s := by
    rcases link_receiveConnected h with heq | heq
    · rw [← hp, (Prod.mk.inj heq).1, Link.phase_readFrame]
    · have hlost := (Link.givenUp_tearDown (e.link.readFrame net).2.1
        (e.link.readFrame net).2.2).isConnected_eq_false
      rw [← heq, hkept] at hlost
      cases hlost
  refine ⟨hphase, ?_⟩
  generalize hread : e.link.readFrame net = w at hhandles
  obtain ⟨r, link, after⟩ := w
  generalize ho : Except.ok Received.nothingYet = answered at hhandles
  cases hhandles with
  | nothing =>
    have hw : e.link.writing = false := by
      by_cases hw : e.link.writing = true
      · rw [Link.readFrame, if_pos hw] at hread
        cases hread
      · simpa using hw
    obtain ⟨a, hgather, -⟩ := Link.readFrame_connected hphase hw hread
    exact Link.gather_of_idle hgather .late (by simp)
  | frame hsound =>
    obtain ⟨p, hverdict⟩ := hsound hkept
    simp [answer, hverdict] at ho
  | failed hlost =>
    rw [hkept] at hlost
    cases hlost

theorem receiveConnected_complete {s : Nat} {content : List UInt8} {more : List (List UInt8)}
    (h : e.receiveConnected net = (o, e', net')) (hp : e.link.phase = .connected s)
    (hw : e.link.writing = false) (ho : o ≠ .abandoned)
    (hf : (Frame.split e.link.maxFrame (e.inTime net s)).frames = content :: more) :
    (e.link.readFrame net).1 = .returned (.ok (some (packed content))) ∧
      o = .returned (answer e.link.role (Cipher.decrypt e.cipher (packed content)).1) := by
  have hhandles := receiveConnected_handles h
  generalize hread : e.link.readFrame net = w at hhandles
  obtain ⟨r, link, after⟩ := w
  obtain ⟨a, hgather, -⟩ := Link.readFrame_connected hp hw hread
  have hreturned : r ≠ .abandoned := by
    rintro rfl
    cases hhandles
    exact ho rfl
  cases Link.gather_of_complete hgather hreturned hf
  cases hhandles
  exact ⟨rfl, rfl⟩

/-! ## Writes that were given up -/

omit [Scalar α] in
theorem marked_of_sendConnected {payload : ByteArray} {r : Call (Except Failure Sent)}
    (h : e.sendConnected payload net = (r, e', net')) (hw : e'.link.writing = true) :
    r = .abandoned ∨ e.link.writing = true ∧ e'.link.phase = e.link.phase := by
  have hlink := link_pack e payload net.now
  cases sendConnected_delivers h with
  | refused hp =>
    rw [hp] at hlink
    exact .inr ⟨hlink ▸ hw, congrArg Link.phase hlink⟩
  | abandoned => exact .inl rfl
  | sent hp hwrite =>
    rw [hp] at hlink
    obtain ⟨rfl, -⟩ := Link.writeFrame_ok hwrite
    exact .inr ⟨hlink ▸ hw, congrArg Link.phase hlink⟩
  | lost hp hwrite => exact absurd hw (by simp [Link.writing_tearDown])

omit [Cipher κ] [Scalar α] in
theorem writing_prepare (e : Endpoint κ α) (net : Network) :
    (e.prepare net).2.1.link.writing = e.link.writing := by
  unfold prepare
  split
  · rfl
  · exact Link.writing_tryReconnect _ _

omit [Scalar α] in
theorem marked_of_send {payload : ByteArray} {r : Call (Except Failure Sent)}
    (hc : Link.Coherent e.link net) (hc' : Link.Coherent e'.link net')
    (h : e.send payload net = (r, e', net')) (hw : e'.link.writing = true) :
    r = .abandoned ∨ e.link.writing = true ∧ e'.link.phase = e.link.phase := by
  obtain ⟨s, hphase⟩ := hc'.writing hw
  rcases send_cases h with ⟨e₁, net₁, hp, hconn⟩ | ⟨-, ho⟩ | ⟨e₁, -, hapart, hlink, -⟩
  · refine (marked_of_sendConnected hconn hw).imp_right fun ⟨hmarked, hsame⟩ => ?_
    by_cases hr : ∃ b, e.link.phase = .reconnecting b
    · obtain ⟨b, hb⟩ := hr
      have hbefore := writing_prepare e net
      rw [hp.prepare] at hbefore
      obtain ⟨t, ht⟩ := hc.writing (hbefore.symm.trans hmarked)
      rw [hb] at ht
      cases ht
    · have hprep : e.prepare net = (.returned (), e, net) :=
        prepare_of_not_reconnecting fun b hb => hr ⟨b, hb⟩
      rw [hp.prepare] at hprep
      cases hprep
      exact ⟨hmarked, hsame⟩
  · exact .inl ho
  · rw [hlink] at hphase
    rw [Link.isConnected_iff.mpr ⟨s, hphase⟩] at hapart
    cases hapart

omit [Cipher κ] [Scalar α] in
theorem Attends.eq_of_marked (ha : Attends e net e₁ net₁) (hc : Link.Coherent e.link net)
    (hw : e₁.link.writing = true) : e₁ = e := by
  cases ha with
  | held => rfl
  | visited hp h =>
    have hsame := Link.writing_accept e.link net
    rw [h] at hsame
    obtain ⟨t, ht⟩ := hc.writing (hsame.symm.trans hw)
    rw [hp] at ht
    cases ht
  | rejoined hp h =>
    have hsame := Link.writing_tryReconnect e.link net
    rw [h] at hsame
    obtain ⟨t, ht⟩ := hc.writing (hsame.symm.trans hw)
    rw [hp] at ht
    cases ht

theorem marked_of_receive (hc : Link.Coherent e.link net) (hc' : Link.Coherent e'.link net')
    (h : e.receive net = (o, e', net')) (hw : e'.link.writing = true) :
    e.link.writing = true ∧ e'.link.phase = e.link.phase := by
  rcases receive_cases h with ⟨e₁, net₁, ha, hconn⟩ | ⟨link, hm, rfl⟩
  · rcases link_receiveConnected hconn with heq | heq
    · rw [(Prod.mk.inj heq).1, Link.phase_readFrame]
      rw [(Prod.mk.inj heq).1, Link.writing_readFrame] at hw
      cases ha.eq_of_marked hc hw
      exact ⟨hw, rfl⟩
    · have hlink : e'.link = ((e₁.link.readFrame net₁).2.1.tearDown
          (e₁.link.readFrame net₁).2.2).1 := congrArg Prod.fst heq
      rw [hlink, Link.writing_tearDown] at hw
      cases hw
  · have hapart := hm.spec.1
    rw [Link.isConnected_iff.mpr (hc'.writing hw)] at hapart
    cases hapart

/-- Only a message that was given up while it was written leaves its mark, on the stream
that it was written to. -/
theorem Run.marks (hs : Start e₀ net₀) (h : Run e₀ net₀ hist e net)
    (hw : e.link.writing = true) : ∃ s p, e.link.phase = .connected s ∧
      .sends (some s) p .abandoned ∈ hist := by
  induction h with
  | nil =>
    rw [hs.link.new.writing] at hw
    cases hw
  | drift hr hd ih => exact ih hw
  | @call hist e e' net net' ev hr hstep ih =>
    have hcoh := (hr.coherent hs).1
    have hcoh' := ((hr.call hstep).coherent hs).1
    obtain ⟨s, hphase⟩ := hcoh'.writing hw
    -- if the mark was there before, nothing has happened to the stream
    have hstill : e.link.writing = true → e'.link.phase = e.link.phase →
        ∃ s p, e'.link.phase = .connected s ∧ .sends (some s) p .abandoned ∈ hist ++ [ev] := by
      intro hbefore hsame
      obtain ⟨t, p, ht, hmem⟩ := ih hbefore
      exact ⟨t, p, hsame.trans ht, List.mem_append_left _ hmem⟩
    cases hstep with
    | @send payload _ _ _ h =>
      rcases marked_of_send hcoh hcoh' h hw with rfl | ⟨hbefore, hsame⟩
      · refine ⟨s, payload, hphase, List.mem_append_right _ ?_⟩
        rw [Link.stream?_eq_some.mpr hphase]
        exact List.mem_singleton_self _
      · exact hstill hbefore hsame
    | receive h =>
      obtain ⟨hbefore, hsame⟩ := marked_of_receive hcoh hcoh' h hw
      exact hstill hbefore hsame
    | close h =>
      cases h
      cases hw
    | setIoTimeout t => exact hstill hw rfl
    | setLastRoundTrip ms => exact hstill hw rfl

/-! ## Calls of `receive` -/

/-- How a call of `receive` goes with the clock. -/
structure Timely (hist : List Event) (e : Endpoint κ α) (net : Network)
    (o : Call (Except Failure Received)) (e' : Endpoint κ α) (net' : Network) : Prop where
  forward : net.now ≤ net'.now
  allowed : net'.now ≤ net.now + allowance e.link net.now
  /-- Nobody but the caller gives a call up. -/
  returns : net.patience = none → o ≠ .abandoned
  nothing : ∀ s, o = .returned (.ok .nothingYet) → e'.link.phase = .connected s →
    ∃ e₁ net₁, Attends e net e₁ net₁ ∧ e₁.link.phase = .connected s ∧
      Frame.split e₁.link.maxFrame (e₁.inTime net₁ s) = ⟨[], .rest (e₁.inTime net₁ s)⟩
  /-- A frame that is there in time is read by the call and answered. -/
  answered : ∀ e₁ net₁ s content more, Attends e net e₁ net₁ → e₁.link.phase = .connected s →
    (∀ p, .sends (some s) p .abandoned ∉ hist) → o ≠ .abandoned →
    (Frame.split e₁.link.maxFrame (e₁.inTime net₁ s)).frames = content :: more →
    (e₁.link.readFrame net₁).1 = .returned (.ok (some (packed content))) ∧
      o = .returned (answer e.link.role (Cipher.decrypt e.cipher (packed content)).1)

/-- In every run and whatever the peer does, a call of `receive` is over when its waits
are: one for a peer or for a connection, if there is no stream, and one for a frame. The
time of a wait is within its bounds whatever was asked for. A call that returns with
nothing and keeps the stream has had no whole frame in the time it had for reading, and
a frame that was whole by then is the one that the call answers, unless a write to the
stream has been given up. -/
theorem receive_timely (hs : Start e₀ net₀) (h : Run e₀ net₀ hist e net) :
    (millis 100 ≤ e.link.ioTimeout ∧ e.link.ioTimeout ≤ millis 1000) ∧
      ∀ o e' net', e.receive net = (o, e', net') → Timely hist e net o e' net' := by
  constructor
  · obtain ⟨tr, hstory⟩ := h.story keeps_true hs trivial
    have hequipped := hstory.run.equipped hs.link.new.coherent hs.link.equipped
    rw [← hequipped.ioTimeout]
    exact clampIoTimeout_mem _
  · intro o e' net' hreceive
    obtain ⟨hwithin, habandoned⟩ := receive_within hreceive
    refine ⟨hwithin.now_le, ?_, fun hp ho => habandoned ho hp, ?_, ?_⟩
    · have := hwithin.le_deadline
      omega
    · rintro s rfl hp
      rcases receive_cases hreceive with ⟨e₁, net₁, ha, hconn⟩ | ⟨link, hm, rfl⟩
      · obtain ⟨hphase, hsplit⟩ := receiveConnected_nothing hconn hp
        exact ⟨e₁, net₁, ha, hphase, hsplit⟩
      · have hapart := hm.spec.1
        rw [Link.isConnected_iff.mpr ⟨s, hp⟩] at hapart
        cases hapart
    · intro e₁ net₁ s content more ha hp hclean ho hf
      rw [ha.receive_eq] at hreceive
      have hw : e₁.link.writing = false := by
        rw [← Bool.not_eq_true]
        intro hmarked
        cases ha.eq_of_marked (h.coherent hs).1 hmarked
        obtain ⟨t, p, ht, hmem⟩ := h.marks hs hmarked
        rw [hp] at ht
        cases ht
        exact hclean p hmem
      rw [← ha.role, ← ha.cipher]
      exact receiveConnected_complete hreceive hp hw ho hf

/-- The first call waits in vain for the second half of a frame, the second call has it in
time. -/
theorem receive_timely_waiting :
    Timely [] waiting (Link.connect Link.nearby Link.halting).2
        (.returned (.ok .nothingYet)) waited.1 waited.2 ∧
      ∃ e net, waited.1.receive waited.2 = (.returned (.error (.record (.tooShort 5 0))), e, net) ∧
        waited.2.now = millis 500 ∧ net.now ≤ millis 1000 := by
  obtain ⟨hs, hr⟩ := run_waiting
  constructor
  · have ho : (waiting.receive (Link.connect Link.nearby Link.halting).2).1 =
        .returned (.ok .nothingYet) := by with_unfolding_all rfl
    exact (receive_timely hs .nil).2 _ _ _ (Prod.ext ho rfl)
  · have hp : waited.1.link.phase = .connected 0 := by decide +kernel
    have hnow : waited.2.now = millis 500 := by decide +kernel
    have hwait : allowance waited.1.link waited.2.now = millis 500 := by decide +kernel
    have hframes : (Frame.split waited.1.link.maxFrame (waited.1.inTime waited.2 0)).frames =
        [[7]] := by decide +kernel
    generalize hw : waited.1.receive waited.2 = w
    obtain ⟨o, e, net⟩ := w
    have ht := (receive_timely hs hr).2 o e net hw
    have hpatient : waited.2.patience = none := by decide +kernel
    have hreturned := ht.returns hpatient
    obtain ⟨-, rfl⟩ := ht.answered _ _ 0 [7] [] (.held hp) hp (by simp) hreturned hframes
    have hanswer : answer waited.1.link.role (Cipher.decrypt waited.1.cipher (packed [7])).1 =
        .error (.record (.tooShort 5 0)) := by with_unfolding_all rfl
    have hallowed := ht.allowed
    rw [hwait, hnow] at hallowed
    exact ⟨e, net, by rw [hanswer], hnow, hallowed⟩

end Endpoint
end Courier
