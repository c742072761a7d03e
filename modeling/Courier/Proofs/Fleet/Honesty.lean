import Courier.Proofs.Endpoint.Faults
import Courier.Proofs.Fleet.Run
import Courier.Proofs.Link.Orderly
import Courier.Proofs.Session.Arrival

/-!
# Honest ends do not accuse each other

In a fleet of ends that all follow the protocol no end is ever told that its peer has
violated it, whatever becomes of the streams: it finds on a stream the whole frames of
messages that were sealed for it and at most the beginning of one more, since a stream
that a write has failed on is not written to again and nothing that was read from a
stream outlives it.
-/

namespace Courier

variable {ι κ α : Type} [Cipher κ] {W : Wiring ι} {P : ι → κ → Prop}

/-- Ciphers that go with a wiring: what is sealed at one side of a stream is opened
at the other, at any time. -/
structure Wiring.Matched (W : Wiring ι) (P : ι → κ → Prop) : Prop where
  keeps : ∀ i, Cipher.Keeps (P i)
  opens : ∀ {i j : ι} {s t : Nat} {c d : κ} {plain body : ByteArray}, W.far i s = some (j, t) →
    P i c → P j d → (Cipher.encrypt c plain).1 = .ok body → (Cipher.decrypt d body).1 = .ok plain

theorem Wiring.Matched.pair {i j : ι} {s t : Nat} (hm : W.Matched P)
    (h : W.far i s = some (j, t)) :
    Cipher.Matched fun r => if r = W.role i then P i else P j where
  keeps r := by
    split
    · exact hm.keeps i
    · exact hm.keeps j
  opens := by
    intro r c d plain body hc hd henc
    by_cases hr : r = W.role i
    · rw [if_pos hr] at hc
      rw [if_neg (hr ▸ r.opposite_ne)] at hd
      exact hm.opens h hc hd henc
    · have hopp : r.opposite = W.role i := by
        cases r <;> cases hi : W.role i <;> first | rfl | exact absurd hi.symm hr
      rw [if_neg hr] at hc
      rw [if_pos hopp] at hd
      exact hm.opens (W.symm h) hc hd henc

namespace Endpoint

theorem Seals.not_refusal {Q : Role → κ → Prop} {r : Role} {payload body : ByteArray} {c : κ}
    {f : Failure} (hm : Cipher.Matched Q) (h : Seals (Q r.opposite) r.opposite payload body)
    (hc : Q r c) : ¬ Refusal c r body f := by
  obtain ⟨record, hdec, hback, hdir, -⟩ := h.decrypt hm hc
  intro hr
  cases hr with
  | opening hx =>
    rw [hdec] at hx
    cases hx
  | decoding hx hd =>
    rw [hdec] at hx
    cases hx
    rw [hback] at hd
    cases hd
  | reflected hx hd hne =>
    rw [hdec] at hx
    cases hx
    rw [hback] at hd
    cases hd
    exact hne hdir

end Endpoint

namespace Fleet

/-- The content of a frame that an end does not refuse. -/
def Welcome (W : Wiring ι) (P : ι → κ → Prop) (i : ι) (content : List UInt8) : Prop :=
  ∀ c f, P i c → ¬ Endpoint.Refusal c (W.role i) (packed content) f

variable [Scalar α] {S : Fleet ι κ α} {i : ι}

/-- What an end is offered is in order: no frame is larger than it admits, and it
refuses none. -/
theorem Sound.orderly (hm : W.Matched P) (h : Sound W P S)
    (hle : ∀ s j t, W.far i s = some (j, t) → W.maxFrame j ≤ W.maxFrame i) (s : Nat) :
    Frame.Orderly (W.maxFrame i) (Welcome W P i) (S.offered W i s) := by
  unfold offered
  cases hfar : W.far i s with
  | none => exact Frame.orderly_nil _ _
  | some there =>
    obtain ⟨j, t⟩ := there
    dsimp only
    cases hj : S.ends j with
    | none =>
      rw [written_of_none hj]
      exact Frame.orderly_nil _ _
    | some other =>
      obtain ⟨e, net⟩ := other
      rw [written_of_some hj]
      obtain ⟨e₀, net₀, hist, hstart, hfits, hrun⟩ := h.seen hj
      obtain ⟨tr, hstory⟩ := hrun.story (hm.keeps j) hstart hfits.cipher
      obtain ⟨bodies, part, hposted⟩ := hstory.posted hstart.link.new t
      rw [hfits.role, hfits.maxFrame] at hposted
      have hlimit := hposted.mono (hle s j t hfar)
      refine ⟨bodies.map octets, part, hlimit.stream_eq, hlimit.part, ?_⟩
      intro content hmem
      obtain ⟨body, hbody, rfl⟩ := List.mem_map.mp hmem
      refine ⟨(length_octets body).trans_le (hlimit.sizes body hbody), fun c f hc => ?_⟩
      obtain ⟨payload, hseals⟩ := hlimit.exists_seals hbody
      have hopposite : Endpoint.Seals (if (W.role i).opposite = W.role i then P i else P j)
          (W.role i).opposite payload body := by
        rw [if_neg (W.role i).opposite_ne, ← W.opposite hfar]
        exact hseals
      rw [packed_octets]
      refine Endpoint.Seals.not_refusal (hm.pair hfar) hopposite ?_
      rw [if_pos rfl]
      exact hc

theorem Sound.fault (hm : W.Matched P) (h : Sound W P S)
    (hle : ∀ s j t, W.far i s = some (j, t) → W.maxFrame j ≤ W.maxFrame i)
    {e e₁ : Endpoint κ α} {net net₁ : Network} {f : Failure} (hi : S.ends i = some (e, net))
    (ha : Endpoint.Attends e net e₁ net₁) (hf : Endpoint.StreamFault e₁ net₁ f) :
    f.isViolation = false := by
  obtain ⟨e₀, net₀, hist, hstart, hfits, hrun⟩ := h.seen hi
  obtain ⟨tr, hstory⟩ := hrun.story (hm.keeps i) hstart hfits.cipher
  obtain ⟨es, hcalls⟩ := ha.calls
  have hn := hstart.link.new
  have hlink := hstory.run.trans hcalls.run
  have hrole := (hlink.role hn.coherent).trans hfits.role
  have hmax := (hlink.maxFrame hn.coherent).trans hfits.maxFrame
  obtain ⟨s, hp⟩ := Link.isConnected_iff.mp ha.isConnected
  -- getting a stream puts nothing on it
  have hfront : octets (net₁.pipe s e₁.link.role.incoming).written <+: S.offered W i s := by
    have hdrift := hcalls.drift (hstory.run.coherent hn.coherent)
    rw [← ha.role, hrole] at hdrift
    have hsame := hdrift.written s
    rw [Role.outgoing_opposite] at hsame
    rw [hrole, hsame]
    exact h.carries hi s
  have hdeclared : W.maxFrame i ≤ Frame.maxDeclared := by
    rw [← hfits.maxFrame]
    exact hn.maxFrame_le_maxDeclared
  have hharm : ∀ o l net', e₁.link.readFrame net₁ = (o, l, net') →
      Link.Harmless (Welcome W P i) o := fun _ _ _ =>
    (hlink.receiving hn).harmless hp (h.orderly hm hle s) hdeclared hmax.ge hfront
  cases hf with
  | reading hread => exact (hharm _ _ _ hread).error f rfl
  | @refused frame _ _ hread hr =>
    have hwelcome := (hharm _ _ _ hread).frame frame rfl e₁.cipher f (ha.cipher ▸ hstory.cipher)
    rw [packed_octets, ← hrole] at hwelcome
    exact absurd hr hwelcome

/-- In every run of a fleet, however the calls of its ends follow each other, whatever
the world does to its streams and whichever ends are set up later, an end that
admits the frames of its peers gets no violation from any call of `receive`. -/
theorem Run.never_accuses [DecidableEq ι] {tr : List (ι × Endpoint.Event)} (hm : W.Matched P)
    (h : Run W P tr S) (i : ι)
    (hle : ∀ s j t, W.far i s = some (j, t) → W.maxFrame j ≤ W.maxFrame i) (stream : Option Nat)
    (f : Failure) (hf : (i, .receives stream (.returned (.error f))) ∈ tr) :
    f.isViolation = false := by
  induction h with
  | nil => cases hf
  | starts _ _ _ _ _ ih => exact ih hf
  | drift _ _ _ _ ih => exact ih hf
  | @call tr S j e e' net net' ev hr hj hstep ih =>
    rcases List.mem_append.mp hf with hbefore | hnow
    · exact ih hbefore
    · obtain ⟨rfl, rfl⟩ := Prod.mk.inj (List.mem_singleton.mp hnow)
      cases hstep with
      | receive hreceive =>
        obtain ⟨-, ⟨e₁, net₁, ha, hfault, -⟩ | ⟨-, -, x, rfl⟩ | ⟨-, rfl⟩⟩ :=
          Endpoint.receive_error hreceive
        · exact hr.sound.fault hm hle hj ha hfault
        · rfl
        · cases e.link.role <;> rfl

/-! ## A cut stream -/

open Simulation (SampleCipher)

/-- Two ends and one stream. -/
def couple : Wiring Role where
  role := id
  maxFrame _ := Frame.maxSize
  far r s := if s = 0 then some (r.opposite, 0) else none
  symm := by simp
  opposite := by simp

theorem couple_matched : couple.Matched fun _ c => c = SampleCipher.masked 7 where
  keeps _ := (Session.matched_masked 7).keeps .server
  opens _ hc hd henc := (Session.matched_masked 7).opens .server _ _ _ _ hc hd henc

/-- A server, and what it meets when no more than the beginning of the first frame of
its peer gets through. -/
def host : Endpoint SampleCipher Rat := .ofLink (Link.listening {} 9000) (.masked 7) 0

def cut : Network :=
  (Link.listen {} .obliging).2.setPipe 0 .toServer
    { written := packed ((octets (Endpoint.sentNearby.2.pipe 0 .toServer).written).take 3)
      arrivals := [⟨0, .upTo 3⟩, ⟨0, .ended⟩] }

theorem start_host : Endpoint.Start host (Link.listen {} .obliging).2 := by
  have h : Endpoint.server {} (SampleCipher.masked 7) .obliging =
      (.ok host, (Link.listen {} .obliging).2) := rfl
  exact .server (Network.untouched_obliging _) h

theorem carries_cut {S : Fleet Role SampleCipher Rat}
    (h : S.ends .client = some Endpoint.sentNearby) : S.Carries couple .server cut := by
  intro s
  change octets (cut.pipe s .toServer).written <+: _
  by_cases hs : s = 0
  · subst hs
    have hoffered : S.offered couple .server 0 =
        octets (Endpoint.sentNearby.2.pipe 0 .toServer).written := written_of_some (W := couple) h 0
    rw [hoffered, cut, Network.pipe_setPipe_self]
    simpa using List.take_prefix _ _
  · rw [cut, Network.pipe_setPipe_ne _ _ (by simp [hs])]
    exact List.nil_prefix

/-- The server gets to know that its peer is lost. -/
theorem never_accuses_cut : ∃ (tr : List (Role × Endpoint.Event))
    (S : Fleet Role SampleCipher Rat) (stream : Option Nat),
    Run couple (fun _ c => c = .masked 7) tr S ∧
      (.server, .receives stream (.returned (.error .connectionClosed))) ∈ tr ∧
        Failure.connectionClosed.isViolation = false := by
  have hserver : Run couple (fun _ c => c = SampleCipher.masked 7) []
      ((empty : Fleet Role SampleCipher Rat).put .server host (Link.listen {} .obliging).2) :=
    .starts .nil rfl start_host ⟨rfl, rfl, rfl⟩ fun _ => List.nil_prefix
  have hclient := hserver.starts (i := .client) rfl (Endpoint.start_nearby (.masked 7))
    ⟨rfl, rfl, rfl⟩ fun _ => List.nil_prefix
  have hsent := hclient.call (ends_put_self ..) Endpoint.step_nearby
  have hdrift : (Link.listen {} .obliging).2.Drift .server cut :=
    Network.drift_setPipe rfl List.nil_prefix
  have hcut := Run.drift (i := Role.server) hsent rfl hdrift (carries_cut (ends_put_self ..))
  have ho : (host.receive cut).1 = .returned (.error .connectionClosed) := by with_unfolding_all rfl
  have hreceived := hcut.call (ends_put_self ..) (.receive (Prod.ext ho rfl))
  refine ⟨_, _, _, hreceived, List.mem_append_right _ (List.mem_singleton_self _), ?_⟩
  exact hreceived.never_accuses couple_matched .server (fun _ _ _ _ => Nat.le_refl _) _ _
    (List.mem_append_right _ (List.mem_singleton_self _))

end Fleet
end Courier
