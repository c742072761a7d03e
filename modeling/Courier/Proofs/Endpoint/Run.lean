import Courier.Proofs.Endpoint.Calls
import Courier.Simulation.Cipher
import Mathlib.Data.List.Forall2

/-!
# Runs of an endpoint

A run of an endpoint is a run of its link. `Story` keeps the two together:
stream by stream the messages sent are the frames written, each sealed by this
end, and the messages received are the frames read, each opened by it, but for a
frame that the stream was given up for.
-/

namespace Courier.Endpoint

open Simulation (SampleCipher)

variable {κ α : Type} [Cipher κ] [Scalar α] {P : κ → Prop} {e₀ e e' : Endpoint κ α}
  {net₀ net net' : Network} {hist : List Event} {ev : Event} {tr : List Link.Event} {s : Nat}

/-- An endpoint that has just been set up. -/
inductive Start : Endpoint κ α → Network → Prop
  | server {settings : ServerSettings} {cipher : κ} {net net' : Network} {e : Endpoint κ α}
      (hu : Network.Untouched .server net)
      (h : Endpoint.server settings cipher net = (.ok e, net')) : Start e net'
  | client {settings : ClientSettings} {cipher : κ} {net net' : Network} {e : Endpoint κ α}
      (hu : Network.Untouched .client net)
      (h : Endpoint.client settings cipher net = (.returned (.ok e), net')) : Start e net'

inductive Run (e₀ : Endpoint κ α) (net₀ : Network) :
    List Event → Endpoint κ α → Network → Prop
  | nil : Run e₀ net₀ [] e₀ net₀
  | call {hist : List Event} {e e' : Endpoint κ α} {net net' : Network} {ev : Event}
      (hr : Run e₀ net₀ hist e net) (hs : Step e net ev e' net') :
      Run e₀ net₀ (hist ++ [ev]) e' net'
  | drift {hist : List Event} {e : Endpoint κ α} {net net' : Network}
      (hr : Run e₀ net₀ hist e net) (hd : net.Drift e.link.role net') : Run e₀ net₀ hist e net'

/-- The messages that were sent on a stream, in order. -/
def sentOn (s : Nat) (hist : List Event) : List ByteArray := hist.filterMap (·.sent? s)

/-- The messages that were received on a stream, in order. -/
def receivedOn (s : Nat) (hist : List Event) : List ByteArray := hist.filterMap (·.received? s)

theorem sentOn_concat : sentOn s (hist ++ [ev]) = sentOn s hist ++ (ev.sent? s).toList := by
  rw [sentOn, List.filterMap_append]
  cases h : ev.sent? s <;> simp [sentOn, h]

theorem receivedOn_concat :
    receivedOn s (hist ++ [ev]) = receivedOn s hist ++ (ev.received? s).toList := by
  rw [receivedOn, List.filterMap_append]
  cases h : ev.received? s <;> simp [receivedOn, h]

omit [Cipher κ] in
theorem Start.link (h : Start e net) : Link.Start e.link net := by
  cases h with
  | server hu h =>
    unfold Endpoint.server at h
    split at h <;> rename_i hl <;> cases h
    exact .listen hu hl
  | client hu h =>
    unfold Endpoint.client at h
    split at h <;> rename_i hl <;> cases h
    exact .connect hu hl

omit [Cipher κ] in
theorem start_nearby (c : κ) :
    Start (ofLink Link.nearbyLink c 0 : Endpoint κ α) (Link.connect Link.nearby .obliging).2 := by
  have h : Endpoint.client Link.nearby c .obliging =
      (.returned (.ok (ofLink Link.nearbyLink c 0 : Endpoint κ α)),
        (Link.connect Link.nearby .obliging).2) := rfl
  exact .client (Network.untouched_obliging _) h

/-- A client next door that has sent a message. -/
def sentNearby : Endpoint SampleCipher Rat × Network :=
  (send (ofLink Link.nearbyLink (.masked 7) 0) (packed [1, 2])
    (Link.connect Link.nearby .obliging).2).2

theorem step_nearby :
    Step (ofLink Link.nearbyLink (.masked 7) 0) (Link.connect Link.nearby .obliging).2
      (.sends (some 0) (packed [1, 2]) (.returned (.ok .sent))) sentNearby.1 sentNearby.2 := by
  have ho : (send (ofLink Link.nearbyLink (.masked 7) 0 : Endpoint SampleCipher Rat)
      (packed [1, 2]) (Link.connect Link.nearby .obliging).2).1 = .returned (.ok .sent) := by
    decide +kernel
  have hstream : sentNearby.1.link.stream? = some 0 := by decide +kernel
  rw [← hstream]
  exact .send (Prod.ext ho rfl)

theorem run_nearby :
    Run (ofLink Link.nearbyLink (.masked 7) 0) (Link.connect Link.nearby .obliging).2
      [.sends (some 0) (packed [1, 2]) (.returned (.ok .sent))] sentNearby.1 sentNearby.2 :=
  Run.nil.call step_nearby

/-- A run of an endpoint and the run of its link. -/
structure Story (P : κ → Prop) (e₀ : Endpoint κ α) (net₀ : Network) (hist : List Event)
    (tr : List Link.Event) (e : Endpoint κ α) (net : Network) : Prop where
  run : Link.Run e₀.link net₀ tr e.link net
  cipher : P e.cipher
  framed : ∀ s frame o, .writes (some s) frame o ∈ tr →
    ∃ body, Framed frame body ∧ body.size ≤ e₀.link.maxFrame
  sent : ∀ s, ∃ bodies, List.Forall₂ (Seals P e₀.link.role) (sentOn s hist) bodies ∧
    List.Forall₂ Framed (Link.wholeOn s tr) bodies
  received : ∀ s, ∃ good bad, Link.framesOn s tr = good ++ bad ∧
    List.Forall₂ (Opens P e₀.link.role) (receivedOn s hist) good ∧
      (bad = [] ∨ Link.Gone s e.link net)

namespace Story

omit [Scalar α] in
theorem nil (hp : P e₀.cipher) : Story P e₀ net₀ [] [] e₀ net₀ where
  run := .nil
  cipher := hp
  framed := by simp
  sent s := ⟨[], .nil, .nil⟩
  received s := ⟨[], [], rfl, .nil, .inl rfl⟩

omit [Scalar α] in
theorem drift (h : Story P e₀ net₀ hist tr e net) (hd : net.Drift e.link.role net') :
    Story P e₀ net₀ hist tr e net' where
  run := h.run.drift hd
  cipher := h.cipher
  framed := h.framed
  sent := h.sent
  received s := by
    obtain ⟨good, bad, heq, hgood, hbad⟩ := h.received s
    exact ⟨good, bad, heq, hgood, hbad.imp_right fun hg => hg.drift hd⟩

omit [Scalar α] in
theorem call {es : List Link.Event} (hn : Link.New e₀.link net₀)
    (h : Story P e₀ net₀ hist tr e net) (hd : Does P e net ev e' net' es) :
    Story P e₀ net₀ (hist ++ [ev]) (tr ++ es) e' net' := by
  have hcoh := h.run.coherent hn.coherent
  have hrole := h.run.role hn.coherent
  have hrun := h.run.trans hd.calls.run
  refine ⟨hrun, hd.cipher, ?_, ?_, ?_⟩
  · intro s frame o hmem
    rcases List.mem_append.mp hmem with hmem | hmem
    · exact h.framed s frame o hmem
    · rw [← h.run.maxFrame hn.coherent]
      exact hd.framed s frame o hmem
  · intro s
    obtain ⟨bodies, hsent, hwhole⟩ := h.sent s
    rw [sentOn_concat, Link.wholeOn_append]
    cases hd.sends s with
    | nothing hev hes =>
      rw [hev, hes]
      exact ⟨bodies, by simpa using hsent, by simpa using hwhole⟩
    | @message payload frame body hev hes hs hf =>
      rw [hev, hes]
      rw [hrole] at hs
      exact ⟨bodies ++ [body], List.rel_append hsent (.cons hs .nil),
        List.rel_append hwhole (.cons hf .nil)⟩
  · intro s
    obtain ⟨good, bad, heq, hgood, hbad⟩ := h.received s
    have hstill : Link.Gone s e.link net → Link.Gone s e'.link net' ∧ ∀ x ∈ es, x.on ≠ some s :=
      fun hg => hd.calls.run.gone hcoh hg
    rw [receivedOn_concat, Link.framesOn_append, heq]
    cases hd.receives s with
    | nothing hev hes =>
      rw [hev, hes]
      exact ⟨good, bad, by simp, by simpa using hgood, hbad.imp_right fun hg => (hstill hg).1⟩
    | @message payload frame hev hes ho =>
      rcases hbad with rfl | hg
      · rw [hev, hes]
        rw [hrole] at ho
        exact ⟨good ++ [frame], [], by simp, List.rel_append hgood (.cons ho .nil), .inl rfl⟩
      · rw [Link.framesOn_eq_nil (hstill hg).2] at hes
        cases hes
    | rejected hev hp =>
      rw [hev]
      refine ⟨good, bad ++ Link.framesOn s es, by simp, by simpa using hgood, ?_⟩
      by_cases hnone : bad ++ Link.framesOn s es = []
      · exact .inl hnone
      · refine .inr ⟨fun hf => hnone ?_, hp⟩
        have hoff := ((hrun.sending hn (s := s)).fresh hf).2
        have hall := Link.framesOn_eq_nil hoff
        rw [Link.framesOn_append, heq, List.append_assoc] at hall
        exact (List.append_eq_nil_iff.mp hall).2

end Story

/-- Every run of an endpoint is a run of its link. -/
theorem Run.story (hk : Cipher.Keeps P) (hs : Start e₀ net₀) (hp : P e₀.cipher)
    (h : Run e₀ net₀ hist e net) : ∃ tr, Story P e₀ net₀ hist tr e net := by
  induction h with
  | nil => exact ⟨[], .nil hp⟩
  | call _ hstep ih =>
    obtain ⟨tr, hstory⟩ := ih
    obtain ⟨es, hdoes⟩ := hstep.does hk hstory.cipher
    exact ⟨tr ++ es, hstory.call hs.link.new hdoes⟩
  | drift _ hd ih =>
    obtain ⟨tr, hstory⟩ := ih
    exact ⟨tr, hstory.drift hd⟩

omit [Scalar α] in
theorem keeps_true : Cipher.Keeps fun _ : κ => True := ⟨fun _ _ _ => trivial, fun _ _ _ => trivial⟩

theorem Run.coherent (hs : Start e₀ net₀) (h : Run e₀ net₀ hist e net) :
    Link.Coherent e.link net ∧ e.link.role = e₀.link.role ∧
      e.link.maxFrame = e₀.link.maxFrame := by
  obtain ⟨tr, hstory⟩ := h.story keeps_true hs trivial
  have hcoh := hs.link.new.coherent
  exact ⟨hstory.run.coherent hcoh, hstory.run.role hcoh, hstory.run.maxFrame hcoh⟩

theorem Run.maxFrame_le (hs : Start e₀ net₀) (h : Run e₀ net₀ hist e net) :
    e.link.maxFrame ≤ Frame.maxDeclared := by
  obtain ⟨-, -, hmax⟩ := h.coherent hs
  rw [hmax]
  exact hs.link.new.maxFrame_le_maxDeclared

/-- In every run the streams are aligned: of a link that is used by itself, and of
the link of an endpoint, whose frames are the messages that it has sent. -/
theorem streams_aligned :
    (∀ l₀ net₀ tr l net, Link.Start l₀ net₀ → Link.Run l₀ net₀ tr l net →
      Link.Aligned l₀ net₀ tr l net) ∧
    ∀ (e₀ : Endpoint κ α) net₀ hist e net, Start e₀ net₀ → Run e₀ net₀ hist e net →
      ∃ tr, Link.Run e₀.link net₀ tr e.link net ∧ Link.Aligned e₀.link net₀ tr e.link net ∧
        ∀ s, ∃ bodies,
          List.Forall₂ (Seals (fun _ : κ => True) e₀.link.role) (sentOn s hist) bodies ∧
          List.Forall₂ Framed (Link.wholeOn s tr) bodies := by
  constructor
  · intro l₀ net₀ tr l net hs h
    exact h.aligned hs.new
  · intro e₀ net₀ hist e net hs h
    obtain ⟨tr, hstory⟩ := h.story keeps_true hs trivial
    exact ⟨tr, hstory.run, hstory.run.aligned hs.link.new, hstory.sent⟩

/-- A link whose frame the system does not take, and an endpoint that sends. -/
theorem streams_aligned_nearby :
    (∃ l net, Link.Aligned Link.nearbyLink (Link.connect Link.nearby Link.halting).2
      [.writes (some 0) (packed [1]) (.returned (.error .writeTimeout))] l net) ∧
    ∃ (tr : List Link.Event) (frame : ByteArray) (e : Endpoint SampleCipher Rat) (net : Network),
      Link.Aligned Link.nearbyLink (Link.connect Link.nearby .obliging).2 tr e.link net ∧
        Link.wholeOn 0 tr = [frame] := by
  obtain ⟨hlink, hendpoint⟩ := @streams_aligned SampleCipher Rat _ _
  constructor
  · generalize hw : Link.nearbyLink.writeFrame (packed [1])
      (Link.connect Link.nearby Link.halting).2 = w
    obtain ⟨o, l, net⟩ := w
    have ho : o = .returned (.error .writeTimeout) := by
      rw [show o = _ from (congrArg Prod.fst hw).symm]
      decide +kernel
    rw [ho] at hw
    exact ⟨l, net, hlink _ _ _ _ _ Link.start_halting (Link.Run.nil.call (.writeFrame hw))⟩
  · obtain ⟨tr, -, haligned, hsent⟩ := hendpoint _ _ _ _ _ (start_nearby _) run_nearby
    obtain ⟨bodies, hsealed, hframed⟩ := hsent 0
    have hlen : (Link.wholeOn 0 tr).length = 1 := hframed.length_eq.trans hsealed.length_eq.symm
    obtain ⟨frame, hframe⟩ := List.length_eq_one_iff.mp hlen
    exact ⟨tr, frame, _, _, haligned, hframe⟩

end Courier.Endpoint
