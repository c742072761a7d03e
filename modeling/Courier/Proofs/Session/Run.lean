import Courier.Proofs.Endpoint.Run

/-!
# Sessions

A server and a client on one network. In a run either end makes a call or the
world goes on; nothing is said about the order, and between the calls the world
may set the clock and decide anew what arrives, what is taken and what fails.
For each end such a run is a run of its own, in which the other end is part of
what happens between its calls.
-/

namespace Courier

namespace Network

variable {net after : Network}

/-- What the world does by itself: no byte is put on a stream or taken from it. -/
structure Idles (net after : Network) : Prop where
  written : ∀ s d, (after.pipe s d).written = (net.pipe s d).written
  taken : ∀ s d, (after.pipe s d).taken = (net.pipe s d).taken
  opened : net.opened ≤ after.opened

theorem Idles.drift (h : Idles net after) (r : Role) : Drift r net after where
  written s := h.written s _
  taken s := h.taken s _
  grows s := h.written s _ ▸ List.prefix_rfl
  opened := h.opened

end Network

structure Session (κ α : Type) where
  ends : Role → Endpoint κ α
  net : Network

namespace Session

variable {κ α : Type}

/-- The session after a call of one end. -/
def act (S : Session κ α) (r : Role) (e : Endpoint κ α) (net : Network) : Session κ α where
  ends q := if q = r then e else S.ends q
  net := net

@[simp] theorem ends_act_self (S : Session κ α) (r : Role) (e : Endpoint κ α) (net : Network) :
    (S.act r e net).ends r = e := if_pos rfl

theorem ends_act_other (S : Session κ α) {q r : Role} (h : r ≠ q) (e : Endpoint κ α)
    (net : Network) : (S.act q e net).ends r = S.ends r := if_neg h

@[simp] theorem net_act (S : Session κ α) (r : Role) (e : Endpoint κ α) (net : Network) :
    (S.act r e net).net = net := rfl

/-- The session of two ends. -/
def of (server client : Endpoint κ α) (net : Network) : Session κ α where
  ends r :=
    match r with
    | .server => server
    | .client => client
  net := net

variable [Cipher κ] [Scalar α] {S₀ S : Session κ α}

/-- A session that has just been set up: the server first, then the client. -/
inductive Start : Session κ α → Prop
  | intro {serving : ServerSettings} {connecting : ClientSettings} {c d : κ}
      {net net₁ net₂ net₃ : Network} {server client : Endpoint κ α}
      (hu : ∀ r, net.Untouched r)
      (hserver : Endpoint.server serving c net = (.ok server, net₁)) (hi : net₁.Idles net₂)
      (hclient : Endpoint.client connecting d net₂ = (.returned (.ok client), net₃)) :
      Start (of server client net₃)

inductive Run (S₀ : Session κ α) : List (Role × Endpoint.Event) → Session κ α → Prop
  | nil : Run S₀ [] S₀
  | call {tr : List (Role × Endpoint.Event)} {S : Session κ α} {r : Role} {ev : Endpoint.Event}
      {e : Endpoint κ α} {net : Network} (hr : Run S₀ tr S)
      (hs : Endpoint.Step (S.ends r) S.net ev e net) : Run S₀ (tr ++ [(r, ev)]) (S.act r e net)
  | idles {tr : List (Role × Endpoint.Event)} {S : Session κ α} {net : Network}
      (hr : Run S₀ tr S) (hi : S.net.Idles net) : Run S₀ tr { S with net }

/-- The calls of one end. -/
def callsOf (r : Role) (tr : List (Role × Endpoint.Event)) : List Endpoint.Event :=
  tr.filterMap fun (q, ev) => if q = r then some ev else none

/-- The messages that one end has sent on a stream, in order. -/
def sentBy (r : Role) (s : Nat) (tr : List (Role × Endpoint.Event)) : List ByteArray :=
  Endpoint.sentOn s (callsOf r tr)

/-- The messages that one end has received on a stream, in order. -/
def receivedBy (r : Role) (s : Nat) (tr : List (Role × Endpoint.Event)) : List ByteArray :=
  Endpoint.receivedOn s (callsOf r tr)

theorem callsOf_concat_self (r : Role) (tr : List (Role × Endpoint.Event)) (ev : Endpoint.Event) :
    callsOf r (tr ++ [(r, ev)]) = callsOf r tr ++ [ev] := by
  simp [callsOf]

theorem callsOf_concat_other {q r : Role} (h : q ≠ r) (tr : List (Role × Endpoint.Event))
    (ev : Endpoint.Event) : callsOf r (tr ++ [(q, ev)]) = callsOf r tr := by
  simp [callsOf, h]

/-- What a session is for one of its ends. -/
structure Seen (r : Role) (c : κ) (hist : List Endpoint.Event) (e : Endpoint κ α) (net : Network)
    (e₀ : Endpoint κ α) (net₀ : Network) : Prop where
  start : Endpoint.Start e₀ net₀
  role : e₀.link.role = r
  cipher : e₀.cipher = c
  run : Endpoint.Run e₀ net₀ hist e net

omit [Cipher κ] in
theorem role_of_server {serving : ServerSettings} {c : κ} {net net' : Network}
    {e : Endpoint κ α} (h : Endpoint.server serving c net = (.ok e, net')) :
    e.link.role = .server ∧ net.Calm net' ∧ e.cipher = c := by
  unfold Endpoint.server at h
  split at h <;> rename_i hl <;> cases h
  obtain ⟨hcalm, port, rfl, -⟩ := Link.of_listen hl
  exact ⟨rfl, hcalm, rfl⟩

omit [Cipher κ] in
theorem role_of_client {connecting : ClientSettings} {c : κ} {net net' : Network}
    {e : Endpoint κ α} (h : Endpoint.client connecting c net = (.returned (.ok e), net')) :
    e.link.role = .client ∧ net.Calm net' ∧ e.cipher = c := by
  unfold Endpoint.client at h
  split at h <;> rename_i hl <;> cases h
  obtain ⟨hcalm, remote, s, rfl, -, -⟩ := Link.of_connect hl
  exact ⟨rfl, hcalm, rfl⟩

theorem Start.seen (h : Start S₀) (r : Role) :
    ∃ e₀ net₀, Seen r (S₀.ends r).cipher [] (S₀.ends r) S₀.net e₀ net₀ := by
  cases h with
  | @intro serving connecting c d net net₁ net₂ net₃ server client hu hserver hi hclient =>
    obtain ⟨hrole, hcalm, hc⟩ := role_of_server hserver
    obtain ⟨hrole', hcalm', hd⟩ := role_of_client hclient
    cases r with
    | server =>
      refine ⟨server, net₁, .server (hu _) hserver, hrole, rfl, ?_⟩
      exact Endpoint.Run.nil.drift ((hi.drift _).trans (hcalm'.drift _))
    | client =>
      refine ⟨client, net₃, .client ?_ hclient, hrole', rfl, .nil⟩
      exact ((hu _).drift (hcalm.drift _)).drift (hi.drift _)

theorem Seen.coherent {r : Role} {c : κ} {hist : List Endpoint.Event} {e e₀ : Endpoint κ α}
    {net net₀ : Network} (h : Seen r c hist e net e₀ net₀) :
    e.link.Coherent net ∧ e.link.role = r := by
  obtain ⟨tr, hstory⟩ := h.run.story (P := fun _ => True) ⟨by simp, by simp⟩ h.start trivial
  have hcoh := h.start.link.new.coherent
  exact ⟨hstory.run.coherent hcoh, (hstory.run.role hcoh).trans h.role⟩

/-- A call of one end is, for the other, something that happens. -/
theorem drift_of_step {e e' : Endpoint κ α} {net net' : Network} {ev : Endpoint.Event}
    (hc : e.link.Coherent net) (h : Endpoint.Step e net ev e' net') :
    net.Drift e.link.role.opposite net' := by
  obtain ⟨es, hdoes⟩ := h.does (P := fun _ => True) ⟨by simp, by simp⟩ trivial
  exact hdoes.calls.drift hc

/-- A run of a session is a run of each of its ends. -/
theorem Run.seen {tr : List (Role × Endpoint.Event)} (hs : Start S₀) (h : Run S₀ tr S) (r : Role) :
    ∃ e₀ net₀, Seen r (S₀.ends r).cipher (callsOf r tr) (S.ends r) S.net e₀ net₀ := by
  induction h generalizing r with
  | nil => exact hs.seen r
  | @call tr S q ev e net hr hstep ih =>
    obtain ⟨e₀, net₀, hseen⟩ := ih r
    obtain ⟨hstart, hrole, hcipher, hrun⟩ := hseen
    by_cases hq : q = r
    · subst hq
      refine ⟨e₀, net₀, hstart, hrole, hcipher, ?_⟩
      rw [callsOf_concat_self, ends_act_self, net_act]
      exact hrun.call hstep
    · obtain ⟨f₀, _, hother⟩ := ih q
      obtain ⟨hcoh, hotherRole⟩ := hother.coherent
      have hdrift := drift_of_step hcoh hstep
      have hopp : q.opposite = r := by
        cases q <;> cases r <;> first | rfl | exact absurd rfl hq
      have hmine := (Seen.coherent ⟨hstart, hrole, hcipher, hrun⟩).2
      refine ⟨e₀, net₀, hstart, hrole, hcipher, ?_⟩
      rw [callsOf_concat_other hq, ends_act_other _ (Ne.symm hq), net_act]
      apply hrun.drift
      rw [hmine, ← hopp, ← hotherRole]
      exact hdrift
  | idles hr hi ih =>
    obtain ⟨e₀, net₀, hstart, hrole, hcipher, hrun⟩ := ih r
    exact ⟨e₀, net₀, hstart, hrole, hcipher, hrun.drift (hi.drift _)⟩

end Session
end Courier
