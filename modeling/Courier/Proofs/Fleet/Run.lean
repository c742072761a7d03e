import Courier.Proofs.Session.Run
import Mathlib.Data.List.Infix
import Mathlib.Logic.Function.Basic

/-!
# Fleets

Any number of ends, each with the network as it meets it. A wiring says what role an
end has and which stream of another end each of its streams is; what comes to an end
on a stream is the front of what the other end has put there. The ends are set up one
by one and in any order: a server that takes the place of another is an end that is
set up later. In between any end makes a call, or the world goes on for one of them.
For each end such a run is a run of its own, and nothing comes to it from elsewhere.
-/

namespace Courier

/-- The ends, and the streams that join them. -/
structure Wiring (ι : Type) where
  role : ι → Role
  /-- The largest frame that an end sends or admits. -/
  maxFrame : ι → Nat
  /-- The end at the other side of a stream, and the number that the stream has there. -/
  far : ι → Nat → Option (ι × Nat)
  symm : ∀ {i j : ι} {s t : Nat}, far i s = some (j, t) → far j t = some (i, s)
  opposite : ∀ {i j : ι} {s t : Nat}, far i s = some (j, t) → role j = (role i).opposite

/-- An endpoint that has its place in a wiring, with a cipher that it may have. -/
structure Wiring.Fits {ι κ α : Type} (W : Wiring ι) (P : ι → κ → Prop) (i : ι)
    (e : Endpoint κ α) : Prop where
  role : e.link.role = W.role i
  maxFrame : e.link.maxFrame = W.maxFrame i
  cipher : P i e.cipher

/-- The ends that have been set up. -/
structure Fleet (ι κ α : Type) where
  ends : ι → Option (Endpoint κ α × Network)

namespace Fleet

variable {ι κ α : Type} {W : Wiring ι} {P : ι → κ → Prop} {S : Fleet ι κ α} {i j : ι}
  {e : Endpoint κ α} {net : Network}

/-- Nothing has been set up. -/
def empty : Fleet ι κ α := ⟨fun _ => none⟩

/-- What an end has put on a stream. -/
def written (S : Fleet ι κ α) (W : Wiring ι) (i : ι) (s : Nat) : List UInt8 :=
  match S.ends i with
  | none => []
  | some (_, net) => octets (net.pipe s (W.role i).outgoing).written

/-- What the other side has put on a stream of an end. -/
def offered (S : Fleet ι κ α) (W : Wiring ι) (i : ι) (s : Nat) : List UInt8 :=
  match W.far i s with
  | none => []
  | some (j, t) => S.written W j t

/-- Nothing comes to an end but what was put on its streams, from the first byte on. -/
def Carries (S : Fleet ι κ α) (W : Wiring ι) (i : ι) (net : Network) : Prop :=
  ∀ s, octets (net.pipe s (W.role i).incoming).written <+: S.offered W i s

theorem written_of_none (h : S.ends i = none) (s : Nat) : S.written W i s = [] := by
  rw [written, h]

theorem written_of_some (h : S.ends i = some (e, net)) (s : Nat) :
    S.written W i s = octets (net.pipe s (W.role i).outgoing).written := by
  rw [written, h]

section Put

variable [DecidableEq ι]

/-- The fleet after something has happened at one end. -/
def put (S : Fleet ι κ α) (i : ι) (e : Endpoint κ α) (net : Network) : Fleet ι κ α :=
  ⟨Function.update S.ends i (some (e, net))⟩

@[simp] theorem ends_put_self (S : Fleet ι κ α) (i : ι) (e : Endpoint κ α) (net : Network) :
    (S.put i e net).ends i = some (e, net) := Function.update_self ..

theorem ends_put_other (S : Fleet ι κ α) (h : j ≠ i) (e : Endpoint κ α) (net : Network) :
    (S.put i e net).ends j = S.ends j := Function.update_of_ne h ..

theorem offered_put (h : ∀ t, S.written W i t <+: octets (net.pipe t (W.role i).outgoing).written)
    (j : ι) (s : Nat) : S.offered W j s <+: (S.put i e net).offered W j s := by
  unfold offered
  cases W.far j s with
  | none => exact List.prefix_rfl
  | some there =>
    obtain ⟨k, t⟩ := there
    dsimp only
    by_cases hk : k = i
    · subst hk
      rw [written_of_some (S.ends_put_self k e net)]
      exact h t
    · rw [written, written, S.ends_put_other hk]

end Put

variable [Cipher κ] [Scalar α]

inductive Run [DecidableEq ι] (W : Wiring ι) (P : ι → κ → Prop) :
    List (ι × Endpoint.Event) → Fleet ι κ α → Prop
  | nil : Run W P [] empty
  | starts {tr : List (ι × Endpoint.Event)} {S : Fleet ι κ α} {i : ι} {e : Endpoint κ α}
      {net : Network} (hr : Run W P tr S) (hi : S.ends i = none) (hs : Endpoint.Start e net)
      (hf : W.Fits P i e) (hc : S.Carries W i net) : Run W P tr (S.put i e net)
  | call {tr : List (ι × Endpoint.Event)} {S : Fleet ι κ α} {i : ι} {e e' : Endpoint κ α}
      {net net' : Network} {ev : Endpoint.Event} (hr : Run W P tr S)
      (hi : S.ends i = some (e, net)) (hs : Endpoint.Step e net ev e' net') :
      Run W P (tr ++ [(i, ev)]) (S.put i e' net')
  | drift {tr : List (ι × Endpoint.Event)} {S : Fleet ι κ α} {i : ι} {e : Endpoint κ α}
      {net net' : Network} (hr : Run W P tr S) (hi : S.ends i = some (e, net))
      (hd : net.Drift (W.role i) net') (hc : S.Carries W i net') : Run W P tr (S.put i e net')

/-- What a fleet is for one of its ends. -/
structure Seen (W : Wiring ι) (P : ι → κ → Prop) (i : ι) (e : Endpoint κ α) (net : Network)
    (e₀ : Endpoint κ α) (net₀ : Network) (hist : List Endpoint.Event) : Prop where
  start : Endpoint.Start e₀ net₀
  fits : W.Fits P i e₀
  run : Endpoint.Run e₀ net₀ hist e net

/-- What holds at any time: each end is in a run of its own, and what has come to it
was put there by the other side. -/
structure Sound (W : Wiring ι) (P : ι → κ → Prop) (S : Fleet ι κ α) : Prop where
  seen : ∀ {i e net}, S.ends i = some (e, net) → ∃ e₀ net₀ hist, Seen W P i e net e₀ net₀ hist
  carries : ∀ {i e net}, S.ends i = some (e, net) → S.Carries W i net

theorem Seen.coherent {e₀ : Endpoint κ α} {net₀ : Network} {hist : List Endpoint.Event}
    (h : Seen W P i e net e₀ net₀ hist) : e.link.Coherent net ∧ e.link.role = W.role i := by
  obtain ⟨hc, hrole, -⟩ := h.run.coherent h.start
  exact ⟨hc, hrole.trans h.fits.role⟩

theorem Sound.empty : Sound W P (empty : Fleet ι κ α) := ⟨nofun, nofun⟩

variable [DecidableEq ι]

/-- Something happens at one end, which takes back no byte. -/
theorem Sound.put {e₀ : Endpoint κ α} {net₀ : Network} {hist : List Endpoint.Event}
    (h : Sound W P S) (hs : Seen W P i e net e₀ net₀ hist) (hc : S.Carries W i net)
    (hw : ∀ t, S.written W i t <+: octets (net.pipe t (W.role i).outgoing).written) :
    Sound W P (S.put i e net) where
  seen {j f after} hj := by
    by_cases hji : j = i
    · subst hji
      rw [ends_put_self] at hj
      cases hj
      exact ⟨_, _, _, hs⟩
    · rw [ends_put_other _ hji] at hj
      exact h.seen hj
  carries {j f after} hj s := by
    refine List.IsPrefix.trans ?_ (offered_put hw j s)
    by_cases hji : j = i
    · subst hji
      rw [ends_put_self] at hj
      cases hj
      exact hc s
    · rw [ends_put_other _ hji] at hj
      exact h.carries hj s

theorem Run.sound {tr : List (ι × Endpoint.Event)} (h : Run W P tr S) : Sound W P S := by
  induction h with
  | nil => exact .empty
  | starts _ hi hs hf hc ih =>
    refine ih.put ⟨hs, hf, .nil⟩ hc fun t => ?_
    rw [written_of_none hi]
    exact List.nil_prefix
  | @call tr S i e e' net net' ev _ hi hstep ih =>
    obtain ⟨e₀, net₀, hist, hseen⟩ := ih.seen hi
    obtain ⟨hcoh, hrole⟩ := hseen.coherent
    -- for the other side a call is something that happens
    have hdrift := Session.drift_of_step hcoh hstep
    rw [hrole] at hdrift
    refine ih.put ⟨hseen.start, hseen.fits, hseen.run.call hstep⟩ (fun s => ?_) fun t => ?_
    · have hsame := hdrift.written s
      rw [Role.outgoing_opposite] at hsame
      rw [hsame]
      exact ih.carries hi s
    · have hgrows := hdrift.grows t
      rw [Role.incoming_opposite] at hgrows
      rw [written_of_some hi]
      exact hgrows
  | @drift tr S i e net net' _ hi hd hc ih =>
    obtain ⟨e₀, net₀, hist, hseen⟩ := ih.seen hi
    have hmine := hd
    rw [← hseen.coherent.2] at hmine
    refine ih.put ⟨hseen.start, hseen.fits, hseen.run.drift hmine⟩ hc fun t => ?_
    rw [written_of_some hi, hd.written t]

end Fleet
end Courier
