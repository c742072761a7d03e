import Courier.Proofs.Backoff
import Courier.Proofs.Link.Course

/-!
# A link in an outage

An attempt to reconnect is made in a call that comes when it is due, and no other
call asks the system for anything. `Attempt` lists the ways in which such a call
can go. An `Outage` is a run of calls none of which opens a stream, with the
instants at which their attempts failed; by the rule of `Backoff.course` these
instants and the loss decide when the next one is due.
-/

namespace Courier

namespace Network

variable {net after last : Network} {new : List (Timed Act)}

/-- What has been asked of the system in between, latest first. -/
def since (net after : Network) : List (Timed Act) :=
  after.log.take (after.log.length - net.log.length)

/-- The instant at which an attempt to connect was begun. -/
def dialled? (x : Timed Act) : Option Nat :=
  match x.what with
  | .dials _ => some x.due
  | _ => none

/-- When attempts to connect were begun in between, latest first. -/
def dialled (net after : Network) : List Nat := (net.since after).filterMap dialled?

/-- A stream has been opened in between. -/
def Opens (net after : Network) : Prop := ∃ x ∈ net.since after, ∃ s, x.what = .opens s

theorem since_eq (h : after.log = new ++ net.log) : net.since after = new := by
  simp [since, h]

theorem dialled_self (net : Network) : net.dialled net = [] := by
  simp [dialled, since]

theorem not_opens_self (net : Network) : ¬ net.Opens net := by
  simp [Opens, since]

theorem since_of_releases (hlog : after.log = new ++ net.log)
    (h : after.Asks (fun act => ∃ s, act = .releases s) last) :
    net.dialled last = net.dialled after ∧ (net.Opens last ↔ net.Opens after) := by
  obtain ⟨newer, hlast, hrel⟩ := h
  have hnone : newer.filterMap dialled? = [] := by
    rw [List.filterMap_eq_nil_iff]
    intro x hx
    obtain ⟨s, hs⟩ := hrel x hx
    simp [dialled?, hs]
  have hopens : ¬ ∃ x ∈ newer, ∃ s, x.what = .opens s := by
    rintro ⟨x, hx, s, hs⟩
    obtain ⟨t, ht⟩ := hrel x hx
    rw [hs] at ht
    cases ht
  have hall : net.since last = newer ++ new :=
    since_eq (by rw [hlast, hlog, List.append_assoc])
  unfold dialled Opens
  rw [hall, since_eq hlog]
  constructor
  · rw [List.filterMap_append, hnone, List.nil_append]
  · simp only [List.mem_append, or_and_right, exists_or, hopens, false_or]

end Network

namespace Link

variable {l l' l₁ : Link} {net net' net₁ : Network} {lost : Nat} {fs : List Nat} {b : Backoff}

/-! ## One attempt -/

theorem log_openStream {target : Address} {timeout : Nat} {o : Call (Except Failure Nat)}
    (h : openStream target timeout net = (o, net')) :
    (∃ s, o = .returned (.ok s) ∧
        net'.log = [⟨net'.now, .opens s⟩, ⟨net.now, .dials target⟩] ++ net.log) ∨
      (∀ s, o ≠ .returned (.ok s)) ∧ net'.log = [⟨net.now, .dials target⟩] ++ net.log := by
  unfold openStream Network.dial at h
  dsimp only at h
  generalize hawait : Network.await _ _ _ = w at h
  obtain ⟨w, after⟩ := w
  have hlog := Network.log_await hawait
  rcases w with (_ | _) | _ | _ <;> cases h
  · exact .inl ⟨_, rfl, by simp only [Network.note, hlog, List.cons_append, List.nil_append]⟩
  · exact .inr ⟨nofun, hlog⟩
  · exact .inr ⟨nofun, hlog⟩
  · exact .inr ⟨nofun, hlog⟩

theorem dialled_openStream {target : Address} {timeout : Nat} {o : Call (Except Failure Nat)}
    (h : openStream target timeout net = (o, net')) : net.dialled net' = [net.now] ∧
      (net.Opens net' ↔ ∃ s, o = .returned (.ok s)) := by
  unfold Network.dialled Network.Opens
  rcases log_openStream h with ⟨s, rfl, hlog⟩ | ⟨hne, hlog⟩ <;> rw [Network.since_eq hlog]
  · exact ⟨rfl, by simp⟩
  · exact ⟨rfl, by simp [hne]⟩

/-- How an attempt to reconnect goes. -/
inductive Attempt (l : Link) (net : Network) : Call Bool → Link → Network → Prop
  | needless (h : ∀ b, l.phase ≠ .reconnecting b) : Attempt l net (.returned l.isConnected) l net
  | early {b : Backoff} (hp : l.phase = .reconnecting b) (hd : net.now < b.next) :
      Attempt l net (.returned false) l net
  | fails {b : Backoff} {remote : Address} {f : Failure} {net' : Network}
      (hp : l.phase = .reconnecting b) (hd : b.next ≤ net.now)
      (ho : openStream remote l.connectTimeout net = (.returned (.error f), net')) :
      Attempt l net (.returned false) { l with phase := .reconnecting (b.fail net'.now) } net'
  | succeeds {b : Backoff} {remote : Address} {s : Nat} {net' : Network}
      (hp : l.phase = .reconnecting b) (hd : b.next ≤ net.now)
      (ho : openStream remote l.connectTimeout net = (.returned (.ok s), net')) :
      Attempt l net (.returned true)
        { l with phase := .connected s, accumulator := l.accumulator.clear } net'
  | abandoned {b : Backoff} {remote : Address} {net' : Network}
      (hp : l.phase = .reconnecting b) (hd : b.next ≤ net.now)
      (ho : openStream remote l.connectTimeout net = (.abandoned, net')) :
      Attempt l net .abandoned l net'

theorem attempt_of_tryReconnect {o : Call Bool} (hm : l.remote.isSome = true)
    (h : l.tryReconnect net = (o, l', net')) : Attempt l net o l' net' := by
  unfold tryReconnect at h
  split at h
  · rename_i b remote hp _
    by_cases hd : b.isDue net.now = true
    · have hle : b.next ≤ net.now := of_decide_eq_true hd
      rw [if_pos hd] at h
      split at h <;> rename_i ho <;> cases h
      · exact .succeeds hp hle ho
      · exact .fails hp hle ho
      · exact .abandoned hp hle ho
    · have hlt : net.now < b.next := Nat.lt_of_not_le fun hle => hd (decide_eq_true hle)
      rw [if_neg hd] at h
      cases h
      exact .early hp hlt
  · rename_i hnot
    cases h
    refine .needless fun b hp => ?_
    obtain ⟨remote, hremote⟩ := Option.isSome_iff_exists.mp hm
    exact hnot b remote hp hremote

theorem tryReconnect_early (hp : l.phase = .reconnecting b) (hd : net.now < b.next) :
    l.tryReconnect net = (.returned false, l, net) := by
  have hnot : ¬ b.isDue net.now = true := fun h => absurd (of_decide_eq_true h) (Nat.not_le.mpr hd)
  unfold tryReconnect
  split
  · rename_i b' _ hp' _
    cases hp.symm.trans hp'
    rw [if_neg hnot]
  · simp [isConnected, hp]

namespace Attempt

variable {o : Call Bool}

theorem isConnected (h : Attempt l net (.returned true) l' net') : l'.isConnected = true := by
  generalize ho : Call.returned true = o at h
  cases h with
  | needless => exact (Call.returned.inj ho).symm
  | early => cases ho
  | fails => cases ho
  | succeeds => rfl
  | abandoned => cases ho

theorem log (h : Attempt l net o l' net') : ∃ new, net'.log = new ++ net.log := by
  cases h with
  | needless => exact ⟨[], rfl⟩
  | early => exact ⟨[], rfl⟩
  | fails _ _ ho | succeeds _ _ ho | abandoned _ _ ho =>
    rcases log_openStream ho with ⟨_, -, hlog⟩ | ⟨-, hlog⟩ <;> exact ⟨_, hlog⟩

theorem of_opens (h : Attempt l net o l' net') (hopens : net.Opens net') :
    o = .returned true := by
  cases h with
  | needless => exact absurd hopens (Network.not_opens_self _)
  | early => exact absurd hopens (Network.not_opens_self _)
  | fails _ _ ho =>
    obtain ⟨s, hs⟩ := (dialled_openStream ho).2.mp hopens
    cases hs
  | succeeds => rfl
  | abandoned _ _ ho =>
    obtain ⟨s, hs⟩ := (dialled_openStream ho).2.mp hopens
    cases hs

end Attempt

/-! ## A call in an outage -/

/-- A client without its stream, so far into an outage. -/
structure Apart (lost : Nat) (fs : List Nat) (l : Link) : Prop where
  role : l.role = .client
  remote : l.remote.isSome = true
  phase : l.phase = .reconnecting (.course lost fs)

theorem Apart.isConnected (h : Apart lost fs l) : l.isConnected = false := by
  simp [Link.isConnected, h.phase]

theorem Apart.attempts (h : Apart lost fs l) : l.attempts = some (min fs.length 4294967295) := by
  unfold Link.attempts
  rw [h.phase]
  exact congrArg some (Backoff.failures_course lost fs)

/-- How a call goes in an outage: before the next attempt is due nothing is done, and
from then on one attempt is made at once. If that fails the call ends with it. -/
structure Disciplined (lost : Nat) (fs : List Nat) (net net' : Network) (idle : Prop) : Prop where
  once : (net.dialled net').length ≤ 1
  early : net.now < Backoff.deadline lost fs → net' = net ∧ idle
  due : Backoff.deadline lost fs ≤ net.now → net.dialled net' = [net.now]
  fails : Backoff.deadline lost fs ≤ net.now → ¬ net.Opens net' →
    ∃ target timeout o, openStream target timeout net = (o, net')

/-- In an outage a call begins with an attempt to reconnect. -/
inductive Tries (l : Link) (net : Network) : Call Bool → Link → Network → Prop
  | apart {o : Call Bool} {l' : Link} {net' : Network} (h : Attempt l net o l' net')
      (ho : o ≠ .returned true) : Tries l net o l' net'
  /-- There is a stream, which may be lost in the same call. -/
  | served {l₁ l' : Link} {net₁ net' : Network} (h : Attempt l net (.returned true) l₁ net₁)
      (hasks : net₁.Asks (fun act => ∃ s, act = .releases s) net')
      (hp : l'.phase = l₁.phase ∨ l'.phase = .reconnecting (Backoff.start net'.now)) :
      Tries l net (.returned true) l' net'

theorem Attempt.tries {o : Call Bool} (h : Attempt l net o l' net') : Tries l net o l' net' := by
  by_cases ho : o = .returned true
  · subst ho
    exact .served h (.refl _) (.inl rfl)
  · exact .apart h ho

namespace Tries

variable {o : Call Bool} {idle : Prop}

/-- The attempt with which a call begins decides what is asked of the system. -/
theorem attempt (h : Tries l net o l' net') : ∃ l₁ net₁, Attempt l net o l₁ net₁ ∧
    net.dialled net' = net.dialled net₁ ∧ (net.Opens net' ↔ net.Opens net₁) ∧
    (o ≠ .returned true → l' = l₁ ∧ net' = net₁) := by
  cases h with
  | apart h ho => exact ⟨_, _, h, rfl, .rfl, fun _ => ⟨rfl, rfl⟩⟩
  | served h hasks hp =>
    obtain ⟨new, hlog⟩ := h.log
    obtain ⟨hdialled, hopens⟩ := Network.since_of_releases hlog hasks
    exact ⟨_, _, h, hdialled, hopens, fun ho => absurd rfl ho⟩

theorem disciplined (ha : Apart lost fs l) (h : Tries l net o l' net')
    (hidle : net.now < Backoff.deadline lost fs → idle) : Disciplined lost fs net net' idle := by
  obtain ⟨l₁, net₁, hattempt, hdialled, hopens, hsame⟩ := h.attempt
  have hnext : ∀ {b}, l.phase = .reconnecting b → b.next = Backoff.deadline lost fs := by
    intro b hb
    cases ha.phase.symm.trans hb
    exact Backoff.next_course lost fs
  -- with an attempt that is made nothing is left to wait for
  have hmade : ∀ {target timeout r}, openStream target timeout net = (r, net₁) →
      Backoff.deadline lost fs ≤ net.now →
      (¬ net.Opens net₁ → ∃ target timeout o, openStream target timeout net = (o, net')) →
      Disciplined lost fs net net' idle := by
    intro target timeout r hr hle hends
    have hone : net.dialled net' = [net.now] := hdialled.trans (dialled_openStream hr).1
    exact ⟨by simp [hone], fun hlt => absurd hlt (Nat.not_lt.mpr hle), fun _ => hone,
      fun _ hnot => hends fun hyes => hnot (hopens.mpr hyes)⟩
  cases hattempt with
  | needless hnone => exact absurd ha.phase (hnone _)
  | early hb hd =>
    obtain ⟨-, rfl⟩ := hsame nofun
    rw [hnext hb] at hd
    refine ⟨by simp [Network.dialled_self], fun _ => ⟨rfl, hidle hd⟩, ?_, ?_⟩
    · exact fun hle => absurd hd (Nat.not_lt.mpr hle)
    · exact fun hle => absurd hd (Nat.not_lt.mpr hle)
  | fails hb hd ho =>
    obtain ⟨-, rfl⟩ := hsame nofun
    exact hmade ho (hnext hb ▸ hd) fun _ => ⟨_, _, _, ho⟩
  | succeeds hb hd ho =>
    exact hmade ho (hnext hb ▸ hd) fun hnot => absurd ((dialled_openStream ho).2.mpr ⟨_, rfl⟩) hnot
  | abandoned hb hd ho =>
    obtain ⟨-, rfl⟩ := hsame nofun
    exact hmade ho (hnext hb ▸ hd) fun _ => ⟨_, _, _, ho⟩

theorem apart_of_vain (ha : Apart lost fs l) (h : Tries l net o l' net') (ho : o ≠ .abandoned)
    (hnot : ¬ net.Opens net') :
    Apart lost (fs ++ (net.dialled net').map fun _ => net'.now) l' := by
  obtain ⟨l₁, net₁, hattempt, hdialled, hopens, hsame⟩ := h.attempt
  cases hattempt with
  | needless hnone => exact absurd ha.phase (hnone _)
  | early hb =>
    obtain ⟨rfl, rfl⟩ := hsame nofun
    simpa [Network.dialled_self] using ha
  | fails hb hd hopen =>
    obtain ⟨rfl, rfl⟩ := hsame nofun
    cases ha.phase.symm.trans hb
    rw [(dialled_openStream hopen).1]
    exact ⟨ha.role, ha.remote, by simp⟩
  | succeeds hb hd hopen =>
    exact absurd (hopens.mpr ((dialled_openStream hopen).2.mpr ⟨_, rfl⟩)) hnot
  | abandoned => exact absurd rfl ho

/-- A stream that a call has begun with or has opened is there in the end, or else has been
lost in the end. -/
theorem of_loss (h : Tries l net o l' net') (hs : l.isConnected = true ∨ net.Opens net')
    (hl : l'.isConnected = false) : l'.phase = .reconnecting (Backoff.start net'.now) := by
  cases h with
  | apart h hne =>
    rcases hs with hs | hopens
    · obtain ⟨s, hp⟩ := isConnected_iff.mp hs
      cases h with
      | needless =>
        rw [hs] at hl
        cases hl
      | early hb | fails hb | abandoned hb =>
        rw [hp] at hb
        cases hb
      | succeeds => exact absurd rfl hne
    · exact absurd (h.of_opens hopens) hne
  | served h _ hp =>
    rcases hp with hp | hp
    · obtain ⟨s, hs⟩ := isConnected_iff.mp h.isConnected
      rw [hs] at hp
      rw [isConnected_iff.mpr ⟨s, hp⟩] at hl
      cases hl
    · exact hp

end Tries
end Link

/-! ## Whole outages -/

/-- A run of calls, with anything that others may do between them, in which no stream is
opened. The instants are those at which the attempts made in it failed. -/
inductive Outage {σ : Type} (Calls : σ → Network → σ → Network → Prop) (x₀ : σ)
    (net₀ : Network) : List Nat → σ → Network → Prop
  | begins : Outage Calls x₀ net₀ [] x₀ net₀
  | call {fs : List Nat} {x x' : σ} {net net' : Network} (h : Outage Calls x₀ net₀ fs x net)
      (hc : Calls x net x' net') (hn : ¬ net.Opens net') :
      Outage Calls x₀ net₀ (fs ++ (net.dialled net').map fun _ => net'.now) x' net'
  | drift {fs : List Nat} {x : σ} {net net' : Network} (h : Outage Calls x₀ net₀ fs x net)
      (hd : net.Drift .client net') : Outage Calls x₀ net₀ fs x net'

namespace Link

variable {l₀ l l₁ l₂ : Link} {net₀ net net₁ net₂ : Network} {lost : Nat} {fs : List Nat}

theorem Apart.outage {σ : Type} {Calls : σ → Network → σ → Network → Prop} (link : σ → Link)
    {x₁ x₂ : σ} (ha : Apart lost [] (link x₁)) (h : Outage Calls x₁ net₁ fs x₂ net₂)
    (hcalls : ∀ {fs x net x' net'}, Apart lost fs (link x) → Calls x net x' net' →
      ∃ o, Tries (link x) net o (link x') net' ∧ o ≠ .abandoned) : Apart lost fs (link x₂) := by
  induction h with
  | begins => exact ha
  | call _ hc hn ih =>
    obtain ⟨o, htries, ho⟩ := hcalls ih hc
    exact htries.apart_of_vain ih ho hn
  | drift _ _ ih => exact ih

/-- A completed attempt to reconnect. -/
def Retries (l : Link) (net : Network) (l' : Link) (net' : Network) : Prop :=
  ∃ b, l.tryReconnect net = (.returned b, l', net')

/-- What can be said of a link at any moment of an outage. -/
structure Waits (lost : Nat) (fs : List Nat) (l : Link) (net : Network) : Prop where
  isConnected : l.isConnected = false
  attempts : l.attempts = some (min fs.length 4294967295)
  retries : ∀ o l' net', l.tryReconnect net = (o, l', net') →
    Disciplined lost fs net net' (o = .returned false ∧ l' = l)

theorem Apart.waits (ha : Apart lost fs l) : Waits lost fs l net where
  isConnected := ha.isConnected
  attempts := ha.attempts
  retries o l' net' h := by
    refine (attempt_of_tryReconnect ha.remote h).tries.disciplined ha fun hlt => ?_
    rw [← Backoff.next_course] at hlt
    rw [tryReconnect_early ha.phase hlt] at h
    cases h
    exact ⟨rfl, rfl⟩

/-- A client's link that has been given up waits from then on. -/
theorem Run.waits {tr : List Event} (hs : Start l₀ net₀) (hclient : l₀.role = .client)
    (hr : Run l₀ net₀ tr l net) (hloss : l.tearDown net = (l₁, net₁))
    (h : Outage Retries l₁ net₁ fs l₂ net₂) : Waits net₁.now fs l₂ net₂ := by
  have hcoh := hs.new.coherent
  have hrole := (hr.role hcoh).trans hclient
  have hremote := hr.remote_isSome hcoh (hs.placed.client hclient)
  have hnow := l.now_close net
  rw [tearDown_client hrole] at hloss
  cases hloss
  have ha : Apart net.now [] { l with phase := .reconnecting (.start net.now), writing := false } :=
    ⟨hrole, hremote, rfl⟩
  rw [hnow]
  refine (Apart.outage id ha h ?_).waits
  rintro fs l net l' net' hl ⟨b, hb⟩
  exact ⟨_, (attempt_of_tryReconnect hl.remote hb).tries, nofun⟩

end Link
end Courier
