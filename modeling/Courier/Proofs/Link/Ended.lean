import Courier.Proofs.Link.Outage
import Courier.Proofs.Link.Renewal

/-!
# A link that has no stream any more

A link without a stream that is not going to get one is left alone by every
operation, and asks the system for nothing. For a server that is the end. A client
comes back from being closed in one way only, and that is to be torn down once
more: it does not look whether there is a stream to give up.
-/

namespace Courier.Link

variable {l₀ l l' : Link} {net₀ net net' : Network} {e : Event} {tr es : List Event}

/-- Nothing can be given up any more, and still a client starts to reconnect. -/
theorem tearDown_of_disconnected (hp : l.phase = .disconnected) (h : l.tearDown net = (l', net')) :
    net' = net ∧ (l'.phase = .disconnected ↔ l.role ≠ .client) := by
  have hquiet : (l.close net).2 = net := by
    unfold close
    rw [hp]
  cases hr : l.role with
  | client =>
    rw [tearDown_client hr] at h
    cases h
    exact ⟨hquiet, by simp⟩
  | server =>
    rw [tearDown_server hr] at h
    cases h
    exact ⟨hquiet, by simp⟩

theorem Step.of_disconnected (hc : Coherent l net) (hp : l.phase = .disconnected)
    (h : Step l net e l' net') :
    net' = net ∧ (l'.phase = .disconnected ↔ ¬(l.role = .client ∧ e = .tearsDown)) := by
  have hnone : l.stream? = none := stream?_eq_none.mpr (by simp [hp])
  have hwriting := hc.writing_eq_false hnone
  cases h with
  | accept h =>
    unfold Link.accept at h
    rw [hp] at h
    cases h
    simp [hp]
  | tryReconnect h =>
    rw [tryReconnect_of_not_reconnecting (by simp [hp])] at h
    cases h
    simp [hp]
  | writeFrame h =>
    unfold Link.writeFrame at h
    rw [hwriting, hp] at h
    cases h
    simp [hp]
  | readFrame h =>
    rw [readFrame_unconnected hnone hwriting] at h
    cases h
    simp [hp]
  | tearDown h =>
    obtain ⟨hquiet, hiff⟩ := tearDown_of_disconnected hp h
    exact ⟨hquiet, by simp [hiff]⟩
  | close h =>
    unfold Link.close at h
    rw [hp] at h
    cases h
    simp
  | setIoTimeout t =>
    have hsame : (l.setIoTimeout t).phase = .disconnected := hp
    exact ⟨rfl, by simp [hsame]⟩

/-- A run after the end in which a client is not torn down. -/
theorem Run.disconnected (hc : Coherent l net) (hp : l.phase = .disconnected)
    (hno : l.role = .server ∨ .tearsDown ∉ es) (h : Run l net es l' net') :
    l'.phase = .disconnected := by
  -- the role is that of the first link, so what is asked of it holds at every step
  induction h with
  | nil => exact hp
  | @call es l' _ _ _ e hr hs ih =>
    have hbefore : l.role = .server ∨ .tearsDown ∉ es :=
      hno.imp_right fun hnot hmem => hnot (List.mem_append_left _ hmem)
    refine ((hs.of_disconnected (hr.coherent hc) (ih hbefore)).2).mpr ?_
    rintro ⟨hclient, rfl⟩
    rw [hr.role hc] at hclient
    rcases hno with hserver | hnot
    · rw [hserver] at hclient
      cases hclient
    · exact hnot (List.mem_append_right _ (List.mem_singleton_self _))
  | drift _ _ ih => exact ih hno

/-- Once a link that has been set up is disconnected it stays so, whatever is done with it,
but for a client that is torn down again; and nothing that is done with it asks anything of
the system. -/
theorem stays_disconnected (hs : Start l₀ net₀) (hr : Run l₀ net₀ tr l net)
    (hp : l.phase = .disconnected) {es : List Event} {l' : Link} {net' : Network}
    (hlater : Run l net es l' net') (hno : l.role = .server ∨ .tearsDown ∉ es) :
    l'.phase = .disconnected ∧ ∀ e l'' net'', Step l' net' e l'' net'' → net'' = net' ∧
      (l''.phase = .disconnected ↔ ¬(l'.role = .client ∧ e = .tearsDown)) := by
  have hc := hr.coherent hs.new.coherent
  have hp' := hlater.disconnected hc hp hno
  exact ⟨hp', fun _ _ _ hstep => hstep.of_disconnected (hlater.coherent hc) hp'⟩

/-- A client next door that has been closed, and what it comes to when it is torn down and
tries to reconnect. -/
def closed : Link × Network := nearbyLink.close (connect nearby generous).2

def revived : Link × Network :=
  ((closed.1.tearDown closed.2).1.tryReconnect (closed.1.tearDown closed.2).2).2

theorem run_closed : Start nearbyLink (connect nearby generous).2 ∧
    Run nearbyLink (connect nearby generous).2 [.closes] closed.1 closed.2 :=
  ⟨run_lost.1, Run.nil.call (.close (Prod.eta _).symm)⟩

/-- It does not come back by an attempt to reconnect. -/
theorem stays_disconnected_closed :
    (closed.1.tryReconnect closed.2).2.1.phase = .disconnected ∧
      (closed.1.tryReconnect closed.2).2.2 = closed.2 := by
  obtain ⟨hs, hr⟩ := run_closed
  obtain ⟨-, hstep⟩ := stays_disconnected hs hr rfl .nil (.inr List.not_mem_nil)
  obtain ⟨hquiet, hiff⟩ := hstep _ _ _ (.tryReconnect (Prod.eta _).symm)
  exact ⟨hiff.mpr nofun, hquiet⟩

/-- There is a way back from being closed: after it a client can be torn down, and then it
opens another stream. -/
theorem comes_back_from_disconnected : Start nearbyLink (connect nearby generous).2 ∧
    Run nearbyLink (connect nearby generous).2 [.closes] closed.1 closed.2 ∧
    closed.1.phase = .disconnected ∧
    Run closed.1 closed.2 [.tearsDown, .reconnects (.returned true)] revived.1 revived.2 ∧
    revived.1.phase = .connected 1 ∧ closed.2.Opens revived.2 := by
  obtain ⟨hs, hr⟩ := run_closed
  have htry : (closed.1.tearDown closed.2).1.tryReconnect (closed.1.tearDown closed.2).2 =
      (.returned true, revived) := rfl
  have hback := (Run.nil.call (.tearDown (Prod.eta _).symm)).call (.tryReconnect htry)
  have hasked : closed.2.since revived.2 =
      [⟨0, .opens 1⟩, ⟨0, .dials ⟨.v4 127 0 0 1, 9000⟩⟩] := rfl
  exact ⟨hs, hr, rfl, hback, rfl, by simp [Network.Opens, hasked]⟩

end Courier.Link
