import Courier.Proofs.Endpoint.Judging
import Courier.Proofs.Endpoint.SendErrors
import Courier.Proofs.Timing.Smoothing

/-!
# The estimate of an endpoint

An endpoint measures a round trip when a record comes whose echo is plausible, and
never otherwise. So its estimate is that of the samples measured so far, whole
milliseconds each and all below the largest that counts. What is known of estimates holds of
every endpoint then.
-/

namespace Courier.Endpoint

open Simulation (SampleCipher)

variable {κ α : Type} [Cipher κ] [Scalar α] {e₀ e e' e₁ : Endpoint κ α}
  {net₀ net net' net₁ : Network} {hist : List Event} {ev : Event}

/-- The estimate is left alone, or takes in one sample that counts. -/
inductive Measures (e e' : Endpoint κ α) : Prop
  | nothing (h : e'.roundTrip = e.roundTrip)
  | sample (ms : ℕ) (hms : ms < Echo.maxSample)
      (h : e'.roundTrip = (e.roundTrip.record (Scalar.ofNat ms)).2)

omit [Cipher κ] in
theorem measures_heed (e : Endpoint κ α) (record : Record) (now : ℕ) :
    Measures e (e.heed record now) := by
  cases hsample : (e.echo.receive now record.stamp record.echo).1 with
  | none =>
    refine .nothing ?_
    unfold heed
    dsimp only
    rw [hsample]
  | some ms =>
    refine .sample ms (e.echo.sample_lt_of_receive hsample) ?_
    unfold heed
    dsimp only
    rw [hsample]

theorem measures_receiveRecord {r : Call (Except Failure (Option ByteArray))}
    (h : e.receiveRecord net = (r, e', net')) : Measures e e' := by
  unfold receiveRecord at h
  generalize e.link.readFrame net = w at h
  obtain ⟨o, link, after⟩ := w
  split at h <;> rename_i heq <;> cases heq
  · cases h
    exact .nothing rfl
  · cases h
    exact .nothing rfl
  · cases h
    exact .nothing rfl
  · rename_i frame
    have hsnd := openFrame_snd { e with link } frame
    split at h <;> rename_i hopen <;> rw [hopen] at hsnd <;> cases h <;> cases hsnd
    · exact .nothing rfl
    · cases measures_heed (e := { e with link, cipher := (Cipher.decrypt e.cipher frame).2 }) _ _ with
      | nothing h => exact .nothing h
      | sample ms hms h => exact .sample ms hms h

theorem measures_receive {o : Call (Except Failure Received)}
    (h : e.receive net = (o, e', net')) : Measures e e' := by
  rcases receive_cases h with ⟨e₁, net₁, ha, hconn⟩ | ⟨link, hm, rfl⟩
  · have hsame := (unmoved_attends ha).roundTrip
    unfold receiveConnected at hconn
    generalize hrecord : e₁.receiveRecord net₁ = w at hconn
    obtain ⟨r, e₂, after⟩ := w
    have hlast : e'.roundTrip = e₂.roundTrip := by
      split at hconn <;> rename_i heq <;> cases heq
      · cases hconn
        rfl
      · cases hconn
        rfl
      · cases hconn
        rfl
      · dsimp only [lose] at hconn
        split at hconn <;> cases hconn <;> rfl
    cases measures_receiveRecord hrecord with
    | nothing h => exact .nothing (hlast.trans (h.trans hsame))
    | sample ms hms h => exact .sample ms hms (hlast.trans (hsame ▸ h))
  · exact .nothing rfl

/-! ## What sending leaves as it is -/

omit [Scalar α] in
theorem roundTrip_pack (e : Endpoint κ α) (payload : ByteArray) (now : ℕ) :
    (e.pack payload now).2.roundTrip = e.roundTrip := by
  unfold pack stamp
  dsimp only
  split
  · rfl
  · split <;> rfl

omit [Cipher κ] [Scalar α] in
theorem roundTrip_prepare {o : Call Unit} (h : e.prepare net = (o, e', net')) :
    e'.roundTrip = e.roundTrip := by
  unfold prepare at h
  split at h <;> cases h <;> rfl

omit [Scalar α] in
theorem roundTrip_sendConnected {payload : ByteArray} {o : Call (Except Failure Sent)}
    (h : e.sendConnected payload net = (o, e', net')) : e'.roundTrip = e.roundTrip := by
  have hpacked := roundTrip_pack e payload net.now
  cases sendConnected_delivers h with
  | refused hp => rwa [hp] at hpacked
  | abandoned hp hw => rwa [hp] at hpacked
  | sent hp hw => rwa [hp] at hpacked
  | lost hp hw => rwa [hp] at hpacked

omit [Scalar α] in
theorem roundTrip_send {payload : ByteArray} {o : Call (Except Failure Sent)}
    (h : e.send payload net = (o, e', net')) : e'.roundTrip = e.roundTrip := by
  rcases send_cases h with ⟨e₁, net₁, hp, hconn⟩ | ⟨hprep, rfl⟩ | ⟨e₁, hprep, hapart, -, -⟩
  · exact (roundTrip_sendConnected hconn).trans (roundTrip_prepare hp.prepare)
  · exact roundTrip_prepare hprep
  · have hsame := roundTrip_prepare hprep
    rw [send_of_apart hprep hapart] at h
    cases h
    exact hsame

/-! ## Every reachable endpoint -/

theorem Step.measures (h : Step e net ev e' net') : Measures e e' := by
  cases h with
  | send h => exact .nothing (roundTrip_send h)
  | receive h => exact measures_receive h
  | close h =>
    cases h
    exact .nothing rfl
  | setIoTimeout => exact .nothing rfl
  | setLastRoundTrip => exact .nothing rfl

omit [Cipher κ] in
theorem Start.roundTrip (h : Start e net) : e.roundTrip = RoundTrip.initial := by
  cases h with
  | server hu h =>
    unfold Endpoint.server at h
    split at h <;> cases h
    rfl
  | client hu h =>
    unfold Endpoint.client at h
    split at h <;> cases h
    rfl

/-- The estimate of an endpoint is that of the samples it has measured. -/
theorem Run.exists_samples (hs : Start e₀ net₀) (h : Run e₀ net₀ hist e net) :
    ∃ samples : List ℕ, (∀ ms ∈ samples, ms < Echo.maxSample) ∧
      e.roundTrip = RoundTrip.after (samples.map Scalar.ofNat) := by
  induction h with
  | nil => exact ⟨[], by simp, hs.roundTrip⟩
  | call _ hstep ih =>
    obtain ⟨samples, hsmall, heq⟩ := ih
    cases hstep.measures with
    | nothing hsame => exact ⟨samples, hsmall, hsame.trans heq⟩
    | sample ms hms hnew =>
      refine ⟨samples ++ [ms], List.forall_mem_append.mpr ⟨hsmall, by simpa using hms⟩, ?_⟩
      rw [List.map_append, List.map_singleton, RoundTrip.after_concat, ← heq, hnew]
  | drift _ _ ih => exact ih

theorem smoothed_lt_of_samples {samples : List ℕ} {n : ℕ} (hsmall : ∀ ms ∈ samples, ms < n)
    (h : (RoundTrip.after (samples.map (Scalar.ofNat : ℕ → ℚ))).sampled = true) :
    0 ≤ (RoundTrip.after (samples.map (Scalar.ofNat : ℕ → ℚ))).smoothed ∧
      (RoundTrip.after (samples.map (Scalar.ofNat : ℕ → ℚ))).smoothed < n := by
  obtain ⟨first, least, greatest, -, hleast, hgreatest, hamong⟩ :=
    RoundTrip.exists_among_after (RoundTrip.sampled_after_iff.mp h)
  have hsample : ∀ x ∈ RoundTrip.taken (samples.map (Scalar.ofNat : ℕ → ℚ)),
      ∃ ms ∈ samples, (ms : ℚ) = x :=
    fun x hx => List.mem_map.mp (List.mem_of_mem_filter hx)
  obtain ⟨shortest, _, rfl⟩ := hsample _ hleast.1
  obtain ⟨longest, hmem, rfl⟩ := hsample _ hgreatest.1
  have hlt : (longest : ℚ) < n := by exact_mod_cast hsmall longest hmem
  exact ⟨(Nat.cast_nonneg _).trans hamong.lo_le, hamong.le_hi.trans_lt hlt⟩

omit [Scalar α] in
/-- Smoothing on exact numbers. A negative sample is not recorded and changes nothing, and a
duration counts as its milliseconds. Whatever samples a new estimate has been given, it lies
between the least and the greatest that are not negative, and its spread is at most the distance
between these or half of the first. The advised timeout is a whole number of milliseconds between
its bounds, the highest as long as nothing has been measured, and four spreads above the
estimate, rounded up, wherever that is between the bounds. And the estimate of every endpoint
that has measured anything is not negative and below five seconds, since it comes from
samples that are. -/
theorem estimates_among_samples :
    (∀ (r : RoundTrip ℚ) (x : ℚ), (x < 0 → r.record x = (false, r)) ∧
      (0 ≤ x → (r.record x).1 = true)) ∧
    (∀ (r : RoundTrip ℚ) (t : ℕ), r.update t = r.record (t / 1000000)) ∧
    (∀ samples : List ℚ,
      let r := RoundTrip.after samples
      let taken := samples.filter (0 ≤ ·)
      (r.sampled = true ↔ taken ≠ []) ∧
      (taken = [] → r = RoundTrip.initial ∧ r.timeout = 1000) ∧
      (taken ≠ [] → ∃ first least greatest, taken.head? = some first ∧
        IsLeast {x | x ∈ taken} least ∧ IsGreatest {x | x ∈ taken} greatest ∧
        least ≤ r.smoothed ∧ r.smoothed ≤ greatest ∧
        0 ≤ r.spread ∧ r.spread ≤ max (first / 2) (greatest - least)) ∧
      100 ≤ r.timeout ∧ r.timeout ≤ 1000 ∧
      (100 ≤ ⌈r.smoothed + 4 * r.spread⌉ → ⌈r.smoothed + 4 * r.spread⌉ ≤ 1000 →
        (r.timeout : ℤ) = ⌈r.smoothed + 4 * r.spread⌉)) ∧
    ∀ (e₀ e : Endpoint κ ℚ) (net₀ net : Network) (hist : List Event),
      Start e₀ net₀ → Run e₀ net₀ hist e net →
      (∃ samples : List ℕ, (∀ ms ∈ samples, ms < 5000) ∧
        e.roundTrip = RoundTrip.after (samples.map Nat.cast)) ∧
      (e.roundTrip.sampled = true →
        0 ≤ e.roundTrip.smoothed ∧ e.roundTrip.smoothed < 5000) := by
  refine ⟨fun r x => ⟨fun hx => ?_, fun hx => ?_⟩, RoundTrip.update_eq, fun samples => ?_,
    fun e₀ e net₀ net hist hs hr => ?_⟩
  · exact r.record_of_isSample_eq_false (RoundTrip.isSample_eq_false_iff.mpr hx)
  · exact RoundTrip.fst_record_of_isSample r (RoundTrip.isSample_iff.mpr hx)
  · intro r taken
    have htaken : taken = RoundTrip.taken samples := RoundTrip.filter_nonneg_eq samples
    have htimeout := r.timeout_eq
    rw [htaken]
    refine ⟨RoundTrip.sampled_after_iff, fun hnone => ?_, fun hsome => ?_, by omega, by omega,
      fun hlow hhigh => by omega⟩
    · have hr := RoundTrip.after_of_taken_eq_nil hnone
      exact ⟨hr, (congrArg RoundTrip.timeout hr).trans RoundTrip.timeout_initial⟩
    · obtain ⟨first, least, greatest, hfirst, hleast, hgreatest, h⟩ :=
        RoundTrip.exists_among_after hsome
      exact ⟨first, least, greatest, hfirst, hleast, hgreatest, h.lo_le, h.le_hi,
        h.spread_nonneg, h.spread_le⟩
  · obtain ⟨samples, hsmall, heq⟩ := hr.exists_samples hs
    refine ⟨⟨samples, hsmall, heq⟩, fun hsampled => ?_⟩
    rw [heq] at hsampled ⊢
    exact_mod_cast smoothed_lt_of_samples hsmall hsampled

/-- A network on which a message comes 40 milliseconds after the client's clock has begun to
run, with an echo of its first stamp. -/
def echoing : Network where
  pipe s d :=
    if s = 0 ∧ d = .toClient then
      { written := packed [0, 0, 0, 6, 1, 0, 7, 0, 0, 9]
        arrivals := [⟨millis 40, .upTo 10⟩] }
    else { uptakes := [⟨0, .room 1000⟩] }
  dials := [⟨0, .joined⟩]
  binding _ := .ok 9000
  lookup _ := .error "unknown name"

/-- A client next door that has heard the echo. -/
def attuned : Endpoint SampleCipher ℚ × Network :=
  (unsealed.receive (Link.connect Link.nearby echoing).2).2

theorem start_echoing : Start unsealed (Link.connect Link.nearby echoing).2 := by
  have hu : Network.Untouched .client echoing := by
    constructor
    · intro s
      simp [echoing, Role.outgoing]
    · intro s
      unfold echoing
      dsimp only
      split <;> rfl
  have h : Endpoint.client Link.nearby (.plain none none) echoing =
      (.returned (.ok unsealed), (Link.connect Link.nearby echoing).2) := rfl
  exact .client hu h

theorem run_attuned : Run unsealed (Link.connect Link.nearby echoing).2
    [.receives (some 0) (.returned (.ok (.payload (packed [9]))))] attuned.1 attuned.2 := by
  have ho : (unsealed.receive (Link.connect Link.nearby echoing).2).1 =
      .returned (.ok (.payload (packed [9]))) := by with_unfolding_all rfl
  have hstream : attuned.1.link.stream? = some 0 := by decide +kernel
  rw [← hstream]
  exact Run.nil.call (.receive (Prod.ext ho rfl))

/-- Two measurements with a negative sample between them. -/
def uneven : List ℚ := [40, -3, 200]

/-- The estimate of the two measurements, and the estimate of the client. -/
theorem estimates_among_samples_attuned :
    (RoundTrip.initial : RoundTrip ℚ).record (-3) = (false, RoundTrip.initial) ∧
    (∃ least greatest, IsLeast {x : ℚ | x ∈ [40, 200]} least ∧
      IsGreatest {x : ℚ | x ∈ [40, 200]} greatest ∧
      least ≤ (RoundTrip.after uneven).smoothed ∧ (RoundTrip.after uneven).smoothed ≤ greatest) ∧
    (RoundTrip.after uneven).timeout = 280 ∧
    attuned.1.roundTrip.sampled = true ∧
    0 ≤ attuned.1.roundTrip.smoothed ∧ attuned.1.roundTrip.smoothed < 5000 := by
  obtain ⟨hrecord, -, hsamples, hreached⟩ := @estimates_among_samples SampleCipher _
  obtain ⟨-, -, hamong, -, -, htimeout⟩ := hsamples uneven
  have htaken : uneven.filter (0 ≤ ·) = [40, 200] := by decide +kernel
  have hvalue : (RoundTrip.after uneven).smoothed + 4 * (RoundTrip.after uneven).spread = 280 := by
    decide +kernel
  have hceil : ⌈(RoundTrip.after uneven).smoothed + 4 * (RoundTrip.after uneven).spread⌉ = 280 := by
    rw [hvalue]
    norm_num
  have hsampled : attuned.1.roundTrip.sampled = true := by decide +kernel
  rw [htaken] at hamong
  rw [hceil] at htimeout
  obtain ⟨-, least, greatest, -, hleast, hgreatest, hlow, hhigh, -⟩ := hamong (by simp)
  exact ⟨(hrecord RoundTrip.initial (-3)).1 (by norm_num),
    ⟨least, greatest, hleast, hgreatest, hlow, hhigh⟩,
    by exact_mod_cast htimeout (by norm_num) (by norm_num), hsampled,
    (hreached _ _ _ _ _ start_echoing run_attuned).2 hsampled⟩

end Courier.Endpoint
