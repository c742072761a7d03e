import Courier.Timing.RoundTrip
import Mathlib.Data.Finset.Dedup
import Mathlib.Data.Finset.Max
import Mathlib.Data.List.Induction
import Mathlib.Data.Rat.Floor
import Mathlib.Tactic.Linarith
import Mathlib.Tactic.NormNum

/-!
# Smoothed estimates stay among the samples

On exact numbers a new estimate is a weighted mean of the old one and of the sample, so it
never leaves the interval that the samples span. The spread is a weighted mean too, of
the old spread and of the distance from the old estimate to the sample, and that
distance is at most the length of the interval.
-/

namespace Courier.RoundTrip

section Course

variable {α : Type} [Scalar α] {samples : List α} {x : α}

/-- The estimate after these samples, one after another. -/
def after (samples : List α) : RoundTrip α := samples.foldl (fun r x => (r.record x).2) initial

/-- The samples that are measurements. -/
def taken (samples : List α) : List α := samples.filter Scalar.isSample

theorem after_concat : after (samples ++ [x]) = ((after samples).record x).2 := by
  simp [after]

theorem taken_concat_of_isSample (h : Scalar.isSample x = true) :
    taken (samples ++ [x]) = taken samples ++ [x] := by
  simp [taken, h]

theorem taken_concat_of_not (h : Scalar.isSample x = false) :
    taken (samples ++ [x]) = taken samples := by
  simp [taken, h]

theorem after_concat_of_not (h : Scalar.isSample x = false) :
    after (samples ++ [x]) = after samples := by
  rw [after_concat, record_of_isSample_eq_false _ h]

theorem fst_record_of_isSample (r : RoundTrip α) (h : Scalar.isSample x = true) :
    (r.record x).1 = true := by
  rw [record, if_pos h]

theorem sampled_record (r : RoundTrip α) (h : Scalar.isSample x = true) :
    (r.record x).2.sampled = true := by
  unfold record
  rw [if_pos h]
  dsimp only
  split <;> rfl

theorem sampled_after_iff : (after samples).sampled = true ↔ taken samples ≠ [] := by
  induction samples using List.reverseRecOn with
  | nil => simp [after, taken, initial]
  | append_singleton samples x ih =>
    cases h : Scalar.isSample x with
    | true =>
      rw [after_concat, taken_concat_of_isSample h, sampled_record _ h]
      simp
    | false => rwa [after_concat_of_not h, taken_concat_of_not h]

theorem after_of_taken_eq_nil (h : taken samples = []) : after samples = initial := by
  induction samples using List.reverseRecOn with
  | nil => rfl
  | append_singleton samples x ih =>
    cases hx : Scalar.isSample x with
    | true =>
      rw [taken_concat_of_isSample hx] at h
      simp at h
    | false =>
      rw [taken_concat_of_not hx] at h
      rw [after_concat_of_not hx, ih h]

end Course

/-! ## Exact numbers -/

variable {r : RoundTrip ℚ} {x lo hi first : ℚ} {samples : List ℚ}

theorem isSample_iff : Scalar.isSample x = true ↔ 0 ≤ x := by
  simp [Scalar.isSample]

theorem isSample_eq_false_iff : Scalar.isSample x = false ↔ x < 0 := by
  rw [← Bool.not_eq_true, isSample_iff, not_le]

theorem filter_nonneg_eq (samples : List ℚ) : samples.filter (0 ≤ ·) = taken samples :=
  List.filter_congr fun x _ => by rw [Bool.eq_iff_iff, isSample_iff, decide_eq_true_iff]

theorem abs_eq (x : ℚ) : Scalar.abs x = |x| := by
  change (if x < 0 then -x else x) = |x|
  split
  · rw [abs_of_neg ‹_›]
  · rw [abs_of_nonneg (not_lt.mp ‹_›)]

theorem record_first (hx : 0 ≤ x) (hr : r.sampled = false) :
    r.record x = (true, ⟨x, x / 2, true⟩) := by
  unfold record
  rw [if_pos (isSample_iff.mpr hx), hr]
  rfl

theorem record_next (hx : 0 ≤ x) (hr : r.sampled = true) : r.record x =
    (true, ⟨7 / 8 * r.smoothed + 1 / 8 * x, 3 / 4 * r.spread + 1 / 4 * |r.smoothed - x|, true⟩) := by
  have hone : (Scalar.ofNat 1 : ℚ) - smoothedWeight = 7 / 8 := by
    norm_num [Scalar.ofNat, smoothedWeight]
  have hone' : (Scalar.ofNat 1 : ℚ) - spreadWeight = 3 / 4 := by
    norm_num [Scalar.ofNat, spreadWeight]
  unfold record
  rw [if_pos (isSample_iff.mpr hx), hr, if_pos rfl, hone, hone', abs_eq]
  rfl

/-- The estimate is between two bounds, and its spread is at most the distance between
them or half of the first measurement. -/
structure Among (lo hi first : ℚ) (r : RoundTrip ℚ) : Prop where
  lo_le : lo ≤ r.smoothed
  le_hi : r.smoothed ≤ hi
  spread_nonneg : 0 ≤ r.spread
  spread_le : r.spread ≤ max (first / 2) (hi - lo)

theorem Among.record (h : Among lo hi first r) (hr : r.sampled = true) (hx : 0 ≤ x) (hlo : lo ≤ x)
    (hhi : x ≤ hi) : Among lo hi first (r.record x).2 := by
  obtain ⟨hlo', hhi', hnonneg, hle⟩ := h
  have hdistance : |r.smoothed - x| ≤ hi - lo := abs_le.mpr ⟨by linarith, by linarith⟩
  have hlength : hi - lo ≤ max (first / 2) (hi - lo) := le_max_right _ _
  rw [record_next hx hr]
  refine ⟨?_, ?_, ?_, ?_⟩
  · dsimp only
    linarith
  · dsimp only
    linarith
  · have := abs_nonneg (r.smoothed - x)
    dsimp only
    linarith
  · dsimp only
    linarith

theorem among_record_first (hx : 0 ≤ x) (hr : r.sampled = false) (hlo : lo ≤ x) (hhi : x ≤ hi) :
    Among lo hi x (r.record x).2 := by
  rw [record_first hx hr]
  refine ⟨hlo, hhi, ?_, le_max_left _ _⟩
  dsimp only
  linarith

theorem among_after (hfirst : (taken samples).head? = some first)
    (hall : ∀ x ∈ taken samples, lo ≤ x ∧ x ≤ hi) : Among lo hi first (after samples) := by
  induction samples using List.reverseRecOn with
  | nil => simp [taken] at hfirst
  | append_singleton samples x ih =>
    cases hx : Scalar.isSample x with
    | false =>
      rw [taken_concat_of_not hx] at hfirst hall
      rw [after_concat_of_not hx]
      exact ih hfirst hall
    | true =>
      rw [taken_concat_of_isSample hx] at hfirst hall
      rw [after_concat]
      have hnonneg := isSample_iff.mp hx
      obtain ⟨hlo, hhi⟩ := hall x (by simp)
      by_cases hnone : taken samples = []
      · -- the first measurement is the estimate, and half of it the spread
        rw [hnone] at hfirst
        cases hfirst
        have hr : (after samples).sampled = false := by
          rw [← Bool.not_eq_true, sampled_after_iff, hnone]
          simp
        exact among_record_first hnonneg hr hlo hhi
      · rw [List.head?_append_of_ne_nil _ hnone] at hfirst
        have hearlier := ih hfirst fun y hy => hall y (List.mem_append_left _ hy)
        exact hearlier.record (sampled_after_iff.mpr hnone) hnonneg hlo hhi

/-- With a measurement the estimate is between the least and the greatest. -/
theorem exists_among_after (h : taken samples ≠ []) : ∃ first least greatest,
    (taken samples).head? = some first ∧ IsLeast {x | x ∈ taken samples} least ∧
      IsGreatest {x | x ∈ taken samples} greatest ∧
      Among least greatest first (after samples) := by
  obtain ⟨first, hfirst⟩ := Option.isSome_iff_exists.mp (List.isSome_head?.mpr h)
  have hnonempty : (taken samples).toFinset.Nonempty := (List.toFinset_nonempty_iff _).mpr h
  have hleast := Finset.isLeast_min' _ hnonempty
  have hgreatest := Finset.isGreatest_max' _ hnonempty
  rw [List.coe_toFinset] at hleast hgreatest
  refine ⟨first, _, _, hfirst, hleast, hgreatest, among_after hfirst fun x hx => ?_⟩
  exact ⟨hleast.2 hx, hgreatest.2 hx⟩

theorem update_eq (r : RoundTrip ℚ) (t : ℕ) : r.update t = r.record (t / 1000000) := by
  have hparts : (t : ℚ) = 1000000000 * (t / 1000000000 : ℕ) + (t % 1000000000 : ℕ) := by
    exact_mod_cast (Nat.div_add_mod t 1000000000).symm
  have hsample : (sampleOf t : ℚ) = t / 1000000 := by
    change ((t / 1000000000 : ℕ) + (t % 1000000000 : ℕ) / (1000000000 : ℕ)) * (1000 : ℕ) = (_ : ℚ)
    rw [hparts]
    push_cast
    ring
  rw [update, hsample]

/-- The advised timeout, whatever the estimate. -/
theorem timeout_eq (r : RoundTrip ℚ) :
    (r.timeout : ℤ) = max 100 (min 1000 ⌈r.smoothed + 4 * r.spread⌉) := by
  have hceil : (r.smoothed + 4 * r.spread).ceil = ⌈r.smoothed + 4 * r.spread⌉ :=
    eq_of_forall_ge_iff fun z => by rw [Rat.ceil_le_iff, Int.ceil_le]
  change ((max 100 (min 1000 (r.smoothed + 4 * r.spread).ceil)).toNat : ℤ) = _
  rw [hceil]
  omega

theorem timeout_initial : (initial : RoundTrip ℚ).timeout = 1000 := by
  have h := timeout_eq initial
  have hceil : ⌈(initial : RoundTrip ℚ).smoothed + 4 * (initial : RoundTrip ℚ).spread⌉ = 3000 := by
    norm_num [initial, initialSmoothed, initialSpread, Scalar.ofNat]
  rw [hceil] at h
  omega

end Courier.RoundTrip
