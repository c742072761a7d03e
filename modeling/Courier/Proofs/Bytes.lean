import Courier.Bytes
import Mathlib.Algebra.Ring.Nat

/-!
# Numbers written as bytes

Writing a number in base 256 and reading it back are inverse to each other, as
far as the number fits.
-/

namespace Courier

theorem ofBigEndian_bigEndian {width n : Nat} (h : n < 256 ^ width) :
    ofBigEndian (bigEndian width n) = n := by
  induction width generalizing n with
  | zero => simp at h; subst h; rfl
  | succ width ih =>
    rw [bigEndian, ofBigEndian_concat, ih (by rw [Nat.pow_succ] at h; omega)]
    have : n % 256 < 256 := Nat.mod_lt _ (by decide)
    simp only [UInt8.toNat_ofNat']
    omega

/-- Induction that takes a list apart at its end. -/
theorem concat_induction {motive : List UInt8 → Prop} (nil : motive [])
    (concat : ∀ l b, motive l → motive (l ++ [b])) (l : List UInt8) : motive l := by
  rw [← List.reverse_reverse l]
  induction l.reverse with
  | nil => exact nil
  | cons b l ih => rw [List.reverse_cons]; exact concat _ _ ih

theorem ofBigEndian_lt (l : List UInt8) : ofBigEndian l < 256 ^ l.length := by
  induction l using concat_induction with
  | nil => simp [ofBigEndian]
  | concat l b ih =>
    rw [ofBigEndian_concat, List.length_append, List.length_singleton, Nat.pow_succ]
    have := b.toNat_lt
    omega

theorem bigEndian_ofBigEndian (l : List UInt8) : bigEndian l.length (ofBigEndian l) = l := by
  induction l using concat_induction with
  | nil => rfl
  | concat l b ih =>
    have := b.toNat_lt
    rw [ofBigEndian_concat, List.length_append, List.length_singleton, bigEndian]
    rw [show (ofBigEndian l * 256 + b.toNat) / 256 = ofBigEndian l by omega, ih,
      show (ofBigEndian l * 256 + b.toNat) % 256 = b.toNat by omega, UInt8.ofNat_toNat]

end Courier
