import Courier.Bytes
import Courier.Text.Decimal
import Mathlib.Data.List.TakeWhile

/-!
# Trimmed text, encoded text and decimal numerals

A text is its trimmed text with white space before and behind, and this white space does not
count. In UTF-8 the ASCII characters are the bytes below 128, and no other character has such a
byte. A numeral is what the reader of numbers accepts: the value that is built up digit by
digit is that of the digits as a whole, so the bound is overstepped at some digit exactly if it
is overstepped in the end.
-/

namespace Courier.Text

variable {before after core cs digits : List Char} {bound n soFar : Nat} {c : Char}

/-! ## White space -/

/-- White space and nothing else. -/
def Blank (cs : List Char) : Prop := ∀ c ∈ cs, isWhiteSpace c = true

instance (cs : List Char) : Decidable (Blank cs) := List.decidableBAll _ cs

theorem trim_append_right (h : Blank after) (cs : List Char) : trim (cs ++ after) = trim cs := by
  unfold trim
  rw [List.dropWhile_append]
  split
  · rename_i hnone
    rw [List.isEmpty_iff.mp hnone, List.dropWhile_eq_nil_iff.mpr h]
  · rw [List.reverse_append, List.dropWhile_append_of_pos]
    exact fun c hc => h c (List.mem_reverse.mp hc)

theorem trim_append_takeWhile (cs : List Char) :
    trim cs ++ ((cs.dropWhile isWhiteSpace).reverse.takeWhile isWhiteSpace).reverse =
      cs.dropWhile isWhiteSpace := by
  rw [trim, ← List.reverse_append, List.takeWhile_append_dropWhile, List.reverse_reverse]

/-- What trimming takes away is white space. -/
theorem exists_trim (cs : List Char) :
    ∃ before after, Blank before ∧ Blank after ∧ cs = before ++ trim cs ++ after := by
  let rest := cs.dropWhile isWhiteSpace
  refine ⟨cs.takeWhile isWhiteSpace, (rest.reverse.takeWhile isWhiteSpace).reverse, ?_, ?_, ?_⟩
  · exact fun _ => List.mem_takeWhile_imp
  · intro c hc
    exact List.mem_takeWhile_imp (List.mem_reverse.mp hc)
  · rw [List.append_assoc, trim_append_takeWhile, List.takeWhile_append_dropWhile]

theorem trim_pad (hb : Blank before) (ha : Blank after) (h : trim cs = cs) :
    trim (before ++ cs ++ after) = cs := by
  rw [trim_append_right ha, trim_append_left hb, h]

/-- The text between the white space at the two ends. -/
structure Trimmed (cs core : List Char) : Prop where
  padded : ∃ before after, Blank before ∧ Blank after ∧ cs = before ++ core ++ after
  first : ∀ c ∈ core.head?, isWhiteSpace c = false
  last : ∀ c ∈ core.getLast?, isWhiteSpace c = false

theorem isWhiteSpace_of_mem_head? (h : c ∈ (cs.dropWhile isWhiteSpace).head?) :
    isWhiteSpace c = false := by
  have hhead := List.head?_dropWhile_not isWhiteSpace cs
  rw [Option.mem_def.mp h] at hhead
  exact hhead

theorem trimmed_trim (cs : List Char) : Trimmed cs (trim cs) where
  padded := exists_trim cs
  first c hc := by
    have hfront : c ∈ (cs.dropWhile isWhiteSpace).head? := by
      rw [← trim_append_takeWhile, List.head?_append, Option.mem_def.mp hc]
      rfl
    exact isWhiteSpace_of_mem_head? hfront
  last c hc := by
    rw [trim, List.getLast?_reverse] at hc
    exact isWhiteSpace_of_mem_head? hc

theorem isWhiteSpace_of_visible (hlow : 32 < c.toNat) (hhigh : c.toNat < 127) :
    isWhiteSpace c = false := by
  simp [isWhiteSpace, whiteSpaceCodes]
  omega

theorem trimmed_of_forall (hb : Blank before) (ha : Blank after)
    (h : ∀ c ∈ core, isWhiteSpace c = false) : Trimmed (before ++ core ++ after) core where
  padded := ⟨before, after, hb, ha, rfl⟩
  first c hc := h c (List.mem_of_mem_head? hc)
  last c hc := h c (List.mem_of_mem_getLast? hc)

theorem Trimmed.trim_eq (h : Trimmed cs core) : trim cs = core := by
  obtain ⟨⟨before, after, hb, ha, rfl⟩, hfirst, hlast⟩ := h
  exact trim_pad hb ha (trim_eq_self hfirst hlast)

/-! ## UTF-8 -/

/-- The bytes of a text. -/
def utf8 (cs : List Char) : List UInt8 := cs.flatMap String.utf8EncodeChar

theorem octets_toUTF8 (cs : List Char) : octets (String.ofList cs).toUTF8 = utf8 cs :=
  List.toList_data_toByteArray

theorem utf8EncodeChar_of_lt (h : c.toNat < 128) :
    String.utf8EncodeChar c = [UInt8.ofNat c.toNat] := by
  unfold String.utf8EncodeChar
  exact if_pos (Nat.le_of_lt_succ h)

theorem le_of_mem_utf8EncodeChar (h : 128 ≤ c.toNat) {b : UInt8}
    (hb : b ∈ String.utf8EncodeChar c) : 128 ≤ b.toNat := by
  have hbyte : ∃ n, b = UInt8.ofNat n ∧ 128 ≤ n ∧ n < 256 := by
    unfold String.utf8EncodeChar at hb
    dsimp only at hb
    rw [if_neg (Nat.not_le_of_lt h : ¬ c.val.toNat ≤ 127)] at hb
    split at hb
    · simp only [List.mem_cons, List.not_mem_nil, or_false] at hb
      rcases hb with rfl | rfl <;> exact ⟨_, rfl, by omega⟩
    · split at hb <;> simp only [List.mem_cons, List.not_mem_nil, or_false] at hb
      · rcases hb with rfl | rfl | rfl <;> exact ⟨_, rfl, by omega⟩
      · rcases hb with rfl | rfl | rfl | rfl <;> exact ⟨_, rfl, by omega⟩
  obtain ⟨n, rfl, hlow, hhigh⟩ := hbyte
  rw [UInt8.toNat_ofNat']
  omega

/-! ## Numerals -/

/-- At most one plus sign, and behind it one or more ASCII digits, in decimal notation. -/
inductive Numeral : List Char → Nat → Prop
  | unsigned {digits : List Char} (hne : digits ≠ []) (hd : ∀ c ∈ digits, c.isDigit = true) :
      Numeral digits (Nat.ofDigitChars 10 digits 0)
  | signed {digits : List Char} (hne : digits ≠ []) (hd : ∀ c ∈ digits, c.isDigit = true) :
      Numeral ('+' :: digits) (Nat.ofDigitChars 10 digits 0)

theorem numeral_toDigits (n : Nat) : Numeral (Nat.toDigits 10 n) n := by
  have hd : ∀ c ∈ Nat.toDigits 10 n, c.isDigit = true :=
    fun _ => Nat.isDigit_of_mem_toDigits (by decide) (by decide)
  have h := Numeral.unsigned Nat.toDigits_ne_nil hd
  rwa [Nat.ofDigitChars_ten_toDigits] at h

theorem isWhiteSpace_of_isDigit (h : c.isDigit = true) : isWhiteSpace c = false := by
  obtain ⟨hlow, hhigh⟩ := Char.isDigit_iff_toNat.mp h
  exact isWhiteSpace_of_visible (Nat.lt_of_lt_of_le (by decide) hlow)
    (Nat.lt_of_le_of_lt hhigh (by decide))

theorem Numeral.trim_eq (h : Numeral cs n) : trim cs = cs := by
  have hno : ∀ c ∈ cs, isWhiteSpace c = false := by
    cases h with
    | unsigned _ hd => exact fun c hc => isWhiteSpace_of_isDigit (hd c hc)
    | signed _ hd =>
      exact List.forall_mem_cons.mpr ⟨by decide, fun c hc => isWhiteSpace_of_isDigit (hd c hc)⟩
  apply trim_eq_self
  · exact fun c hc => hno c (List.mem_of_mem_head? hc)
  · exact fun c hc => hno c (List.mem_of_mem_getLast? hc)

theorem digitValue?_eq (c : Char) :
    digitValue? c = if c.isDigit then some (c.toNat - '0'.toNat) else none := by
  unfold digitValue?
  simp only [Char.isDigit_iff_toNat]

theorem le_ofDigitChars (digits : List Char) (n : Nat) : n ≤ Nat.ofDigitChars 10 digits n := by
  induction digits generalizing n with
  | nil => simp
  | cons c digits ih =>
    rw [Nat.ofDigitChars_cons]
    exact Nat.le_trans (by omega) (ih _)

theorem readDigits_eq_some_iff (h : soFar ≤ bound) : readDigits bound soFar cs = some n ↔
    (∀ c ∈ cs, c.isDigit = true) ∧ Nat.ofDigitChars 10 cs soFar = n ∧ n ≤ bound := by
  induction cs generalizing soFar with
  | nil =>
    simp only [readDigits, Option.some.injEq, Nat.ofDigitChars_nil, List.not_mem_nil, false_implies,
      implies_true, true_and]
    constructor
    · rintro rfl
      exact ⟨rfl, h⟩
    · exact And.left
  | cons c cs ih =>
    rw [readDigits, digitValue?_eq, List.forall_mem_cons, Nat.ofDigitChars_cons,
      Nat.mul_comm 10 soFar]
    by_cases hc : c.isDigit = true
    · rw [if_pos hc]
      dsimp only
      by_cases hover : bound < soFar * 10 + (c.toNat - '0'.toNat)
      · rw [if_pos hover]
        refine iff_of_false nofun ?_
        -- the digits still to come do not bring the number down again
        rintro ⟨-, rfl, hle⟩
        exact absurd (Nat.le_trans (le_ofDigitChars cs _) hle) (Nat.not_le.mpr hover)
      · rw [if_neg hover, ih (Nat.le_of_not_lt hover), and_iff_right hc]
    · rw [if_neg hc]
      refine iff_of_false nofun ?_
      exact fun h => hc h.1.1

theorem readNat?_signed (hne : digits ≠ []) :
    readNat? bound ('+' :: digits) = readDigits bound 0 digits := by
  cases digits with
  | nil => exact absurd rfl hne
  | cons c digits => rfl

theorem readNat?_unsigned (hne : digits ≠ []) (hd : ∀ c ∈ digits, c.isDigit = true) :
    readNat? bound digits = readDigits bound 0 digits := by
  unfold readNat?
  split
  · exact absurd rfl hne
  · cases hd '+' (by simp)
  · cases hd '+' (by simp)
  · rfl

/-- What is read is a numeral, and what is above the bound is not read. -/
theorem readNat?_eq_some_iff : readNat? bound cs = some n ↔ Numeral cs n ∧ n ≤ bound := by
  constructor
  · intro h
    unfold readNat? at h
    split at h
    · cases h
    · cases h
    · rename_i rest hrest
      obtain ⟨hd, rfl, hle⟩ := (readDigits_eq_some_iff (Nat.zero_le _)).mp h
      exact ⟨.signed (fun hnil => hrest (hnil ▸ rfl)) hd, hle⟩
    · rename_i hne _ _
      obtain ⟨hd, rfl, hle⟩ := (readDigits_eq_some_iff (Nat.zero_le _)).mp h
      exact ⟨.unsigned hne hd, hle⟩
  · rintro ⟨hn, hle⟩
    cases hn with
    | unsigned hne hd =>
      rw [readNat?_unsigned hne hd]
      exact (readDigits_eq_some_iff (Nat.zero_le _)).mpr ⟨hd, rfl, hle⟩
    | signed hne hd =>
      rw [readNat?_signed hne]
      exact (readDigits_eq_some_iff (Nat.zero_le _)).mpr ⟨hd, rfl, hle⟩

end Courier.Text
