import Courier.Cipher.Key
import Courier.Proofs.Text
import Mathlib.Data.List.Induction

/-!
# How keys are written

A key is written as 64 digits, in either case, with white space around them, and every text in
this form is read as one key. What is wrong with any other text is told from the bytes of the
trimmed text: their number counts first, and then the place of the first that is no digit. Digits
are ASCII, so a text of digits has as many bytes as characters.
-/

namespace Courier.SessionKey

open Text

variable {text : String} {core : List Char} {bytes digits front back : List UInt8} {b : UInt8}
  {n position : Nat} {c : Char} {e : CipherError} {k k' : SessionKey}

/-! ## Digits -/

/-- The code of a hexadecimal digit, in either case. -/
def IsDigit (code : Nat) : Prop :=
  '0'.toNat ≤ code ∧ code ≤ '9'.toNat ∨ 'A'.toNat ≤ code ∧ code ≤ 'F'.toNat ∨
    'a'.toNat ≤ code ∧ code ≤ 'f'.toNat

instance (code : Nat) : Decidable (IsDigit code) := inferInstanceAs (Decidable (_ ∨ _ ∨ _))

theorem isDigit_iff {code : Nat} : IsDigit code ↔
    48 ≤ code ∧ code ≤ 57 ∨ 65 ≤ code ∧ code ≤ 70 ∨ 97 ≤ code ∧ code ≤ 102 := Iff.rfl

theorem IsDigit.lt {code : Nat} (h : IsDigit code) : code < 103 := by
  rw [isDigit_iff] at h
  omega

/-- The lower-case form of a digit that is given by its byte. -/
def lower (b : UInt8) : Char := (Char.ofNat b.toNat).toLower

theorem exists_hexValue? (h : IsDigit b.toNat) :
    ∃ n, hexValue? b = some n ∧ n < 16 ∧ hexDigit n = lower b := by
  have hall : ∀ code < 103, IsDigit code → ∃ n ∈ hexValue? (UInt8.ofNat code), n < 16 ∧
      hexDigit n = lower (UInt8.ofNat code) := by decide
  have hdigit := hall b.toNat h.lt h
  rwa [UInt8.ofNat_toNat] at hdigit

theorem hexValue?_eq_none (h : ¬ IsDigit b.toNat) : hexValue? b = none := by
  rw [isDigit_iff] at h
  unfold hexValue?
  dsimp only
  rw [if_neg (by omega), if_neg (by omega), if_neg (by omega)]

theorem isDigit_hexDigit (h : n < 16) : IsDigit (hexDigit n).toNat := by
  have hall : ∀ n < 16, IsDigit (hexDigit n).toNat := by decide
  exact hall n h

theorem hexValue?_hexDigit (h : n < 16) :
    hexValue? (UInt8.ofNat (hexDigit n).toNat) = some n := by
  have hall : ∀ n < 16, hexValue? (UInt8.ofNat (hexDigit n).toNat) = some n := by decide
  exact hall n h

/-! ## Pairs of digits -/

theorem hexPair_ofNat {high low : Nat} (hhigh : high < 16) (hlow : low < 16) :
    hexPair (UInt8.ofNat (high * 16 + low)) = [hexDigit high, hexDigit low] := by
  have hnat : (UInt8.ofNat (high * 16 + low)).toNat = high * 16 + low := by
    rw [UInt8.toNat_ofNat']
    omega
  rw [hexPair, hnat]
  congr 3 <;> omega

/-- Digits are read as bytes, which are written as the same digits in lower case. -/
theorem readPairs_of_digits (hd : ∀ b ∈ digits, IsDigit b.toNat) (heven : digits.length % 2 = 0)
    (position : Nat) :
    ∃ bytes, readPairs position digits = .ok bytes ∧ bytes.flatMap hexPair = digits.map lower := by
  induction digits using List.twoStepInduction generalizing position with
  | nil => exact ⟨[], rfl, rfl⟩
  | singleton => cases heven
  | cons_cons high low rest ih _ =>
    obtain ⟨h, hhigh, hlt, hhex⟩ := exists_hexValue? (hd high (by simp))
    obtain ⟨l, hlow, hlt', hhex'⟩ := exists_hexValue? (hd low (by simp))
    obtain ⟨bytes, hread, hwritten⟩ := ih (fun b hb => hd b (by simp [hb]))
      (by simp only [List.length_cons] at heven; omega) (position + 2)
    refine ⟨UInt8.ofNat (h * 16 + l) :: bytes, by simp only [readPairs, hhigh, hlow, hread], ?_⟩
    rw [List.flatMap_cons, hexPair_ofNat hlt hlt', hwritten, hhex, hhex']
    rfl

theorem readPairs_of_not_digit (hfront : ∀ a ∈ front, IsDigit a.toNat) (hb : ¬ IsDigit b.toNat)
    (heven : (front ++ b :: back).length % 2 = 0) (position : Nat) :
    readPairs position (front ++ b :: back) = .error (badDigit b (position + front.length)) := by
  have hnone := hexValue?_eq_none hb
  induction front using List.twoStepInduction generalizing position with
  | nil =>
    cases back with
    | nil => cases heven
    | cons low rest =>
      simp only [List.nil_append, readPairs, hnone]
      rfl
  | singleton high =>
    obtain ⟨h, hhigh, -, -⟩ := exists_hexValue? (hfront high (by simp))
    simp only [List.cons_append, List.nil_append, readPairs, hhigh, hnone]
    rfl
  | cons_cons high low rest ih _ =>
    obtain ⟨h, hhigh, -, -⟩ := exists_hexValue? (hfront high (by simp))
    obtain ⟨l, hlow, -, -⟩ := exists_hexValue? (hfront low (by simp))
    have hrest := ih (fun a ha => hfront a (by simp [ha]))
      (by simp only [List.cons_append, List.length_cons] at heven; omega) (position + 2)
    simp only [List.cons_append, readPairs, hhigh, hlow, hrest, List.length_cons]
    congr 2
    omega

theorem readPairs_flatMap_hexPair (bytes : List UInt8) (position : Nat) :
    readPairs position ((bytes.flatMap hexPair).map fun c => UInt8.ofNat c.toNat) =
      .ok bytes := by
  induction bytes generalizing position with
  | nil => rfl
  | cons b bytes ih =>
    have hb := b.toNat_lt
    have hhigh := hexValue?_hexDigit (n := b.toNat / 16) (by omega)
    have hlow := hexValue?_hexDigit (n := b.toNat % 16) (by omega)
    have hsum : UInt8.ofNat (b.toNat / 16 * 16 + b.toNat % 16) = b := by
      rw [show b.toNat / 16 * 16 + b.toNat % 16 = b.toNat by omega, UInt8.ofNat_toNat]
    simp only [List.flatMap_cons, hexPair, List.cons_append, List.nil_append, List.map_cons,
      readPairs, hhigh, hlow, ih, hsum]

/-! ## Texts and their bytes -/

theorem trimmedBytes_eq (h : Trimmed text.toList core) : trimmedBytes text = utf8 core := by
  rw [trimmedBytes, h.trim_eq, octets_toUTF8]

theorem utf8_of_digits (h : ∀ c ∈ core, IsDigit c.toNat) :
    utf8 core = core.map fun c => UInt8.ofNat c.toNat := by
  induction core with
  | nil => rfl
  | cons c core ih =>
    obtain ⟨hc, hcore⟩ := List.forall_mem_cons.mp h
    rw [utf8, List.flatMap_cons, utf8EncodeChar_of_lt (Nat.lt_trans hc.lt (by decide)), ← utf8,
      ih hcore]
    rfl

theorem isDigit_of_isDigit_utf8 (h : ∀ b ∈ utf8 core, IsDigit b.toNat) (hc : c ∈ core) :
    IsDigit c.toNat := by
  have hbytes : ∀ b ∈ String.utf8EncodeChar c, IsDigit b.toNat :=
    fun b hb => h b (List.mem_flatMap.mpr ⟨c, hc, hb⟩)
  by_cases hascii : c.toNat < 128
  · have hbyte := hbytes (UInt8.ofNat c.toNat) (by simp [utf8EncodeChar_of_lt hascii])
    rwa [UInt8.toNat_ofNat', Nat.mod_eq_of_lt (by omega)] at hbyte
  · obtain ⟨b, hb⟩ := List.exists_mem_of_ne_nil _ (String.utf8EncodeChar_ne_nil (c := c))
    have hhigh := le_of_mem_utf8EncodeChar (Nat.le_of_not_lt hascii) hb
    have hlow := (hbytes b hb).lt
    omega

/-- Whether a text is made up of so many digits can be told from its bytes. -/
theorem utf8_digits_iff : (utf8 core).length = 64 ∧ (∀ b ∈ utf8 core, IsDigit b.toNat) ↔
    core.length = 64 ∧ ∀ c ∈ core, IsDigit c.toNat := by
  constructor
  · rintro ⟨hlen, hd⟩
    have hcore : ∀ c ∈ core, IsDigit c.toNat := fun c hc => isDigit_of_isDigit_utf8 hd hc
    rw [utf8_of_digits hcore, List.length_map] at hlen
    exact ⟨hlen, hcore⟩
  · rintro ⟨hlen, hd⟩
    rw [utf8_of_digits hd, List.length_map, List.forall_mem_map]
    refine ⟨hlen, fun c hc => ?_⟩
    have := (hd c hc).lt
    rw [UInt8.toNat_ofNat', Nat.mod_eq_of_lt (by omega)]
    exact hd c hc

/-! ## The reader -/

/-- What is wrong with bytes that are not the digits of a key. -/
inductive Fault : List UInt8 → CipherError → Prop
  | odd {bytes : List UInt8} (h : bytes.length % 2 = 1) :
      Fault bytes (.invalidKey "Odd number of digits")
  | length {bytes : List UInt8} (heven : bytes.length % 2 = 0) (h : bytes.length ≠ 64) :
      Fault bytes (.invalidKey "Invalid string length")
  | digit {front back : List UInt8} {b : UInt8} (hlen : (front ++ b :: back).length = 64)
      (hfront : ∀ a ∈ front, IsDigit a.toNat) (hb : ¬ IsDigit b.toNat) :
      Fault (front ++ b :: back) (badDigit b front.length)

theorem digits_or_fault (bytes : List UInt8) :
    (bytes.length = 64 ∧ ∀ b ∈ bytes, IsDigit b.toNat) ∨ ∃ e, Fault bytes e := by
  by_cases hodd : bytes.length % 2 = 1
  · exact .inr ⟨_, .odd hodd⟩
  by_cases hlen : bytes.length = 64
  · cases hfind : bytes.find? (fun b => ¬ IsDigit b.toNat) with
    | none =>
      refine .inl ⟨hlen, fun b hb => ?_⟩
      simpa using List.find?_eq_none.mp hfind b hb
    | some b =>
      obtain ⟨hb, front, back, rfl, hfront⟩ := List.find?_eq_some_iff_append.mp hfind
      exact .inr ⟨_, .digit hlen (by simpa using hfront) (by simpa using hb)⟩
  · exact .inr ⟨_, .length (by omega) hlen⟩

theorem map_bytes_ofHex (text : String) : (ofHex text).map SessionKey.bytes =
    if (trimmedBytes text).length % 2 ≠ 0 then .error (.invalidKey "Odd number of digits")
    else if (trimmedBytes text).length ≠ 64 then .error (.invalidKey "Invalid string length")
    else readPairs 0 (trimmedBytes text) := by
  unfold ofHex
  dsimp only
  split
  · rfl
  · split
    · rfl
    · split <;> rename_i hread <;> exact hread.symm

theorem eq_ok_of_map_bytes (h : (ofHex text).map SessionKey.bytes = .ok k.bytes) :
    ofHex text = .ok k := by
  cases hread : ofHex text with
  | error e =>
    rw [hread] at h
    cases h
  | ok k' =>
    rw [hread] at h
    obtain ⟨bytes, hlen⟩ := k
    obtain ⟨bytes', hlen'⟩ := k'
    cases h
    rfl

theorem eq_error_of_map_bytes (h : (ofHex text).map SessionKey.bytes = .error e) :
    ofHex text = .error e := by
  cases hread : ofHex text with
  | error e' =>
    rw [hread] at h
    cases h
    rfl
  | ok k =>
    rw [hread] at h
    cases h

theorem ofHex_of_fault (h : Fault (trimmedBytes text) e) : ofHex text = .error e := by
  apply eq_error_of_map_bytes
  rw [map_bytes_ofHex]
  generalize trimmedBytes text = bytes at h
  cases h with
  | odd h => rw [if_pos (by omega)]
  | length heven h => rw [if_neg (by omega), if_pos h]
  | digit hlen hfront hb =>
    rw [if_neg (by omega), if_neg (by omega), readPairs_of_not_digit hfront hb (by omega),
      Nat.zero_add]

theorem ofHex_of_digits (hlen : (trimmedBytes text).length = 64)
    (hd : ∀ b ∈ trimmedBytes text, IsDigit b.toNat) :
    ∃ k, ofHex text = .ok k ∧ k.toHex = String.ofList ((trimmedBytes text).map lower) := by
  obtain ⟨bytes, hread, hwritten⟩ := readPairs_of_digits hd (by omega) 0
  have hbytes : bytes.length = 32 := by
    rw [length_readPairs hread]
    omega
  refine ⟨⟨bytes, hbytes⟩, eq_ok_of_map_bytes ?_, by rw [toHex, hwritten]⟩
  rw [map_bytes_ofHex, if_neg (by omega), if_neg (by omega)]
  exact hread

theorem exists_ofHex_iff : (∃ k, ofHex text = .ok k) ↔
    (trimmedBytes text).length = 64 ∧ ∀ b ∈ trimmedBytes text, IsDigit b.toNat := by
  constructor
  · rintro ⟨k, hk⟩
    refine (digits_or_fault _).resolve_right ?_
    rintro ⟨e, hfault⟩
    cases hk.symm.trans (ofHex_of_fault hfault)
  · rintro ⟨hlen, hd⟩
    obtain ⟨k, hk, -⟩ := ofHex_of_digits hlen hd
    exact ⟨k, hk⟩

theorem ofHex_eq_error_iff : ofHex text = .error e ↔ Fault (trimmedBytes text) e := by
  refine ⟨fun h => ?_, ofHex_of_fault⟩
  rcases digits_or_fault (trimmedBytes text) with ⟨hlen, hd⟩ | ⟨e', hfault⟩
  · obtain ⟨k, hk, -⟩ := ofHex_of_digits hlen hd
    cases h.symm.trans hk
  · cases h.symm.trans (ofHex_of_fault hfault)
    exact hfault

/-! ## The printer -/

theorem map_lower_of_digits (h : ∀ c ∈ core, IsDigit c.toNat) :
    (utf8 core).map lower = core.map Char.toLower := by
  rw [utf8_of_digits h, List.map_map]
  refine List.map_congr_left fun c hc => ?_
  have := (h c hc).lt
  rw [Function.comp_apply, lower, UInt8.toNat_ofNat', Nat.mod_eq_of_lt (by omega),
    Char.ofNat_toNat]

theorem isDigit_of_mem_hexPair (h : c ∈ bytes.flatMap hexPair) : IsDigit c.toNat := by
  obtain ⟨b, -, hc⟩ := List.mem_flatMap.mp h
  have hb := b.toNat_lt
  simp only [hexPair, List.mem_cons, List.not_mem_nil, or_false] at hc
  rcases hc with rfl | rfl <;> exact isDigit_hexDigit (by omega)

theorem isWhiteSpace_of_isHexDigit (h : IsDigit c.toNat) : isWhiteSpace c = false := by
  rw [isDigit_iff] at h
  exact isWhiteSpace_of_visible (by omega) (by omega)

theorem trimmed_toHex {u v : String} (hu : Blank u.toList) (hv : Blank v.toList)
    (k : SessionKey) : Trimmed (u ++ k.toHex ++ v).toList (k.bytes.flatMap hexPair) := by
  rw [String.toList_append, String.toList_append, toHex, String.toList_ofList]
  exact trimmed_of_forall hu hv fun _ hc => isWhiteSpace_of_isHexDigit (isDigit_of_mem_hexPair hc)

theorem length_flatMap_hexPair (bytes : List UInt8) :
    (bytes.flatMap hexPair).length = 2 * bytes.length := by
  induction bytes with
  | nil => rfl
  | cons b bytes ih =>
    rw [List.flatMap_cons, List.length_append, ih, List.length_cons]
    simp only [hexPair, List.length_cons, List.length_nil]
    omega

theorem ofHex_toHex {u v : String} (hu : Blank u.toList) (hv : Blank v.toList)
    (k : SessionKey) : ofHex (u ++ k.toHex ++ v) = .ok k := by
  have hd : ∀ c ∈ k.bytes.flatMap hexPair, IsDigit c.toNat := fun _ => isDigit_of_mem_hexPair
  have hlen := k.length_bytes
  apply eq_ok_of_map_bytes
  rw [map_bytes_ofHex, trimmedBytes_eq (trimmed_toHex hu hv k), utf8_of_digits hd,
    List.length_map, length_flatMap_hexPair, hlen, if_neg (by decide), if_neg (by decide),
    readPairs_flatMap_hexPair]

/-- A text is read as a key exactly if it has 64 hexadecimal digits in either case and nothing
else between the white space at its ends, and then the key is printed as these digits in lower
case. A printed key is read back from between any white space. What is wrong with another text
follows from the bytes of what is between the white space: first, that their number is odd, then,
that it is not 64, and last, the first byte that is no digit, with its place. -/
theorem ofHex_exact :
    (∀ text : String, ∃ core, Trimmed text.toList core) ∧
    (∀ (text : String) (core : List Char), Trimmed text.toList core →
      ((∃ k, ofHex text = .ok k) ↔ core.length = 64 ∧ ∀ c ∈ core, IsDigit c.toNat) ∧
      (∀ k, ofHex text = .ok k → k.toHex = String.ofList (core.map Char.toLower)) ∧
      ∀ e, ofHex text = .error e ↔ Fault (utf8 core) e) ∧
    ∀ (k : SessionKey) (u v : String), Blank u.toList → Blank v.toList →
      ofHex (u ++ k.toHex ++ v) = .ok k := by
  refine ⟨fun text => ⟨_, trimmed_trim _⟩, fun text core htrim => ?_,
    fun k u v hu hv => ofHex_toHex hu hv k⟩
  have hbytes := trimmedBytes_eq htrim
  have hread : (∃ k, ofHex text = .ok k) ↔ core.length = 64 ∧ ∀ c ∈ core, IsDigit c.toNat := by
    rw [exists_ofHex_iff, hbytes, utf8_digits_iff]
  refine ⟨hread, fun k hk => ?_, fun e => ?_⟩
  · obtain ⟨hlen, hd⟩ := exists_ofHex_iff.mp ⟨k, hk⟩
    obtain ⟨k', hk', hwritten⟩ := ofHex_of_digits hlen hd
    cases hk.symm.trans hk'
    rw [hwritten, hbytes, map_lower_of_digits (hread.mp ⟨k, hk⟩).2]
  · rw [ofHex_eq_error_iff, hbytes]

/-- Digits of both cases between white space; a letter of two bytes before 62 digits, which makes
64 bytes of which the first is no digit; and a printed key between white space. -/
theorem ofHex_exact_mixed :
    let digits (last : Char) : List Char := (List.replicate 16 ['0', '9', 'a', last]).flatten
    let k : SessionKey := ⟨List.replicate 32 171, by decide⟩
    (∃ mixed, ofHex (String.ofList ('\u3000' :: digits 'F' ++ ['\n'])) = .ok mixed ∧
      mixed.toHex = String.ofList (digits 'f')) ∧
    ofHex (String.ofList ('\u00e9' :: List.replicate 62 '0')) = .error (badDigit 195 0) ∧
    ofHex ("\t" ++ k.toHex ++ "\u00a0") = .ok k := by
  intro digits k
  obtain ⟨-, hread, hprinted⟩ := ofHex_exact
  refine ⟨?_, ?_, hprinted k "\t" "\u00a0" (by decide) (by decide)⟩
  · have hdigits : ∀ c ∈ digits 'F', IsDigit c.toNat := by
      intro c hc
      obtain ⟨block, hblock, hc⟩ := List.mem_flatten.mp hc
      rw [List.eq_of_mem_replicate hblock] at hc
      simp only [List.mem_cons, List.not_mem_nil, or_false] at hc
      rcases hc with rfl | rfl | rfl | rfl <;> decide
    have htrim : Trimmed (['\u3000'] ++ digits 'F' ++ ['\n']) (digits 'F') :=
      trimmed_of_forall (by decide) (by decide) fun c hc => isWhiteSpace_of_isHexDigit (hdigits c hc)
    obtain ⟨haccepted, hwritten, -⟩ := hread (String.ofList _) _ (by rwa [String.toList_ofList])
    obtain ⟨mixed, hmixed⟩ := haccepted.mpr ⟨by decide, hdigits⟩
    exact ⟨mixed, hmixed, hwritten mixed hmixed⟩
  · have hvisible : ∀ c ∈ '\u00e9' :: List.replicate 62 '0', isWhiteSpace c = false := by
      intro c hc
      rcases List.mem_cons.mp hc with rfl | hc
      · decide
      · rw [List.eq_of_mem_replicate hc]
        decide
    have htrim : Trimmed (String.ofList ('\u00e9' :: List.replicate 62 '0')).toList
        ('\u00e9' :: List.replicate 62 '0') := by
      have hbare := @trimmed_of_forall [] [] _ nofun nofun hvisible
      rw [List.nil_append, List.append_nil] at hbare
      rwa [String.toList_ofList]
    have hfault : Fault (195 :: 169 :: List.replicate 62 48) (badDigit 195 0) :=
      @Fault.digit [] (169 :: List.replicate 62 48) 195 (by decide) nofun (by decide)
    exact ((hread _ _ htrim).2.2 _).mpr hfault

end Courier.SessionKey
