import Courier.Cipher.Session
import Courier.Proofs.Frame.Checked

/-!
# Opening what was sealed

Sealed bytes are the nonce, the encrypted data and the tag, one behind the other,
and opening takes them apart in the same places. So what was sealed under a key is
opened under it, whatever the nonce was. Nothing else is: the tag is computed anew from
the nonce and the encrypted data, and decrypting these and encrypting again gives the
same data.
-/

namespace Courier

namespace Entropy

/-- Random bytes of which some are known in advance. -/
def foreseen (l : List UInt8) : Entropy := { byte := fun i => l.getD i 0 }

theorem draw_foreseen {l : List UInt8} {n : Nat} (h : l.length = n) :
    ((foreseen l).draw n).1 = l := by
  subst h
  apply List.ext_getElem (length_draw _ _)
  intro i _ hi
  simp [draw, foreseen, hi]

end Entropy

namespace Sealed

variable {key nonce body tag plain bytes : List UInt8}

theorem take_parts (hn : nonce.length = nonceSize) :
    (nonce ++ body ++ tag).take nonceSize = nonce := by
  rw [List.append_assoc, ← hn, List.take_left]

theorem decrypt_append (hn : nonce.length = nonceSize) (ht : tag.length = tagSize) :
    decrypt key (nonce ++ body ++ tag) =
      if maxBlocks ≤ body.length / 64 then .error .openFailed
      else if tag = tagOf key nonce body then .ok (crypt key nonce body)
      else .error .openFailed := by
  have hlen : (nonce ++ body ++ tag).length = overhead + body.length := by
    simp only [List.length_append, hn, ht, overhead]
    omega
  have hbody : ((nonce ++ body ++ tag).drop nonceSize).take
      ((nonce ++ body ++ tag).length - overhead) = body := by
    rw [hlen, Nat.add_sub_cancel_left, List.append_assoc, ← hn, List.drop_left, List.take_left]
  have htag : (nonce ++ body ++ tag).drop ((nonce ++ body ++ tag).length - tagSize) = tag := by
    rw [← ht, @List.length_append _ (nonce ++ body), Nat.add_sub_cancel, List.drop_left]
  unfold decrypt
  rw [if_neg (by omega), take_parts hn, hbody, htag]

theorem encrypt_eq_ok_iff : encrypt key nonce plain = .ok bytes ↔
    plain.length / 64 < maxBlocks ∧
      nonce ++ crypt key nonce plain ++ tagOf key nonce (crypt key nonce plain) = bytes := by
  unfold encrypt
  split
  · rename_i hlong
    exact iff_of_false nofun fun h => Nat.not_le_of_lt h.1 hlong
  · rename_i hblocks
    rw [Except.ok.injEq, and_iff_right (Nat.lt_of_not_le hblocks)]

theorem decrypt_encrypt (hn : nonce.length = nonceSize) (h : encrypt key nonce plain = .ok bytes) :
    decrypt key bytes = .ok plain := by
  obtain ⟨hblocks, rfl⟩ := encrypt_eq_ok_iff.mp h
  rw [decrypt_append hn (length_tagOf _ _ _), length_crypt, if_neg (Nat.not_le_of_lt hblocks),
    if_pos rfl, crypt_crypt]

theorem exists_parts (h : overhead ≤ bytes.length) : ∃ nonce body tag : List UInt8,
    nonce.length = nonceSize ∧ tag.length = tagSize ∧ bytes = nonce ++ body ++ tag := by
  have hover : overhead = nonceSize + tagSize := rfl
  refine ⟨bytes.take nonceSize, (bytes.drop nonceSize).take (bytes.length - overhead),
    bytes.drop (bytes.length - tagSize), ?_, ?_, ?_⟩
  · rw [List.length_take]
    omega
  · rw [List.length_drop]
    omega
  · have htag : bytes.drop (bytes.length - tagSize) =
        (bytes.drop nonceSize).drop (bytes.length - overhead) := by
      rw [List.drop_drop]
      congr 1
      omega
    rw [htag, List.append_assoc, List.take_append_drop, List.take_append_drop]

theorem overhead_le_of_decrypt (h : decrypt key bytes = .ok plain) : overhead ≤ bytes.length := by
  refine Nat.le_of_not_lt fun hshort => ?_
  rw [decrypt, if_pos hshort] at h
  cases h

/-- Bytes are opened to a text just if they are that text sealed with the nonce in front of
them. -/
theorem decrypt_eq_ok_iff :
    decrypt key bytes = .ok plain ↔ encrypt key (bytes.take nonceSize) plain = .ok bytes := by
  constructor
  · intro h
    obtain ⟨nonce, body, tag, hn, ht, rfl⟩ := exists_parts (overhead_le_of_decrypt h)
    rw [take_parts hn, encrypt_eq_ok_iff]
    rw [decrypt_append hn ht] at h
    split at h
    · cases h
    · rename_i hblocks
      split at h
      · rename_i htag
        cases h
        rw [length_crypt, crypt_crypt, htag]
        exact ⟨Nat.lt_of_not_le hblocks, rfl⟩
      · cases h
  · intro h
    -- sealing makes the bytes longer than their nonce, so all of the nonce is there
    have hn : (bytes.take nonceSize).length = nonceSize := by
      have hlen := congrArg List.length (encrypt_eq_ok_iff.mp h).2
      simp only [List.length_append, List.length_take, length_tagOf, tagSize] at hlen
      rw [List.length_take]
      omega
    exact decrypt_encrypt hn h

theorem eq_openFailed_of_decrypt {f : CipherError} (h : decrypt key bytes = .error f) :
    f = .openFailed := by
  unfold decrypt at h
  dsimp only at h
  split at h
  · cases h
    rfl
  · split at h
    · cases h
      rfl
    · split at h <;> cases h
      rfl

theorem decrypt_append_of_ne (hn : nonce.length = nonceSize) (ht : tag.length = tagSize)
    (h : tag ≠ tagOf key nonce body) : decrypt key (nonce ++ body ++ tag) = .error .openFailed := by
  rw [decrypt_append hn ht, if_neg h, ite_self]

theorem decrypt_append_tagOf (hn : nonce.length = nonceSize)
    (hblocks : body.length / 64 < maxBlocks) :
    decrypt key (nonce ++ body ++ tagOf key nonce body) = .ok (crypt key nonce body) := by
  rw [decrypt_append hn (length_tagOf _ _ _), if_neg (Nat.not_le_of_lt hblocks), if_pos rfl]

theorem take_of_encrypt (hn : nonce.length = nonceSize) (h : encrypt key nonce plain = .ok bytes) :
    bytes.take nonceSize = nonce := by
  obtain ⟨-, rfl⟩ := encrypt_eq_ok_iff.mp h
  exact take_parts hn

theorem map_length_encrypt (h : nonce.length = nonceSize) :
    (encrypt key nonce plain).map List.length =
      if maxBlocks ≤ plain.length / 64 then .error .sealFailed
      else .ok (plain.length + overhead) := by
  unfold encrypt
  split
  · rfl
  · simp only [Except.map, List.length_append, length_crypt, length_tagOf, h, overhead]
    congr 1
    omega

/-- `Sealed.decrypt` with every cut checked. -/
def decryptChecked (key bytes : List UInt8) : Option (Except CipherError (List UInt8)) :=
  if bytes.length < overhead then some (.error .openFailed)
  else do
    let (nonce, data) ← splitAt? bytes nonceSize
    let (body, tag) ← splitEnd? data tagSize
    if maxBlocks ≤ body.length / 64 then return .error .openFailed
    else if tag = tagOf key nonce body then return .ok (crypt key nonce body)
    else return .error .openFailed

theorem decryptChecked_eq (key bytes : List UInt8) :
    decryptChecked key bytes = some (decrypt key bytes) := by
  unfold decryptChecked decrypt
  by_cases h : bytes.length < overhead
  · rw [if_pos h, if_pos h]
  · have hover : overhead = nonceSize + tagSize := rfl
    have hlen : (bytes.drop nonceSize).length = bytes.length - nonceSize := List.length_drop
    have hbody : (bytes.drop nonceSize).length - tagSize = bytes.length - overhead := by omega
    have htag : nonceSize + (bytes.length - overhead) = bytes.length - tagSize := by omega
    rw [if_neg h, if_neg h, splitAt?_eq (by omega), Option.bind_eq_bind, Option.bind_some]
    dsimp only
    rw [splitEnd?_eq (by omega), Option.bind_some]
    dsimp only
    rw [hbody, List.drop_drop, htag]
    split
    · rfl
    · split <;> rfl

end Sealed

namespace SessionCipher

theorem map_packed_eq_ok_iff {r : Except CipherError (List UInt8)} {b : ByteArray} :
    r.map packed = .ok b ↔ r = .ok (octets b) := by
  cases r with
  | error f => exact iff_of_false nofun nofun
  | ok l =>
    constructor
    · rintro ⟨⟩
      rw [octets_packed]
    · rintro ⟨⟩
      exact congrArg Except.ok (packed_octets b)

variable {c d : SessionCipher} {plain bytes : ByteArray}

theorem encrypt_eq_ok_iff : (Cipher.encrypt c plain).1 = .ok bytes ↔
    Sealed.encrypt c.key.bytes (c.supply.draw Sealed.nonceSize).1 (octets plain) =
      .ok (octets bytes) :=
  map_packed_eq_ok_iff

theorem decrypt_eq_ok_iff : (Cipher.decrypt c bytes).1 = .ok plain ↔
    Sealed.decrypt c.key.bytes (octets bytes) = .ok (octets plain) :=
  map_packed_eq_ok_iff

theorem decrypt_eq_error_iff {f : CipherError} : (Cipher.decrypt c bytes).1 = .error f ↔
    Sealed.decrypt c.key.bytes (octets bytes) = .error f := by
  change (Sealed.decrypt c.key.bytes (octets bytes)).map packed = .error f ↔ _
  cases Sealed.decrypt c.key.bytes (octets bytes) with
  | error g =>
    constructor
    · rintro ⟨⟩
      rfl
    · rintro ⟨⟩
      rfl
  | ok l => exact iff_of_false nofun nofun

theorem decrypt_of_encrypt (hkey : d.key = c.key) (h : (Cipher.encrypt c plain).1 = .ok bytes) :
    (Cipher.decrypt d bytes).1 = .ok plain := by
  rw [decrypt_eq_ok_iff, hkey]
  exact Sealed.decrypt_encrypt (Entropy.length_draw _ _) (encrypt_eq_ok_iff.mp h)

theorem map_size_encrypt (c : SessionCipher) (x : ByteArray) :
    (Cipher.encrypt c x).1.map ByteArray.size =
      if Sealed.maxBlocks ≤ x.size / 64 then .error .sealFailed
      else .ok (x.size + Sealed.overhead) := by
  have hlen : (Sealed.encrypt c.key.bytes (c.supply.draw Sealed.nonceSize).1 (octets x)).map
      List.length = _ := Sealed.map_length_encrypt (Entropy.length_draw _ _)
  rw [length_octets] at hlen
  rw [← hlen]
  change ((Sealed.encrypt c.key.bytes (c.supply.draw Sealed.nonceSize).1 (octets x)).map
    packed).map ByteArray.size = _
  cases Sealed.encrypt c.key.bytes (c.supply.draw Sealed.nonceSize).1 (octets x) with
  | error f => rfl
  | ok bytes => exact congrArg Except.ok (size_packed bytes)

/-- A text can be sealed if it is not too long, and then it is longer by a fixed number of bytes. -/
theorem exists_encrypt_iff {n : Nat} :
    (∃ body, (Cipher.encrypt c plain).1 = .ok body ∧ body.size = n) ↔
      plain.size / 64 < Sealed.maxBlocks ∧ n = plain.size + Sealed.overhead := by
  have hmap := c.map_size_encrypt plain
  cases hsealed : (Cipher.encrypt c plain).1 with
  | error f =>
    rw [hsealed] at hmap
    split at hmap
    · rename_i hlong
      exact iff_of_false (by simp) (by omega)
    · cases hmap
  | ok body =>
    rw [hsealed] at hmap
    split at hmap
    · cases hmap
    · rename_i hblocks
      have hsize : body.size = plain.size + Sealed.overhead := Except.ok.inj hmap
      simp only [Except.ok.injEq, exists_eq_left', hsize]
      omega

def decryptChecked (c : SessionCipher) (bytes : ByteArray) :
    Option (Except CipherError ByteArray × SessionCipher) :=
  (Sealed.decryptChecked c.key.bytes (octets bytes)).map fun r => (r.map packed, c)

theorem decryptChecked_eq (c : SessionCipher) (bytes : ByteArray) :
    c.decryptChecked bytes = some (Cipher.decrypt c bytes) := by
  rw [decryptChecked, Sealed.decryptChecked_eq, Option.map_some]
  rfl

theorem decrypt_of_tag_ne {nonce body tag : List UInt8} (c : SessionCipher)
    (hn : nonce.length = Sealed.nonceSize) (ht : tag.length = Sealed.tagSize)
    (h : tag ≠ Sealed.tagOf c.key.bytes nonce body) :
    (Cipher.decrypt c (packed (nonce ++ body ++ tag))).1 = .error .openFailed := by
  change (Sealed.decrypt c.key.bytes (octets (packed (nonce ++ body ++ tag)))).map packed = _
  rw [octets_packed, Sealed.decrypt_append_of_ne hn ht h]
  rfl

/-- What is sealed is the nonce in front of forty bytes less than all, and any cipher with the key
opens it again. Conversely bytes are opened to a text just if they are long enough and a cipher
with the key that draws the nonce in front of them makes just these bytes of the text. So a
nonce and a body go with one tag, and with another they are refused; there is no other way
in which opening fails. -/
theorem opened_iff_sealed :
    (∀ (c : SessionCipher) plain, plain.size / 64 < Sealed.maxBlocks →
      ∃ bytes, (Cipher.encrypt c plain).1 = .ok bytes ∧ bytes.size = plain.size + 40 ∧
        (octets bytes).take 24 = (c.supply.draw 24).1 ∧
        ∀ d : SessionCipher, d.key = c.key → (Cipher.decrypt d bytes).1 = .ok plain) ∧
    (∀ (c : SessionCipher) bytes plain, (Cipher.decrypt c bytes).1 = .ok plain ↔
      40 ≤ bytes.size ∧ ∃ d : SessionCipher, d.key = c.key ∧
        (d.supply.draw 24).1 = (octets bytes).take 24 ∧ (Cipher.encrypt d plain).1 = .ok bytes) ∧
    (∀ (c : SessionCipher) (nonce body : List UInt8), nonce.length = 24 →
      body.length / 64 < Sealed.maxBlocks → ∃ tag : List UInt8, tag.length = 16 ∧
        (∃ plain, (Cipher.decrypt c (packed (nonce ++ body ++ tag))).1 = .ok plain) ∧
        ∀ tag' : List UInt8, tag'.length = 16 → tag' ≠ tag →
          (Cipher.decrypt c (packed (nonce ++ body ++ tag'))).1 = .error .openFailed) ∧
    ∀ (c : SessionCipher) bytes f, (Cipher.decrypt c bytes).1 = .error f → f = .openFailed := by
  refine ⟨fun c plain hblocks => ?_, fun c bytes plain => ⟨fun h => ?_, ?_⟩,
    fun c nonce body hn hblocks => ?_, fun c bytes f h => ?_⟩
  · obtain ⟨bytes, hsealed, hsize⟩ := exists_encrypt_iff.mpr ⟨hblocks, rfl⟩
    refine ⟨bytes, hsealed, hsize, ?_, fun d hkey => decrypt_of_encrypt hkey hsealed⟩
    exact Sealed.take_of_encrypt (Entropy.length_draw _ _) (encrypt_eq_ok_iff.mp hsealed)
  · have hopened := decrypt_eq_ok_iff.mp h
    have hlong : 40 ≤ bytes.size := Sealed.overhead_le_of_decrypt hopened
    have hdraw : ((Entropy.foreseen ((octets bytes).take 24)).draw 24).1 = (octets bytes).take 24 :=
      Entropy.draw_foreseen (List.length_take_of_le (Nat.le_trans (by decide) hlong))
    refine ⟨hlong, ⟨c.key, .foreseen ((octets bytes).take 24)⟩, rfl, hdraw, ?_⟩
    rw [encrypt_eq_ok_iff]
    exact hdraw.symm ▸ Sealed.decrypt_eq_ok_iff.mp hopened
  · rintro ⟨-, d, hkey, -, hsealed⟩
    exact decrypt_of_encrypt hkey.symm hsealed
  · refine ⟨Sealed.tagOf c.key.bytes nonce body, Sealed.length_tagOf _ _ _,
      ⟨packed (Sealed.crypt c.key.bytes nonce body), ?_⟩, fun tag ht => c.decrypt_of_tag_ne hn ht⟩
    rw [decrypt_eq_ok_iff, octets_packed, octets_packed, Sealed.decrypt_append_tagOf hn hblocks]
  · exact Sealed.eq_openFailed_of_decrypt (decrypt_eq_error_iff.mp h)

/-- A cipher with a key of ones that draws no nonce but zeros. -/
def steady : SessionCipher := ⟨⟨List.replicate 32 1, rfl⟩, .foreseen []⟩

/-- It seals and opens a text of more than one block, and with its nonce a body that ends inside
a block goes with one tag. -/
theorem opened_iff_sealed_steady :
    (∃ bytes, (Cipher.encrypt steady (packed (List.replicate 65 7))).1 = .ok bytes ∧
      bytes.size = 105 ∧
      (Cipher.decrypt steady bytes).1 = .ok (packed (List.replicate 65 7)) ∧
      ∃ d : SessionCipher, d.key = steady.key ∧ (d.supply.draw 24).1 = (octets bytes).take 24) ∧
    ∃ tag : List UInt8, tag.length = 16 ∧ ∀ tag' : List UInt8, tag'.length = 16 → tag' ≠ tag →
      (Cipher.decrypt steady
        (packed (List.replicate 24 0 ++ List.replicate 17 5 ++ tag'))).1 = .error .openFailed := by
  obtain ⟨hseals, hopens, htags, -⟩ := opened_iff_sealed
  obtain ⟨bytes, hsealed, hsize, -, hopened⟩ :=
    hseals steady (packed (List.replicate 65 7)) (by decide)
  obtain ⟨-, d, hkey, hdraw, -⟩ := (hopens steady bytes _).mp (hopened steady rfl)
  obtain ⟨tag, hlen, -, hothers⟩ :=
    htags steady (List.replicate 24 0) (List.replicate 17 5) (by decide) (by decide)
  exact ⟨⟨bytes, hsealed, hsize, hopened steady rfl, d, hkey, hdraw⟩, tag, hlen, hothers⟩

end SessionCipher
end Courier
