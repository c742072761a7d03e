import Courier.Proofs.Bytes
import Courier.Proofs.Frame.Checked
import Courier.Record

/-!
# Records and their bytes

What is written is read back, except that an echo of the stamp which stands for
"no echo" is read as none. The header is taken off only when it is there.
-/

namespace Courier

theorem Role.ofMarker?_eq (r : Role) (m : UInt8) : Direction.ofMarker? m =
    if m = r.incoming.marker then some r.incoming
    else if m = r.outgoing.marker then some r.outgoing else none := by
  cases r with
  | server => rfl
  | client =>
    change (if m = 0 then _ else if m = 1 then _ else none) =
      if m = 1 then _ else if m = 0 then _ else none
    by_cases h0 : m = 0
    · subst h0
      rfl
    · simp [h0]
      rfl

theorem Direction.ofMarker?_eq_none_iff {m : UInt8} : ofMarker? m = none ↔ m ≠ 0 ∧ m ≠ 1 := by
  unfold ofMarker?
  split_ifs with h0 h1 <;> simp_all

namespace Record

theorem eq_five_of_length {l : List UInt8} (h : l.length = headerSize) :
    ∃ m s₁ s₀ e₁ e₀, l = [m, s₁, s₀, e₁, e₀] := by
  match l, h with
  | [m, s₁, s₀, e₁, e₀], _ => exact ⟨m, s₁, s₀, e₁, e₀, rfl⟩

theorem decode_of_header {b : ByteArray} {m s₁ s₀ e₁ e₀ : UInt8}
    (h : (octets b).take headerSize = [m, s₁, s₀, e₁, e₀]) :
    decode b =
      match Direction.ofMarker? m with
      | none => .error (.invalidDirection m)
      | some direction =>
        .ok { direction
              stamp := UInt16.ofNat (ofBigEndian [s₁, s₀])
              echo := (some (UInt16.ofNat (ofBigEndian [e₁, e₀]))).filter (· != noEcho)
              payload := b.extract headerSize b.size } := by
  have hhead : octets (b.extract 0 headerSize) = [m, s₁, s₀, e₁, e₀] := by
    rw [octets_extract, List.drop_zero, h]
  unfold decode
  rw [hhead]
  dsimp only
  cases Direction.ofMarker? m with
  | none => rfl
  | some direction =>
    dsimp only
    rw [Option.filter_some]
    by_cases he : UInt16.ofNat (ofBigEndian [e₁, e₀]) = noEcho
    · simp [he]
    · simp [he]

theorem decode_of_octets {b : ByteArray} {m s₁ s₀ e₁ e₀ : UInt8} {rest : List UInt8}
    (h : octets b = m :: s₁ :: s₀ :: e₁ :: e₀ :: rest) : decode b =
      match Direction.ofMarker? m with
      | none => .error (.invalidDirection m)
      | some direction =>
        .ok { direction
              stamp := UInt16.ofNat (ofBigEndian [s₁, s₀])
              echo := (some (UInt16.ofNat (ofBigEndian [e₁, e₀]))).filter (· != noEcho)
              payload := packed rest } := by
  have hrest : b.extract headerSize b.size = packed rest := by
    rw [← octets_inj, octets_extract, List.take_of_length_le (Nat.le_of_eq (length_octets b)), h,
      octets_packed]
    rfl
  have hfive : (octets b).take headerSize = [m, s₁, s₀, e₁, e₀] := by
    rw [h]
    rfl
  have hdecode := decode_of_header hfive
  rw [hrest] at hdecode
  exact hdecode

theorem exists_header {plain : ByteArray} (h : Record.headerSize ≤ plain.size) :
    ∃ m s₁ s₀ e₁ e₀ rest, octets plain = m :: s₁ :: s₀ :: e₁ :: e₀ :: rest := by
  obtain ⟨m, s₁, s₀, e₁, e₀, hfive⟩ := Record.eq_five_of_length
    (List.length_take_of_le (l := octets plain) h)
  refine ⟨m, s₁, s₀, e₁, e₀, (octets plain).drop Record.headerSize, ?_⟩
  have hcut := List.take_append_drop Record.headerSize (octets plain)
  rw [hfive] at hcut
  exact hcut.symm

theorem decode_of_short {b : ByteArray} (h : b.size < headerSize) :
    decode b = .error (.tooShort headerSize b.size) := by
  unfold decode
  split
  · rename_i heq
    have hlen := congrArg List.length heq
    simp only [length_octets, ByteArray.size_extract, List.length_cons, List.length_nil] at hlen
    simp only [headerSize] at h hlen
    omega
  · rfl

theorem bigEndian_two (n : Nat) :
    bigEndian 2 n = [UInt8.ofNat (n / 256 % 256), UInt8.ofNat (n % 256)] := rfl

theorem ofBigEndian_two (n : UInt16) :
    UInt16.ofNat (ofBigEndian [UInt8.ofNat (n.toNat / 256 % 256), UInt8.ofNat (n.toNat % 256)]) =
      n := by
  rw [← bigEndian_two, ofBigEndian_bigEndian n.toNat_lt, UInt16.ofNat_toNat]

theorem decode_encode (r : Record) :
    decode r.encode = .ok { r with echo := r.echo.filter (· != noEcho) } := by
  have htake : (octets r.encode).take headerSize = r.header := by
    rw [encode, octets_append, octets_packed, ← length_header r, List.take_left]
  have hpayload : r.encode.extract headerSize r.encode.size = r.payload := by
    rw [← octets_inj, octets_extract, List.take_of_length_le (Nat.le_of_eq (length_octets _)),
      encode, octets_append, octets_packed, ← length_header r, List.drop_left]
  simp only [header, bigEndian_two, List.cons_append, List.nil_append] at htake
  rw [decode_of_header htake, Direction.ofMarker?_marker]
  dsimp only
  rw [ofBigEndian_two, ofBigEndian_two, hpayload]
  cases r.echo with
  | none => rfl
  | some echo => rfl

/-! ## Both ways -/

/-- A record as it is read from its bytes. -/
def readBack (r : Record) : Record := { r with echo := r.echo.filter (· != noEcho) }

theorem filter_ne_noEcho_eq_self {x : Option UInt16} (h : x ≠ some noEcho) :
    x.filter (· != noEcho) = x := by
  cases x with
  | none => rfl
  | some echo => simpa using h

theorem getD_filter_ne_noEcho (x : Option UInt16) :
    (x.filter (· != noEcho)).getD noEcho = x.getD noEcho := by
  by_cases h : x = some noEcho
  · subst h
    rfl
  · rw [filter_ne_noEcho_eq_self h]

theorem encode_readBack (r : Record) : r.readBack.encode = r.encode := by
  simp only [encode, header, readBack, getD_filter_ne_noEcho]

theorem bigEndian_ofBigEndian_two (b₁ b₀ : UInt8) :
    bigEndian 2 (UInt16.ofNat (ofBigEndian [b₁, b₀])).toNat = [b₁, b₀] := by
  have hlt : ofBigEndian [b₁, b₀] < 2 ^ 16 := by simpa using ofBigEndian_lt [b₁, b₀]
  rw [UInt16.toNat_ofNat', Nat.mod_eq_of_lt hlt]
  exact bigEndian_ofBigEndian [b₁, b₀]

/-- Bytes are read as a record just if the record is written as these bytes and does not echo
what stands for no echo. -/
theorem decode_eq_ok_iff {b : ByteArray} {r : Record} :
    decode b = .ok r ↔ r.encode = b ∧ r.echo ≠ some noEcho := by
  constructor
  · intro h
    by_cases hshort : b.size < headerSize
    · rw [decode_of_short hshort] at h
      cases h
    · obtain ⟨m, s₁, s₀, e₁, e₀, rest, hoct⟩ := exists_header (Nat.le_of_not_lt hshort)
      rw [decode_of_octets hoct] at h
      cases hm : Direction.ofMarker? m with
      | none =>
        rw [hm] at h
        cases h
      | some direction =>
        rw [hm] at h
        cases h
        refine ⟨?_, by simp [Option.filter_eq_some_iff]⟩
        rw [← octets_inj, hoct, encode, octets_append, octets_packed, octets_packed, header,
          getD_filter_ne_noEcho, Option.getD_some, bigEndian_ofBigEndian_two,
          bigEndian_ofBigEndian_two, ← Direction.ofMarker?_eq_some_iff.mp hm]
        rfl
  · rintro ⟨rfl, hecho⟩
    rw [decode_encode, filter_ne_noEcho_eq_self hecho]

theorem encode_eq_encode_iff {r r' : Record} : r.encode = r'.encode ↔ r.readBack = r'.readBack := by
  constructor
  · intro h
    have hread := decode_encode r
    rw [h, decode_encode] at hread
    exact (Except.ok.inj hread).symm
  · intro h
    rw [← encode_readBack, h, encode_readBack]

/-- How bytes are refused, or not: first they are counted, then the first of them is looked at. -/
theorem decode_refusals (b : ByteArray) :
    ((∃ r, decode b = .ok r) ↔ headerSize ≤ b.size ∧
      ((octets b).head? = some 0 ∨ (octets b).head? = some 1)) ∧
    (∀ n k, decode b = .error (.tooShort n k) ↔
      b.size < headerSize ∧ n = headerSize ∧ k = b.size) ∧
    ∀ m, decode b = .error (.invalidDirection m) ↔
      headerSize ≤ b.size ∧ (octets b).head? = some m ∧ m ≠ 0 ∧ m ≠ 1 := by
  by_cases hshort : b.size < headerSize
  · rw [decode_of_short hshort]
    simp only [reduceCtorEq, exists_false, Except.error.injEq, RecordError.tooShort.injEq, hshort,
      Nat.not_le.mpr hshort, true_and, false_and, implies_true, and_true]
    intro n k
    omega
  · have hlong := Nat.le_of_not_lt hshort
    obtain ⟨m, s₁, s₀, e₁, e₀, rest, hoct⟩ := exists_header hlong
    rw [decode_of_octets hoct, hoct]
    simp only [List.head?_cons, Option.some.injEq, hlong, hshort, true_and, false_and, iff_false]
    cases hm : Direction.ofMarker? m with
    | none =>
      obtain ⟨h0, h1⟩ := Direction.ofMarker?_eq_none_iff.mp hm
      refine ⟨iff_of_false nofun (not_or.mpr ⟨h0, h1⟩), fun n k => nofun, fun m' => ?_⟩
      constructor
      · rintro ⟨⟩
        exact ⟨rfl, h0, h1⟩
      · rintro ⟨rfl, -, -⟩
        rfl
    | some direction =>
      have hknown : m = 0 ∨ m = 1 := by
        by_contra hneither
        rw [Direction.ofMarker?_eq_none_iff.mpr (not_or.mp hneither)] at hm
        cases hm
      refine ⟨iff_of_true ⟨_, rfl⟩ hknown, fun n k => nofun, fun m' => iff_of_false nofun ?_⟩
      rintro ⟨rfl, h0, h1⟩
      exact hknown.elim h0 h1

/-- `Record.decode` with every cut checked. -/
def decodeChecked (b : ByteArray) : Option (Except RecordError Record) :=
  if b.size < headerSize then some (.error (.tooShort headerSize b.size))
  else do
    let (front, payload) ← splitAt? (octets b) headerSize
    let marker ← front[0]?
    let s₁ ← front[1]?
    let s₀ ← front[2]?
    let e₁ ← front[3]?
    let e₀ ← front[4]?
    match Direction.ofMarker? marker with
    | none => return .error (.invalidDirection marker)
    | some direction =>
      return .ok { direction
                   stamp := UInt16.ofNat (ofBigEndian [s₁, s₀])
                   echo := (some (UInt16.ofNat (ofBigEndian [e₁, e₀]))).filter (· != noEcho)
                   payload := packed payload }

theorem decodeChecked_eq (b : ByteArray) : decodeChecked b = some (decode b) := by
  unfold decodeChecked
  by_cases h : b.size < headerSize
  · rw [if_pos h, decode_of_short h]
  · have hle : headerSize ≤ (octets b).length := Nat.le_of_not_lt h
    obtain ⟨m, s₁, s₀, e₁, e₀, hfive⟩ :=
      eq_five_of_length (List.length_take_of_le hle)
    have hrest : packed ((octets b).drop headerSize) = b.extract headerSize b.size := by
      rw [← octets_inj, octets_packed, octets_extract,
        List.take_of_length_le (Nat.le_of_eq (length_octets b))]
    rw [if_neg h, splitAt?_eq hle, decode_of_header hfive, hfive]
    cases hm : Direction.ofMarker? m with
    | none => simp [hm]
    | some direction => simp [hm, hrest]

end Record
end Courier
