/-!
# Byte strings

Bytes that travel are kept in packed arrays. Statements about them are made on
the list of their octets, which determines the array, and big-endian numbers
are written and read digit by digit in base 256.
-/

namespace Courier

/-- The bytes of a packed array, in order. -/
def octets (b : ByteArray) : List UInt8 := b.data.toList

/-- The packed array of a list of bytes. -/
def packed (l : List UInt8) : ByteArray := ⟨l.toArray⟩

@[simp] theorem octets_packed (l : List UInt8) : octets (packed l) = l := by
  simp [octets, packed]

@[simp] theorem packed_octets (b : ByteArray) : packed (octets b) = b := by
  simp [octets, packed]

theorem octets_inj {a b : ByteArray} : octets a = octets b ↔ a = b := by
  refine ⟨fun h => ?_, fun h => h ▸ rfl⟩
  rw [← packed_octets a, h, packed_octets]

theorem map_octets_inj {bs cs : List ByteArray} : bs.map octets = cs.map octets ↔ bs = cs :=
  List.map_inj_right fun _ _ => octets_inj.mp

@[simp] theorem octets_append (a b : ByteArray) : octets (a ++ b) = octets a ++ octets b := by
  simp [octets]

@[simp] theorem octets_empty : octets ByteArray.empty = [] := rfl

@[simp] theorem length_octets (b : ByteArray) : (octets b).length = b.size := rfl

@[simp] theorem size_packed (l : List UInt8) : (packed l).size = l.length := by
  rw [← length_octets, octets_packed]

@[simp] theorem octets_extract (b : ByteArray) (i j : Nat) :
    octets (b.extract i j) = ((octets b).take j).drop i := by
  simp [octets, List.extract_eq_take_drop, List.drop_take]

/-- A number in base 256, most significant byte first, in so many bytes; what
does not fit is cut off at the front. -/
def bigEndian : (width : Nat) → Nat → List UInt8
  | 0, _ => []
  | width + 1, n => bigEndian width (n / 256) ++ [UInt8.ofNat (n % 256)]

/-- The number that bytes in base 256 stand for. -/
def ofBigEndian (l : List UInt8) : Nat := l.foldl (fun n b => n * 256 + b.toNat) 0

@[simp] theorem length_bigEndian (width n : Nat) : (bigEndian width n).length = width := by
  induction width generalizing n with
  | zero => rfl
  | succ width ih => simp [bigEndian, ih]

theorem ofBigEndian_concat (l : List UInt8) (b : UInt8) :
    ofBigEndian (l ++ [b]) = ofBigEndian l * 256 + b.toNat := by
  simp [ofBigEndian]

end Courier
