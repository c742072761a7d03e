import Courier.Bytes
import Courier.Role

/-!
# Records

What is sealed inside a frame: which way the record travels, the sender's
stamp, an echo of the peer's stamp, and the payload. The stamp of all ones
stands for "no echo" on the wire, so a record that echoes it reads back as one
that echoes nothing.
-/

namespace Courier

/-- The stamp that means "no echo". -/
def noEcho : UInt16 := 65535

inductive RecordError
  | tooShort (expected actual : Nat)
  | invalidDirection (marker : UInt8)
  deriving DecidableEq, Repr

/-- Two lower-case hexadecimal digits. -/
def hexByte (b : UInt8) : String :=
  String.ofList [("0123456789abcdef".toList).getD (b.toNat / 16) '0',
    ("0123456789abcdef".toList).getD (b.toNat % 16) '0']

def RecordError.message : RecordError → String
  | .tooShort expected actual =>
    s!"record too short: expected at least {expected} bytes, got {actual}"
  | .invalidDirection marker => s!"invalid direction marker: 0x{hexByte marker}"

structure Record where
  direction : Direction
  stamp : UInt16
  echo : Option UInt16
  payload : ByteArray

namespace Record

theorem eq_iff (r r' : Record) : r = r' ↔ r.direction = r'.direction ∧ r.stamp = r'.stamp ∧
    r.echo = r'.echo ∧ octets r.payload = octets r'.payload := by
  cases r
  cases r'
  rw [octets_inj, Record.mk.injEq]

instance : DecidableEq Record := fun r r' => decidable_of_iff _ (r.eq_iff r').symm

/-- Bytes in front of the payload. -/
def headerSize : Nat := 5

def header (r : Record) : List UInt8 :=
  r.direction.marker :: (bigEndian 2 r.stamp.toNat ++ bigEndian 2 (r.echo.getD noEcho).toNat)

def encode (r : Record) : ByteArray := packed r.header ++ r.payload

/-- The length is checked before the direction. -/
def decode (b : ByteArray) : Except RecordError Record :=
  match octets (b.extract 0 headerSize) with
  | [marker, s₁, s₀, e₁, e₀] =>
    match Direction.ofMarker? marker with
    | none => .error (.invalidDirection marker)
    | some direction =>
      let echo := UInt16.ofNat (ofBigEndian [e₁, e₀])
      .ok { direction
            stamp := UInt16.ofNat (ofBigEndian [s₁, s₀])
            echo := if echo = noEcho then none else some echo
            payload := b.extract headerSize b.size }
  | _ => .error (.tooShort headerSize b.size)

@[simp] theorem length_header (r : Record) : r.header.length = headerSize := by
  simp [header, headerSize]

@[simp] theorem size_encode (r : Record) : r.encode.size = headerSize + r.payload.size := by
  simp [encode]

end Record
end Courier
