import Courier.Bytes
import Courier.Cipher.Basic
import Courier.Text.Quoted
import Courier.Text.WhiteSpace

/-!
# Session keys

The two ends share a key of 32 bytes, which people hand on as 64 hexadecimal
digits. White space around the digits does not count. What is wrong with a text
is found in this order: an odd number of bytes, another number than 64, the
first byte that is no digit.
-/

namespace Courier

/-- Endless random bytes, and how many of them have been drawn. -/
structure Entropy where
  byte : Nat → UInt8
  drawn : Nat := 0

def Entropy.draw (e : Entropy) (n : Nat) : List UInt8 × Entropy :=
  ((List.range n).map fun i => e.byte (e.drawn + i), { e with drawn := e.drawn + n })

@[simp] theorem Entropy.length_draw (e : Entropy) (n : Nat) : (e.draw n).1.length = n := by
  simp [draw]

structure SessionKey where
  bytes : List UInt8
  length_bytes : bytes.length = 32
  deriving DecidableEq

namespace SessionKey

def size : Nat := 32

def generate (e : Entropy) : SessionKey × Entropy :=
  let drawn := e.draw size
  (⟨drawn.1, e.length_draw size⟩, drawn.2)

def hexValue? (b : UInt8) : Option Nat :=
  let n := b.toNat
  if 48 ≤ n ∧ n ≤ 57 then some (n - 48)
  else if 97 ≤ n ∧ n ≤ 102 then some (n - 87)
  else if 65 ≤ n ∧ n ≤ 70 then some (n - 55)
  else none

/-- A byte that is no hexadecimal digit, and where it stands. It is shown as the
character of that number. -/
def badDigit (b : UInt8) (position : Nat) : CipherError :=
  let shown := Text.quoted (Char.ofNat 39) (Char.ofNat b.toNat).toString
  .invalidKey s!"Invalid character {shown} at position {position}"

/-- Reads pairs of digits, the first at the given position. -/
def readPairs : (position : Nat) → List UInt8 → Except CipherError (List UInt8)
  | _, [] => .ok []
  | _, [_] => .ok []
  | position, high :: low :: rest =>
    match hexValue? high, hexValue? low with
    | none, _ => .error (badDigit high position)
    | _, none => .error (badDigit low (position + 1))
    | some h, some l =>
      match readPairs (position + 2) rest with
      | .ok bytes => .ok (UInt8.ofNat (h * 16 + l) :: bytes)
      | .error e => .error e

theorem length_readPairs {position : Nat} {digits bytes : List UInt8}
    (h : readPairs position digits = .ok bytes) : bytes.length = digits.length / 2 := by
  fun_induction readPairs position digits generalizing bytes with
  | case1 => cases h; rfl
  | case2 => cases h; simp
  | case3 => cases h
  | case4 => cases h
  | case5 position high low rest _ _ _ _ tail hrest ih =>
    cases h
    simp only [List.length_cons, ih hrest]
    omega
  | case6 => cases h

/-- The bytes of a text without the white space around it. -/
def trimmedBytes (text : String) : List UInt8 :=
  octets (String.ofList (Text.trim text.toList)).toUTF8

def ofHex (text : String) : Except CipherError SessionKey :=
  let digits := trimmedBytes text
  if digits.length % 2 ≠ 0 then .error (.invalidKey "Odd number of digits")
  else if hlen : digits.length ≠ 64 then .error (.invalidKey "Invalid string length")
  else
    match h : readPairs 0 digits with
    | .error e => .error e
    | .ok bytes => .ok ⟨bytes, by rw [length_readPairs h]; omega⟩

def hexPair (b : UInt8) : List Char :=
  [Text.hexDigit (b.toNat / 16), Text.hexDigit (b.toNat % 16)]

/-- Lower-case digits. -/
def toHex (k : SessionKey) : String := String.ofList (k.bytes.flatMap hexPair)

/-- Nothing of the key is shown. -/
def hidden : String := "SessionKey(..)"

end SessionKey
end Courier
