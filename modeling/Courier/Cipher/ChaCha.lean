import Courier.Bytes

/-!
# The ChaCha20 keystream

Sixteen 32-bit words are mixed in ten double rounds. A block of the keystream
is the mixed state added to the state before, in little-endian bytes; the
derivation of a key from a key and sixteen bytes keeps eight mixed words and
adds nothing. Data are encrypted by adding the keystream bit by bit, which done
twice changes nothing.
-/

namespace Courier.ChaCha

abbrev State := Vector UInt32 16

/-- A little-endian word of four bytes. -/
def wordOf (b₀ b₁ b₂ b₃ : UInt8) : UInt32 :=
  b₀.toUInt32 ||| b₁.toUInt32 <<< 8 ||| b₂.toUInt32 <<< 16 ||| b₃.toUInt32 <<< 24

def wordsOf : List UInt8 → List UInt32
  | b₀ :: b₁ :: b₂ :: b₃ :: rest => wordOf b₀ b₁ b₂ b₃ :: wordsOf rest
  | _ => []

def bytesOf (w : UInt32) : List UInt8 :=
  [w.toUInt8, (w >>> 8).toUInt8, (w >>> 16).toUInt8, (w >>> 24).toUInt8]

def rotate (w n : UInt32) : UInt32 := w <<< n ||| w >>> (32 - n)

def quarterRound (s : State) (i j k l : Fin 16) : State :=
  let a := s[i] + s[j]
  let d := rotate (s[l] ^^^ a) 16
  let c := s[k] + d
  let b := rotate (s[j] ^^^ c) 12
  let a := a + b
  let d := rotate (d ^^^ a) 8
  let c := c + d
  let b := rotate (b ^^^ c) 7
  (((s.set i a).set j b).set k c).set l d

/-- The columns of the four-by-four state, then its diagonals. -/
def doubleRound (s : State) : State :=
  let s := quarterRound s 0 4 8 12
  let s := quarterRound s 1 5 9 13
  let s := quarterRound s 2 6 10 14
  let s := quarterRound s 3 7 11 15
  let s := quarterRound s 0 5 10 15
  let s := quarterRound s 1 6 11 12
  let s := quarterRound s 2 7 8 13
  quarterRound s 3 4 9 14

def mix (s : State) : State := Nat.repeat doubleRound 10 s

def constants : List UInt32 := [0x61707865, 0x3320646e, 0x79622d32, 0x6b206574]

/-- The constants, eight words of key, and four words of counter and nonce. -/
def state (key : List UInt32) (tail : List UInt32) : State :=
  let words := constants ++ key ++ tail
  Vector.ofFn fun i => words.getD i.val 0

/-- One keystream block of 64 bytes. -/
def block (key : List UInt32) (counter : UInt32) (nonce : List UInt32) : List UInt8 :=
  let s := state key (counter :: nonce)
  let mixed := mix s
  (Vector.ofFn fun i : Fin 16 => mixed[i] + s[i]).toList.flatMap bytesOf

/-- The key that a key and sixteen bytes of nonce stand for. -/
def deriveKey (key nonce : List UInt32) : List UInt32 :=
  let mixed := (mix (state key nonce)).toList
  mixed.take 4 ++ mixed.drop 12

/-- Keystream blocks from a counter on, at least so many bytes. -/
def keystream (key nonce : List UInt32) (counter size : Nat) : List UInt8 :=
  (List.range ((size + 63) / 64)).flatMap fun i => block key (counter + i).toUInt32 nonce

/-- Data and keystream added bit by bit. -/
def apply (key nonce : List UInt32) (counter : Nat) (data : List UInt8) : List UInt8 :=
  List.zipWith (· ^^^ ·) data (keystream key nonce counter data.length)

@[simp] theorem length_block (key : List UInt32) (counter : UInt32) (nonce : List UInt32) :
    (block key counter nonce).length = 64 := by
  have h : ∀ l : List UInt32, (l.flatMap bytesOf).length = 4 * l.length := by
    intro l
    induction l with
    | nil => rfl
    | cons w l ih => simp [bytesOf, ih]; omega
  simp [block, h]

theorem length_keystream (key nonce : List UInt32) (counter size : Nat) :
    (keystream key nonce counter size).length = 64 * ((size + 63) / 64) := by
  simp [keystream, List.length_flatMap, List.map_const', Nat.mul_comm]

@[simp] theorem length_apply (key nonce : List UInt32) (counter : Nat) (data : List UInt8) :
    (apply key nonce counter data).length = data.length := by
  simp only [apply, List.length_zipWith, length_keystream]
  omega

theorem zipWith_xor_xor {data stream : List UInt8} (h : data.length ≤ stream.length) :
    List.zipWith (· ^^^ ·) (List.zipWith (· ^^^ ·) data stream) stream = data := by
  induction data generalizing stream with
  | nil => simp
  | cons a data ih =>
    cases stream with
    | nil => simp at h
    | cons b stream =>
      simp only [List.length_cons, Nat.add_le_add_iff_right] at h
      rw [List.zipWith_cons_cons, List.zipWith_cons_cons, ih h, UInt8.xor_assoc, UInt8.xor_self,
        UInt8.xor_zero]

/-- Encrypting twice under the same key, nonce and counter gives the data back. -/
theorem apply_apply (key nonce : List UInt32) (counter : Nat) (data : List UInt8) :
    apply key nonce counter (apply key nonce counter data) = data := by
  have h : data.length ≤ (keystream key nonce counter data.length).length := by
    rw [length_keystream]
    omega
  conv => lhs; rw [apply, length_apply]
  exact zipWith_xor_xor h

end Courier.ChaCha
