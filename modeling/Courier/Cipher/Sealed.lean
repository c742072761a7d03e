import Courier.Cipher.Basic
import Courier.Cipher.ChaCha
import Courier.Cipher.Poly1305

/-!
# Authenticated encryption with a long nonce

XChaCha20-Poly1305 without associated data. The first sixteen bytes of the
nonce go into the key, the last eight into the keystream; the first keystream
block is the key of the tag, and the data are encrypted from the second on. The
tag covers the encrypted data, filled up to whole blocks, and their length, so
it is checked before anything is decrypted.
-/

namespace Courier.Sealed

def nonceSize : Nat := 24

def tagSize : Nat := 16

/-- Bytes by which a sealed text is longer than its plain text. -/
def overhead : Nat := nonceSize + tagSize

/-- The keystream of one key and nonce has fewer blocks than this. -/
def maxBlocks : Nat := 4294967295

/-- The words of key and nonce from which the keystream is made. -/
def schedule (key nonce : List UInt8) : List UInt32 × List UInt32 :=
  (ChaCha.deriveKey (ChaCha.wordsOf key) (ChaCha.wordsOf (nonce.take 16)),
    0 :: ChaCha.wordsOf (nonce.drop 16))

/-- What the tag of a sealed body covers. -/
def tagged (body : List UInt8) : List UInt8 :=
  body ++ List.replicate ((16 - body.length % 16) % 16) 0 ++
    Poly1305.littleEndian 8 0 ++ Poly1305.littleEndian 8 body.length

/-- The one tag that goes with a body. -/
def tagOf (key nonce body : List UInt8) : List UInt8 :=
  let (key, nonce) := schedule key nonce
  Poly1305.tag ((ChaCha.block key 0 nonce).take 32) (tagged body)

/-- Encrypts, or decrypts what was encrypted. -/
def crypt (key nonce data : List UInt8) : List UInt8 :=
  let (key, nonce) := schedule key nonce
  ChaCha.apply key nonce 1 data

/-- The nonce, the encrypted data and their tag. -/
def encrypt (key nonce plain : List UInt8) : Except CipherError (List UInt8) :=
  if maxBlocks ≤ plain.length / 64 then .error .sealFailed
  else
    let body := crypt key nonce plain
    .ok (nonce ++ body ++ tagOf key nonce body)

def decrypt (key bytes : List UInt8) : Except CipherError (List UInt8) :=
  if bytes.length < overhead then .error .openFailed
  else
    let nonce := bytes.take nonceSize
    let body := (bytes.drop nonceSize).take (bytes.length - overhead)
    let tag := bytes.drop (bytes.length - tagSize)
    if maxBlocks ≤ body.length / 64 then .error .openFailed
    else if tag = tagOf key nonce body then .ok (crypt key nonce body)
    else .error .openFailed

@[simp] theorem length_crypt (key nonce data : List UInt8) :
    (crypt key nonce data).length = data.length := by
  simp [crypt]

@[simp] theorem length_tagOf (key nonce body : List UInt8) :
    (tagOf key nonce body).length = tagSize := by
  simp [tagOf, tagSize]

theorem crypt_crypt (key nonce data : List UInt8) :
    crypt key nonce (crypt key nonce data) = data := by
  simp [crypt, ChaCha.apply_apply]

end Courier.Sealed
