import Courier.Cipher.Session

/-!
# Ciphers for simulations

Besides the cipher of a session: one that changes nothing and fails when told
to, and one that adds a single byte to every byte and appends it as a tag.
-/

namespace Courier.Simulation

inductive SampleCipher
  | plain (encryptError decryptError : Option CipherError)
  | masked (key : UInt8)
  | session (c : SessionCipher)

namespace SampleCipher

def encrypt (c : SampleCipher) (b : ByteArray) : Except CipherError ByteArray × SampleCipher :=
  match c with
  | plain (some e) _ => (.error e, c)
  | plain none _ => (.ok b, c)
  | masked key => (.ok (packed ((octets b).map (· ^^^ key) ++ [key])), c)
  | session s =>
    let (r, s) := s.encrypt b
    (r, session s)

def decrypt (c : SampleCipher) (b : ByteArray) : Except CipherError ByteArray × SampleCipher :=
  match c with
  | plain _ (some e) => (.error e, c)
  | plain _ none => (.ok b, c)
  | masked key =>
    let l := octets b
    if l.getLast? = some key then (.ok (packed (l.dropLast.map (· ^^^ key))), c)
    else (.error .openFailed, c)
  | session s =>
    let (r, s) := s.decrypt b
    (r, session s)

instance : Cipher SampleCipher := ⟨encrypt, decrypt⟩

end SampleCipher
end Courier.Simulation
