import Courier.Cipher.Key
import Courier.Cipher.Sealed

/-!
# The cipher of a session

Each record is sealed under the session key and a nonce of its own, drawn at
random, which travels in front of it; so both ends use one key and need not
agree on a count.
-/

namespace Courier

structure SessionCipher where
  key : SessionKey
  supply : Entropy

namespace SessionCipher

def encrypt (c : SessionCipher) (plain : ByteArray) :
    Except CipherError ByteArray × SessionCipher :=
  let (nonce, supply) := c.supply.draw Sealed.nonceSize
  ((Sealed.encrypt c.key.bytes nonce (octets plain)).map packed, { c with supply })

def decrypt (c : SessionCipher) (bytes : ByteArray) :
    Except CipherError ByteArray × SessionCipher :=
  ((Sealed.decrypt c.key.bytes (octets bytes)).map packed, c)

instance : Cipher SessionCipher := ⟨encrypt, decrypt⟩

/-- Nothing of the cipher is shown. -/
def hidden : String := "SessionCipher \x7b .. \x7d"

end SessionCipher
end Courier
