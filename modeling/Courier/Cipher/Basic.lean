/-!
# Ciphers

A cipher seals and opens whole records. It may change as it is used, for
instance because it draws a nonce for each record that it seals.
-/

namespace Courier

inductive CipherError
  | sealFailed
  /-- The tag is wrong, or the bytes were changed on their way. -/
  | openFailed
  | invalidKey (reason : String)
  deriving DecidableEq, Repr

def CipherError.message : CipherError → String
  | .sealFailed => "AEAD encryption failed"
  | .openFailed => "AEAD decryption failed (invalid tag or corrupted)"
  | .invalidKey reason => s!"invalid key: {reason}"

class Cipher (κ : Type) where
  encrypt : κ → ByteArray → Except CipherError ByteArray × κ
  decrypt : κ → ByteArray → Except CipherError ByteArray × κ

end Courier
