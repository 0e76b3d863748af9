/-
# Operations of the crypto module

Using keys with the errors of this library: a new key pair is what the generator makes, a key pair
is accepted only if its parts belong together, a public key only within its bounds, and a signature
fails only if the modulus is too short for the hash.  A key pair that is accepted still has to pass
the self-test: it signs a fixed probe, and the signature must verify under the public key that is
stored beside it.
-/
import Keyring.Error
import Keyring.Number.Double
import Keyring.Rsa.Signature

namespace Keyring.Rsa

/-- Accepts a key pair whose parts belong together. -/
def CryptoModule.acceptKeyPair (m : CryptoModule) (k : KeyPair) : Except KeyError KeyPair :=
  if k.Consistent m.isPrime then pure k else refuse .inconsistentComponents

/-- Accepts a public key within its bounds. -/
def PublicKey.accept (k : PublicKey) : Except KeyError PublicKey :=
  if k.Usable then pure k else refuse .unusablePublicKey

/-- The failure when the generator refuses.  The message writes out the size and the exponent, which
itself fails for numbers with too many digits. -/
def refusal (modulusBits exponent : Int) : Failure :=
  if Number.IsShort modulusBits ∧ Number.IsShort exponent then
    .key ⟨.generationRefused modulusBits exponent, none⟩
  else .range

/-- A new key pair of a size for a public exponent.  Only refusals become errors of the family. -/
def CryptoModule.newKeyPair (m : CryptoModule) (modulusBits exponent : Int) :
    Except Failure KeyPair :=
  match m.generate modulusBits exponent with
  | .ok pair => pure pair
  | .error .refused => throw (refusal modulusBits exponent)
  | .error .broken => throw .foreign

/-- The signature of a message. -/
def KeyPair.sign (k : KeyPair) (hash : Hash.Algorithm) (message : Bytes) : Except KeyError Bytes :=
  (k.sign? hash message).elim (refuse .signingFailed) pure

/-- The message that the self-test signs. -/
def probe : Bytes :=
  Bytes.ofText "keycore rsa self-test probe"

/-- The key pair signs the probe, and the signature verifies under the public key. -/
def selfTest (k : KeyPair) (pub : PublicKey) (hash : Hash.Algorithm) : Except KeyError Unit :=
  match k.sign? hash probe with
  | none => refuse .probeNotSigned
  | some signature =>
    if pub.verify hash probe signature then pure () else refuse (.probeNotVerified hash.name)

end Keyring.Rsa
