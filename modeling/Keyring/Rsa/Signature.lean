/-
# Signatures with a fixed padding

A message is signed by its hash value: behind a label that names the hash, and with padding in
front, it fills a block as long as the modulus, and the block is raised to the private exponent.
A block begins with the bytes 0 and 1, then at least eight bytes 255, then a byte 0.

Verifying computes the block back from the signature and compares every byte.
-/
import Keyring.Bytes
import Keyring.Hash.Algorithm
import Keyring.Rsa.Key

namespace Keyring.Rsa

open Keyring (Bytes)

/-- The block of `width` bytes for a message; none if the width leaves too little padding. -/
def block? (hash : Hash.Algorithm) (width : Nat) (message : Bytes) : Option Bytes :=
  let labelled := hash.label ++ hash.digest message
  if width < hash.size + 19 + 11 then none
  else some (0 :: 1 :: List.replicate (width - (hash.size + 19) - 3) 255 ++ 0 :: labelled)

/-- The signature of a message; none if the modulus is too short for the hash. -/
def KeyPair.sign? (k : KeyPair) (hash : Hash.Algorithm) (message : Bytes) : Option Bytes :=
  let width := byteLength k.pub.n
  (block? hash width message).map fun block =>
    Bytes.ofNatPadded width (powMod block.toNat k.priv.d k.pub.n)

/-- Whether a signature belongs to a message.  Its length is that of the modulus, which is odd, and
its value is below the modulus. -/
def PublicKey.verify (k : PublicKey) (hash : Hash.Algorithm) (message signature : Bytes) : Bool :=
  let width := byteLength k.n
  k.n % 2 == 1 && signature.length == width && signature.toNat < k.n
    && block? hash width message
      == some (Bytes.ofNatPadded width (powMod signature.toNat k.e k.n))

end Keyring.Rsa
