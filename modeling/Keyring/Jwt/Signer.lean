/-
# Signers

A signer holds a key pair that passed the self-test.  Its custom key id, if it has one, goes into
every header, and then the caller may not give another.
-/
import Keyring.Jwt.Algorithm
import Keyring.Jwt.Token
import Keyring.Rsa.Operations

namespace Keyring.Jwt

/-- What signs tokens. -/
structure Signer where
  algorithm : Algorithm
  customKid : Option String
  key : Rsa.KeyPair
deriving DecidableEq

namespace Signer

/-- The signature of a message. -/
def sign (s : Signer) (message : Bytes) : Except KeyError Bytes :=
  s.key.sign s.algorithm.hash message

/-- The key id for a header: the custom one, or else the caller's; not both. -/
def headerKid (s : Signer) (kid : Option String) : Except KeyError (Option String) :=
  match s.customKid, kid with
  | some _, some _ => refuse .callerKidBesideCustomKid privateKeyType
  | some custom, none => pure (some custom)
  | none, kid => pure kid

/-- A signed token, with the caller's key id if one is given. -/
def token (s : Signer) (jwt : RawJwt) (kid : Option String := none) : Except KeyError String := do
  let kid ← s.headerKid kid
  let unsigned ← unsignedCompact s.algorithm.name kid jwt
  let signature ← s.sign (Bytes.ofText unsigned)
  pure (signedCompact unsigned signature)

end Signer

end Keyring.Jwt
