/-
# Tokens

A token is three parts with a dot between them, each in URL-safe base64: a header, the claims, and
the signature over the first two parts.  Header and claims are canonical JSON.
-/
import Keyring.Error
import Keyring.Json.Encode
import Keyring.Text.Base64Url

namespace Keyring.Jwt

/-- What is to be signed: claims, and perhaps a type for the header. -/
structure RawJwt where
  claims : Value := .dict []
  typeHeader : Option String := none

namespace RawJwt

/-- The claims as canonical JSON. -/
def payload (jwt : RawJwt) : Except KeyError String :=
  (jwt.claims.members?.bind fun ms => Json.canonicalText? (.dict ms)).elim
    (refuse .claimsNotWritable) pure

end RawJwt

/-- The fields of a header, in the order in which they are put. -/
def header (algorithm : String) (typeHeader kid : Option String) : Fields :=
  ("alg", .text algorithm)
    :: (typeHeader.toList.map fun t => ("typ", .text t))
    ++ (kid.toList.map fun k => ("kid", .text k))

/-- A header as canonical JSON; its fields are text, so JSON can hold it. -/
def headerText (fields : Fields) : String :=
  (Json.canonicalText? (.dict fields.toMembers)).getD ""

/-- The first two parts of a token. -/
def unsignedCompact (algorithm : String) (kid : Option String) (jwt : RawJwt) :
    Except KeyError String := do
  let payload ← jwt.payload
  pure (Text.Base64Url.ofText (headerText (header algorithm jwt.typeHeader kid))
    ++ "." ++ Text.Base64Url.ofText payload)

/-- A token from its first two parts and its signature. -/
def signedCompact (unsigned : String) (signature : Bytes) : String :=
  unsigned ++ "." ++ Text.Base64Url.ofBytes signature

end Keyring.Jwt
