/-
# Templates

A template says what keys to make: the size of the modulus, the public exponent, the algorithm, and
where the key id of a token header comes from.  Templates keep the limits on keys by construction.

`named` are the templates that come with this library; a name without `_RAW` goes with key ids.
-/
import Keyring.Jwt.Algorithm
import Keyring.Jwt.KeyFormat
import Keyring.Jwt.KeyId
import Keyring.Limits

namespace Keyring.Jwt

/-- Where the key id of a token header comes from. -/
inductive KidStrategy where
  /-- Headers have no key id. -/
  | ignored
  /-- The key id that is derived from the public key. -/
  | base64EncodedKeyId
  /-- The custom key id that is stored in the public key. -/
  | custom
deriving DecidableEq

namespace KidStrategy

/-- The name under which a strategy is configured. -/
def name : KidStrategy → String
  | ignored => "ignored"
  | base64EncodedKeyId => "base64_encoded_key_id"
  | custom => "custom"

/-- The name of a strategy within a message. -/
def label (s : KidStrategy) : String :=
  s.name.map Char.toUpper

/-- The strategy with a name. -/
def ofName? (s : String) : Option KidStrategy :=
  [ignored, base64EncodedKeyId, custom].find? fun k => k.name = s

end KidStrategy

/-- A template. -/
structure Template where
  modulusBits : Nat
  publicExponent : Nat
  algorithm : Algorithm
  kidStrategy : KidStrategy
  modulus_large : Limits.leastModulusBits ≤ modulusBits
  exponent_odd : publicExponent % 2 = 1
  exponent_large : Limits.leastExponent ≤ publicExponent
deriving DecidableEq

namespace Template

/-- The public exponent of a template that names none. -/
def defaultExponent : Nat := 65537

/-- The template with these parts, if they keep the limits on keys. -/
def make (modulusBits : Int) (publicExponent : Int := defaultExponent)
    (algorithm : Option Algorithm := some .rs256) (kidStrategy : KidStrategy := .ignored) :
    Except KeyError Template :=
  match algorithm with
  | none => refuse .algorithmUnset
  | some algorithm =>
    match hm : Limits.checkModulus modulusBits with
    | .error e => .error e
    | .ok () =>
      match he : Limits.checkExponent publicExponent with
      | .error e => .error e
      | .ok () =>
        .ok {
          modulusBits := modulusBits.toNat
          publicExponent := publicExponent.toNat
          algorithm
          kidStrategy
          modulus_large := by
            have := Limits.leastModulusBits_le_of_checkModulus hm
            omega
          exponent_odd := by
            have := Limits.odd_of_checkExponent he
            have := Limits.leastExponent_le_of_checkExponent he
            omega
          exponent_large := by
            have := Limits.leastExponent_le_of_checkExponent he
            omega }

/-- Whether tokens need a key id from the caller. -/
def hasIdRequirement (t : Template) : Bool :=
  t.kidStrategy == .base64EncodedKeyId

/-- The key format of a template; the version and the size have to fit in 32 bits. -/
def toKeyFormat (t : Template) (version : Int := 0) : Except Failure KeyFormat := do
  let version ← Wire.asUnsigned version
  let algorithm ← Wire.asSigned t.algorithm.number
  let modulusBits ← Wire.asUnsigned t.modulusBits
  pure { version, algorithm, modulusBits, publicExponent := Bytes.ofNat t.publicExponent }

/-- The key id to give when a token is signed: for a strategy with key ids the given one, or else
the one derived from the public key. -/
def kidFor (t : Template) (key : PublicKey) (id : Option Int := none) : Option String :=
  match t.kidStrategy with
  | .base64EncodedKeyId => some (encodeKeyId (id.getD key.keyId))
  | .ignored => none
  | .custom => none

/-- The template of this library for a size, an algorithm and a strategy. -/
def standard (modulusBits : Nat) (algorithm : Algorithm) (kidStrategy : KidStrategy)
    (h : Limits.leastModulusBits ≤ modulusBits) : Template where
  modulusBits := modulusBits
  publicExponent := defaultExponent
  algorithm := algorithm
  kidStrategy := kidStrategy
  modulus_large := h
  exponent_odd := rfl
  exponent_large := by decide

/-- The two named templates for a size and an algorithm: without key ids and with them. -/
def namedPair (modulusBits : Nat) (algorithm : Algorithm)
    (h : Limits.leastModulusBits ≤ modulusBits) : List (String × Template) :=
  let name := s!"JWT_{algorithm.name}_{modulusBits}_F4"
  [(name ++ "_RAW", standard modulusBits algorithm .ignored h),
    (name, standard modulusBits algorithm .base64EncodedKeyId h)]

/-- The templates that come with this library, by name. -/
def named : List (String × Template) :=
  namedPair 2048 .rs256 (by decide) ++ namedPair 3072 .rs256 (by decide)
    ++ namedPair 3072 .rs384 (by decide) ++ namedPair 4096 .rs512 (by decide)

end Template

end Keyring.Jwt
