/-
# Limits on keys

Three checks guard every key and every key format: the version, the size of the modulus, which the
FIPS restriction narrows to two sizes, and the public exponent.  The first check that fails gives
the error.
-/
import Keyring.Error
import Keyring.Fips

namespace Keyring.Limits

/-- The least size of a modulus in bits. -/
def leastModulusBits : Nat := 2048

/-- The sizes of a modulus in bits that the FIPS restriction leaves. -/
def fipsModulusBits : List Int := [2048, 3072]

/-- The least public exponent. -/
def leastExponent : Nat := 65537

/-- The version lies between zero and the highest one known. -/
def checkVersion (version highest : Int) (typeUrl? : Option String := none) :
    Except KeyError Unit :=
  if version < 0 ∨ highest < version then refuse (.versionOutOfRange version highest) typeUrl?
  else pure ()

/-- The modulus is long enough and, under the restriction of a policy, of one of its sizes. -/
def checkModulus (bits : Int) (policy? : Option FipsPolicy := none)
    (typeUrl? : Option String := none) : Except KeyError Unit :=
  if bits < leastModulusBits then refuse (.modulusTooShort bits) typeUrl?
  else if policy?.any (·.restricted) && !fipsModulusBits.contains bits then
    refuse (.modulusNotFips bits) typeUrl?
  else pure ()

theorem leastModulusBits_le_of_checkModulus {bits : Int} {policy? : Option FipsPolicy}
    {typeUrl? : Option String} (h : checkModulus bits policy? typeUrl? = .ok ()) :
    leastModulusBits ≤ bits := by
  by_cases hb : bits < leastModulusBits
  · simp [checkModulus, hb, refuse] at h
  · omega

/-- The public exponent is odd and large enough. -/
def checkExponent (exponent : Int) (typeUrl? : Option String := none) : Except KeyError Unit :=
  if exponent % 2 = 0 then refuse .exponentEven typeUrl?
  else if exponent < leastExponent then refuse (.exponentTooSmall leastExponent) typeUrl?
  else pure ()

theorem odd_of_checkExponent {exponent : Int} {typeUrl? : Option String}
    (h : checkExponent exponent typeUrl? = .ok ()) : exponent % 2 = 1 := by
  by_cases he : exponent % 2 = 0
  · simp [checkExponent, he, refuse] at h
  · omega

theorem leastExponent_le_of_checkExponent {exponent : Int} {typeUrl? : Option String}
    (h : checkExponent exponent typeUrl? = .ok ()) : leastExponent ≤ exponent := by
  have odd := odd_of_checkExponent h
  by_cases he : exponent < leastExponent
  · simp [checkExponent, odd, he, refuse] at h
  · omega

end Keyring.Limits
