/-
# The formats of templates

A template reaches the manager as a key format.  The format says what the template says, but for the
strategy for key ids, and all of it is found again in the bytes that the format is written as.

* `Jwt.Template.toKeyFormat_eq_ok_iff` says which format a template has, and
  `Jwt.Template.toKeyFormat_eq_ok` which numbers are in it.
* `Jwt.Template.check_iff`: of the limits on keys a template leaves open only the one that the FIPS
  restriction sets.
* `Jwt.Template.format_eq_of_encode_eq`: the bytes of the formats of one version tell them apart,
  however long the exponents are, and `Jwt.Template.encode_eq_iff`: so they tell templates apart.
* `Manager.templateFormat_outcome` is what the manager makes of a format and of its bytes.
-/
import Keyring.Jwt.Template
import Keyring.Proofs.Manager.FipsSizes

namespace Keyring

/-! ## Limits -/

lemma Limits.checkExponent_of_odd {exponent : Nat} (hodd : exponent % 2 = 1)
    (hlarge : leastExponent ≤ exponent) (typeUrl? : Option String) :
    checkExponent exponent typeUrl? = .ok () := by
  rw [checkExponent, if_neg (by omega), if_neg (not_lt.2 (Int.ofNat_le.2 hlarge))]
  rfl

namespace Jwt.Template

variable {t t' : Template} {version : Int} {format format' : KeyFormat} {policy : FipsPolicy}

/-! ## What a format says -/

/-- The format of a template says what the template says, with nothing beside it. -/
lemma toKeyFormat_eq_ok_iff :
    t.toKeyFormat version = .ok format
      ↔ (format.version.toNat : Int) = version ∧ format.algorithm.toInt = t.algorithm.number
        ∧ format.modulusBits.toNat = t.modulusBits
        ∧ format.publicExponent = Bytes.ofNat t.publicExponent ∧ format.unknown = [] := by
  constructor
  · intro h
    obtain ⟨v, hversion, h⟩ := bind_eq_ok_iff.1 h
    obtain ⟨a, halgorithm, h⟩ := bind_eq_ok_iff.1 h
    obtain ⟨n, hmodulus, h⟩ := bind_eq_ok_iff.1 h
    obtain rfl := Except.ok.inj h
    exact ⟨Wire.asUnsigned_eq_ok_iff.1 hversion, Wire.asSigned_eq_ok_iff.1 halgorithm,
      Int.ofNat_inj.1 (Wire.asUnsigned_eq_ok_iff.1 hmodulus), rfl, rfl⟩
  · rintro ⟨hversion, halgorithm, hmodulus, hexponent, hunknown⟩
    rw [toKeyFormat, Wire.asUnsigned_eq_ok_iff.2 hversion, Wire.asSigned_eq_ok_iff.2 halgorithm,
      Wire.asUnsigned_eq_ok_iff.2 (Int.ofNat_inj.2 hmodulus), ← hexponent]
    obtain ⟨v, a, n, e, unknown⟩ := format
    obtain rfl : unknown = [] := hunknown
    rfl

/-- The format of a template asks for what the template says. -/
lemma toKeyFormat_eq_ok (h : t.toKeyFormat version = .ok format) :
    format.algorithm.toInt = t.algorithm.number ∧ format.modulusBits.toNat = t.modulusBits
      ∧ format.publicExponent.toNat = t.publicExponent := by
  obtain ⟨-, halgorithm, hmodulus, hexponent, -⟩ := toKeyFormat_eq_ok_iff.1 h
  exact ⟨halgorithm, hmodulus, by rw [hexponent, Bytes.toNat_ofNat]⟩

/-- The strategy for key ids is not part of the format. -/
lemma toKeyFormat_congr (hmodulus : t.modulusBits = t'.modulusBits)
    (hexponent : t.publicExponent = t'.publicExponent) (halgorithm : t.algorithm = t'.algorithm)
    (version : Int) : t.toKeyFormat version = t'.toKeyFormat version := by
  rw [toKeyFormat, toKeyFormat, hmodulus, hexponent, halgorithm]

/-! ## Checking a format -/

/-- A template keeps the limits by construction, so only the restriction can refuse its format. -/
lemma check_iff (h : t.toKeyFormat version = .ok format) :
    format.check policy = .ok () ↔ (policy.restricted = true → Limits.FipsSize t.modulusBits) := by
  obtain ⟨-, hmodulus, hexponent⟩ := toKeyFormat_eq_ok h
  have hlimit := Limits.checkExponent_of_odd t.exponent_odd t.exponent_large privateKeyType
  rw [KeyFormat.check, hmodulus, hexponent, hlimit]
  constructor
  · intro hcheck
    obtain ⟨⟨⟩, hsize, -⟩ := bind_eq_ok_iff.1 hcheck
    exact (Limits.checkModulus_eq_ok_iff.1 hsize).2
  · intro hsize
    exact bind_eq_ok_iff.2 ⟨(), Limits.checkModulus_eq_ok_iff.2 ⟨t.modulus_large, hsize⟩, rfl⟩

/-! ## The bytes of a format -/

/-- A format that is not absurdly long is read back. -/
lemma decode?_encode_toKeyFormat (h : t.toKeyFormat version = .ok format)
    (hlength : format.publicExponent.length < maxBytes) :
    KeyFormat.decode? format.encode = some format := by
  obtain ⟨-, -, -, -, hunknown⟩ := toKeyFormat_eq_ok_iff.1 h
  refine KeyFormat.Arises.decode?_encode (.built ⟨hunknown, ?_⟩)
  rwa [KeyFormat.load, hunknown, List.length_nil, Nat.add_zero]

/-- Every field but the version is written, since none of the others is empty or zero, and the one
of the exponent comes last. -/
lemma encode_eq (h : t.toKeyFormat version = .ok format) :
    format.encode = Wire.writeNumber 1 format.version.toNat
      ++ (Wire.writeNumber 2 (Wire.ofSigned format.algorithm)
        ++ (Wire.writeNumber 3 format.modulusBits.toNat
          ++ Wire.writeMessage 4 format.publicExponent))
      ∧ Wire.ofSigned format.algorithm ≠ 0 ∧ format.modulusBits.toNat ≠ 0 := by
  obtain ⟨-, halgorithm, hmodulus, hexponent, hunknown⟩ := toKeyFormat_eq_ok_iff.1 h
  have hwritten : Wire.writeBytes 4 format.publicExponent
      = Wire.writeMessage 4 format.publicExponent := by
    rw [Wire.writeBytes, if_neg]
    rw [hexponent, List.isEmpty_iff]
    exact Bytes.ofNat_ne_nil _
  refine ⟨?_, fun hzero => ?_, fun hzero => ?_⟩
  · rw [KeyFormat.encode, hwritten, hunknown, List.append_nil, List.append_assoc, List.append_assoc]
  · rw [Wire.eq_zero_of_ofSigned hzero] at halgorithm
    cases ha : t.algorithm <;> rw [ha] at halgorithm <;> cases halgorithm
  · have hlarge := t.modulus_large
    rw [Limits.leastModulusBits] at hlarge
    omega

/-- The bytes of the formats of one version tell them apart. -/
lemma format_eq_of_encode_eq (h : t.toKeyFormat version = .ok format)
    (h' : t'.toKeyFormat version = .ok format') (heq : format.encode = format'.encode) :
    format = format' := by
  obtain ⟨hversion, -, -, -, hunknown⟩ := toKeyFormat_eq_ok_iff.1 h
  obtain ⟨hversion', -, -, -, hunknown'⟩ := toKeyFormat_eq_ok_iff.1 h'
  obtain ⟨hencode, halgorithm, hmodulus⟩ := encode_eq h
  obtain ⟨hencode', halgorithm', hmodulus'⟩ := encode_eq h'
  have hsame : format.version = format'.version :=
    UInt32.toNat_inj.1 (Int.ofNat_inj.1 (hversion.trans hversion'.symm))
  -- field by field, each of which ends before the next one begins
  rw [hencode, hencode', hsame] at heq
  obtain ⟨ha, heq⟩ :=
    Wire.writeNumber_append_inj halgorithm halgorithm' (List.append_cancel_left heq)
  obtain ⟨hn, heq⟩ := Wire.writeNumber_append_inj hmodulus hmodulus' heq
  have he := Wire.writeMessage_injective 4 heq
  have ha : format.algorithm = format'.algorithm := by
    rw [← Wire.toSigned_ofSigned format.algorithm, ha, Wire.toSigned_ofSigned]
  obtain ⟨v, a, n, e, unknown⟩ := format
  obtain ⟨v', a', n', e', unknown'⟩ := format'
  obtain rfl : v = v' := hsame
  obtain rfl : a = a' := ha
  obtain rfl : n = n' := UInt32.toNat_inj.1 hn
  obtain rfl : e = e' := he
  obtain rfl : unknown = unknown' := hunknown.trans hunknown'.symm
  rfl

/-- The bytes of the formats of one version tell templates apart by what a format says. -/
lemma encode_eq_iff (h : t.toKeyFormat version = .ok format)
    (h' : t'.toKeyFormat version = .ok format') :
    format.encode = format'.encode ↔ t.modulusBits = t'.modulusBits
      ∧ t.publicExponent = t'.publicExponent ∧ t.algorithm = t'.algorithm := by
  constructor
  · intro heq
    obtain ⟨halgorithm, hmodulus, hexponent⟩ := toKeyFormat_eq_ok h
    obtain ⟨halgorithm', hmodulus', hexponent'⟩ := toKeyFormat_eq_ok h'
    rw [format_eq_of_encode_eq h h' heq] at halgorithm hmodulus hexponent
    refine ⟨hmodulus.symm.trans hmodulus', hexponent.symm.trans hexponent', ?_⟩
    exact Algorithm.number_injective (halgorithm.symm.trans halgorithm')
  · rintro ⟨hmodulus, hexponent, halgorithm⟩
    rw [toKeyFormat_congr hmodulus hexponent halgorithm, h'] at h
    rw [Except.ok.inj h]

end Jwt.Template

/-! ## Managers -/

namespace Manager

/-- The format of a template says what the template says, and the manager reads it back from its
bytes.  It passes if and only if the manager sees no restriction or the size is one of the two that
the restriction leaves.  Another template has a format of that version with the same bytes if and
only if it agrees in size, exponent and algorithm. -/
theorem templateFormat_outcome {t : Jwt.Template} {version : Int} {format : Jwt.KeyFormat}
    (h : t.toKeyFormat version = .ok format) (serial : Nat) (policy : PolicyId) (s : State) :
    (format.publicExponent.length < Jwt.maxBytes →
        (jwtSigner serial policy).parseFormat format.encode s = (.ok format, s))
      ∧ ((format.version.toNat : Int) = version
        ∧ format.algorithm.toInt = t.algorithm.number
        ∧ format.modulusBits.toNat = t.modulusBits
        ∧ format.publicExponent.toNat = t.publicExponent)
      ∧ ((jwtSigner serial policy).checkFormat format s = (.ok (), s)
        ↔ (s.policy policy).restricted = false ∨ t.modulusBits = 2048 ∨ t.modulusBits = 3072)
      ∧ ∀ (t' : Jwt.Template) (format' : Jwt.KeyFormat), t'.toKeyFormat version = .ok format' →
        (format.encode = format'.encode
          ↔ t.modulusBits = t'.modulusBits ∧ t.publicExponent = t'.publicExponent
            ∧ t.algorithm = t'.algorithm) := by
  refine ⟨fun hlength => ?_, ⟨(Jwt.Template.toKeyFormat_eq_ok_iff.1 h).1,
    Jwt.Template.toKeyFormat_eq_ok h⟩, ?_, fun t' format' h' => Jwt.Template.encode_eq_iff h h'⟩
  · have hread := Jwt.Template.decode?_encode_toKeyFormat h hlength
    exact Action.ofKey_eq_ok_iff.2 ⟨Jwt.KeyFormat.parse_eq_ok_iff.2 hread, rfl⟩
  · rw [checkFormat_eq_ok_iff, Jwt.Template.check_iff h, and_iff_left rfl]
    cases (s.policy policy).restricted with
    | false => exact ⟨fun _ => .inl rfl, fun _ => nofun⟩
    | true => exact ⟨fun hsize => .inr (hsize rfl), fun hsize _ => hsize.resolve_left nofun⟩

/-- A template of a size that the restriction does not leave, whose exponent needs a fourth byte. -/
def fourByteTemplate (kidStrategy : Jwt.KidStrategy) : Jwt.Template where
  modulusBits := 2560
  publicExponent := 0x1000001
  algorithm := .rs512
  kidStrategy := kidStrategy
  modulus_large := by decide
  exponent_odd := rfl
  exponent_large := by decide

/-- Its format of the highest version is read back, has the same bytes for another strategy and
other bytes for the default exponent, and passes only without the restriction. -/
theorem templateFormat_outcome_fourByteTemplate :
    ∃ format format' : Jwt.KeyFormat,
      (fourByteTemplate .ignored).toKeyFormat 0xffffffff = .ok format
        ∧ (fourByteTemplate .base64EncodedKeyId).toKeyFormat 0xffffffff = .ok format
        ∧ (Jwt.Template.standard 2560 .rs512 .ignored (by decide)).toKeyFormat 0xffffffff
          = .ok format'
        ∧ format.publicExponent = [1, 0, 0, 1] ∧ format.encode ≠ format'.encode
        ∧ (jwtSigner 0 ⟨0⟩).parseFormat format.encode {} = (.ok format, {})
        ∧ (jwtSigner 0 ⟨0⟩).checkFormat format {} = (.ok (), {})
        ∧ (jwtSigner 0 ⟨0⟩).checkFormat format { policies := ⟨[{ restricted := true }]⟩ }
          ≠ (.ok (), { policies := ⟨[{ restricted := true }]⟩ }) := by
  have hexponent : [1, 0, 0, 1] = Bytes.ofNat 0x1000001 := by decide +kernel
  have hfirst : (fourByteTemplate .ignored).toKeyFormat 0xffffffff = .ok
      { version := 0xffffffff, algorithm := 3, modulusBits := 2560,
        publicExponent := [1, 0, 0, 1] } :=
    Jwt.Template.toKeyFormat_eq_ok_iff.2 ⟨rfl, rfl, rfl, hexponent, rfl⟩
  have hother : (Jwt.Template.standard 2560 .rs512 .ignored (by decide)).toKeyFormat 0xffffffff
      = .ok { version := 0xffffffff, algorithm := 3, modulusBits := 2560,
              publicExponent := Bytes.ofNat 65537 } :=
    Jwt.Template.toKeyFormat_eq_ok_iff.2 ⟨rfl, rfl, rfl, rfl, rfl⟩
  obtain ⟨hread, -, hfree, hbytes⟩ := templateFormat_outcome hfirst 0 ⟨0⟩ {}
  obtain ⟨-, -, hrestricted, -⟩ :=
    templateFormat_outcome hfirst 0 ⟨0⟩ { policies := ⟨[{ restricted := true }]⟩ }
  refine ⟨_, _, hfirst, hfirst, hother, rfl, fun heq => ?_, hread (by decide),
    hfree.2 (.inl rfl), fun hpass => ?_⟩
  · obtain ⟨-, hsame, -⟩ := (hbytes _ _ hother).1 heq
    exact absurd hsame (by decide)
  · exact absurd (hrestricted.1 hpass) (by decide)

end Manager

end Keyring
