/-
# Sizes of keys under the FIPS restriction

Two sizes of a modulus are left under the restriction.  A manager of JWT signing keys that sees a
restricted policy refuses keys and formats of any other size, and no operation on them succeeds.

* `Limits.FipsSize` are the two sizes, `Limits.checkModulus_of_restricted` decides the check of a
  modulus under the restriction, and `Limits.checkModulus_eq_ok_iff` with and without it.
* `Manager.KeepsToFips` is what this means for a manager, and `Manager.keepsToFips_of_restricted`
  says when it holds.
-/
import Keyring.Proofs.Jwt.Generation

namespace Keyring

/-! ## Sizes -/

namespace Limits

/-- The sizes of a modulus in bits that are left under the restriction. -/
def FipsSize (bits : Nat) : Prop :=
  bits = 2048 ∨ bits = 3072

instance : DecidablePred FipsSize := fun _ => inferInstanceAs (Decidable (_ ∨ _))

lemma contains_fipsModulusBits {bits : Nat} :
    fipsModulusBits.contains (bits : Int) = true ↔ FipsSize bits := by
  simp only [fipsModulusBits, List.contains_cons, List.contains_nil, Bool.or_false, Bool.or_eq_true,
    beq_iff_eq, FipsSize]
  omega

lemma FipsSize.leastModulusBits_le {bits : Nat} (h : FipsSize bits) : leastModulusBits ≤ bits := by
  rw [leastModulusBits]
  rcases h with rfl | rfl <;> decide

/-- Under the restriction the check of a modulus accepts these sizes and no other. -/
lemma checkModulus_of_restricted {policy : FipsPolicy} (h : policy.restricted = true) (bits : Nat)
    (typeUrl? : Option String) :
    (FipsSize bits ∧ checkModulus bits policy typeUrl? = .ok ())
      ∨ (¬ FipsSize bits
        ∧ ∃ e, checkModulus bits policy typeUrl? = .error e ∧ e.kind = .invalidModulusSize) := by
  have hrestricted : (some policy).any (·.restricted) = true := h
  by_cases hsize : FipsSize bits
  · have hlong : ¬ (bits : Int) < leastModulusBits :=
      not_lt.2 (Int.ofNat_le.2 hsize.leastModulusBits_le)
    refine .inl ⟨hsize, ?_⟩
    rw [checkModulus, if_neg hlong, contains_fipsModulusBits.2 hsize, Bool.not_true, Bool.and_false]
    rfl
  · refine .inr ⟨hsize, ?_⟩
    have hother : fipsModulusBits.contains (bits : Int) = false :=
      Bool.eq_false_iff.2 (mt contains_fipsModulusBits.1 hsize)
    rw [checkModulus, hrestricted, hother]
    -- a short modulus is refused for this reason, and any other for not being one of the two
    split
    · exact ⟨_, rfl, rfl⟩
    · exact ⟨_, rfl, rfl⟩

/-- A modulus has to be long enough and, under the restriction, of one of the two sizes. -/
lemma checkModulus_eq_ok_iff {policy : FipsPolicy} {bits : Nat} {typeUrl? : Option String} :
    checkModulus bits policy typeUrl? = .ok ()
      ↔ leastModulusBits ≤ bits ∧ (policy.restricted = true → FipsSize bits) := by
  cases hrestricted : policy.restricted with
  | true =>
    rcases checkModulus_of_restricted hrestricted bits typeUrl? with
      ⟨hsize, hok⟩ | ⟨hsize, e, he, -⟩
    · exact ⟨fun _ => ⟨hsize.leastModulusBits_le, fun _ => hsize⟩, fun _ => hok⟩
    · rw [he]
      constructor
      · intro h
        cases h
      · intro h
        exact absurd (h.2 rfl) hsize
  | false =>
    have hfree : (some policy).any (·.restricted) = false := hrestricted
    rw [checkModulus, hfree, Bool.false_and]
    by_cases hlong : leastModulusBits ≤ bits
    · rw [if_neg (not_lt.2 (Int.ofNat_le.2 hlong))]
      exact ⟨fun _ => ⟨hlong, fun h => absurd h Bool.false_ne_true⟩, fun _ => rfl⟩
    · rw [if_pos (Int.ofNat_lt.2 (not_le.1 hlong))]
      constructor
      · intro h
        cases h
      · intro h
        exact absurd h.1 hlong

end Limits

open Limits (FipsSize)

namespace Jwt

variable {policy : FipsPolicy} (h : policy.restricted = true)
include h

/-- The size is the first that is looked at in a format. -/
lemma KeyFormat.check_of_restricted (format : KeyFormat) :
    (format.check policy = .ok () → FipsSize format.modulusBits.toNat)
      ∧ (¬ FipsSize format.modulusBits.toNat →
        ∃ e, format.check policy = .error e ∧ e.kind = .invalidModulusSize) := by
  rcases Limits.checkModulus_of_restricted h format.modulusBits.toNat privateKeyType with
    ⟨hsize, -⟩ | ⟨hsize, e, he, hkind⟩
  · exact ⟨fun _ => hsize, fun hnot => absurd hsize hnot⟩
  · have hcheck : format.check policy = .error e := by
      rw [check, he]
      rfl
    refine ⟨fun hok => ?_, fun _ => ⟨e, hcheck, hkind⟩⟩
    rw [hcheck] at hok
    cases hok

/-- Of a key the version is looked at before the size. -/
lemma PrivateKey.check_of_restricted (key : PrivateKey) :
    (key.check policy = .ok () → FipsSize (bitLength key.pub.n.toNat))
      ∧ (key.version = 0 → ¬ FipsSize (bitLength key.pub.n.toNat) →
        ∃ e, key.check policy = .error e ∧ e.kind = .invalidModulusSize) := by
  rcases Limits.checkModulus_of_restricted h (bitLength key.pub.n.toNat) privateKeyType with
    ⟨hsize, -⟩ | ⟨hsize, e, he, hkind⟩
  · exact ⟨fun _ => hsize, fun _ hnot => absurd hsize hnot⟩
  · refine ⟨fun hok => ?_, fun hversion _ => ⟨e, ?_, hkind⟩⟩
    · obtain ⟨⟨⟩, -, hrest⟩ := bind_eq_ok_iff.1 hok
      obtain ⟨⟨⟩, hmodulus, -⟩ := bind_eq_ok_iff.1 hrest
      rw [he] at hmodulus
      cases hmodulus
    · rw [check, he, hversion]
      rfl

end Jwt

/-! ## Managers -/

namespace Manager

/-- The manager refuses every key and every format whose modulus does not have one of the two sizes,
and what it makes of keys and formats it makes of those only. -/
structure KeepsToFips (m : Manager) (s : State) : Prop where
  format : ∀ format : Jwt.KeyFormat, ¬ FipsSize format.modulusBits.toNat →
    ∃ e, m.checkFormat format s = (.error (.key e), s) ∧ e.kind = .invalidModulusSize
  key : ∀ key : Jwt.PrivateKey, key.version = 0 → ¬ FipsSize (bitLength key.pub.n.toNat) →
    ∃ e, m.checkKey (.jwt key) s = (.error (.key e), s) ∧ e.kind = .invalidModulusSize
  primitive : ∀ crypto b p, (m.primitive crypto b s).1 = .ok p →
    ∃ key, Jwt.PrivateKey.decode? b = some key ∧ FipsSize (bitLength key.pub.n.toNat)
  publicKeyData : ∀ b data, (m.publicKeyData b s).1 = .ok data →
    ∃ key, Jwt.PrivateKey.decode? b = some key ∧ FipsSize (bitLength key.pub.n.toNat)
  newKeyData : ∀ crypto b data, (m.newKeyData crypto b s).1 = .ok data →
    ∃ format, Jwt.KeyFormat.decode? b = some format ∧ FipsSize format.modulusBits.toNat

/-- A manager that sees a restricted policy keeps to the two sizes. -/
lemma keepsToFips_of_restricted {policy : PolicyId} {s : State}
    (h : (s.policy policy).restricted = true) (serial : Nat) :
    (jwtSigner serial policy).KeepsToFips s where
  format format hsize := by
    obtain ⟨e, hcheck, hkind⟩ := (format.check_of_restricted h).2 hsize
    refine ⟨e, ?_, hkind⟩
    rw [checkFormat, Action.bind_of_ok (Action.get_apply s), hcheck]
    rfl
  key key hversion hsize := by
    obtain ⟨e, hcheck, hkind⟩ := (key.check_of_restricted h).2 hversion hsize
    refine ⟨e, ?_, hkind⟩
    rw [checkKey, Action.bind_of_ok (Action.get_apply s), hcheck]
    rfl
  primitive crypto b p hok := by
    obtain ⟨key, hdecode, hcheck, -⟩ := primitive_eq_ok (Prod.ext hok rfl)
    exact ⟨key, hdecode, (key.check_of_restricted h).1 hcheck⟩
  publicKeyData b data hok := by
    obtain ⟨key, hdecode, hcheck⟩ := publicKeyData_eq_ok (Prod.ext hok rfl)
    exact ⟨key, hdecode, (key.check_of_restricted h).1 hcheck⟩
  newKeyData crypto b data hok := by
    obtain ⟨format, -, hdecode, hcheck, -⟩ := newKeyData_eq_ok_iff.1 (Prod.ext hok rfl)
    exact ⟨format, hdecode, (format.check_of_restricted h).1 hcheck⟩

end Manager

end Keyring
