/-
# What the hash of settings tells

The hash of settings is taken of their canonical text, in which each of the eight stands under its
name.  Two of them are free texts, but no text can pass for what stands around it, so the canonical
text tells all eight; only where SHA-256 has a collision can settings that differ share a hash.

* `same_toValue_iff`: JSON tells settings apart wherever they differ.
* `hashText_eq_iff`: the texts that are hashed are equal exactly if the settings are.
* `hash_eq_iff_eq_or_collision` goes on to the hashes.
-/
import Keyring.Proofs.Bytes.Text
import Keyring.Proofs.Json.Canonical
import Keyring.Proofs.Named
import Keyring.Proofs.Settings.Reading

namespace Keyring

/-- Two messages that differ and have one hash. -/
structure Hash.Sha256.Collision (a b : Bytes) : Prop where
  ne : a ≠ b
  digest_eq : digest a = digest b

open Json (Plain Same canonical)

/-- Fields are written as what they are if no name comes twice. -/
lemma Fields.plain_toMembers {style : Json.Style} {fields : Fields}
    (hdistinct : (fields.map (·.1)).Nodup) (h : ∀ m ∈ fields, Plain style m.2) :
    Plain style (.dict fields.toMembers) :=
  .dict (Json.textKeys_toMembers fields) (nodup_toMembers hdistinct) (List.forall_mem_map.2 h)

namespace Settings

variable {s t : Settings}

/-! ## Settings as a value -/

lemma mem_toMembers (s : Settings) (name : Name) :
    (.text name.text, s.get name) ∈ s.toFields.toMembers :=
  List.mem_map.2 ⟨(name.text, s.get name), List.mem_map.2 ⟨name, name.mem_all, rfl⟩, rfl⟩

/-- A setting is a truth value or a text. -/
lemma get_cases (s : Settings) (name : Name) :
    (∃ b, s.get name = .bool b) ∨ ∃ text, s.get name = .text text := by
  cases name
  case logLevel | configOrigin => exact .inr ⟨_, rfl⟩
  all_goals exact .inl ⟨_, rfl⟩

/-- JSON holds settings as what they are. -/
lemma plain_toValue (s : Settings) : Plain canonical s.toValue := by
  refine Fields.plain_toMembers s.nodup_toFields (List.forall_mem_map.2 fun name _ => ?_)
  change Plain canonical (s.get name)
  rcases s.get_cases name with ⟨b, hb⟩ | ⟨text, htext⟩
  · rw [hb]
    exact .bool b
  · rw [htext]
    exact .text text

lemma spelled_toValue (s : Settings) : Json.Spelled s.toValue := by
  refine Json.spelled_toMembers (List.forall_mem_map.2 fun name _ => ?_)
  change Json.Spelled (s.get name)
  rcases s.get_cases name with ⟨b, hb⟩ | ⟨text, htext⟩
  · rw [hb]
    exact .bool b
  · rw [htext]
    exact .text text

lemma get_eq_of_same {name : Name} (h : Same (s.get name) (t.get name)) :
    s.get name = t.get name := by
  rcases s.get_cases name with ⟨b, hb⟩ | ⟨text, htext⟩
  · rw [hb] at h ⊢
    exact h.eq_of_leaf rfl nofun
  · rw [htext] at h ⊢
    exact h.eq_of_leaf rfl nofun

/-- JSON tells settings apart wherever they differ. -/
lemma same_toValue_iff : Same s.toValue t.toValue ↔ s = t := by
  constructor
  · intro h
    cases h with
    | items hitems => cases hitems
    | dict _ h =>
      exact eq_of_get fun name =>
        get_eq_of_same (h _ _ _ (s.mem_toMembers name) (t.mem_toMembers name))
  · rintro rfl
    exact .refl s.plain_toValue

/-! ## The text that is hashed -/

/-- Settings have a canonical text. -/
lemma canonicalText?_toValue (s : Settings) :
    Json.canonicalText? s.toValue = some s.hashText := by
  rw [hashText, Json.canonicalText?_eq_some s.plain_toValue s.spelled_toValue]
  rfl

/-- The texts that are hashed are equal exactly if all the settings are. -/
lemma hashText_eq_iff : s.hashText = t.hashText ↔ s = t := by
  rw [← same_toValue_iff, ← Json.canonicalText?_eq_iff_same s.plain_toValue t.plain_toValue
    s.spelled_toValue t.spelled_toValue, canonicalText?_toValue, canonicalText?_toValue,
    Option.some_inj]

lemma hash_eq_iff :
    s.hash = t.hash
      ↔ Hash.Sha256.digest (Bytes.ofText s.hashText)
        = Hash.Sha256.digest (Bytes.ofText t.hashText) := by
  rw [hash, hash]
  exact ⟨Bytes.hex_injective, congrArg Bytes.hex⟩

/-! ## The hash -/

/-- Settings have a canonical text, and it is the same for two of them exactly if all eight settings
are equal.  So they share a hash exactly if they are equal or their texts are a collision of
SHA-256. -/
theorem hash_eq_iff_eq_or_collision (s t : Settings) :
    Json.canonicalText? s.toValue = some s.hashText
      ∧ Json.canonicalText? t.toValue = some t.hashText
      ∧ (s.hashText = t.hashText ↔ s = t)
      ∧ (s.hash = t.hash
        ↔ s = t
          ∨ Hash.Sha256.Collision (Bytes.ofText s.hashText) (Bytes.ofText t.hashText)) := by
  refine ⟨s.canonicalText?_toValue, t.canonicalText?_toValue, hashText_eq_iff, ?_⟩
  rw [hash_eq_iff]
  constructor
  · intro hdigest
    by_cases hst : s = t
    · exact .inl hst
    · refine .inr ⟨fun htext => hst ?_, hdigest⟩
      exact hashText_eq_iff.1 (Bytes.ofText_injective htext)
  · rintro (rfl | hcollision)
    · rfl
    · exact hcollision.digest_eq

end Settings

end Keyring
