/-
# Registering into a directory

* `Directory.find?_insert_self` and `Directory.find?_insert_of_ne` look up what was put in.
* `Directory.Registers` lists the five ways in which a registration ends, each with what led to it,
  and `Directory.registers_register` says that there is no other.
* `Directory.isSome_find?_of_register` tells new key types from known ones, and
  `Directory.exists_find?_of_register`, `Directory.exists_find?_register` and
  `Directory.manager_of_register` are about the entries that an accepted registration leaves.
-/
import Keyring.Directory
import Keyring.Proofs.Named

namespace Keyring

lemma FipsPolicy.restrict_of_restricted {policy : FipsPolicy} (h : policy.restricted = true) :
    policy.restrict = policy := by
  rw [restrict, ← h]

namespace Directory

variable {policy : FipsPolicy} {d : Directory} {r : Request}

/-! ## Entries -/

@[simp] lemma find?_insert_self (d : Directory) (keyType : String) (entry : DirectoryEntry) :
    (d.insert keyType entry).find? keyType = some entry := by
  rw [find?, insert, Named.lookup_put, if_pos rfl]

lemma find?_insert_of_ne {keyType other : String} (h : other ≠ keyType) (d : Directory)
    (entry : DirectoryEntry) : (d.insert keyType entry).find? other = d.find? other := by
  rw [find?, insert, Named.lookup_put, if_neg h]
  rfl

lemma find?_of_isEmpty (h : d.isEmpty = true) (keyType : String) : d.find? keyType = none := by
  rw [isEmpty, List.isEmpty_iff] at h
  rw [find?, h]
  rfl

/-! ## Registrations -/

/-- The entry that an accepted registration leaves in the place of an existing one. -/
def Request.refreshed (r : Request) (existing : DirectoryEntry) : DirectoryEntry :=
  if r.force then r.entry else { existing with newKeyAllowed := r.newKeyAllowed }

/-- How a registration ends. -/
inductive Registers (policy : FipsPolicy) (d : Directory) (r : Request) :
    Except Refusal (Acceptance × Directory) → Prop
  | fips (forbidden : policy.allows r.declared = false) : Registers policy d r (.error .fips)
  | inserted (allowed : policy.allows r.declared = true)
      (new : d.find? r.manager.keyType = none) :
      Registers policy d r (.ok (.inserted, d.insert r.manager.keyType r.entry))
  | otherClass {existing : DirectoryEntry} (allowed : policy.allows r.declared = true)
      (found : d.find? r.manager.keyType = some existing)
      (other : existing.implementingClass ≠ r.manager.implementingClass) :
      Registers policy d r (.error (.otherClass existing.implementingClass))
  | newKeysDisallowed {existing : DirectoryEntry} (allowed : policy.allows r.declared = true)
      (found : d.find? r.manager.keyType = some existing)
      (same : existing.implementingClass = r.manager.implementingClass)
      (asked : r.newKeyAllowed = true) (disallowed : existing.newKeyAllowed = false) :
      Registers policy d r (.error .newKeysDisallowed)
  | refreshed {existing : DirectoryEntry} (allowed : policy.allows r.declared = true)
      (found : d.find? r.manager.keyType = some existing)
      (same : existing.implementingClass = r.manager.implementingClass)
      (tightens : r.newKeyAllowed = true → existing.newKeyAllowed = true) :
      Registers policy d r (.ok (.refreshed, d.insert r.manager.keyType (r.refreshed existing)))

lemma registers_register (policy : FipsPolicy) (d : Directory) (r : Request) :
    Registers policy d r (register policy d r) := by
  rw [register]
  cases hallowed : policy.allows r.declared with
  | false => exact .fips hallowed
  | true =>
    cases hfound : d.find? r.manager.keyType with
    | none => exact .inserted hallowed hfound
    | some existing =>
      simp only [Bool.not_true, Bool.false_eq_true, if_false]
      by_cases hclass : existing.implementingClass = r.manager.implementingClass
      · rw [if_neg (not_not_intro hclass)]
        -- the flag may be kept or taken away, and only a request for new keys can be refused
        cases hasked : r.newKeyAllowed with
        | false =>
          have hnew : r.refreshed existing
              = if r.force then r.entry else { existing with newKeyAllowed := false } := by
            rw [Request.refreshed, hasked]
          rw [Bool.false_and, if_neg Bool.false_ne_true, ← hnew]
          exact .refreshed hallowed hfound hclass (fun h => by rw [hasked] at h; cases h)
        | true =>
          cases hopen : existing.newKeyAllowed with
          | false => exact .newKeysDisallowed hallowed hfound hclass hasked hopen
          | true =>
            have hnew : r.refreshed existing
                = if r.force then r.entry else { existing with newKeyAllowed := true } := by
              rw [Request.refreshed, hasked]
            simp only [Bool.not_true, Bool.and_false, Bool.false_eq_true, if_false, ← hnew]
            exact .refreshed hallowed hfound hclass fun _ => hopen
      · rw [if_pos hclass]
        exact .otherClass hallowed hfound hclass

section Accepted

variable {d' : Directory} {acceptance : Acceptance}
  (h : register policy d r = .ok (acceptance, d'))
include h

/-- What an accepted registration is told apart by is whether the key type had an entry. -/
lemma isSome_find?_of_register :
    (d.find? r.manager.keyType).isSome = decide (acceptance = .refreshed) := by
  have hcases := registers_register policy d r
  rw [h] at hcases
  cases hcases with
  | inserted _ new => rw [new, Option.isSome_none, decide_eq_false nofun]
  | refreshed _ found _ _ => rw [found, Option.isSome_some, decide_eq_true rfl]

/-- An accepted registration leaves an entry of the class of the manager, with new keys allowed as
asked. -/
lemma exists_find?_of_register :
    ∃ entry, d'.find? r.manager.keyType = some entry
      ∧ entry.implementingClass = r.manager.implementingClass
      ∧ entry.newKeyAllowed = r.newKeyAllowed := by
  have hcases := registers_register policy d r
  rw [h] at hcases
  cases hcases with
  | inserted _ _ => exact ⟨_, find?_insert_self .., rfl, rfl⟩
  | refreshed _ _ same _ =>
    refine ⟨_, find?_insert_self .., ?_⟩
    rw [Request.refreshed]
    split
    · exact ⟨rfl, rfl⟩
    · exact ⟨same, rfl⟩

/-- An accepted registration leaves the other key types alone. -/
lemma find?_of_register {keyType : String} (hother : keyType ≠ r.manager.keyType) :
    d'.find? keyType = d.find? keyType := by
  have hcases := registers_register policy d r
  rw [h] at hcases
  cases hcases <;> exact find?_insert_of_ne hother ..

/-- A manager that is there after an accepted registration was there before or was registered. -/
lemma manager_of_register {keyType : String} {entry : DirectoryEntry}
    (hfound : d'.find? keyType = some entry) :
    entry.manager = r.manager
      ∨ ∃ before, d.find? keyType = some before ∧ entry.manager = before.manager := by
  have hcases := registers_register policy d r
  rw [h] at hcases
  by_cases hkey : keyType = r.manager.keyType
  · subst hkey
    cases hcases with
    | inserted _ _ =>
      rw [find?_insert_self] at hfound
      exact .inl (Option.some.inj hfound ▸ rfl)
    | @refreshed existing _ found _ _ =>
      rw [find?_insert_self] at hfound
      obtain rfl := Option.some.inj hfound
      rw [Request.refreshed]
      split
      · exact .inl rfl
      · exact .inr ⟨existing, found, rfl⟩
  · rw [find?_of_register h hkey] at hfound
    exact .inr ⟨entry, hfound, rfl⟩

/-- A key type that has an entry keeps one of the same class. -/
lemma exists_find?_register {keyType : String} {entry : DirectoryEntry}
    (hfound : d.find? keyType = some entry) :
    ∃ entry', d'.find? keyType = some entry'
      ∧ entry'.implementingClass = entry.implementingClass := by
  have hcases := registers_register policy d r
  rw [h] at hcases
  by_cases hkey : keyType = r.manager.keyType
  · obtain ⟨entry', hfound', hclass, -⟩ := exists_find?_of_register h
    rw [hkey] at hfound ⊢
    refine ⟨entry', hfound', hclass.trans ?_⟩
    cases hcases with
    | inserted _ new =>
      rw [hfound] at new
      cases new
    | refreshed _ found same _ =>
      rw [hfound] at found
      rw [Option.some.inj found, same]
  · exact ⟨entry, (find?_of_register h hkey).trans hfound, rfl⟩

end Accepted

end Directory

end Keyring
