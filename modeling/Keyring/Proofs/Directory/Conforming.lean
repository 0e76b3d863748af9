/-
# Directories that keep to a policy

* `Directory.Reflects` says which registrations the entries of a directory go back to.
* `Directory.Conforms` ties them to the policy: under a restriction each of them declared that it
  requires a certified module, and one is available unless the directory is empty.
* `Directory.Conforms.register` and `Directory.Conforms.restrict` are the steps that keep this.
-/
import Keyring.Proofs.Directory

namespace Keyring.Directory

variable {policy : FipsPolicy} {d d' : Directory} {r : Request} {rs : List Request}

lemma isEmpty_insert (d : Directory) (keyType : String) (entry : DirectoryEntry) :
    (d.insert keyType entry).isEmpty = false := by
  cases h : d.entries with
  | nil => rw [isEmpty, insert, h]; rfl
  | cons head entries =>
    rw [isEmpty, insert, h, Named.put]
    split <;> rfl

/-- All that the entries hold comes from these registrations: the manager with its class and its
primitives from one, and the permission of new keys from one, perhaps another. -/
def Reflects (d : Directory) (rs : List Request) : Prop :=
  ∀ keyType entry, d.find? keyType = some entry →
    (∃ r ∈ rs, r.manager.keyType = keyType ∧ entry.manager = r.manager
      ∧ entry.implementingClass = r.manager.implementingClass
      ∧ entry.primitives = r.manager.primitives)
    ∧ ∃ r ∈ rs, r.manager.keyType = keyType ∧ entry.newKeyAllowed = r.newKeyAllowed

/-- A directory that goes back to these registrations keeps to its policy. -/
structure Conforms (policy : FipsPolicy) (d : Directory) (rs : List Request) : Prop where
  reflects : d.Reflects rs
  eq_nil : d.isEmpty = true → rs = []
  available : policy.restricted = true → policy.moduleAvailable = true ∨ d.isEmpty = true
  declared : policy.restricted = true → ∀ r ∈ rs, r.declared = .requiresCertifiedModule

lemma conforms_empty (policy : FipsPolicy) : Conforms policy {} [] where
  reflects := nofun
  eq_nil _ := rfl
  available _ := .inr rfl
  declared _ := nofun

/-- What a restricted policy allows requires a certified module, which is available. -/
lemma eq_of_allows {c : Compatibility} (hallows : policy.allows c = true)
    (hrestricted : policy.restricted = true) :
    c = .requiresCertifiedModule ∧ policy.moduleAvailable = true := by
  rw [FipsPolicy.allows, hrestricted, Bool.not_true, Bool.false_or, Bool.and_eq_true,
    beq_iff_eq] at hallows
  exact hallows

lemma isEmpty_of_register {acceptance : Acceptance}
    (h : register policy d r = .ok (acceptance, d')) : d'.isEmpty = false := by
  have hcases := registers_register policy d r
  rw [h] at hcases
  cases hcases <;> exact isEmpty_insert ..

lemma allows_of_register {acceptance : Acceptance}
    (h : register policy d r = .ok (acceptance, d')) : policy.allows r.declared = true := by
  have hcases := registers_register policy d r
  rw [h] at hcases
  cases hcases with
  | inserted allowed _ => exact allowed
  | refreshed allowed _ _ _ => exact allowed

lemma Reflects.insert (h : d.Reflects rs) {entry : DirectoryEntry}
    (hmanager : ∃ r' ∈ rs ++ [r], r'.manager.keyType = r.manager.keyType
      ∧ entry.manager = r'.manager ∧ entry.implementingClass = r'.manager.implementingClass
      ∧ entry.primitives = r'.manager.primitives)
    (hallowed : entry.newKeyAllowed = r.newKeyAllowed) :
    (d.insert r.manager.keyType entry).Reflects (rs ++ [r]) := by
  intro keyType entry' hfound
  by_cases hkey : keyType = r.manager.keyType
  · subst hkey
    rw [find?_insert_self] at hfound
    obtain rfl := Option.some.inj hfound
    exact ⟨hmanager, r, List.mem_append_right _ (List.mem_singleton_self r), rfl, hallowed⟩
  · rw [find?_insert_of_ne hkey] at hfound
    obtain ⟨⟨r₁, hr₁, hmanager₁⟩, r₂, hr₂, hallowed₂⟩ := h keyType entry' hfound
    exact ⟨⟨r₁, List.mem_append_left _ hr₁, hmanager₁⟩, r₂, List.mem_append_left _ hr₂, hallowed₂⟩

/-- An accepted registration joins those that the entries go back to. -/
lemma Conforms.register {acceptance : Acceptance} (h : Conforms policy d rs)
    (hregister : register policy d r = .ok (acceptance, d')) : Conforms policy d' (rs ++ [r]) := by
  have hallowed := allows_of_register hregister
  have hmem : r ∈ rs ++ [r] := List.mem_append_right _ (List.mem_singleton_self r)
  constructor
  · have hcases := registers_register policy d r
    rw [hregister] at hcases
    cases hcases with
    | inserted _ _ => exact h.reflects.insert ⟨r, hmem, rfl, rfl, rfl, rfl⟩ rfl
    | @refreshed existing _ found _ _ =>
      refine h.reflects.insert ?_ ?_
      · rw [Request.refreshed]
        split
        · exact ⟨r, hmem, rfl, rfl, rfl, rfl⟩
        · obtain ⟨⟨r₁, hr₁, hmanager⟩, -⟩ := h.reflects _ existing found
          exact ⟨r₁, List.mem_append_left _ hr₁, hmanager⟩
      · rw [Request.refreshed]
        split <;> rfl
  · intro hempty
    rw [isEmpty_of_register hregister] at hempty
    cases hempty
  · intro hrestricted
    exact .inl (eq_of_allows hallowed hrestricted).2
  · intro hrestricted r' hr'
    rcases List.mem_append.1 hr' with hr' | hr'
    · exact h.declared hrestricted r' hr'
    · rw [List.mem_singleton.1 hr']
      exact (eq_of_allows hallowed hrestricted).1

/-- A policy is restricted again, or for the first time over a directory that is empty. -/
lemma Conforms.restrict (h : Conforms policy d rs)
    (hready : policy.restricted = true ∨ d.isEmpty = true) : Conforms policy.restrict d rs where
  reflects := h.reflects
  eq_nil := h.eq_nil
  available _ := hready.elim h.available .inr
  declared _ := by
    rcases hready with hrestricted | hempty
    · exact h.declared hrestricted
    · rw [h.eq_nil hempty]
      nofun

end Keyring.Directory
