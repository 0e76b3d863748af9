/-
# Taking away the permission of new keys

* `Directory.Coherent` is what registering keeps: no key type comes twice, and every entry stands
  under the key type of its manager and has its class.
* `Directory.disallow` takes the permission of new keys away from some key types and leaves all else
  as it is.
* `Directory.register_disallowing` says what a registration does that asks only for this: it is
  refused under FIPS, or it takes the permission away.
-/
import Keyring.Proofs.Directory
import Mathlib.Data.List.Basic

namespace Keyring

/-- The entry without the permission of new keys. -/
def DirectoryEntry.disallow (e : DirectoryEntry) : DirectoryEntry :=
  { e with newKeyAllowed := false }

lemma DirectoryEntry.disallow_of_not_allowed {e : DirectoryEntry} (h : e.newKeyAllowed = false) :
    e.disallow = e := by
  rw [disallow, ← h]

namespace Directory

variable {policy : FipsPolicy} {d d' : Directory} {r : Request} {keyType : String}
  {entry : DirectoryEntry} {p q : String → Prop} [DecidablePred p] [DecidablePred q]

/-! ## Key types -/

lemma mem_keyTypes_iff : keyType ∈ d.keyTypes ↔ ∃ entry, d.find? keyType = some entry :=
  Named.mem_map_fst_iff

lemma keyTypes_insert (d : Directory) (keyType : String) (entry : DirectoryEntry) :
    (d.insert keyType entry).keyTypes
      = if keyType ∈ d.keyTypes then d.keyTypes else d.keyTypes ++ [keyType] := by
  rw [keyTypes, insert]
  exact Named.map_fst_put ..

/-- Putting an entry that is there already changes nothing. -/
lemma insert_of_find? (h : d.find? keyType = some entry) : d.insert keyType entry = d := by
  obtain ⟨entries⟩ := d
  refine congrArg Directory.mk ?_
  replace h : entries.lookup keyType = some entry := h
  induction entries with
  | nil => cases h
  | cons head entries ih =>
    obtain ⟨k, e⟩ := head
    rw [Named.lookup_cons] at h
    rw [Named.put]
    by_cases hk : k = keyType
    · rw [if_pos hk.symm] at h
      rw [if_pos hk, Option.some.inj h]
    · rw [if_neg (Ne.symm hk)] at h
      rw [if_neg hk, ih h]

/-! ## Directories as registering leaves them -/

/-- No key type comes twice, and every entry stands under the key type of its manager and has the
class of its manager. -/
structure Coherent (d : Directory) : Prop where
  nodup : d.keyTypes.Nodup
  keyed : ∀ keyType entry, d.find? keyType = some entry →
    entry.manager.keyType = keyType ∧ entry.implementingClass = entry.manager.implementingClass

lemma coherent_empty : Coherent {} where
  nodup := List.nodup_nil
  keyed := nofun

lemma Coherent.insert (h : d.Coherent)
    (hentry : entry.manager.keyType = keyType
      ∧ entry.implementingClass = entry.manager.implementingClass) :
    (d.insert keyType entry).Coherent where
  nodup := by
    rw [keyTypes_insert]
    split
    · exact h.nodup
    · next hnew =>
      exact (List.perm_append_singleton ..).nodup_iff.2 (List.nodup_cons.2 ⟨hnew, h.nodup⟩)
  keyed := by
    intro other found hfound
    by_cases hother : other = keyType
    · subst hother
      rw [find?_insert_self] at hfound
      exact Option.some.inj hfound ▸ hentry
    · rw [find?_insert_of_ne hother] at hfound
      exact h.keyed other found hfound

lemma Coherent.register {acceptance : Acceptance} (h : d.Coherent)
    (hregister : register policy d r = .ok (acceptance, d')) : d'.Coherent := by
  have hcases := registers_register policy d r
  rw [hregister] at hcases
  cases hcases with
  | inserted _ _ => exact h.insert ⟨rfl, rfl⟩
  | refreshed _ found _ _ =>
    have hkeyed := h.keyed _ _ found
    refine h.insert ?_
    rw [Request.refreshed]
    split
    · exact ⟨rfl, rfl⟩
    · exact hkeyed

/-! ## Disallowing -/

/-- Takes the permission of new keys away from some key types. -/
def disallow (d : Directory) (p : String → Prop) [DecidablePred p] : Directory :=
  ⟨d.entries.map fun (k, e) => (k, if p k then e.disallow else e)⟩

@[simp] lemma keyTypes_disallow (d : Directory) (p : String → Prop) [DecidablePred p] :
    (d.disallow p).keyTypes = d.keyTypes := by
  rw [keyTypes, disallow, List.map_map]
  rfl

lemma find?_disallow (d : Directory) (p : String → Prop) [DecidablePred p] (keyType : String) :
    (d.disallow p).find? keyType
      = (d.find? keyType).map fun e => if p keyType then e.disallow else e := by
  rw [find?, find?, disallow]
  induction d.entries with
  | nil => rfl
  | cons head entries ih =>
    obtain ⟨k, e⟩ := head
    rw [List.map_cons, Named.lookup_cons, Named.lookup_cons, ih]
    by_cases h : keyType = k
    · subst h
      rw [if_pos rfl, if_pos rfl]
      rfl
    · rw [if_neg h, if_neg h]

lemma disallow_congr (h : ∀ k ∈ d.keyTypes, p k ↔ q k) : d.disallow p = d.disallow q := by
  refine congrArg Directory.mk (List.map_congr_left fun head hhead => ?_)
  simp only [h head.1 (List.mem_map_of_mem hhead)]

lemma disallow_of_forall_not (h : ∀ k ∈ d.keyTypes, ¬ p k) : d.disallow p = d := by
  refine congrArg Directory.mk ?_
  refine (List.map_congr_left fun head hhead => ?_).trans (List.map_id _)
  simp only [if_neg (h head.1 (List.mem_map_of_mem hhead)), id_eq]

lemma disallow_disallow (d : Directory) :
    (d.disallow p).disallow q = d.disallow fun k => p k ∨ q k := by
  refine congrArg Directory.mk ?_
  rw [disallow, List.map_map]
  refine List.map_congr_left fun head _ => ?_
  by_cases hp : p head.1 <;> by_cases hq : q head.1 <;> simp [hp, hq, DirectoryEntry.disallow]

lemma Coherent.disallow (h : d.Coherent) (p : String → Prop) [DecidablePred p] :
    (d.disallow p).Coherent where
  nodup := by
    rw [keyTypes_disallow]
    exact h.nodup
  keyed := by
    intro keyType entry hfound
    rw [find?_disallow, Option.map_eq_some_iff] at hfound
    obtain ⟨before, hbefore, rfl⟩ := hfound
    have hkeyed := h.keyed keyType before hbefore
    split <;> exact hkeyed

lemma disallow_cons (k : String) (e : DirectoryEntry) (entries : List (String × DirectoryEntry)) :
    (Directory.mk ((k, e) :: entries)).disallow p
      = ⟨(k, if p k then e.disallow else e) :: ((Directory.mk entries).disallow p).entries⟩ := rfl

/-- One entry is put in its place without the permission. -/
lemma insert_disallow (h : d.keyTypes.Nodup) (hfound : d.find? keyType = some entry) :
    d.insert keyType entry.disallow = d.disallow (· = keyType) := by
  obtain ⟨entries⟩ := d
  induction entries with
  | nil => cases hfound
  | cons head entries ih =>
    obtain ⟨k, e⟩ := head
    obtain ⟨hnew, h⟩ := List.nodup_cons.1 h
    rw [find?, Named.lookup_cons] at hfound
    rw [disallow_cons, insert, Named.put]
    by_cases hk : k = keyType
    · subst hk
      rw [if_pos rfl] at hfound
      -- the key type does not come again
      have hrest : (Directory.mk entries).disallow (· = k) = ⟨entries⟩ :=
        disallow_of_forall_not fun other hother heq => hnew (heq ▸ hother)
      rw [if_pos rfl, if_pos rfl, hrest, Option.some.inj hfound]
    · rw [if_neg (Ne.symm hk)] at hfound
      rw [if_neg hk, if_neg hk, ← ih h hfound]
      rfl

/-! ## What stays -/

/-- The entries but for the permission of new keys. -/
def served (d : Directory) : List (String × Manager × ManagerClass × List PrimitiveKind) :=
  d.entries.map fun (k, e) => (k, e.manager, e.implementingClass, e.primitives)

@[simp] lemma map_fst_served (d : Directory) : d.served.map (·.1) = d.keyTypes := by
  rw [served, keyTypes, List.map_map]
  rfl

@[simp] lemma served_disallow (d : Directory) (p : String → Prop) [DecidablePred p] :
    (d.disallow p).served = d.served := by
  rw [served, served, disallow, List.map_map]
  refine List.map_congr_left fun head _ => ?_
  by_cases h : p head.1 <;> simp [h, DirectoryEntry.disallow]

/-- No key type has the permission of new keys that did not have it before. -/
def Tightens (d d' : Directory) : Prop :=
  ∀ keyType before after, d.find? keyType = some before → d'.find? keyType = some after →
    before.newKeyAllowed = false → after.newKeyAllowed = false

lemma tightens_refl (d : Directory) : d.Tightens d := by
  intro keyType before after hbefore hafter h
  rw [hbefore] at hafter
  exact Option.some.inj hafter ▸ h

lemma tightens_disallow (d : Directory) (p : String → Prop) [DecidablePred p] :
    d.Tightens (d.disallow p) := by
  intro keyType before after hbefore hafter h
  rw [find?_disallow, hbefore] at hafter
  obtain rfl := Option.some.inj hafter
  split
  · rfl
  · exact h

/-! ## Registering to disallow -/

/-- The registration that takes the permission away from an entry. -/
def disallowing (e : DirectoryEntry) : Request where
  manager := e.manager
  declared := e.manager.fipsStatus
  newKeyAllowed := false

/-- Registering the manager of an entry again, without the permission, is refused if the policy does
not allow the manager, and takes the permission away otherwise. -/
lemma register_disallowing (policy : FipsPolicy) (h : d.Coherent)
    (hfound : d.find? keyType = some entry) :
    register policy d (disallowing entry)
      = if policy.allows entry.manager.fipsStatus then .ok (.refreshed, d.disallow (· = keyType))
        else .error .fips := by
  obtain ⟨hkey, hclass⟩ := h.keyed keyType entry hfound
  have hdeclared : (disallowing entry).declared = entry.manager.fipsStatus := rfl
  replace hkey : (disallowing entry).manager.keyType = keyType := hkey
  have hcases := registers_register policy d (disallowing entry)
  generalize register policy d (disallowing entry) = result at hcases ⊢
  cases hcases with
  | fips forbidden => rw [← hdeclared, forbidden, if_neg Bool.false_ne_true]
  | inserted _ new =>
    rw [hkey, hfound] at new
    cases new
  | otherClass _ found other =>
    rw [hkey, hfound] at found
    exact absurd (Option.some.inj found ▸ hclass) other
  | newKeysDisallowed _ _ _ asked _ => cases asked
  | @refreshed existing allowed found _ _ =>
    rw [hkey, hfound] at found
    obtain rfl := Option.some.inj found
    rw [← hdeclared, allowed, if_pos rfl, hkey, ← insert_disallow h.nodup hfound]
    rfl

/-- A key type withstands a policy: it has the permission, and the policy does not allow its manager
to be registered again. -/
def Withstands (policy : FipsPolicy) (d : Directory) (keyType : String) : Prop :=
  ∃ entry, d.find? keyType = some entry ∧ entry.newKeyAllowed = true
    ∧ policy.allows entry.manager.fipsStatus = false

lemma withstands_disallow_iff :
    Withstands policy (d.disallow p) keyType ↔ Withstands policy d keyType ∧ ¬ p keyType := by
  constructor
  · rintro ⟨entry, hfound, hopen, hforbidden⟩
    rw [find?_disallow, Option.map_eq_some_iff] at hfound
    obtain ⟨before, hbefore, rfl⟩ := hfound
    by_cases h : p keyType
    · rw [if_pos h] at hopen
      cases hopen
    · rw [if_neg h] at hopen hforbidden
      exact ⟨⟨before, hbefore, hopen, hforbidden⟩, h⟩
  · rintro ⟨⟨entry, hfound, hopen, hforbidden⟩, h⟩
    refine ⟨entry, ?_, hopen, hforbidden⟩
    rw [find?_disallow, hfound, Option.map_some, if_neg h]

lemma not_isEmpty_of_withstands (h : Withstands policy d keyType) : ¬ d.isEmpty = true := by
  obtain ⟨entry, hfound, -⟩ := h
  intro hempty
  rw [find?_of_isEmpty hempty] at hfound
  cases hfound

lemma mem_keyTypes_of_withstands (h : Withstands policy d keyType) : keyType ∈ d.keyTypes := by
  obtain ⟨entry, hfound, -⟩ := h
  exact mem_keyTypes_iff.2 ⟨entry, hfound⟩

end Directory

end Keyring
