/-
# Disallowing new keys in a registry

A context that disallows new keys takes the permission away from the key types of its registry, one
after the other in their order.

* `State.Files` is what this changes: the directory of one registry.
* `Context.disallowNewKeys_cases` is about one key type, `Context.forM_disallowNewKeys_cases` about
  any, and `Context.disallowAll_cases` about all.
-/
import Keyring.Proofs.Context.Keeping

namespace Keyring

/-! ## One directory -/

namespace State

/-- The directory of one registry is this afterwards; the contexts, the policies and what policy the
registry is under are as before. -/
structure Files (s t : State) (id : RegistryId) (d : Directory) : Prop where
  contexts : t.contexts = s.contexts
  policies : t.policies = s.policies
  next : t.registries.next = s.registries.next
  registry : t.registry id = { s.registry id with directory := d }

namespace Files

variable {s t u : State} {id : RegistryId} {d d' : Directory}

lemma refl (s : State) (id : RegistryId) : Files s s id (s.directory id) := ⟨rfl, rfl, rfl, rfl⟩

lemma trans (h : Files s t id d) (h' : Files t u id d') : Files s u id d' where
  contexts := h'.contexts.trans h.contexts
  policies := h'.policies.trans h.policies
  next := h'.next.trans h.next
  registry := by rw [h'.registry, h.registry]

lemma directory (h : Files s t id d) : t.directory id = d := by
  rw [State.directory, h.registry]

lemma policyOf (h : Files s t id d) : t.policyOf id = s.policyOf id := by
  rw [State.policyOf, policy, h.registry, h.policies]
  rfl

/-- Counting and logging do not matter. -/
lemma congr (h : Files s t id d) (hu : u.objects = t.objects) : Files s u id d where
  contexts := (contexts_eq_of_objects hu).trans h.contexts
  policies := (policies_eq_of_objects hu).trans h.policies
  next := (next_eq_of_objects hu).trans h.next
  registry := (registry_eq_of_objects hu id).trans h.registry

lemma setDirectory (hid : id.index < s.registries.next) (d : Directory) :
    Files s (s.setDirectory id d) id d where
  contexts := rfl
  policies := rfl
  next := next_setDirectory s id d
  registry := registry_setDirectory_self hid d

end Files

end State

namespace Context

/-! ## Taking the permission of new keys away -/

variable {s : State} {registry : RegistryId} {keyType : String} {entry : DirectoryEntry}

/-- The error with which a key type that withstands ends the way through a registry. -/
def insufficient (keyType : String) : Failure :=
  .key ⟨.fipsInsufficient, some keyType⟩

/-- A key type that withstands is refused; from another one the permission is taken away. -/
lemma disallowNewKeys_cases (hid : registry.index < s.registries.next)
    (h : (s.directory registry).Coherent) (hmem : keyType ∈ (s.directory registry).keyTypes) :
    ((s.directory registry).Withstands (s.policyOf registry) keyType
        ∧ ∃ t, disallowNewKeys registry keyType s = (.error (insufficient keyType), t)
          ∧ State.Files s t registry (s.directory registry))
      ∨ (¬ (s.directory registry).Withstands (s.policyOf registry) keyType
        ∧ ∃ t, disallowNewKeys registry keyType s = (.ok (), t)
          ∧ State.Files s t registry ((s.directory registry).disallow (· = keyType))) := by
  obtain ⟨entry, hfound⟩ := Directory.mem_keyTypes_iff.1 hmem
  have hwithstands : (s.directory registry).Withstands (s.policyOf registry) keyType
      ↔ entry.newKeyAllowed = true
        ∧ (s.policyOf registry).allows entry.manager.fipsStatus = false := by
    simp [Directory.Withstands, hfound]
  have hregister := Directory.register_disallowing (s.policyOf registry) h hfound
  rw [disallowNewKeys_apply hfound, hwithstands]
  cases hopen : entry.newKeyAllowed with
  | false =>
    -- the permission was taken away before
    refine .inr ⟨nofun, s, rfl, ?_⟩
    rw [← Directory.insert_disallow h.nodup hfound, DirectoryEntry.disallow_of_not_allowed hopen,
      Directory.insert_of_find? hfound]
    exact State.Files.refl s registry
  | true =>
    simp only [if_true]
    cases hallows : (s.policyOf registry).allows entry.manager.fipsStatus with
    | false =>
      rw [hallows, if_neg Bool.false_ne_true] at hregister
      obtain ⟨hout, hobjects⟩ := Registry.register_of_error hregister
      refine .inl ⟨⟨trivial, rfl⟩, _, Action.bind_of_error (Prod.ext ?_ rfl),
        (State.Files.refl s registry).congr hobjects⟩
      refine hout.trans ?_
      rw [insufficient, ← (h.keyed keyType entry hfound).1]
      rfl
    | true =>
      rw [hallows, if_pos rfl] at hregister
      obtain ⟨hout, hobjects⟩ := Registry.register_of_ok hregister
      exact .inr ⟨nofun, _, Action.bind_of_ok (Prod.ext hout rfl),
        (State.Files.setDirectory hid _).congr hobjects⟩

/-- Going through key types stops at the first that withstands; from those before it the permission
is taken away. -/
lemma forM_disallowNewKeys_cases (hid : registry.index < s.registries.next)
    (h : (s.directory registry).Coherent) {keyTypes : List String}
    (hmem : ∀ k ∈ keyTypes, k ∈ (s.directory registry).keyTypes) :
    (∃ before keyType after t, keyTypes = before ++ keyType :: after
        ∧ (∀ k ∈ before, ¬ (s.directory registry).Withstands (s.policyOf registry) k)
        ∧ (s.directory registry).Withstands (s.policyOf registry) keyType
        ∧ keyTypes.forM (disallowNewKeys registry) s = (.error (insufficient keyType), t)
        ∧ State.Files s t registry ((s.directory registry).disallow (· ∈ before)))
      ∨ ((∀ k ∈ keyTypes, ¬ (s.directory registry).Withstands (s.policyOf registry) k)
        ∧ ∃ t, keyTypes.forM (disallowNewKeys registry) s = (.ok (), t)
          ∧ State.Files s t registry ((s.directory registry).disallow (· ∈ keyTypes))) := by
  induction keyTypes generalizing s with
  | nil =>
    refine .inr ⟨nofun, s, rfl, ?_⟩
    rw [Directory.disallow_of_forall_not fun _ _ => List.not_mem_nil]
    exact State.Files.refl s registry
  | cons k keyTypes ih =>
    obtain ⟨hk, hrest⟩ := List.forall_mem_cons.1 hmem
    have hfirst : (k :: keyTypes).forM (disallowNewKeys registry)
        = disallowNewKeys registry k >>= fun _ => keyTypes.forM (disallowNewKeys registry) := rfl
    rw [hfirst]
    rcases disallowNewKeys_cases hid h hk with ⟨hwithstands, t, hrun, ht⟩ | ⟨hnot, t, hrun, ht⟩
    · refine .inl ⟨[], k, keyTypes, t, rfl, nofun, hwithstands, Action.bind_of_error hrun, ?_⟩
      rwa [Directory.disallow_of_forall_not fun _ _ => List.not_mem_nil]
    · rw [Action.bind_of_ok hrun]
      -- what was taken away from the first key type makes no difference to the others
      have hsame : ∀ other,
          ((s.directory registry).disallow (· = k)).Withstands (s.policyOf registry) other
            ↔ (s.directory registry).Withstands (s.policyOf registry) other := by
        intro other
        rw [Directory.withstands_disallow_iff, and_iff_left_iff_imp]
        rintro hother rfl
        exact hnot hother
      rw [← ht.next] at hid
      have hstep := ih hid (ht.directory ▸ h.disallow _)
        (by rwa [ht.directory, Directory.keyTypes_disallow])
      rw [ht.directory, ht.policyOf] at hstep
      simp only [hsame] at hstep
      have hfiles : ∀ {ks u}, State.Files t u registry
            (((s.directory registry).disallow (· = k)).disallow (· ∈ ks)) →
          State.Files s u registry ((s.directory registry).disallow (· ∈ k :: ks)) := by
        intro ks u hu
        rw [Directory.disallow_congr fun _ _ => List.mem_cons, ← Directory.disallow_disallow]
        exact ht.trans hu
      rcases hstep with ⟨before, keyType, after, u, rfl, hbefore, hwithstands, hrest, hu⟩
        | ⟨hnone, u, hrest, hu⟩
      · exact .inl ⟨k :: before, keyType, after, u, rfl, List.forall_mem_cons.2 ⟨hnot, hbefore⟩,
          hwithstands, hrest, hfiles hu⟩
      · exact .inr ⟨List.forall_mem_cons.2 ⟨hnot, hnone⟩, u, hrest, hfiles hu⟩

/-- The key types before one of them in the order are those that are less. -/
lemma mem_before_iff {keyTypes before after : List String} (h : keyTypes.Nodup)
    (hsplit : (keyTypes.mergeSort fun a b => a ≤ b) = before ++ keyType :: after) {k : String}
    (hk : k ∈ keyTypes) : k ∈ before ↔ k < keyType := by
  have hperm := List.mergeSort_perm keyTypes fun a b => a ≤ b
  have htrans : ∀ a b c : String, decide (a ≤ b) = true → decide (b ≤ c) = true →
      decide (a ≤ c) = true := fun a b c hab hbc =>
    decide_eq_true (String.le_trans (of_decide_eq_true hab) (of_decide_eq_true hbc))
  have htotal : ∀ a b : String, (decide (a ≤ b) || decide (b ≤ a)) = true := fun a b => by
    simpa using String.le_total a b
  have hsorted := List.pairwise_mergeSort htrans htotal keyTypes
  replace h := hperm.nodup_iff.2 h
  replace hk := hperm.mem_iff.2 hk
  rw [hsplit] at h hsorted hk
  obtain ⟨-, hlater, hbefore⟩ := List.pairwise_append.1 hsorted
  obtain ⟨hafter, -⟩ := List.pairwise_cons.1 hlater
  rw [← String.not_le]
  constructor
  · intro hmem hle
    have hge := of_decide_eq_true (hbefore k hmem keyType List.mem_cons_self)
    obtain rfl := String.le_antisymm hle hge
    exact (List.nodup_append.1 h).2.2 _ hmem _ List.mem_cons_self rfl
  · intro hnot
    rcases List.mem_append.1 hk with hmem | hmem
    · exact hmem
    · rcases List.mem_cons.1 hmem with rfl | hmem
      · exact absurd (String.le_refl k) hnot
      · exact absurd (of_decide_eq_true (hafter k hmem)) hnot

/-- Disallowing new keys of all key types stops at the least that withstands; from those less than
it the permission is taken away. -/
lemma disallowAll_cases (hid : registry.index < s.registries.next)
    (h : (s.directory registry).Coherent) :
    (∃ keyType t, (s.directory registry).Withstands (s.policyOf registry) keyType
        ∧ (∀ k < keyType, ¬ (s.directory registry).Withstands (s.policyOf registry) k)
        ∧ disallowAll registry s = (.error (insufficient keyType), t)
        ∧ State.Files s t registry ((s.directory registry).disallow (· < keyType)))
      ∨ ((∀ k, ¬ (s.directory registry).Withstands (s.policyOf registry) k)
        ∧ ∃ t, disallowAll registry s = (.ok (), t)
          ∧ State.Files s t registry ((s.directory registry).disallow fun _ => True)) := by
  have hmem : ∀ k, k ∈ ((s.directory registry).keyTypes.mergeSort fun a b => a ≤ b)
      ↔ k ∈ (s.directory registry).keyTypes := fun k => List.mem_mergeSort
  rw [disallowAll, Action.bind_of_ok (Action.get_apply s)]
  rcases forM_disallowNewKeys_cases hid h fun k hk => (hmem k).1 hk with
    ⟨before, keyType, after, t, hsplit, hbefore, hwithstands, hrun, ht⟩ | ⟨hnone, t, hrun, ht⟩
  · refine .inl ⟨keyType, t, hwithstands, fun k hk hk' => ?_, hrun, ?_⟩
    · have hregistered := Directory.mem_keyTypes_of_withstands hk'
      exact hbefore k ((mem_before_iff h.nodup hsplit hregistered).2 hk) hk'
    · rwa [Directory.disallow_congr fun k hk => (mem_before_iff h.nodup hsplit hk).symm]
  · refine .inr ⟨fun k hk => ?_, t, hrun, ?_⟩
    · exact hnone k ((hmem k).2 (Directory.mem_keyTypes_of_withstands hk)) hk
    · rwa [Directory.disallow_congr fun k hk => (iff_true_intro ((hmem k).2 hk)).symm]

end Context

end Keyring
