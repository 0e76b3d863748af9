/-
# What a registry holds decides how calls on it end

A registry holds a policy and a directory.  How a call on it ends, and what it holds then, follows
from these alone.

* `Registry.Demand.answer` works this out; `Registry.Demand.action_apply` says that it is right,
  and what the call does to the state.
* `Registry.separate` is about two registries under policies of their own: calls on one of them
  neither see nor change the other.
-/
import Keyring.Proofs.Conversation
import Keyring.Proofs.Registry.Calls

namespace Keyring.Registry

/-! ## Demands and answers -/

/-- What is asked of a registry. -/
inductive Demand where
  | register (request : Directory.Request)
  | restrict
  | reset
  | lookup (keyType : String) (kind : PrimitiveKind)
  | manager (keyType : String)
  | isNewKeyAllowed (keyType : String)
  | isRegistered (keyType : String)
  | isEmpty
  | keyTypes
  | policy

/-- What the caller is given where a demand is met. -/
inductive Answer where
  | done
  | manager (manager : Manager)
  | truth (truth : Bool)
  | keyTypes (keyTypes : List String)
  | policy (policy : FipsPolicy)

/-- What a registry holds. -/
structure Contents where
  policy : FipsPolicy
  directory : Directory

/-- What a registry holds in a state. -/
def contents (id : RegistryId) (s : State) : Contents where
  policy := s.policyOf id
  directory := s.directory id

namespace Demand

/-- What a demand does. -/
def action (id : RegistryId) : Demand → Action Answer
  | register r => do
    Registry.register id r
    pure .done
  | restrict => do
    Registry.restrict id
    pure .done
  | reset => do
    Registry.reset id
    pure .done
  | lookup keyType kind => do pure (.manager (← Registry.lookup id keyType kind))
  | manager keyType => do pure (.manager (← Registry.manager id keyType))
  | isNewKeyAllowed keyType => do pure (.truth (← Registry.isNewKeyAllowed id keyType))
  | isRegistered keyType => do pure (.truth (← Registry.isRegistered id keyType))
  | isEmpty => do pure (.truth ((← get).directory id).isEmpty)
  | keyTypes => do pure (.keyTypes ((← get).directory id).keyTypes)
  | policy => do pure (.policy ((← get).policyOf id))

end Demand

namespace Contents

/-- The entry of a key type, or the error for a key type that is not registered. -/
def entry (c : Contents) (keyType : String) : Except Failure DirectoryEntry :=
  match c.directory.find? keyType with
  | some entry => .ok entry
  | none => .error (.key ⟨.keyTypeUnknown keyType, some keyType⟩)

/-- The manager of an entry, if it makes primitives of a kind. -/
def managerFor (keyType : String) (kind : PrimitiveKind) (entry : DirectoryEntry) :
    Except Failure Manager :=
  if entry.supports kind then .ok entry.manager
  else .error (.key ⟨.primitiveUnsupported kind.name entry.implementingClass.name
    (PrimitiveKind.names entry.primitives), some keyType⟩)

end Contents

/-- How a demand ends, and what the registry holds then. -/
def Demand.answer (c : Contents) : Demand → Except Failure Answer × Contents
  | register r =>
    match Directory.register c.policy c.directory r with
    | .error refusal => (.error (.key ⟨refusal.reason r, some r.manager.keyType⟩), c)
    | .ok (_, directory) => (.ok .done, { c with directory })
  | restrict =>
    match Directory.restrict c.policy c.directory with
    | .error () => (.error (.key ⟨.registryPopulated, none⟩), c)
    | .ok restricted => (.ok .done, { c with policy := restricted })
  | reset => (.ok .done, { c with directory := {} })
  | lookup keyType kind =>
    ((c.entry keyType).bind fun e => (Contents.managerFor keyType kind e).map .manager, c)
  | manager keyType => ((c.entry keyType).map (.manager ·.manager), c)
  | isNewKeyAllowed keyType => ((c.entry keyType).map (.truth ·.newKeyAllowed), c)
  | isRegistered keyType => (.ok (.truth (c.directory.find? keyType).isSome), c)
  | isEmpty => (.ok (.truth c.directory.isEmpty), c)
  | keyTypes => (.ok (.keyTypes c.directory.keyTypes), c)
  | policy => (.ok (.policy c.policy), c)

/-! ## What demands do -/

variable {id other : RegistryId} {s t : State}

/-- What a demand does to the objects: nothing, or it replaces the directory or the policy. -/
inductive Leaves (id : RegistryId) (s t : State) : Contents → Prop
  | unchanged (h : t.objects = s.objects) : Leaves id s t (contents id s)
  | directory (d : Directory) (h : t.objects = (s.setDirectory id d).objects) :
      Leaves id s t { contents id s with directory := d }
  | policy (p : FipsPolicy) (h : t.objects = (s.setPolicy (s.registry id).policy p).objects) :
      Leaves id s t { contents id s with policy := p }

lemma entry_answer (id : RegistryId) (keyType : String) (s : State) :
    ∃ t, Registry.entry id keyType s = ((contents id s).entry keyType, t)
      ∧ t.objects = s.objects := by
  cases hfound : (s.directory id).find? keyType with
  | none =>
    refine ⟨s.count (.lookup .unknown), ?_, rfl⟩
    rw [entry_of_none hfound]
    simp only [Contents.entry, contents, hfound]
  | some entry =>
    refine ⟨s, ?_, rfl⟩
    rw [entry_apply hfound]
    simp only [Contents.entry, contents, hfound]

lemma lookup_answer (id : RegistryId) (keyType : String) (kind : PrimitiveKind) (s : State) :
    ∃ t, Registry.lookup id keyType kind s
        = (((contents id s).entry keyType).bind (Contents.managerFor keyType kind), t)
      ∧ t.objects = s.objects := by
  obtain ⟨t, hentry, ht⟩ := entry_answer id keyType s
  cases hfound : (contents id s).entry keyType with
  | error e =>
    rw [hfound] at hentry
    exact ⟨t, Action.bind_of_error hentry, ht⟩
  | ok entry =>
    rw [hfound] at hentry
    rw [lookup, Action.bind_of_ok hentry]
    cases hkind : entry.supports kind with
    | true =>
      refine ⟨t.count (.lookup .found), ?_, ht⟩
      simp only [Except.bind, Contents.managerFor, hkind, if_true]
      rfl
    | false =>
      refine ⟨t.count (.lookup .unsupported), ?_, ht⟩
      simp only [Except.bind, Contents.managerFor, hkind, Bool.false_eq_true, if_false]
      rfl

/-- A demand ends as what the registry holds decides, and changes at most what it holds. -/
lemma Demand.action_apply (c : Demand) (id : RegistryId) (s : State) :
    (c.action id s).1 = (c.answer (contents id s)).1
      ∧ Leaves id s (c.action id s).2 (c.answer (contents id s)).2 := by
  cases c with
  | register r =>
    rw [action, Action.bind_pure_apply, answer]
    cases hregister : Directory.register (s.policyOf id) (s.directory id) r with
    | error refusal =>
      obtain ⟨hout, hobjects⟩ := register_of_error hregister
      rw [hout]
      simp only [contents, hregister]
      exact ⟨rfl, .unchanged hobjects⟩
    | ok accepted =>
      obtain ⟨hout, hobjects⟩ := register_of_ok hregister
      rw [hout]
      simp only [contents, hregister]
      exact ⟨rfl, .directory _ hobjects⟩
  | restrict =>
    rw [action, Action.bind_pure_apply, answer, Directory.restrict]
    rcases restrict_cases id s with ⟨hready, hrun⟩ | ⟨hfree, hempty, hout, hobjects⟩
      | ⟨hfree, hpopulated, hrun⟩
    · rw [hrun]
      simp only [contents, hready, if_true]
      exact ⟨rfl, .unchanged rfl⟩
    · rw [hout]
      simp only [contents, hfree, hempty, Bool.false_eq_true, if_false, if_true]
      exact ⟨rfl, .policy _ hobjects⟩
    · rw [hrun]
      simp only [contents, hfree, hpopulated, Bool.false_eq_true, if_false]
      exact ⟨rfl, .unchanged rfl⟩
  | reset => exact ⟨rfl, .directory {} rfl⟩
  | lookup keyType kind =>
    obtain ⟨t, hrun, ht⟩ := lookup_answer id keyType kind s
    rw [action, Action.bind_pure_apply, hrun, answer]
    refine ⟨?_, .unchanged ht⟩
    cases (contents id s).entry keyType <;> rfl
  | manager keyType =>
    obtain ⟨t, hrun, ht⟩ := entry_answer id keyType s
    rw [action, Action.bind_pure_apply, Registry.manager, Action.bind_pure_apply, hrun, answer]
    refine ⟨?_, .unchanged ht⟩
    cases (contents id s).entry keyType <;> rfl
  | isNewKeyAllowed keyType =>
    obtain ⟨t, hrun, ht⟩ := entry_answer id keyType s
    rw [action, Action.bind_pure_apply, Registry.isNewKeyAllowed, Action.bind_pure_apply, hrun,
      answer]
    refine ⟨?_, .unchanged ht⟩
    cases (contents id s).entry keyType <;> rfl
  | isRegistered keyType => exact ⟨rfl, .unchanged rfl⟩
  | isEmpty => exact ⟨rfl, .unchanged rfl⟩
  | keyTypes => exact ⟨rfl, .unchanged rfl⟩
  | policy => exact ⟨rfl, .unchanged rfl⟩

lemma contents_eq_of_objects (h : t.objects = s.objects) (id : RegistryId) :
    contents id t = contents id s :=
  State.eq_of_objects h (contents id) fun _ => rfl

namespace Leaves

variable {c : Contents} {target : RegistryId}

/-- A demand makes no registries and no policies, and moves no registry to another policy. -/
lemma rows (h : Leaves id s t c) :
    t.registries.next = s.registries.next ∧ t.policies.next = s.policies.next
      ∧ ∀ other, (t.registry other).policy = (s.registry other).policy := by
  cases h with
  | unchanged h =>
    refine ⟨State.next_eq_of_objects h, by rw [State.policies_eq_of_objects h], fun other => ?_⟩
    rw [State.registry_eq_of_objects h]
  | directory d h =>
    refine ⟨(State.next_eq_of_objects h).trans (State.next_setDirectory ..),
      congrArg Table.next (State.policies_eq_of_objects (s := s.setDirectory id d) h),
      fun other => ?_⟩
    rw [State.registry_eq_of_objects h]
    exact State.policy_registry_setDirectory s id d other
  | policy p h =>
    refine ⟨State.next_eq_of_objects (s := s.setPolicy (s.registry id).policy p) h,
      (congrArg Table.next (State.policies_eq_of_objects h)).trans (Table.next_set ..),
      fun other => ?_⟩
    rw [State.registry_eq_of_objects h]
    rfl

lemma contents_self (h : Leaves id s t c) (hthere : id.index < s.registries.next)
    (hgiven : (s.registry id).policy.index < s.policies.next) : contents id t = c := by
  cases h with
  | unchanged h => exact contents_eq_of_objects h id
  | directory d h =>
    rw [contents_eq_of_objects h, contents, State.directory_setDirectory_self hthere,
      State.policyOf, State.policy_registry_setDirectory]
    rfl
  | policy p h =>
    rw [contents_eq_of_objects h, contents, State.policyOf_setPolicy_self hgiven]
    rfl

lemma contents_other (h : Leaves id s t c) (hid : other ≠ id)
    (hpolicy : (s.registry other).policy ≠ (s.registry id).policy) :
    contents other t = contents other s := by
  cases h with
  | unchanged h => exact contents_eq_of_objects h other
  | directory d h =>
    rw [contents_eq_of_objects h, contents, State.directory, State.policyOf,
      State.registry_setDirectory_of_ne hid]
    rfl
  | policy p h =>
    rw [contents_eq_of_objects h, contents]
    refine congrArg (Contents.mk · _) (Table.get_set_of_ne _ _ fun hindex => hpolicy ?_)
    exact congrArg PolicyId.mk hindex.symm

end Leaves

/-! ## Two registries -/

/-- Two registries that are there, each under a policy of its own. -/
structure Apart (id : Side → RegistryId) (s : State) : Prop where
  there : ∀ side, (id side).index < s.registries.next
  given : ∀ side, (s.registry (id side)).policy.index < s.policies.next
  id_ne : ∀ {side other}, other ≠ side → id other ≠ id side
  policy_ne : ∀ {side other}, other ≠ side →
    (s.registry (id other)).policy ≠ (s.registry (id side)).policy

/-- Demands to one of two registries under policies of their own neither see nor change the other
one. -/
lemma separate (id : Side → RegistryId) :
    Conversation.Separate (fun side => contents (id side))
      (fun side (c : Demand) => c.action (id side)) (fun c held => c.answer held) (Apart id) where
  apart := by
    intro s side c hs
    obtain ⟨hregistries, hpolicies, hsame⟩ := (c.action_apply (id side) s).2.rows
    constructor
    · intro other
      rw [hregistries]
      exact hs.there other
    · intro other
      rw [hsame, hpolicies]
      exact hs.given other
    · exact hs.id_ne
    · intro one other hne
      rw [hsame, hsame]
      exact hs.policy_ne hne
  outcome side c _ := (c.action_apply (id side) _).1
  own side c hs := (c.action_apply (id side) _).2.contents_self (hs.there side) (hs.given side)
  other side c _ hs hne :=
    (c.action_apply (id side) _).2.contents_other (hs.id_ne hne) (hs.policy_ne hne)

end Keyring.Registry
