/-
# Copies

A registry is copied with its entries and with a policy like its own, a table of templates with its
templates.  From then on the original and the copy have nothing to do with each other.

* `Registry.apart_copy` and `Templates.apart_copy`: what was just copied is apart from its original.
* `copies_independent`: right after copying the two answer alike, and whatever is called on them
  later, in any order, each is told and holds what it would without the calls on the other.
-/
import Keyring.Proofs.Registry.Answering
import Keyring.SigningKeys

namespace Keyring

open Conversation (Separate Independent)

variable {s t : State}

/-! ## Registries -/

namespace Registry

/-- Original and copy hold what the original held, and are apart. -/
lemma apart_copy {id : RegistryId} (hthere : id.index < s.registries.next)
    (hgiven : (s.registry id).policy.index < s.policies.next) :
    ∃ copy t, Registry.copy id none s = (.ok copy, t)
      ∧ Apart (Side.pick id copy) t
      ∧ ∀ side, contents (Side.pick id copy side) t = contents id s := by
  obtain ⟨t, ht⟩ : ∃ t, { s with
      policies := s.policies.add (s.policyOf id)
      registries := s.registries.add {
        policy := ⟨s.policies.next⟩
        directory := s.directory id } } = t := ⟨_, rfl⟩
  have hnext : t.registries.next = s.registries.next + 1 := by
    rw [← ht, Table.next_add]
  have hpolicies : t.policies.next = s.policies.next + 1 := by
    rw [← ht, Table.next_add]
  have hcopy : t.registry ⟨s.registries.next⟩
      = { policy := ⟨s.policies.next⟩, directory := s.directory id } := by
    rw [← ht]
    exact Table.get_add_next ..
  have horiginal : t.registry id = s.registry id := by
    rw [← ht]
    exact Table.get_add_of_lt _ _ hthere
  have hnew : id ≠ ⟨s.registries.next⟩ := fun h => Nat.ne_of_lt hthere (congrArg RegistryId.index h)
  have hown : (s.registry id).policy ≠ ⟨s.policies.next⟩ := fun h =>
    Nat.ne_of_lt hgiven (congrArg PolicyId.index h)
  have hunder : ∀ side, (t.registry (Side.pick id ⟨s.registries.next⟩ side)).policy
      = Side.pick (s.registry id).policy ⟨s.policies.next⟩ side := fun side => by
    cases side
    · exact congrArg Registry.policy horiginal
    · exact congrArg Registry.policy hcopy
  refine ⟨⟨s.registries.next⟩, t, ?_, ⟨fun side => ?_, fun side => ?_, Side.pick_ne hnew,
    fun hne => ?_⟩, fun side => ?_⟩
  · rw [← ht]
    rfl
  · rw [hnext]
    cases side
    · exact Nat.lt_succ_of_lt hthere
    · exact Nat.lt_succ_self _
  · rw [hpolicies, hunder]
    cases side
    · exact Nat.lt_succ_of_lt hgiven
    · exact Nat.lt_succ_self _
  · rw [hunder, hunder]
    exact Side.pick_ne hown hne
  · have hpolicy : t.policy (Side.pick (s.registry id).policy ⟨s.policies.next⟩ side)
        = s.policyOf id := by
      rw [← ht]
      cases side
      · exact Table.get_add_of_lt _ _ hgiven
      · exact Table.get_add_next ..
    rw [contents, State.policyOf, State.directory, hunder, hpolicy]
    cases side
    · exact congrArg (Contents.mk _ ·.directory) horiginal
    · exact congrArg (Contents.mk _ ·.directory) hcopy

end Registry

/-! ## Tables of templates -/

namespace Templates

/-- What is asked of a table of templates. -/
inductive Demand where
  | putAll (values : List (String × Jwt.Template))
  | get (name : String)
  | names
  | contains (name : String)
  | size

/-- What the caller is given where a demand is met. -/
inductive Answer where
  | done
  | template (template : Jwt.Template)
  | names (names : List String)
  | truth (truth : Bool)
  | size (size : Nat)

namespace Demand

/-- What a demand does. -/
def action (id : TemplatesId) : Demand → Action Answer
  | putAll values => do
    Templates.putAll id values
    pure .done
  | get name => do pure (.template (← Templates.get id name))
  | names => do pure (.names ((← MonadState.get).templates id).names)
  | contains name => do pure (.truth (((← MonadState.get).templates id).contains name))
  | size => do pure (.size ((← MonadState.get).templates id).size)

/-- How a demand ends, and what the table holds then. -/
def answer (held : Jwt.TemplateTable) : Demand → Except Failure Answer × Jwt.TemplateTable
  | putAll values =>
    match held.putAll values with
    | .error e => (.error (.key e), held)
    | .ok table => (.ok .done, table)
  | get name => (((held.get name).mapError .key).map .template, held)
  | names => (.ok (.names held.names), held)
  | contains name => (.ok (.truth (held.contains name)), held)
  | size => (.ok (.size held.size), held)

end Demand

variable {id other : TemplatesId}

lemma setTemplates_self (s : State) (id : TemplatesId) : s.setTemplates id (s.templates id) = s :=
  congrArg (fun templateTables => { s with templateTables }) (Table.set_get _ _)

/-- A demand ends as what the table holds decides, and changes at most this table. -/
lemma Demand.action_apply (c : Demand) (id : TemplatesId) (s : State) :
    (c.action id s).1 = (c.answer (s.templates id)).1
      ∧ (c.action id s).2.objects = (s.setTemplates id (c.answer (s.templates id)).2).objects := by
  cases c with
  | putAll values =>
    rw [action, Action.bind_pure_apply, answer, Templates.putAll,
      Action.bind_of_ok (Action.get_apply s)]
    cases (s.templates id).putAll values with
    | error e =>
      rw [setTemplates_self]
      exact ⟨rfl, rfl⟩
    | ok table => exact ⟨rfl, rfl⟩
  | get name =>
    rw [action, Action.bind_pure_apply, answer, Templates.get,
      Action.bind_of_ok (Action.get_apply s), setTemplates_self]
    cases (s.templates id).get name <;> exact ⟨rfl, rfl⟩
  | names | contains _ | size =>
    rw [answer, setTemplates_self]
    exact ⟨rfl, rfl⟩

/-- Two tables that are there. -/
structure Apart (id : Side → TemplatesId) (s : State) : Prop where
  there : ∀ side, (id side).index < s.templateTables.next
  id_ne : ∀ {side other}, other ≠ side → id other ≠ id side

/-- Demands on one of two tables neither see nor change the other one. -/
lemma separate (id : Side → TemplatesId) :
    Separate (fun side s => s.templates (id side)) (fun side (c : Demand) => c.action (id side))
      (fun c held => c.answer held) (Apart id) where
  apart := by
    intro s side c hs
    refine ⟨fun other => ?_, hs.id_ne⟩
    have hnext := State.eq_of_objects (c.action_apply (id side) s).2 (·.templateTables.next)
      fun _ => rfl
    rw [hnext]
    exact (Table.next_set ..).symm ▸ hs.there other
  outcome side c _ := (c.action_apply (id side) _).1
  own := by
    intro s side c hs
    rw [State.templates_eq_of_objects (c.action_apply (id side) s).2]
    exact Table.get_set_self _ _ _ (hs.there side)
  other := by
    intro s side c other hs hne
    rw [State.templates_eq_of_objects (c.action_apply (id side) s).2]
    exact Table.get_set_of_ne _ _ fun hindex => hs.id_ne hne (congrArg TemplatesId.mk hindex.symm)

/-- Original and copy hold what the original held, and are apart. -/
lemma apart_copy (hthere : id.index < s.templateTables.next) :
    ∃ copy t, create (some id) s = (.ok copy, t)
      ∧ Apart (Side.pick id copy) t
      ∧ ∀ side, t.templates (Side.pick id copy side) = s.templates id := by
  have hnew : id ≠ ⟨s.templateTables.next⟩ := fun h =>
    Nat.ne_of_lt hthere (congrArg TemplatesId.index h)
  refine ⟨⟨s.templateTables.next⟩,
    { s with templateTables := s.templateTables.add (s.templates id) },
    rfl, ⟨fun side => ?_, Side.pick_ne hnew⟩, fun side => ?_⟩
  · cases side
    · exact (Table.next_add ..).symm ▸ Nat.lt_succ_of_lt hthere
    · exact (Table.next_add ..).symm ▸ Nat.lt_succ_self _
  · cases side
    · exact Table.get_add_of_lt _ _ hthere
    · exact Table.get_add_next ..

end Templates

/-! ## Originals and their copies -/

/-- A registry that is there under its policy, and a table of templates that is there, are copied.
Right after copying, original and copy hold what the original held, and all that may be asked of
them is answered alike.  Whatever is asked of the two from then on, in any order, each of them
answers and holds at the end what it would if nothing were asked of the other. -/
theorem copies_independent (registry : RegistryId) (templates : TemplatesId) (s : State)
    (hregistry : registry.index < s.registries.next)
    (hpolicy : (s.registry registry).policy.index < s.policies.next)
    (htemplates : templates.index < s.templateTables.next) :
    (∃ copy t, Registry.copy registry none s = (.ok copy, t)
        ∧ (∀ side, Registry.contents (Side.pick registry copy side) t
          = Registry.contents registry s)
        ∧ (∀ c : Registry.Demand, (c.action copy t).1 = (c.action registry t).1)
        ∧ Independent (fun side => Registry.contents (Side.pick registry copy side))
          (fun side (c : Registry.Demand) => c.action (Side.pick registry copy side)) t)
      ∧ ∃ copy t, Templates.create (some templates) s = (.ok copy, t)
        ∧ (∀ side, t.templates (Side.pick templates copy side) = s.templates templates)
        ∧ (∀ c : Templates.Demand, (c.action copy t).1 = (c.action templates t).1)
        ∧ Independent (fun side t => t.templates (Side.pick templates copy side))
          (fun side (c : Templates.Demand) => c.action (Side.pick templates copy side)) t := by
  constructor
  · obtain ⟨copy, t, hcopy, hapart, hsame⟩ := Registry.apart_copy hregistry hpolicy
    refine ⟨copy, t, hcopy, hsame, fun c => ?_, (Registry.separate _).independent hapart⟩
    have horiginal : Registry.contents registry t = _ := hsame .original
    have hcopied : Registry.contents copy t = _ := hsame .copy
    rw [(c.action_apply copy t).1, (c.action_apply registry t).1, horiginal, hcopied]
  · obtain ⟨copy, t, hcopy, hapart, hsame⟩ := Templates.apart_copy htemplates
    refine ⟨copy, t, hcopy, hsame, fun c => ?_, (Templates.separate _).independent hapart⟩
    have horiginal : t.templates templates = _ := hsame .original
    have hcopied : t.templates copy = _ := hsame .copy
    rw [(c.action_apply copy t).1, (c.action_apply templates t).1, horiginal, hcopied]

/-- A registry with the manager of signing keys, and an empty table of templates. -/
def oneOfEach : State :=
  (Registry.register ⟨0⟩ { manager := .jwtSigner 0 ⟨0⟩ }
    (Templates.create none (Registry.create {} {}).2).2).2

/-- The original is emptied and restricted before anything is asked of the copy. -/
def mixedDemands : List (Side × Registry.Demand) :=
  [(.original, .reset), (.original, .restrict), (.copy, .restrict),
    (.original, .isNewKeyAllowed Jwt.privateKeyType),
    (.copy, .isNewKeyAllowed Jwt.privateKeyType)]

/-- The copy is still populated, so that it cannot be restricted, and a copy of an empty table stays
empty when templates are put into the original. -/
theorem copies_independent_oneOfEach :
    (0 < oneOfEach.registries.next ∧ (oneOfEach.registry ⟨0⟩).policy.index < oneOfEach.policies.next
        ∧ 0 < oneOfEach.templateTables.next)
      ∧ (∃ copy t, Registry.copy ⟨0⟩ none oneOfEach = (.ok copy, t)
        ∧ (Conversation.told
            (fun side (c : Registry.Demand) => c.action (Side.pick ⟨0⟩ copy side)) t
            mixedDemands).filter (·.1 = .copy)
          = [(.copy, .restrict, .error (.key ⟨.registryPopulated, none⟩)),
            (.copy, .isNewKeyAllowed Jwt.privateKeyType, .ok (.truth true))])
      ∧ ∃ copy t, Templates.create (some ⟨0⟩) oneOfEach = (.ok copy, t)
        ∧ (Conversation.told
            (fun side (c : Templates.Demand) => c.action (Side.pick ⟨0⟩ copy side)) t
            [(.original, .putAll Jwt.Template.named), (.copy, .size)]).filter (·.1 = .copy)
          = [(.copy, .size, .ok (.size 0))] := by
  have hregistry : 0 < oneOfEach.registries.next := by decide
  have hpolicy : (oneOfEach.registry ⟨0⟩).policy.index < oneOfEach.policies.next := by decide
  have htemplates : 0 < oneOfEach.templateTables.next := by decide
  obtain ⟨⟨copy, t, hcopy, -, -, hregistries⟩, table, u, htable, -, -, htables⟩ :=
    copies_independent ⟨0⟩ ⟨0⟩ oneOfEach hregistry hpolicy htemplates
  refine ⟨⟨hregistry, hpolicy, htemplates⟩, ⟨copy, t, hcopy, ?_⟩, table, u, htable, ?_⟩
  · rw [(hregistries mixedDemands .copy).1]
    cases hcopy
    rfl
  · rw [(htables _ .copy).1]
    cases htable
    rfl

end Keyring
