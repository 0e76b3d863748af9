/-
# What puts leave in a table of templates

Callers put templates into a table, call after call; a call that is refused leaves no trace, and is
followed by the next one like any other.

* `putAll_of_ok` and `putAll_of_error` are the two ways in which a call ends.
* `find?_final` follows a whole run: the table holds the union of what was put.
* `outcome_of_agreeing`: no call of a run is refused if the calls agree on what a name stands for.
* `bound_after_calls` puts this together.
-/
import Keyring.Proofs.Action
import Keyring.Proofs.Jwt.TemplateTable
import Keyring.Proofs.Run
import Keyring.SigningKeys

namespace Keyring.Templates

open Jwt (Template TemplateTable)

/-! ## Calls -/

/-- Templates that are put together, no name twice. -/
structure Call where
  values : List (String × Template)
  distinct : (values.map (·.1)).Nodup

namespace Call

/-- What a call does. -/
def action (id : TemplatesId) (c : Call) : Action Unit :=
  Templates.putAll id c.values

/-- The calls give the names that they share the same templates. -/
def Agree (c d : Call) : Prop :=
  ∀ name template template', (name, template) ∈ c.values → (name, template') ∈ d.values →
    template = template'

lemma Agree.symm {c d : Call} (h : c.Agree d) : d.Agree c :=
  fun name template template' hd hc => (h name template' template hc hd).symm

/-- The call gives the names that the table has bound the templates that they are bound to. -/
def Fits (t : TemplateTable) (c : Call) : Prop :=
  ∀ p ∈ c.values, ¬ t.BindsOther p.1 p.2

end Call

variable {id : TemplatesId} {s : State} {c : Call} {calls order : List Call} {t : TemplateTable}
  {e : KeyError} {name : String} {template : Template}

/-! ## One call -/

lemma putAll_of_error {values : List (String × Template)}
    (h : (s.templates id).putAll values = .error e) :
    putAll id values s = (.error (.key e), s) := by
  rw [putAll, Action.bind_of_ok (Action.get_apply s), h]
  rfl

lemma putAll_of_ok {values : List (String × Template)}
    (h : (s.templates id).putAll values = .ok t) :
    ∃ u, putAll id values s = (.ok (), u) ∧ u.objects = (s.setTemplates id t).objects := by
  rw [putAll, Action.bind_of_ok (Action.get_apply s), h]
  exact ⟨_, rfl, rfl⟩

lemma action_of_ok (hid : id.index < s.templateTables.next)
    (h : (s.templates id).putAll c.values = .ok t) :
    (c.action id s).1 = .ok () ∧ (c.action id s).2.templates id = t := by
  obtain ⟨u, hput, hu⟩ := putAll_of_ok h
  rw [Call.action, hput, State.templates_eq_of_objects hu]
  exact ⟨rfl, Table.get_set_self _ _ _ hid⟩

lemma next_action (id : TemplatesId) (c : Call) (s : State) :
    (c.action id s).2.templateTables.next = s.templateTables.next := by
  cases h : (s.templates id).putAll c.values with
  | error e => rw [Call.action, putAll_of_error h]
  | ok t =>
    obtain ⟨u, hput, hu⟩ := putAll_of_ok h
    rw [Call.action, hput, State.eq_of_objects hu (·.templateTables.next) fun _ => rfl]
    exact Table.next_set ..

/-- A call succeeds if and only if it fits the table. -/
lemma outcome_eq_ok_iff (hid : id.index < s.templateTables.next) :
    (c.action id s).1 = .ok () ↔ c.Fits (s.templates id) := by
  cases h : (s.templates id).putAll c.values with
  | error e =>
    rw [Call.action, putAll_of_error h]
    refine ⟨nofun, fun hfits => ?_⟩
    rw [TemplateTable.putAll_eq_ok_iff.2 ⟨hfits, rfl⟩] at h
    cases h
  | ok t => exact iff_of_true (action_of_ok hid h).1 (TemplateTable.putAll_eq_ok_iff.1 h).1

/-- A call adds what it puts to the table if it succeeds, and otherwise nothing. -/
lemma find?_action (hid : id.index < s.templateTables.next) :
    ((c.action id s).2.templates id).find? name = some template
      ↔ (s.templates id).find? name = some template
        ∨ (c.action id s).1 = .ok () ∧ (name, template) ∈ c.values := by
  cases h : (s.templates id).putAll c.values with
  | error e => simp [Call.action, putAll_of_error h]
  | ok t =>
    obtain ⟨hok, ht⟩ := action_of_ok hid h
    rw [ht, hok, TemplateTable.find?_of_putAll c.distinct h, and_iff_right rfl]

/-- A call fails if and only if one of its names is bound to another template, and then tells which
one comes first. -/
lemma outcome_eq_error_iff (hid : id.index < s.templateTables.next) {e : Failure} :
    (c.action id s).1 = .error e
      ↔ ∃ name, (s.templates id).FirstConflict c.values name
        ∧ e = .key ⟨.templateConflict name, none⟩ := by
  have hput : (c.action id s).1 = .error e
      ↔ ∃ e', (s.templates id).putAll c.values = .error e' ∧ e = .key e' := by
    cases h : (s.templates id).putAll c.values with
    | error e' => simp [Call.action, putAll_of_error h, eq_comm]
    | ok t => simp [(action_of_ok hid h).1]
  rw [hput]
  constructor
  · rintro ⟨e', hrefused, rfl⟩
    obtain ⟨name, hfirst, rfl⟩ := TemplateTable.putAll_eq_error_iff.1 hrefused
    exact ⟨name, hfirst, rfl⟩
  · rintro ⟨name, hfirst, rfl⟩
    exact ⟨_, TemplateTable.putAll_eq_error_iff.2 ⟨name, hfirst, rfl⟩, rfl⟩

/-- A call that fails changes nothing at all. -/
lemma after_of_error (hid : id.index < s.templateTables.next) {e : Failure}
    (h : (c.action id s).1 = .error e) : (c.action id s).2 = s := by
  cases hput : (s.templates id).putAll c.values with
  | error e' => rw [Call.action, putAll_of_error hput]
  | ok t =>
    rw [(action_of_ok hid hput).1] at h
    cases h

lemma extends_action (hid : id.index < s.templateTables.next) {start : TemplateTable}
    (h : start.Extends (s.templates id)) :
    start.Extends ((c.action id s).2.templates id) := by
  cases hput : (s.templates id).putAll c.values with
  | error e => rwa [Call.action, putAll_of_error hput]
  | ok t =>
    rw [(action_of_ok hid hput).2]
    exact TemplateTable.extends_of_putAll h hput

/-! ## All calls -/

section Run

open Run (history final)

lemma next_final (id : TemplatesId) (s : State) (calls : List Call) :
    (final (Call.action id) s calls).templateTables.next = s.templateTables.next :=
  Run.final_induction (P := fun t => t.templateTables.next = s.templateTables.next)
    (fun c t ht => (next_action id c t).trans ht) rfl calls

/-- The table holds what it held at the start and what the calls that succeeded put. -/
lemma find?_final (hid : id.index < s.templateTables.next) (calls : List Call) :
    ((final (Call.action id) s calls).templates id).find? name = some template
      ↔ (s.templates id).find? name = some template
        ∨ ∃ made ∈ history (Call.action id) s calls,
          made.outcome = .ok () ∧ (name, template) ∈ made.call.values := by
  induction calls generalizing s with
  | nil => simp [final, history]
  | cons c calls ih =>
    have hnext : id.index < (c.action id s).2.templateTables.next := by rwa [next_action]
    rw [final, ih hnext, find?_action hid, history, List.exists_mem_cons_iff, or_assoc]
    rfl

/-- The names of the table go on from those at the start. -/
lemma extends_final (hid : id.index < s.templateTables.next) (calls : List Call) :
    (s.templates id).Extends ((final (Call.action id) s calls).templates id) :=
  (Run.final_induction
    (P := fun t => id.index < t.templateTables.next ∧ (s.templates id).Extends (t.templates id))
    (fun c t ⟨ht, hextends⟩ => ⟨by rwa [next_action], extends_action ht hextends⟩)
    ⟨hid, .refl _⟩ calls).2

/-- Calls that agree with one another and with the table all succeed. -/
lemma outcome_of_agreeing (hid : id.index < s.templateTables.next)
    (hfits : ∀ c ∈ calls, c.Fits (s.templates id)) (hagree : calls.Pairwise Call.Agree) :
    ∀ made ∈ history (Call.action id) s calls, made.outcome = .ok () := by
  induction calls generalizing s with
  | nil => exact List.forall_mem_nil _
  | cons c calls ih =>
    obtain ⟨hfit, hfits⟩ := List.forall_mem_cons.1 hfits
    obtain ⟨hagree, hpairs⟩ := List.pairwise_cons.1 hagree
    have hok : (c.action id s).1 = .ok () := (outcome_eq_ok_iff hid).2 hfit
    have hnext : id.index < (c.action id s).2.templateTables.next := by rwa [next_action]
    refine List.forall_mem_cons.2 ⟨hok, ih hnext (fun d hd p hp => ?_) hpairs⟩
    rintro ⟨bound, hbound, hne⟩
    -- what is bound now was bound before or has just been put
    rcases (find?_action hid).1 hbound with hbefore | ⟨-, hput⟩
    · exact hfits d hd p hp ⟨bound, hbefore, hne⟩
    · exact hne (hagree d hd _ _ _ hput hp)

/-- After calls that agree the table holds what all of them put, so that their order does not
matter. -/
lemma find?_final_of_agreeing (hid : id.index < s.templateTables.next)
    (hfits : ∀ c ∈ calls, c.Fits (s.templates id)) (hagree : calls.Pairwise Call.Agree) :
    ((final (Call.action id) s calls).templates id).find? name = some template
      ↔ (s.templates id).find? name = some template
        ∨ ∃ c ∈ calls, (name, template) ∈ c.values := by
  have hok := outcome_of_agreeing hid hfits hagree
  have hmade : (∃ c ∈ calls, (name, template) ∈ c.values)
      ↔ ∃ made ∈ history (Call.action id) s calls, (name, template) ∈ made.call.values := by
    conv_lhs => rw [← Run.map_call_history (Call.action id) s calls]
    simp only [List.mem_map, exists_exists_and_eq_and]
  rw [find?_final hid, hmade]
  refine or_congr_right ⟨?_, ?_⟩
  · rintro ⟨made, hmem, -, hput⟩
    exact ⟨made, hmem, hput⟩
  · rintro ⟨made, hmem, hput⟩
    exact ⟨made, hmem, hok made hmem, hput⟩

/-- A table of templates after any calls, whether they succeed or not.

* A call fails if and only if one of its names is bound to another template; the error names the
  first such name, and nothing has changed at all.
* The table holds what it held at the start and what the calls that succeeded put, and nothing else.
* What a name is bound to at some time it is bound to from then on.
* Calls that agree with one another and with the table succeed in whatever order they come, and all
  orders leave the same table. -/
theorem bound_after_calls (hid : id.index < s.templateTables.next) (calls : List Call) :
    (∀ made ∈ history (Call.action id) s calls,
        (∀ e, made.outcome = .error e
          ↔ ∃ name, (made.before.templates id).FirstConflict made.call.values name
            ∧ e = .key ⟨.templateConflict name, none⟩)
        ∧ ∀ e, made.outcome = .error e → made.after = made.before)
      ∧ (∀ name template,
        ((final (Call.action id) s calls).templates id).find? name = some template
          ↔ (s.templates id).find? name = some template
            ∨ ∃ made ∈ history (Call.action id) s calls,
              made.outcome = .ok () ∧ (name, template) ∈ made.call.values)
      ∧ (∀ earlier later, calls = earlier ++ later → ∀ name template,
        ((final (Call.action id) s earlier).templates id).find? name = some template →
          ((final (Call.action id) s calls).templates id).find? name = some template)
      ∧ ((∀ c ∈ calls, c.Fits (s.templates id)) → calls.Pairwise Call.Agree →
        ∀ order, order.Perm calls →
          (∀ made ∈ history (Call.action id) s order, made.outcome = .ok ())
          ∧ ((final (Call.action id) s order).templates id).Same
              ((final (Call.action id) s calls).templates id)) := by
  refine ⟨fun made hmade => ?_, fun name template => find?_final hid calls, ?_, ?_⟩
  · obtain ⟨earlier, c, later, rfl, rfl⟩ := Run.exists_of_mem_history hmade
    have hthere : id.index < (final (Call.action id) s earlier).templateTables.next := by
      rwa [next_final]
    exact ⟨fun e => outcome_eq_error_iff hthere, fun e he => after_of_error hthere he⟩
  · rintro earlier later rfl name template hbound
    have hthere : id.index < (final (Call.action id) s earlier).templateTables.next := by
      rwa [next_final]
    rw [Run.final_append]
    exact (find?_final hthere later).2 (.inl hbound)
  · intro hfits hagree order hperm
    have hfits' : ∀ c ∈ order, c.Fits (s.templates id) := fun c hc => hfits c (hperm.mem_iff.1 hc)
    have hagree' : order.Pairwise Call.Agree := (hperm.pairwise_iff Call.Agree.symm).2 hagree
    refine ⟨outcome_of_agreeing hid hfits' hagree', ?_⟩
    refine TemplateTable.same_of_find? (extends_final hid order) (extends_final hid calls)
      fun name => Option.ext fun template => ?_
    simp only [find?_final_of_agreeing hid hfits' hagree', find?_final_of_agreeing hid hfits hagree,
      hperm.mem_iff]

end Run

/-- A process with one empty table. -/
def oneTable : State := { templateTables := ⟨[{}]⟩ }

lemma leastModulusBits_le_small : Limits.leastModulusBits ≤ 2048 := by decide

lemma leastModulusBits_le_large : Limits.leastModulusBits ≤ 4096 := by decide

/-- A small template and a large one. -/
def smallTemplate : Template := .standard 2048 .rs256 .ignored leastModulusBits_le_small

@[inherit_doc smallTemplate]
def largeTemplate : Template := .standard 4096 .rs512 .ignored leastModulusBits_le_large

/-- The second call has a new name first, and then two names that stand for other templates. -/
def threeCalls : List Call :=
  [⟨[("a", smallTemplate), ("b", smallTemplate)], by decide⟩,
    ⟨[("c", largeTemplate), ("b", largeTemplate), ("a", largeTemplate)], by decide⟩,
    ⟨[("d", largeTemplate), ("a", smallTemplate)], by decide⟩]

/-- The second call is refused because of the first of the two names, and its new name is not bound;
without it the calls may come in any order. -/
theorem bound_after_threeCalls :
    0 < oneTable.templateTables.next
      ∧ (∃ made ∈ Run.history (Call.action ⟨0⟩) oneTable threeCalls,
        made.outcome = .error (.key ⟨.templateConflict "b", none⟩) ∧ made.after = made.before)
      ∧ ((Run.final (Call.action ⟨0⟩) oneTable threeCalls).templates ⟨0⟩).find? "a"
          = some smallTemplate
      ∧ ((Run.final (Call.action ⟨0⟩) oneTable threeCalls).templates ⟨0⟩).find? "c" = none
      ∧ ((Run.final (Call.action ⟨0⟩) oneTable (threeCalls.eraseIdx 1).reverse).templates ⟨0⟩).Same
          ((Run.final (Call.action ⟨0⟩) oneTable (threeCalls.eraseIdx 1)).templates ⟨0⟩) := by
  have hid : (TemplatesId.mk 0).index < oneTable.templateTables.next := Nat.zero_lt_one
  obtain ⟨hmade, hunion, -, -⟩ := bound_after_calls hid threeCalls
  obtain ⟨-, -, -, horders⟩ := bound_after_calls hid (threeCalls.eraseIdx 1)
  refine ⟨hid, ⟨_, List.mem_of_getElem? (i := 1) rfl, ?_⟩, ?_, by decide +kernel, ?_⟩
  · obtain ⟨herror, hunchanged⟩ := hmade _ (List.mem_of_getElem? (i := 1) rfl)
    have hnew : ∀ p ∈ [("c", largeTemplate)],
        ¬ TemplateTable.BindsOther ⟨[("a", smallTemplate), ("b", smallTemplate)]⟩ p.1 p.2 := by
      simp only [← TemplateTable.conflicts_eq_false_iff]
      decide
    have hrefused := (herror _).2
      ⟨"b", ⟨_, largeTemplate, _, rfl, ⟨smallTemplate, rfl, by decide⟩, hnew⟩, rfl⟩
    exact ⟨hrefused, hunchanged _ hrefused⟩
  · exact (hunion "a" smallTemplate).2
      (.inr ⟨_, List.mem_of_getElem? (i := 0) rfl, rfl, List.mem_cons_self⟩)
  · refine (horders (fun c _ p _ => ?_) ?_ _ (List.reverse_perm _)).2
    · rintro ⟨bound, hbound, -⟩
      cases hbound
    · have hagree : ∀ p ∈ [("a", smallTemplate), ("b", smallTemplate)],
          ∀ q ∈ [("d", largeTemplate), ("a", smallTemplate)], p.1 = q.1 → p.2 = q.2 := by decide
      exact List.pairwise_pair.2 fun name template template' hc hd => hagree _ hc _ hd rfl

end Keyring.Templates
