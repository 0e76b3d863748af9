/-
# What the counters count in a session

Whatever clients do, and however it ends, the counters tell how often each event came about while
metrics were switched on.

* `Script.shown_action` is the induction over an operation: it counts what its counted calls count.
* `Call.switch?` says which calls switch metrics on or off.  All counted calls of one call find
  metrics as this left them (`Call.enabled_counted`).
* `Session.shown_after_calls` follows a whole session.
-/
import Keyring.Proofs.Session.Counting
import Mathlib.Data.List.Induction

namespace Keyring.Session

/-! ## What an operation counts -/

/-- What an operation counts is told by the counted calls that it makes. -/
lemma Script.shown_action {α : Type} (p : Script α) (s : State) (e : Event) :
    (p.action s).2.metrics.shown e.counter e.label
      = s.metrics.shown e.counter e.label + told e (p.calls s) := by
  induction p generalizing s with
  | call c => exact c.shown_action s e
  | createUnder policy directory => rfl
  | switch enabled => exact Metrics.shown_congr rfl _ _
  | aside x h => exact Metrics.shown_congr (congrArg Metrics.counts (h s).metrics) _ _
  | bind p f hp hf =>
    have hfirst := hp s
    rcases hrun : p.action s with ⟨e' | a, t⟩
    · rw [hrun] at hfirst
      rw [show (p.bind f).calls s = p.calls s from calls_of_error hrun, action,
        Action.bind_of_error hrun, hfirst]
    · rw [hrun] at hfirst
      rw [show (p.bind f).calls s = p.calls s ++ (f a).calls t from calls_of_ok hrun, action,
        Action.bind_of_ok hrun, hf a t, told_append, ← Nat.add_assoc, ← hfirst]

lemma Call.shown_action (c : Call) (s : State) (e : Event) :
    (c.action s).2.metrics.shown e.counter e.label
      = s.metrics.shown e.counter e.label + told e (c.counted s) := by
  cases c with
  | operation o =>
    rw [action, ← o.action_script]
    exact o.script.shown_action s e
  | reset id => rfl

/-! ## Scripts that do not switch metrics -/

/-- A script finds metrics switched on or off at all of its counted calls as at its start, and
leaves them so. -/
structure Steady {α : Type} (p : Script α) : Prop where
  after : ∀ s : State, (p.action s).2.metrics.enabled = s.metrics.enabled
  calls : ∀ s : State, ∀ made ∈ p.calls s, made.before.metrics.enabled = s.metrics.enabled

namespace Steady

variable {α β : Type}

lemma call (c : Counted) : Steady (.call c) where
  after := c.enabled_action
  calls s made hmade := by
    rw [Script.calls, List.mem_singleton] at hmade
    rw [hmade]
    rfl

lemma createUnder (policy : PolicyId) (directory : Directory) :
    Steady (.createUnder policy directory) where
  after _ := rfl
  calls _ _ hmade := nomatch hmade

lemma aside {x : Action α} (h : Aside x) : Steady (.aside x h) where
  after s := congrArg Metrics.enabled (h s).metrics
  calls _ _ hmade := nomatch hmade

lemma pure (a : α) : Steady (Pure.pure a) := aside _

lemma bind {p : Script α} {f : α → Script β} (hp : Steady p) (hf : ∀ a, Steady (f a)) :
    Steady (p >>= f) where
  after s :=
    Action.Keeps.apply_bind (P := fun t => t.metrics.enabled = s.metrics.enabled) (hp.after s)
      fun a t ht => ((hf a).after t).trans ht
  calls s := by
    have hfirst := hp.after s
    rcases hrun : p.action s with ⟨e | a, t⟩
    · rw [Script.calls_of_error hrun]
      exact hp.calls s
    · rw [hrun] at hfirst
      rw [Script.calls_of_ok hrun, List.forall_mem_append]
      exact ⟨hp.calls s, fun made hmade => ((hf a).calls t made hmade).trans hfirst⟩

lemma forM {f : β → Script Unit} (h : ∀ b, Steady (f b)) (bs : List β) : Steady (bs.forM f) := by
  induction bs with
  | nil => exact pure ()
  | cons b bs ih => exact (h b).bind fun _ => ih

lemma discard {p : Script α} (h : Steady p) : Steady (discard p : Script Unit) :=
  h.bind fun _ => pure ()

lemma ite {c : Prop} [Decidable c] {p q : Script α} (hp : Steady p) (hq : Steady q) :
    Steady (if c then p else q) := by
  split
  · exact hp
  · exact hq

end Steady

namespace Script

lemma steady_note (severity : Log.Severity) (source : Log.Source) (message : String) :
    Steady (note severity source message) := .aside _

lemma steady_signingKey (crypto : Rsa.CryptoModule) (registry : RegistryId)
    (template : Jwt.Template) (customKid : Option Jwt.OfferedKid) :
    Steady (signingKey crypto registry template customKid) := by
  refine .bind (.call _) fun manager => .bind (.call _) fun allowed => ?_
  dsimp only
  refine .ite (.bind (.aside _) fun _ => ?_) ?_
  all_goals
    exact .bind (.aside _) fun _ => .bind (.aside _) fun format => .bind (.aside _) fun _ =>
      .bind (.call _) fun key => .aside _

lemma steady_populate (registry : RegistryId) (templates : TemplatesId) (newKeyAllowed : Bool) :
    Steady (populate registry templates newKeyAllowed) :=
  .bind (.aside _) fun _ => .bind (.aside _) fun _ => .bind (.call _) fun _ =>
    .bind (.aside _) fun _ => .pure _

lemma steady_disallowNewKeys (registry : RegistryId) (keyType : String) :
    Steady (disallowNewKeys registry keyType) :=
  .bind (.call _) fun _ => .ite
    (.bind (.call _) fun _ => .bind (.call _) fun _ => steady_note _ _ _) (.pure _)

lemma steady_apply (id : ContextId) (settings : Settings) : Steady (apply id settings) := by
  refine .bind (.aside _) fun s => ?_
  dsimp only
  refine .ite (.bind (.aside _) fun _ => ?_) ?_
  all_goals
    exact .ite (.bind (.aside _) fun _ => .forM (steady_disallowNewKeys _) _) (.pure _)

lemma steady_revise (id : ContextId) (r : Context.Revision) : Steady (revise id r) :=
  .bind (.aside _) fun _ => .bind (.aside _) fun settings => .bind (.aside _) fun _ =>
    .bind (steady_apply id settings) fun _ => .pure _

lemma steady_bootstrap (id : ContextId) : Steady (bootstrap id) := by
  refine .bind (.aside _) fun s => ?_
  dsimp only
  refine .ite (.bind (.aside _) fun _ => ?_) ?_
  all_goals
    refine .ite (.bind (steady_populate _ _ _).discard fun _ => ?_) ?_
    all_goals exact .bind (.aside _) fun _ => steady_note _ _ _

lemma steady_createContext (settings : Settings) (fill : Bool) :
    Steady (createContext settings fill) := by
  refine .bind (.aside _) fun _ => .bind (.createUnder _ _) fun _ => .bind (.aside _) fun _ =>
    .bind (.aside _) fun id => ?_
  dsimp only
  exact .ite (.bind (steady_bootstrap id) fun _ => .pure _) (.pure _)

end Script

/-- Every operation but switching metrics and asking for the context of the process is steady. -/
lemma Operation.steady_script {o : Operation} (h : ∀ enabled, o ≠ .enableMetrics enabled)
    (hcontext : o ≠ .context) : Steady o.script := by
  cases o with
  | errand e => exact .aside _
  | call c => exact (Steady.call c).discard
  | enableMetrics enabled => exact absurd rfl (h enabled)
  | createRegistry policy =>
    exact Steady.discard (.bind (.aside _) fun _ => .createUnder _ _)
  | createUnder policy source? =>
    exact Steady.discard (.bind (.aside _) fun _ => .createUnder _ _)
  | copy source policy? =>
    exact Steady.discard (.bind (.aside _) fun _ => .bind (.aside _) fun _ => .createUnder _ _)
  | primitive m crypto b =>
    exact Steady.discard (.bind (.aside _) fun _ => .bind (.aside _) fun _ => .call _)
  | newKeyData m crypto b =>
    exact Steady.discard (.bind (.aside _) fun _ => .bind (.aside _) fun _ =>
      .bind (.call _) fun _ => .pure _)
  | signingKey crypto registry template customKid =>
    exact (Script.steady_signingKey crypto registry template customKid).discard
  | populate registry templates newKeyAllowed =>
    exact (Script.steady_populate registry templates newKeyAllowed).discard
  | createContext settings fill => exact (Script.steady_createContext settings fill).discard
  | bootstrap id => exact Script.steady_bootstrap id
  | revise id revision => exact (Script.steady_revise id revision).discard
  | context => exact absurd rfl hcontext

/-! ## Calls that switch metrics -/

/-- What a call switches metrics to, if it switches them.  A client does so directly; and the first
call for the context of the process does so as the settings say that it loads, if their log level
can be used. -/
def Call.switch? (s : State) : Call → Option Bool
  | .operation (.enableMetrics enabled) => some enabled
  | .operation .context =>
    if s.defaultContext?.isSome then none
    else (Settings.load s.host).toOption.bind fun loaded =>
      (Log.requestedLevel loaded.settings.logLevel).toOption.map fun _ =>
        loaded.settings.metricsEnabled
  | _ => none

/-- What the calls of a session switch metrics to, one after the other. -/
def switches (s : State) (calls : List Call) : List Bool :=
  (Run.history Call.action s calls).filterMap fun made => made.call.switch? made.before

/-- Whether metrics are switched on after calls: as the last one that switched them left them, or
else as they were. -/
def switched (s : State) (calls : List Call) : Bool :=
  (switches s calls).getLast?.getD s.metrics.enabled

/-- At the counted calls of a script and behind it metrics are switched on or off like this. -/
structure Script.EnabledAs {α : Type} (p : Script α) (s : State) (enabled : Bool) : Prop where
  after : (p.action s).2.metrics.enabled = enabled
  calls : ∀ made ∈ p.calls s, made.before.metrics.enabled = enabled

lemma Steady.enabledAs {α : Type} {p : Script α} (h : Steady p) (s : State) :
    p.EnabledAs s s.metrics.enabled :=
  ⟨h.after s, h.calls s⟩

namespace Script.EnabledAs

variable {α β : Type} {s t : State} {enabled : Bool}

lemma bind_of_error {p : Script α} {f : α → Script β} {e : Failure}
    (hrun : p.action s = (.error e, t)) (h : p.EnabledAs s enabled) :
    (p >>= f).EnabledAs s enabled := by
  have hafter := h.after
  rw [hrun] at hafter
  constructor
  · change ((p.action >>= fun a => (f a).action) s).2.metrics.enabled = enabled
    rw [Action.bind_of_error hrun]
    exact hafter
  · rw [calls_of_error hrun]
    exact h.calls

/-- A part that makes no counted calls and returns is followed by the rest. -/
lemma bind_of_ok {p : Script α} {f : α → Script β} {a : α} (hnone : p.calls s = [])
    (hrun : p.action s = (.ok a, t)) (h : (f a).EnabledAs t enabled) :
    (p >>= f).EnabledAs s enabled := by
  constructor
  · change ((p.action >>= fun a => (f a).action) s).2.metrics.enabled = enabled
    rw [Action.bind_of_ok hrun]
    exact h.after
  · rw [calls_of_ok hrun, hnone]
    exact h.calls

lemma discard {p : Script α} (h : p.EnabledAs s enabled) :
    (discard p : Script Unit).EnabledAs s enabled where
  after :=
    Action.Keeps.apply_bind (P := fun t => t.metrics.enabled = enabled) h.after fun _ => .pure _
  calls := by
    change ∀ made ∈ (p >>= fun _ => Pure.pure ()).calls s, _
    rcases hrun : p.action s with ⟨e | a, t⟩
    · rw [calls_of_error hrun]
      exact h.calls
    · rw [calls_of_ok hrun]
      exact List.forall_mem_append.2 ⟨h.calls, fun _ hmade => nomatch hmade⟩

end Script.EnabledAs

/-- The context of the process is made after metrics are switched. -/
lemma Script.enabledAs_context (s : State) :
    context.EnabledAs s (((Call.operation .context).switch? s).getD s.metrics.enabled) := by
  refine .bind_of_ok rfl (Action.get_apply s) ?_
  rw [Call.switch?]
  cases s.defaultContext? with
  | some id => exact (Steady.pure id).enabledAs s
  | none =>
    obtain ⟨t, hload, -⟩ := Settings.loadFromHost_apply s
    have hloading : t.metrics = s.metrics := by
      have hspared := Aside.loadFromHost s
      rw [hload] at hspared
      exact hspared.metrics
    cases hloaded : Settings.load s.host with
    | error e =>
      rw [hloaded] at hload
      exact .bind_of_error hload ((Steady.aside _).enabledAs s)
    | ok loaded =>
      rw [hloaded] at hload
      rw [Option.isSome_none, if_neg Bool.false_ne_true, Except.toOption, Option.bind_some,
        ← hloading]
      refine .bind_of_ok rfl hload ?_
      cases hlevel : Log.requestedLevel loaded.settings.logLevel with
      | error e =>
        have hconfigure : Setup.configureLogging loaded.settings.logLevel loaded.settings.logJson
            none "keycore" t = (.error e, t) := by
          rw [Setup.configureLogging, Action.bind_of_ok (Action.get_apply t), Log.Journal.configure,
            hlevel]
          rfl
        exact .bind_of_error hconfigure ((Steady.aside _).enabledAs t)
      | ok level =>
        obtain ⟨u, hconfigure⟩ : ∃ u, Setup.configureLogging loaded.settings.logLevel
            loaded.settings.logJson none "keycore" t = (.ok (), u) := by
          rw [Setup.configureLogging, Action.bind_of_ok (Action.get_apply t), Log.Journal.configure,
            hlevel]
          exact ⟨_, rfl⟩
        let v : State :=
          { u with metrics := { u.metrics with enabled := loaded.settings.metricsEnabled } }
        refine .bind_of_ok rfl hconfigure (.bind_of_ok (t := v) rfl rfl ?_)
        change Script.EnabledAs _ v v.metrics.enabled
        refine Steady.enabledAs ?_ v
        exact .bind (steady_createContext loaded.settings true) fun _ =>
          .bind (.aside _) fun _ => .pure _

/-- All the counted calls that a call makes find metrics switched on or off as the call leaves
them. -/
lemma Call.enabled_counted (c : Call) (s : State) :
    (c.action s).2.metrics.enabled = (c.switch? s).getD s.metrics.enabled
      ∧ ∀ made ∈ c.counted s, made.before.metrics.enabled
        = (c.switch? s).getD s.metrics.enabled := by
  cases c with
  | reset id => exact ⟨rfl, fun _ hmade => nomatch hmade⟩
  | operation o =>
    rw [action, ← o.action_script]
    by_cases hcontext : o = .context
    · subst hcontext
      have hmade := (Script.enabledAs_context s).discard
      exact ⟨hmade.after, hmade.calls⟩
    by_cases hswitch : ∃ enabled, o = .enableMetrics enabled
    · obtain ⟨enabled, rfl⟩ := hswitch
      exact ⟨rfl, fun _ hmade => nomatch hmade⟩
    · have hnone : (Call.operation o).switch? s = none := by
        unfold switch?
        split
        · next h =>
          cases h
          exact absurd ⟨_, rfl⟩ hswitch
        · next h =>
          cases h
          exact absurd rfl hcontext
        · rfl
      rw [hnone]
      have hsteady := (Operation.steady_script (fun enabled h => hswitch ⟨enabled, h⟩)
        hcontext).enabledAs s
      exact ⟨hsteady.after, hsteady.calls⟩

lemma switches_append (s : State) (calls : List Call) (c : Call) :
    switches s (calls ++ [c])
      = switches s calls ++ (c.switch? (Run.final Call.action s calls)).toList := by
  rw [switches, Run.history_append, List.filterMap_append]
  refine congrArg (switches s calls ++ ·) ?_
  rw [Run.history, Run.history, List.filterMap_cons, List.filterMap_nil, Run.make]
  cases c.switch? (Run.final Call.action s calls) <;> rfl

/-- A call switches metrics or leaves them as the calls before it did. -/
lemma switched_append (s : State) (calls : List Call) (c : Call) :
    switched s (calls ++ [c])
      = (c.switch? (Run.final Call.action s calls)).getD (switched s calls) := by
  rw [switched, switches_append]
  cases c.switch? (Run.final Call.action s calls) with
  | none => rw [Option.toList_none, List.append_nil, Option.getD_none, switched]
  | some enabled =>
    rw [Option.toList_some, List.getLast?_concat, Option.getD_some, Option.getD_some]

lemma enabled_final (s : State) (calls : List Call) :
    (Run.final Call.action s calls).metrics.enabled = switched s calls := by
  induction calls using List.reverseRecOn with
  | nil => rfl
  | append_singleton calls c ih =>
    rw [switched_append, ← ih, ← (c.enabled_counted _).1, Run.final_append]
    rfl

/-- Whatever calls come one after the other, whether they fail or not, and whether metrics are
switched on or off in between: every counter shows for every event as many more than at the start as
there were calls that the event tells of and that were made while metrics were switched on.  They
were switched on or off for a call as the last one up to it that switched them asked, or else as
they were at the start.  It does not matter whether a client makes such a call or another operation
on its way; the script of an operation, from which these calls are read, does what the operation
does.  As many self-tests are passed as primitives are made. -/
theorem shown_after_calls (s : State) (calls : List Call) :
    (∀ o : Operation, o.script.action = o.action)
      ∧ (∀ e : Event, (Run.final Call.action s calls).metrics.shown e.counter e.label
          = s.metrics.shown e.counter e.label + told e (counted s calls))
      ∧ (∀ earlier c later, calls = earlier ++ c :: later →
          ∀ made ∈ c.counted (Run.final Call.action s earlier),
            made.before.metrics.enabled = switched s (earlier ++ [c]))
      ∧ told (.selfTest true) (counted s calls)
        = told (.primitiveCreated Jwt.privateKeyType) (counted s calls) := by
  refine ⟨Operation.action_script, fun e => ?_, fun earlier c later _ made hmade => ?_,
    told_selfTest _⟩
  · induction calls generalizing s with
    | nil => rfl
    | cons c calls ih =>
      have hcounted : counted s (c :: calls) = c.counted s ++ counted (c.action s).2 calls := rfl
      rw [hcounted, told_append, ← Nat.add_assoc, ← c.shown_action]
      exact ih _
  · rw [switched_append, ← enabled_final]
    exact (c.enabled_counted _).2 made hmade

end Keyring.Session
