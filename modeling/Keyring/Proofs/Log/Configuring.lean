/-
# Configuring loggers in a session

In a session loggers are configured by calls for it, and the logger of this library also when the
context of the process is made.  Whatever else is done in between, the loggers are as the last
configuration of each left them, so that no record is written twice.

* `Call.configuration?` is the configuration that a call makes.
* `Call.tree_action` is one call, and `configured_final` a whole session.
* `written_by_nearest`: who writes what is logged then.
-/
import Keyring.Proofs.Log.Operations
import Keyring.Proofs.Log.Routing
import Mathlib.Data.List.Induction

namespace Keyring

open Log (Configuration Configured lastHandler?)

/-! ## What is written -/

lemma Log.Tree.handlersFor_of_not_enabled {t : Tree} {logger : String} {level : Int}
    (h : t.enabled logger level = false) : t.handlersFor logger level = [] := by
  rw [handlersFor, h, if_neg Bool.false_ne_true]

/-- What a statement makes of the lines: those of the handlers that its logger leads to, and none if
it has a reserved name. -/
lemma Setup.lines_log (logger : String) (statement : Log.Statement) (s : State) :
    (log logger statement s).2.journal.lines = s.journal.lines ++
      if statement.extras.any fun (name, _) => Log.reservedNames.contains name then []
      else (s.journal.tree.handlersFor logger statement.level).flatMap
        (s.journal.linesOf (statement.record (Log.shownName logger))) := by
  rw [log, Action.bind_of_ok (Action.get_apply s), Log.Journal.log]
  cases henabled : s.journal.tree.enabled logger statement.level with
  | false =>
    rw [Log.Tree.handlersFor_of_not_enabled henabled, List.flatMap_nil, ite_self, List.append_nil]
    rfl
  | true =>
    cases statement.extras.any fun (name, _) => Log.reservedNames.contains name with
    | true => exact (List.append_nil _).symm
    | false => rfl

/-- What a note makes of the lines. -/
lemma Action.lines_note (severity : Log.Severity) (source : Log.Source) (message : String)
    (s : State) :
    (note severity source message s).2.journal.lines = s.journal.lines
      ++ (s.journal.tree.handlersFor source.logger severity.level).flatMap
        (s.journal.linesOf (Log.Note.record ⟨severity, source, message, s.journal.bound⟩)) := by
  change (s.journal.note severity source message).lines = _
  rw [Log.Journal.note]
  cases henabled : s.journal.tree.enabled source.logger severity.level with
  | false =>
    rw [Log.Tree.handlersFor_of_not_enabled henabled, List.flatMap_nil, List.append_nil]
    rfl
  | true => rfl

/-! ## Configurations -/

/-- The configuration that is asked for, if the level is one. -/
def Log.Configuration.requested? (format : Log.Format) (level : Option String) (json : Bool)
    (includeStack : Option Bool) (logger : Option String) : Option Configuration :=
  (Log.requestedLevel level).toOption.map fun level =>
    ⟨logger, ⟨json, level, includeStack.getD format.includeStack⟩⟩

/-- The loggers after a configuration, if there is one. -/
def Log.Tree.after (t : Log.Tree) (c? : Option Configuration) : Log.Tree :=
  c?.elim t (·.carryOut t)

lemma Setup.tree_configureLogging (level : Option String) (json : Bool)
    (includeStack : Option Bool) (logger : Option String) (s : State) :
    (configureLogging level json includeStack logger s).2.journal.tree
      = s.journal.tree.after
        (Configuration.requested? s.journal.format level json includeStack logger) := by
  rw [configureLogging, Action.bind_of_ok (Action.get_apply s), Log.Journal.configure,
    Configuration.requested?]
  cases Log.requestedLevel level <;> rfl

namespace Session

/-- The configuration that a call makes in a state, if it makes one.  The context of the process is
made only once, and after its settings were loaded. -/
def Call.configuration? (s : State) : Call → Option Configuration
  | .operation (.errand (.configureLogging level json includeStack logger)) =>
    Configuration.requested? s.journal.format level json includeStack logger
  | .operation .context =>
    if s.defaultContext?.isSome then none
    else (Settings.load s.host).toOption.bind fun loaded =>
      Configuration.requested? s.journal.format loaded.settings.logLevel loaded.settings.logJson
        none "keycore"
  | _ => none

lemma tree_context (s : State) :
    (Setup.context s).2.journal.tree
      = s.journal.tree.after (Call.configuration? s (.operation .context)) := by
  rw [Setup.context, Action.bind_of_ok (Action.get_apply s), Call.configuration?]
  cases s.defaultContext? with
  | some id => rfl
  | none =>
    have henable : ∀ enabled, (Setup.enableMetrics enabled).OnlyNotes := fun _ _ => .of_journal rfl
    have hmake : ∀ id, Action.OnlyNotes (do
        modify fun s => { s with defaultContext? := some id }
        pure id) := fun _ _ => .of_journal rfl
    have hrest : ∀ settings : Settings, Action.SparesLoggers (do
        Setup.enableMetrics settings.metricsEnabled
        let id ← Context.create settings
        modify fun s => { s with defaultContext? := some id }
        pure id) := fun settings =>
      ((henable _).bind fun _ =>
        (Context.onlyNotes_create settings true).bind hmake).sparesLoggers
    obtain ⟨t, hload, -⟩ := Settings.loadFromHost_apply s
    have hnoted := Settings.onlyNotes_loadFromHost s
    rw [hload] at hnoted
    simp only
    cases hloaded : Settings.load s.host with
    | error e =>
      rw [hloaded] at hload
      rw [Action.bind_of_error hload]
      exact hnoted.tree_eq
    | ok loaded =>
      rw [hloaded] at hload
      rw [Action.bind_of_ok hload, Action.tree_bind fun _ => hrest _, Setup.tree_configureLogging,
        hnoted.tree_eq, hnoted.format_eq, Option.isSome_none, if_neg Bool.false_ne_true,
        Except.toOption, Option.bind_some]

/-- What a call makes of the loggers. -/
lemma Call.tree_action (c : Call) (s : State) :
    (c.action s).2.journal.tree = s.journal.tree.after (c.configuration? s) := by
  cases c with
  | reset id => rfl
  | operation o =>
    by_cases hcontext : o = .context
    · subst hcontext
      change (discard Setup.context s : Except Failure Unit × State).2.journal.tree = _
      rw [Action.discard_apply]
      exact tree_context s
    by_cases hlogger : ∃ level json includeStack logger,
        o = .errand (.configureLogging level json includeStack logger)
    · obtain ⟨level, json, includeStack, logger, rfl⟩ := hlogger
      rw [action, Operation.action, Errand.action, Setup.tree_configureLogging, configuration?]
    · have hnone : (Call.operation o).configuration? s = none := by
        unfold configuration?
        split
        · next h =>
          cases h
          exact absurd ⟨_, _, _, _, rfl⟩ hlogger
        · next h =>
          cases h
          exact absurd rfl hcontext
        · rfl
      rw [hnone]
      exact Operation.sparesLoggers (fun _ _ _ _ h => hlogger ⟨_, _, _, _, h⟩) hcontext s

/-- The configurations that the calls of a session make, one after the other. -/
def configurations (s : State) (calls : List Call) : List Configuration :=
  (Run.history Call.action s calls).filterMap fun made => made.call.configuration? made.before

lemma configurations_append (s : State) (calls : List Call) (c : Call) :
    configurations s (calls ++ [c])
      = configurations s calls ++ (c.configuration? (Run.final Call.action s calls)).toList := by
  rw [configurations, Run.history_append, List.filterMap_append]
  refine congrArg (configurations s calls ++ ·) ?_
  rw [Run.history, Run.history, List.filterMap_cons, List.filterMap_nil, Run.make]
  cases c.configuration? (Run.final Call.action s calls) <;> rfl

/-- The loggers are as the last configuration of each left them. -/
lemma configured_final (s : State) (calls : List Call) :
    Configured s.journal.tree (configurations s calls)
      (Run.final Call.action s calls).journal.tree := by
  induction calls using List.reverseRecOn with
  | nil => exact .nil
  | append_singleton calls c ih =>
    rw [configurations_append, Run.final_append]
    change Configured _ _ (c.action (Run.final Call.action s calls)).2.journal.tree
    rw [c.tree_action]
    cases c.configuration? (Run.final Call.action s calls) with
    | none =>
      rw [Option.toList_none, List.append_nil]
      exact ih
    | some configuration => exact ih.carryOut configuration

/-- Where nobody wrote at first, a logger that was configured in a session has one handler and its
level, those of its last configuration, and no other logger has any.  Whatever is logged then, by a
client or by this library, is written by one handler at most: that of the nearest logger that was
configured. -/
theorem written_by_nearest {s : State} (hclear : s.journal.tree.Clear) (calls : List Call) :
    let last := lastHandler? (configurations s calls)
    let t := Run.final Call.action s calls
    (∀ name, (t.journal.tree.logger name).handlers = (last name).toList
        ∧ (t.journal.tree.logger name).level
          = (last name).elim (s.journal.tree.logger name).level (·.level))
      ∧ (∀ logger level,
        t.journal.tree.handlersFor logger level
          = (t.journal.tree.writer? last logger level).toList)
      ∧ (∀ logger (statement : Log.Statement),
        (Setup.log logger statement t).2.journal.lines = t.journal.lines ++
          if statement.extras.any fun (name, _) => Log.reservedNames.contains name then []
          else (t.journal.tree.writer? last logger statement.level).elim []
            (t.journal.linesOf (statement.record (Log.shownName logger))))
      ∧ ∀ severity source message,
        (Action.note severity source message t).2.journal.lines = t.journal.lines ++
          (t.journal.tree.writer? last source.logger severity.level).elim []
            (t.journal.linesOf (Log.Note.record ⟨severity, source, message, t.journal.bound⟩)) := by
  intro last t
  have hconfigured : Configured s.journal.tree (configurations s calls) t.journal.tree :=
    configured_final s calls
  have hwriter : ∀ logger level, t.journal.tree.handlersFor logger level
      = (t.journal.tree.writer? last logger level).toList :=
    hconfigured.handlersFor_eq hclear
  have hlines : ∀ (h? : Option Log.Handler) (f : Log.Handler → List String),
      h?.toList.flatMap f = h?.elim [] f := by
    intro h? f
    cases h? with
    | none => rfl
    | some h => exact List.flatMap_singleton f h
  refine ⟨fun name => ?_, hwriter, fun logger statement => ?_, fun severity source message => ?_⟩
  · cases hlast : last name with
    | none =>
      rw [hconfigured.others _ hlast]
      exact ⟨hclear.handlers name, rfl⟩
    | some h =>
      have hgives := hconfigured.gives _ _ hlast
      exact ⟨hgives.handlers, hgives.level⟩
  · rw [Setup.lines_log, hwriter, hlines]
  · rw [Action.lines_note, hwriter, hlines]

/-- At first nobody writes. -/
lemma clear_initialTree : Log.initialTree.Clear := by
  constructor <;> intro name
  all_goals
    rw [Log.Tree.logger, Log.initialTree, Named.lookup_cons, Named.lookup_cons, List.lookup_nil]
    split
    · rfl
    · split <;> rfl

/-- The root is configured, the context of the process is made twice, and `app` is configured
twice. -/
def reconfiguring : List Call :=
  [.operation (.errand (.configureLogging "warning" true none none)),
    .operation .context,
    .operation (.errand (.configureLogging "DEBUG" false none "app")),
    .operation (.errand .forgetContext),
    .operation .context,
    .operation (.errand (.configureLogging "ERROR" true (some false) "app"))]

lemma configurations_reconfiguring :
    configurations {} reconfiguring
      = [⟨none, ⟨true, 30, true⟩⟩, ⟨some "keycore", ⟨true, 20, true⟩⟩,
        ⟨some "app", ⟨false, 10, true⟩⟩, ⟨some "keycore", ⟨true, 20, true⟩⟩,
        ⟨some "app", ⟨true, 40, false⟩⟩] := by
  decide +kernel

/-- What is logged through `app.db` is written by the second handler of `app`, from its level on. -/
theorem written_by_nearest_reconfiguring :
    ({} : State).journal.tree.Clear
      ∧ let t := Run.final Call.action {} reconfiguring
        (t.journal.tree.logger "app").handlers = [⟨true, 40, false⟩]
          ∧ (t.journal.tree.logger "keycore").handlers = [⟨true, 20, true⟩]
          ∧ (t.journal.tree.logger "app.db").handlers = []
          ∧ t.journal.tree.handlersFor "app.db" 40 = [⟨true, 40, false⟩]
          ∧ t.journal.tree.handlersFor "app.db" 30 = [] := by
  have hclear : ({} : State).journal.tree.Clear := clear_initialTree
  obtain ⟨hloggers, hwriter, -, -⟩ := written_by_nearest hclear reconfiguring
  rw [configurations_reconfiguring] at hloggers hwriter
  refine ⟨hclear, (hloggers "app").1, (hloggers "keycore").1, (hloggers "app.db").1, ?_, ?_⟩
  · exact (hwriter "app.db" 40).trans (by decide +kernel)
  · exact (hwriter "app.db" 30).trans (by decide +kernel)

/-- A logger and its handler that let everything pass. -/
def letAllPass : List Call :=
  [.operation (.errand (.configureLogging "NOTSET" true none none))]

/-- A record of level zero reaches level zero, and nobody writes it. -/
theorem not_forall_written_levelZero :
    ¬∀ (s : State) (calls : List Call), s.journal.tree.Clear →
      let t := (Run.final Call.action s calls).journal.tree
      ∀ (logger : String) (level : Int) (h : Log.Handler),
        (Log.path logger).findSome? (lastHandler? (configurations s calls)) = some h →
          t.effectiveLevel logger ≤ level → h.level ≤ level → t.handlersFor logger level = [h] := by
  intro h
  have hnearest : (Log.path "app").findSome? (lastHandler? (configurations {} letAllPass))
      = some ⟨true, 0, true⟩ := by decide +kernel
  have hlevel : (Run.final Call.action {} letAllPass).journal.tree.effectiveLevel "app" ≤ 0 := by
    decide +kernel
  have hnobody : (Run.final Call.action {} letAllPass).journal.tree.handlersFor "app" 0 = [] :=
    Log.Tree.handlersFor_of_not_enabled rfl
  have hwritten := h {} letAllPass clear_initialTree "app" 0 _ hnearest hlevel (by decide)
  rw [hnobody] at hwritten
  cases hwritten

end Session

end Keyring
