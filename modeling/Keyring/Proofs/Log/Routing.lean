/-
# Which handler writes

Loggers are configured one after the other, some of them more than once.  A logger that was
configured has one handler, and one with a name keeps its records to itself.  So on the way from a
logger to the root the first one that was configured is where a record ends, and its handler is the
only one that may write it.

* `Configuration` is one time that a logger was configured, and `lastHandler?` the handler that a
  logger got last.
* `Configured` says what the loggers are like after some configurations; one more keeps it
  (`Configured.carryOut`).
* `Configured.handlersFor_eq`: who writes a record.
-/
import Keyring.Log.Tree
import Keyring.Proofs.Named

namespace Keyring.Log

/-! ## Loggers by name -/

lemma Tree.logger_setLogger (t : Tree) (name other : String) (l : Logger) :
    (t.setLogger name l).logger other = if other = name then l else t.logger other := by
  rw [logger, setLogger, Named.lookup_cons]
  by_cases h : other = name
  · rw [if_pos h, if_pos h, Option.getD_some]
  · rw [if_neg h, if_neg h, logger, ← Named.lookup_filter_ne h t.loggers]

/-- The logger of a name has one handler and its level, and a logger with a name keeps its records
to itself. -/
structure Gives (name : String) (h : Handler) (l : Logger) : Prop where
  handlers : l.handlers = [h]
  level : l.level = h.level
  keeps : name ≠ "" → l.propagate = false

/-! ## Configurations -/

/-- A logger is configured: its name, or none for the root, and the handler that it gets. -/
structure Configuration where
  logger? : Option String
  handler : Handler
deriving DecidableEq

namespace Configuration

/-- The name under which the logger is listed. -/
def name (c : Configuration) : String :=
  loggerName (c.logger?.getD "")

/-- The loggers after it. -/
def carryOut (c : Configuration) (t : Tree) : Tree :=
  t.configure c.logger? c.handler.level c.handler.json c.handler.includeStack

/-- A logger with a name keeps its records to itself. -/
lemma exists_logger_carryOut (c : Configuration) (t : Tree) :
    ∃ l, Gives c.name c.handler l
      ∧ ∀ name, (c.carryOut t).logger name = if name = c.name then l else t.logger name := by
  refine ⟨_, ⟨rfl, rfl, fun hname => ?_⟩, fun name => Tree.logger_setLogger ..⟩
  have hgiven : (c.logger?.getD "").isEmpty = false := by
    rw [String.isEmpty_eq_false_iff]
    intro hempty
    apply hname
    rw [name, hempty]
    rfl
  simp [hgiven]

end Configuration

/-- The handler that a logger was given last. -/
def lastHandler? (cs : List Configuration) (name : String) : Option Handler :=
  (cs.filter fun c => c.name = name).getLast?.map (·.handler)

lemma lastHandler?_append (cs : List Configuration) (c : Configuration) (name : String) :
    lastHandler? (cs ++ [c]) name
      = if name = c.name then some c.handler else lastHandler? cs name := by
  rw [lastHandler?, List.filter_append]
  by_cases h : name = c.name
  · subst h
    simp
  · simp [Ne.symm h, h, lastHandler?]

/-- The handler that writes a record of a level which came to a logger: that of the nearest logger
that has one, if the record reaches its level and the level that decides for the logger it came
to. -/
def Tree.writer? (t : Tree) (handler? : String → Option Handler) (name : String) (level : Int) :
    Option Handler :=
  ((path name).findSome? handler?).filter fun h =>
    0 < level && t.effectiveLevel name ≤ level && h.level ≤ level

/-! ## What the loggers are like -/

/-- Nobody writes, and records go up to the root. -/
structure Tree.Clear (t : Tree) : Prop where
  handlers : ∀ name, (t.logger name).handlers = []
  propagates : ∀ name, (t.logger name).propagate = true

/-- The loggers after some configurations: the last one of each counts, and the other loggers are
as they were at the start. -/
structure Configured (start : Tree) (cs : List Configuration) (t : Tree) : Prop where
  gives : ∀ name h, lastHandler? cs name = some h → Gives name h (t.logger name)
  others : ∀ name, lastHandler? cs name = none → t.logger name = start.logger name

namespace Configured

variable {start t : Tree} {cs : List Configuration}

lemma nil : Configured start [] start :=
  ⟨nofun, fun _ _ => rfl⟩

lemma carryOut (h : Configured start cs t) (c : Configuration) :
    Configured start (cs ++ [c]) (c.carryOut t) := by
  obtain ⟨l, hl, hlogger⟩ := c.exists_logger_carryOut t
  constructor
  · intro name handler hlast
    rw [lastHandler?_append] at hlast
    rw [hlogger]
    by_cases hname : name = c.name
    · rw [if_pos hname] at hlast ⊢
      rw [hname, ← Option.some.inj hlast]
      exact hl
    · rw [if_neg hname] at hlast ⊢
      exact h.gives name handler hlast
  · intro name hlast
    rw [lastHandler?_append] at hlast
    rw [hlogger]
    by_cases hname : name = c.name
    · rw [if_pos hname] at hlast
      cases hlast
    · rw [if_neg hname] at hlast ⊢
      exact h.others name hlast

/-- On the way up from a logger, the first one that was configured has the only handler. -/
lemma handlersOn_pathFrom (h : Configured start cs t) (hclear : start.Clear) (count : Nat)
    (name : String) :
    t.handlersOn (pathFrom count name)
      = ((pathFrom count name).findSome? (lastHandler? cs)).toList := by
  have hroot : t.handlersOn [""] = ([""].findSome? (lastHandler? cs)).toList := by
    rw [Tree.handlersOn, Tree.handlersOn, ite_self, List.append_nil, List.findSome?_singleton]
    cases hlast : lastHandler? cs "" with
    | none => rw [h.others _ hlast, hclear.handlers, Option.toList_none]
    | some handler => rw [(h.gives _ _ hlast).handlers, Option.toList_some]
  induction count generalizing name with
  | zero => exact hroot
  | succ count ih =>
    rw [pathFrom]
    by_cases hname : name = ""
    · rw [if_pos hname, hroot]
    · rw [if_neg hname, Tree.handlersOn, List.findSome?_cons]
      cases hlast : lastHandler? cs name with
      | none =>
        rw [h.others _ hlast, hclear.handlers, hclear.propagates, if_pos rfl, List.nil_append, ih]
      | some handler =>
        have hgives := h.gives _ _ hlast
        rw [hgives.handlers, hgives.keeps hname, if_neg Bool.false_ne_true, List.append_nil,
          Option.toList_some]

/-- Who writes a record is settled. -/
lemma handlersFor_eq (h : Configured start cs t) (hclear : start.Clear) (name : String)
    (level : Int) :
    t.handlersFor name level = (t.writer? (lastHandler? cs) name level).toList := by
  have hpath : t.handlersOn (path name) = ((path name).findSome? (lastHandler? cs)).toList :=
    h.handlersOn_pathFrom hclear _ _
  rw [Tree.handlersFor, hpath, Tree.enabled, Tree.writer?]
  cases (path name).findSome? (lastHandler? cs) with
  | none => exact ite_self []
  | some handler =>
    rw [Option.toList_some, Option.filter_some, List.filter_cons, List.filter_nil, ← ite_and,
      apply_ite Option.toList]
    simp only [Bool.and_eq_true, decide_eq_true_eq, and_assoc]
    rfl

end Configured

end Keyring.Log
