/-
# Runs of calls

Clients make calls one after the other.  A call that fails is followed by the next one like any
other, and where there are several clients a run is one of the orders in which their calls come.

* `Run.history` keeps every call with the state it was made in, its outcome and the state it left;
  `Run.final` is the state at the end.
* `Run.final_induction` is the step from one call to a whole run, and
  `Run.final_induction_of_history` where the calls are made only in some states.
-/
import Keyring.Action
import Mathlib.Tactic.Lemma

namespace Keyring.Run

variable {κ : Type}

/-- A call that was made. -/
structure Made (κ : Type) where
  call : κ
  before : State
  outcome : Except Failure Unit
  after : State

/-- Makes a call. -/
def make (action : κ → Action Unit) (c : κ) (s : State) : Made κ :=
  ⟨c, s, (action c s).1, (action c s).2⟩

/-- The calls made one after the other, whether they succeed or not. -/
def history (action : κ → Action Unit) : State → List κ → List (Made κ)
  | _, [] => []
  | s, c :: calls => make action c s :: history action (action c s).2 calls

/-- The state after the calls. -/
def final (action : κ → Action Unit) : State → List κ → State
  | s, [] => s
  | s, c :: calls => final action (action c s).2 calls

variable {action : κ → Action Unit} {s : State}

lemma final_append (s : State) (earlier later : List κ) :
    final action s (earlier ++ later) = final action (final action s earlier) later := by
  induction earlier generalizing s with
  | nil => rfl
  | cons c earlier ih => exact ih _

/-- Every call is made, and no other. -/
lemma map_call_history (action : κ → Action Unit) (s : State) (calls : List κ) :
    (history action s calls).map (·.call) = calls := by
  induction calls generalizing s with
  | nil => rfl
  | cons c calls ih => exact congrArg (c :: ·) (ih _)

lemma history_append (s : State) (earlier later : List κ) :
    history action s (earlier ++ later)
      = history action s earlier ++ history action (final action s earlier) later := by
  induction earlier generalizing s with
  | nil => rfl
  | cons c earlier ih =>
    rw [List.cons_append, history, history, List.cons_append, ih]
    rfl

lemma forall_history_append {Q : Made κ → Prop} {earlier later : List κ} :
    (∀ made ∈ history action s (earlier ++ later), Q made)
      ↔ (∀ made ∈ history action s earlier, Q made)
        ∧ ∀ made ∈ history action (final action s earlier) later, Q made := by
  rw [history_append, List.forall_mem_append]

/-- What the calls of a run keep in the states that they are made in is kept by the run. -/
lemma final_induction_of_history {P : State → Prop} {Q : κ → State → Prop}
    (step : ∀ c s, Q c s → P s → P (action c s).2) (hs : P s) {calls : List κ}
    (hcalls : ∀ made ∈ history action s calls, Q made.call made.before) :
    P (final action s calls) := by
  induction calls generalizing s with
  | nil => exact hs
  | cons c calls ih =>
    obtain ⟨hc, hrest⟩ := List.forall_mem_cons.1 hcalls
    exact ih (step c s hc hs) hrest

/-- What every call keeps is kept by a run. -/
lemma final_induction {P : State → Prop} (step : ∀ c s, P s → P (action c s).2) (hs : P s)
    (calls : List κ) : P (final action s calls) :=
  final_induction_of_history (Q := fun _ _ => True) (fun c s _ => step c s) hs fun _ _ => trivial

/-- A call of a run was made in the state that the calls before it left. -/
lemma exists_of_mem_history {calls : List κ} {made : Made κ}
    (hmade : made ∈ history action s calls) :
    ∃ earlier c later, calls = earlier ++ c :: later
      ∧ made = make action c (final action s earlier) := by
  induction calls generalizing s with
  | nil => cases hmade
  | cons c calls ih =>
    rw [history, List.mem_cons] at hmade
    rcases hmade with rfl | hmade
    · exact ⟨[], c, calls, rfl, rfl⟩
    · obtain ⟨earlier, c', later, rfl, rfl⟩ := ih hmade
      exact ⟨c :: earlier, c', later, rfl, rfl⟩

end Keyring.Run
