/-
# Conversations about an object and its copy

A caller makes calls about two objects, in any order, and is told how each of them ends.  If a call
shows and changes nothing but what the object holds that it is about, the conversation is two
conversations that know nothing of each other.

* `Conversation.told` is what the caller is told, and `Conversation.final` the state at the end.
* `Conversation.Separate` says that calls about one object neither see nor change the other one.
* `Conversation.Independent` is the conclusion, and `Conversation.Separate.independent` the
  induction that leads to it.
-/
import Keyring.Action
import Mathlib.Tactic.Lemma

namespace Keyring

/-- The object or its copy. -/
inductive Side where
  | original
  | copy
deriving DecidableEq

namespace Side

variable {α : Type}

/-- One for the object and one for its copy. -/
def pick (original copy : α) : Side → α
  | .original => original
  | .copy => copy

lemma pick_ne {a b : α} (h : a ≠ b) {side other : Side} (hne : other ≠ side) :
    pick a b other ≠ pick a b side := by
  cases side <;> cases other
  · exact absurd rfl hne
  · exact h.symm
  · exact h
  · exact absurd rfl hne

end Side

namespace Conversation

variable {κ ω ν : Type}

/-- What the calls end with that are made one after the other, about one side or the other. -/
def told (action : Side → κ → Action ω) :
    State → List (Side × κ) → List (Side × κ × Except Failure ω)
  | _, [] => []
  | s, (side, c) :: calls =>
    (side, c, (action side c s).1) :: told action (action side c s).2 calls

/-- The state after the calls. -/
def final (action : Side → κ → Action ω) : State → List (Side × κ) → State
  | s, [] => s
  | s, (side, c) :: calls => final action (action side c s).2 calls

/-- Each side is told and holds at the end what it would if only the calls about it were made. -/
def Independent (view : Side → State → ν) (action : Side → κ → Action ω) (s : State) : Prop :=
  ∀ calls side,
    (told action s calls).filter (·.1 = side) = told action s (calls.filter (·.1 = side))
      ∧ view side (final action s calls) = view side (final action s (calls.filter (·.1 = side)))

/-- What a side holds decides how a call about it ends and what it holds then.  The other side holds
what it held, and the two stay apart. -/
structure Separate (view : Side → State → ν) (action : Side → κ → Action ω)
    (answer : κ → ν → Except Failure ω × ν) (Apart : State → Prop) : Prop where
  apart : ∀ {s} side c, Apart s → Apart (action side c s).2
  outcome : ∀ {s} side c, Apart s → (action side c s).1 = (answer c (view side s)).1
  own : ∀ {s} side c, Apart s → view side (action side c s).2 = (answer c (view side s)).2
  other : ∀ {s} side c other, Apart s → other ≠ side → view other (action side c s).2 = view other s

namespace Separate

variable {view : Side → State → ν} {action : Side → κ → Action ω}
  {answer : κ → ν → Except Failure ω × ν} {Apart : State → Prop} {s t : State} {side : Side}

/-- Two states in which a side holds the same, one with all calls and one with those about it. -/
lemma filter_eq (h : Separate view action answer Apart) (hs : Apart s) (ht : Apart t)
    (hview : view side s = view side t) (calls : List (Side × κ)) :
    (told action s calls).filter (·.1 = side) = told action t (calls.filter (·.1 = side))
      ∧ view side (final action s calls)
        = view side (final action t (calls.filter (·.1 = side))) := by
  induction calls generalizing s t with
  | nil => exact ⟨rfl, hview⟩
  | cons head calls ih =>
    obtain ⟨target, c⟩ := head
    by_cases htarget : target = side
    · subst htarget
      have hafter : view target (action target c s).2 = view target (action target c t).2 := by
        rw [h.own target c hs, h.own target c ht, hview]
      obtain ⟨htold, hfinal⟩ := ih (h.apart target c hs) (h.apart target c ht) hafter
      have hsame : (action target c s).1 = (action target c t).1 := by
        rw [h.outcome target c hs, h.outcome target c ht, hview]
      simp only [told, final, List.filter_cons, decide_true, if_true, htold, hfinal, hsame,
        and_self]
    · -- the side neither hears of the call nor notices it
      have hafter : view side (action target c s).2 = view side t :=
        (h.other target c side hs (Ne.symm htarget)).trans hview
      obtain ⟨htold, hfinal⟩ := ih (h.apart target c hs) ht hafter
      simp only [told, final, List.filter_cons, htarget, decide_false, Bool.false_eq_true, if_false,
        htold, hfinal, and_self]

lemma independent (h : Separate view action answer Apart) (hs : Apart s) :
    Independent view action s :=
  fun calls _ => h.filter_eq hs hs rfl calls

end Separate

end Conversation

end Keyring
