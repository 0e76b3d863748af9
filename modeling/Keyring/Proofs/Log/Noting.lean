/-
# What is noted

A part of this library that logs adds notes to the journal and lets the handlers write them.
Nothing else in the journal changes by that, and the fields that are bound change only for the
time of a block.

* `Log.Journal.append` is a journal with further notes and with the lines that are written for them.
* `Noted` relates a state to one that was reached from it: the journal is the one of before with
  further notes, and the fields that each of these carries have a property.
* `Action.Notes` says so of an action.  The property may depend on the fields that are bound when
  the action begins, and a block (`Notes.withBound`) adds its own fields to these.
-/
import Keyring.Proofs.Action

namespace Keyring

/-! ## Journals -/

namespace Log

/-- What the handlers are given for a note. -/
def Note.record (n : Note) : Record :=
  ({ level := n.severity.level, message := .text n.message } : Statement).record n.source.logger

namespace Journal

/-- The lines that the handlers write for a note, with the fields that it carries. -/
def linesFor (j : Journal) (n : Note) : List String :=
  (j.tree.handlersFor n.source.logger n.severity.level).flatMap
    ({ j with bound := n.bound }.linesOf n.record)

/-- The journal with further notes, and with the lines for these. -/
def append (j : Journal) (notes : List Note) : Journal :=
  { j with notes := j.notes ++ notes, lines := j.lines ++ notes.flatMap j.linesFor }

lemma append_nil (j : Journal) : j.append [] = j := by
  simp [append]

lemma append_append (j : Journal) (earlier later : List Note) :
    (j.append earlier).append later = j.append (earlier ++ later) := by
  -- which lines are written goes neither by the notes nor by the lines that are there
  have hlines : (j.append earlier).linesFor = j.linesFor := rfl
  rw [append, hlines]
  simp [append]

/-- What is noted carries the fields that are bound. -/
lemma note_eq_append (j : Journal) (severity : Severity) (source : Source) (message : String) :
    j.note severity source message = j.append
      (if j.tree.enabled source.logger severity.level then [⟨severity, source, message, j.bound⟩]
        else []) := by
  rw [note]
  split
  · simp only [append, List.flatMap_singleton]
    rfl
  · exact j.append_nil.symm

end Journal

end Log

/-! ## States -/

/-- From the first state to the second there were notes, which carry fields with a property. -/
def Noted (P : Fields → Prop) (s t : State) : Prop :=
  ∃ notes, t.journal = s.journal.append notes ∧ ∀ n ∈ notes, P n.bound

namespace Noted

variable {P Q : Fields → Prop} {s t u : State}

lemma of_journal (h : t.journal = s.journal) : Noted P s t :=
  ⟨[], h.trans s.journal.append_nil.symm, fun _ h => nomatch h⟩

lemma trans (hst : Noted P s t) (htu : Noted P t u) : Noted P s u := by
  obtain ⟨earlier, ht, hearlier⟩ := hst
  obtain ⟨later, hu, hlater⟩ := htu
  refine ⟨earlier ++ later, ?_, List.forall_mem_append.2 ⟨hearlier, hlater⟩⟩
  rw [hu, ht, Log.Journal.append_append]

lemma mono (h : Noted P s t) (hPQ : ∀ c, P c → Q c) : Noted Q s t := by
  obtain ⟨notes, ht, hnotes⟩ := h
  exact ⟨notes, ht, fun n hn => hPQ _ (hnotes n hn)⟩

/-- The fields that are bound are those of before. -/
lemma bound_eq (h : Noted P s t) : t.journal.bound = s.journal.bound := by
  obtain ⟨notes, ht, -⟩ := h
  rw [ht]
  rfl

/-- Notes leave the loggers as they are. -/
lemma tree_eq (h : Noted P s t) : t.journal.tree = s.journal.tree := by
  obtain ⟨notes, ht, -⟩ := h
  rw [ht]
  rfl

lemma format_eq (h : Noted P s t) : t.journal.format = s.journal.format := by
  obtain ⟨notes, ht, -⟩ := h
  rw [ht]
  rfl

end Noted

/-! ## Actions -/

namespace Action

variable {α β : Type}

/-- What an action notes, however it ends, carries fields that are related to those that were bound
when it began. -/
def Notes (P : Fields → Fields → Prop) (x : Action α) : Prop :=
  ∀ s, Noted (P s.journal.bound) s (x s).2

namespace Notes

variable {P Q : Fields → Fields → Prop} {s : State}

lemma mono {x : Action α} (h : Notes P x) (hPQ : ∀ c d, P c d → Q c d) : Notes Q x :=
  fun s => (h s).mono (hPQ _)

lemma of_reads {x : Action α} (h : x.Reads) : Notes P x :=
  fun s => .of_journal (congrArg State.journal (h s))

lemma pure (a : α) : Notes P (Pure.pure a) := fun _ => .of_journal rfl

lemma throw (e : Failure) : Notes P (MonadExcept.throw e : Action α) := fun _ => .of_journal rfl

lemma refuse (reason : Reason) (typeUrl? : Option String) :
    Notes P (Action.refuse reason typeUrl? : Action α) := fun _ => .of_journal rfl

lemma ofExcept (r : Except Failure α) : Notes P (Action.ofExcept r) := by
  cases r with
  | error e => exact throw e
  | ok a => exact pure a

lemma ofKey (r : Except KeyError α) : Notes P (Action.ofKey r) := by
  cases r with
  | error e => exact throw (.key e)
  | ok a => exact pure a

lemma count (e : Event) : Notes P (Action.count e) := fun _ => .of_journal rfl

/-- Changing the state outside the journal. -/
lemma of_modify {f : State → State} (h : ∀ s, (f s).journal = s.journal) :
    Notes P (modify f : Action Unit) := fun s => .of_journal (h s)

lemma note (hP : ∀ c, P c c) (severity : Log.Severity) (source : Log.Source) (message : String) :
    Notes P (Action.note severity source message) := by
  intro s
  refine ⟨_, s.journal.note_eq_append severity source message, fun n hn => ?_⟩
  split at hn
  · rw [List.mem_singleton.1 hn]
    exact hP _
  · cases hn

/-- The rest of an action begins with the fields that were bound at first. -/
lemma at_bind {x : Action α} {f : α → Action β} (hx : Noted (P s.journal.bound) s (x s).2)
    (hf : ∀ a, Noted (P (x s).2.journal.bound) (x s).2 (f a (x s).2).2) :
    Noted (P s.journal.bound) s ((x >>= f) s).2 := by
  rcases hrun : x s with ⟨_ | a, t⟩
  · rw [bind_of_error hrun]
    rwa [hrun] at hx
  · rw [bind_of_ok hrun]
    rw [hrun] at hx hf
    have hrest := hf a
    rw [hx.bound_eq] at hrest
    exact hx.trans hrest

lemma bind {x : Action α} {f : α → Action β} (hx : Notes P x) (hf : ∀ a, Notes P (f a)) :
    Notes P (x >>= f) :=
  fun s => at_bind (hx s) fun a => hf a _

/-- What is done may depend on the state that was read. -/
lemma get_bind {f : State → Action α} (h : ∀ s, Noted (P s.journal.bound) s (f s s).2) :
    Notes P (MonadState.get >>= f) := fun s => by
  rw [bind_of_ok (get_apply s)]
  exact h s

lemma discard {x : Action α} (h : Notes P x) : Notes P (discard x : Action Unit) := fun s => by
  rw [discard_apply]
  exact h s

/-- Within a block its fields are bound as well, and after it they are not. -/
lemma withBound {body : Action α} (h : Notes P body) (fields : Fields) :
    Notes (fun c d => P (c.update (fields.filter fun (_, v) => !v.isNull)) d)
      (Action.withBound fields body) := by
  intro s
  obtain ⟨notes, hafter, hnotes⟩ := h { s with journal := s.journal.bind fields }
  refine ⟨notes, ?_, hnotes⟩
  change (body { s with journal := s.journal.bind fields }).2.journal.rebind s.journal.bound = _
  rw [hafter]
  rfl

end Notes

end Action

end Keyring
