/-
# The envelope of a line

Whose word the object of a line takes: the record's further fields stand under `meta` if there are
any, and everything else is merged, with the bound fields over the fields of the envelope.  So the
envelope says what it should exactly as long as no bound field impersonates a part of it.

* `lookup_event` finds the fields of the object.
* `Kept` says that the envelope and `meta` say what they should.
* `Impersonates` is a bound field that takes the place of one of them and says something else.
* `kept_iff`: the former holds exactly if there is none of the latter.
-/
import Keyring.Proofs.Log.Line

namespace Keyring.Log

open Json (tree)

variable {f : Format} {includeStack : Bool} {time : String} {bound : Fields} {r : Record}
variable {text line : String}

/-- Without an exception, what the object holds under a name: the further fields under `meta`, or
else the bound field of the name, or else the envelope's. -/
lemma lookup_event (hexception : r.exception? = none) (hdistinct : (bound.map (·.1)).Nodup)
    (name : String) :
    (event f includeStack time bound r text).lookup name
      = if name = "meta" ∧ r.shownExtras ≠ [] then
          some (.dict (scrub f.maxField r.shownExtras).toMembers)
        else ((scrub f.maxField bound).lookup name).or ((envelope f time r text).lookup name) := by
  have hscrubbed : ((scrub f.maxField bound).map (·.1)).Nodup := (map_fst_scrub ..).symm ▸ hdistinct
  have hhead : (eventHead f includeStack time bound r text).lookup name
      = ((scrub f.maxField bound).lookup name).or ((envelope f time r text).lookup name) := by
    have hattached : attached f includeStack r = [] := by rw [attached, hexception]
    rw [eventHead, hattached]
    exact Named.lookup_putAll hscrubbed _ name
  rw [event_eq_eventHead]
  by_cases hextras : r.shownExtras = []
  · rw [if_pos (List.isEmpty_iff.2 hextras), if_neg fun h => h.2 hextras, hhead]
  · rw [if_neg (mt List.isEmpty_iff.1 hextras), Named.lookup_put, hhead]
    by_cases hname : name = "meta"
    · rw [if_pos hname, if_pos ⟨hname, hextras⟩]
    · rw [if_neg hname, if_neg fun h => hname h.1]

/-! ## The line -/

/-- Fields as a line shows them. -/
lemma tree_toMembers (fields : Fields) :
    tree Json.log (.dict fields.toMembers)
      = .object (fields.map fun m => (m.1, tree Json.log m.2)) := by
  rw [Json.tree_dict_log, Json.memberTrees_eq_map, Fields.toMembers, List.map_map]
  rfl

/-- What is read from a line: the members have different names, and they are those of the
object. -/
lemma read?_line (htext : r.text = .ok text)
    (hline : jsonLine f includeStack time bound r = .ok line) :
    ∃ ms, Json.read? line = some (.object ms) ∧ (ms.map (·.1)).Nodup
      ∧ ∀ name, ms.lookup name
        = ((event f includeStack time bound r text).lookup name).map (tree Json.log) := by
  rw [jsonLine_of_text htext] at hline
  refine ⟨_, (Json.read?_of_logText hline).trans (congrArg some (tree_toMembers _)), ?_, ?_⟩
  · rw [List.map_map]
    exact nodup_event
  · exact Named.lookup_map (fun _ => tree Json.log) _

/-! ## What should be there -/

/-- The members of a line say what they should: those of the envelope, and `meta`, if it is there,
the further fields of the record. -/
structure Kept (f : Format) (time : String) (r : Record) (text : String)
    (ms : List (String × Json.Tree)) : Prop where
  envelope : ∀ name v, (envelope f time r text).lookup name = some v →
    ms.lookup name = some (tree Json.log v)
  extras : ∀ t, ms.lookup "meta" = some t →
    t = tree Json.log (.dict (scrub f.maxField r.shownExtras).toMembers)

/-- A field that is bound takes the place of a part of the line and says something else: under a
name of the envelope, or as `meta` of a record without further fields. -/
inductive Impersonates (f : Format) (time : String) (r : Record) (text : String) :
    String × Value → Prop
  | envelope {name : String} {v w : Value}
      (hname : (Log.envelope f time r text).lookup name = some w)
      (h : tree Json.log (scrubValue f.maxField name v) ≠ tree Json.log w) :
      Impersonates f time r text (name, v)
  | extras {v : Value} (hextras : r.shownExtras = [])
      (h : tree Json.log (scrubValue f.maxField "meta" v) ≠ .object []) :
      Impersonates f time r text ("meta", v)

/-- The name `meta` is none of the envelope's. -/
lemma lookup_envelope_meta : (envelope f time r text).lookup "meta" = none := rfl

lemma not_meta_of_lookup_envelope {name : String} {v : Value} {p : Prop}
    (h : (envelope f time r text).lookup name = some v) : ¬(name = "meta" ∧ p) := by
  rintro ⟨rfl, -⟩
  rw [lookup_envelope_meta] at h
  cases h

/-- The line of a record without an exception holds the further fields under `meta`, if there are
any, and else under every name the bound field, or that of the envelope if none is bound.  What
should be there is there exactly if no bound field impersonates a part of it. -/
theorem kept_iff (hexception : r.exception? = none) (hdistinct : (bound.map (·.1)).Nodup)
    (htext : r.text = .ok text) (hline : jsonLine f includeStack time bound r = .ok line) :
    ∃ ms, Json.read? line = some (.object ms) ∧ (ms.map (·.1)).Nodup
      ∧ (∀ name, ms.lookup name
        = (if name = "meta" ∧ r.shownExtras ≠ [] then
            some (.dict (scrub f.maxField r.shownExtras).toMembers)
          else ((scrub f.maxField bound).lookup name).or
            ((envelope f time r text).lookup name)).map (tree Json.log))
      ∧ (Kept f time r text ms ↔ ∀ m ∈ bound, ¬Impersonates f time r text m) := by
  obtain ⟨ms, hread, hnames, hlookup⟩ := read?_line htext hline
  simp only [lookup_event hexception hdistinct] at hlookup
  have hbound : ∀ name, (scrub f.maxField bound).lookup name
      = (bound.lookup name).map (scrubValue f.maxField name) :=
    Named.lookup_map (scrubValue f.maxField) bound
  refine ⟨ms, hread, hnames, hlookup, fun hkept m hm himpersonates => ?_, fun hhonest => ⟨?_, ?_⟩⟩
  · cases himpersonates with
    | @envelope name v w hname h =>
      have hbind : bound.lookup name = some v := (Named.lookup_eq_some_iff hdistinct).2 hm
      have hshown := hlookup name
      rw [if_neg (not_meta_of_lookup_envelope hname), hbound, hbind, hkept.envelope name w hname]
        at hshown
      exact h (Option.some.inj hshown).symm
    | @extras v hextras h =>
      have hbind : bound.lookup "meta" = some v := (Named.lookup_eq_some_iff hdistinct).2 hm
      have hshown := hlookup "meta"
      rw [if_neg fun h => h.2 hextras, hbound, hbind] at hshown
      refine h ((hkept.extras _ hshown).trans ?_)
      rw [hextras]
      rfl
  · intro name w hname
    rw [hlookup, if_neg (not_meta_of_lookup_envelope hname), hbound, hname]
    cases hbind : bound.lookup name with
    | none => rfl
    | some v =>
      have hhonest := hhonest _ (Named.mem_of_lookup hbind)
      exact congrArg some (of_not_not fun h => hhonest (.envelope hname h))
  · intro t ht
    rw [hlookup] at ht
    by_cases hextras : r.shownExtras = []
    · rw [if_neg fun h => h.2 hextras, hbound, lookup_envelope_meta, Option.or_none] at ht
      obtain ⟨shown, hshown, rfl⟩ := Option.map_eq_some_iff.1 ht
      obtain ⟨v, hbind, rfl⟩ := Option.map_eq_some_iff.1 hshown
      have hhonest := hhonest _ (Named.mem_of_lookup hbind)
      rw [hextras]
      exact of_not_not fun h => hhonest (.extras hextras h)
    · rw [if_pos ⟨rfl, hextras⟩] at ht
      exact (Option.some.inj ht).symm

/-- Bound fields with a level and further fields of their own. -/
def forgedBound : Fields :=
  [("lvl", .text "DEBUG"), ("meta", .dict [(.text "user", .text "root")])]

/-- A warning without further fields. -/
def plainWarning : Record :=
  ({ level := 30, message := .text "hello" } : Statement).record "app"

/-- The line of a warning that shows a level and further fields which the record does not have. -/
def forgedLine : String :=
  "\x7b\"schema\":\"keycore.log.v1\",\"service\":\"keycore\",\"ts\":\"now\",\"lvl\":\"DEBUG\","
    ++ "\"logger\":\"app\",\"msg\":\"hello\",\"meta\":\x7b\"user\":\"root\"\x7d\x7d"

lemma jsonLine_forgedBound : jsonLine {} true "now" forgedBound plainWarning = .ok forgedLine := by
  have htext : plainWarning.text = .ok "hello" := rfl
  rw [jsonLine_of_text htext]
  exact eq_ok_of_toOption (by decide +kernel)

/-- What is bound under `lvl` and `meta` is shown as the level and the further fields. -/
theorem kept_iff_forgedBound :
    plainWarning.exception? = none ∧ (forgedBound.map (·.1)).Nodup
      ∧ plainWarning.text = .ok "hello"
      ∧ jsonLine {} true "now" forgedBound plainWarning = .ok forgedLine
      ∧ ∃ ms, Json.read? forgedLine = some (.object ms)
        ∧ ms.lookup "lvl" = some (.text "DEBUG")
        ∧ ms.lookup "meta" = some (.object [("user", .text "root")])
        ∧ ms.lookup "msg" = some (.text "hello")
        ∧ ¬Kept {} "now" plainWarning "hello" ms := by
  have htext : plainWarning.text = .ok "hello" := rfl
  obtain ⟨ms, hread, -, hlookup, hkept⟩ := kept_iff rfl (by decide) htext jsonLine_forgedBound
  refine ⟨rfl, by decide, htext, jsonLine_forgedBound, ms, hread, ?_, ?_, ?_, fun h => ?_⟩
  · exact hlookup "lvl"
  · exact hlookup "meta"
  · exact hlookup "msg"
  · exact hkept.1 h _ List.mem_cons_self
      (.envelope rfl fun h => absurd (Json.Tree.text.inj h) (by decide))

/-- What should be there is not always there. -/
theorem not_forall_kept_forgedBound :
    ¬∀ (f : Format) (includeStack : Bool) (time : String) (bound : Fields) (r : Record)
      (text line : String) (ms : List (String × Json.Tree)),
      r.exception? = none → (bound.map (·.1)).Nodup → r.text = .ok text →
        jsonLine f includeStack time bound r = .ok line → Json.read? line = some (.object ms) →
          Kept f time r text ms := by
  intro h
  have htext : plainWarning.text = .ok "hello" := rfl
  obtain ⟨ms, hread, -, hlookup⟩ := read?_line htext jsonLine_forgedBound
  have hkept := h _ _ _ _ _ _ _ ms rfl (by decide) htext jsonLine_forgedBound hread
  have hforged : ms.lookup "lvl" = some (.text "DEBUG") := hlookup "lvl"
  rw [hkept.envelope "lvl" (.text "WARNING") rfl] at hforged
  exact absurd (Json.Tree.text.inj (Option.some.inj hforged)) (by decide)

end Keyring.Log
