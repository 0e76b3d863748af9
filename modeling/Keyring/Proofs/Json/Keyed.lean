/-
# What log lines can hold

In the style of log lines the encoder writes every value that is spelled, but for one with a key
that JSON cannot hold: texts, numbers, truth values and nothing may be keys, and bytes, tuples and
objects may not.

* `Keyed` says so of keys without the encoder.
* `encode_log_iff`: these are the values that are written.
* `encode_log_of_keyed`: what is written is the text of the tree that the value stands for, a key
  under its text.
-/
import Keyring.Proofs.Json.RoundTrip

namespace Keyring.Json

variable {ms : Members} {items : List Value} {v : Value}

/-! ## Keys -/

/-- JSON can hold all keys in the value. -/
inductive Keyed : Value → Prop
  | null : Keyed .null
  | bool (b : Bool) : Keyed (.bool b)
  | int (i : Int) : Keyed (.int i)
  | float (x : Number.Double) : Keyed (.float x)
  | text (s : String) : Keyed (.text s)
  | bytes (b : Bytes) : Keyed (.bytes b)
  | list {items : List Value} (h : ∀ x ∈ items, Keyed x) : Keyed (.list items)
  | tuple {items : List Value} (h : ∀ x ∈ items, Keyed x) : Keyed (.tuple items)
  | dict {ms : Members} (hkeys : ∀ m ∈ ms, IsName m.1) (h : ∀ m ∈ ms, Keyed m.2) :
      Keyed (.dict ms)
  | object (o : Object) : Keyed (.object o)

/-! ## Texts -/

/-- The members of a dictionary stay in order. -/
lemma tree_dict_log (ms : Members) : tree log (.dict ms) = .object (memberTrees log ms) := by
  rw [tree]
  rfl

/-- Entries are joined by their texts. -/
lemma joinEntries_congr {es fs : List Entry} (h : es.map (·.text) = fs.map (·.text)) :
    joinEntries es = joinEntries fs := by
  induction es generalizing fs with
  | nil =>
    rw [List.map_nil, eq_comm, List.map_eq_nil_iff] at h
    rw [h]
  | cons e es ih =>
    cases fs with
    | nil => cases h
    | cons f fs =>
      obtain ⟨htext : e.text = f.text, hrest⟩ := List.cons.inj h
      cases es with
      | nil =>
        obtain rfl := List.map_eq_nil_iff.1 hrest.symm
        exact htext
      | cons e' es =>
        cases fs with
        | nil => cases hrest
        | cons f' fs =>
          change e.text ++ ',' :: joinEntries (e' :: es) = f.text ++ ',' :: joinEntries (f' :: fs)
          rw [htext, ih hrest]

/-- Members are written under the texts of their keys. -/
lemma encodeEntries_log (hkeys : ∀ m ∈ ms, IsName m.1) (hshort : ∀ m ∈ ms, IsShortKey m.1)
    (h : ∀ m ∈ ms, encode log m.2 = .ok (write false (tree log m.2))) :
    ∃ es, encodeEntries log ms = .ok es
      ∧ es.map (·.text) = (writeMembers false (memberTrees log ms)).map (·.text) := by
  induction ms with
  | nil => exact ⟨[], rfl, rfl⟩
  | cons m ms ih =>
    obtain ⟨k, v⟩ := m
    obtain ⟨hkey, hkeys⟩ := List.forall_mem_cons.1 hkeys
    obtain ⟨hbrief, hshort⟩ := List.forall_mem_cons.1 hshort
    obtain ⟨hvalue, hvalues⟩ := List.forall_mem_cons.1 h
    obtain ⟨name, hname⟩ := exists_keyText_iff.2 ⟨hkey, hbrief⟩
    obtain ⟨es, hes, htexts⟩ := ih hkeys hshort hvalues
    refine ⟨⟨k, string false name ++ ':' :: write false (tree log v)⟩ :: es, ?_, ?_⟩
    · rw [encodeEntries, hname, hvalue, hes]
      rfl
    · rw [memberTrees, writeMembers, keyName, hname, List.map_cons, List.map_cons, htexts]
      rfl

/-- What is written is the text of the tree that the value stands for. -/
theorem encode_log_of_keyed (h : Keyed v) (hspelled : Spelled v) :
    encode log v = .ok (write false (tree log v)) := by
  induction v using Value.induction with
  | null => exact encode_eq_write .null .null
  | bool b => exact encode_eq_write (.bool b) (.bool b)
  | int i => exact encode_eq_write (.int i) hspelled
  | float x => exact encode_eq_write (.float x) (.float x)
  | text s => exact encode_eq_write (.text s) (.text s)
  | bytes b => exact encode_eq_write (.bytes rfl b) (.bytes b)
  | list items ih =>
    cases h with | list h => ?_
    cases hspelled with | list hspelled => ?_
    rw [encode, encodeItems_eq fun x hx => ih x hx (h x hx) (hspelled x hx), tree, write]
    rfl
  | tuple items ih =>
    cases h with | tuple h => ?_
    cases hspelled with | tuple hspelled => ?_
    rw [encode, encodeItems_eq fun x hx => ih x hx (h x hx) (hspelled x hx), tree, write]
    rfl
  | dict ms ih =>
    cases h with | dict hkeys h => ?_
    cases hspelled with | dict hshort hspelled => ?_
    obtain ⟨es, hes, htexts⟩ :=
      encodeEntries_log hkeys hshort fun m hm => ih m hm (h m hm) (hspelled m hm)
    rw [encode, hes, tree_dict_log, write, ← joinEntries_congr htexts]
    rfl
  | object o => exact encode_eq_write (.object rfl o) hspelled

/-! ## What is written -/

/-- The keys of what was written are names. -/
lemma keyed_of_encode (h : ∃ cs, encode log v = .ok cs) : Keyed v := by
  induction v using Value.induction with
  | null => exact .null
  | bool b => exact .bool b
  | int i => exact .int i
  | float x => exact .float x
  | text s => exact .text s
  | bytes b => exact .bytes b
  | list items ih =>
    rw [exists_encode_list_iff, exists_encodeItems_iff] at h
    exact .list fun x hx => ih x hx (h x hx)
  | tuple items ih =>
    rw [encode_tuple, exists_encode_list_iff, exists_encodeItems_iff] at h
    exact .tuple fun x hx => ih x hx (h x hx)
  | dict ms ih =>
    have hentries := exists_encodeEntries_iff.1 (exists_encodeEntries_of_dict h)
    exact .dict (fun m hm => (hentries m hm).1.1) fun m hm => ih m hm (hentries m hm).2
  | object o => exact .object o

/-- A value is written for a log line exactly if JSON can hold its keys and it is spelled. -/
theorem encode_log_iff (v : Value) : (∃ cs, encode log v = .ok cs) ↔ Keyed v ∧ Spelled v :=
  ⟨fun h => ⟨keyed_of_encode h, spelled_of_encode h⟩,
    fun h => ⟨_, encode_log_of_keyed h.1 h.2⟩⟩

lemma logText_eq_ok (h : Keyed v) (hspelled : Spelled v) :
    logText v = .ok (String.ofList (write false (tree log v))) := by
  rw [logText, encode_log_of_keyed h hspelled]
  rfl

/-- The text of a log line is read as the tree of its value. -/
lemma read?_of_logText {line : String} (h : logText v = .ok line) :
    read? line = some (tree log v) := by
  obtain ⟨cs, hcs, -⟩ := bind_eq_ok_iff.1 h
  obtain ⟨hkeyed, hspelled⟩ := (encode_log_iff v).1 ⟨cs, hcs⟩
  rw [logText_eq_ok hkeyed hspelled] at h
  obtain rfl := Except.ok.inj h
  exact read?_write false (readable_tree log v)

end Keyring.Json
