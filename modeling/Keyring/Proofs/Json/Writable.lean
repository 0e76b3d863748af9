/-
# What JSON can hold

The canonical encoder writes a value exactly if JSON can hold it: no bytes and no objects in it, no
whole number with too many digits, and in every dictionary keys that can be put in order.

* `IsName` and `KeysSort` are about keys, and `Writable` about values, without the encoder.
* `Spelled` says that all numbers and objects in a value have a text.  Whatever the style, this is
  so in what is written, by `spelled_of_encode`.
* `encode_canonical_iff` goes through the values, their items and their members.
* `canonicalText?_isSome_iff` is the result for the text.
-/
import Keyring.Json.Encode
import Keyring.Proofs.Error

namespace Keyring.Json

variable {k v : Value} {es : List Entry} {ms : Members} {items : List Value} {style : Style}

/-! ## Keys -/

/-- JSON can hold the key, if it is not too long. -/
inductive IsName : Value → Prop
  | text (s : String) : IsName (.text s)
  | int (i : Int) : IsName (.int i)
  | float (x : Number.Double) : IsName (.float x)
  | bool (b : Bool) : IsName (.bool b)
  | null : IsName .null

/-- The key is no whole number with too many digits. -/
def IsShortKey (k : Value) : Prop :=
  ∀ i, k = .int i → Number.IsShort i

lemma isShortKey_text (s : String) : IsShortKey (.text s) := nofun

/-- The keys can be put in order: they are all texts, or all numbers, or there is one and it is
nothing. -/
def KeysSort (keys : List Value) : Prop :=
  (∀ k ∈ keys, ∃ s, k = .text s) ∨ (∀ k ∈ keys, k.quantity?.isSome) ∨ keys = [.null]

lemma intChars_of_isShort {i : Int} (h : Number.IsShort i) :
    Value.intChars i = .ok (toString i).toList :=
  if_pos h

lemma exists_intChars_iff {i : Int} : (∃ cs, Value.intChars i = .ok cs) ↔ Number.IsShort i := by
  rw [Value.intChars]
  split
  · rename_i hshort
    exact iff_of_true ⟨_, rfl⟩ hshort
  · rename_i hlong
    exact iff_of_false nofun hlong

lemma exists_keyText_iff : (∃ s, keyText k = .ok s) ↔ IsName k ∧ IsShortKey k := by
  cases k with
  | int i =>
    rw [keyText, exists_bind_pure_ok_iff, exists_intChars_iff]
    constructor
    · rintro h
      refine ⟨.int i, ?_⟩
      rintro _ ⟨⟩
      exact h
    · rintro ⟨-, h⟩
      exact h i rfl
  | text s => exact iff_of_true ⟨_, rfl⟩ ⟨.text s, nofun⟩
  | float x => exact iff_of_true ⟨_, rfl⟩ ⟨.float x, nofun⟩
  | bool b => exact iff_of_true ⟨_, rfl⟩ ⟨.bool b, nofun⟩
  | null => exact iff_of_true ⟨_, rfl⟩ ⟨.null, nofun⟩
  | _ => exact iff_of_false nofun fun h => nomatch h.1

lemma isText_iff : isText k = true ↔ ∃ s, k = .text s := by
  cases k <;> simp [isText]

lemma isName_iff : IsName k ↔ (∃ s, k = .text s) ∨ k.quantity?.isSome ∨ k = .null := by
  constructor
  · rintro (_ | _ | _ | _ | _) <;> simp [Value.quantity?]
  · rintro (⟨s, rfl⟩ | hnumber | rfl)
    · exact .text s
    · cases k with
      | int i => exact .int i
      | float x => exact .float x
      | bool b => exact .bool b
      | _ => cases hnumber
    · exact .null

lemma KeysSort.isName {keys : List Value} (h : KeysSort keys) (hk : k ∈ keys) : IsName k := by
  rw [isName_iff]
  rcases h with htexts | hnumbers | rfl
  · exact .inl (htexts k hk)
  · exact .inr (.inl (hnumbers k hk))
  · exact .inr (.inr (List.mem_singleton.1 hk))

/-- Entries under names are sorted exactly if their keys can be. -/
lemma exists_sortEntries_iff (hkeys : ∀ k ∈ es.map (·.key), IsName k) :
    (∃ sorted, sortEntries es = .ok sorted) ↔ KeysSort (es.map (·.key)) := by
  have htexts : (∀ k ∈ es.map (·.key), ∃ s, k = .text s)
      ↔ (es.all fun e => isText e.key) = true := by
    simp [List.all_eq_true, isText_iff]
  have hnumbers : (∀ k ∈ es.map (·.key), k.quantity?.isSome)
      ↔ (es.all fun e => e.key.quantity?.isSome) = true := by
    simp [List.all_eq_true]
  rw [sortEntries, KeysSort, htexts, hnumbers]
  split
  · rename_i hall
    exact iff_of_true ⟨_, rfl⟩ (.inl hall)
  rename_i hall
  split
  · rename_i hall'
    exact iff_of_true ⟨_, rfl⟩ (.inr (.inl hall'))
  rename_i hall'
  rw [or_iff_right hall, or_iff_right hall']
  -- what is left is the order of a single key, which has to be the one without a value
  rcases es with _ | ⟨e, _ | ⟨e', es⟩⟩
  · exact absurd rfl hall
  · have hkey := isName_iff.1 (hkeys e.key (List.mem_singleton_self _))
    rw [List.all_cons, List.all_nil, Bool.and_true] at hall hall'
    rw [← isText_iff, or_iff_right hall, or_iff_right hall'] at hkey
    exact iff_of_true ⟨_, rfl⟩ (congrArg (fun k => [k]) hkey)
  · exact iff_of_false (fun ⟨_, h⟩ => nomatch h) fun h => nomatch congrArg List.length h

/-- Members are written with the keys that they have. -/
lemma keys_of_encodeEntries (h : encodeEntries style ms = .ok es) :
    es.map (·.key) = ms.map Prod.fst := by
  induction ms generalizing es with
  | nil =>
    rw [encodeEntries] at h
    cases h
    rfl
  | cons m ms ih =>
    rw [encodeEntries] at h
    obtain ⟨key, -, h⟩ := bind_eq_ok_iff.1 h
    obtain ⟨value, -, h⟩ := bind_eq_ok_iff.1 h
    obtain ⟨rest, hrest, h⟩ := bind_eq_ok_iff.1 h
    cases h
    rw [List.map_cons, List.map_cons, ih hrest]

/-! ## Items and members -/

/-- A tuple is written as the list of its items. -/
lemma encode_tuple (style : Style) (items : List Value) :
    encode style (.tuple items) = encode style (.list items) := by
  rw [encode, encode]

/-- A list is written exactly if its items are. -/
lemma exists_encode_list_iff :
    (∃ cs, encode style (.list items) = .ok cs) ↔ ∃ cs, encodeItems style items = .ok cs := by
  rw [encode, exists_bind_pure_ok_iff]

lemma exists_encodeItems_iff :
    (∃ cs, encodeItems style items = .ok cs) ↔ ∀ x ∈ items, ∃ cs, encode style x = .ok cs := by
  induction items with
  | nil => exact iff_of_true ⟨[], by rw [encodeItems]; rfl⟩ nofun
  | cons x xs ih =>
    rw [List.forall_mem_cons, ← ih]
    cases xs with
    | nil =>
      rw [encodeItems, encodeItems]
      exact (and_iff_left ⟨[], rfl⟩).symm
    | cons y ys =>
      rw [encodeItems, exists_bind_ok_iff]
      · simp only [exists_bind_pure_ok_iff, exists_and_right]
      · exact List.cons_ne_nil y ys

lemma exists_encodeEntries_iff :
    (∃ es, encodeEntries style ms = .ok es)
      ↔ ∀ m ∈ ms, (IsName m.1 ∧ IsShortKey m.1) ∧ ∃ cs, encode style m.2 = .ok cs := by
  induction ms with
  | nil => exact iff_of_true ⟨[], by rw [encodeEntries]; rfl⟩ nofun
  | cons m ms ih =>
    rw [List.forall_mem_cons, ← ih, ← exists_keyText_iff, encodeEntries, exists_bind_ok_iff]
    simp only [exists_bind_ok_iff (x := encode style m.2), exists_bind_pure_ok_iff,
      exists_and_right, and_assoc]

/-- What is written of a dictionary is made of its members. -/
lemma exists_encodeEntries_of_dict (h : ∃ cs, encode style (.dict ms) = .ok cs) :
    ∃ es, encodeEntries style ms = .ok es := by
  rw [encode, exists_bind_ok_iff] at h
  obtain ⟨es, hes, -⟩ := h
  exact ⟨es, hes⟩

/-! ## Numbers and objects -/

/-- All whole numbers in the value are short, and all objects in it have a text. -/
inductive Spelled : Value → Prop
  | null : Spelled .null
  | bool (b : Bool) : Spelled (.bool b)
  | int {i : Int} (h : Number.IsShort i) : Spelled (.int i)
  | float (x : Number.Double) : Spelled (.float x)
  | text (s : String) : Spelled (.text s)
  | bytes (b : Bytes) : Spelled (.bytes b)
  | list {items : List Value} (h : ∀ x ∈ items, Spelled x) : Spelled (.list items)
  | tuple {items : List Value} (h : ∀ x ∈ items, Spelled x) : Spelled (.tuple items)
  | dict {ms : Members} (hkeys : ∀ m ∈ ms, IsShortKey m.1) (h : ∀ m ∈ ms, Spelled m.2) :
      Spelled (.dict ms)
  | object {o : Object} {s : String} (h : o.text = .ok s) : Spelled (.object o)

/-- What is written is spelled, whatever the style. -/
theorem spelled_of_encode (h : ∃ cs, encode style v = .ok cs) : Spelled v := by
  induction v using Value.induction with
  | null => exact .null
  | bool b => exact .bool b
  | int i =>
    rw [encode, exists_intChars_iff] at h
    exact .int h
  | float x => exact .float x
  | text s => exact .text s
  | bytes b => exact .bytes b
  | list items ih =>
    rw [exists_encode_list_iff, exists_encodeItems_iff] at h
    exact .list fun x hx => ih x hx (h x hx)
  | tuple items ih =>
    rw [encode_tuple, exists_encode_list_iff, exists_encodeItems_iff] at h
    exact .tuple fun x hx => ih x hx (h x hx)
  | dict ms ih =>
    have hentries := exists_encodeEntries_iff.1 (exists_encodeEntries_of_dict h)
    exact .dict (fun m hm => (hentries m hm).1.2) fun m hm => ih m hm (hentries m hm).2
  | object o =>
    rw [encode] at h
    split at h
    · obtain ⟨cs, h⟩ := h
      obtain ⟨s, hs, -⟩ := bind_eq_ok_iff.1 h
      exact .object hs
    · exact nomatch h

/-! ## Values -/

/-- JSON can hold the value. -/
inductive Writable : Value → Prop
  | null : Writable .null
  | bool (b : Bool) : Writable (.bool b)
  | int {i : Int} (h : Number.IsShort i) : Writable (.int i)
  | float (x : Number.Double) : Writable (.float x)
  | text (s : String) : Writable (.text s)
  | list {items : List Value} (h : ∀ x ∈ items, Writable x) : Writable (.list items)
  | tuple {items : List Value} (h : ∀ x ∈ items, Writable x) : Writable (.tuple items)
  | dict {ms : Members} (hsort : KeysSort (ms.map Prod.fst)) (hkeys : ∀ m ∈ ms, IsShortKey m.1)
      (h : ∀ m ∈ ms, Writable m.2) : Writable (.dict ms)

/-- A dictionary is written exactly if its members are and its keys can be put in order. -/
lemma exists_encode_dict_iff :
    (∃ cs, encode canonical (.dict ms) = .ok cs)
      ↔ (∃ es, encodeEntries canonical ms = .ok es) ∧ KeysSort (ms.map Prod.fst) := by
  rw [encode, exists_bind_ok_iff]
  simp only [canonical, if_true, exists_bind_pure_ok_iff]
  constructor
  · rintro ⟨es, hes, hsort⟩
    have hnames := exists_encodeEntries_iff.1 ⟨es, hes⟩
    refine ⟨⟨es, hes⟩, ?_⟩
    rw [← keys_of_encodeEntries hes]
    refine (exists_sortEntries_iff ?_).1 hsort
    rw [keys_of_encodeEntries hes, List.forall_mem_map]
    exact fun m hm => (hnames m hm).1.1
  · rintro ⟨⟨es, hes⟩, hsort⟩
    rw [← keys_of_encodeEntries hes] at hsort
    exact ⟨es, hes, (exists_sortEntries_iff fun k => hsort.isName).2 hsort⟩

/-- A value is written exactly if JSON can hold it. -/
theorem encode_canonical_iff (v : Value) : (∃ cs, encode canonical v = .ok cs) ↔ Writable v := by
  induction v using Value.induction with
  | null => exact iff_of_true ⟨_, rfl⟩ .null
  | bool b => exact iff_of_true ⟨_, rfl⟩ (.bool b)
  | int i =>
    rw [encode, exists_intChars_iff]
    exact ⟨.int, fun h => by cases h; assumption⟩
  | float x => exact iff_of_true ⟨_, rfl⟩ (.float x)
  | text s => exact iff_of_true ⟨_, rfl⟩ (.text s)
  | bytes b => exact iff_of_false nofun nofun
  | list items ih =>
    rw [exists_encode_list_iff, exists_encodeItems_iff, forall₂_congr ih]
    exact ⟨.list, fun h => by cases h; assumption⟩
  | tuple items ih =>
    rw [encode_tuple, exists_encode_list_iff, exists_encodeItems_iff, forall₂_congr ih]
    exact ⟨.tuple, fun h => by cases h; assumption⟩
  | dict ms ih =>
    rw [exists_encode_dict_iff, exists_encodeEntries_iff]
    constructor
    · rintro ⟨h, hsort⟩
      exact .dict hsort (fun m hm => (h m hm).1.2) fun m hm => (ih m hm).1 (h m hm).2
    · intro h
      cases h with
      | dict hsort hkeys h =>
        refine ⟨fun m hm => ⟨⟨?_, hkeys m hm⟩, (ih m hm).2 (h m hm)⟩, hsort⟩
        exact hsort.isName (List.mem_map_of_mem hm)
  | object o => exact iff_of_false nofun nofun

/-- A value has a canonical text exactly if JSON can hold it. -/
theorem canonicalText?_isSome_iff (v : Value) : (canonicalText? v).isSome ↔ Writable v := by
  rw [← encode_canonical_iff, canonicalText?, Option.isSome_map]
  cases encode canonical v with
  | error e => exact iff_of_false nofun nofun
  | ok cs => exact iff_of_true rfl ⟨cs, rfl⟩

end Keyring.Json
