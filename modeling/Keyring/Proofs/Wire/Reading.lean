/-
# Reading off the front

Every reader takes what it reads off the front of the bytes and looks at no byte behind it, so the
bytes it took can be read again whatever follows them, and where groups may nest deeper.

* `Spells read a front` says that a reader finds `a` in the bytes `front`, whatever follows;
  `Spells.unique` says that no other bytes at the front can then be read as something else.
* `exists_spells_of_readVarint`, `exists_spells_of_readTag`, `exists_spells_of_readContent` and the
  lemmas between them find the bytes that were read.
* `Field.Genuine` holds of every field that is read: its own bytes spell it.
* `readFields_of_spells` and `readFields_eq_some` take messages apart, field by field, and
  `readFields_append` takes them apart at the end of a field.
-/
import Keyring.Wire.Field
import Mathlib.Tactic.Lemma

namespace Keyring.Wire

/-- The bytes `front` are read as `a`, and nothing behind them matters. -/
def Spells {α : Type} (read : Bytes → Option (α × Bytes)) (a : α) (front : Bytes) : Prop :=
  ∀ tail, read (front ++ tail) = some (a, tail)

variable {bs rest : Bytes}

/-- What is read off the front is determined by the bytes, and so is what it leaves. -/
lemma Spells.unique {α : Type} {read : Bytes → Option (α × Bytes)} {a a' : α}
    {front front' tail tail' : Bytes} (h : Spells read a front) (h' : Spells read a' front')
    (heq : front ++ tail = front' ++ tail') : a = a' ∧ tail = tail' := by
  have hread := h tail
  rw [heq, h' tail'] at hread
  obtain ⟨ha, htail⟩ := Prod.mk.inj (Option.some.inj hread)
  exact ⟨ha.symm, htail.symm⟩

/-! ## Numbers and tags -/

lemma exists_spells_of_readVarint {most v : Nat} (h : readVarint most bs = some (v, rest)) :
    ∃ front, bs = front ++ rest ∧ Spells (readVarint most) v front := by
  -- a byte below 128 ends the number, any other one hands over to the reader of the rest
  induction most generalizing bs v with
  | zero => cases h
  | succ most ih =>
    rcases bs with _ | ⟨b, bs⟩
    · cases h
    rw [readVarint] at h
    by_cases hb : b.toNat < 128
    · rw [if_pos hb] at h
      cases h
      exact ⟨[b], rfl, fun tail => if_pos hb⟩
    · rw [if_neg hb] at h
      obtain ⟨⟨w, r⟩, hw, heq⟩ := Option.map_eq_some_iff.1 h
      cases heq
      obtain ⟨front, rfl, hfront⟩ := ih hw
      refine ⟨b :: front, rfl, fun tail => ?_⟩
      rw [List.cons_append, readVarint, if_neg hb, hfront tail]
      rfl

lemma exists_spells_of_readValue {v : Nat} (h : readValue bs = some (v, rest)) :
    ∃ front, bs = front ++ rest ∧ Spells readValue v front := by
  obtain ⟨⟨w, r⟩, hw, heq⟩ := Option.map_eq_some_iff.1 h
  cases heq
  obtain ⟨front, rfl, hfront⟩ := exists_spells_of_readVarint hw
  refine ⟨front, rfl, fun tail => ?_⟩
  rw [readValue, hfront tail]
  rfl

lemma exists_spells_of_readTag {tag : Tag} (h : readTag bs = some (tag, rest)) :
    ∃ front, bs = front ++ rest ∧ Spells readTag tag front := by
  rw [readTag, Option.bind_eq_bind, Option.bind_eq_some_iff] at h
  obtain ⟨⟨v, r⟩, hv, h⟩ := h
  obtain ⟨front, rfl, hfront⟩ := exists_spells_of_readVarint hv
  by_cases hrange : v < 0x100000000 ∧ 8 ≤ v
  · simp only [hrange, and_self, if_true] at h
    obtain ⟨kind, hkind, heq⟩ := Option.bind_eq_some_iff.1 h
    cases heq
    refine ⟨front, rfl, fun tail => ?_⟩
    simp only [readTag, hfront tail, Option.bind_eq_bind, Option.bind_some, hrange, and_self,
      if_true, hkind]
  · simp only [hrange, if_false] at h
    cases h

/-! ## Contents -/

lemma exists_spells_of_readBytes {count : Nat} {b : Bytes}
    (h : readBytes count bs = some (b, rest)) : bs = b ++ rest ∧ Spells (readBytes count) b b := by
  rw [readBytes] at h
  by_cases hcount : count ≤ bs.length
  · rw [if_pos hcount] at h
    cases h
    refine ⟨(List.take_append_drop count bs).symm, fun tail => ?_⟩
    have hlen : (bs.take count).length = count := List.length_take_of_le hcount
    rw [readBytes, if_pos (by rw [List.length_append]; omega), List.take_left' hlen,
      List.drop_left' hlen]
  · rw [if_neg hcount] at h
    cases h

lemma exists_spells_of_readPlain {kind : Kind} {content : Content}
    (h : readPlain kind bs = some (content, rest)) :
    ∃ front, bs = front ++ rest ∧ Spells (readPlain kind) content front := by
  cases kind with
  | number =>
    obtain ⟨⟨v, r⟩, hv, heq⟩ := Option.map_eq_some_iff.1 h
    cases heq
    obtain ⟨front, rfl, hfront⟩ := exists_spells_of_readValue hv
    refine ⟨front, rfl, fun tail => ?_⟩
    rw [readPlain, hfront tail]
    rfl
  | eightBytes =>
    obtain ⟨⟨b, r⟩, hb, heq⟩ := Option.map_eq_some_iff.1 h
    cases heq
    obtain ⟨rfl, hfront⟩ := exists_spells_of_readBytes hb
    refine ⟨b, rfl, fun tail => ?_⟩
    rw [readPlain, hfront tail]
    rfl
  | fourBytes =>
    obtain ⟨⟨b, r⟩, hb, heq⟩ := Option.map_eq_some_iff.1 h
    cases heq
    obtain ⟨rfl, hfront⟩ := exists_spells_of_readBytes hb
    refine ⟨b, rfl, fun tail => ?_⟩
    rw [readPlain, hfront tail]
    rfl
  | lengthFirst =>
    rw [readPlain, Option.bind_eq_bind, Option.bind_eq_some_iff] at h
    obtain ⟨⟨count, r⟩, hcount, h⟩ := h
    obtain ⟨⟨b, r'⟩, hb, heq⟩ := Option.bind_eq_some_iff.1 h
    cases heq
    obtain ⟨front, rfl, hfront⟩ := exists_spells_of_readValue hcount
    obtain ⟨rfl, hbytes⟩ := exists_spells_of_readBytes hb
    refine ⟨front ++ b, (List.append_assoc ..).symm, fun tail => ?_⟩
    rw [List.append_assoc, readPlain, hfront (b ++ tail)]
    simp only [Option.bind_eq_bind, Option.bind_some, hbytes tail]
  | groupStart => cases h
  | groupEnd => cases h

/-- The bytes in a content are fewer than those that it was read from. -/
lemma length_lt_of_readPlain {kind : Kind} {b : Bytes}
    (h : readPlain kind bs = some (.bytes b, rest)) : b.length + rest.length < bs.length := by
  cases kind with
  | lengthFirst =>
    rw [readPlain, Option.bind_eq_bind, Option.bind_eq_some_iff] at h
    obtain ⟨⟨count, r⟩, hcount, h⟩ := h
    obtain ⟨⟨b', r'⟩, hb, heq⟩ := Option.bind_eq_some_iff.1 h
    cases heq
    have hlen := length_of_readValue hcount
    rw [readBytes] at hb
    split at hb
    · cases hb
      rw [List.length_take, List.length_drop]
      omega
    · cases hb
  | number =>
    obtain ⟨x, -, hcontent⟩ := Option.map_eq_some_iff.1 h
    cases hcontent
  | eightBytes =>
    obtain ⟨x, -, hcontent⟩ := Option.map_eq_some_iff.1 h
    cases hcontent
  | fourBytes =>
    obtain ⟨x, -, hcontent⟩ := Option.map_eq_some_iff.1 h
    cases hcontent
  | groupStart => cases h
  | groupEnd => cases h

/-! ## Groups -/

section Groups

variable {room room' group : Nat} {outer : List Nat}

/-- One step in a group: it ends, another one starts, or a field in it is skipped. -/
lemma closeGroups_cons :
    closeGroups room (group :: outer) bs
      = (readTag bs).bind fun (tag, rest) =>
          match tag.kind with
          | .groupEnd => if tag.number = group then closeGroups room outer rest else none
          | .groupStart =>
            if outer.length + 1 < room then closeGroups room (tag.number :: group :: outer) rest
            else none
          | kind => (readPlain kind rest).bind fun (_, rest') =>
              closeGroups room (group :: outer) rest' := by
  rw [closeGroups]
  split
  · simp only [*, Option.bind_none]
  · simp only [*, Option.bind_some]
    split
    · simp only [*]
    · simp only [*]
    · split
      · simp only [*, Option.bind_none]
      · simp only [*, Option.bind_some]

/-- The bytes up to the end of the open groups close them again, also where groups may nest
deeper. -/
lemma exists_spells_of_closeGroups {groups : List Nat}
    (h : closeGroups room groups bs = some rest) :
    ∃ front, bs = front ++ rest
      ∧ ∀ room', room ≤ room' → ∀ tail, closeGroups room' groups (front ++ tail) = some tail := by
  -- the bytes of every step are put in front of those that close the groups left open by it
  fun_induction closeGroups room groups bs with
  | case1 bs =>
    cases h
    exact ⟨[], rfl, fun room' _ tail => by rw [closeGroups, List.nil_append]⟩
  | case2 => cases h
  | case3 bs outer tag r ht hkind ih =>
    obtain ⟨front, rfl, hfront⟩ := exists_spells_of_readTag ht
    obtain ⟨front', rfl, hfront'⟩ := ih h
    refine ⟨front ++ front', (List.append_assoc ..).symm, fun room' hroom tail => ?_⟩
    rw [List.append_assoc, closeGroups_cons, hfront, Option.bind_some]
    simp only [hkind, if_true, hfront' room' hroom tail]
  | case4 => cases h
  | case5 bs group outer tag r ht hkind hdeep ih =>
    obtain ⟨front, rfl, hfront⟩ := exists_spells_of_readTag ht
    obtain ⟨front', rfl, hfront'⟩ := ih h
    refine ⟨front ++ front', (List.append_assoc ..).symm, fun room' hroom tail => ?_⟩
    rw [List.append_assoc, closeGroups_cons, hfront, Option.bind_some]
    simp only [hkind, if_pos (Nat.lt_of_lt_of_le hdeep hroom), hfront' room' hroom tail]
  | case6 => cases h
  | case7 => cases h
  | case8 bs group outer tag r ht content r' hend hstart hp ih =>
    obtain ⟨front, rfl, hfront⟩ := exists_spells_of_readTag ht
    obtain ⟨front', rfl, hfront'⟩ := exists_spells_of_readPlain hp
    obtain ⟨front'', rfl, hfront''⟩ := ih h
    refine ⟨front ++ (front' ++ front''), by simp only [List.append_assoc], ?_⟩
    intro room' hroom tail
    rw [List.append_assoc, List.append_assoc, closeGroups_cons, hfront, Option.bind_some]
    dsimp only
    split
    · exact absurd ‹_› hend
    · exact absurd ‹_› hstart
    · rw [hfront', Option.bind_some, hfront'' room' hroom tail]

end Groups

/-! ## Fields -/

section Fields

variable {room room' : Nat} {content : Content} {f : Field}

lemma exists_spells_of_readContent {tag : Tag}
    (h : readContent room tag bs = some (content, rest)) :
    ∃ front, bs = front ++ rest
      ∧ ∀ room', room ≤ room' → Spells (readContent room' tag) content front := by
  rw [readContent] at h
  split at h
  · rename_i hkind
    split at h
    · rename_i hroom
      obtain ⟨r, hr, heq⟩ := Option.map_eq_some_iff.1 h
      cases heq
      obtain ⟨front, rfl, hfront⟩ := exists_spells_of_closeGroups hr
      refine ⟨front, rfl, fun room' hroom' tail => ?_⟩
      simp only [readContent, hkind, if_pos (Nat.lt_of_lt_of_le hroom hroom'),
        hfront room' hroom' tail, Option.map_some]
    · cases h
  · rename_i hkind
    obtain ⟨front, rfl, hfront⟩ := exists_spells_of_readPlain h
    refine ⟨front, rfl, fun room' hroom' tail => ?_⟩
    rw [readContent]
    split
    · exact absurd ‹_› hkind
    · exact hfront tail

/-- The field is what its own bytes spell, also where groups may nest deeper. -/
def Field.Genuine (room : Nat) (f : Field) : Prop :=
  ∀ room', room ≤ room' → Spells (readField room') f f.raw

/-- A field that is read keeps exactly the bytes that were taken for it. -/
lemma genuine_of_readField (h : readField room bs = some (f, rest)) :
    bs = f.raw ++ rest ∧ f.Genuine room := by
  rw [readField, Option.bind_eq_bind, Option.bind_eq_some_iff] at h
  obtain ⟨⟨tag, r⟩, ht, h⟩ := h
  obtain ⟨⟨content, r'⟩, hc, heq⟩ := Option.bind_eq_some_iff.1 h
  cases heq
  obtain ⟨front, rfl, hfront⟩ := exists_spells_of_readTag ht
  obtain ⟨front', rfl, hfront'⟩ := exists_spells_of_readContent hc
  -- the bytes taken for a field are measured by what is left, so they are the same for every tail
  have hraw : ∀ tail : Bytes, (front ++ (front' ++ tail)).take
      ((front ++ (front' ++ tail)).length - tail.length) = front ++ front' := by
    intro tail
    rw [← List.append_assoc, @List.length_append _ _ tail, Nat.add_sub_cancel,
      List.take_left' rfl]
  rw [hraw]
  refine ⟨(List.append_assoc ..).symm, fun room' hroom tail => ?_⟩
  rw [List.append_assoc, readField, hfront]
  simp only [Option.bind_eq_bind, Option.bind_some, hfront' room' hroom tail, hraw tail]

/-- The bytes in a field are fewer than those that it was read from. -/
lemma Field.Genuine.length_lt {b : Bytes} (hf : f.Genuine room) (hcontent : f.content = .bytes b) :
    b.length < f.raw.length := by
  have h := hf room (Nat.le_refl room) []
  rw [List.append_nil] at h
  rw [readField, Option.bind_eq_bind, Option.bind_eq_some_iff] at h
  obtain ⟨⟨tag, r⟩, ht, h⟩ := h
  obtain ⟨⟨content, r'⟩, hc, heq⟩ := Option.bind_eq_some_iff.1 h
  obtain ⟨hf, rfl⟩ := Prod.mk.inj (Option.some.inj heq)
  obtain rfl : content = .bytes b := by rw [← hcontent, ← hf]
  have htag := length_of_readTag ht
  rw [readContent] at hc
  split at hc
  · split at hc
    · obtain ⟨x, -, hother⟩ := Option.map_eq_some_iff.1 hc
      cases hother
    · cases hc
  · have hlen := length_lt_of_readPlain hc
    rw [List.length_nil] at hlen
    omega

/-! ## Messages -/

lemma readFields_nil : readFields room [] = some [] := by
  rw [readFields]
  rfl

lemma readFields_of_spells {front : Bytes} (h : Spells (readField room) f front) (bs : Bytes) :
    readFields room (front ++ bs) = (readFields room bs).map (f :: ·) := by
  -- a field takes at least one byte, else the reader would stop here
  have hne : front ≠ [] := by
    rintro rfl
    have hlen := length_of_readField (h [])
    exact Nat.lt_irrefl _ hlen
  have hempty : (front ++ bs).isEmpty = false := by simp [hne]
  rw [readFields, hempty]
  simp only [Bool.false_eq_true, if_false]
  split
  · rename_i hnone
    rw [h bs] at hnone
    cases hnone
  · rename_i hsome
    rw [h bs] at hsome
    cases hsome
    rfl

/-- A message that is read is empty or begins with a field. -/
lemma readFields_eq_some {fs : List Field} (h : readFields room bs = some fs) :
    bs = [] ∧ fs = []
      ∨ ∃ f rest fs', bs = f.raw ++ rest ∧ fs = f :: fs' ∧ f.Genuine room
        ∧ readFields room rest = some fs' := by
  rw [readFields] at h
  split at h
  · rename_i hempty
    cases h
    exact .inl ⟨List.isEmpty_iff.1 hempty, rfl⟩
  · split at h
    · cases h
    · rename_i f rest hf
      obtain ⟨fs', hfs', rfl⟩ := Option.map_eq_some_iff.1 h
      obtain ⟨hbs, hgenuine⟩ := genuine_of_readField hf
      exact .inr ⟨f, rest, fs', hbs, rfl, hgenuine, hfs'⟩

/-- Behind fields that are complete the reader starts anew. -/
lemma readFields_append {a b : Bytes} {fs : List Field} (h : readFields room a = some fs) :
    readFields room (a ++ b) = (readFields room b).map (fs ++ ·) := by
  induction fs generalizing a with
  | nil =>
    rcases readFields_eq_some h with ⟨rfl, -⟩ | ⟨f, rest, fs', -, hcons, -⟩
    · simp
    · cases hcons
  | cons f fs ih =>
    rcases readFields_eq_some h with ⟨-, hnil⟩ | ⟨f', rest, fs', rfl, hcons, hf, hrest⟩
    · cases hnil
    · obtain ⟨rfl, rfl⟩ := List.cons.inj hcons
      rw [List.append_assoc, readFields_of_spells (hf room (Nat.le_refl room)), ih hrest,
        Option.map_map]
      rfl

end Fields

end Keyring.Wire
