/-
# Fields on the wire

A message is a sequence of fields.  A field begins with a tag, which holds the field's number and
the kind of its content; then comes a number, a fixed number of bytes, a length with so many bytes,
or a group of further fields up to an end tag with the same number.

* `readField?` reads one field and keeps the bytes it was read from; `readFields?` reads a whole
  message.
* `writeNumber` and `writeBytes` write the two kinds of content that the key schemas use.

Groups and messages within a message nest up to `maxDepth` deep.
-/
import Keyring.Wire.Varint

namespace Keyring.Wire

/-- How deep groups and messages may nest within a message. -/
def maxDepth : Nat := 100

/-! ## Tags -/

/-- The kind of a field's content. -/
inductive Kind where
  | number
  | eightBytes
  | lengthFirst
  | groupStart
  | groupEnd
  | fourBytes
deriving DecidableEq

/-- The kind with a code; two codes have none. -/
def Kind.ofCode? : Nat → Option Kind
  | 0 => some number
  | 1 => some eightBytes
  | 2 => some lengthFirst
  | 3 => some groupStart
  | 4 => some groupEnd
  | 5 => some fourBytes
  | _ => none

/-- A field's number and the kind of its content. -/
structure Tag where
  number : Nat
  kind : Kind
deriving DecidableEq

/-- The most bytes that a tag takes. -/
def tagBytes : Nat := 5

/-- The tag at the front and the bytes behind it.  A tag fits in 32 bits, and its number is not
zero. -/
def readTag (bs : Bytes) : Option (Tag × Bytes) := do
  let (v, rest) ← readVarint tagBytes bs
  if v < 0x100000000 ∧ 8 ≤ v then
    let kind ← Kind.ofCode? (v % 8)
    some (⟨v / 8, kind⟩, rest)
  else none

theorem length_of_readTag {bs rest : Bytes} {tag : Tag} (h : readTag bs = some (tag, rest)) :
    rest.length < bs.length := by
  simp only [readTag, Option.bind_eq_bind] at h
  obtain ⟨⟨v, r⟩, hv, h⟩ := Option.bind_eq_some_iff.1 h
  split at h
  · obtain ⟨k, _, h⟩ := Option.bind_eq_some_iff.1 h
    simp only [Option.some.injEq, Prod.mk.injEq] at h
    have := length_of_readVarint hv
    rwa [h.2] at this
  · simp at h

/-! ## Contents -/

/-- The first `count` bytes and the rest, if there are so many. -/
def readBytes (count : Nat) (bs : Bytes) : Option (Bytes × Bytes) :=
  if count ≤ bs.length then some (bs.take count, bs.drop count) else none

theorem length_of_readBytes {count : Nat} {bs b rest : Bytes}
    (h : readBytes count bs = some (b, rest)) : rest.length ≤ bs.length := by
  simp only [readBytes] at h
  split at h
  · simp only [Option.some.injEq, Prod.mk.injEq] at h
    simp [← h.2]
  · simp at h

/-- What a field holds. -/
inductive Content where
  | number (v : Nat)
  | bytes (b : Bytes)
  /-- A content that no key schema uses. -/
  | other
deriving DecidableEq

/-- The content of a kind other than the two group tags, and the bytes behind it. -/
def readPlain (kind : Kind) (bs : Bytes) : Option (Content × Bytes) :=
  match kind with
  | .number => (readValue bs).map fun (v, rest) => (.number v, rest)
  | .eightBytes => (readBytes 8 bs).map fun (_, rest) => (.other, rest)
  | .fourBytes => (readBytes 4 bs).map fun (_, rest) => (.other, rest)
  | .lengthFirst => do
    let (count, rest) ← readValue bs
    let (b, rest) ← readBytes count rest
    some (.bytes b, rest)
  | .groupStart => none
  | .groupEnd => none

theorem length_of_readPlain {kind : Kind} {bs rest : Bytes} {content : Content}
    (h : readPlain kind bs = some (content, rest)) : rest.length ≤ bs.length := by
  cases kind with
  | number =>
    obtain ⟨⟨v, r⟩, hv, he⟩ := Option.map_eq_some_iff.1 h
    simp only [Prod.mk.injEq] at he
    have := length_of_readValue hv
    rw [he.2] at this
    omega
  | eightBytes =>
    obtain ⟨⟨b, r⟩, hb, he⟩ := Option.map_eq_some_iff.1 h
    simp only [Prod.mk.injEq] at he
    have := length_of_readBytes hb
    rwa [he.2] at this
  | fourBytes =>
    obtain ⟨⟨b, r⟩, hb, he⟩ := Option.map_eq_some_iff.1 h
    simp only [Prod.mk.injEq] at he
    have := length_of_readBytes hb
    rwa [he.2] at this
  | lengthFirst =>
    simp only [readPlain, Option.bind_eq_bind] at h
    obtain ⟨⟨v, r⟩, hv, h⟩ := Option.bind_eq_some_iff.1 h
    obtain ⟨⟨b, r'⟩, hb, h⟩ := Option.bind_eq_some_iff.1 h
    simp only [Option.some.injEq, Prod.mk.injEq] at h
    have h1 := length_of_readValue hv
    have h2 := length_of_readBytes hb
    simp only [h.2] at h2
    omega
  | groupStart => simp [readPlain] at h
  | groupEnd => simp [readPlain] at h

/-- The bytes behind the open groups, whose numbers are given from the innermost out.  At most
`room` groups are open at a time. -/
def closeGroups (room : Nat) (groups : List Nat) (bs : Bytes) : Option Bytes :=
  match groups with
  | [] => some bs
  | group :: outer =>
    match _h : readTag bs with
    | none => none
    | some (tag, rest) =>
      match tag.kind with
      | .groupEnd => if tag.number = group then closeGroups room outer rest else none
      | .groupStart =>
        if outer.length + 1 < room then closeGroups room (tag.number :: group :: outer) rest
        else none
      | kind =>
        match _h' : readPlain kind rest with
        | none => none
        | some (_, rest') => closeGroups room (group :: outer) rest'
termination_by bs.length
decreasing_by
  all_goals
    have := length_of_readTag _h
    try have := length_of_readPlain _h'
    omega

/-- The content announced by a tag and the bytes behind it. -/
def readContent (room : Nat) (tag : Tag) (bs : Bytes) : Option (Content × Bytes) :=
  match tag.kind with
  | .groupStart =>
    if 0 < room then (closeGroups room [tag.number] bs).map fun rest => (.other, rest) else none
  | kind => readPlain kind bs

/-! ## Fields -/

/-- A field with the bytes it was read from. -/
structure Field where
  number : Nat
  content : Content
  raw : Bytes
deriving DecidableEq

/-- The field at the front and the bytes behind it. -/
def readField (room : Nat) (bs : Bytes) : Option (Field × Bytes) := do
  let (tag, rest) ← readTag bs
  let (content, rest) ← readContent room tag rest
  some (⟨tag.number, content, bs.take (bs.length - rest.length)⟩, rest)

theorem length_of_closeGroups {room : Nat} {groups : List Nat} {bs rest : Bytes}
    (h : closeGroups room groups bs = some rest) : rest.length ≤ bs.length := by
  fun_induction closeGroups room groups bs with
  | case1 => simp_all
  | case2 => simp at h
  | case3 _ _ _ _ ht _ ih =>
    have := length_of_readTag ht
    have := ih h
    omega
  | case4 => simp at h
  | case5 _ _ _ _ _ ht _ _ ih =>
    have := length_of_readTag ht
    have := ih h
    omega
  | case6 => simp at h
  | case7 => simp at h
  | case8 _ _ _ _ _ ht _ _ _ _ hp ih =>
    have := length_of_readTag ht
    have := length_of_readPlain hp
    have := ih h
    omega

theorem length_of_readContent {room : Nat} {tag : Tag} {bs rest : Bytes} {content : Content}
    (h : readContent room tag bs = some (content, rest)) : rest.length ≤ bs.length := by
  simp only [readContent] at h
  split at h
  · split at h
    · obtain ⟨r, hr, he⟩ := Option.map_eq_some_iff.1 h
      simp only [Prod.mk.injEq] at he
      have := length_of_closeGroups hr
      rwa [he.2] at this
    · simp at h
  · exact length_of_readPlain h

theorem length_of_readField {room : Nat} {bs rest : Bytes} {f : Field}
    (h : readField room bs = some (f, rest)) : rest.length < bs.length := by
  simp only [readField, Option.bind_eq_bind] at h
  obtain ⟨⟨tag, r⟩, ht, h⟩ := Option.bind_eq_some_iff.1 h
  obtain ⟨⟨content, r'⟩, hc, h⟩ := Option.bind_eq_some_iff.1 h
  simp only [Option.some.injEq, Prod.mk.injEq] at h
  have h1 := length_of_readTag ht
  have h2 := length_of_readContent hc
  simp only [h.2] at h2
  omega

/-- The fields of a message, one after the other. -/
def readFields (room : Nat) (bs : Bytes) : Option (List Field) :=
  if bs.isEmpty then some []
  else
    match _h : readField room bs with
    | none => none
    | some (f, rest) => (readFields room rest).map (f :: ·)
termination_by bs.length
decreasing_by exact length_of_readField _h

/-! ## Writing -/

/-- A tag in its shortest form. -/
def writeTag (number code : Nat) : Bytes :=
  writeVarint (8 * number + code)

/-- A field that holds a number; zero is left out. -/
def writeNumber (number v : Nat) : Bytes :=
  if v = 0 then [] else writeTag number 0 ++ writeVarint v

/-- A field that holds a length and so many bytes. -/
def writeMessage (number : Nat) (b : Bytes) : Bytes :=
  writeTag number 2 ++ writeVarint b.length ++ b

/-- A field that holds bytes; without any it is left out. -/
def writeBytes (number : Nat) (b : Bytes) : Bytes :=
  if b.isEmpty then [] else writeMessage number b

end Keyring.Wire
