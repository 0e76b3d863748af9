/-
# Reading JSON

What a JSON text means, so that what the encoder writes can be said to mean something.

* `Tree` is what a text means: numbers keep their spelling, and the members of an object their
  order.
* `readString` reads a string from behind its opening quote, with every escape; a character above
  U+FFFF may be escaped as a surrogate pair, and a surrogate that stands alone is refused.
* `read?` reads a whole text; blanks between the parts do not count.
-/
import Keyring.Bytes
import Mathlib.Tactic.Lemma

namespace Keyring.Json

/-- What a JSON text means. -/
inductive Tree where
  | null
  | bool (b : Bool)
  | number (spelling : String)
  | text (s : String)
  | array (items : List Tree)
  | object (members : List (String × Tree))

/-- Induction over trees. -/
@[elab_as_elim]
theorem Tree.induction {motive : Tree → Prop}
    (null : motive .null)
    (bool : ∀ b, motive (.bool b))
    (number : ∀ s, motive (.number s))
    (text : ∀ s, motive (.text s))
    (array : ∀ ts, (∀ t ∈ ts, motive t) → motive (.array ts))
    (object : ∀ ms, (∀ m ∈ ms, motive m.2) → motive (.object ms)) (t : Tree) : motive t :=
  @Tree.rec motive (fun ts => ∀ t ∈ ts, motive t) (fun ms => ∀ m ∈ ms, motive m.2)
    (fun m => motive m.2) null bool number text array object
    (fun _ h => nomatch h) (fun _ _ ht hts => List.forall_mem_cons.2 ⟨ht, hts⟩)
    (fun _ h => nomatch h) (fun _ _ hm hms => List.forall_mem_cons.2 ⟨hm, hms⟩)
    (fun _ _ h => h) t

/-! ## Strings -/

/-- The number that four hexadecimal digits at the front spell. -/
def readUnit : List Char → Option (Nat × List Char)
  | a :: b :: c :: d :: rest => do
    let w ← Bytes.hexValue? a
    let x ← Bytes.hexValue? b
    let y ← Bytes.hexValue? c
    let z ← Bytes.hexValue? d
    some (((w * 16 + x) * 16 + y) * 16 + z, rest)
  | _ => none

/-- The character of a surrogate pair, from behind its first half. -/
def readLowHalf (high : Nat) : List Char → Option (Char × List Char)
  | '\\' :: 'u' :: rest => do
    let (low, rest) ← readUnit rest
    if 0xDC00 ≤ low ∧ low < 0xE000 then
      some (Char.ofNat (0x10000 + (high - 0xD800) * 0x400 + (low - 0xDC00)), rest)
    else none
  | _ => none

/-- The character that is escaped by its number, from behind the `u`. -/
def readNumbered (cs : List Char) : Option (Char × List Char) := do
  let (n, rest) ← readUnit cs
  if 0xD800 ≤ n ∧ n < 0xDC00 then readLowHalf n rest
  else if 0xDC00 ≤ n ∧ n < 0xE000 then none
  else some (Char.ofNat n, rest)

/-- The character of a string at the front, which may be escaped. -/
def readChar : List Char → Option (Char × List Char)
  | '\\' :: '"' :: rest => some ('"', rest)
  | '\\' :: '\\' :: rest => some ('\\', rest)
  | '\\' :: '/' :: rest => some ('/', rest)
  | '\\' :: 'b' :: rest => some ('\x08', rest)
  | '\\' :: 'f' :: rest => some ('\x0c', rest)
  | '\\' :: 'n' :: rest => some ('\n', rest)
  | '\\' :: 'r' :: rest => some ('\r', rest)
  | '\\' :: 't' :: rest => some ('\t', rest)
  | '\\' :: 'u' :: rest => readNumbered rest
  | '\\' :: _ => none
  | c :: rest => if c.toNat < 0x20 then none else some (c, rest)
  | [] => none

lemma length_of_readUnit {cs rest : List Char} {n : Nat} (h : readUnit cs = some (n, rest)) :
    rest.length < cs.length := by
  unfold readUnit at h
  split at h
  · simp only [Option.bind_eq_bind, Option.bind_eq_some_iff, Option.some.injEq,
      Prod.mk.injEq] at h
    obtain ⟨w, _, x, _, y, _, z, _, _, rfl⟩ := h
    simp only [List.length_cons]
    omega
  · cases h

lemma length_of_readLowHalf {high : Nat} {cs rest : List Char} {c : Char}
    (h : readLowHalf high cs = some (c, rest)) : rest.length < cs.length := by
  unfold readLowHalf at h
  split at h
  · rw [Option.bind_eq_bind, Option.bind_eq_some_iff] at h
    obtain ⟨⟨low, r⟩, hlow, h⟩ := h
    have hlen := length_of_readUnit hlow
    dsimp only at h
    split at h
    · obtain ⟨-, rfl⟩ := Prod.mk.inj (Option.some.inj h)
      exact Nat.lt_trans hlen (Nat.lt_add_of_pos_right (by decide : 0 < 2))
    · cases h
  · cases h

lemma length_of_readNumbered {cs rest : List Char} {c : Char}
    (h : readNumbered cs = some (c, rest)) : rest.length < cs.length := by
  rw [readNumbered, Option.bind_eq_bind, Option.bind_eq_some_iff] at h
  obtain ⟨⟨n, r⟩, hn, h⟩ := h
  have hlen := length_of_readUnit hn
  dsimp only at h
  split at h
  · exact Nat.lt_trans (length_of_readLowHalf h) hlen
  · split at h
    · cases h
    · obtain ⟨-, rfl⟩ := Prod.mk.inj (Option.some.inj h)
      exact hlen

lemma length_of_readChar {cs rest : List Char} {c : Char} (h : readChar cs = some (c, rest)) :
    rest.length < cs.length := by
  unfold readChar at h
  split at h
  all_goals try (cases h; simp only [List.length_cons]; omega)
  · have := length_of_readNumbered h
    simp only [List.length_cons]
    omega
  · cases h
  · split at h
    · cases h
    · cases h
      exact Nat.lt_succ_self _
  · cases h

/-- The characters of a string up to its closing quote, and what stands behind it. -/
def readString (cs : List Char) : Option (List Char × List Char) :=
  if cs.head? = some '"' then some ([], cs.tail)
  else
    match _h : readChar cs with
    | none => none
    | some (c, rest) => (readString rest).map fun (s, rest) => (c :: s, rest)
termination_by cs.length
decreasing_by exact length_of_readChar _h

/-! ## Words and numbers -/

/-- A character that may stand in a word or a number. -/
def inWord (c : Char) : Bool :=
  c.isAlphanum || c = '-' || c = '+' || c = '.'

/-- What a word means: a truth value, nothing, or a number. -/
def ofWord (w : List Char) : Option Tree :=
  if w = "null".toList then some .null
  else if w = "true".toList then some (.bool true)
  else if w = "false".toList then some (.bool false)
  else if w.isEmpty then none
  else some (.number (String.ofList w))

/-! ## Values -/

/-- A character that does not count between the parts of a text. -/
def isSpace (c : Char) : Bool :=
  c = ' ' || c = '\t' || c = '\n' || c = '\r'

/-- The characters from the first one that counts. -/
def skipSpace (cs : List Char) : List Char :=
  cs.dropWhile isSpace

mutual

/-- The value at the front, nested less than `fuel` deep. -/
def readTree : (fuel : Nat) → List Char → Option (Tree × List Char)
  | 0, _ => none
  | fuel + 1, cs =>
    match skipSpace cs with
    | '"' :: rest => (readString rest).map fun (s, rest) => (.text (String.ofList s), rest)
    | '[' :: rest =>
      match skipSpace rest with
      | ']' :: rest => some (.array [], rest)
      | rest => (readItems fuel rest).map fun (xs, rest) => (.array xs, rest)
    | '\x7b' :: rest =>
      match skipSpace rest with
      | '\x7d' :: rest => some (.object [], rest)
      | rest => (readMembers fuel rest).map fun (ms, rest) => (.object ms, rest)
    | rest => (ofWord (rest.takeWhile inWord)).map fun t => (t, rest.dropWhile inWord)

/-- The items of an array up to its closing bracket. -/
def readItems : (fuel : Nat) → List Char → Option (List Tree × List Char)
  | 0, _ => none
  | fuel + 1, cs => do
    let (x, rest) ← readTree fuel cs
    match skipSpace rest with
    | ',' :: rest => (readItems fuel rest).map fun (xs, rest) => (x :: xs, rest)
    | ']' :: rest => some ([x], rest)
    | _ => none

/-- The members of an object up to its closing brace. -/
def readMembers : (fuel : Nat) → List Char → Option (List (String × Tree) × List Char)
  | 0, _ => none
  | fuel + 1, cs =>
    match skipSpace cs with
    | '"' :: rest => do
      let (name, rest) ← readString rest
      match skipSpace rest with
      | ':' :: rest => do
        let (x, rest) ← readTree fuel rest
        match skipSpace rest with
        | ',' :: rest =>
          (readMembers fuel rest).map fun (ms, rest) => ((String.ofList name, x) :: ms, rest)
        | '\x7d' :: rest => some ([(String.ofList name, x)], rest)
        | _ => none
      | _ => none
    | _ => none

end

/-- What a text means, if it is JSON. -/
def read? (s : String) : Option Tree := do
  let (t, rest) ← readTree (s.length + 1) s.toList
  if (skipSpace rest).isEmpty then some t else none

end Keyring.Json
