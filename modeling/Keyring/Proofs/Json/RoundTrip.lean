/-
# Reading what was written

Every value stands for a tree, the encoder writes the text of that tree, and the reader gives the
tree back.  So a text tells which tree was written, whatever the style.

* `tree` is what a value stands for in a style, and `write` is the text of a tree.
* `encode_eq_write`: the encoder writes that text.
* `reads_write`: the text is read back, whatever stands behind it.
* `read?_write` and `readable_tree` put this together for whole texts.
-/
import Keyring.Proofs.Json.Number
import Keyring.Proofs.Json.Text
import Keyring.Proofs.Json.Writable
import Mathlib.Data.List.DropRight

namespace Keyring.Json

open Text (Stops)

variable {style : Style} {ascii : Bool}

/-! ## Trees of values -/

/-- The members in the order in which the style writes them. -/
def ordered (style : Style) (ms : List (String × Tree)) : List (String × Tree) :=
  if style.sorted then ms.mergeSort fun a b => decide (a.1 ≤ b.1) else ms

lemma ordered_perm (style : Style) (ms : List (String × Tree)) : (ordered style ms).Perm ms := by
  rw [ordered]
  split
  · exact List.mergeSort_perm ms _
  · exact .refl ms

lemma ordered_canonical (ms : List (String × Tree)) :
    ordered canonical ms = ms.mergeSort fun a b => decide (a.1 ≤ b.1) := rfl

/-- The name that a key stands for. -/
def keyName (k : Value) : String :=
  (keyText k).toOption.getD ""

mutual

/-- What a value stands for: a tuple for the list of its items, bytes and an object for their
text. -/
def tree (style : Style) : Value → Tree
  | .null => .null
  | .bool b => .bool b
  | .int i => .number (String.ofList (int i))
  | .float x => .number (String.ofList (float x))
  | .text s => .text s
  | .bytes b => .text (Value.bytesText b)
  | .list items => .array (trees style items)
  | .tuple items => .array (trees style items)
  | .dict ms => .object (ordered style (memberTrees style ms))
  | .object o => .text (o.text?.getD "")

/-- What items stand for. -/
def trees (style : Style) : List Value → List Tree
  | [] => []
  | x :: xs => tree style x :: trees style xs

/-- What members stand for, each under the text of its key. -/
def memberTrees (style : Style) : Members → List (String × Tree)
  | [] => []
  | (k, v) :: ms => (keyName k, tree style v) :: memberTrees style ms

end

lemma trees_eq_map (items : List Value) : trees style items = items.map (tree style) := by
  induction items with
  | nil => rw [trees, List.map_nil]
  | cons x xs ih => rw [trees, ih, List.map_cons]

lemma memberTrees_eq_map (ms : Members) :
    memberTrees style ms = ms.map fun m => (keyName m.1, tree style m.2) := by
  induction ms with
  | nil => rw [memberTrees, List.map_nil]
  | cons m ms ih => rw [memberTrees, ih, List.map_cons]

/-! ## Texts of trees -/

mutual

/-- The text of a tree. -/
def write (ascii : Bool) : Tree → List Char
  | .null => "null".toList
  | .bool b => if b then "true".toList else "false".toList
  | .number s => s.toList
  | .text s => string ascii s
  | .array ts => '[' :: (writeItems ascii ts ++ [']'])
  | .object ms => '\x7b' :: (joinEntries (writeMembers ascii ms) ++ ['\x7d'])

/-- The texts of items with a comma between them. -/
def writeItems (ascii : Bool) : List Tree → List Char
  | [] => []
  | [t] => write ascii t
  | t :: ts => write ascii t ++ ',' :: writeItems ascii ts

/-- Members, each with a colon between name and value. -/
def writeMembers (ascii : Bool) : List (String × Tree) → List Entry
  | [] => []
  | (name, t) :: ms => ⟨.text name, string ascii name ++ ':' :: write ascii t⟩
      :: writeMembers ascii ms

end

/-- A member up to its place. -/
def writeMember (ascii : Bool) (m : String × Tree) : Entry :=
  ⟨.text m.1, string ascii m.1 ++ ':' :: write ascii m.2⟩

lemma writeMembers_eq_map (ms : List (String × Tree)) :
    writeMembers ascii ms = ms.map (writeMember ascii) := by
  induction ms with
  | nil => rw [writeMembers, List.map_nil]
  | cons m ms ih => rw [writeMembers, ih, List.map_cons]; rfl

lemma writeItems_cons_cons (t u : Tree) (ts : List Tree) :
    writeItems ascii (t :: u :: ts) = write ascii t ++ ',' :: writeItems ascii (u :: ts) := by
  rw [writeItems]
  exact List.cons_ne_nil u ts

/-! ## The encoder writes trees -/

/-- Every key is a text. -/
abbrev TextKeys (ms : Members) : Prop :=
  ∀ k ∈ ms.map Prod.fst, ∃ s, k = .text s

lemma textKeys_toMembers (fields : Fields) : TextKeys fields.toMembers := by
  rw [TextKeys, Fields.toMembers, List.map_map, List.forall_mem_map]
  exact fun m _ => ⟨m.1, rfl⟩

lemma spelled_toMembers {fields : Fields} (h : ∀ m ∈ fields, Spelled m.2) :
    Spelled (.dict fields.toMembers) := by
  refine .dict ?_ ?_
  · exact List.forall_mem_map.2 fun m _ => isShortKey_text m.1
  · exact List.forall_mem_map.2 h

/-- A value that is written as what it is: in every dictionary the keys are different texts, and
bytes and objects are there only if the style writes them as text. -/
inductive Plain (style : Style) : Value → Prop
  | null : Plain style .null
  | bool (b : Bool) : Plain style (.bool b)
  | int (i : Int) : Plain style (.int i)
  | float (x : Number.Double) : Plain style (.float x)
  | text (s : String) : Plain style (.text s)
  | bytes (h : style.lenient = true) (b : Bytes) : Plain style (.bytes b)
  | list {items : List Value} (h : ∀ x ∈ items, Plain style x) : Plain style (.list items)
  | tuple {items : List Value} (h : ∀ x ∈ items, Plain style x) : Plain style (.tuple items)
  | dict {ms : Members} (hkeys : TextKeys ms) (hdistinct : (ms.map Prod.fst).Nodup)
      (h : ∀ m ∈ ms, Plain style m.2) : Plain style (.dict ms)
  | object (h : style.lenient = true) (o : Object) : Plain style (.object o)

lemma encodeItems_eq {items : List Value}
    (h : ∀ x ∈ items, encode style x = .ok (write style.ascii (tree style x))) :
    encodeItems style items = .ok (writeItems style.ascii (trees style items)) := by
  induction items with
  | nil => rfl
  | cons x xs ih =>
    rw [List.forall_mem_cons] at h
    cases xs with
    | nil => rw [encodeItems, trees, trees, writeItems, h.1]
    | cons y ys =>
      have hxs := ih h.2
      rw [trees] at hxs
      rw [trees, trees, writeItems_cons_cons, encodeItems, hxs, h.1]
      · rfl
      · exact List.cons_ne_nil y ys

lemma encodeEntries_eq {ms : Members} (hkeys : TextKeys ms)
    (h : ∀ m ∈ ms, encode style m.2 = .ok (write style.ascii (tree style m.2))) :
    encodeEntries style ms = .ok (writeMembers style.ascii (memberTrees style ms)) := by
  induction ms with
  | nil => rfl
  | cons m ms ih =>
    rw [TextKeys, List.map_cons, List.forall_mem_cons] at hkeys
    rw [List.forall_mem_cons] at h
    obtain ⟨⟨name, hname⟩, hkeys⟩ := hkeys
    rw [encodeEntries, memberTrees, writeMembers, ih hkeys h.2, h.1, hname]
    rfl

/-- Members are sorted by name, whether as trees or as texts. -/
lemma sortEntries_writeMembers (ms : List (String × Tree)) :
    sortEntries (writeMembers ascii ms)
      = .ok (writeMembers ascii (ms.mergeSort fun a b => decide (a.1 ≤ b.1))) := by
  have htexts : ((ms.map (writeMember ascii)).all fun e => isText e.key) = true := by
    rw [List.all_map, List.all_eq_true]
    intro m _
    rfl
  rw [writeMembers_eq_map, writeMembers_eq_map, sortEntries, if_pos htexts, List.map_mergeSort]
  · rfl
  · intro a _ b _
    rfl

lemma encode_dict_eq {ms : Members} (hkeys : TextKeys ms)
    (h : ∀ m ∈ ms, encode style m.2 = .ok (write style.ascii (tree style m.2))) :
    encode style (.dict ms) = .ok (write style.ascii (tree style (.dict ms))) := by
  rw [encode, encodeEntries_eq hkeys h, tree, write, ordered]
  cases hsorted : style.sorted with
  | false => rfl
  | true =>
    exact bind_eq_ok_iff.2 ⟨_, rfl, bind_eq_ok_iff.2 ⟨_, sortEntries_writeMembers _, rfl⟩⟩

lemma encode_int_eq {i : Int} (h : Number.IsShort i) :
    encode style (.int i) = .ok (write style.ascii (tree style (.int i))) := by
  rw [encode, intChars_of_isShort h, tree, write, String.toList_ofList, int]

lemma encode_object_eq {o : Object} {s : String} (hlenient : style.lenient = true)
    (h : o.text = .ok s) :
    encode style (.object o) = .ok (write style.ascii (tree style (.object o))) := by
  have htext : o.text?.getD "" = s := by
    rw [Object.text] at h
    cases htext : o.text? with
    | none =>
      rw [htext] at h
      cases h
    | some t =>
      rw [htext] at h
      exact Except.ok.inj h
  rw [encode, if_pos hlenient, h, tree, write, htext]
  rfl

/-- The encoder writes the text of the tree that the value stands for. -/
theorem encode_eq_write {v : Value} (h : Plain style v) (hspelled : Spelled v) :
    encode style v = .ok (write style.ascii (tree style v)) := by
  induction v using Value.induction with
  | null => rfl
  | bool b => rw [encode, tree, write]; rfl
  | int i =>
    cases hspelled with
    | int hshort => exact encode_int_eq hshort
  | float x => rw [encode, tree, write, String.toList_ofList]; rfl
  | text s => rw [encode, tree, write]; rfl
  | bytes b =>
    cases h with
    | bytes hlenient => rw [encode, if_pos hlenient, tree, write]; rfl
  | list items ih =>
    cases h with | list h => ?_
    cases hspelled with | list hspelled => ?_
    rw [encode, encodeItems_eq fun x hx => ih x hx (h x hx) (hspelled x hx), tree, write]
    rfl
  | tuple items ih =>
    cases h with | tuple h => ?_
    cases hspelled with | tuple hspelled => ?_
    rw [encode, encodeItems_eq fun x hx => ih x hx (h x hx) (hspelled x hx), tree, write]
    rfl
  | dict ms ih =>
    cases h with | dict hkeys _ h => ?_
    cases hspelled with | dict _ hspelled => ?_
    exact encode_dict_eq hkeys fun m hm => ih m hm (h m hm) (hspelled m hm)
  | object o =>
    cases h with | object hlenient => ?_
    cases hspelled with | object htext => ?_
    exact encode_object_eq hlenient htext

/-! ## Reading values -/

/-- The text is read as the tree, whatever stands behind it that does not go on with a word. -/
def Reads (cs : List Char) (t : Tree) : Prop :=
  ∀ (fuel : Nat) (rest : List Char), cs.length < fuel → Stops inWord rest →
    readTree fuel (cs ++ rest) = some (t, rest)

lemma reads_string (ascii : Bool) (s : String) : Reads (string ascii s) (.text s) := by
  intro fuel rest hfuel _
  obtain ⟨fuel, rfl⟩ := Nat.exists_eq_add_one_of_ne_zero (Nat.ne_zero_of_lt hfuel)
  exact readTree_string ascii s rest

lemma isSpace_of_inWord {c : Char} (h : inWord c = true) : isSpace c = false := by
  rw [Bool.eq_false_iff]
  intro hspace
  simp only [isSpace, Bool.or_eq_true, decide_eq_true_eq] at hspace
  rcases hspace with ((rfl | rfl) | rfl) | rfl <;> cases h

lemma readTree_word {c : Char} (h : inWord c = true) (fuel : Nat) (cs : List Char) :
    readTree (fuel + 1) (c :: cs)
      = (ofWord ((c :: cs).takeWhile inWord)).map fun t => (t, (c :: cs).dropWhile inWord) := by
  have hskip : skipSpace (c :: cs) = c :: cs := by
    rw [skipSpace, List.dropWhile_cons_of_neg (by simp [isSpace_of_inWord h])]
  rw [readTree, hskip]
  -- no word begins like a text, an array or an object
  split
  · rename_i hquote
    cases hquote
    cases h
  · rename_i hbracket
    cases hbracket
    cases h
  · rename_i hbrace
    cases hbrace
    cases h
  · rfl

/-- A word is read as what it means. -/
lemma reads_word {w : List Char} {t : Tree} (hword : ∀ c ∈ w, inWord c = true)
    (hmeans : ofWord w = some t) : Reads w t := by
  intro fuel rest hfuel hstops
  obtain ⟨fuel, rfl⟩ := Nat.exists_eq_add_one_of_ne_zero (Nat.ne_zero_of_lt hfuel)
  cases w with
  | nil => cases hmeans
  | cons c w =>
    rw [List.cons_append, readTree_word (hword c List.mem_cons_self), ← List.cons_append,
      Text.takeWhile_append hword hstops, Text.dropWhile_append hword hstops, hmeans,
      Option.map_some]

lemma skipSpace_skipSpace (cs : List Char) : skipSpace (skipSpace cs) = skipSpace cs :=
  List.dropWhile_idempotent _ cs

lemma readTree_skipSpace (fuel : Nat) (cs : List Char) :
    readTree fuel (skipSpace cs) = readTree fuel cs := by
  cases fuel with
  | zero => rfl
  | succ fuel => rw [readTree, readTree, skipSpace_skipSpace]

lemma readItems_skipSpace (fuel : Nat) (cs : List Char) :
    readItems fuel (skipSpace cs) = readItems fuel cs := by
  cases fuel with
  | zero => rfl
  | succ fuel => rw [readItems, readItems, readTree_skipSpace]

lemma readMembers_skipSpace (fuel : Nat) (cs : List Char) :
    readMembers fuel (skipSpace cs) = readMembers fuel cs := by
  cases fuel with
  | zero => rfl
  | succ fuel => rw [readMembers, readMembers, skipSpace_skipSpace]

/-- No item begins with a closing bracket. -/
lemma readItems_bracket (fuel : Nat) (rest : List Char) : readItems fuel (']' :: rest) = none := by
  rcases fuel with _ | _ | fuel
  · rfl
  · rfl
  · have hword : readTree (fuel + 1) (']' :: rest) = none := by
      rw [readTree]
      rfl
    rw [readItems, hword]
    rfl

/-- No member begins with a closing brace. -/
lemma readMembers_brace (fuel : Nat) (rest : List Char) :
    readMembers fuel ('\x7d' :: rest) = none := by
  cases fuel with
  | zero => rfl
  | succ fuel =>
    rw [readMembers]
    rfl

/-- Items that are read are the items of an array. -/
lemma readTree_array {fuel : Nat} {cs rest : List Char} {ts : List Tree}
    (h : readItems fuel cs = some (ts, rest)) :
    readTree (fuel + 1) ('[' :: cs) = some (.array ts, rest) := by
  have hskip : skipSpace ('[' :: cs) = '[' :: cs := rfl
  rw [← readItems_skipSpace] at h
  simp only [readTree, hskip]
  split
  · rename_i hbracket
    rw [hbracket, readItems_bracket] at h
    cases h
  · rw [h]
    rfl

/-- Members that are read are the members of an object. -/
lemma readTree_object {fuel : Nat} {cs rest : List Char} {ms : List (String × Tree)}
    (h : readMembers fuel cs = some (ms, rest)) :
    readTree (fuel + 1) ('\x7b' :: cs) = some (.object ms, rest) := by
  have hskip : skipSpace ('\x7b' :: cs) = '\x7b' :: cs := rfl
  rw [← readMembers_skipSpace] at h
  simp only [readTree, hskip]
  split
  · rename_i hbrace
    rw [hbrace, readMembers_brace] at h
    cases h
  · rw [h]
    rfl

/-! ## Reading trees -/

lemma skipSpace_colon (rest : List Char) : skipSpace (':' :: rest) = ':' :: rest := rfl

lemma skipSpace_comma (rest : List Char) : skipSpace (',' :: rest) = ',' :: rest := rfl

lemma skipSpace_brace (rest : List Char) : skipSpace ('\x7d' :: rest) = '\x7d' :: rest := rfl

/-- The texts of items are read up to the closing bracket. -/
lemma readItems_writeItems {ts : List Tree} (hne : ts ≠ [])
    (hreads : ∀ t ∈ ts, Reads (write ascii t) t) {fuel : Nat}
    (hfuel : (writeItems ascii ts).length + 1 < fuel) (rest : List Char) :
    readItems fuel (writeItems ascii ts ++ ']' :: rest) = some (ts, rest) := by
  induction ts generalizing fuel with
  | nil => exact absurd rfl hne
  | cons t ts ih =>
    obtain ⟨fuel, rfl⟩ := Nat.exists_eq_add_one_of_ne_zero (Nat.ne_zero_of_lt hfuel)
    rw [List.forall_mem_cons] at hreads
    cases ts with
    | nil =>
      rw [writeItems] at hfuel ⊢
      rw [readItems, hreads.1 _ _ (by omega) (Text.stops_cons.2 rfl)]
      rfl
    | cons u ts =>
      rw [writeItems_cons_cons] at hfuel ⊢
      simp only [List.length_append, List.length_cons] at hfuel
      have hitems : readItems fuel (writeItems ascii (u :: ts) ++ ']' :: rest)
          = some (u :: ts, rest) := ih (List.cons_ne_nil u ts) hreads.2 (by omega)
      rw [List.append_assoc, List.cons_append, readItems,
        hreads.1 _ _ (by omega) (Text.stops_cons.2 rfl), Option.bind_eq_bind, Option.bind_some]
      simp only [skipSpace_comma, hitems, Option.map_some]

section Member

variable {name : String} {t : Tree} {fuel : Nat} {rest : List Char}

lemma skipSpace_writeMember :
    skipSpace ((writeMember ascii (name, t)).text ++ rest)
      = '"' :: (name.toList.flatMap (escapeChar ascii)
        ++ '"' :: ':' :: (write ascii t ++ rest)) := by
  rw [writeMember, string, List.cons_append, List.cons_append, List.append_assoc,
    List.append_assoc]
  rfl

lemma length_write_lt (hfuel : (writeMember ascii (name, t)).text.length < fuel) :
    (write ascii t).length < fuel := by
  simp only [writeMember, List.length_append, List.length_cons] at hfuel
  omega

/-- The last member is read up to the closing brace. -/
lemma readMembers_last (hreads : Reads (write ascii t) t)
    (hfuel : (writeMember ascii (name, t)).text.length < fuel) :
    readMembers (fuel + 1) ((writeMember ascii (name, t)).text ++ '\x7d' :: rest)
      = some ([(name, t)], rest) := by
  have htree := hreads fuel ('\x7d' :: rest) (length_write_lt hfuel) (Text.stops_cons.2 rfl)
  rw [readMembers, skipSpace_writeMember]
  simp only [readString_string, Option.bind_eq_bind, Option.bind_some, skipSpace_colon, htree,
    skipSpace_brace, String.ofList_toList]

/-- A member is read up to the comma, and then those behind it. -/
lemma readMembers_more {ms : List (String × Tree)} {tail : List Char}
    (hreads : Reads (write ascii t) t)
    (hfuel : (writeMember ascii (name, t)).text.length < fuel)
    (hms : readMembers fuel tail = some (ms, rest)) :
    readMembers (fuel + 1) ((writeMember ascii (name, t)).text ++ ',' :: tail)
      = some ((name, t) :: ms, rest) := by
  have htree := hreads fuel (',' :: tail) (length_write_lt hfuel) (Text.stops_cons.2 rfl)
  rw [readMembers, skipSpace_writeMember]
  simp only [readString_string, Option.bind_eq_bind, Option.bind_some, skipSpace_colon, htree,
    skipSpace_comma, hms, Option.map_some, String.ofList_toList]

end Member

/-- The texts of members are read up to the closing brace. -/
lemma readMembers_writeMembers {ms : List (String × Tree)} (hne : ms ≠ [])
    (hreads : ∀ m ∈ ms, Reads (write ascii m.2) m.2) {fuel : Nat}
    (hfuel : (joinEntries (writeMembers ascii ms)).length + 1 < fuel) (rest : List Char) :
    readMembers fuel (joinEntries (writeMembers ascii ms) ++ '\x7d' :: rest)
      = some (ms, rest) := by
  induction ms generalizing fuel with
  | nil => exact absurd rfl hne
  | cons m ms ih =>
    obtain ⟨name, t⟩ := m
    obtain ⟨fuel, rfl⟩ := Nat.exists_eq_add_one_of_ne_zero (Nat.ne_zero_of_lt hfuel)
    rw [List.forall_mem_cons] at hreads
    rw [writeMembers_eq_map] at hfuel ih ⊢
    cases ms with
    | nil =>
      rw [List.map_singleton, joinEntries] at hfuel ⊢
      exact readMembers_last hreads.1 (by omega)
    | cons n ms =>
      have hjoin : joinEntries (((name, t) :: n :: ms).map (writeMember ascii))
          = (writeMember ascii (name, t)).text
            ++ ',' :: joinEntries ((n :: ms).map (writeMember ascii)) := by
        simp only [List.map_cons, joinEntries]
      rw [hjoin] at hfuel ⊢
      simp only [List.length_append, List.length_cons] at hfuel
      have hmembers : readMembers fuel
          (joinEntries ((n :: ms).map (writeMember ascii)) ++ '\x7d' :: rest)
          = some (n :: ms, rest) := ih (List.cons_ne_nil n ms) hreads.2 (by omega)
      rw [List.append_assoc, List.cons_append]
      exact readMembers_more hreads.1 (by omega) hmembers

lemma reads_array {ts : List Tree} (hreads : ∀ t ∈ ts, Reads (write ascii t) t) :
    Reads (write ascii (.array ts)) (.array ts) := by
  intro fuel rest hfuel _
  obtain ⟨fuel, rfl⟩ := Nat.exists_eq_add_one_of_ne_zero (Nat.ne_zero_of_lt hfuel)
  rw [write] at hfuel ⊢
  simp only [List.length_cons, List.length_append, List.length_nil] at hfuel
  rw [List.cons_append, List.append_assoc, List.singleton_append]
  cases ts with
  | nil =>
    rw [writeItems, List.nil_append, readTree]
    rfl
  | cons t ts =>
    exact readTree_array (readItems_writeItems (List.cons_ne_nil t ts) hreads (by omega) rest)

lemma reads_object {ms : List (String × Tree)} (hreads : ∀ m ∈ ms, Reads (write ascii m.2) m.2) :
    Reads (write ascii (.object ms)) (.object ms) := by
  intro fuel rest hfuel _
  obtain ⟨fuel, rfl⟩ := Nat.exists_eq_add_one_of_ne_zero (Nat.ne_zero_of_lt hfuel)
  rw [write] at hfuel ⊢
  simp only [List.length_cons, List.length_append, List.length_nil] at hfuel
  rw [List.cons_append, List.append_assoc, List.singleton_append]
  cases ms with
  | nil =>
    rw [writeMembers, joinEntries, List.nil_append, readTree]
    rfl
  | cons m ms =>
    exact readTree_object
      (readMembers_writeMembers (List.cons_ne_nil m ms) hreads (by omega) rest)

/-- A tree whose numbers are spelled as numbers. -/
inductive Readable : Tree → Prop
  | null : Readable .null
  | bool (b : Bool) : Readable (.bool b)
  | number {s : String} (h : IsNumber s.toList) : Readable (.number s)
  | text (s : String) : Readable (.text s)
  | array {ts : List Tree} (h : ∀ t ∈ ts, Readable t) : Readable (.array ts)
  | object {ms : List (String × Tree)} (h : ∀ m ∈ ms, Readable m.2) : Readable (.object ms)

/-- The text of a tree is read back. -/
theorem reads_write (ascii : Bool) {t : Tree} (h : Readable t) : Reads (write ascii t) t := by
  induction t using Tree.induction with
  | null =>
    rw [write]
    exact reads_word (List.all_eq_true.1 (by decide)) rfl
  | bool b =>
    rw [write]
    cases b with
    | false => exact reads_word (List.all_eq_true.1 (by decide)) rfl
    | true => exact reads_word (List.all_eq_true.1 (by decide)) rfl
  | number s =>
    cases h with
    | number h =>
      have hmeans := h.ofWord_eq
      rw [String.ofList_toList] at hmeans
      rw [write]
      exact reads_word h.inWord hmeans
  | text s =>
    rw [write]
    exact reads_string ascii s
  | array ts ih =>
    cases h with
    | array h => exact reads_array fun t ht => ih t ht (h t ht)
  | object ms ih =>
    cases h with
    | object h => exact reads_object fun m hm => ih m hm (h m hm)

theorem read?_write (ascii : Bool) {t : Tree} (h : Readable t) :
    read? (String.ofList (write ascii t)) = some t := by
  have hread := reads_write ascii h _ _ (Nat.lt_succ_self _) Text.stops_nil
  rw [List.append_nil] at hread
  rw [read?, String.toList_ofList, String.length_ofList, hread]
  rfl

/-! ## Reading what the encoder wrote -/

lemma readable_trees {items : List Value} (h : ∀ x ∈ items, Readable (tree style x)) :
    ∀ t ∈ trees style items, Readable t := by
  rw [trees_eq_map, List.forall_mem_map]
  exact h

/-- Every value stands for a tree that can be read. -/
lemma readable_tree (style : Style) (v : Value) : Readable (tree style v) := by
  induction v using Value.induction with
  | null =>
    rw [tree]
    exact .null
  | bool b =>
    rw [tree]
    exact .bool b
  | int i =>
    rw [tree]
    exact .number (by rw [String.toList_ofList]; exact isNumber_int i)
  | float x =>
    rw [tree]
    exact .number (by rw [String.toList_ofList]; exact isNumber_float x)
  | text s =>
    rw [tree]
    exact .text s
  | bytes b =>
    rw [tree]
    exact .text _
  | list items ih =>
    rw [tree]
    exact .array (readable_trees ih)
  | tuple items ih =>
    rw [tree]
    exact .array (readable_trees ih)
  | dict ms ih =>
    rw [tree]
    refine .object fun m hm => ?_
    rw [(ordered_perm style _).mem_iff, memberTrees_eq_map, List.mem_map] at hm
    obtain ⟨n, hn, rfl⟩ := hm
    exact ih n hn
  | object o =>
    rw [tree]
    exact .text _

/-- An object of texts is read back, its members in order by their names. -/
theorem read?_texts (members : List (String × String)) :
    ∃ (text : String) (sorted : List (String × String)), sorted.Perm members
      ∧ canonicalText? (.dict (members.map fun member => (.text member.1, .text member.2)))
        = some text
      ∧ read? text = some (.object (sorted.map fun member => (member.1, .text member.2))) := by
  have htree : tree canonical (.dict (members.map fun member => (.text member.1, .text member.2)))
      = .object ((members.mergeSort fun a b => decide (a.1 ≤ b.1)).map
          fun member => (member.1, .text member.2)) := by
    rw [tree, memberTrees_eq_map, List.map_map, ordered_canonical, List.map_mergeSort]
    · rfl
    · exact fun _ _ _ _ => rfl
  have hread := read?_write true (readable_tree canonical
    (.dict (members.map fun member => (.text member.1, .text member.2))))
  refine ⟨_, _, List.mergeSort_perm members fun a b => decide (a.1 ≤ b.1), ?_, htree ▸ hread⟩
  rw [canonicalText?, encode_dict_eq, htree]
  · rfl
  · rw [TextKeys, List.map_map, List.forall_mem_map]
    exact fun member _ => ⟨member.1, rfl⟩
  · rw [List.forall_mem_map]
    intro member _
    rw [encode, tree, write]
    rfl

end Keyring.Json
