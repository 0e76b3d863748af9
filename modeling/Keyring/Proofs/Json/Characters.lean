/-
# The characters of a JSON text

A JSON text has no control character in it, so it is one line; in ASCII it has nothing but
printable characters.

* `Shown` is what a character of a JSON text is like.
* `shown_string` goes through the ways in which a character is written.
* `shown_write`: all characters of the text of a tree are so.
-/
import Keyring.Proofs.Json.RoundTrip

namespace Keyring.Json

/-- The character is no control character of ASCII; with `ascii`, it is a printable one. -/
def Shown (ascii : Bool) (c : Char) : Prop :=
  0x20 ≤ c.toNat ∧ (ascii = true → c.toNat ≤ 0x7E)

variable {ascii : Bool} {c : Char}

/-- A printable character of ASCII may stand in every text. -/
lemma Shown.of_printable (h : 0x20 ≤ c.toNat ∧ c.toNat ≤ 0x7E) : Shown ascii c :=
  ⟨h.1, fun _ => h.2⟩

/-! ## Strings -/

lemma shown_hexDigit {v : Nat} (h : v < 16) : Shown ascii (Bytes.hexDigit v) := by
  have hall : ∀ v < 16, 0x20 ≤ (Bytes.hexDigit v).toNat ∧ (Bytes.hexDigit v).toNat ≤ 0x7E := by
    decide
  exact .of_printable (hall v h)

lemma shown_hexPadded (width n : Nat) : ∀ c ∈ Bytes.hexPadded width n, Shown ascii c := by
  induction width generalizing n with
  | zero => nofun
  | succ width ih =>
    rw [Bytes.hexPadded, List.forall_mem_append, List.forall_mem_singleton]
    exact ⟨ih (n / 16), shown_hexDigit (Nat.mod_lt _ (by decide))⟩

lemma shown_unicodeEscape (n : Nat) : ∀ c ∈ unicodeEscape n, Shown ascii c := by
  rw [unicodeEscape, List.forall_mem_cons, List.forall_mem_cons]
  exact ⟨.of_printable (by decide), .of_printable (by decide), shown_hexPadded 4 n⟩

lemma shown_escapeNumber (n : Nat) : ∀ c ∈ escapeNumber n, Shown ascii c := by
  rw [escapeNumber]
  split
  · exact shown_unicodeEscape n
  · exact List.forall_mem_append.2 ⟨shown_unicodeEscape _, shown_unicodeEscape _⟩

/-- Whatever a character is, what is written for it may stand in a text. -/
lemma shown_escapeChar (ascii : Bool) (c : Char) : ∀ d ∈ escapeChar ascii c, Shown ascii d := by
  have hshort : ∀ d e : Char, 0x20 ≤ d.toNat ∧ d.toNat ≤ 0x7E → 0x20 ≤ e.toNat ∧ e.toNat ≤ 0x7E →
      ∀ x ∈ [d, e], Shown ascii x := by
    intro d e hd he
    rw [List.forall_mem_cons, List.forall_mem_singleton]
    exact ⟨.of_printable hd, .of_printable he⟩
  unfold escapeChar
  -- the seven characters that have an escape of their own
  iterate 7
    split
    · exact hshort _ _ (by decide) (by decide)
  split
  · exact shown_escapeNumber _
  · rename_i hplain
    simp only [Bool.or_eq_true, Bool.and_eq_true, decide_eq_true_eq, not_or, not_and] at hplain
    rw [List.forall_mem_singleton]
    exact ⟨Nat.le_of_not_lt hplain.1, fun hascii => Nat.le_of_lt_succ
      (Nat.lt_of_not_le (hplain.2 hascii))⟩

lemma shown_string (ascii : Bool) (s : String) : ∀ c ∈ string ascii s, Shown ascii c := by
  have hquote : Shown ascii '"' := .of_printable (by decide)
  rw [string, List.forall_mem_cons, List.forall_mem_append, List.forall_mem_singleton]
  refine ⟨hquote, fun c hc => ?_, hquote⟩
  obtain ⟨d, -, hd⟩ := List.mem_flatMap.1 hc
  exact shown_escapeChar ascii d c hd

/-! ## Trees -/

lemma shown_of_isAlphanum (h : c.isAlphanum = true) : Shown ascii c := by
  have hbetween : ∀ {low high : Char}, low.val ≤ c.val ∧ c.val ≤ high.val →
      0x20 ≤ low.toNat ∧ high.toNat ≤ 0x7E → Shown ascii c := by
    intro low high hc hbounds
    have hlow : low.toNat ≤ c.toNat := UInt32.le_iff_toNat_le.1 hc.1
    have hhigh : c.toNat ≤ high.toNat := UInt32.le_iff_toNat_le.1 hc.2
    exact .of_printable (by omega)
  rcases Bool.or_eq_true_iff.1 h with halpha | hdigit
  · rcases Bool.or_eq_true_iff.1 halpha with hupper | hlower
    · exact hbetween (of_decide_eq_true hupper) (by decide)
    · obtain ⟨hlow, hhigh⟩ := Bool.and_eq_true_iff.1 hlower
      exact hbetween ⟨of_decide_eq_true hlow, of_decide_eq_true hhigh⟩ (by decide)
  · obtain ⟨hlow, hhigh⟩ := Bool.and_eq_true_iff.1 hdigit
    exact hbetween ⟨of_decide_eq_true hlow, of_decide_eq_true hhigh⟩ (by decide)

lemma shown_of_inWord (h : inWord c = true) : Shown ascii c := by
  simp only [inWord, Bool.or_eq_true, decide_eq_true_eq] at h
  rcases h with ((h | rfl) | rfl) | rfl
  · exact shown_of_isAlphanum h
  · exact .of_printable (by decide)
  · exact .of_printable (by decide)
  · exact .of_printable (by decide)

lemma shown_writeItems {ts : List Tree} (h : ∀ t ∈ ts, ∀ c ∈ write ascii t, Shown ascii c) :
    ∀ c ∈ writeItems ascii ts, Shown ascii c := by
  induction ts with
  | nil => nofun
  | cons t ts ih =>
    rw [List.forall_mem_cons] at h
    cases ts with
    | nil => exact h.1
    | cons u ts =>
      rw [writeItems_cons_cons, List.forall_mem_append, List.forall_mem_cons]
      exact ⟨h.1, .of_printable (by decide), ih h.2⟩

lemma shown_joinEntries {es : List Entry} (h : ∀ e ∈ es, ∀ c ∈ e.text, Shown ascii c) :
    ∀ c ∈ joinEntries es, Shown ascii c := by
  induction es with
  | nil => nofun
  | cons e es ih =>
    rw [List.forall_mem_cons] at h
    cases es with
    | nil => exact h.1
    | cons e' es =>
      rw [joinEntries, List.forall_mem_append, List.forall_mem_cons]
      · exact ⟨h.1, .of_printable (by decide), ih h.2⟩
      · exact List.cons_ne_nil e' es

lemma shown_writeMembers {ms : List (String × Tree)}
    (h : ∀ m ∈ ms, ∀ c ∈ write ascii m.2, Shown ascii c) :
    ∀ c ∈ joinEntries (writeMembers ascii ms), Shown ascii c := by
  refine shown_joinEntries ?_
  rw [writeMembers_eq_map, List.forall_mem_map]
  intro m hm
  rw [writeMember, List.forall_mem_append, List.forall_mem_cons]
  exact ⟨shown_string ascii m.1, .of_printable (by decide), h m hm⟩

/-- Every character of the text of a tree may stand in it. -/
theorem shown_write (ascii : Bool) {t : Tree} (h : Readable t) :
    ∀ c ∈ write ascii t, Shown ascii c := by
  induction t using Tree.induction with
  | null =>
    have hword : ("null".toList.all inWord) = true := by decide
    rw [write]
    exact fun c hc => shown_of_inWord (List.all_eq_true.1 hword c hc)
  | bool b =>
    have hword : ((if b then "true".toList else "false".toList).all inWord) = true := by
      cases b <;> decide
    rw [write]
    exact fun c hc => shown_of_inWord (List.all_eq_true.1 hword c hc)
  | number s =>
    cases h with
    | number h =>
      rw [write]
      exact fun c hc => shown_of_inWord (h.inWord c hc)
  | text s =>
    rw [write]
    exact shown_string ascii s
  | array ts ih =>
    cases h with
    | array h =>
      rw [write, List.forall_mem_cons, List.forall_mem_append, List.forall_mem_singleton]
      exact ⟨.of_printable (by decide), shown_writeItems fun t ht => ih t ht (h t ht),
        .of_printable (by decide)⟩
  | object ms ih =>
    cases h with
    | object h =>
      rw [write, List.forall_mem_cons, List.forall_mem_append, List.forall_mem_singleton]
      exact ⟨.of_printable (by decide), shown_writeMembers fun m hm => ih m hm (h m hm),
        .of_printable (by decide)⟩

end Keyring.Json
