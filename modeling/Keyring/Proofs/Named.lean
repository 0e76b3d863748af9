/-
# Values under names

Looking up in lists of values under names, as fields, templates and the entries of a directory are.

* `Named.lookup_put` and `Named.lookup_putAll` look up what was put in.
* `Named.mem_map_fst_iff`, `Named.map_fst_put` and `Named.nodup_putAll` are about the names: putting
  never makes one come twice.
* `Named.lookup_eq_some_iff` is about lists in which no name comes twice.
-/
import Keyring.Table
import Keyring.Value.Basic
import Mathlib.Data.List.Nodup
import Mathlib.Tactic.Lemma

namespace Keyring

namespace Named

variable {α : Type} {entries more : List (String × α)} {name other : String} {value : α}

/-! ## Looking up -/

lemma lookup_cons (name other : String) (value : α) (entries : List (String × α)) :
    ((name, value) :: entries).lookup other
      = if other = name then some value else entries.lookup other := by
  rw [List.lookup_cons]
  by_cases h : other = name
  · simp [h]
  · rw [beq_false_of_ne h, if_neg h]

lemma lookup_put (name other : String) (value : α) (entries : List (String × α)) :
    (put name value entries).lookup other
      = if other = name then some value else entries.lookup other := by
  induction entries with
  | nil => rw [put, lookup_cons]
  | cons head entries ih =>
    obtain ⟨n, v⟩ := head
    rw [put, lookup_cons]
    by_cases hn : n = name
    · subst hn
      rw [if_pos rfl, lookup_cons]
      by_cases h : other = n
      · rw [if_pos h, if_pos h]
      · rw [if_neg h, if_neg h, if_neg h]
    · rw [if_neg hn, lookup_cons, ih]
      by_cases h : other = n
      · subst h
        rw [if_pos rfl, if_pos rfl, if_neg hn]
      · rw [if_neg h, if_neg h]

/-- The names are those under which something is found. -/
lemma mem_map_fst_iff : name ∈ entries.map (·.1) ↔ ∃ value, entries.lookup name = some value := by
  induction entries with
  | nil => simp
  | cons head entries ih =>
    obtain ⟨n, v⟩ := head
    rw [List.map_cons, List.mem_cons, ih, lookup_cons]
    by_cases h : name = n
    · simp [h]
    · simp [h]

lemma lookup_eq_none (h : name ∉ entries.map (·.1)) : entries.lookup name = none := by
  rw [mem_map_fst_iff] at h
  exact Option.eq_none_iff_forall_ne_some.2 fun value hvalue => h ⟨value, hvalue⟩

lemma mem_of_lookup (h : entries.lookup name = some value) : (name, value) ∈ entries := by
  induction entries with
  | nil => cases h
  | cons head entries ih =>
    obtain ⟨n, v⟩ := head
    rw [lookup_cons] at h
    by_cases hn : name = n
    · rw [if_pos hn] at h
      rw [hn, Option.some.inj h]
      exact List.mem_cons_self
    · rw [if_neg hn] at h
      exact List.mem_cons_of_mem _ (ih h)

/-- Where no name comes twice, looking up finds every value. -/
lemma lookup_eq_some_iff (hdistinct : (entries.map (·.1)).Nodup) :
    entries.lookup name = some value ↔ (name, value) ∈ entries := by
  refine ⟨mem_of_lookup, fun h => ?_⟩
  induction entries with
  | nil => cases h
  | cons head entries ih =>
    obtain ⟨n, v⟩ := head
    obtain ⟨hnew, hdistinct⟩ := List.nodup_cons.1 hdistinct
    rw [lookup_cons]
    rcases List.mem_cons.1 h with heq | hmem
    · obtain ⟨rfl, rfl⟩ := Prod.mk.inj heq
      rw [if_pos rfl]
    · have hne : name ≠ n := by
        rintro rfl
        exact hnew (List.mem_map_of_mem (f := (·.1)) hmem)
      rw [if_neg hne, ih hdistinct hmem]

/-- Taking the values under one name out leaves the others. -/
lemma lookup_filter_ne (h : other ≠ name) (entries : List (String × α)) :
    (entries.filter fun m => m.1 ≠ name).lookup other = entries.lookup other := by
  induction entries with
  | nil => rfl
  | cons head entries ih =>
    obtain ⟨n, v⟩ := head
    by_cases hn : n = name
    · rw [List.filter_cons_of_neg (by simp [hn]), ih, lookup_cons, if_neg (hn ▸ h)]
    · rw [List.filter_cons_of_pos (by simp [hn]), lookup_cons, lookup_cons, ih]

/-- Each value is found by its name in another form, which may go by the name. -/
lemma lookup_map {β : Type} (f : String → α → β) (entries : List (String × α)) (name : String) :
    (entries.map fun m => (m.1, f m.1 m.2)).lookup name = (entries.lookup name).map (f name) := by
  induction entries with
  | nil => rfl
  | cons head entries ih =>
    obtain ⟨n, v⟩ := head
    rw [List.map_cons, lookup_cons, lookup_cons, ih]
    by_cases h : name = n
    · subst h
      rw [if_pos rfl, if_pos rfl]
      rfl
    · rw [if_neg h, if_neg h]

/-- What was put under a name is found there, and otherwise what was there before. -/
lemma lookup_putAll (hdistinct : (more.map (·.1)).Nodup) (entries : List (String × α))
    (name : String) :
    (putAll entries more).lookup name = (more.lookup name).or (entries.lookup name) := by
  induction more generalizing entries with
  | nil => rfl
  | cons head more ih =>
    obtain ⟨n, v⟩ := head
    obtain ⟨hnew, hdistinct⟩ := List.nodup_cons.1 hdistinct
    have hput : putAll entries ((n, v) :: more) = putAll (put n v entries) more := rfl
    rw [hput, ih hdistinct, lookup_put, lookup_cons]
    by_cases hn : name = n
    · subst hn
      rw [lookup_eq_none hnew, if_pos rfl, if_pos rfl]
      rfl
    · rw [if_neg hn, if_neg hn]

/-! ## Values -/

lemma map_fst_put (name : String) (value : α) (entries : List (String × α)) :
    (put name value entries).map (·.1)
      = if name ∈ entries.map (·.1) then entries.map (·.1) else entries.map (·.1) ++ [name] := by
  induction entries with
  | nil => rfl
  | cons head entries ih =>
    obtain ⟨n, v⟩ := head
    rw [put]
    by_cases hn : n = name
    · simp [hn]
    · simp only [if_neg hn, List.map_cons, ih, List.mem_cons, Ne.symm hn, false_or]
      split <;> rfl

lemma nodup_put (h : (entries.map (·.1)).Nodup) (name : String) (value : α) :
    ((put name value entries).map (·.1)).Nodup := by
  rw [map_fst_put]
  split
  · exact h
  · next hnew => exact (List.perm_append_singleton ..).nodup_iff.2 (List.nodup_cons.2 ⟨hnew, h⟩)

lemma nodup_putAll (h : (entries.map (·.1)).Nodup) (more : List (String × α)) :
    ((putAll entries more).map (·.1)).Nodup := by
  induction more generalizing entries with
  | nil => exact h
  | cons head more ih => exact ih (nodup_put h _ _)

lemma put_ne_nil (name : String) (value : α) (entries : List (String × α)) :
    put name value entries ≠ [] := by
  cases entries with
  | nil => exact List.cons_ne_nil _ _
  | cons head entries =>
    rw [put]
    split <;> exact List.cons_ne_nil _ _

lemma putAll_ne_nil (h : entries ≠ []) (more : List (String × α)) : putAll entries more ≠ [] := by
  induction more generalizing entries with
  | nil => exact h
  | cons head more ih => exact ih (put_ne_nil _ _ _)

end Named

/-! ## Fields -/

namespace Fields

/-- Names that differ are keys that differ. -/
lemma nodup_toMembers {fs : Fields} (h : (fs.map (·.1)).Nodup) :
    (fs.toMembers.map Prod.fst).Nodup := by
  have hkeys : fs.toMembers.map Prod.fst = (fs.map (·.1)).map .text := by
    rw [toMembers, List.map_map, List.map_map]
    rfl
  rw [hkeys]
  exact h.map fun _ _ heq => Value.text.inj heq

end Fields

end Keyring
