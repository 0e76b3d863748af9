/-
# Tables

A table keeps rows under consecutive numbers.  Rows are added and replaced, never removed.  A number
that was not given out stands for the default row.

What is kept under names instead, as fields, templates and the entries of a directory are, is a list
of pairs: putting a value under a name replaces what is there, or else the value comes last.
-/
namespace Keyring

/-- Rows under the numbers from zero. -/
structure Table (α : Type) where
  rows : List α := []

namespace Table

variable {α : Type}

/-- The row under a number. -/
def get [Inhabited α] (t : Table α) (i : Nat) : α :=
  t.rows.getD i default

/-- Replaces the row under a number. -/
def set (t : Table α) (i : Nat) (row : α) : Table α :=
  ⟨t.rows.set i row⟩

/-- Adds a row under the next number. -/
def add (t : Table α) (row : α) : Table α :=
  ⟨t.rows ++ [row]⟩

/-- The number of the next row. -/
def next (t : Table α) : Nat :=
  t.rows.length

theorem get_set_self [Inhabited α] (t : Table α) (i : Nat) (row : α) (h : i < t.next) :
    (t.set i row).get i = row := by
  have : i < t.rows.length := h
  simp [get, set, this]

theorem get_set_of_ne [Inhabited α] (t : Table α) {i j : Nat} (row : α) (h : i ≠ j) :
    (t.set i row).get j = t.get j := by
  simp [get, set, List.getElem?_set_ne h]

theorem get_add_next [Inhabited α] (t : Table α) (row : α) : (t.add row).get t.next = row := by
  simp [get, add, next]

theorem get_add_of_lt [Inhabited α] (t : Table α) (row : α) {i : Nat} (h : i < t.next) :
    (t.add row).get i = t.get i := by
  simp only [get, add, List.getD_eq_getElem?_getD]
  rw [List.getElem?_append_left h]

/-- A number that was not given out stands for the default row. -/
theorem get_of_next_le [Inhabited α] (t : Table α) {i : Nat} (h : t.next ≤ i) :
    t.get i = default := by
  rw [get, List.getD_eq_getElem?_getD, List.getElem?_eq_none h, Option.getD_none]

theorem set_get [Inhabited α] (t : Table α) (i : Nat) : t.set i (t.get i) = t := by
  refine congrArg mk (List.ext_getElem? fun j => ?_)
  rw [List.getElem?_set]
  by_cases hij : i = j
  · subst hij
    by_cases hi : i < t.rows.length
    · simp [get, hi]
    · simp [hi]
  · simp [hij]

/-- What a row shares with the one that it replaces stays under every number. -/
theorem apply_get_set [Inhabited α] {β : Type} (f : α → β) (t : Table α) (i : Nat) (row : α)
    (h : f row = f (t.get i)) (j : Nat) : f ((t.set i row).get j) = f (t.get j) := by
  by_cases hij : i = j
  · subst hij
    by_cases hi : i < t.next
    · rw [get_set_self t i row hi, h]
    · have hunchanged : t.set i row = t :=
        congrArg mk (List.set_eq_of_length_le (Nat.not_lt.1 hi))
      rw [hunchanged]
  · rw [get_set_of_ne t row hij]

@[simp] theorem next_set (t : Table α) (i : Nat) (row : α) : (t.set i row).next = t.next := by
  simp [next, set]

@[simp] theorem next_add (t : Table α) (row : α) : (t.add row).next = t.next + 1 := by
  simp [next, add]

end Table

/-! ## Values under names -/

namespace Named

variable {α : Type}

/-- Puts a value under a name, in the name's place or else at the end. -/
def put (name : String) (value : α) : List (String × α) → List (String × α)
  | [] => [(name, value)]
  | (n, v) :: rest => if n = name then (n, value) :: rest else (n, v) :: put name value rest

/-- Puts values under their names, one after the other. -/
def putAll (entries more : List (String × α)) : List (String × α) :=
  more.foldl (fun acc (n, v) => put n v acc) entries

end Named

end Keyring
