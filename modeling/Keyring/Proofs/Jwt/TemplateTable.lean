/-
# Putting templates into a table

Templates that are put together are refused because of the first of their names that is bound to
another template.  If none is, the table has what it had and what was put.

* `putAll_eq_error_iff` and `putAll_eq_ok_iff` are the two ways in which putting templates ends.
* `find?_of_putAll` and `extends_of_putAll` are what a table holds afterwards: its bindings are a
  union, and its names go on.
* `same_of_find?`: tables that begin alike and bind alike are the same to all who ask.
-/
import Keyring.Jwt.TemplateTable
import Keyring.Proofs.Named
import Mathlib.Data.List.Perm.Basic

namespace Keyring.Jwt.TemplateTable

variable {t u start : TemplateTable} {name : String} {template : Template}
  {values : List (String × Template)} {e : KeyError}

/-! ## Conflicts -/

/-- The name is bound, and to another template. -/
def BindsOther (t : TemplateTable) (name : String) (template : Template) : Prop :=
  ∃ bound, t.find? name = some bound ∧ bound ≠ template

/-- The name is the first one of the given that is bound to another template. -/
def FirstConflict (t : TemplateTable) (values : List (String × Template)) (name : String) : Prop :=
  ∃ earlier template later, values = earlier ++ (name, template) :: later
    ∧ t.BindsOther name template ∧ ∀ p ∈ earlier, ¬ t.BindsOther p.1 p.2

lemma conflicts_eq_true_iff : t.conflicts name template = true ↔ t.BindsOther name template := by
  rw [conflicts, BindsOther]
  cases t.find? name <;> simp

lemma conflicts_eq_false_iff :
    t.conflicts name template = false ↔ ¬ t.BindsOther name template := by
  rw [← conflicts_eq_true_iff, Bool.not_eq_true]

/-- The name that the search for a conflict finds. -/
lemma find?_conflicts_eq_some_iff :
    (values.find? fun (name, template) => t.conflicts name template).map (·.1) = some name
      ↔ t.FirstConflict values name := by
  simp only [Option.map_eq_some_iff, List.find?_eq_some_iff_append, Bool.not_eq_true',
    conflicts_eq_true_iff, conflicts_eq_false_iff]
  constructor
  · rintro ⟨⟨name, template⟩, ⟨hother, earlier, later, hvalues, hearlier⟩, rfl⟩
    exact ⟨earlier, template, later, hvalues, hother, hearlier⟩
  · rintro ⟨earlier, template, later, hvalues, hother, hearlier⟩
    exact ⟨(name, template), ⟨hother, earlier, later, hvalues, hearlier⟩, rfl⟩

/-! ## Putting templates together -/

lemma putAll_eq_error_iff :
    t.putAll values = .error e
      ↔ ∃ name, t.FirstConflict values name ∧ e = ⟨.templateConflict name, none⟩ := by
  simp only [← find?_conflicts_eq_some_iff]
  rw [putAll]
  cases values.find? fun (name, template) => t.conflicts name template with
  | none => simp
  | some found => simp [refuse, eq_comm]

/-- Templates are put if none of their names is bound to another template. -/
lemma putAll_eq_ok_iff :
    t.putAll values = .ok u
      ↔ (∀ p ∈ values, ¬ t.BindsOther p.1 p.2) ∧ u = ⟨Named.putAll t.entries values⟩ := by
  rw [putAll]
  cases hfound : values.find? fun p => t.conflicts p.1 p.2 with
  | none =>
    have hagree : ∀ p ∈ values, ¬ t.BindsOther p.1 p.2 := fun p hp =>
      conflicts_eq_true_iff.not.1 (List.find?_eq_none.1 hfound p hp)
    exact ⟨fun h => ⟨hagree, (Except.ok.inj h).symm⟩, fun h => congrArg _ h.2.symm⟩
  | some found =>
    have hconflict : t.conflicts found.1 found.2 = true :=
      List.find?_some (p := fun p : String × Template => t.conflicts p.1 p.2) hfound
    have hfound : found ∈ values := List.mem_of_find?_eq_some hfound
    exact ⟨nofun, fun ⟨hagree, _⟩ =>
      absurd (conflicts_eq_true_iff.1 hconflict) (hagree found hfound)⟩

/-- Templates that were put are bound, and so is what was bound before. -/
lemma find?_of_putAll (hdistinct : (values.map (·.1)).Nodup) (h : t.putAll values = .ok u) :
    u.find? name = some template ↔ t.find? name = some template ∨ (name, template) ∈ values := by
  obtain ⟨hagree, rfl⟩ := putAll_eq_ok_iff.1 h
  rw [← Named.lookup_eq_some_iff hdistinct, find?, find?, Named.lookup_putAll hdistinct]
  cases hput : values.lookup name with
  | none => simp
  | some put =>
    have hbound : ∀ bound, t.entries.lookup name = some bound → bound = put := fun bound h => by
      by_contra hne
      exact hagree _ (Named.mem_of_lookup hput) ⟨bound, h, hne⟩
    constructor
    · exact .inr
    · rintro (h | h)
      · rw [hbound _ h]
        rfl
      · exact h

/-! ## Names -/

/-- The names of a table are those of an earlier one, and new ones behind them. -/
def Extends (start t : TemplateTable) : Prop :=
  ∃ fresh, t.entries.map (·.1) = start.entries.map (·.1) ++ fresh ∧ fresh.Nodup
    ∧ ∀ name ∈ fresh, name ∉ start.entries.map (·.1)

lemma Extends.refl (t : TemplateTable) : t.Extends t :=
  ⟨[], (List.append_nil _).symm, List.nodup_nil, nofun⟩

lemma Extends.put (h : start.Extends t) (name : String) (template : Template) :
    start.Extends ⟨Named.put name template t.entries⟩ := by
  obtain ⟨fresh, hnames, hdistinct, hfresh⟩ := h
  rw [Extends, Named.map_fst_put, hnames]
  split
  · exact ⟨fresh, rfl, hdistinct, hfresh⟩
  · next hnew =>
    obtain ⟨hstart, hnew⟩ := not_or.1 (mt List.mem_append.2 hnew)
    refine ⟨fresh ++ [name], List.append_assoc .., ?_, ?_⟩
    · exact (List.perm_append_singleton ..).nodup_iff.2 (List.nodup_cons.2 ⟨hnew, hdistinct⟩)
    · exact List.forall_mem_append.2 ⟨hfresh, List.forall_mem_singleton.2 hstart⟩

lemma extends_of_putAll (h : start.Extends t) (hput : t.putAll values = .ok u) :
    start.Extends u := by
  obtain ⟨-, rfl⟩ := putAll_eq_ok_iff.1 hput
  clear hput
  induction values generalizing t with
  | nil => exact h
  | cons head values ih => exact ih (h.put head.1 head.2)

/-- Nobody who asks tells the tables apart. -/
def Same (t u : TemplateTable) : Prop :=
  (∀ name, t.find? name = u.find? name) ∧ t.names = u.names ∧ t.size = u.size

/-- The new names of a table are the bound ones that the earlier table does not have. -/
lemma perm_names (ht : start.Extends t) (hu : start.Extends u)
    (h : ∀ name, t.find? name = u.find? name) :
    (t.entries.map (·.1)).Perm (u.entries.map (·.1)) := by
  obtain ⟨fresh, hnames, hdistinct, hfresh⟩ := ht
  obtain ⟨fresh', hnames', hdistinct', hfresh'⟩ := hu
  have hsame : ∀ name, name ∈ t.entries.map (·.1) ↔ name ∈ u.entries.map (·.1) := fun name => by
    have hlookup : t.entries.lookup name = u.entries.lookup name := h name
    rw [Named.mem_map_fst_iff, Named.mem_map_fst_iff, hlookup]
  rw [hnames, hnames'] at hsame ⊢
  refine List.Perm.append_left _ ?_
  refine (List.perm_ext_iff_of_nodup hdistinct hdistinct').2 fun name => ?_
  have hname := hsame name
  rw [List.mem_append, List.mem_append] at hname
  constructor
  · intro hnew
    exact (hname.1 (.inr hnew)).resolve_left (hfresh name hnew)
  · intro hnew
    exact (hname.2 (.inr hnew)).resolve_left (hfresh' name hnew)

lemma names_eq_of_perm (h : (t.entries.map (·.1)).Perm (u.entries.map (·.1))) :
    t.names = u.names := by
  have hsorted : ∀ names : List String,
      (names.mergeSort fun a b => a ≤ b).Pairwise (· ≤ ·) := fun names => by
    have hpairs : (names.mergeSort fun a b => a ≤ b).Pairwise fun a b => decide (a ≤ b) = true := by
      refine List.pairwise_mergeSort (fun a b c hab hbc => ?_) (fun a b => ?_) names
      · exact decide_eq_true (String.le_trans (of_decide_eq_true hab) (of_decide_eq_true hbc))
      · simpa using String.le_total a b
    exact hpairs.imp of_decide_eq_true
  refine List.Perm.eq_of_pairwise (fun a b _ _ => String.le_antisymm) (hsorted _) (hsorted _) ?_
  exact (List.mergeSort_perm ..).trans (h.trans (List.mergeSort_perm ..).symm)

/-- Tables that extend one table and bind alike are the same. -/
lemma same_of_find? (ht : start.Extends t) (hu : start.Extends u)
    (h : ∀ name, t.find? name = u.find? name) : t.Same u := by
  have hperm := perm_names ht hu h
  have hsize := hperm.length_eq
  rw [List.length_map, List.length_map] at hsize
  exact ⟨h, names_eq_of_perm hperm, hsize⟩

end Keyring.Jwt.TemplateTable
