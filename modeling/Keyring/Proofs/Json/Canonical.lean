/-
# Canonical texts

Two values have the same canonical text exactly if JSON does not tell them apart: the members of a
dictionary have no order in JSON, and a tuple is a list.

* `Same` says so without the encoder.
* `ordered_eq_iff_perm`: members in order by name show what members there are and nothing else.
* `tree_eq_iff_same` goes through the values.
* `canonicalText?_eq_iff_same` is the result for the texts.
-/
import Keyring.Proofs.Json.RoundTrip
import Mathlib.Data.List.Nodup

namespace Keyring

/-- The items of a list or of a tuple. -/
def Value.items? : Value → Option (List Value)
  | .list items => some items
  | .tuple items => some items
  | _ => none

namespace Json

/-- JSON does not tell the values apart.  A whole number and a double-precision one are apart, as
are a number and a truth value; double-precision numbers are the same if their texts are, for
`Number.Double.text_injective`. -/
inductive Same : Value → Value → Prop
  | null : Same .null .null
  | bool (b : Bool) : Same (.bool b) (.bool b)
  | int (i : Int) : Same (.int i) (.int i)
  | float (x : Number.Double) : Same (.float x) (.float x)
  | text (s : String) : Same (.text s) (.text s)
  | items {v w : Value} {xs ys : List Value} (hv : v.items? = some xs) (hw : w.items? = some ys)
      (h : List.Forall₂ Same xs ys) : Same v w
  | dict {ms ns : Members} (hkeys : ∀ k, k ∈ ms.map Prod.fst ↔ k ∈ ns.map Prod.fst)
      (h : ∀ k v w, (k, v) ∈ ms → (k, w) ∈ ns → Same v w) : Same (.dict ms) (.dict ns)

/-! ## Members in order -/

lemma pairwise_ordered (ms : List (String × Tree)) :
    (ordered canonical ms).Pairwise fun a b => a.1 ≤ b.1 := by
  have hsorted : (ordered canonical ms).Pairwise fun a b => decide (a.1 ≤ b.1) = true := by
    refine List.pairwise_mergeSort (fun a b c hab hbc => ?_) (fun a b => ?_) ms
    · exact decide_eq_true (String.le_trans (of_decide_eq_true hab) (of_decide_eq_true hbc))
    · simpa using String.le_total a.1 b.1
  exact hsorted.imp of_decide_eq_true

/-- Members in order by name show what members there are, and nothing else. -/
lemma ordered_eq_iff_perm {ms ns : List (String × Tree)} (hnames : (ms.map Prod.fst).Nodup) :
    ordered canonical ms = ordered canonical ns ↔ ms.Perm ns := by
  have hms := ordered_perm canonical ms
  have hns := ordered_perm canonical ns
  constructor
  · intro h
    rw [h] at hms
    exact hms.symm.trans hns
  · intro h
    refine List.Perm.eq_of_pairwise (fun a b ha hb hab hba => ?_) (pairwise_ordered ms)
      (pairwise_ordered ns) (hms.trans (h.trans hns.symm))
    have hname : a.1 = b.1 := String.le_antisymm hab hba
    exact List.inj_on_of_nodup_map hnames (hms.mem_iff.1 ha)
      (h.mem_iff.2 (hns.mem_iff.1 hb)) hname

variable {ms ns : Members}

/-- A member as a tree comes from a member under the same name. -/
lemma mem_memberTrees_iff (hkeys : TextKeys ms) {name : String} {t : Tree} :
    (name, t) ∈ memberTrees canonical ms
      ↔ ∃ v, (.text name, v) ∈ ms ∧ tree canonical v = t := by
  rw [memberTrees_eq_map, List.mem_map]
  constructor
  · rintro ⟨⟨k, v⟩, hm, h⟩
    obtain ⟨s, rfl⟩ := hkeys k (List.mem_map_of_mem hm)
    obtain ⟨rfl, rfl⟩ := Prod.mk.inj h
    exact ⟨v, hm, rfl⟩
  · rintro ⟨v, hm, rfl⟩
    exact ⟨_, hm, rfl⟩

/-- Different keys have different names. -/
lemma nodup_names (hkeys : TextKeys ms) (hdistinct : (ms.map Prod.fst).Nodup) :
    ((memberTrees canonical ms).map Prod.fst).Nodup := by
  have hnames : (memberTrees canonical ms).map Prod.fst
      = (ms.map Prod.fst).map keyName := by
    rw [memberTrees_eq_map, List.map_map, List.map_map]
    rfl
  rw [hnames]
  refine hdistinct.map_on fun k hk l hl h => ?_
  obtain ⟨s, rfl⟩ := hkeys k hk
  obtain ⟨t, rfl⟩ := hkeys l hl
  exact congrArg Value.text h

/-- Under one key there is one value. -/
lemma value_unique (hdistinct : (ms.map Prod.fst).Nodup) {k v w : Value} (hv : (k, v) ∈ ms)
    (hw : (k, w) ∈ ms) : v = w :=
  (Prod.mk.inj (List.inj_on_of_nodup_map hdistinct hv hw rfl)).2

lemma exists_value {k : Value} (h : k ∈ ms.map Prod.fst) : ∃ v, (k, v) ∈ ms := by
  obtain ⟨⟨k, v⟩, hm, rfl⟩ := List.mem_map.1 h
  exact ⟨v, hm⟩

/-- A key is there if its name is. -/
lemma keys_subset (hms : TextKeys ms) (hns : TextKeys ns)
    (h : ∀ a ∈ memberTrees canonical ms, a ∈ memberTrees canonical ns) {k : Value}
    (hk : k ∈ ms.map Prod.fst) : k ∈ ns.map Prod.fst := by
  obtain ⟨s, rfl⟩ := hms k hk
  obtain ⟨v, hv⟩ := exists_value hk
  obtain ⟨w, hw, -⟩ := (mem_memberTrees_iff hns).1 (h _ ((mem_memberTrees_iff hms).2 ⟨v, hv, rfl⟩))
  exact List.mem_map_of_mem hw

/-- Dictionaries stand for one tree exactly if they have the same keys, and under each of them
values that stand for one tree. -/
lemma tree_dict_eq_iff (hms : Plain canonical (.dict ms)) (hns : Plain canonical (.dict ns)) :
    tree canonical (.dict ms) = tree canonical (.dict ns)
      ↔ (∀ k, k ∈ ms.map Prod.fst ↔ k ∈ ns.map Prod.fst)
        ∧ ∀ k v w, (k, v) ∈ ms → (k, w) ∈ ns → tree canonical v = tree canonical w := by
  cases hms with | dict hkeys hdistinct _ => ?_
  cases hns with | dict hkeys' hdistinct' _ => ?_
  have hnames := nodup_names hkeys hdistinct
  have hnames' := nodup_names hkeys' hdistinct'
  rw [tree, tree, Tree.object.injEq, ordered_eq_iff_perm hnames,
    List.perm_ext_iff_of_nodup (.of_map _ hnames) (.of_map _ hnames')]
  constructor
  · intro h
    refine ⟨fun k => ⟨fun hk => ?_, fun hk => ?_⟩, fun k v w hv hw => ?_⟩
    · exact keys_subset hkeys hkeys' (fun a => (h a).1) hk
    · exact keys_subset hkeys' hkeys (fun a => (h a).2) hk
    · obtain ⟨s, rfl⟩ := hkeys k (List.mem_map_of_mem hv)
      obtain ⟨w', hw', htree⟩ := (mem_memberTrees_iff hkeys').1
        ((h _).1 ((mem_memberTrees_iff hkeys).2 ⟨v, hv, rfl⟩))
      rw [← htree, value_unique hdistinct' hw' hw]
  · rintro ⟨hk, hvalues⟩ ⟨s, t⟩
    rw [mem_memberTrees_iff hkeys, mem_memberTrees_iff hkeys']
    constructor
    · rintro ⟨v, hv, rfl⟩
      obtain ⟨w, hw⟩ := exists_value ((hk _).1 (List.mem_map_of_mem hv))
      exact ⟨w, hw, (hvalues _ v w hv hw).symm⟩
    · rintro ⟨w, hw, rfl⟩
      obtain ⟨v, hv⟩ := exists_value ((hk _).2 (List.mem_map_of_mem hw))
      exact ⟨v, hv, hvalues _ v w hv hw⟩

/-! ## Values -/

section Items

variable {v w : Value} {xs ys : List Value}

lemma tree_eq_of_items (h : v.items? = some xs) :
    tree canonical v = .array (trees canonical xs) := by
  cases v with
  | list items | tuple items =>
    obtain rfl := Option.some.inj h
    rw [tree]
  | _ => cases h

/-- Only lists and tuples stand for arrays. -/
lemma items_of_tree_eq_array {ts : List Tree} (h : tree canonical w = .array ts) :
    ∃ ys, w.items? = some ys ∧ ts = trees canonical ys := by
  cases w with
  | list items | tuple items =>
    rw [tree] at h
    exact ⟨items, rfl, (Tree.array.inj h).symm⟩
  | _ =>
    rw [tree] at h
    cases h

lemma Plain.of_items (hw : Plain canonical w) (h : w.items? = some ys) :
    ∀ y ∈ ys, Plain canonical y := by
  cases hw with
  | list hitems | tuple hitems =>
    obtain rfl := Option.some.inj h
    exact hitems
  | _ => cases h

/-- Items stand for the same trees exactly if JSON tells them apart nowhere. -/
lemma trees_eq_iff_forall₂ (hys : ∀ y ∈ ys, Plain canonical y)
    (ih : ∀ x ∈ xs, ∀ w, Plain canonical w → (tree canonical x = tree canonical w ↔ Same x w)) :
    trees canonical xs = trees canonical ys ↔ List.Forall₂ Same xs ys := by
  induction xs generalizing ys with
  | nil =>
    cases ys with
    | nil => exact iff_of_true rfl .nil
    | cons y ys => exact iff_of_false nofun nofun
  | cons x xs ihxs =>
    cases ys with
    | nil => exact iff_of_false nofun nofun
    | cons y ys =>
      rw [List.forall_mem_cons] at hys ih
      rw [trees, trees, List.cons.injEq, List.forall₂_cons, ih.1 y hys.1, ihxs hys.2 ih.2]

/-- The step for lists and tuples. -/
lemma tree_eq_iff_of_items (hw : Plain canonical w) (hv : v.items? = some xs)
    (ih : ∀ x ∈ xs, ∀ w, Plain canonical w → (tree canonical x = tree canonical w ↔ Same x w)) :
    tree canonical v = tree canonical w ↔ Same v w := by
  constructor
  · intro h
    rw [tree_eq_of_items hv] at h
    obtain ⟨ys, hys, htrees⟩ := items_of_tree_eq_array h.symm
    exact .items hv hys ((trees_eq_iff_forall₂ (hw.of_items hys) ih).1 htrees)
  · intro h
    cases h with
    | @items _ _ xs' ys hv' hys hall =>
      obtain rfl := Option.some.inj (hv.symm.trans hv')
      rw [tree_eq_of_items hv, tree_eq_of_items hys,
        (trees_eq_iff_forall₂ (hw.of_items hys) ih).2 hall]
    | _ => cases hv

end Items

/-- What has no parts is told apart from everything else. -/
lemma Same.eq_of_leaf {v w : Value} (h : Same v w) (hitems : v.items? = none)
    (hdict : ∀ ms, v ≠ .dict ms) : v = w := by
  cases h with
  | items hv =>
    rw [hitems] at hv
    cases hv
  | dict => exact absurd rfl (hdict _)
  | _ => rfl

lemma Same.exists_dict {w : Value} (h : Same (.dict ms) w) : ∃ ns, w = .dict ns := by
  cases h with
  | items hitems => cases hitems
  | dict => exact ⟨_, rfl⟩

lemma not_plain_bytes {b : Bytes} : ¬ Plain canonical (.bytes b) := by
  rintro (_ | _ | _ | _ | _ | h)
  cases h

lemma not_plain_object {o : Object} : ¬ Plain canonical (.object o) := by
  intro h
  cases h with
  | object h => cases h

/-- The step for dictionaries. -/
lemma tree_dict_eq_iff_same (hms : Plain canonical (.dict ms)) (hns : Plain canonical (.dict ns))
    (ih : ∀ m ∈ ms, ∀ w, Plain canonical w →
      (tree canonical m.2 = tree canonical w ↔ Same m.2 w)) :
    tree canonical (.dict ms) = tree canonical (.dict ns) ↔ Same (.dict ms) (.dict ns) := by
  have hvalues : ∀ n ∈ ns, Plain canonical n.2 := by
    cases hns with
    | dict _ _ h => exact h
  rw [tree_dict_eq_iff hms hns]
  constructor
  · rintro ⟨hkeys, h⟩
    exact .dict hkeys fun k v w hv hw => (ih _ hv w (hvalues _ hw)).1 (h k v w hv hw)
  · intro h
    cases h with
    | items hitems => cases hitems
    | dict hkeys h =>
      exact ⟨hkeys, fun k v w hv hw => (ih _ hv w (hvalues _ hw)).2 (h k v w hv hw)⟩

/-- Values stand for one tree exactly if JSON does not tell them apart. -/
theorem tree_eq_iff_same {v w : Value} (hv : Plain canonical v) (hw : Plain canonical w) :
    tree canonical v = tree canonical w ↔ Same v w := by
  induction v using Value.induction generalizing w with
  | null =>
    refine ⟨fun h => ?_, fun h => congrArg _ (h.eq_of_leaf rfl (by simp))⟩
    cases w <;> simp only [tree, reduceCtorEq] at h
    exact .null
  | bool b =>
    refine ⟨fun h => ?_, fun h => congrArg _ (h.eq_of_leaf rfl (by simp))⟩
    cases w <;> simp only [tree, reduceCtorEq] at h
    obtain rfl := Tree.bool.inj h
    exact .bool b
  | int i =>
    refine ⟨fun h => ?_, fun h => congrArg _ (h.eq_of_leaf rfl (by simp))⟩
    cases w <;> simp only [tree, reduceCtorEq] at h
    · obtain rfl := int_injective (String.ofList_injective (Tree.number.inj h))
      exact .int i
    · exact absurd (String.ofList_injective (Tree.number.inj h)) (int_ne_float i _)
  | float x =>
    refine ⟨fun h => ?_, fun h => congrArg _ (h.eq_of_leaf rfl (by simp))⟩
    cases w <;> simp only [tree, reduceCtorEq] at h
    · exact absurd (String.ofList_injective (Tree.number.inj h)).symm (int_ne_float _ x)
    · obtain rfl := float_injective (String.ofList_injective (Tree.number.inj h))
      exact .float x
  | text s =>
    refine ⟨fun h => ?_, fun h => congrArg _ (h.eq_of_leaf rfl (by simp))⟩
    cases w <;> simp only [tree, reduceCtorEq] at h
    · obtain rfl := Tree.text.inj h
      exact .text s
    · exact absurd hw not_plain_bytes
    · exact absurd hw not_plain_object
  | bytes b => exact absurd hv not_plain_bytes
  | list items ih =>
    cases hv with
    | list h => exact tree_eq_iff_of_items hw rfl fun x hx w hw => ih x hx (h x hx) hw
  | tuple items ih =>
    cases hv with
    | tuple h => exact tree_eq_iff_of_items hw rfl fun x hx w hw => ih x hx (h x hx) hw
  | dict ms ih =>
    have hvalues : ∀ m ∈ ms, Plain canonical m.2 := by
      cases hv with
      | dict _ _ h => exact h
    cases w with
    | dict ns => exact tree_dict_eq_iff_same hv hw fun m hm w hw => ih m hm (hvalues m hm) hw
    | _ =>
      refine iff_of_false (by simp [tree]) fun h => ?_
      obtain ⟨ns, hns⟩ := h.exists_dict
      cases hns
  | object o => exact absurd hv not_plain_object

lemma Same.refl {v : Value} (hv : Plain canonical v) : Same v v :=
  (tree_eq_iff_same hv hv).1 rfl

lemma canonicalText?_eq_some {v : Value} (hv : Plain canonical v) (hspelled : Spelled v) :
    canonicalText? v = some (String.ofList (write true (tree canonical v))) := by
  rw [canonicalText?, encode_eq_write hv hspelled]
  rfl

/-- Values have one canonical text exactly if JSON does not tell them apart. -/
theorem canonicalText?_eq_iff_same {v w : Value} (hv : Plain canonical v)
    (hw : Plain canonical w) (hspelledv : Spelled v) (hspelledw : Spelled w) :
    canonicalText? v = canonicalText? w ↔ Same v w := by
  rw [canonicalText?_eq_some hv hspelledv, canonicalText?_eq_some hw hspelledw,
    ← tree_eq_iff_same hv hw, Option.some_inj]
  constructor
  · intro h
    have hread := congrArg read? h
    rw [read?_write _ (readable_tree _ v), read?_write _ (readable_tree _ w)] at hread
    exact Option.some.inj hread
  · intro h
    rw [h]

end Json

end Keyring
