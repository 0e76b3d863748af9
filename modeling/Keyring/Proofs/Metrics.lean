/-
# What the report of the counters shows

* `Event.eq_of_counter_of_label`: different events are counted under different counters or labels.
* `Metrics.shown` is the number that the report shows for a counter and a label, and
  `Metrics.shown_record` says that counting an event adds one under its own and nothing elsewhere.
-/
import Keyring.Metrics
import Mathlib.Algebra.GroupWithZero.Nat

namespace Keyring

lemma Event.eq_of_counter_of_label {e f : Event} (hcounter : e.counter = f.counter)
    (hlabel : e.label = f.label) : e = f := by
  -- of different kinds the counters differ already
  cases e <;> cases f <;> simp only [counter, String.reduceEq] at hcounter
  case registration.registration a b =>
    cases a <;> cases b <;> simp only [label, String.reduceEq] at hlabel <;> rfl
  case lookup.lookup a b =>
    cases a <;> cases b <;> simp only [label, String.reduceEq] at hlabel <;> rfl
  case selfTest.selfTest a b =>
    cases a <;> cases b <;> simp [label] at hlabel ⊢
  case primitiveCreated.primitiveCreated a b =>
    rw [(String.append_right_inj _).1 hlabel]
  case keyGenerated.keyGenerated a b =>
    have hspelling : a.repr = b.repr := by simpa [label] using hlabel
    have hdigits : Nat.toDigits 10 a = Nat.toDigits 10 b := by
      rw [← Nat.toList_repr, hspelling, Nat.toList_repr]
    have hback : ∀ n, Nat.ofDigitChars 10 (Nat.toDigits 10 n) 0 = n := fun _ =>
      Nat.ofDigitChars_toDigits (by decide) (Nat.le_refl 10)
    rw [← hback a, hdigits, hback]

namespace Metrics

variable {m m' : Metrics}

/-- What the report shows for a counter and a label; what it does not list counts as zero. -/
def shown (m : Metrics) (counter label : String) : Nat :=
  ((m.report.filter fun row => row.1 = counter ∧ row.2.1 = label).map (·.2.2)).sum

/-- The report shows the count of the event that the counter and the label are of. -/
lemma shown_eq (m : Metrics) (f : Event) :
    m.shown f.counter f.label = ((m.counts.filter (·.1 = f)).map (·.2)).sum := by
  have hsame : ∀ e : Event, (e.counter = f.counter ∧ e.label = f.label) ↔ e = f := fun e =>
    ⟨fun h => Event.eq_of_counter_of_label h.1 h.2, fun h => h ▸ ⟨rfl, rfl⟩⟩
  have hperm : m.report.Perm (m.counts.map fun row => (row.1.counter, row.1.label, row.2)) :=
    List.mergeSort_perm ..
  rw [shown, ((hperm.filter _).map (·.2.2)).sum_nat, List.filter_map, List.map_map]
  simp only [Function.comp_def, hsame]

/-- What is shown depends on the counts alone. -/
lemma shown_congr (h : m'.counts = m.counts) (counter label : String) :
    m'.shown counter label = m.shown counter label := by
  rw [shown, report, h]
  rfl

/-- Counting adds one for its event. -/
lemma sum_bump (e f : Event) (counts : List (Event × Nat)) :
    (((bump e counts).filter (·.1 = f)).map (·.2)).sum
      = ((counts.filter (·.1 = f)).map (·.2)).sum + if e = f then 1 else 0 := by
  induction counts with
  | nil => by_cases h : e = f <;> simp [bump, h]
  | cons head counts ih =>
    obtain ⟨g, n⟩ := head
    rw [bump]
    by_cases hg : g = e
    · subst hg
      by_cases h : g = f
      · simp [h]
        omega
      · simp [h]
    · rw [if_neg hg]
      by_cases h : g = f
      · simp [h, ih]
        omega
      · simp [h, ih]

/-- One more is shown for an event that is counted, and for no other. -/
lemma shown_record (m : Metrics) (e f : Event) :
    (m.record e).shown f.counter f.label
      = m.shown f.counter f.label + if m.enabled ∧ e = f then 1 else 0 := by
  rw [record]
  cases m.enabled with
  | true =>
    simp only [if_true, true_and, shown_eq, sum_bump]
  | false => simp

lemma enabled_record (m : Metrics) (e : Event) : (m.record e).enabled = m.enabled := by
  rw [record]
  split <;> rfl

/-- Counting switches nothing on or off. -/
lemma enabled_foldl_record (m : Metrics) (es : List Event) :
    (es.foldl record m).enabled = m.enabled := by
  induction es generalizing m with
  | nil => rfl
  | cons e es ih => exact (ih _).trans (m.enabled_record e)

/-- Of events that are counted one after the other, each occurrence adds one. -/
lemma shown_foldl_record (m : Metrics) (es : List Event) (f : Event) :
    (es.foldl record m).shown f.counter f.label
      = m.shown f.counter f.label + if m.enabled then es.count f else 0 := by
  induction es generalizing m with
  | nil => simp
  | cons e es ih =>
    rw [List.foldl_cons, ih, shown_record, enabled_record, List.count_cons, Nat.add_assoc]
    cases m.enabled <;> simp [Nat.add_comm]

end Metrics

end Keyring
