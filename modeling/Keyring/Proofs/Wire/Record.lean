/-
# Fields into records

A record takes in the fields of a message one after the other.

* `takeIn?_induction` and `takeIn?_append` follow a record through messages.
* `takeIn?_writeNumber`, `takeIn?_writeMessage` and `takeIn?_writeBytes` take in what was written.
* `Kept` holds of the bytes that a record keeps for the fields that its schema does not know, and
  `Kept.takeIn?` takes them in again.
-/
import Keyring.Proofs.Wire.Writing

namespace Keyring.Wire

variable {σ : Type} {add : σ → Field → Option σ} {room : Nat} {s t : σ} {a b bs : Bytes}

/-- Takes the fields of a message into a record. -/
def takeIn? (add : σ → Field → Option σ) (room : Nat) (s : σ) (bs : Bytes) : Option σ :=
  (readFields room bs).bind fun fs => fs.foldlM add s

@[simp] lemma takeIn?_nil : takeIn? add room s [] = some s := by
  rw [takeIn?, readFields_nil]
  rfl

lemma takeIn?_of_spells {f : Field} {front : Bytes} (h : Spells (readField room) f front) :
    takeIn? add room s (front ++ bs) = (add s f).bind fun t => takeIn? add room t bs := by
  rw [takeIn?, readFields_of_spells h]
  cases hfs : readFields room bs with
  | none =>
    cases add s f with
    | none => rfl
    | some t =>
      rw [Option.bind_some, takeIn?, hfs]
      rfl
  | some fs =>
    rw [Option.map_some, Option.bind_some, List.foldlM_cons]
    cases add s f with
    | none => rfl
    | some t =>
      rw [Option.bind_some, takeIn?, hfs]
      rfl

/-- Induction on the fields that a record takes in, from the last one back. -/
lemma takeIn?_rec {motive : σ → Bytes → Prop} (nil : motive t [])
    (field : ∀ s u f rest, f.Genuine room → add s f = some u → motive u rest →
      motive s (f.raw ++ rest))
    (h : takeIn? add room s bs = some t) : motive s bs := by
  obtain ⟨fs, hfs, hfold⟩ := Option.bind_eq_some_iff.1 h
  -- the fields that were read are the ones that are taken in, in the same order
  induction fs generalizing bs s with
  | nil =>
    rcases readFields_eq_some hfs with ⟨rfl, -⟩ | ⟨f, rest, fs', -, hcons, -⟩
    · obtain rfl : s = t := Option.some.inj hfold
      exact nil
    · cases hcons
  | cons f fs ih =>
    rcases readFields_eq_some hfs with ⟨-, hnil⟩ | ⟨f', rest, fs', rfl, hcons, hf, hrest⟩
    · cases hnil
    · obtain ⟨rfl, rfl⟩ := List.cons.inj hcons
      rw [List.foldlM_cons] at hfold
      obtain ⟨u, hu, hfold⟩ := Option.bind_eq_some_iff.1 hfold
      have htaken : takeIn? add room u rest = some t := by
        rw [takeIn?, hrest, Option.bind_some, hfold]
      exact field s u f rest hf hu (ih htaken hrest hfold)

/-- What every field preserves, counting the bytes that were taken in, a whole message preserves. -/
lemma takeIn?_induction {P : Nat → σ → Prop}
    (step : ∀ size s f t, f.Genuine room → add s f = some t → P size s → P (size + f.raw.length) t)
    {size : Nat} (hs : P size s) (h : takeIn? add room s bs = some t) : P (size + bs.length) t := by
  refine takeIn?_rec (motive := fun s bs => ∀ size, P size s → P (size + bs.length) t)
    (fun size hP => hP) ?_ h size hs
  intro s u f rest hf hu ih size hP
  have hlast := ih _ (step size s f u hf hu hP)
  rwa [List.length_append, ← Nat.add_assoc]

/-- Messages one after the other are one message. -/
lemma takeIn?_append (h : takeIn? add room s a = some t) :
    takeIn? add room s (a ++ b) = takeIn? add room t b := by
  refine takeIn?_rec (motive := fun s a => takeIn? add room s (a ++ b) = takeIn? add room t b)
    rfl ?_ h
  intro s u f rest hf hu ih
  rw [List.append_assoc, takeIn?_of_spells (hf room le_rfl), hu, Option.bind_some, ih]

/-! ## What was written -/

section Written

variable {number : Nat} (hpos : 0 < number) (hlt : number < 2 ^ 29)
include hpos hlt

/-- Taking in a number, where zero is left out and is what the record holds already. -/
lemma takeIn?_writeNumber {v : Nat} (hv : v < 2 ^ 64)
    (hadd : ∀ raw, add s ⟨number, .number v, raw⟩ = some t) (hzero : v = 0 → s = t) :
    takeIn? add room s (writeNumber number v) = some t := by
  rw [writeNumber]
  split
  · rename_i h0
    rw [takeIn?_nil, hzero h0]
  · have hspells := spells_writeNumber hpos hlt hv room
    rw [← List.append_nil (writeTag number 0 ++ writeVarint v), takeIn?_of_spells hspells, hadd,
      Option.bind_some, takeIn?_nil]

lemma takeIn?_writeMessage (hb : b.length < 2 ^ 64)
    (hadd : ∀ raw, add s ⟨number, .bytes b, raw⟩ = some t) :
    takeIn? add room s (writeMessage number b) = some t := by
  have hspells := spells_writeMessage hpos hlt hb room
  rw [← List.append_nil (writeMessage number b), takeIn?_of_spells hspells, hadd, Option.bind_some,
    takeIn?_nil]

/-- Taking in bytes, where no bytes are left out and are what the record holds already. -/
lemma takeIn?_writeBytes (hb : b.length < 2 ^ 64)
    (hadd : ∀ raw, add s ⟨number, .bytes b, raw⟩ = some t) (hempty : b = [] → s = t) :
    takeIn? add room s (writeBytes number b) = some t := by
  rw [writeBytes]
  split
  · rename_i h0
    rw [takeIn?_nil, hempty (List.isEmpty_iff.1 h0)]
  · exact takeIn?_writeMessage hpos hlt hb hadd

end Written

/-! ## What the schema does not know -/

/-- The bytes are fields that the schema does not know. -/
inductive Kept (knows : Field → Bool) (room : Nat) : Bytes → Prop
  | nil : Kept knows room []
  | field {f : Field} {rest : Bytes} (genuine : f.Genuine room) (unknown : knows f = false)
      (kept : Kept knows room rest) : Kept knows room (f.raw ++ rest)

namespace Kept

variable {knows : Field → Bool}

lemma append_raw {f : Field} (h : Kept knows room bs) (hf : f.Genuine room)
    (hunknown : knows f = false) : Kept knows room (bs ++ f.raw) := by
  induction h with
  | nil =>
    have := Kept.field hf hunknown .nil
    rwa [List.append_nil] at this
  | field genuine unknown _ ih =>
    rw [List.append_assoc]
    exact .field genuine unknown ih

lemma mono {room' : Nat} (h : Kept knows room bs) (hroom : room ≤ room') :
    Kept knows room' bs := by
  induction h with
  | nil => exact .nil
  | field genuine unknown _ ih =>
    exact .field (fun deeper hdeeper => genuine deeper (hroom.trans hdeeper)) unknown ih

/-- A record that keeps unknown fields keeps all the bytes, when it takes them in again. -/
lemma takeIn? (h : Kept knows room bs) (keep : σ → Bytes → σ) (hnil : ∀ s, keep s [] = s)
    (happend : ∀ s a b, keep (keep s a) b = keep s (a ++ b))
    (hadd : ∀ s f, knows f = false → add s f = some (keep s f.raw)) (s : σ) :
    takeIn? add room s bs = some (keep s bs) := by
  induction h generalizing s with
  | nil => rw [takeIn?_nil, hnil]
  | field genuine unknown _ ih =>
    rw [takeIn?_of_spells (genuine room le_rfl), hadd s _ unknown, Option.bind_some, ih, happend]

end Kept

end Keyring.Wire
