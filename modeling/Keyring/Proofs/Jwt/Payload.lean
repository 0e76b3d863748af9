/-
# What a payload says

The payload of a token is the canonical text of its claims, so it says which claims they are and
nothing else: not in which order they were put, nor whether a list was a tuple.

* `RawJwt.payload_eq_ok`: claims that JSON holds as what they are have a payload, if no whole number
  in them is too long; else they are refused, by `RawJwt.payload_of_not_spelled`.
* `RawJwt.payload_eq_iff_same`: the payloads are printable ASCII, and they are equal, as are the
  texts to be signed, exactly if JSON does not tell the claims apart.
* `not_forall_payload_longClaims`: the length of numbers does matter.
-/
import Keyring.Proofs.Json.Canonical
import Keyring.Proofs.Json.Characters
import Keyring.Proofs.Jwt.Token

namespace Keyring.Jwt

open Json (Plain Same Spelled canonical tree write)

variable {ms ns : Members}

/-! ## Payloads -/

/-- The text has printable characters of ASCII only. -/
def IsPrintable (s : String) : Prop :=
  ∀ c ∈ s.toList, 0x20 ≤ c.toNat ∧ c.toNat ≤ 0x7E

/-- The payload of claims. -/
def payloadText (ms : Members) : String :=
  String.ofList (write true (tree canonical (.dict ms)))

lemma RawJwt.payload_eq_ok (hms : Plain canonical (.dict ms)) (hspelled : Spelled (.dict ms))
    (typeHeader : Option String) :
    RawJwt.payload ⟨.dict ms, typeHeader⟩ = .ok (payloadText ms) := by
  have htext : Json.canonicalText? (.dict ms) = some (payloadText ms) :=
    Json.canonicalText?_eq_some hms hspelled
  rw [RawJwt.payload, Value.members?, Option.bind_some, htext]
  rfl

/-- Claims with a number that is too long are refused. -/
lemma RawJwt.payload_of_not_spelled (h : ¬ Spelled (.dict ms)) (typeHeader : Option String) :
    RawJwt.payload ⟨.dict ms, typeHeader⟩ = refuse .claimsNotWritable := by
  have htext : Json.canonicalText? (.dict ms) = none := by
    rw [Option.eq_none_iff_forall_ne_some]
    intro text htext
    have hwritable := (Json.canonicalText?_isSome_iff _).1 (Option.isSome_of_eq_some htext)
    exact h (Json.spelled_of_encode ((Json.encode_canonical_iff _).2 hwritable))
  rw [RawJwt.payload, Value.members?, Option.bind_some, htext]
  rfl

lemma isPrintable_payloadText (ms : Members) : IsPrintable (payloadText ms) := by
  intro c hc
  rw [payloadText, String.toList_ofList] at hc
  have hshown := Json.shown_write true (Json.readable_tree canonical (.dict ms)) c hc
  exact ⟨hshown.1, hshown.2 rfl⟩

lemma payloadText_eq_iff_same (hms : Plain canonical (.dict ms))
    (hns : Plain canonical (.dict ns)) (hspelledm : Spelled (.dict ms))
    (hspelledn : Spelled (.dict ns)) :
    payloadText ms = payloadText ns ↔ Same (.dict ms) (.dict ns) := by
  rw [← Json.canonicalText?_eq_iff_same hms hns hspelledm hspelledn,
    Json.canonicalText?_eq_some hms hspelledm, Json.canonicalText?_eq_some hns hspelledn,
    Option.some_inj]
  rfl

/-- Under the same header, the texts to be signed are equal exactly if the payloads are. -/
lemma unsignedCompact_eq_iff {p q : String} {v w : Value} {typeHeader : Option String}
    (hp : RawJwt.payload ⟨v, typeHeader⟩ = .ok p) (hq : RawJwt.payload ⟨w, typeHeader⟩ = .ok q)
    (algorithm : String) (kid : Option String) :
    unsignedCompact algorithm kid ⟨v, typeHeader⟩ = unsignedCompact algorithm kid ⟨w, typeHeader⟩
      ↔ p = q := by
  rw [unsignedCompact_eq, unsignedCompact_eq, hp, hq]
  constructor
  · intro h
    exact Text.Base64Url.ofText_injective (String.append_right_inj _ |>.1 (Except.ok.inj h))
  · intro h
    rw [h]

/-! ## Two members in either order -/

variable {k l : String} {v v' w w' : Value}

lemma plain_pair (hne : k ≠ l) (hv : Plain canonical v) (hw : Plain canonical w) :
    Plain canonical (.dict [(.text k, v), (.text l, w)]) :=
  .dict (by simp [Json.TextKeys]) (by simp [hne]) (by simp [hv, hw])

lemma spelled_pair (hv : Spelled v) (hw : Spelled w) :
    Spelled (.dict [(.text k, v), (.text l, w)]) :=
  .dict (by simp [Json.isShortKey_text]) (by simp [hv, hw])

lemma same_swapped (hne : k ≠ l) (hv : Same v v') (hw : Same w w') :
    Same (.dict [(.text k, v), (.text l, w)]) (.dict [(.text l, w'), (.text k, v')]) := by
  refine .dict (by simp [or_comm]) fun key a b ha hb => ?_
  simp only [List.mem_cons, List.not_mem_nil, Prod.mk.injEq, or_false] at ha hb
  rcases ha with ⟨rfl, rfl⟩ | ⟨rfl, rfl⟩
  · rcases hb with ⟨hkey, -⟩ | ⟨-, rfl⟩
    · exact absurd (Value.text.inj hkey) hne
    · exact hv
  · rcases hb with ⟨-, rfl⟩ | ⟨hkey, -⟩
    · exact hw
    · exact absurd (Value.text.inj hkey).symm hne

/-! ## Claims and their payloads -/

/-- Claims that hold a whole number with too many digits are refused.  All others have payloads of
printable ASCII, and the payloads are equal, as are the texts to be signed, exactly if JSON does not
tell the claims apart.  So the order in which claims are put does not matter at any depth, and
claims that are different never share a payload. -/
theorem RawJwt.payload_eq_iff_same (hms : Plain canonical (.dict ms))
    (hns : Plain canonical (.dict ns)) (typeHeader typeHeader' : Option String) :
    (¬ Spelled (.dict ms) →
        RawJwt.payload ⟨.dict ms, typeHeader⟩ = refuse .claimsNotWritable)
      ∧ (Spelled (.dict ms) → Spelled (.dict ns) →
        ∃ p q, RawJwt.payload ⟨.dict ms, typeHeader⟩ = .ok p
          ∧ RawJwt.payload ⟨.dict ns, typeHeader'⟩ = .ok q
          ∧ IsPrintable p ∧ IsPrintable q
          ∧ (p = q ↔ Same (.dict ms) (.dict ns))
          ∧ ∀ (algorithm : String) (kid typeHeader : Option String),
              unsignedCompact algorithm kid ⟨.dict ms, typeHeader⟩
                  = unsignedCompact algorithm kid ⟨.dict ns, typeHeader⟩
                ↔ Same (.dict ms) (.dict ns)) := by
  refine ⟨fun h => payload_of_not_spelled h typeHeader, fun hspelledm hspelledn => ?_⟩
  have hsame := payloadText_eq_iff_same hms hns hspelledm hspelledn
  have hp := payload_eq_ok hms hspelledm
  have hq := payload_eq_ok hns hspelledn
  refine ⟨_, _, hp typeHeader, hq typeHeader', isPrintable_payloadText ms,
    isPrintable_payloadText ns, hsame, fun algorithm kid t => ?_⟩
  rw [unsignedCompact_eq_iff (hp t) (hq t), hsame]

/-- Claims with a dictionary in them, and in that a list. -/
def listedClaims : Members :=
  [(.text "exp", .int 1),
    (.text "ctx", .dict [(.text "é\n", .list [.null, .float .nan]), (.text "b", .bool true)])]

/-- The same claims in another order at both levels, with a tuple in place of the list. -/
def shuffledClaims : Members :=
  [(.text "ctx", .dict [(.text "b", .bool true), (.text "é\n", .tuple [.null, .float .nan])]),
    (.text "exp", .int 1)]

theorem RawJwt.payload_eq_of_shuffled :
    Plain canonical (.dict listedClaims) ∧ Plain canonical (.dict shuffledClaims)
      ∧ Spelled (.dict listedClaims) ∧ Spelled (.dict shuffledClaims)
      ∧ Same (.dict listedClaims) (.dict shuffledClaims)
      ∧ ∃ p, RawJwt.payload ⟨.dict listedClaims, none⟩ = .ok p
        ∧ RawJwt.payload ⟨.dict shuffledClaims, some "JWT"⟩ = .ok p ∧ IsPrintable p := by
  have hitems : ∀ x ∈ [Value.null, .float .nan], Plain canonical x := by
    simp [Plain.null, Plain.float]
  have hlisted : Plain canonical (.dict listedClaims) :=
    plain_pair (by decide) (.int 1) (plain_pair (by decide) (.list hitems) (.bool true))
  have hshuffled : Plain canonical (.dict shuffledClaims) :=
    plain_pair (by decide) (plain_pair (by decide) (.bool true) (.tuple hitems)) (.int 1)
  have hone : Spelled (.int 1) := .int (by decide)
  have hparts : ∀ x ∈ [Value.null, .float .nan], Spelled x := by
    simp [Spelled.null, Spelled.float]
  have hspelled : Spelled (.dict listedClaims) :=
    spelled_pair hone (spelled_pair (.list hparts) (.bool true))
  have hspelled' : Spelled (.dict shuffledClaims) :=
    spelled_pair (spelled_pair (.bool true) (.tuple hparts)) hone
  have hsame : Same (.dict listedClaims) (.dict shuffledClaims) :=
    same_swapped (by decide) (.int 1) (same_swapped (by decide)
      (.items rfl rfl (.cons .null (.cons (.float .nan) .nil))) (.bool true))
  obtain ⟨p, q, hp, hq, hprintable, -, heq, -⟩ :=
    (RawJwt.payload_eq_iff_same hlisted hshuffled none (some "JWT")).2 hspelled hspelled'
  obtain rfl := heq.2 hsame
  exact ⟨hlisted, hshuffled, hspelled, hspelled', hsame, p, hp, hq, hprintable⟩

/-- The least whole number that has too many digits. -/
def firstLong : Int := 10 ^ Number.maxDigits

lemma not_isShort_firstLong : ¬ Number.IsShort firstLong := by
  have hten : Int.natAbs 10 = 10 := rfl
  have habs : firstLong.natAbs = 10 ^ Number.maxDigits := by
    rw [firstLong, Int.natAbs_pow, hten]
  rw [Number.isShort_iff, habs]
  exact Nat.lt_irrefl _

/-- Not all claims have a payload: a number in them may have too many digits. -/
theorem not_forall_payload_longClaims :
    ¬∀ (ms : Members), Plain canonical (.dict ms) →
      ∃ p, RawJwt.payload ⟨.dict ms, none⟩ = .ok p := by
  intro h
  have hplain : Plain canonical (.dict [(.text "a", .int firstLong)]) :=
    .dict (List.forall_mem_singleton.2 ⟨"a", rfl⟩) (List.nodup_singleton _)
      (List.forall_mem_singleton.2 (.int _))
  have hlong : ¬ Spelled (.dict [(.text "a", .int firstLong)]) := by
    intro hspelled
    cases hspelled with | dict _ hvalues => ?_
    cases List.forall_mem_singleton.1 hvalues with
    | int hshort => exact not_isShort_firstLong hshort
  obtain ⟨p, hp⟩ := h _ hplain
  rw [RawJwt.payload_of_not_spelled hlong] at hp
  cases hp

end Keyring.Jwt
