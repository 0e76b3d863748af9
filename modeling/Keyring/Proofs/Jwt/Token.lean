/-
# What is in a token

A token falls into three parts at its dots, and each part is read back: the header as a JSON object
of texts, the third part as the signature of the first two.

* `parts` and `readHeader?` are how a receiver takes a token apart.
* `parts_signedCompact`: the dots of a token are exactly the two between its parts.
* `readHeader?_headerText`: the members of a header are those that were put into it.
* `Signer.token_eq_ok` says what a signer went through to make a token.
-/
import Keyring.Jwt.Signer
import Keyring.Proofs.Bytes.Text
import Keyring.Proofs.Error
import Keyring.Proofs.Json.RoundTrip
import Keyring.Proofs.Text.Base64Url

namespace Keyring.Jwt

/-! ## Taking tokens apart -/

/-- The parts of a token between its dots. -/
def parts (token : String) : List String :=
  (token.toList.splitOn '.').map String.ofList

/-- The JSON text in a part of a token. -/
def readHeader? (part : String) : Option Json.Tree := do
  let bytes ← Text.Base64Url.toBytes? part
  let text ← Bytes.text? bytes
  Json.read? text

/-- Every character is ASCII, so that the UTF-8 bytes of the text are its ASCII bytes. -/
def IsAscii (s : String) : Prop :=
  ∀ c ∈ s.toList, c.toNat < 128

/-! ## Parts -/

lemma ne_dot_of_mem_alphabet {c : Char} (h : c ∈ Text.Base64Url.alphabet) : c ≠ '.' := by
  have hall : (Text.Base64Url.alphabet.all fun c => c ≠ '.') = true := by decide
  simpa using List.all_eq_true.mp hall c h

lemma toNat_lt_of_mem_alphabet {c : Char} (h : c ∈ Text.Base64Url.alphabet) : c.toNat < 128 := by
  have hall : (Text.Base64Url.alphabet.all fun c => c.toNat < 128) = true := by decide
  simpa using List.all_eq_true.mp hall c h

lemma ne_dot_of_mem_ofBytes {b : Bytes} {c : Char} (h : c ∈ (Text.Base64Url.ofBytes b).toList) :
    c ≠ '.' :=
  ne_dot_of_mem_alphabet (Text.Base64Url.mem_alphabet_of_mem_ofBytes h)

lemma toList_signedCompact (header payload signature : Bytes) :
    (signedCompact (Text.Base64Url.ofBytes header ++ "." ++ Text.Base64Url.ofBytes payload)
        signature).toList
      = (Text.Base64Url.ofBytes header).toList ++ '.' :: ((Text.Base64Url.ofBytes payload).toList
        ++ '.' :: (Text.Base64Url.ofBytes signature).toList) := by
  simp [signedCompact]

/-- A token is split at its two dots only. -/
lemma parts_signedCompact (header payload signature : Bytes) :
    parts (signedCompact (Text.Base64Url.ofBytes header ++ "." ++ Text.Base64Url.ofBytes payload)
        signature)
      = [Text.Base64Url.ofBytes header, Text.Base64Url.ofBytes payload,
          Text.Base64Url.ofBytes signature] := by
  have hdot : ∀ b : Bytes, ∀ c ∈ (Text.Base64Url.ofBytes b).toList, (c == '.') = false :=
    fun b c hc => beq_false_of_ne (ne_dot_of_mem_ofBytes hc)
  -- no part has a dot in it, so the dots between the parts are the ones that split
  rw [parts, toList_signedCompact, List.splitOn_eq_splitOnP,
    List.splitOnP_append_cons_of_forall_mem (hdot header) '.' rfl,
    List.splitOnP_append_cons_of_forall_mem (hdot payload) '.' rfl,
    List.splitOnP_eq_singleton (hdot signature)]
  simp only [List.map_cons, List.map_nil, String.ofList_toList]

lemma isAscii_signedCompact (header payload signature : Bytes) :
    IsAscii (signedCompact (Text.Base64Url.ofBytes header ++ "."
      ++ Text.Base64Url.ofBytes payload) signature) := by
  have hsafe : ∀ b : Bytes, ∀ c ∈ (Text.Base64Url.ofBytes b).toList, c.toNat < 128 := by
    intro b c hc
    exact toNat_lt_of_mem_alphabet (Text.Base64Url.mem_alphabet_of_mem_ofBytes hc)
  intro c hc
  simp only [signedCompact, String.toList_append, List.mem_append] at hc
  rcases hc with (((hc | hc) | hc) | hc) | hc
  · exact hsafe header c hc
  · obtain rfl : c = '.' := by simpa using hc
    decide
  · exact hsafe payload c hc
  · obtain rfl : c = '.' := by simpa using hc
    decide
  · exact hsafe signature c hc

/-! ## Headers -/

/-- The members of a header. -/
def headerMembers (algorithm : String) (typeHeader kid : Option String) :
    List (String × String) :=
  ("alg", algorithm) :: (typeHeader.toList.map fun t => ("typ", t))
    ++ (kid.toList.map fun k => ("kid", k))

lemma toMembers_header (algorithm : String) (typeHeader kid : Option String) :
    (header algorithm typeHeader kid).toMembers
      = (headerMembers algorithm typeHeader kid).map fun member =>
          (.text member.1, .text member.2) := by
  cases typeHeader <;> cases kid <;> rfl

/-- A header is read back as an object with exactly the members that were put into it. -/
theorem readHeader?_headerText (algorithm : String) (typeHeader kid : Option String) :
    ∃ sorted : List (String × String), sorted.Perm (headerMembers algorithm typeHeader kid)
      ∧ readHeader? (Text.Base64Url.ofText (headerText (header algorithm typeHeader kid)))
        = some (.object (sorted.map fun member => (member.1, .text member.2))) := by
  obtain ⟨text, sorted, hperm, htext, hread⟩ :=
    Json.read?_texts (headerMembers algorithm typeHeader kid)
  refine ⟨sorted, hperm, ?_⟩
  rw [headerText, toMembers_header, htext, Option.getD_some, readHeader?, Text.Base64Url.ofText,
    Text.Base64Url.toBytes?_ofBytes]
  simp only [Option.bind_eq_bind, Option.bind_some, Bytes.text?_ofText, hread]

/-- A header names one algorithm. -/
lemma alg_mem_iff {algorithm : String} {typeHeader kid : Option String}
    {sorted : List (String × String)}
    (hperm : sorted.Perm (headerMembers algorithm typeHeader kid)) (value : Json.Tree) :
    ("alg", value) ∈ sorted.map (fun member => (member.1, Json.Tree.text member.2))
      ↔ value = .text algorithm := by
  rw [(hperm.map _).mem_iff, headerMembers]
  constructor
  · intro h
    rcases typeHeader with _ | t <;> rcases kid with _ | k <;> simpa using h
  · rintro rfl
    simp

/-! ## Signers -/

lemma unsignedCompact_eq (algorithm : String) (kid : Option String) (jwt : RawJwt) :
    unsignedCompact algorithm kid jwt
      = jwt.payload.map fun payload =>
          Text.Base64Url.ofText (headerText (header algorithm jwt.typeHeader kid)) ++ "."
            ++ Text.Base64Url.ofText payload := by
  rw [unsignedCompact]
  cases jwt.payload <;> rfl

/-- What a signer went through to make a token. -/
lemma Signer.token_eq_ok {signer : Signer} {jwt : RawJwt} {kid : Option String} {token : String}
    (h : signer.token jwt kid = .ok token) :
    ∃ headerKid unsigned signature, signer.headerKid kid = .ok headerKid
      ∧ unsignedCompact signer.algorithm.name headerKid jwt = .ok unsigned
      ∧ signer.sign (Bytes.ofText unsigned) = .ok signature
      ∧ token = signedCompact unsigned signature := by
  obtain ⟨headerKid, hkid, hrest⟩ := bind_eq_ok_iff.1 h
  obtain ⟨unsigned, hunsigned, hrest⟩ := bind_eq_ok_iff.1 hrest
  obtain ⟨signature, hsign, htoken⟩ := bind_eq_ok_iff.1 hrest
  exact ⟨headerKid, unsigned, signature, hkid, hunsigned, hsign, (Except.ok.inj htoken).symm⟩

end Keyring.Jwt
