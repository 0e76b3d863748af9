/-
# What an exported public half depends on

The public half that is exported from a serialized key, and the error if there is none, depend on
the fields 1 and 2 of the key alone.  The private parts, and whatever the schema does not know, may
be put in, left out or changed wherever a field ends.

* `Jwt.PrivateKey.publicPart` is what is left of a record without the other fields.
* `Jwt.PrivateKey.foldlM_publicPart`: taking in fields changes the public part as the fields 1 and 2
  among them do.
* `Manager.publicKeyData_insert` says so of the call, for bytes that are a key and for others.
-/
import Keyring.Proofs.Jwt.PublicHalf

namespace Keyring

namespace Jwt.PrivateKey

open Wire (Field)

variable {key key' : PrivateKey} {room : Nat} {f : Field} {b b' : Bytes}

/-- The record without its private parts and without what its schema does not know. -/
def publicPart (key : PrivateKey) : PrivateKey :=
  { version := key.version, publicKey := key.publicKey }

lemma pub_publicPart (key : PrivateKey) : key.publicPart.pub = key.pub := rfl

/-- The check of a key looks at its public part only. -/
lemma check_publicPart (key : PrivateKey) (policy : FipsPolicy) :
    key.publicPart.check policy = key.check policy := rfl

/-- Whether a field has one of the two numbers that the public part is read from. -/
def isPublic (f : Field) : Bool :=
  f.number = 1 || f.number = 2

/-! ## Fields -/

/-- Any other field is taken in, and the public part stays as it was. -/
lemma addField?_of_private (hf : isPublic f = false) (key : PrivateKey) :
    (key.addField? room f).map publicPart = some key.publicPart := by
  simp only [isPublic, Bool.or_eq_false_iff, decide_eq_false_iff_not] at hf
  unfold addField?
  split
  -- the fields 1 and 2 are excluded, and the others leave version and public half alone
  all_goals first | rfl | simp_all

/-- What a field does to the public part depends on the public part. -/
lemma addField?_congr (room : Nat) (h : key.publicPart = key'.publicPart) (f : Field) :
    (key.addField? room f).map publicPart = (key'.addField? room f).map publicPart := by
  obtain ⟨hversion, hpublicKey⟩ :
      key.version = key'.version ∧ key.publicKey = key'.publicKey := by
    simpa [publicPart] using h
  have hpub : key.pub = key'.pub := congrArg (·.getD {}) hpublicKey
  unfold addField?
  split
  · simp only [Option.map_some, publicPart, hpublicKey]
  · rw [hpub, Option.map_map, Option.map_map]
    congr 1
    funext pub
    simp only [Function.comp_apply, publicPart, hversion]
  all_goals exact congrArg some h

/-- The fields with other numbers do nothing to the public part. -/
lemma foldlM_publicPart (h : key.publicPart = key'.publicPart) (fs : List Field) :
    (fs.foldlM (addField? room) key).map publicPart
      = ((fs.filter isPublic).foldlM (addField? room) key').map publicPart := by
  induction fs generalizing key key' with
  | nil => exact congrArg some h
  | cons f fs ih =>
    rw [List.foldlM_cons]
    cases hf : isPublic f with
    | false =>
      obtain ⟨next, hnext, hsame⟩ := Option.map_eq_some_iff.1 (addField?_of_private hf key)
      rw [hnext, List.filter_cons_of_neg (by simp [hf])]
      exact ih (hsame.trans h)
    | true =>
      rw [List.filter_cons_of_pos hf, List.foldlM_cons]
      have hstep := addField?_congr room h f
      cases hnext : key.addField? room f with
      | none =>
        rw [hnext] at hstep
        rw [Option.map_eq_none_iff.1 hstep.symm]
        rfl
      | some next =>
        rw [hnext] at hstep
        obtain ⟨next', hnext', hsame⟩ := Option.map_eq_some_iff.1 hstep.symm
        rw [hnext']
        exact ih hsame.symm

/-! ## Bytes -/

/-- The public part that bytes give depends on the fields 1 and 2 in them. -/
lemma publicPart_congr
    (h : (Wire.readFields Wire.maxDepth b).map (List.filter isPublic)
      = (Wire.readFields Wire.maxDepth b').map (List.filter isPublic)) :
    (decode? b).map publicPart = (decode? b').map publicPart := by
  have hdecode : ∀ b, (decode? b).map publicPart
      = ((Wire.readFields Wire.maxDepth b).map (List.filter isPublic)).bind fun fs =>
          (fs.foldlM (addField? Wire.maxDepth) {}).map publicPart := by
    intro b
    rw [decode?, Option.bind_eq_bind]
    cases Wire.readFields Wire.maxDepth b with
    | none => rfl
    | some fs => exact foldlM_publicPart rfl fs
  rw [hdecode, hdecode, h]

/-- A field put in between two others adds nothing to the fields 1 and 2 if it has another
number. -/
lemma filter_readFields_insert {before field after : Bytes} {fs : List Field}
    (hbefore : Wire.readFields Wire.maxDepth before = some fs)
    (hfield : Wire.readField Wire.maxDepth field = some (f, [])) (hf : isPublic f = false) :
    (Wire.readFields Wire.maxDepth (before ++ field ++ after)).map (List.filter isPublic)
      = (Wire.readFields Wire.maxDepth (before ++ after)).map (List.filter isPublic) := by
  obtain ⟨hraw, hgenuine⟩ := Wire.genuine_of_readField hfield
  rw [List.append_nil] at hraw
  rw [List.append_assoc, Wire.readFields_append hbefore, Wire.readFields_append hbefore, hraw,
    Wire.readFields_of_spells (hgenuine _ le_rfl)]
  cases Wire.readFields Wire.maxDepth after with
  | none => rfl
  | some gs => simp [hf]

end Jwt.PrivateKey

/-! ## Exporting -/

namespace Manager

variable {b b' : Bytes} {serial : Nat} {policy : PolicyId} {s : State}

/-- Exporting looks at the public part only. -/
lemma publicKeyData_congr
    (h : (Jwt.PrivateKey.decode? b).map Jwt.PrivateKey.publicPart
      = (Jwt.PrivateKey.decode? b').map Jwt.PrivateKey.publicPart) :
    (jwtSigner serial policy).publicKeyData b s = (jwtSigner serial policy).publicKeyData b' s := by
  cases hkey : Jwt.PrivateKey.decode? b with
  | none =>
    rw [hkey] at h
    rw [publicKeyData_of_malformed hkey,
      publicKeyData_of_malformed (Option.map_eq_none_iff.1 h.symm)]
  | some key =>
    rw [hkey] at h
    obtain ⟨key', hkey', hsame⟩ := Option.map_eq_some_iff.1 h.symm
    have hpub : key.pub = key'.pub := by
      rw [← key.pub_publicPart, ← hsame, key'.pub_publicPart]
    have hchecks : key'.check (s.policy policy) = key.check (s.policy policy) := by
      rw [← key'.check_publicPart, hsame, key.check_publicPart]
    cases hcheck : key.check (s.policy policy) with
    | error e =>
      rw [publicKeyData_of_error hkey hcheck,
        publicKeyData_of_error hkey' (hchecks.trans hcheck)]
    | ok _ =>
      rw [publicKeyData_of_check hkey hcheck,
        publicKeyData_of_check hkey' (hchecks.trans hcheck), hpub]

/-- Wherever a field ends, a complete field whose number is neither 1 nor 2 may be put into bytes,
and exporting the public half ends as before, whether the bytes are a key or not.  So two messages
with the same fields 1 and 2 in the same order have the same outcome. -/
theorem publicKeyData_insert (serial : Nat) (policy : PolicyId) :
    (∀ (before field after : Bytes) (fs : List Wire.Field) (f : Wire.Field),
        Wire.readFields Wire.maxDepth before = some fs →
        Wire.readField Wire.maxDepth field = some (f, []) → f.number ≠ 1 → f.number ≠ 2 →
        ∀ s, (jwtSigner serial policy).publicKeyData (before ++ field ++ after) s
          = (jwtSigner serial policy).publicKeyData (before ++ after) s)
      ∧ ∀ (b b' : Bytes) (fs fs' : List Wire.Field),
        Wire.readFields Wire.maxDepth b = some fs → Wire.readFields Wire.maxDepth b' = some fs' →
        (fs.filter fun f => f.number = 1 || f.number = 2)
          = (fs'.filter fun f => f.number = 1 || f.number = 2) →
        ∀ s, (jwtSigner serial policy).publicKeyData b s
          = (jwtSigner serial policy).publicKeyData b' s := by
  constructor
  · intro before field after fs f hbefore hfield h1 h2 s
    have hf : Jwt.PrivateKey.isPublic f = false := by simp [Jwt.PrivateKey.isPublic, h1, h2]
    exact publicKeyData_congr (Jwt.PrivateKey.publicPart_congr
      (Jwt.PrivateKey.filter_readFields_insert hbefore hfield hf))
  · intro b b' fs fs' hb hb' hsame s
    refine publicKeyData_congr (Jwt.PrivateKey.publicPart_congr ?_)
    rw [hb, hb']
    exact congrArg some hsame

/-- The public half of the large key is exported with another private exponent behind the key, with
a group in a group there, and with the other exponent in front. -/
theorem publicKeyData_insert_mersenneKey :
    ∃ (key : Jwt.PrivateKey) (data : KeyData),
      key = .ofKeyPair 1 Rsa.mersenneKey ∧ data.value = key.pub.encode
        ∧ (jwtSigner 0 ⟨0⟩).publicKeyData (key.encode ++ [0x1a, 1, 5]) {} = (.ok data, {})
        ∧ (jwtSigner 0 ⟨0⟩).publicKeyData (key.encode ++ [0x5b, 0x63, 0x64, 0x5c]) {}
          = (.ok data, {})
        ∧ (jwtSigner 0 ⟨0⟩).publicKeyData ([0x1a, 1, 5] ++ key.encode) {} = (.ok data, {}) := by
  obtain ⟨hinsert, hsame⟩ := publicKeyData_insert 0 ⟨0⟩
  have hkey := decode?_ofKeyPair_mersenneKey 1
  obtain ⟨data, hdata, hvalue⟩ : ∃ data, (jwtSigner 0 ⟨0⟩).publicKeyData
      (Jwt.PrivateKey.ofKeyPair 1 Rsa.mersenneKey).encode {} = (.ok data, {})
        ∧ data.value = (Jwt.PrivateKey.ofKeyPair 1 Rsa.mersenneKey).pub.encode :=
    ⟨_, publicKeyData_of_check hkey (check_ofKeyPair_mersenneKey 1), rfl⟩
  obtain ⟨fs, hfs, -⟩ := Option.bind_eq_some_iff.1 hkey
  have hexponent : Wire.readField Wire.maxDepth [0x1a, 1, 5]
      = some (⟨3, .bytes [5], [0x1a, 1, 5]⟩, []) := by decide +kernel
  have hgroup : Wire.readField Wire.maxDepth [0x5b, 0x63, 0x64, 0x5c]
      = some (⟨11, .other, [0x5b, 0x63, 0x64, 0x5c]⟩, []) := by decide +kernel
  have hfront : Wire.readFields Wire.maxDepth
      ([0x1a, 1, 5] ++ (Jwt.PrivateKey.ofKeyPair 1 Rsa.mersenneKey).encode)
        = some (⟨3, .bytes [5], [0x1a, 1, 5]⟩ :: fs) := by
    rw [Wire.readFields_of_spells ((Wire.genuine_of_readField hexponent).2 _ le_rfl), hfs]
    rfl
  refine ⟨_, data, rfl, hvalue, ?_, ?_, ?_⟩
  · have h := hinsert _ _ [] fs _ hfs hexponent (by decide) (by decide) {}
    rw [List.append_nil, List.append_nil] at h
    exact h.trans hdata
  · have h := hinsert _ _ [] fs _ hfs hgroup (by decide) (by decide) {}
    rw [List.append_nil, List.append_nil] at h
    exact h.trans hdata
  · exact (hsame _ _ _ fs hfront hfs rfl {}).trans hdata

end Manager

end Keyring
