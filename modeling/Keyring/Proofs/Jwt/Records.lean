/-
# Records that are written and read again

A record that was read from bytes is read back, unchanged, from the bytes that it is written as,
with everything that its schema does not know.

* `Readable room size` is what reading preserves: what a record keeps for unknown fields are such
  fields, nested no deeper than `room`, and the record holds no more than the `size` bytes that were
  read.
* `readable_of_decode?` starts it for the records of public and of private keys.
* `decode?_encode`: a readable record is read back.
-/
import Keyring.Jwt.KeyMaterial
import Keyring.Proofs.Bytes.Text
import Keyring.Proofs.Error
import Keyring.Proofs.Wire.Record

namespace Keyring.Jwt

open Wire (Field Kept takeIn?)

/-- What every record can hold and still have a length that fits in 64 bits, however it is written.
No byte string is longer. -/
def maxBytes : Nat := 2 ^ 63

/-! ## Custom key ids -/

namespace CustomKid

variable {kid kid' : CustomKid} {room room' size : Nat} {f : Field} {b : Bytes}

/-- Whether the schema knows a field. -/
def knows (f : Field) : Bool :=
  match f.number, f.content with
  | 1, .bytes _ => true
  | _, _ => false

/-- The bytes that a record holds. -/
def load (kid : CustomKid) : Nat :=
  (Bytes.ofText kid.value).length + kid.unknown.length

/-- The record may come from `size` bytes with groups nested `room` deep. -/
structure Readable (room size : Nat) (kid : CustomKid) : Prop where
  load_le : kid.load ≤ size
  kept : Kept knows room kid.unknown

lemma readable_empty : Readable room 0 {} :=
  ⟨Nat.le_refl 0, .nil⟩

lemma addField?_of_unknown (h : knows f = false) (kid : CustomKid) :
    kid.addField? f = some { kid with unknown := kid.unknown ++ f.raw } := by
  unfold knows at h
  unfold addField?
  split
  · simp_all
  · rfl

lemma takeIn?_of_kept (hb : Kept knows room b) (kid : CustomKid) :
    takeIn? addField? room kid b = some { kid with unknown := kid.unknown ++ b } :=
  hb.takeIn? (fun kid raw => { kid with unknown := kid.unknown ++ raw })
    (fun kid => by rw [List.append_nil]) (fun kid a b => by rw [List.append_assoc])
    (fun kid _ hf => addField?_of_unknown hf kid) kid

lemma Readable.addField? (hf : f.Genuine room) (h : kid.addField? f = some kid')
    (hk : kid.Readable room size) : kid'.Readable room (size + f.raw.length) := by
  obtain ⟨hload, hkept⟩ := hk
  unfold CustomKid.addField? at h
  split at h
  · rename_i b hnumber hcontent
    obtain ⟨value, hvalue, rfl⟩ := Option.map_eq_some_iff.1 h
    have hlen := hf.length_lt hcontent
    refine ⟨?_, hkept⟩
    simp only [load, Bytes.ofText_of_text? hvalue] at hload ⊢
    omega
  · have hunknown : knows f = false := by
      unfold knows
      split <;> simp_all
    obtain rfl := Option.some.inj h
    refine ⟨?_, hkept.append_raw hf hunknown⟩
    simp only [load, List.length_append] at hload ⊢
    omega

lemma Readable.merge? (hk : kid.Readable room size) (h : kid.merge? room b = some kid') :
    kid'.Readable room (size + b.length) :=
  Wire.takeIn?_induction (P := Readable room) (fun _ _ _ _ hf hadd hk => hk.addField? hf hadd) hk h

lemma Readable.mono (hk : kid.Readable room size) (hroom : room ≤ room') :
    kid.Readable room' size :=
  ⟨hk.load_le, hk.kept.mono hroom⟩

/-- A record that is written takes at most twenty bytes beside those that it holds. -/
lemma length_encode_le (h : kid.load < maxBytes) : kid.encode.length ≤ kid.load + 20 := by
  rw [maxBytes, load] at h
  have hvalue : (Wire.writeBytes 1 (Bytes.ofText kid.value)).length
      ≤ (Bytes.ofText kid.value).length + 20 :=
    Wire.length_writeBytes_le (by decide) (by omega)
  rw [encode, List.length_append, load]
  omega

/-- A record is read back. -/
lemma Readable.merge?_encode (hk : kid.Readable room size) (hsize : size < maxBytes) :
    CustomKid.merge? room {} kid.encode = some kid := by
  have hload := hk.load_le
  rw [load] at hload
  rw [maxBytes] at hsize
  have hvalue : takeIn? CustomKid.addField? room {} (Wire.writeBytes 1 (Bytes.ofText kid.value))
      = some { value := kid.value } := by
    refine Wire.takeIn?_writeBytes (by decide) (by decide) (by omega) (fun raw => ?_) fun hnil => ?_
    · simp only [CustomKid.addField?, Bytes.text?_ofText, Option.map_some]
    · have hempty : kid.value = "" := Bytes.ofText_injective hnil
      rw [hempty]
  change takeIn? CustomKid.addField? room {} kid.encode = _
  rw [encode, Wire.takeIn?_append hvalue, takeIn?_of_kept hk.kept]
  rfl

end CustomKid

/-! ## Public keys -/

namespace PublicKey

variable {key key' : PublicKey} {room room' size : Nat} {f : Field} {b : Bytes}

/-- Whether the schema knows a field. -/
def knows (f : Field) : Bool :=
  match f.number, f.content with
  | 1, .number _ => true
  | 2, .number _ => true
  | 3, .bytes _ => true
  | 4, .bytes _ => true
  | 5, .bytes _ => true
  | _, _ => false

/-- The bytes that a record holds, apart from its numbers. -/
def load (key : PublicKey) : Nat :=
  key.n.length + key.e.length + (key.customKid.elim 0 CustomKid.load) + key.unknown.length

/-- The record may come from `size` bytes with groups nested `room` deep. -/
structure Readable (room size : Nat) (key : PublicKey) : Prop where
  load_le : key.load ≤ size
  customKid : ∀ kid ∈ key.customKid, kid.Readable (room - 1) kid.load
  kept : Kept knows room key.unknown

lemma readable_empty : Readable room 0 {} :=
  ⟨Nat.le_refl 0, (fun _ h => nomatch h), .nil⟩

lemma Readable.mono (hk : key.Readable room size) (hroom : room ≤ room') :
    key.Readable room' size :=
  ⟨hk.load_le, fun kid h => (hk.customKid kid h).mono (Nat.sub_le_sub_right hroom 1),
    hk.kept.mono hroom⟩

/-- A record may come from more bytes than it comes from. -/
lemma Readable.grow {more : Nat} (hk : key.Readable room size) (hmore : size ≤ more) :
    key.Readable room more :=
  ⟨hk.load_le.trans hmore, hk.customKid, hk.kept⟩

lemma addField?_of_unknown (h : knows f = false) (key : PublicKey) :
    key.addField? room f = some { key with unknown := key.unknown ++ f.raw } := by
  unfold knows at h
  unfold addField?
  split
  all_goals first | rfl | simp_all

lemma takeIn?_of_kept (hb : Kept knows room b) (key : PublicKey) :
    takeIn? (addField? room) room key b = some { key with unknown := key.unknown ++ b } :=
  hb.takeIn? (fun key raw => { key with unknown := key.unknown ++ raw })
    (fun key => by rw [List.append_nil]) (fun key a b => by rw [List.append_assoc])
    (fun key _ hf => addField?_of_unknown hf key) key

/-- The custom key id that a field is merged into. -/
lemma Readable.customKid_getD (hk : key.Readable room size) :
    (key.customKid.getD {}).Readable (room - 1) (key.customKid.elim 0 CustomKid.load) := by
  cases hkid : key.customKid with
  | none => exact CustomKid.readable_empty
  | some kid => exact hk.customKid kid hkid

lemma Readable.addField? (hf : f.Genuine room) (h : key.addField? room f = some key')
    (hk : key.Readable room size) : key'.Readable room (size + f.raw.length) := by
  have hload := hk.load_le
  have hgrow := hk.grow (Nat.le_add_right size f.raw.length)
  unfold PublicKey.addField? at h
  split at h
  -- the numbers add nothing to what the record holds
  · obtain rfl := Option.some.inj h
    exact ⟨hgrow.load_le, hgrow.customKid, hgrow.kept⟩
  · obtain rfl := Option.some.inj h
    exact ⟨hgrow.load_le, hgrow.customKid, hgrow.kept⟩
  -- the modulus and the exponent replace what was there
  iterate 2
    · rename_i b hnumber hcontent
      have hlen := hf.length_lt hcontent
      obtain rfl := Option.some.inj h
      refine ⟨?_, hgrow.customKid, hgrow.kept⟩
      simp only [load] at hload ⊢
      omega
  -- a custom key id is merged into the one that is there
  · rename_i b hnumber hcontent
    have hlen := hf.length_lt hcontent
    obtain ⟨kid, hkid, rfl⟩ := Option.map_eq_some_iff.1 h
    have hmerged := hk.customKid_getD.merge? hkid
    have hkidload := hmerged.load_le
    simp only [load] at hload
    refine ⟨?_, fun kid' h => ?_, hgrow.kept⟩
    · simp only [load, Option.elim_some]
      omega
    · obtain rfl := Option.some.inj h
      exact ⟨Nat.le_refl _, hmerged.kept⟩
  -- the bytes of any other field are kept
  · have hunknown : knows f = false := by
      unfold knows
      split <;> simp_all
    obtain rfl := Option.some.inj h
    refine ⟨?_, hgrow.customKid, hk.kept.append_raw hf hunknown⟩
    simp only [load, List.length_append] at hload ⊢
    omega

lemma Readable.merge? (hk : key.Readable room size) (h : key.merge? room b = some key') :
    key'.Readable room (size + b.length) :=
  Wire.takeIn?_induction (P := Readable room) (fun _ _ _ _ hf hadd hk => hk.addField? hf hadd) hk h

/-- A record that is read is readable. -/
lemma readable_of_decode? (h : decode? b = some key) : key.Readable Wire.maxDepth b.length := by
  have hmerged := readable_empty.merge? h
  rwa [Nat.zero_add] at hmerged

lemma length_writeCustomKid_le (h : key.customKid.elim 0 CustomKid.load < maxBytes) :
    (key.customKid.elim [] fun kid => Wire.writeMessage 5 kid.encode).length
      ≤ key.customKid.elim 0 CustomKid.load + 40 := by
  cases hkid : key.customKid with
  | none => exact Nat.zero_le _
  | some kid =>
    rw [hkid, Option.elim_some] at h
    have hencode := CustomKid.length_encode_le h
    rw [maxBytes] at h
    have hmessage : (Wire.writeMessage 5 kid.encode).length ≤ kid.encode.length + 20 :=
      Wire.length_writeMessage_le (by decide) (by omega)
    simp only [Option.elim_some]
    omega

/-- A record that is written takes at most 120 bytes beside those that it holds. -/
lemma length_encode_le (h : key.load < maxBytes) : key.encode.length ≤ key.load + 120 := by
  rw [maxBytes, load] at h
  have hversion : (Wire.writeNumber 1 key.version.toNat).length ≤ 20 :=
    Wire.length_writeNumber_le (by decide) (Wire.toNat_lt _)
  have halgorithm : (Wire.writeNumber 2 (Wire.ofSigned key.algorithm)).length ≤ 20 :=
    Wire.length_writeNumber_le (by decide) (Wire.ofSigned_lt _)
  have hn : (Wire.writeBytes 3 key.n).length ≤ key.n.length + 20 :=
    Wire.length_writeBytes_le (by decide) (by omega)
  have he : (Wire.writeBytes 4 key.e).length ≤ key.e.length + 20 :=
    Wire.length_writeBytes_le (by decide) (by omega)
  have hkid := @length_writeCustomKid_le key (by rw [maxBytes]; omega)
  simp only [encode, load, List.length_append]
  omega

/-- The custom key id is taken in by a record that has none. -/
lemma Readable.takeIn?_writeCustomKid (hk : key.Readable room size) (hsize : size < maxBytes)
    {before : PublicKey} (hbefore : before.customKid = none) :
    takeIn? (PublicKey.addField? room) room before
        (key.customKid.elim [] fun kid => Wire.writeMessage 5 kid.encode)
      = some { before with customKid := key.customKid } := by
  cases hkid : key.customKid with
  | none =>
    have hsame : { before with customKid := none } = before := by rw [← hbefore]
    rw [hsame]
    exact Wire.takeIn?_nil
  | some kid =>
    have hreadable := hk.customKid kid hkid
    have hload := hk.load_le
    rw [load, hkid, Option.elim_some] at hload
    have hsmall : kid.load < maxBytes := by omega
    have hencode := CustomKid.length_encode_le hsmall
    have hmerge := hreadable.merge?_encode hsmall
    rw [maxBytes] at hsmall
    refine Wire.takeIn?_writeMessage (by decide) (by decide) (by omega) fun raw => ?_
    simp only [PublicKey.addField?, hbefore, Option.getD_none, hmerge, Option.map_some]

/-- A record is read back. -/
lemma Readable.merge?_encode (hk : key.Readable room size) (hsize : size < maxBytes) :
    PublicKey.merge? room {} key.encode = some key := by
  have hload := hk.load_le
  simp only [load] at hload
  rw [maxBytes] at hsize
  -- the fields fill the record one by one, in the order in which they were written
  have hversion : takeIn? (PublicKey.addField? room) room {}
      (Wire.writeNumber 1 key.version.toNat) = some { version := key.version } := by
    refine Wire.takeIn?_writeNumber (by decide) (by decide) (Wire.toNat_lt _) (fun raw => ?_)
      fun hzero => ?_
    · simp only [PublicKey.addField?, Wire.toUnsigned_toNat]
    · rw [← Wire.toUnsigned_toNat key.version, hzero]
      rfl
  have halgorithm : takeIn? (PublicKey.addField? room) room { version := key.version }
      (Wire.writeNumber 2 (Wire.ofSigned key.algorithm))
      = some { version := key.version, algorithm := key.algorithm } := by
    refine Wire.takeIn?_writeNumber (by decide) (by decide) (Wire.ofSigned_lt _) (fun raw => ?_)
      fun hzero => ?_
    · simp only [PublicKey.addField?, Wire.toSigned_ofSigned]
    · rw [Wire.eq_zero_of_ofSigned hzero]
  have hn : takeIn? (PublicKey.addField? room) room
      { version := key.version, algorithm := key.algorithm } (Wire.writeBytes 3 key.n)
      = some { version := key.version, algorithm := key.algorithm, n := key.n } :=
    Wire.takeIn?_writeBytes (by decide) (by decide) (by omega) (fun raw => rfl)
      fun hnil => by rw [hnil]
  have he : takeIn? (PublicKey.addField? room) room
      { version := key.version, algorithm := key.algorithm, n := key.n }
      (Wire.writeBytes 4 key.e)
      = some { version := key.version, algorithm := key.algorithm, n := key.n, e := key.e } :=
    Wire.takeIn?_writeBytes (by decide) (by decide) (by omega) (fun raw => rfl)
      fun hnil => by rw [hnil]
  have hkid : takeIn? (PublicKey.addField? room) room
      { version := key.version, algorithm := key.algorithm, n := key.n, e := key.e }
      (key.customKid.elim [] fun kid => Wire.writeMessage 5 kid.encode)
      = some { key with unknown := [] } :=
    hk.takeIn?_writeCustomKid hsize rfl
  change takeIn? (PublicKey.addField? room) room {} key.encode = _
  rw [encode, List.append_assoc, List.append_assoc, List.append_assoc, List.append_assoc,
    Wire.takeIn?_append hversion, Wire.takeIn?_append halgorithm, Wire.takeIn?_append hn,
    Wire.takeIn?_append he, Wire.takeIn?_append hkid, takeIn?_of_kept hk.kept]
  rfl

/-- A record that was read is read back, where groups may nest at least as deep. -/
lemma Readable.decode?_encode (hk : key.Readable room size) (hroom : room ≤ Wire.maxDepth)
    (hsize : size < maxBytes) : decode? key.encode = some key :=
  (hk.mono hroom).merge?_encode hsize

lemma parse_eq_ok_iff {typeUrl? : Option String} :
    parse b typeUrl? = .ok key ↔ decode? b = some key :=
  elim_eq_ok_iff

end PublicKey

/-! ## Private keys -/

namespace PrivateKey

variable {key key' : PrivateKey} {room size : Nat} {f : Field} {b : Bytes}

/-- Whether the schema knows a field. -/
def knows (f : Field) : Bool :=
  match f.number, f.content with
  | 1, .number _ => true
  | 2, .bytes _ => true
  | 3, .bytes _ => true
  | 4, .bytes _ => true
  | 5, .bytes _ => true
  | 6, .bytes _ => true
  | 7, .bytes _ => true
  | 8, .bytes _ => true
  | _, _ => false

/-- The bytes that a record holds, apart from its numbers. -/
def load (key : PrivateKey) : Nat :=
  (key.publicKey.elim 0 PublicKey.load) + key.d.length + key.p.length + key.q.length
    + key.dp.length + key.dq.length + key.crt.length + key.unknown.length

/-- The record may come from `size` bytes with groups nested `room` deep. -/
structure Readable (room size : Nat) (key : PrivateKey) : Prop where
  load_le : key.load ≤ size
  publicKey : ∀ pub ∈ key.publicKey, pub.Readable (room - 1) pub.load
  kept : Kept knows room key.unknown

lemma readable_empty : Readable room 0 {} :=
  ⟨Nat.le_refl 0, (fun _ h => nomatch h), .nil⟩

/-- The record of a key pair keeps no unknown fields. -/
lemma readable_ofKeyPair (algorithm : Int32) (pair : Rsa.KeyPair) :
    (ofKeyPair algorithm pair).Readable room (ofKeyPair algorithm pair).load := by
  refine ⟨Nat.le_refl _, ?_, .nil⟩
  intro pub h
  obtain rfl := Option.some.inj h
  exact ⟨Nat.le_refl _, (fun _ h => nomatch h), .nil⟩

/-- A record may come from more bytes than it comes from. -/
lemma Readable.grow {more : Nat} (hk : key.Readable room size) (hmore : size ≤ more) :
    key.Readable room more :=
  ⟨hk.load_le.trans hmore, hk.publicKey, hk.kept⟩

lemma addField?_of_unknown (h : knows f = false) (key : PrivateKey) :
    key.addField? room f = some { key with unknown := key.unknown ++ f.raw } := by
  unfold knows at h
  unfold addField?
  split
  all_goals first | rfl | simp_all

lemma takeIn?_of_kept (hb : Kept knows room b) (key : PrivateKey) :
    takeIn? (addField? room) room key b = some { key with unknown := key.unknown ++ b } :=
  hb.takeIn? (fun key raw => { key with unknown := key.unknown ++ raw })
    (fun key => by rw [List.append_nil]) (fun key a b => by rw [List.append_assoc])
    (fun key _ hf => addField?_of_unknown hf key) key

/-- The public half, also of a record without one. -/
lemma Readable.pub (hk : key.Readable room size) :
    key.pub.Readable (room - 1) (key.publicKey.elim 0 PublicKey.load) := by
  rw [PrivateKey.pub]
  cases hpub : key.publicKey with
  | none => exact PublicKey.readable_empty
  | some pub => exact hk.publicKey pub hpub

lemma Readable.addField? (hf : f.Genuine room) (h : key.addField? room f = some key')
    (hk : key.Readable room size) : key'.Readable room (size + f.raw.length) := by
  have hload := hk.load_le
  have hgrow := hk.grow (Nat.le_add_right size f.raw.length)
  simp only [load] at hload
  unfold PrivateKey.addField? at h
  split at h
  · obtain rfl := Option.some.inj h
    exact ⟨hgrow.load_le, hgrow.publicKey, hgrow.kept⟩
  · rename_i b hnumber hcontent
    have hlen := hf.length_lt hcontent
    obtain ⟨pub, hpub, rfl⟩ := Option.map_eq_some_iff.1 h
    have hmerged := hk.pub.merge? hpub
    have hpubload := hmerged.load_le
    refine ⟨?_, fun pub' h => ?_, hgrow.kept⟩
    · simp only [load, Option.elim_some]
      omega
    · obtain rfl := Option.some.inj h
      exact ⟨Nat.le_refl _, hmerged.customKid, hmerged.kept⟩
  -- the six private parts replace what was there
  iterate 6
    · rename_i b hnumber hcontent
      have hlen := hf.length_lt hcontent
      obtain rfl := Option.some.inj h
      refine ⟨?_, hgrow.publicKey, hgrow.kept⟩
      simp only [load]
      omega
  · have hunknown : knows f = false := by
      unfold knows
      split <;> simp_all
    obtain rfl := Option.some.inj h
    refine ⟨?_, hgrow.publicKey, hk.kept.append_raw hf hunknown⟩
    simp only [load, List.length_append]
    omega

/-- A record that is read is readable. -/
lemma readable_of_decode? (h : decode? b = some key) : key.Readable Wire.maxDepth b.length := by
  have hread := Wire.takeIn?_induction (P := Readable Wire.maxDepth)
    (fun _ _ _ _ hf hadd hk => hk.addField? hf hadd) readable_empty h
  rwa [Nat.zero_add] at hread

lemma length_writePublicKey_le (h : key.publicKey.elim 0 PublicKey.load < maxBytes) :
    (key.publicKey.elim [] fun pub => Wire.writeMessage 2 pub.encode).length
      ≤ key.publicKey.elim 0 PublicKey.load + 140 := by
  cases hpub : key.publicKey with
  | none => exact Nat.zero_le _
  | some pub =>
    rw [hpub, Option.elim_some] at h
    have hencode := PublicKey.length_encode_le h
    rw [maxBytes] at h
    have hmessage : (Wire.writeMessage 2 pub.encode).length ≤ pub.encode.length + 20 :=
      Wire.length_writeMessage_le (by decide) (by omega)
    simp only [Option.elim_some]
    omega

/-- A record that is written takes at most 280 bytes beside those that it holds. -/
lemma length_encode_le (h : key.load < maxBytes) : key.encode.length ≤ key.load + 280 := by
  rw [maxBytes, load] at h
  have hversion : (Wire.writeNumber 1 key.version.toNat).length ≤ 20 :=
    Wire.length_writeNumber_le (by decide) (Wire.toNat_lt _)
  have hpub := @length_writePublicKey_le key (by rw [maxBytes]; omega)
  have hpart : ∀ number < 2 ^ 29, ∀ part : Bytes, part.length < 2 ^ 64 →
      (Wire.writeBytes number part).length ≤ part.length + 20 :=
    fun number hlt part => Wire.length_writeBytes_le hlt
  have hd := hpart 3 (by decide) key.d (by omega)
  have hp := hpart 4 (by decide) key.p (by omega)
  have hq := hpart 5 (by decide) key.q (by omega)
  have hdp := hpart 6 (by decide) key.dp (by omega)
  have hdq := hpart 7 (by decide) key.dq (by omega)
  have hcrt := hpart 8 (by decide) key.crt (by omega)
  simp only [encode, load, List.length_append]
  omega

/-- The public half is taken in by a record that has none. -/
lemma Readable.takeIn?_writePublicKey (hk : key.Readable room size) (hsize : size < maxBytes)
    {before : PrivateKey} (hbefore : before.publicKey = none) :
    takeIn? (PrivateKey.addField? room) room before
        (key.publicKey.elim [] fun pub => Wire.writeMessage 2 pub.encode)
      = some { before with publicKey := key.publicKey } := by
  cases hpub : key.publicKey with
  | none =>
    have hsame : { before with publicKey := none } = before := by rw [← hbefore]
    rw [hsame]
    exact Wire.takeIn?_nil
  | some pub =>
    have hreadable := hk.publicKey pub hpub
    have hload := hk.load_le
    rw [load, hpub, Option.elim_some] at hload
    have hsmall : pub.load < maxBytes := by omega
    have hencode := PublicKey.length_encode_le hsmall
    have hmerge := hreadable.merge?_encode hsmall
    rw [maxBytes] at hsmall
    refine Wire.takeIn?_writeMessage (by decide) (by decide) (by omega) fun raw => ?_
    simp only [PrivateKey.addField?, PrivateKey.pub, hbefore, Option.getD_none, hmerge,
      Option.map_some]

/-- A record is read back. -/
lemma Readable.decode?_encode (hk : key.Readable Wire.maxDepth size) (hsize : size < maxBytes) :
    decode? key.encode = some key := by
  have hload := hk.load_le
  simp only [load] at hload
  rw [maxBytes] at hsize
  -- the fields fill the record one by one, in the order in which they were written
  have hversion : takeIn? (PrivateKey.addField? Wire.maxDepth) Wire.maxDepth {}
      (Wire.writeNumber 1 key.version.toNat) = some { version := key.version } := by
    refine Wire.takeIn?_writeNumber (by decide) (by decide) (Wire.toNat_lt _) (fun raw => ?_)
      fun hzero => ?_
    · simp only [PrivateKey.addField?, Wire.toUnsigned_toNat]
    · rw [← Wire.toUnsigned_toNat key.version, hzero]
      rfl
  have hpub : takeIn? (PrivateKey.addField? Wire.maxDepth) Wire.maxDepth
      { version := key.version } (key.publicKey.elim [] fun pub => Wire.writeMessage 2 pub.encode)
      = some { version := key.version, publicKey := key.publicKey } :=
    hk.takeIn?_writePublicKey hsize rfl
  have hd : takeIn? (PrivateKey.addField? Wire.maxDepth) Wire.maxDepth
      { version := key.version, publicKey := key.publicKey } (Wire.writeBytes 3 key.d)
      = some { version := key.version, publicKey := key.publicKey, d := key.d } :=
    Wire.takeIn?_writeBytes (by decide) (by decide) (by omega) (fun raw => rfl)
      fun hnil => by rw [hnil]
  have hp : takeIn? (PrivateKey.addField? Wire.maxDepth) Wire.maxDepth
      { version := key.version, publicKey := key.publicKey, d := key.d }
      (Wire.writeBytes 4 key.p)
      = some { version := key.version, publicKey := key.publicKey, d := key.d, p := key.p } :=
    Wire.takeIn?_writeBytes (by decide) (by decide) (by omega) (fun raw => rfl)
      fun hnil => by rw [hnil]
  have hq : takeIn? (PrivateKey.addField? Wire.maxDepth) Wire.maxDepth
      { version := key.version, publicKey := key.publicKey, d := key.d, p := key.p }
      (Wire.writeBytes 5 key.q)
      = some { key with dp := [], dq := [], crt := [], unknown := [] } :=
    Wire.takeIn?_writeBytes (by decide) (by decide) (by omega) (fun raw => rfl)
      fun hnil => by rw [hnil]
  have hdp : takeIn? (PrivateKey.addField? Wire.maxDepth) Wire.maxDepth
      { key with dp := [], dq := [], crt := [], unknown := [] } (Wire.writeBytes 6 key.dp)
      = some { key with dq := [], crt := [], unknown := [] } :=
    Wire.takeIn?_writeBytes (by decide) (by decide) (by omega) (fun raw => rfl)
      fun hnil => by rw [hnil]
  have hdq : takeIn? (PrivateKey.addField? Wire.maxDepth) Wire.maxDepth
      { key with dq := [], crt := [], unknown := [] } (Wire.writeBytes 7 key.dq)
      = some { key with crt := [], unknown := [] } :=
    Wire.takeIn?_writeBytes (by decide) (by decide) (by omega) (fun raw => rfl)
      fun hnil => by rw [hnil]
  have hcrt : takeIn? (PrivateKey.addField? Wire.maxDepth) Wire.maxDepth
      { key with crt := [], unknown := [] } (Wire.writeBytes 8 key.crt)
      = some { key with unknown := [] } :=
    Wire.takeIn?_writeBytes (by decide) (by decide) (by omega) (fun raw => rfl)
      fun hnil => by rw [hnil]
  change takeIn? (PrivateKey.addField? Wire.maxDepth) Wire.maxDepth {} key.encode = _
  simp only [encode, List.append_assoc]
  rw [Wire.takeIn?_append hversion, Wire.takeIn?_append hpub, Wire.takeIn?_append hd,
    Wire.takeIn?_append hp, Wire.takeIn?_append hq, Wire.takeIn?_append hdp,
    Wire.takeIn?_append hdq, Wire.takeIn?_append hcrt, takeIn?_of_kept hk.kept]
  rfl

lemma parse_eq_ok_iff {typeUrl? : Option String} :
    parse b typeUrl? = .ok key ↔ decode? b = some key :=
  elim_eq_ok_iff

end PrivateKey

end Keyring.Jwt
