/-
# Records of every origin

Public keys, private keys and key formats are read back from the bytes that they are written as,
whichever way they came about.

* `KeyFormat.Readable` is for key formats what it is for the two kinds of keys.
* `PublicKey.Arises`, `PrivateKey.Arises` and `KeyFormat.Arises` say how a record comes about: it is
  built from values, or it is read from bytes.
* `parse_encode_of_arises` is the statement about all three.
-/
import Keyring.Proofs.Jwt.Records

namespace Keyring.Jwt

open Wire (Field Kept takeIn?)

/-! ## Key formats -/

namespace KeyFormat

variable {format format' : KeyFormat} {room size : Nat} {f : Field} {b : Bytes}

/-- Whether the schema knows a field. -/
def knows (f : Field) : Bool :=
  match f.number, f.content with
  | 1, .number _ => true
  | 2, .number _ => true
  | 3, .number _ => true
  | 4, .bytes _ => true
  | _, _ => false

/-- The bytes that a record holds, apart from its numbers. -/
def load (format : KeyFormat) : Nat :=
  format.publicExponent.length + format.unknown.length

/-- The record may come from `size` bytes with groups nested `room` deep. -/
structure Readable (room size : Nat) (format : KeyFormat) : Prop where
  load_le : format.load ≤ size
  kept : Kept knows room format.unknown

/-- Takes in one field, which is never refused. -/
def addField? (format : KeyFormat) (f : Field) : Option KeyFormat :=
  some (format.addField f)

lemma decode?_eq_takeIn? : decode? b = takeIn? addField? Wire.maxDepth {} b := by
  have hfold : ∀ fs : List Field, fs.foldlM addField? ({} : KeyFormat)
      = some (fs.foldl addField {}) := fun fs => List.foldlM_pure
  rw [decode?, takeIn?]
  simp only [hfold]
  rfl

lemma addField?_of_unknown (h : knows f = false) (format : KeyFormat) :
    format.addField? f = some { format with unknown := format.unknown ++ f.raw } := by
  unfold knows at h
  unfold addField? addField
  split
  all_goals first | rfl | simp_all

lemma takeIn?_of_kept (hb : Kept knows room b) (format : KeyFormat) :
    takeIn? addField? room format b = some { format with unknown := format.unknown ++ b } :=
  hb.takeIn? (fun format raw => { format with unknown := format.unknown ++ raw })
    (fun format => by rw [List.append_nil]) (fun format a b => by rw [List.append_assoc])
    (fun format _ hf => addField?_of_unknown hf format) format

lemma Readable.addField (hf : f.Genuine room) (hk : format.Readable room size) :
    (format.addField f).Readable room (size + f.raw.length) := by
  obtain ⟨hload, hkept⟩ := hk
  have hgrow := hload.trans (Nat.le_add_right size f.raw.length)
  unfold KeyFormat.addField
  split
  -- the numbers add nothing to what the record holds
  · exact ⟨hgrow, hkept⟩
  · exact ⟨hgrow, hkept⟩
  · exact ⟨hgrow, hkept⟩
  · rename_i b hnumber hcontent
    have hlen := hf.length_lt hcontent
    refine ⟨?_, hkept⟩
    simp only [load] at hload ⊢
    omega
  · have hunknown : knows f = false := by
      unfold knows
      split <;> simp_all
    refine ⟨?_, hkept.append_raw hf hunknown⟩
    simp only [load, List.length_append] at hload ⊢
    omega

/-- A record that is read is readable. -/
lemma readable_of_decode? (h : decode? b = some format) :
    format.Readable Wire.maxDepth b.length := by
  rw [decode?_eq_takeIn?] at h
  have hread := Wire.takeIn?_induction (P := Readable Wire.maxDepth)
    (fun size format f t hf hadd hk => by
      obtain rfl := Option.some.inj hadd
      exact hk.addField hf)
    ⟨Nat.le_refl 0, .nil⟩ h
  rwa [Nat.zero_add] at hread

/-- A record is read back. -/
lemma Readable.decode?_encode (hk : format.Readable Wire.maxDepth size) (hsize : size < maxBytes) :
    decode? format.encode = some format := by
  have hload := hk.load_le
  rw [load] at hload
  rw [maxBytes] at hsize
  -- the fields fill the record one by one, in the order in which they were written
  have hversion : takeIn? addField? Wire.maxDepth {} (Wire.writeNumber 1 format.version.toNat)
      = some { version := format.version } := by
    refine Wire.takeIn?_writeNumber (by decide) (by decide) (Wire.toNat_lt _) (fun raw => ?_)
      fun hzero => ?_
    · simp only [addField?, KeyFormat.addField, Wire.toUnsigned_toNat]
    · rw [← Wire.toUnsigned_toNat format.version, hzero]
      rfl
  have halgorithm : takeIn? addField? Wire.maxDepth { version := format.version }
      (Wire.writeNumber 2 (Wire.ofSigned format.algorithm))
      = some { version := format.version, algorithm := format.algorithm } := by
    refine Wire.takeIn?_writeNumber (by decide) (by decide) (Wire.ofSigned_lt _) (fun raw => ?_)
      fun hzero => ?_
    · simp only [addField?, KeyFormat.addField, Wire.toSigned_ofSigned]
    · rw [Wire.eq_zero_of_ofSigned hzero]
  have hbits : takeIn? addField? Wire.maxDepth
      { version := format.version, algorithm := format.algorithm }
      (Wire.writeNumber 3 format.modulusBits.toNat)
      = some { format with publicExponent := [], unknown := [] } := by
    refine Wire.takeIn?_writeNumber (by decide) (by decide) (Wire.toNat_lt _) (fun raw => ?_)
      fun hzero => ?_
    · simp only [addField?, KeyFormat.addField, Wire.toUnsigned_toNat]
    · rw [← Wire.toUnsigned_toNat format.modulusBits, hzero]
      rfl
  have hexponent : takeIn? addField? Wire.maxDepth
      { format with publicExponent := [], unknown := [] }
      (Wire.writeBytes 4 format.publicExponent) = some { format with unknown := [] } :=
    Wire.takeIn?_writeBytes (by decide) (by decide) (by omega) (fun raw => rfl)
      fun hnil => by rw [hnil]
  rw [decode?_eq_takeIn?, encode, List.append_assoc, List.append_assoc, List.append_assoc,
    Wire.takeIn?_append hversion, Wire.takeIn?_append halgorithm, Wire.takeIn?_append hbits,
    Wire.takeIn?_append hexponent, takeIn?_of_kept hk.kept]
  rfl

lemma parse_eq_ok_iff {typeUrl? : Option String} :
    parse b typeUrl? = .ok format ↔ decode? b = some format :=
  elim_eq_ok_iff

end KeyFormat

/-! ## Where records come from -/

/-- The record has been built from values, so nothing in it is unknown to the schema. -/
structure PublicKey.Built (key : PublicKey) : Prop where
  unknown : key.unknown = []
  customKid : ∀ kid ∈ key.customKid, kid.unknown = []
  load_lt : key.load < maxBytes

/-- The record has been built from values, its public half as well. -/
structure PrivateKey.Built (key : PrivateKey) : Prop where
  unknown : key.unknown = []
  publicKey : ∀ pub ∈ key.publicKey, pub.Built
  load_lt : key.load < maxBytes

/-- The record has been built from values. -/
structure KeyFormat.Built (format : KeyFormat) : Prop where
  unknown : format.unknown = []
  load_lt : format.load < maxBytes

/-- How a record of a private key comes about. -/
inductive PrivateKey.Arises (key : PrivateKey) : Prop
  | built (h : key.Built)
  | read {b : Bytes} (hb : b.length < maxBytes) (h : decode? b = some key)

/-- How a record of a public key comes about; it may be the public half of one that was read. -/
inductive PublicKey.Arises (key : PublicKey) : Prop
  | built (h : key.Built)
  | read {b : Bytes} (hb : b.length < maxBytes) (h : decode? b = some key)
  | half {b : Bytes} {whole : PrivateKey} (hb : b.length < maxBytes)
      (h : PrivateKey.decode? b = some whole) (hkey : key = whole.pub)

/-- How a record of a key format comes about. -/
inductive KeyFormat.Arises (format : KeyFormat) : Prop
  | built (h : format.Built)
  | read {b : Bytes} (hb : b.length < maxBytes) (h : decode? b = some format)

/-- A record built from values fits wherever it is put. -/
lemma PublicKey.Built.readable {key : PublicKey} (h : key.Built) (room : Nat) :
    key.Readable room key.load := by
  obtain ⟨hunknown, hkid, -⟩ := h
  refine ⟨Nat.le_refl _, fun kid hmem => ⟨Nat.le_refl _, ?_⟩, ?_⟩
  · rw [hkid kid hmem]
    exact .nil
  · rw [hunknown]
    exact .nil

lemma PrivateKey.Built.readable {key : PrivateKey} (h : key.Built) (room : Nat) :
    key.Readable room key.load := by
  obtain ⟨hunknown, hpub, -⟩ := h
  refine ⟨Nat.le_refl _, fun pub hmem => (hpub pub hmem).readable _, ?_⟩
  rw [hunknown]
  exact .nil

lemma KeyFormat.Built.readable {format : KeyFormat} (h : format.Built) (room : Nat) :
    format.Readable room format.load := by
  refine ⟨Nat.le_refl _, ?_⟩
  rw [h.unknown]
  exact .nil

/-- The public half of a record that was read, which was read one level further down. -/
lemma PrivateKey.decode?_encode_pub {key : PrivateKey} {b : Bytes} (hb : b.length < maxBytes)
    (h : decode? b = some key) : PublicKey.decode? key.pub.encode = some key.pub := by
  have hread := readable_of_decode? h
  have hload := hread.load_le
  rw [load] at hload
  exact hread.pub.decode?_encode (Nat.sub_le _ _) (by omega)

lemma PublicKey.Arises.decode?_encode {key : PublicKey} (h : key.Arises) :
    decode? key.encode = some key := by
  cases h with
  | built h => exact (h.readable Wire.maxDepth).decode?_encode le_rfl h.load_lt
  | read hb h => exact (readable_of_decode? h).decode?_encode le_rfl hb
  | half hb h hkey =>
    rw [hkey]
    exact PrivateKey.decode?_encode_pub hb h

lemma PrivateKey.Arises.decode?_encode {key : PrivateKey} (h : key.Arises) :
    decode? key.encode = some key := by
  cases h with
  | built h => exact (h.readable Wire.maxDepth).decode?_encode h.load_lt
  | read hb h => exact (readable_of_decode? h).decode?_encode hb

lemma KeyFormat.Arises.decode?_encode {format : KeyFormat} (h : format.Arises) :
    decode? format.encode = some format := by
  cases h with
  | built h => exact (h.readable Wire.maxDepth).decode?_encode h.load_lt
  | read hb h => exact (readable_of_decode? h).decode?_encode hb

/-- Every record of the three schemas, built from values or read from bytes, is the one that its
own bytes are read as. -/
theorem parse_encode_of_arises (typeUrl? : Option String) :
    (∀ key : PublicKey, key.Arises → PublicKey.parse key.encode typeUrl? = .ok key)
      ∧ (∀ key : PrivateKey, key.Arises → PrivateKey.parse key.encode typeUrl? = .ok key)
      ∧ ∀ format : KeyFormat, format.Arises →
          KeyFormat.parse format.encode typeUrl? = .ok format :=
  ⟨fun _ h => PublicKey.parse_eq_ok_iff.2 h.decode?_encode,
    fun _ h => PrivateKey.parse_eq_ok_iff.2 h.decode?_encode,
    fun _ h => KeyFormat.parse_eq_ok_iff.2 h.decode?_encode⟩

/-- A public key that was built, with a negative algorithm number and an empty custom key id; a
private key that was read, with its public half in two pieces, groups in groups and a number where
bytes belong; and a key format that was read, with a longer version number than needed. -/
theorem parse_encode_of_built_of_read :
    ∃ (pub : PublicKey) (key : PrivateKey) (format : KeyFormat),
      pub.algorithm = -1 ∧ pub.customKid = some {} ∧ PublicKey.parse pub.encode = .ok pub
        ∧ PrivateKey.decode? [0x12, 2, 0x08, 7, 0x5b, 0x63, 0x64, 0x5c, 0x12, 4, 0x5b, 0x5c, 0x2a,
            0, 0x18, 9] = some key
        ∧ key.pub.customKid = some {} ∧ PrivateKey.parse key.encode = .ok key
        ∧ KeyFormat.decode? [0x08, 0x81, 0x00, 0x0a, 0x00] = some format
        ∧ format.version = 1 ∧ KeyFormat.parse format.encode = .ok format := by
  obtain ⟨hpub, hkey, hformat⟩ := parse_encode_of_arises none
  -- what the two byte strings are read as
  have hread : PrivateKey.decode? [0x12, 2, 0x08, 7, 0x5b, 0x63, 0x64, 0x5c, 0x12, 4, 0x5b, 0x5c,
      0x2a, 0, 0x18, 9] = some {
        publicKey := some { version := 7, customKid := some {}, unknown := [0x5b, 0x5c] }
        unknown := [0x5b, 0x63, 0x64, 0x5c, 0x18, 9] } := by decide +kernel
  have hread' : KeyFormat.decode? [0x08, 0x81, 0x00, 0x0a, 0x00]
      = some { version := 1, unknown := [0x0a, 0x00] } := by decide +kernel
  refine ⟨{ algorithm := -1, customKid := some {} }, _, _, rfl, rfl, hpub _ (.built ⟨rfl, ?_, ?_⟩),
    hread, rfl, hkey _ (.read (by decide) hread), hread', rfl, hformat _ (.read (by decide) hread')⟩
  · intro kid h
    obtain rfl := Option.some.inj h
    rfl
  · decide

end Keyring.Jwt
