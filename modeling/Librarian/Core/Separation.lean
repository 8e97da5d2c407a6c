import Librarian.Core.Lifecycle
import Librarian.Core.WindowsHello

/-!
# Domain separation

The vault encrypts in five roles: the root key under the password, under the recovery key and under
Windows Hello, the manifest, and a record. Each role has an encoder of associated data and a label
for the derivation of its key. A ciphertext of one role, or of one record, is of no use in another:
no two roles, and no two instances of a role, share their associated data or their label
(`domains_separated`).

The associated data of a role opens with an array head of its own, and what follows are fields that
a decoder could read one after the other. The labels differ in the byte at 23.
-/

namespace Librarian.Core

open Librarian.Format
open Cursor (Reads)

/-! ## Fields -/

section

variable {rest rest' : List UInt8}

theorem bytes_append_inj {n : ℕ} (hn : n < 2 ^ 64) {value value' : Bytes n} :
    Cbor.bytes value.val ++ rest = Cbor.bytes value'.val ++ rest' ↔ value = value' ∧ rest = rest' :=
  Reads.append_inj (fun value : Bytes n => Cbor.bytes value.val)
    (decodeFixedBytes_reads hn value) (decodeFixedBytes_reads hn value')

theorem encodeU32_append_inj {value value' : UInt32} :
    encodeU32 value ++ rest = encodeU32 value' ++ rest' ↔ value = value' ∧ rest = rest' :=
  Reads.append_inj encodeU32 (decodeU32_reads value) (decodeU32_reads value')

/-- A credential id may have any length up to the limit; its head says which. -/
theorem credentialId_append_inj {value value' : List UInt8}
    (hvalue : value.length ≤ maxWindowsHelloCredentialIdBytes)
    (hvalue' : value'.length ≤ maxWindowsHelloCredentialIdBytes) :
    Cbor.bytes value ++ rest = Cbor.bytes value' ++ rest' ↔ value = value' ∧ rest = rest' :=
  have hmax : maxWindowsHelloCredentialIdBytes < 2 ^ 64 := by decide
  Reads.append_inj Cbor.bytes (decodeBoundedBytes_reads hmax hvalue)
    (decodeBoundedBytes_reads hmax hvalue')

theorem masterWrapper_append_inj {wrapper wrapper' : MasterWrapper} :
    encodeMasterWrapper wrapper ++ rest = encodeMasterWrapper wrapper' ++ rest' ↔
      wrapper = wrapper' ∧ rest = rest' :=
  Reads.append_inj encodeMasterWrapper (decodeMasterWrapper_reads wrapper)
    (decodeMasterWrapper_reads wrapper')

theorem recoveryWrapper_append_inj {wrapper wrapper' : RecoveryWrapper} :
    encodeRecoveryWrapper wrapper ++ rest = encodeRecoveryWrapper wrapper' ++ rest' ↔
      wrapper = wrapper' ∧ rest = rest' :=
  Reads.append_inj encodeRecoveryWrapper (decodeRecoveryWrapper_reads wrapper)
    (decodeRecoveryWrapper_reads wrapper')

end

/-! ## Associated data -/

/-- A call of one of the encoders of associated data. A protector can only be built by
`WindowsHelloProtector::new`. -/
inductive AssociatedData
  | masterWrapper (vault_id : Bytes 16) (key_epoch : UInt32) (salt : Bytes 16)
  | recoveryWrapper (vault_id : Bytes 16) (key_epoch : UInt32)
  | windowsHelloWrapper (protector : WindowsHelloProtector)
      (built : WindowsHelloProtector.new protector = .ok protector)
  | manifest (header : VaultHeader) (nonce : Bytes 24)
  | record (vault_id record_id : Bytes 16) (key_epoch : UInt32)

namespace AssociatedData

/-- The encoder's result. -/
def encode : AssociatedData → List UInt8
  | masterWrapper vault_id key_epoch salt => encodeMasterWrapperAad vault_id key_epoch salt
  | recoveryWrapper vault_id key_epoch => encodeRecoveryWrapperAad vault_id key_epoch
  | windowsHelloWrapper protector _ => encodeWindowsHelloWrapperAad protector
  | manifest header nonce => encodeManifestAad header nonce
  | record vault_id record_id key_epoch => encodeRecordAad vault_id record_id key_epoch

/-- The two calls are of one encoder, with the same bound parameters. A protector's wrapped key is
what its associated data protects, so it is not one of them. -/
def SameBinding : AssociatedData → AssociatedData → Prop
  | windowsHelloWrapper protector _, windowsHelloWrapper protector' _ =>
    { protector with wrapped_vrk := protector'.wrapped_vrk } = protector'
  | data, data' => data = data'

/-- The number of items in the array that the encoder writes. -/
def items : AssociatedData → ℕ
  | masterWrapper .. => 17
  | recoveryWrapper .. => 11
  | windowsHelloWrapper .. => 14
  | manifest .. => 3
  | record .. => 6

/-- Associated data opens with the head of its array. -/
theorem encode_head (data : AssociatedData) :
    ∃ fields, data.encode = Cbor.array data.items ++ fields := by
  cases data <;>
    simp only [encode, encodeMasterWrapperAad, encodeRecoveryWrapperAad, encodeManifestAad,
      encodeWindowsHelloWrapperAad, encodeRecordAad, items, List.append_assoc] <;>
    exact ⟨_, rfl⟩

theorem items_eq {data data' : AssociatedData} (h : data.encode = data'.encode) :
    data.items = data'.items := by
  have hitems : ∀ data : AssociatedData, data.items < 2 ^ 64 := by
    rintro (_ | _ | _ | _ | _) <;> norm_num [items]
  obtain ⟨fields, hfields⟩ := data.encode_head
  obtain ⟨fields', hfields'⟩ := data'.encode_head
  rw [hfields, hfields'] at h
  have hread := decodeArrayLen_reads (hitems data)
  have hread' := decodeArrayLen_reads (hitems data')
  exact (hread.unambiguous hread' h).1

end AssociatedData

/-- What ends an encoding is followed by nothing. -/
theorem bytes_inj {n : ℕ} (hn : n < 2 ^ 64) {value value' : Bytes n}
    (h : Cbor.bytes value.val = Cbor.bytes value'.val) : value = value' := by
  have happend : Cbor.bytes value.val ++ [] = Cbor.bytes value'.val ++ [] := by rw [h]
  exact ((bytes_append_inj hn).mp happend).1

theorem encodeMasterWrapperAad_inj {vault_id vault_id' salt salt' : Bytes 16}
    {key_epoch key_epoch' : UInt32}
    (h : encodeMasterWrapperAad vault_id key_epoch salt =
      encodeMasterWrapperAad vault_id' key_epoch' salt') :
    vault_id = vault_id' ∧ key_epoch = key_epoch' ∧ salt = salt' := by
  simp only [encodeMasterWrapperAad, List.append_assoc, List.append_cancel_left_eq] at h
  obtain ⟨hvault, h⟩ := (bytes_append_inj (by norm_num)).mp h
  obtain ⟨hepoch, h⟩ := encodeU32_append_inj.mp h
  simp only [List.append_cancel_left_eq] at h
  exact ⟨hvault, hepoch, bytes_inj (by norm_num) h⟩

theorem encodeRecoveryWrapperAad_inj {vault_id vault_id' : Bytes 16} {key_epoch key_epoch' : UInt32}
    (h : encodeRecoveryWrapperAad vault_id key_epoch =
      encodeRecoveryWrapperAad vault_id' key_epoch') :
    vault_id = vault_id' ∧ key_epoch = key_epoch' := by
  simp only [encodeRecoveryWrapperAad, List.append_assoc, List.append_cancel_left_eq] at h
  obtain ⟨hvault, h⟩ := (bytes_append_inj (by norm_num)).mp h
  exact ⟨hvault, (encodeU32_append_inj.mp h).1⟩

theorem encodeWindowsHelloWrapperAad_inj {protector protector' : WindowsHelloProtector}
    (hbuilt : WindowsHelloProtector.new protector = .ok protector)
    (hbuilt' : WindowsHelloProtector.new protector' = .ok protector')
    (h : encodeWindowsHelloWrapperAad protector = encodeWindowsHelloWrapperAad protector') :
    { protector with wrapped_vrk := protector'.wrapped_vrk } = protector' := by
  simp only [encodeWindowsHelloWrapperAad, encodeWindowsHelloBindingInto,
    List.append_cancel_left_eq] at h
  obtain ⟨hvault, h⟩ := (bytes_append_inj (by norm_num)).mp h
  obtain ⟨hepoch, h⟩ := encodeU32_append_inj.mp h
  obtain ⟨hinstallation, h⟩ := (bytes_append_inj (by norm_num)).mp h
  have hlength := (WindowsHelloProtector.new_eq_ok.mp hbuilt).2.1
  have hlength' := (WindowsHelloProtector.new_eq_ok.mp hbuilt').2.1
  obtain ⟨hcredential, h⟩ := (credentialId_append_inj hlength hlength').mp h
  obtain ⟨hsalt, h⟩ := (bytes_append_inj (by norm_num)).mp h
  have hnonce := bytes_inj (by norm_num) h
  rw [hvault, hepoch, hinstallation, hcredential, hsalt, hnonce]

theorem encodeHeaderInto_append_inj {header header' : VaultHeader} {rest rest' : List UInt8}
    (h : encodeHeaderInto header ++ rest = encodeHeaderInto header' ++ rest') :
    header = header' ∧ rest = rest' := by
  simp only [encodeHeaderInto, List.append_assoc, List.append_cancel_left_eq] at h
  obtain ⟨hvault, h⟩ := (bytes_append_inj (by norm_num)).mp h
  obtain ⟨hepoch, h⟩ := encodeU32_append_inj.mp h
  obtain ⟨hmaster, h⟩ := masterWrapper_append_inj.mp h
  obtain ⟨hrecovery, h⟩ := recoveryWrapper_append_inj.mp h
  refine ⟨?_, h⟩
  cases header
  cases header'
  simp only [VaultHeader.mk.injEq]
  exact ⟨hvault, hepoch, hmaster, hrecovery⟩

theorem encodeManifestAad_inj {header header' : VaultHeader} {nonce nonce' : Bytes 24}
    (h : encodeManifestAad header nonce = encodeManifestAad header' nonce') :
    header = header' ∧ nonce = nonce' := by
  simp only [encodeManifestAad, List.append_assoc, List.append_cancel_left_eq] at h
  obtain ⟨hheader, h⟩ := encodeHeaderInto_append_inj h
  simp only [List.append_cancel_left_eq] at h
  exact ⟨hheader, bytes_inj (by norm_num) h⟩

theorem encodeRecordAad_inj {vault_id vault_id' record_id record_id' : Bytes 16}
    {key_epoch key_epoch' : UInt32}
    (h : encodeRecordAad vault_id record_id key_epoch =
      encodeRecordAad vault_id' record_id' key_epoch') :
    vault_id = vault_id' ∧ record_id = record_id' ∧ key_epoch = key_epoch' := by
  simp only [encodeRecordAad, List.append_assoc, List.append_cancel_left_eq] at h
  obtain ⟨hvault, h⟩ := (bytes_append_inj (by norm_num)).mp h
  obtain ⟨hrecord, h⟩ := (bytes_append_inj (by norm_num)).mp h
  have happend : encodeU32 key_epoch ++ [] = encodeU32 key_epoch' ++ [] := by rw [h]
  exact ⟨hvault, hrecord, (encodeU32_append_inj.mp happend).1⟩

/-- Associated data is equal only for one encoder with the same bound parameters. -/
theorem AssociatedData.encode_inj {data data' : AssociatedData} (h : data.encode = data'.encode) :
    data.SameBinding data' := by
  have hitems := items_eq h
  cases data <;> cases data' <;> simp only [items] at hitems <;> try omega
  case masterWrapper.masterWrapper =>
    obtain ⟨rfl, rfl, rfl⟩ := encodeMasterWrapperAad_inj h
    rfl
  case recoveryWrapper.recoveryWrapper =>
    obtain ⟨rfl, rfl⟩ := encodeRecoveryWrapperAad_inj h
    rfl
  case windowsHelloWrapper.windowsHelloWrapper protector hbuilt protector' hbuilt' =>
    exact encodeWindowsHelloWrapperAad_inj hbuilt hbuilt' h
  case manifest.manifest =>
    obtain ⟨rfl, rfl⟩ := encodeManifestAad_inj h
    rfl
  case record.record =>
    obtain ⟨rfl, rfl, rfl⟩ := encodeRecordAad_inj h
    rfl

/-- The wrapped key of a protector is no part of its associated data. -/
theorem AssociatedData.encode_eq {data data' : AssociatedData} (h : data.SameBinding data') :
    data.encode = data'.encode := by
  cases data <;> cases data' <;> first | exact congrArg encode h | skip
  case windowsHelloWrapper.windowsHelloWrapper protector hbuilt protector' hbuilt' =>
    have hbinding : { protector with wrapped_vrk := protector'.wrapped_vrk } = protector' := h
    calc encodeWindowsHelloWrapperAad protector
        = encodeWindowsHelloWrapperAad
            { protector with wrapped_vrk := protector'.wrapped_vrk } := rfl
      _ = encodeWindowsHelloWrapperAad protector' := by rw [hbinding]

/-! ## Labels -/

/-- What a key is derived for. -/
inductive KeyPurpose
  | masterWrap
  | recoveryWrap
  | windowsHelloWrap
  | manifest (key_epoch : UInt32)
  | record (record_id : RecordId) (key_epoch : UInt32)
  deriving DecidableEq

namespace KeyPurpose

/-- The label that `derive_key` is called with. -/
def label : KeyPurpose → List UInt8
  | masterWrap => Utf8.encode "librarian/vault/v1/master-wrap"
  | recoveryWrap => Utf8.encode "librarian/vault/v1/recovery-wrap"
  | windowsHelloWrap => Utf8.encode "librarian/vault/v1/windows-hello-wrap"
  | manifest key_epoch =>
    Utf8.encode "librarian/vault/v1/manifest/" ++ BigEndian.encode 4 key_epoch.toNat
  | record record_id key_epoch =>
    Utf8.encode "librarian/vault/v1/record/" ++ record_id.val ++
      BigEndian.encode 4 key_epoch.toNat

/-- The byte at 23: every label begins with the same 19 bytes, and here all five names differ. -/
def mark : KeyPurpose → UInt8
  | masterWrap => 0x65
  | recoveryWrap => 0x76
  | windowsHelloWrap => 0x6f
  | manifest _ => 0x66
  | record _ _ => 0x72

theorem label_mark (purpose : KeyPurpose) : purpose.label[23]? = some purpose.mark := by
  have hmanifest : (Utf8.encode "librarian/vault/v1/manifest/").length = 28 := by decide
  have hrecord : (Utf8.encode "librarian/vault/v1/record/").length = 26 := by decide
  cases purpose with
  | masterWrap => decide
  | recoveryWrap => decide
  | windowsHelloWrap => decide
  | manifest key_epoch =>
    rw [label, List.getElem?_append_left (by omega)]
    rfl
  | record record_id key_epoch =>
    rw [label, List.append_assoc, List.getElem?_append_left (by omega)]
    rfl

theorem epoch_inj {key_epoch key_epoch' : UInt32}
    (h : BigEndian.encode 4 key_epoch.toNat = BigEndian.encode 4 key_epoch'.toNat) :
    key_epoch = key_epoch' :=
  UInt32.toNat_inj.mp (BigEndian.encode_inj key_epoch.toNat_lt key_epoch'.toNat_lt h)

/-- Labels are equal only for one purpose, record and key epoch. -/
theorem label_inj {purpose purpose' : KeyPurpose} (h : purpose.label = purpose'.label) :
    purpose = purpose' := by
  have hmark : purpose.mark = purpose'.mark := by
    apply Option.some.inj
    rw [← label_mark, ← label_mark, h]
  cases purpose <;> cases purpose' <;> simp [mark] at hmark <;> try rfl
  case manifest.manifest =>
    rw [epoch_inj (List.append_cancel_left h)]
  case record.record record_id key_epoch record_id' key_epoch' =>
    simp only [label, List.append_assoc] at h
    have hlength : record_id.val.length = record_id'.val.length :=
      record_id.property.trans record_id'.property.symm
    obtain ⟨hrecord, hepoch⟩ := List.append_inj (List.append_cancel_left h) hlength
    rw [Subtype.ext hrecord, epoch_inj hepoch]

end KeyPurpose

section

variable (P : Primitives)

/-- Every key of the vault is derived under the label of its purpose. -/
theorem keys_labelled (key key' : Bytes 32) (vault_id : Bytes 16) (vault : UnlockedVault)
    (key_epoch : UInt32) (record_id : RecordId) :
    deriveMasterKek P key vault_id = deriveKey P key.val vault_id KeyPurpose.masterWrap.label ∧
    deriveRecoveryKek P key vault_id = deriveKey P key.val vault_id KeyPurpose.recoveryWrap.label ∧
    deriveWindowsHelloWrappingKey P key key' vault_id =
      deriveKey P (key.val ++ key'.val) vault_id KeyPurpose.windowsHelloWrap.label ∧
    deriveManifestKey P key vault_id key_epoch =
      deriveKey P key.val vault_id (KeyPurpose.manifest key_epoch).label ∧
    deriveRecordKey P vault record_id =
      deriveKey P vault.vault_root_key.val vault.header.vault_id
        (KeyPurpose.record record_id vault.header.key_epoch).label :=
  ⟨rfl, rfl, rfl, rfl, rfl⟩

end

/-- The associated data and the labels of the vault are separated by domain: associated data is
equal for calls of one encoder with the same bound parameters only, labels for one purpose, record
and key epoch only. -/
theorem domains_separated :
    (∀ data data' : AssociatedData, data.encode = data'.encode ↔ data.SameBinding data') ∧
    ∀ purpose purpose' : KeyPurpose, purpose.label = purpose'.label ↔ purpose = purpose' := by
  constructor
  · intro data data'
    exact ⟨AssociatedData.encode_inj, AssociatedData.encode_eq⟩
  · intro purpose purpose'
    exact ⟨KeyPurpose.label_inj, congrArg KeyPurpose.label⟩

end Librarian.Core
