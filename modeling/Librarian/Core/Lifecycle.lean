import Librarian.Core.Session

/-!
# Creating and unlocking a vault
-/

namespace Librarian.Core

open Librarian.Format

/-- `INITIAL_KEY_EPOCH`. -/
def initialKeyEpoch : UInt32 := 1

/-- `MAX_MASTER_PASSWORD_BYTES`. -/
def maxMasterPasswordBytes : ℕ := 1024

/-- A master password: the bytes of a text within the version-1 bound. -/
structure MasterPassword where
  value : String
  bounded : value.utf8ByteSize ≤ maxMasterPasswordBytes

/-- `MasterPassword::new`. -/
def MasterPassword.new (value : String) : Option MasterPassword :=
  if h : value.utf8ByteSize ≤ maxMasterPasswordBytes then some ⟨value, h⟩ else none

/-- The password's bytes, without trimming or normalization. -/
def MasterPassword.bytes (password : MasterPassword) : List UInt8 := Utf8.encode password.value

/-- The deliberately uniform public result of an unlock attempt. -/
inductive UnlockError
  | failed
  | cancelled
  deriving DecidableEq, Repr

/-- Bytes ready for the agent's atomic initial `SQLite` transaction. -/
structure CreatedVault where
  header : List UInt8
  manifest_envelope : List UInt8
  recovery_key : Bytes 32
  session : UnlockedVault

section

variable (P : Primitives)

/-- The key-encryption key of the password wrapper: `derive_key` under `MASTER_WRAP_LABEL`. -/
def deriveMasterKek (password_key : Bytes 32) (vault_id : Bytes 16) : Option (Bytes 32) :=
  deriveKey P password_key.val vault_id (Utf8.encode "librarian/vault/v1/master-wrap")

/-- The key-encryption key of the recovery wrapper: `derive_key` under `RECOVERY_WRAP_LABEL`. -/
def deriveRecoveryKek (recovery_key : Bytes 32) (vault_id : Bytes 16) : Option (Bytes 32) :=
  deriveKey P recovery_key.val vault_id (Utf8.encode "librarian/vault/v1/recovery-wrap")

/-- `create_vault_with_entropy`. -/
def createVault (password : MasterPassword) (created_at_ms : UInt64) :
    Draw CreateVaultError CreatedVault := do
  let vault_id ← randomArray 16
  let vault_root_key ← randomArray 32
  let recovery_key_bytes ← randomArray 32
  let password_salt ← randomArray 16
  let master_nonce ← randomArray 24
  let recovery_nonce ← randomArray 24
  let manifest_nonce ← randomArray 24
  let password_key ← Draw.lift <|
    (derivePasswordKey P password.bytes password_salt).okOr .cryptographicFailure
  let master_kek ← Draw.lift <|
    (deriveMasterKek P password_key vault_id).okOr .cryptographicFailure
  let master_aad := encodeMasterWrapperAad vault_id initialKeyEpoch password_salt
  let master_wrapped_vrk ← Draw.lift <|
    encryptFixedKey P master_kek master_nonce vault_root_key master_aad
  let recovery_kek ← Draw.lift <|
    (deriveRecoveryKek P recovery_key_bytes vault_id).okOr .cryptographicFailure
  let recovery_aad := encodeRecoveryWrapperAad vault_id initialKeyEpoch
  let recovery_wrapped_vrk ← Draw.lift <|
    encryptFixedKey P recovery_kek recovery_nonce vault_root_key recovery_aad
  let header : VaultHeader :=
    { vault_id := vault_id
      key_epoch := initialKeyEpoch
      master_wrapper := ⟨password_salt, master_nonce, master_wrapped_vrk⟩
      recovery_wrapper := ⟨recovery_nonce, recovery_wrapped_vrk⟩ }
  let header_bytes ← Draw.lift <| header.encode.mapErr fun _ => .formatFailure
  let manifest := Manifest.empty created_at_ms initialKeyEpoch
  let manifest_plaintext ← Draw.lift <| manifest.encode.mapErr fun _ => .formatFailure
  let manifest_key ← Draw.lift <|
    (deriveManifestKey P vault_root_key vault_id initialKeyEpoch).okOr .cryptographicFailure
  let manifest_aad := encodeManifestAad header manifest_nonce
  let manifest_ciphertext ← Draw.lift <|
    encryptBytes P manifest_key manifest_nonce manifest_plaintext manifest_aad
  let manifest_envelope ← Draw.lift <|
    (ManifestEnvelope.new manifest_nonce manifest_ciphertext >>= fun value =>
      value.encode).mapErr fun _ => .formatFailure
  -- The produced bytes pass the same parser before the agent publishes them.
  let _ ← Draw.lift <| (VaultHeader.decode header_bytes).mapErr fun _ => .formatFailure
  let _ ← Draw.lift <| (ManifestEnvelope.decode manifest_envelope).mapErr fun _ => .formatFailure
  return {
    header := header_bytes
    manifest_envelope := manifest_envelope
    recovery_key := recovery_key_bytes
    session := ⟨vault_root_key, header, manifest⟩ }

/-- `authenticate_records`, whose calls of `is_cancelled` are numbered from `i` on. -/
def authenticateRecords (vault : UnlockedVault) (records : List EncryptedRecord)
    (cancelled : ℕ → Bool) (i : ℕ) : Except UnlockError Unit := do
  (visitAuthenticatedRecords P vault records (fun j => cancelled (i + j)) (fun _ _ => ())
    ()).mapErr fun
      | .cancelled => .cancelled
      | .failed => .failed
  if cancelled (i + records.length) then throw .cancelled

/-- `authenticate_vault_root_key`, whose calls of `is_cancelled` are numbered from `i` on. -/
def authenticateVaultRootKey (vault_root_key : Bytes 32) (header : VaultHeader)
    (envelope : ManifestEnvelope) (records : List EncryptedRecord) (cancelled : ℕ → Bool)
    (i : ℕ) : Except UnlockError UnlockedVault := do
  let manifest_key ←
    (deriveManifestKey P vault_root_key header.vault_id header.key_epoch).okOr .failed
  let manifest_aad := encodeManifestAad header envelope.nonce
  let manifest_plaintext ←
    (decryptBytes P manifest_key envelope.nonce envelope.ciphertext manifest_aad).okOr .failed
  let manifest ← (Manifest.decode manifest_plaintext).mapErr fun _ => .failed
  if cancelled i then throw .cancelled
  if manifest.key_epoch ≠ header.key_epoch ∨ manifest.vault_schema ≠ vaultSchema then
    throw .failed
  let unlocked : UnlockedVault := ⟨vault_root_key, header, manifest⟩
  authenticateRecords P unlocked records cancelled (i + 1)
  return unlocked

/-- `unlock_vault`. The flag may change at any time, so each call of `is_cancelled` has an answer of
its own. -/
def unlockVault (password : MasterPassword) (snapshot : Snapshot) (cancelled : ℕ → Bool) :
    Except UnlockError UnlockedVault := do
  if cancelled 0 then throw .cancelled
  let header ← (VaultHeader.decode snapshot.header).mapErr fun _ => .failed
  let envelope ← (ManifestEnvelope.decode snapshot.manifest_envelope).mapErr fun _ => .failed
  let password_key ←
    (derivePasswordKey P password.bytes header.master_wrapper.password_salt).okOr .failed
  if cancelled 1 then throw .cancelled
  let master_kek ← (deriveMasterKek P password_key header.vault_id).okOr .failed
  let master_aad := encodeMasterWrapperAad header.vault_id header.key_epoch
    header.master_wrapper.password_salt
  let vault_root_key ← (decryptFixedKey P master_kek header.master_wrapper.nonce
    header.master_wrapper.wrapped_vrk master_aad).okOr .failed
  authenticateVaultRootKey P vault_root_key header envelope snapshot.records cancelled 2

end

end Librarian.Core
