import Librarian.Core.Reads

/-!
# Preparing and committing record mutations

A mutation is prepared against an authenticated snapshot: the record is encrypted, the manifest's
entries are changed, and the next manifest is sealed. The agent writes the result to the stored rows
(`apply_to_expected_records` says what these then are) and only then advances the session with
`commit_record_mutation`.
-/

namespace Librarian.Core

open Librarian.Format

/-- `MAX_RECORD_ID_ATTEMPTS`. -/
def maxRecordIdAttempts : ℕ := 128

/-- What a mutation does to its row. -/
inductive RecordMutationKind
  | insert
  | update
  | delete
  deriving DecidableEq, Repr

/-- Opaque encrypted mutation that is safe for the agent to persist atomically. -/
structure PreparedRecordMutation where
  kind : RecordMutationKind
  id : RecordId
  envelope : Option (List UInt8)
  manifest_envelope : List UInt8
  expected_generation : UInt64
  next_manifest : Manifest
  deriving DecidableEq

/-- Validated, normalized user input for a website account. The constructor is the only way to make
one, so its origin is the result of a normalisation. -/
structure WebsiteAccountInput (P : Primitives) where
  service_name : String
  permitted_origin : String
  username : String
  password : String
  normalized : ∃ value, normalizeOrigin P value = .ok permitted_origin

/-- `validate_input_lengths`. -/
def validateInputLengths (service_name permitted_origin username password : String) :
    Except WebsiteAccountInputError Unit := do
  if service_name.utf8ByteSize > maxServiceNameBytes ∨
      permitted_origin.utf8ByteSize > maxOriginBytes ∨
      username.utf8ByteSize > maxUsernameBytes ∨ password.utf8ByteSize > maxPasswordBytes then
    throw .fieldTooLarge

/-- `WebsiteAccountInput::new`. -/
def WebsiteAccountInput.new (P : Primitives)
    (service_name permitted_origin username password : String) :
    Except WebsiteAccountInputError (WebsiteAccountInput P) := do
  validateInputLengths service_name permitted_origin username password
  if service_name = "" ∨ hasControl service_name then throw .invalidServiceName
  match h : normalizeOrigin P permitted_origin with
  | .ok origin => return ⟨service_name, origin, username, password, permitted_origin, h⟩
  | .error e => throw e

/-- Validated passkey user and relying-party input. The constructor is the only way to make one, so
its relying-party identifier is its own normalisation. -/
structure PasskeyInput (P : Primitives) where
  rp_id : String
  user_handle : List UInt8
  user_name : String
  user_display_name : String
  normalized : normalizeRpId P rp_id = .ok rp_id

/-- `PasskeyInput::new`. -/
def PasskeyInput.new (P : Primitives) (rp_id : String) (user_handle : List UInt8)
    (user_name user_display_name : String) : Except PasskeyInputError (PasskeyInput P) := do
  if rp_id.utf8ByteSize > maxPasskeyRpIdBytes ∨
      user_handle.length > maxPasskeyUserHandleBytes ∨
      user_name.utf8ByteSize > maxPasskeyUserNameBytes ∨
      user_display_name.utf8ByteSize > maxPasskeyUserDisplayNameBytes then
    throw .fieldTooLarge
  if user_handle = [] ∨ user_name = "" ∨ user_display_name = "" ∨ hasControl user_name ∨
      hasControl user_display_name then
    throw .invalidUser
  match h : normalizeRpId P rp_id with
  | .ok normalized =>
    if heq : normalized = rp_id then
      return ⟨rp_id, user_handle, user_name, user_display_name, heq ▸ h⟩
    else throw .invalidRpId
  | .error e => throw e

/-- Public material returned after a passkey is durably committed. -/
structure PasskeyCredential where
  credential_id : Bytes 32
  user_handle : List UInt8
  public_key : Bytes 65
  deriving DecidableEq

/-- Transaction-bound assertion produced without releasing private material. -/
structure PasskeyAssertion where
  credential_id : Bytes 32
  user_handle : List UInt8
  authenticator_data : List UInt8
  signature_der : List UInt8
  deriving DecidableEq

/-- A preparation draws random bytes and can fail. -/
abbrev Prepare (α : Type) : Type := Draw RecordOperationError α

/-- `random_array(entropy).map_err(|_| RecordOperationError::Failed)`. -/
def randomArrayOrFailed (n : ℕ) : Prepare (Bytes n) := fun entropy =>
  (randomArray n entropy).mapErr fun _ => .failed

/-- The `find_map` of `allocate_record_id` and `allocate_credential_id`: the first candidate that
is accepted, within the given number of attempts. -/
def allocate {n : ℕ} (accept : Bytes n → Bool) : ℕ → Prepare (Bytes n)
  | 0 => throw .failed
  | attempts + 1 => fun entropy =>
    match randomArray? n entropy with
    | (some candidate, rest) =>
      if accept candidate then .ok (candidate, rest) else allocate accept attempts rest
    | (none, rest) => allocate accept attempts rest

/-- `passkey_manifest_time`. -/
def passkeyManifestTime (manifest_committed_at_ms wall_clock_ms : UInt64) : UInt64 :=
  max wall_clock_ms manifest_committed_at_ms

/-- `passkey_update_time`. -/
def passkeyUpdateTime (created_at_ms manifest_committed_at_ms wall_clock_ms : UInt64) : UInt64 :=
  max (passkeyManifestTime manifest_committed_at_ms wall_clock_ms) created_at_ms

section

variable (P : Primitives) (vault : UnlockedVault)

/-- `allocate_record_id`. -/
def allocateRecordId : Prepare RecordId :=
  allocate (fun candidate => !vault.manifest.entries.any fun entry => entry.record_id = candidate)
    maxRecordIdAttempts

/-- `allocate_credential_id`. -/
def allocateCredentialId (existing : List (Bytes 32)) : Prepare (Bytes 32) :=
  allocate (fun candidate => !candidate.isZero && candidate ∉ existing) maxRecordIdAttempts

/-- The loop of `generate_signing_key`; unlike the identifiers it gives up at a failed `fill`. -/
def generateSigningKeyLoop : ℕ → Prepare (Bytes 32)
  | 0 => throw .failed
  | attempts + 1 => do
    let candidate ← randomArrayOrFailed 32
    if P.signingKey candidate then return candidate
    generateSigningKeyLoop attempts

/-- `generate_signing_key`. -/
def generateSigningKey : Prepare (Bytes 32) := generateSigningKeyLoop P maxRecordIdAttempts

/-- `prepare_manifest_mutation`. -/
def prepareManifestMutation (kind : RecordMutationKind) (id : RecordId)
    (envelope : Option (List UInt8)) (entries : List ManifestEntry) (committed_at_ms : UInt64) :
    Prepare PreparedRecordMutation := do
  let next_manifest ← Draw.lift <|
    (vault.manifest.nextGeneration committed_at_ms entries).mapErr fun _ => .failed
  let manifest_plaintext ← Draw.lift <| next_manifest.encode.mapErr fun _ => .failed
  let nonce ← randomArrayOrFailed 24
  let manifest_key ← Draw.lift <| (deriveManifestKey P vault.vault_root_key
    vault.header.vault_id vault.header.key_epoch).okOr .failed
  let aad := encodeManifestAad vault.header nonce
  let ciphertext ← Draw.lift <|
    (encryptBytes P manifest_key nonce manifest_plaintext aad).mapErr fun _ => .failed
  let manifest_envelope ← Draw.lift <| (ManifestEnvelope.new nonce ciphertext >>= fun value =>
    value.encode).mapErr fun _ => .failed
  return {
    kind := kind
    id := id
    envelope := envelope
    manifest_envelope := manifest_envelope
    expected_generation := vault.manifest.generation
    next_manifest := next_manifest }

/-- The change of the entries in `prepare_plaintext_upsert`, before they are sorted. -/
def upsertEntries (kind : RecordMutationKind) (entry : ManifestEntry)
    (entries : List ManifestEntry) : Except RecordOperationError (List ManifestEntry) :=
  match kind with
  | .insert => .ok (entries ++ [entry])
  | .update => (Keyed.replaceFirst ManifestEntry.record_id entry entries).okOr .notFound
  | .delete => .error .failed

/-- `prepare_plaintext_upsert`. -/
def preparePlaintextUpsert (kind : RecordMutationKind) (id : RecordId)
    (plaintext_bytes : List UInt8) (committed_at_ms : UInt64) :
    Prepare PreparedRecordMutation := do
  let nonce ← randomArrayOrFailed 24
  let record_key ← Draw.lift <| (deriveRecordKey P vault id).okOr .failed
  let aad := encodeRecordAad vault.header.vault_id id vault.header.key_epoch
  let ciphertext ← Draw.lift <|
    (encryptBytes P record_key nonce plaintext_bytes aad).mapErr fun _ => .failed
  let envelope ← Draw.lift <| (RecordEnvelope.new vault.header.key_epoch nonce ciphertext >>=
    fun value => value.encode).mapErr fun _ => .failed
  let entries ← Draw.lift <|
    upsertEntries kind ⟨id, P.sha256 envelope⟩ vault.manifest.entries
  prepareManifestMutation P vault kind id (some envelope)
    (Keyed.sortByKey ManifestEntry.record_id entries) committed_at_ms

/-- `prepare_upsert`. -/
def prepareUpsert (kind : RecordMutationKind) (id : RecordId) (revision created_at_ms : UInt64)
    (input : WebsiteAccountInput P) (committed_at_ms : UInt64) :
    Prepare PreparedRecordMutation := do
  let plaintext ← Draw.lift <| (WebsiteAccountPlaintext.new
    { revision := revision
      created_at_ms := created_at_ms
      modified_at_ms := committed_at_ms
      service_name := input.service_name
      permitted_origin := input.permitted_origin
      username := input.username
      password := input.password }).mapErr fun _ => .failed
  let plaintext_bytes ← Draw.lift <| plaintext.encode.mapErr fun _ => .failed
  preparePlaintextUpsert P vault kind id plaintext_bytes committed_at_ms

/-- `prepare_add_with_entropy`. -/
def prepareAddWithEntropy (input : WebsiteAccountInput P) (committed_at_ms : UInt64) :
    Prepare PreparedRecordMutation := do
  if vault.manifest.entries.length ≥ maxRecords then throw .failed
  let id ← allocateRecordId vault
  prepareUpsert P vault .insert id 1 committed_at_ms input committed_at_ms

variable (snapshot : Snapshot)

/-- `prepare_add_website_account_with_check`. -/
def prepareAddWebsiteAccount (input : WebsiteAccountInput P) (committed_at_ms : UInt64)
    (should_cancel : ℕ → Bool) : Prepare PreparedRecordMutation := do
  Draw.lift <| visitSnapshot P vault snapshot should_cancel (fun _ _ => ()) ()
  prepareAddWithEntropy P vault input committed_at_ms

/-- `prepare_update_website_account_with_check`. -/
def prepareUpdateWebsiteAccount (id : RecordId) (input : WebsiteAccountInput P)
    (committed_at_ms : UInt64) (should_cancel : ℕ → Bool) : Prepare PreparedRecordMutation := do
  let account ← Draw.lift <| getWebsiteAccount P vault snapshot id should_cancel
  let revision ← Draw.lift <| (checkedSucc account.revision).okOr .failed
  prepareUpsert P vault .update id revision account.created_at_ms input committed_at_ms

/-- `prepare_delete_website_account_with_check`. -/
def prepareDeleteWebsiteAccount (id : RecordId) (committed_at_ms : UInt64)
    (should_cancel : ℕ → Bool) : Prepare PreparedRecordMutation := do
  let _ ← Draw.lift <| getWebsiteAccount P vault snapshot id should_cancel
  let entries := Keyed.eraseKey ManifestEntry.record_id id vault.manifest.entries
  if entries.length = vault.manifest.entries.length then throw .notFound
  prepareManifestMutation P vault .delete id none entries committed_at_ms

/-- The accumulator of `prepare_add_passkey`. -/
structure AddPasskeyState where
  conflict : Bool
  existing_credential_ids : List (Bytes 32)
  invalid : Bool

/-- The callback of `prepare_add_passkey`. -/
def noteExisting (rp_id : String) (excluded : List (Bytes 32)) (state : AddPasskeyState)
    (record : DecryptedRecord) : AddPasskeyState :=
  match record with
  | .websiteAccount _ => state
  | .passkey passkey =>
    if passkey.credential_id ∈ state.existing_credential_ids then { state with invalid := true }
    else
      { state with
        existing_credential_ids := passkey.credential_id :: state.existing_credential_ids
        conflict :=
          if passkey.rp_id = rp_id ∧ passkey.credential_id ∈ excluded then true
          else state.conflict }

/-- `has_passkey_capacity`. -/
def hasPasskeyCapacity (existing : ℕ) : Bool := existing < maxPasskeyCredentials

/-- `prepare_add_passkey_with_check`. -/
def prepareAddPasskey (input : PasskeyInput P) (excluded : List (Bytes 32))
    (creation_state : PasskeyCreationState) (wall_clock_ms : UInt64)
    (should_cancel : ℕ → Bool) : Prepare (PreparedRecordMutation × PasskeyCredential) := do
  let state ← Draw.lift <| visitSnapshot P vault snapshot should_cancel
    (noteExisting input.rp_id excluded) ⟨false, [], false⟩
  if state.invalid ∨ ¬hasPasskeyCapacity state.existing_credential_ids.length then throw .failed
  if state.conflict then throw .conflict
  if vault.manifest.entries.length ≥ maxRecords then throw .failed
  let committed_at_ms := passkeyManifestTime vault.manifest.committed_at_ms wall_clock_ms
  let id ← allocateRecordId vault
  let credential_id ← allocateCredentialId state.existing_credential_ids
  let private_key ← generateSigningKey P
  if ¬P.signingKey private_key then throw .failed
  let public_key ← Draw.lift <| (Bytes.ofList? 65 (P.publicKey private_key)).okOr .failed
  let plaintext ← Draw.lift <| (PasskeyPlaintext.new
    { revision := 1
      created_at_ms := committed_at_ms
      modified_at_ms := committed_at_ms
      signature_counter := 0
      creation_state := creation_state
      rp_id := input.rp_id
      user_handle := input.user_handle
      user_name := input.user_name
      user_display_name := input.user_display_name
      credential_id := credential_id
      private_key := private_key }).mapErr fun _ => .failed
  let plaintext_bytes ← Draw.lift <| plaintext.encode.mapErr fun _ => .failed
  let mutation ← preparePlaintextUpsert P vault .insert id plaintext_bytes committed_at_ms
  return (mutation, ⟨credential_id, input.user_handle, public_key⟩)

/-- The callback of the three operations on one passkey: the last passkey with the credential id,
and whether there have been several. -/
def findPasskey (credential_id : Bytes 32) (state : Option PasskeyRecord × Bool)
    (record : DecryptedRecord) : Option PasskeyRecord × Bool :=
  match record with
  | .websiteAccount _ => state
  | .passkey passkey =>
    if passkey.credential_id = credential_id then (some passkey, state.2 || state.1.isSome)
    else state

/-- The new version of a passkey record: the next revision, at the update time. -/
def rewritePasskey (passkey : PasskeyRecord) (revision : UInt64) (signature_counter : UInt32)
    (wall_clock_ms : UInt64) : Prepare PreparedRecordMutation := do
  let committed_at_ms := passkeyUpdateTime passkey.created_at_ms vault.manifest.committed_at_ms
    wall_clock_ms
  let plaintext ← Draw.lift <| (PasskeyPlaintext.new
    { revision := revision
      created_at_ms := passkey.created_at_ms
      modified_at_ms := committed_at_ms
      signature_counter := signature_counter
      creation_state := .confirmed
      rp_id := passkey.rp_id
      user_handle := passkey.user_handle
      user_name := passkey.user_name
      user_display_name := passkey.user_display_name
      credential_id := passkey.credential_id
      private_key := passkey.private_key }).mapErr fun _ => .failed
  let plaintext_bytes ← Draw.lift <| plaintext.encode.mapErr fun _ => .failed
  preparePlaintextUpsert P vault .update passkey.id plaintext_bytes committed_at_ms

/-- `prepare_confirm_passkey_creation_with_check`. -/
def prepareConfirmPasskeyCreation (credential_id : Bytes 32) (wall_clock_ms : UInt64)
    (should_cancel : ℕ → Bool) : Prepare PreparedRecordMutation := do
  let (found, duplicate) ← Draw.lift <| visitSnapshot P vault snapshot should_cancel
    (findPasskey credential_id) (none, false)
  if duplicate then throw .failed
  let passkey ← Draw.lift <| found.okOr .notFound
  if passkey.creation_state ≠ .pending then throw .conflict
  let next_revision ← Draw.lift <| (checkedSucc passkey.revision).okOr .conflict
  rewritePasskey P vault passkey next_revision passkey.signature_counter wall_clock_ms

/-- `checked_add(1)` on a `u32`. -/
def checkedSucc32 (value : UInt32) : Option UInt32 :=
  if value.toNat + 1 < 2 ^ 32 then some (value + 1) else none

/-- The authenticator data of an assertion: the hash of the relying party, the flags for user
presence, user verification and backup eligibility, and the counter. -/
def authenticatorData (rp_id : String) (counter : UInt32) : List UInt8 :=
  (P.sha256 (Utf8.encode rp_id)).val ++ [0x01 ||| 0x04 ||| 0x08] ++
    BigEndian.encode 4 counter.toNat

/-- `prepare_passkey_assertion_with_check`. The relying-party identifier is normalised after the
metadata is authenticated and before the records are. -/
def preparePasskeyAssertion (rp_id : String) (credential_id client_data_hash : Bytes 32)
    (wall_clock_ms : UInt64) (should_cancel : ℕ → Bool) :
    Prepare (PreparedRecordMutation × PasskeyAssertion) := do
  Draw.lift <|
    authenticateSnapshotMetadata P vault snapshot.header snapshot.manifest_envelope
  let expected_rp_id ← Draw.lift <| (normalizeRpId P rp_id).mapErr fun _ => .conflict
  let (found, duplicate) ← Draw.lift <| (visitAuthenticatedRecords P vault snapshot.records
    should_cancel (findPasskey credential_id) (none, false)).mapErr mapSnapshotOperationError
  if duplicate then throw .failed
  let passkey ← Draw.lift <| found.okOr .notFound
  if passkey.creation_state ≠ .confirmed then throw .notFound
  if passkey.rp_id ≠ expected_rp_id then throw .conflict
  let next_revision ← Draw.lift <| (checkedSucc passkey.revision).okOr .conflict
  let next_counter ← Draw.lift <| (checkedSucc32 passkey.signature_counter).okOr .conflict
  let authenticator_data := authenticatorData P expected_rp_id next_counter
  if ¬P.signingKey passkey.private_key then throw .failed
  let signature_der := P.sign passkey.private_key (authenticator_data ++ client_data_hash.val)
  let mutation ← rewritePasskey P vault passkey next_revision next_counter wall_clock_ms
  return (mutation, ⟨credential_id, passkey.user_handle, authenticator_data, signature_der⟩)

/-- `prepare_delete_passkey_with_check`. -/
def prepareDeletePasskey (credential_id : Bytes 32) (wall_clock_ms : UInt64)
    (should_cancel : ℕ → Bool) : Prepare PreparedRecordMutation := do
  let (found, duplicate) ← Draw.lift <| visitSnapshot P vault snapshot should_cancel
    (findPasskey credential_id) (none, false)
  if duplicate then throw .failed
  let passkey ← Draw.lift <| found.okOr .notFound
  let committed_at_ms := passkeyManifestTime vault.manifest.committed_at_ms wall_clock_ms
  prepareManifestMutation P vault .delete passkey.id none
    (Keyed.eraseKey ManifestEntry.record_id passkey.id vault.manifest.entries) committed_at_ms

end

/-! ## Committing -/

/-- `commit_record_mutation`. -/
def commitRecordMutation (vault : UnlockedVault) (mutation : PreparedRecordMutation) :
    Except RecordOperationError (UnlockedVault × RecordId) := do
  if vault.manifest.generation ≠ mutation.expected_generation then throw .failed
  let expected ← (checkedSucc mutation.expected_generation).okOr .failed
  if mutation.next_manifest.generation ≠ expected then throw .failed
  return ({ vault with manifest := mutation.next_manifest }, mutation.id)

/-- Failures of the storage layer that the row update reports. -/
inductive StorageError
  | schema
  | conflict
  deriving DecidableEq, Repr

/-- `apply_to_expected_records`: the rows of the database after the mutation's transaction, which
the agent compares with what it reads back. -/
def applyToExpectedRecords (records : List EncryptedRecord) (mutation : PreparedRecordMutation) :
    Except StorageError (List EncryptedRecord) := do
  let expected ←
    match mutation.kind with
    | .insert => do
      let envelope ← mutation.envelope.okOr .schema
      pure (records ++ [⟨mutation.id, envelope⟩])
    | .update => do
      let envelope ← mutation.envelope.okOr .schema
      (Keyed.replaceFirst EncryptedRecord.id ⟨mutation.id, envelope⟩ records).okOr .conflict
    | .delete => do
      let expected := Keyed.eraseKey EncryptedRecord.id mutation.id records
      if expected.length = records.length then throw .conflict
      pure expected
  return Keyed.sortByKey EncryptedRecord.id expected

end Librarian.Core
