import Librarian.Core.Lifecycle
import Librarian.Core.Mutations

/-!
# What a vault is for: a map of records

The abstract vault is a map from record ids to records and the time of the last commit. A record
counts its updates. The seven mutations are relations on this map: they say which record changes and
how, and nothing about manifests, envelopes or rows.
-/

namespace Librarian.Core

open Librarian.Format

/-- What the user stores in a website account. -/
structure AccountContents where
  service_name : String
  permitted_origin : String
  username : String
  password : String
  deriving DecidableEq

/-- What a passkey record holds besides its history. -/
structure PasskeyContents where
  signature_counter : UInt32
  creation_state : PasskeyCreationState
  rp_id : String
  user_handle : List UInt8
  user_name : String
  user_display_name : String
  credential_id : Bytes 32
  private_key : Bytes 32
  deriving DecidableEq

/-- The two families of records. -/
inductive Contents
  | websiteAccount (contents : AccountContents)
  | passkey (contents : PasskeyContents)
  deriving DecidableEq

/-- A record: its contents, how often it has been updated, and when it was created and last
modified. -/
structure Record where
  updates : ℕ
  created_at_ms : UInt64
  modified_at_ms : UInt64
  contents : Contents
  deriving DecidableEq

/-- The map that a vault stores, and the time of its last commit. -/
structure VaultMap where
  records : RecordId → Option Record
  committed_at_ms : UInt64

namespace VaultMap

/-- The empty vault. -/
def empty (created_at_ms : UInt64) : VaultMap where
  records := fun _ => none
  committed_at_ms := created_at_ms

/-- Stores a record, or removes one, at the given time. -/
def set (V : VaultMap) (id : RecordId) (record : Option Record) (now : UInt64) : VaultMap where
  records := Function.update V.records id record
  committed_at_ms := now

/-- The record under an id is the given passkey. -/
def HasPasskey (V : VaultMap) (id : RecordId) (record : Record) (passkey : PasskeyContents) :
    Prop :=
  V.records id = some record ∧ record.contents = .passkey passkey

/-- Whether the record under an id is a passkey. -/
def isPasskey (V : VaultMap) (id : RecordId) : Bool :=
  match V.records id with
  | some ⟨_, _, _, .passkey _⟩ => true
  | _ => false

@[simp]
theorem set_records_self (V : VaultMap) (id : RecordId) (record : Option Record) (now : UInt64) :
    (V.set id record now).records id = record := by
  simp [set]

theorem set_records_of_ne (V : VaultMap) {id id' : RecordId} (h : id' ≠ id)
    (record : Option Record) (now : UInt64) :
    (V.set id record now).records id' = V.records id' := by
  simp [set, h]

@[simp]
theorem set_committed (V : VaultMap) (id : RecordId) (record : Option Record) (now : UInt64) :
    (V.set id record now).committed_at_ms = now := rfl

end VaultMap

/-- The contents that a website-account input asks for. -/
def WebsiteAccountInput.contents {P : Primitives} (input : WebsiteAccountInput P) :
    AccountContents :=
  ⟨input.service_name, input.permitted_origin, input.username, input.password⟩

/-- The mutations that a session can prepare, with their arguments. -/
inductive Mutation (P : Primitives)
  | addWebsiteAccount (input : WebsiteAccountInput P) (now : UInt64)
  | updateWebsiteAccount (id : RecordId) (input : WebsiteAccountInput P) (now : UInt64)
  | deleteWebsiteAccount (id : RecordId) (now : UInt64)
  | addPasskey (input : PasskeyInput P) (excluded : List (Bytes 32))
      (creation_state : PasskeyCreationState) (now : UInt64)
  | confirmPasskeyCreation (credential_id : Bytes 32) (now : UInt64)
  | passkeyAssertion (rp_id : String) (credential_id client_data_hash : Bytes 32) (now : UInt64)
  | deletePasskey (credential_id : Bytes 32) (now : UInt64)

/-- What each mutation does to the map. The passkey mutations never take the commit time back. -/
inductive VaultMap.Step {P : Primitives} : Mutation P → VaultMap → VaultMap → Prop
  | addWebsiteAccount {V : VaultMap} {input : WebsiteAccountInput P} {now : UInt64}
      (id : RecordId) (fresh : V.records id = none) (time : V.committed_at_ms ≤ now) :
      Step (.addWebsiteAccount input now) V
        (V.set id (some ⟨0, now, now, .websiteAccount input.contents⟩) now)
  | updateWebsiteAccount {V : VaultMap} {id : RecordId} {input : WebsiteAccountInput P}
      {now : UInt64} (record : Record) (contents : AccountContents)
      (present : V.records id = some record) (family : record.contents = .websiteAccount contents)
      (time : V.committed_at_ms ≤ now) :
      Step (.updateWebsiteAccount id input now) V
        (V.set id (some ⟨record.updates + 1, record.created_at_ms, now,
          .websiteAccount input.contents⟩) now)
  | deleteWebsiteAccount {V : VaultMap} {id : RecordId} {now : UInt64} (record : Record)
      (contents : AccountContents) (present : V.records id = some record)
      (family : record.contents = .websiteAccount contents) (time : V.committed_at_ms ≤ now) :
      Step (.deleteWebsiteAccount id now) V (V.set id none now)
  | addPasskey {V : VaultMap} {input : PasskeyInput P} {excluded : List (Bytes 32)}
      {creation_state : PasskeyCreationState} {now : UInt64} (id : RecordId)
      (credential_id private_key : Bytes 32) (fresh : V.records id = none)
      (unused : ∀ id' record passkey, V.HasPasskey id' record passkey →
        passkey.credential_id ≠ credential_id) :
      Step (.addPasskey input excluded creation_state now) V
        (V.set id (some ⟨0, max now V.committed_at_ms, max now V.committed_at_ms,
          .passkey ⟨0, creation_state, input.rp_id, input.user_handle, input.user_name,
            input.user_display_name, credential_id, private_key⟩⟩) (max now V.committed_at_ms))
  | confirmPasskeyCreation {V : VaultMap} {now : UInt64} (id : RecordId) (record : Record)
      (passkey : PasskeyContents) (present : V.HasPasskey id record passkey)
      (pending : passkey.creation_state = .pending) :
      Step (.confirmPasskeyCreation passkey.credential_id now) V
        (V.set id (some ⟨record.updates + 1, record.created_at_ms, max now V.committed_at_ms,
          .passkey { passkey with creation_state := .confirmed }⟩) (max now V.committed_at_ms))
  | passkeyAssertion {V : VaultMap} {rp_id : String} {client_data_hash : Bytes 32} {now : UInt64}
      (id : RecordId) (record : Record) (passkey : PasskeyContents)
      (present : V.HasPasskey id record passkey) (confirmed : passkey.creation_state = .confirmed)
      (relying_party : normalizeRpId P rp_id = .ok passkey.rp_id)
      (counter : passkey.signature_counter.toNat + 1 < 2 ^ 32) :
      Step (.passkeyAssertion rp_id passkey.credential_id client_data_hash now) V
        (V.set id (some ⟨record.updates + 1, record.created_at_ms, max now V.committed_at_ms,
          .passkey { passkey with signature_counter := passkey.signature_counter + 1 }⟩)
          (max now V.committed_at_ms))
  | deletePasskey {V : VaultMap} {now : UInt64} (id : RecordId) (record : Record)
      (passkey : PasskeyContents) (present : V.HasPasskey id record passkey) :
      Step (.deletePasskey passkey.credential_id now) V
        (V.set id none (max now V.committed_at_ms))

/-- A run of mutations from the empty vault. -/
inductive VaultMap.Run {P : Primitives} (created_at_ms : UInt64) :
    List (Mutation P) → VaultMap → Prop
  | create : Run created_at_ms [] (VaultMap.empty created_at_ms)
  | step {mutations : List (Mutation P)} {mutation : Mutation P} {V V' : VaultMap}
      (run : Run created_at_ms mutations V) (step : VaultMap.Step mutation V V') :
      Run created_at_ms (mutations ++ [mutation]) V'

/-! ## The stored vault -/

/-- A session and the stored bytes that it belongs to. -/
structure StoredVault where
  session : UnlockedVault
  snapshot : Snapshot

section

variable {P : Primitives}

/-- Prepares a mutation against the stored bytes. -/
def Mutation.prepare (vault : StoredVault) (should_cancel : ℕ → Bool) (entropy : Entropy) :
    Mutation P → Except RecordOperationError PreparedRecordMutation
  | addWebsiteAccount input now => Prod.fst <$>
    prepareAddWebsiteAccount P vault.session vault.snapshot input now should_cancel entropy
  | updateWebsiteAccount id input now => Prod.fst <$>
    prepareUpdateWebsiteAccount P vault.session vault.snapshot id input now should_cancel entropy
  | deleteWebsiteAccount id now => Prod.fst <$>
    prepareDeleteWebsiteAccount P vault.session vault.snapshot id now should_cancel entropy
  | addPasskey input excluded creation_state now => (fun result => result.1.1) <$>
    prepareAddPasskey P vault.session vault.snapshot input excluded creation_state now
      should_cancel entropy
  | confirmPasskeyCreation credential_id now => Prod.fst <$>
    prepareConfirmPasskeyCreation P vault.session vault.snapshot credential_id now should_cancel
      entropy
  | passkeyAssertion rp_id credential_id client_data_hash now => (fun result => result.1.1) <$>
    preparePasskeyAssertion P vault.session vault.snapshot rp_id credential_id client_data_hash now
      should_cancel entropy
  | deletePasskey credential_id now => Prod.fst <$>
    prepareDeletePasskey P vault.session vault.snapshot credential_id now should_cancel entropy

/-- Writes a prepared mutation to the stored rows and the manifest, and advances the session. -/
def StoredVault.commit (vault : StoredVault) (mutation : PreparedRecordMutation) :
    Option StoredVault :=
  match applyToExpectedRecords vault.snapshot.records mutation,
      commitRecordMutation vault.session mutation with
  | .ok records, .ok (session, _) =>
    some ⟨session, ⟨vault.snapshot.header, mutation.manifest_envelope, records⟩⟩
  | _, _ => none

/-- A run of successful mutations of a vault that `create_vault` has made. -/
inductive StoredVault.Run (P : Primitives) (password : MasterPassword) (created_at_ms : UInt64) :
    List (Mutation P) → StoredVault → Prop
  | create {created : CreatedVault} {entropy rest : Entropy}
      (h : createVault P password created_at_ms entropy = .ok (created, rest)) :
      Run P password created_at_ms []
        ⟨created.session, ⟨created.header, created.manifest_envelope, []⟩⟩
  | step {mutations : List (Mutation P)} {mutation : Mutation P} {vault vault' : StoredVault}
      {should_cancel : ℕ → Bool} {entropy : Entropy} {prepared : PreparedRecordMutation}
      (run : Run P password created_at_ms mutations vault)
      (prepare : mutation.prepare vault should_cancel entropy = .ok prepared)
      (commit : vault.commit prepared = some vault') :
      Run P password created_at_ms (mutations ++ [mutation]) vault'

end

end Librarian.Core
