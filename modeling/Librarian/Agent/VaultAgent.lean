import Librarian.Core.Lifecycle
import Librarian.Core.Mutations

/-!
# The vault agent

`VaultAgent` owns the unlocked session. Each of its operations on records first loads the stored
bytes and compares them with those that it has authenticated, then hands them to the core, and drops
the session at every failure that is not the request's own. Storage is outside of the model: what a
read of the vault file returns is an argument here.
-/

namespace Librarian.Agent

open Librarian.Core Librarian.Format

/-- `u64::MAX`. -/
def u64Max : ℕ := 2 ^ 64 - 1

/-- `checked_add(1)` on a `u64`. -/
def checkedAddOne (value : ℕ) : Option ℕ := if value < u64Max then some (value + 1) else none

/-- A non-secret capability snapshot for one in-process operation. -/
structure OperationPermit where
  session_id : ℕ
  authorization_epoch : ℕ
  deriving DecidableEq

/-- The local agent's vault lifecycle state. -/
structure VaultAgent where
  session : Option UnlockedVault
  authenticated_header : Option (List UInt8)
  authenticated_manifest : Option (List UInt8)
  session_id : Option ℕ
  authorization_epoch : ℕ
  deriving DecidableEq

/-- Failures of record operations. -/
inductive AccountError
  | locked
  | notFound
  | conflict
  | aborted
  | failed
  deriving DecidableEq, Repr

/-- `map_read` and `map_preparation`, on the error. -/
def AccountError.ofRecordOperationError : RecordOperationError → AccountError
  | .notFound => .notFound
  | .conflict => .conflict
  | .cancelled => .aborted
  | .failed => .failed

namespace VaultAgent

/-- `open_locked`. -/
def openLocked : VaultAgent where
  session := none
  authenticated_header := none
  authenticated_manifest := none
  session_id := none
  authorization_epoch := 0

variable (agent : VaultAgent)

/-- `advance_authorization_epoch`. -/
def advanceAuthorizationEpoch : Bool × VaultAgent :=
  match checkedAddOne agent.authorization_epoch with
  | none => (false, agent)
  | some next => (true, { agent with authorization_epoch := next })

/-- `VaultAgent::lock`. -/
def lock : VaultAgent :=
  (advanceAuthorizationEpoch
    { agent with
      session := none
      authenticated_header := none
      authenticated_manifest := none
      session_id := none }).2

@[simp]
theorem lock_session : agent.lock.session = none := by
  unfold lock advanceAuthorizationEpoch
  split <;> rfl

/-- `begin_operation`. -/
def beginOperation : Option OperationPermit :=
  match agent.session, agent.session_id with
  | some _, some session_id => some ⟨session_id, agent.authorization_epoch⟩
  | _, _ => none

/-- `operation_is_authorized`. -/
def operationIsAuthorized (permit : OperationPermit) : Bool :=
  agent.session.isSome ∧ agent.session_id = some permit.session_id ∧
    permit.authorization_epoch = agent.authorization_epoch

/-- `authenticated_vault_binding`. -/
def authenticatedVaultBinding : Option (Bytes 16 × UInt32) :=
  agent.session.map fun session => (session.header.vault_id, session.header.key_epoch)

/-- `load_authenticated_snapshot`, on what `read_guarded_vault` returned. -/
def loadAuthenticatedSnapshot (stored : Option Snapshot) :
    Except AccountError Snapshot × VaultAgent :=
  match stored with
  | none => (.error .failed, agent.lock)
  | some snapshot =>
    if agent.authenticated_header = some snapshot.header ∧
        agent.authenticated_manifest = some snapshot.manifest_envelope then (.ok snapshot, agent)
    else (.error .failed, agent.lock)

variable {agent} in
theorem loadAuthenticatedSnapshot_eq_ok {snapshot : Snapshot}
    (hheader : agent.authenticated_header = some snapshot.header)
    (hmanifest : agent.authenticated_manifest = some snapshot.manifest_envelope) :
    agent.loadAuthenticatedSnapshot (some snapshot) = (.ok snapshot, agent) := by
  simp [loadAuthenticatedSnapshot, hheader, hmanifest]

/-- A load succeeds and leaves the agent as it was, or fails and locks it. -/
theorem loadAuthenticatedSnapshot_cases (stored : Option Snapshot) :
    (∃ snapshot, agent.loadAuthenticatedSnapshot stored = (.ok snapshot, agent)) ∨
      agent.loadAuthenticatedSnapshot stored = (.error .failed, agent.lock) := by
  unfold loadAuthenticatedSnapshot
  cases stored with
  | none => exact .inr rfl
  | some snapshot =>
    dsimp only
    split_ifs with hraw
    · exact .inl ⟨snapshot, rfl⟩
    · exact .inr rfl

/-- What every record operation does before and after its call of the core: `require_operation`,
`load_authenticated_snapshot`, and `map_read` or `map_preparation`. -/
def withSnapshot {α : Type} (stored : Option Snapshot)
    (core : UnlockedVault → Snapshot → Except RecordOperationError α) :
    Except AccountError (OperationPermit × Snapshot × α) × VaultAgent :=
  match agent.beginOperation with
  | none => (.error .locked, agent)
  | some permit =>
    match agent.loadAuthenticatedSnapshot stored with
    | (.error e, agent) => (.error e, agent)
    | (.ok snapshot, agent) =>
      match agent.session with
      | none => (.error .locked, agent)
      | some session =>
        match core session snapshot with
        | .ok value => (.ok (permit, snapshot, value), agent)
        | .error .failed => (.error .failed, agent.lock)
        | .error e => (.error (.ofRecordOperationError e), agent)

/-- An error other than a failure leaves the agent as it was. -/
theorem withSnapshot_agent {α : Type} (stored : Option Snapshot)
    (core : UnlockedVault → Snapshot → Except RecordOperationError α) :
    (agent.withSnapshot stored core).2 = agent ∨
      (agent.withSnapshot stored core).1 = .error .failed ∧
        (agent.withSnapshot stored core).2 = agent.lock := by
  unfold withSnapshot
  cases agent.beginOperation with
  | none => exact .inl rfl
  | some permit =>
    rcases agent.loadAuthenticatedSnapshot_cases stored with ⟨snapshot, hload⟩ | hload
    · rw [hload]
      dsimp only
      cases agent.session with
      | none => exact .inl rfl
      | some session =>
        dsimp only
        split
        · exact .inl rfl
        · exact .inr ⟨rfl, rfl⟩
        · exact .inl rfl
    · rw [hload]
      exact .inr ⟨rfl, rfl⟩

end VaultAgent

/-! ## The record operations -/

/-- The read operations, with the types of their results. -/
inductive Query (P : Primitives) : Type → Type
  | listWebsiteAccounts : Query P (List WebsiteAccount)
  | listWebsiteAccountPage (offset limit : ℕ) : Query P (List WebsiteAccount × Bool)
  | getWebsiteAccount (id : RecordId) : Query P WebsiteAccount
  | uniqueBrowserAccount (origin : BrowserOrigin P) : Query P (Option WebsiteAccount)
  | listPasskeysForAssertion (rp_id : String) (allowed : Option (List (Bytes 32))) :
      Query P (List PasskeySummary)
  | listPasskeys : Query P (List PasskeySummary)
  | pendingPasskeyCredentialIds : Query P (List (Bytes 32))

/-- The core's part of a read operation. -/
def Query.core {P : Primitives} {α : Type} (query : Query P α) (vault : UnlockedVault)
    (snapshot : Snapshot) (should_cancel : ℕ → Bool) : Except RecordOperationError α :=
  match query with
  | .listWebsiteAccounts => Core.listWebsiteAccounts P vault snapshot
  | .listWebsiteAccountPage offset limit =>
    Core.listWebsiteAccountPage P vault snapshot offset limit should_cancel
  | .getWebsiteAccount id => Core.getWebsiteAccount P vault snapshot id should_cancel
  | .uniqueBrowserAccount origin => Core.uniqueBrowserAccount P vault snapshot origin should_cancel
  | .listPasskeysForAssertion rp_id allowed =>
    Core.listPasskeysForAssertion P vault snapshot rp_id allowed should_cancel
  | .listPasskeys => Core.listPasskeys P vault snapshot should_cancel
  | .pendingPasskeyCredentialIds =>
    Core.listPendingPasskeyCredentialIds P vault snapshot should_cancel

/-- A read operation. The permit is checked again at the end. -/
def VaultAgent.read {P : Primitives} {α : Type} (agent : VaultAgent) (query : Query P α)
    (stored : Option Snapshot) (should_cancel : ℕ → Bool) :
    Except AccountError α × VaultAgent :=
  match agent.withSnapshot stored (fun session snapshot =>
      query.core session snapshot should_cancel) with
  | (.error e, agent) => (.error e, agent)
  | (.ok (permit, _, value), agent) =>
    if agent.operationIsAuthorized permit then (.ok value, agent) else (.error .locked, agent)

/-- A read leaves the agent as it was or, at a failure, locks it. -/
theorem VaultAgent.read_agent {P : Primitives} {α : Type} (agent : VaultAgent)
    (query : Query P α) (stored : Option Snapshot) (should_cancel : ℕ → Bool) :
    (agent.read query stored should_cancel).2 = agent ∨
      (agent.read query stored should_cancel).1 = .error .failed ∧
        (agent.read query stored should_cancel).2 = agent.lock := by
  unfold VaultAgent.read
  rcases agent.withSnapshot_agent stored (fun session snapshot =>
    query.core session snapshot should_cancel) with h | ⟨h₁, h₂⟩
  · left
    split
    · rename_i heq
      rw [heq] at h
      exact h
    · rename_i heq
      rw [heq] at h
      split_ifs <;> exact h
  · right
    split
    · rename_i heq
      rw [heq] at h₁ h₂
      cases h₁
      exact ⟨rfl, h₂⟩
    · rename_i heq
      rw [heq] at h₁
      cases h₁

/-- The mutations, with what each hands to the client besides the record's id. -/
inductive Change (P : Primitives) : Type → Type
  | addWebsiteAccount (input : WebsiteAccountInput P) : Change P Unit
  | updateWebsiteAccount (id : RecordId) (input : WebsiteAccountInput P) : Change P Unit
  | deleteWebsiteAccount (id : RecordId) : Change P Unit
  | addPasskey (input : PasskeyInput P) (excluded : List (Bytes 32))
      (creation_state : PasskeyCreationState) : Change P PasskeyCredential
  | signPasskeyAssertion (rp_id : String) (credential_id client_data_hash : Bytes 32) :
      Change P PasskeyAssertion
  | deletePasskey (credential_id : Bytes 32) : Change P Unit
  | confirmPasskeyCreation (credential_id : Bytes 32) : Change P Unit

/-- The core's part of preparing a mutation. -/
def Change.core {P : Primitives} {α : Type} (change : Change P α) (vault : UnlockedVault)
    (snapshot : Snapshot) (now : UInt64) (should_cancel : ℕ → Bool) (entropy : Entropy) :
    Except RecordOperationError (PreparedRecordMutation × α) :=
  match change with
  | .addWebsiteAccount input =>
    (Core.prepareAddWebsiteAccount P vault snapshot input now should_cancel entropy).map
      fun done => (done.1, ())
  | .updateWebsiteAccount id input =>
    (Core.prepareUpdateWebsiteAccount P vault snapshot id input now should_cancel entropy).map
      fun done => (done.1, ())
  | .deleteWebsiteAccount id =>
    (Core.prepareDeleteWebsiteAccount P vault snapshot id now should_cancel entropy).map
      fun done => (done.1, ())
  | .addPasskey input excluded creation_state =>
    (Core.prepareAddPasskey P vault snapshot input excluded creation_state now should_cancel
      entropy).map fun done => done.1
  | .signPasskeyAssertion rp_id credential_id client_data_hash =>
    (Core.preparePasskeyAssertion P vault snapshot rp_id credential_id client_data_hash now
      should_cancel entropy).map fun done => done.1
  | .deletePasskey credential_id =>
    (Core.prepareDeletePasskey P vault snapshot credential_id now should_cancel entropy).map
      fun done => (done.1, ())
  | .confirmPasskeyCreation credential_id =>
    (Core.prepareConfirmPasskeyCreation P vault snapshot credential_id now should_cancel
      entropy).map fun done => (done.1, ())

/-- Whether the agent asks `should_cancel` once more after the core has prepared the mutation, as
the passkey operations do. -/
def Change.checksAgain {P : Primitives} {α : Type} : Change P α → Bool
  | .addWebsiteAccount _ | .updateWebsiteAccount _ _ | .deleteWebsiteAccount _ => false
  | _ => true

/-- The first half of a mutation, up to the prepared record. A clock that cannot be read drops the
session. -/
def VaultAgent.prepare {P : Primitives} {α : Type} (agent : VaultAgent) (change : Change P α)
    (stored : Option Snapshot) (now : Option UInt64) (should_cancel : ℕ → Bool)
    (entropy : Entropy) :
    Except AccountError (OperationPermit × Snapshot × PreparedRecordMutation × α) × VaultAgent :=
  agent.withSnapshot stored fun session snapshot =>
    match now with
    | none => .error .failed
    | some now => change.core session snapshot now should_cancel entropy

/-- The end of `persist_mutation`, after the transaction is committed and verified. -/
def VaultAgent.commitRecordMutation (agent : VaultAgent) (permit : OperationPermit)
    (prepared : PreparedRecordMutation) : Except AccountError RecordId × VaultAgent :=
  if ¬agent.operationIsAuthorized permit then (.error .locked, agent.lock)
  else
    match agent.session with
    | none => (.error .locked, agent)
    | some session =>
      match Core.commitRecordMutation session prepared with
      | .error _ => (.error .failed, agent.lock)
      | .ok (session, id) =>
        (.ok id, { agent with
          session := some session
          authenticated_manifest := some prepared.manifest_envelope })

/-- What `unlock_with_core` stores, once the core has made a session and the stored bytes have been
read again. -/
def VaultAgent.storeSession (agent : VaultAgent) (session : UnlockedVault) (snapshot : Snapshot)
    (session_id : ℕ) : Bool × VaultAgent :=
  match agent.advanceAuthorizationEpoch with
  | (false, agent) => (false, agent)
  | (true, agent) =>
    (true, { agent with
      session := some session
      authenticated_header := some snapshot.header
      authenticated_manifest := some snapshot.manifest_envelope
      session_id := some session_id })

/-- The agent that `create_with_before_publish` returns. -/
def VaultAgent.created (vault : CreatedVault) (session_id : ℕ) : VaultAgent where
  session := some vault.session
  authenticated_header := some vault.header
  authenticated_manifest := some vault.manifest_envelope
  session_id := some session_id
  authorization_epoch := 1

end Librarian.Agent
