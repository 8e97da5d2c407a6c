import Librarian.Agent.Paging
import Librarian.Agent.Runtime

/-!
# The operations of the runtime

Each operation as a program of atomic actions and mutex steps, in the order of the source. A guard
that the source drops at the end of a scope is released there; where a function consumes a guard, so
does the program. The mutations, and likewise the reads, share their middle part, which is one
program here with what differs as arguments.

A closure that the core calls is not interleaved with the core: the answers of `should_cancel` come
from the oracle, which may answer as any interleaving would.
-/

namespace Librarian.Agent

open Conc Librarian.Core Librarian.Protocol
open Conc.Prog hiding act

/-- A part of the agent's code. -/
abbrev Code (P : Primitives) (α : Type) : Type 1 := Prog (machine P) α

/-- What an operation knows of its request. -/
structure RequestContext where
  key : RequestKey
  unlock_epoch : ℕ
  deadline : ℕ
  authenticated_process_id : ℕ
  deriving DecidableEq

variable {P : Primitives}

/-- One atomic action. -/
abbrev act (action : Action P) : Code P action.Result := Prog.act (M := machine P) action

/-! ## Checks and small parts -/

/-- The source's `FlagPermit`: an operation under a flag, which is refused when the flag is taken. -/
def withFlag (flag : Flag) (body : Code P Outcome) : Code P Outcome := do
  if ← act (.acquireActive flag) then
    let outcome ← body
    act (.storeActive flag false)
    return outcome
  else return .ok .busy

/-- `Instant::now() >= deadline`. -/
def pastDeadline (deadline : ℕ) : Code P Bool := do
  let now ← act .now
  return decide (now ≥ deadline)

/-- `state() != Unlocked || epoch() != request_epoch`. -/
def notUnlockedAt (unlock_epoch : ℕ) : Code P Bool := do
  if (← act .loadState) ≠ .unlocked then return true
  let epoch ← act .loadEpoch
  return decide (epoch ≠ unlock_epoch)

/-- `pre_secret_operation`. -/
def preSecretOperation (context : RequestContext) : Code P (Option ExecutionOutcome) := do
  if ← act (.loadActive .lock) then return some .locked
  if ← act (.isCancelled context.key) then return some .cancelled
  if ← pastDeadline context.deadline then return some .deadline
  if ← notUnlockedAt context.unlock_epoch then return some .locked
  return none

/-- `secret_operation_should_abort`. -/
def secretOperationShouldAbort (context : RequestContext) : Code P Bool := do
  if ← act (.loadActive .lock) then return true
  if ← act (.isCancelled context.key) then return true
  if ← pastDeadline context.deadline then return true
  notUnlockedAt context.unlock_epoch

/-- The first condition of `post_secret_operation`. -/
def lockedMeanwhile (unlock_epoch : ℕ) : Code P Bool := do
  if ← act (.loadActive .lock) then return true
  notUnlockedAt unlock_epoch

/-- `post_secret_operation`, under the vault mutex. -/
def postSecretOperation (context : RequestContext) : Code P (Option ExecutionOutcome) := do
  if ← lockedMeanwhile context.unlock_epoch then
    act .vaultLock
    act .setLockedUnlessShuttingDown
    return some .locked
  if ← act (.isCancelled context.key) then return some .cancelled
  if ← pastDeadline context.deadline then return some .deadline
  return none

/-- `abort_after_core`, under the vault mutex. -/
def abortAfterCore (context : RequestContext) : Code P Outcome := do
  match ← postSecretOperation context with
  | some outcome => return .ok outcome
  | none => return .error .internal

/-- `advance_epoch`. -/
def advanceEpoch : Code P (Except DispatchError Unit) := do
  match ← act .incrementEpoch with
  | .error e => return .error e
  | .ok () =>
    withLock .cancellations (act .cancelAll)
    return .ok ()

/-- `map_account_error`. -/
def mapAccountError : AccountError → ExecutionOutcome
  | .locked => .locked
  | .notFound => .notFound
  | .conflict => .conflict
  | .aborted | .failed => .failed

/-- The gate section of `account_error_after_core`. -/
def publishFailure : Code P Outcome :=
  withLock .commitGate do
    act .setLockedUnlessShuttingDown
    match ← advanceEpoch with
    | .error e => return .error e
    | .ok () => return .ok .failed

/-- `account_error_after_core`, which consumes the vault guard. -/
def accountErrorAfterCore (error : AccountError) : Code P Outcome := do
  if error ≠ .failed then
    unlock .vault
    return .ok (mapAccountError error)
  else
    act .vaultLock
    unlock .vault
    publishFailure

/-! ## Reads -/

/-- `authenticated_read_error_after_core`, which consumes the vault guard. -/
def authenticatedReadErrorAfterCore (context : RequestContext) (error : AccountError) :
    Code P Outcome := do
  if error = .failed then accountErrorAfterCore error
  else
    let outcome ← postSecretOperation context
    unlock .vault
    return .ok (outcome.getD (mapAccountError error))

/-- The read operations from their acquisition of the vault on. -/
def readVault {α : Type} (context : RequestContext) (query : Query P α) (respond : α → Outcome) :
    Code P Outcome := do
  lock .vault
  match ← preSecretOperation context with
  | some outcome =>
    unlock .vault
    return .ok outcome
  | none =>
    match ← act (.vaultRead query) with
    | .error .aborted =>
      let outcome ← abortAfterCore context
      unlock .vault
      return outcome
    | .error error => authenticatedReadErrorAfterCore context error
    | .ok value =>
      let outcome ← postSecretOperation context
      unlock .vault
      return outcome.elim (respond value) .ok

/-- The check with which most operations begin. -/
def checkingFirst (context : RequestContext) (body : Code P Outcome) : Code P Outcome := do
  match ← preSecretOperation context with
  | some outcome => return .ok outcome
  | none => body

/-- `list_accounts`. -/
def listAccounts (context : RequestContext) (offset : UInt32) (limit : UInt16) :
    Code P Outcome :=
  checkingFirst context <|
    readVault context (.listWebsiteAccountPage offset.toNat limit.toNat) fun page =>
      encodeSummaryPage page.1 offset page.2

/-- `get_account`. -/
def getAccount (context : RequestContext) (id : RecordId) : Code P Outcome :=
  checkingFirst context <|
    readVault context (.getWebsiteAccount id) fun account => .ok (.success (.account account))

/-- `list_passkeys`. -/
def listPasskeys (context : RequestContext) : Code P Outcome :=
  checkingFirst context <|
    readVault context .listPasskeys fun passkeys => .ok (.success (.passkeySummaries passkeys))

/-- `map_passkey_verification_error`. -/
def mapPasskeyVerificationError : PasskeyVerificationError → ExecutionOutcome
  | .invalid => .invalid
  | .unavailable | .failed => .failed

/-- `list_passkeys_for_assertion`. -/
def listPasskeysForAssertion (context : RequestContext) : Code P Outcome :=
  checkingFirst context do
    match ← act (.ask Oracle.verify_assertion_lookup) with
    | .error error => return .ok (mapPasskeyVerificationError error)
    | .ok verified =>
      readVault context
        (.listPasskeysForAssertion verified.rp_id
          (if verified.allow_list_present then some verified.allowed_credential_ids else none))
        fun passkeys => .ok (.success (.passkeySummaries passkeys))

/-! ## Writes -/

/-- The four conditions of every `before_commit` of a request, under the commit gate. -/
def stillAuthorized (context : RequestContext) : Code P Bool := do
  if (← act .loadEpoch) ≠ context.unlock_epoch then return false
  if ← act (.loadActive .lock) then return false
  if ← act (.isCancelled context.key) then return false
  let late ← pastDeadline context.deadline
  return !late

/-- `persist_mutation` with `apply_record_mutation`, under the vault mutex. `before_commit` takes the
commit gate and keeps it when its check passes; the gate is still held at the end if and only if the
mutation has succeeded. -/
def persistMutation (origin : Origin) (permit : OperationPermit)
    (prepared : PreparedRecordMutation) (check : Code P Bool) :
    Code P (Except AccountError RecordId) := do
  if ¬(← act (.vaultAuthorized permit)) then return .error .locked
  if ¬(← act (.ask Oracle.succeeds)) then
    act .vaultLock
    return .error .failed
  lock .commitGate
  if ¬(← check) then
    unlock .commitGate
    return .error .aborted
  if ¬(← act (.commit origin prepared)) then
    act .vaultLock
    unlock .commitGate
    return .error .failed
  match ← act (.vaultCommitRecordMutation permit prepared) with
  | .error error =>
    unlock .commitGate
    return .error error
  | .ok id => return .ok id

/-- The second consultation of `should_cancel`, which some mutations make. -/
def cancelledAgain {α : Type} (change : Change P α) (should_cancel : Code P Bool) : Code P Bool :=
  if change.checksAgain then should_cancel else return false

/-- A mutation of the vault agent, with the runtime's closures, under the vault mutex. -/
def mutateVault {α : Type} (origin : Origin) (change : Change P α) (should_cancel : Code P Bool)
    (check : Code P Bool) : Code P (Except AccountError (α × RecordId)) := do
  match ← act (.vaultPrepare change) with
  | .error error => return .error error
  | .ok (permit, prepared, value) =>
    if ← cancelledAgain change should_cancel then return .error .aborted
    match ← persistMutation origin permit prepared check with
    | .error error => return .error error
    | .ok id => return .ok (value, id)

/-- The end of a request's mutation that has failed, which consumes the vault guard. -/
def mutationFailed (context : RequestContext) (error : AccountError) : Code P Outcome := do
  match error with
  | .aborted =>
    let outcome ← abortAfterCore context
    unlock .vault
    return outcome
  | .failed => accountErrorAfterCore .failed
  | error =>
    let outcome ← postSecretOperation context
    unlock .vault
    return .ok (outcome.getD (mapAccountError error))

/-- The mutations of a request from their acquisition of the vault on. `finish` runs under the vault
mutex and the commit gate. -/
def writeVault {α : Type} (context : RequestContext) (change : Change P α) (check : Code P Bool)
    (finish : α → RecordId → Code P Outcome) : Code P Outcome := do
  lock .vault
  match ← preSecretOperation context with
  | some outcome =>
    unlock .vault
    return .ok outcome
  | none =>
    match ← mutateVault (.request context.key context.unlock_epoch) change
        (secretOperationShouldAbort context) check with
    | .ok (value, id) =>
      let outcome ← finish value id
      unlock .vault
      unlock .commitGate
      return outcome
    | .error error => mutationFailed context error

/-- The accounts' mutations count up the generation of the accounts. -/
def writeAccount (context : RequestContext) (change : Change P Unit) (body : RecordId → Body) :
    Code P Outcome :=
  writeVault context change (stillAuthorized context) fun _ id => do
    act .accountsChanged
    return .ok (.success (body id))

/-- `account_input`. -/
def accountInput (P : Primitives) (fields : AccountFields) : Option (WebsiteAccountInput P) :=
  (WebsiteAccountInput.new P fields.service_name fields.permitted_origin fields.username
    fields.password).toOption

/-- `add_account`. -/
def addAccount (context : RequestContext) (fields : AccountFields) : Code P Outcome :=
  withFlag .mutation <| checkingFirst context <|
    match accountInput P fields with
    | none => return .ok .invalid
    | some input => writeAccount context (.addWebsiteAccount input) .accountId

/-- `update_account`. -/
def updateAccount (context : RequestContext) (id : RecordId) (fields : AccountFields) :
    Code P Outcome :=
  withFlag .mutation <| checkingFirst context <|
    match accountInput P fields with
    | none => return .ok .invalid
    | some input => writeAccount context (.updateWebsiteAccount id input) fun _ => .empty

/-- `delete_account`. -/
def deleteAccount (context : RequestContext) (id : RecordId) : Code P Outcome :=
  withFlag .mutation <| checkingFirst context <|
    writeAccount context (.deleteWebsiteAccount id) fun _ => .empty

/-! ## Passkeys -/

/-- Reads the entry of a pending creation. -/
def getPending (key : PendingPasskeyCreationKey) : Code P (Option PendingPasskeyCreation) :=
  withLock .pendingPasskeyCreations (act (.pendingGet key))

/-- The conditions of the `before_commit` of a rollback after a disconnect. -/
def rollbackAuthorized (unlock_epoch : ℕ) (key : PendingPasskeyCreationKey)
    (pending : PendingPasskeyCreation) : Code P Bool := do
  let current ← getPending key
  if (← act .loadEpoch) ≠ unlock_epoch then return false
  if ← act (.loadActive .lock) then return false
  return decide (current = some pending)

/-- `state() != Unlocked || lock_active`. -/
def notUnlocked : Code P Bool := do
  if (← act .loadState) ≠ .unlocked then return true
  act (.loadActive .lock)

/-- The `should_cancel` of a rollback: `epoch() != request_epoch || lock_active`. -/
def rollbackShouldAbort (unlock_epoch : ℕ) : Code P Bool := do
  if (← act .loadEpoch) ≠ unlock_epoch then return true
  act (.loadActive .lock)

/-- The second check of a rollback, under the vault mutex. -/
def rollbackOutdated (unlock_epoch : ℕ) : Code P Bool := do
  if (← act .loadState) ≠ .unlocked then return true
  rollbackShouldAbort unlock_epoch

/-- The removal of the registry's entry after a rollback; it must be the entry that the rollback was
for. -/
def removePending (key : PendingPasskeyCreationKey) (pending : PendingPasskeyCreation) :
    Code P (Except DispatchError Unit) := do
  let removed ← withLock .pendingPasskeyCreations (act (.pendingRemove key))
  if removed ≠ some pending then return .error .internal
  return .ok ()

/-- What one round of `rollback_disconnected_passkey_creations` decides. -/
inductive Round
  | again
  | done (result : Except DispatchError Bool)
  deriving DecidableEq

/-- The deletion in one round, from the acquisition of the vault on. -/
def rollbackRound (key : PendingPasskeyCreationKey) (pending : PendingPasskeyCreation)
    (unlock_epoch : ℕ) : Code P Round := do
  lock .vault
  if ← rollbackOutdated unlock_epoch then
    unlock .vault
    return .done (.ok false)
  match ← mutateVault .disconnectedCreation (.deletePasskey pending.credential_id)
      (rollbackShouldAbort unlock_epoch) (rollbackAuthorized unlock_epoch key pending) with
  | .ok _ =>
    let removed ← removePending key pending
    unlock .vault
    unlock .commitGate
    match removed with
    | .error e => return .done (.error e)
    | .ok () => return .again
  | .error .notFound =>
    let removed ← removePending key pending
    unlock .vault
    match removed with
    | .error e => return .done (.error e)
    | .ok () => return .again
  | .error .aborted | .error .locked =>
    unlock .vault
    return .done (.ok false)
  | .error .failed =>
    match ← accountErrorAfterCore .failed with
    | .error e => return .done (.error e)
    | .ok _ => return .done (.error .internal)
  | .error .conflict =>
    unlock .vault
    return .done (.error .internal)

/-- The loop of `rollback_disconnected_passkey_creations`, for at most the given number of rounds. -/
def rollbackLoop : ℕ → Code P (Except DispatchError Bool)
  | 0 => .halt
  | rounds + 1 => do
    match ← withLock .pendingPasskeyCreations (act .pendingFindDisconnected) with
    | none => return .ok true
    | some (key, pending) =>
      if ← notUnlocked then return .ok false
      if (← act (.ask Oracle.remove_cached_credential)).toOption = none then return .ok false
      let unlock_epoch ← act .loadEpoch
      match ← rollbackRound key pending unlock_epoch with
      | .again => rollbackLoop rounds
      | .done result => return result

/-- `rollback_disconnected_passkey_creations`. -/
def rollbackDisconnectedPasskeyCreations (rounds : ℕ) : Code P (Except DispatchError Bool) :=
  withLock .passkeyCleanupGate (rollbackLoop rounds)

/-- The key of a creation in the registry. -/
def pendingKey (context : RequestContext) (proof : PasskeyTransactionProof) :
    PendingPasskeyCreationKey :=
  ⟨context.key.connection_id, proof.request.transaction_id⟩

/-- The part of `make_passkey` under the mutation flag. -/
def makeVerifiedPasskey (context : RequestContext) (key : PendingPasskeyCreationKey)
    (verified : VerifiedMakeRequest) : Code P Outcome :=
  withFlag .mutation <| checkingFirst context <|
    match (PasskeyInput.new P verified.rp_id verified.user_handle verified.user_name
        verified.user_display_name).toOption with
    | none => return .ok .invalid
    | some input =>
      writeVault context (.addPasskey input verified.excluded_credential_ids .pending)
        (stillAuthorized context) fun credential _ => do
          let previous ← withLock .pendingPasskeyCreations <| act <| .pendingInsert key
            { credential_id := credential.credential_id
              authenticated_process_id := context.authenticated_process_id
              unlock_epoch := context.unlock_epoch
              confirmed := false
              disconnected := false }
          if previous.isSome then return .error .internal
          return .ok (ExecutionOutcome.success (.passkeyCredential credential)).commitPoint

/-- `make_passkey`. -/
def makePasskey (rounds : ℕ) (context : RequestContext) (proof : PasskeyTransactionProof) :
    Code P Outcome :=
  checkingFirst context do
    match ← rollbackDisconnectedPasskeyCreations rounds with
    | .error e => return .error e
    | .ok false => return .ok .busy
    | .ok true =>
      match ← act (.ask Oracle.verify_make) with
      | .error error => return .ok (mapPasskeyVerificationError error)
      | .ok verified =>
        let key := pendingKey context proof
        if (← getPending key).isSome then return .ok .invalid
        makeVerifiedPasskey context key verified

/-- `get_passkey_assertion`. -/
def getPasskeyAssertion (context : RequestContext) (credential_id : Bytes 32) : Code P Outcome :=
  checkingFirst context do
    match ← act (.ask Oracle.verify_assertion) with
    | .error error => return .ok (mapPasskeyVerificationError error)
    | .ok verified =>
      withFlag .mutation <| checkingFirst context <|
        writeVault context
          (.signPasskeyAssertion verified.rp_id credential_id verified.client_data_hash)
          (stillAuthorized context) fun assertion _ =>
            return .ok (ExecutionOutcome.success (.passkeyAssertion assertion)).commitPoint

/-- `delete_passkey`. -/
def deletePasskey (context : RequestContext) (credential_id : Bytes 32) : Code P Outcome :=
  withFlag .mutation <| checkingFirst context <|
    writeVault context (.deletePasskey credential_id) (stillAuthorized context) fun _ _ =>
      return .ok (ExecutionOutcome.success .empty).commitPoint

/-- The `before_commit` of a confirmation: the registry's entry must be unchanged as well. -/
def confirmAuthorized (context : RequestContext) (key : PendingPasskeyCreationKey)
    (expected : PendingPasskeyCreation) : Code P Bool := do
  let current ← getPending key
  if ¬(← stillAuthorized context) then return false
  return decide (current = some expected)

/-- Marks a creation as confirmed in the registry. -/
def markConfirmed (key : PendingPasskeyCreationKey) (expected : PendingPasskeyCreation) :
    Code P Outcome :=
  withLock .pendingPasskeyCreations do
    let current ← act (.pendingGet key)
    if current ≠ some expected then return .error .internal
    let _ ← act (.pendingInsert key { expected with confirmed := true })
    return .ok (ExecutionOutcome.success .empty).commitPoint

/-- Whether a pending creation is the one that a request names. -/
def PendingPasskeyCreation.belongsTo (pending : PendingPasskeyCreation) (context : RequestContext)
    (credential_id : Bytes 32) : Bool :=
  pending.credential_id = credential_id ∧
    pending.authenticated_process_id = context.authenticated_process_id ∧
    pending.unlock_epoch = context.unlock_epoch ∧ ¬pending.disconnected

/-- The beginning that confirmation and rollback share: the request is verified and names a pending
creation that satisfies a condition. -/
def withPending (context : RequestContext) (proof : PasskeyTransactionProof)
    (accepts : PendingPasskeyCreation → Bool)
    (body : PendingPasskeyCreationKey → PendingPasskeyCreation → Code P Outcome) :
    Code P Outcome :=
  checkingFirst context do
    match ← act (.ask Oracle.verify_make) with
    | .error error => return .ok (mapPasskeyVerificationError error)
    | .ok _ =>
      match ← getPending (pendingKey context proof) with
      | none => return .ok .invalid
      | some expected =>
        if accepts expected then body (pendingKey context proof) expected
        else return .ok .invalid

/-- `confirm_passkey_creation`. -/
def confirmPasskeyCreation (context : RequestContext) (proof : PasskeyTransactionProof)
    (credential_id : Bytes 32) : Code P Outcome :=
  withPending context proof
    (fun pending => pending.belongsTo context credential_id && !pending.confirmed)
    fun key expected =>
      withFlag .mutation <| checkingFirst context <|
        writeVault context (.confirmPasskeyCreation credential_id)
          (confirmAuthorized context key expected) fun _ _ => markConfirmed key expected

/-- The end of `rollback_passkey_creation`: unlike the rollback after a disconnect, an entry that is
gone already is no error. -/
def forgetPending (key : PendingPasskeyCreationKey) (expected : PendingPasskeyCreation) :
    Code P Outcome := do
  let removed ← withLock .pendingPasskeyCreations (act (.pendingRemove key))
  if removed.isSome ∧ removed ≠ some expected then return .error .internal
  return .ok (ExecutionOutcome.success .empty).commitPoint

/-- The deletion of `rollback_passkey_creation`, for which a record that is gone is a success. -/
def rollbackVault (context : RequestContext) (credential_id : Bytes 32)
    (key : PendingPasskeyCreationKey) (expected : PendingPasskeyCreation) : Code P Outcome := do
  lock .vault
  match ← preSecretOperation context with
  | some outcome =>
    unlock .vault
    return .ok outcome
  | none =>
    match ← mutateVault (.request context.key context.unlock_epoch) (.deletePasskey credential_id)
        (secretOperationShouldAbort context) (stillAuthorized context) with
    | .ok _ =>
      let outcome ← forgetPending key expected
      unlock .vault
      unlock .commitGate
      return outcome
    | .error .notFound =>
      let outcome ← forgetPending key expected
      unlock .vault
      return outcome
    | .error error => mutationFailed context error

/-- `rollback_passkey_creation`. -/
def rollbackPasskeyCreation (context : RequestContext) (proof : PasskeyTransactionProof)
    (credential_id : Bytes 32) : Code P Outcome :=
  withPending context proof (fun pending => pending.belongsTo context credential_id)
    fun key expected =>
      withFlag .mutation <| checkingFirst context do
        match ← act (.ask Oracle.remove_cached_credential) with
        | .error error => return .ok (mapPasskeyVerificationError error)
        | .ok () => checkingFirst context (rollbackVault context credential_id key expected)

/-! ## Browser fill -/

/-- What `claim_browser_lease` decides. -/
inductive BrowserLeaseAdmission
  | ready (required : Option BrowserLease)
  | rejected (outcome : ExecutionOutcome)
  deriving DecidableEq

/-- `claim_browser_lease`. -/
def claimBrowserLease (request : RequestContext) (context : BrowserContext)
    (selection : Option BrowserSelection) : Code P BrowserLeaseAdmission := do
  match selection with
  | some selection =>
    match ← withLock .browserLeases (act (.leaseTake request.key.connection_id)) with
    | none => return .rejected .invalid
    | some lease =>
      if ¬lease.context.matches context ∨ ¬lease.selection.matches selection ∨
          lease.epoch ≠ request.unlock_epoch then return .rejected .invalid
      return .ready (some lease)
  | none =>
    match ← withLock .browserLeases (act (.leaseClaim request.key.connection_id)) with
    | .occupied => return .rejected .invalid
    | .full => return .rejected .busy
    | .claimed => return .ready none

/-- The end of `browser_fill` for a submitted selection. -/
def discloseCredential (lease : BrowserLease) (account : Option WebsiteAccount) : Outcome :=
  match account with
  | none => .ok .notFound
  | some account =>
    if account.id ≠ lease.selection.record_id ∨ account.revision ≠ lease.selection.revision then
      .ok .conflict
    else .ok (.success (.browserCredential account.username account.password))

/-- The end of `browser_fill` for a request without a selection: an account is offered under a new
lease. -/
def offerSelection (request : RequestContext) (context : BrowserContext) (generation : ℕ)
    (account : Option WebsiteAccount) : Code P Outcome := do
  match account with
  | none => return .ok (.success (.browserSelection none))
  | some account =>
    match ← act (.ask Oracle.random) with
    | none => return .error .internal
    | some token =>
      match BrowserSelection.new token account.id account.revision with
      | none => return .error .internal
      | some selection =>
        let issued ← withLock .browserLeases <| act <| .leaseIssue request.key.connection_id
          { context := context
            selection := selection
            epoch := request.unlock_epoch
            accounts_generation := generation
            expires := request.deadline }
        if ¬issued then return .ok .cancelled
        return .ok (.success (.browserSelection (some selection)))

/-- What `browser_fill` answers with the account that it has read. -/
def browserOutcome (request : RequestContext) (context : BrowserContext) (generation : ℕ)
    (required : Option BrowserLease) (account : Option WebsiteAccount) : Code P Outcome :=
  match required with
  | some lease => return discloseCredential lease account
  | none => offerSelection request context generation account

/-- What `browser_fill` adds to a success: the conditions under which it may still be written. -/
def boundToGeneration (generation deadline : ℕ) (outcome : Outcome) : Outcome :=
  outcome.map fun outcome =>
    if outcome.error = none then
      { outcome with browser_generation := some generation, browser_deadline := some deadline }
    else outcome

/-- `browser_fill` from the acquisition of the vault on. -/
def browserRead (request : RequestContext) (context : BrowserContext)
    (required : Option BrowserLease) (origin : BrowserOrigin P) : Code P Outcome := do
  lock .vault
  match ← preSecretOperation request with
  | some outcome =>
    unlock .vault
    return .ok outcome
  | none =>
    let generation ← act .loadAccountsGeneration
    if generation = u64Max ∨ ∃ lease ∈ required, lease.accounts_generation ≠ generation then
      unlock .vault
      return .ok .conflict
    else
      match ← act (.vaultRead (.uniqueBrowserAccount origin)) with
      | .error .aborted =>
        let outcome ← abortAfterCore request
        unlock .vault
        return outcome
      | .error error => authenticatedReadErrorAfterCore request error
      | .ok account =>
        match ← postSecretOperation request with
        | some outcome =>
          unlock .vault
          return .ok outcome
        | none =>
          let outcome ← browserOutcome request context generation required account
          unlock .vault
          return boundToGeneration generation request.deadline outcome

/-- `browser_fill`. The deadline of a request that uses a lease is no later than the lease's. -/
def browserFill (request : RequestContext) (context : BrowserContext)
    (selection : Option BrowserSelection) : Code P Outcome := do
  match ← claimBrowserLease request context selection with
  | .rejected outcome => return .ok outcome
  | .ready required =>
    match BrowserOrigin.parse P context.top_origin, BrowserOrigin.parse P context.frame_origin with
    | some origin, some frame_origin =>
      if origin.value ≠ frame_origin.value then return .ok .invalid
      else
        let request :=
          { request with
            deadline := required.elim request.deadline fun lease =>
              min request.deadline lease.expires }
        checkingFirst request (browserRead request context required origin)
    | _, _ => return .ok .invalid

end Librarian.Agent
