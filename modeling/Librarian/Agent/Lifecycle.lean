import Librarian.Agent.Handlers

/-!
# Creating, unlocking, locking

The operations that change the published state, and those on Windows Hello.
-/

namespace Librarian.Agent

open Conc Librarian.Core Librarian.Protocol
open Conc.Prog hiding act

variable {P : Primitives}

/-! ## Creating a vault -/

/-- `VaultAgent::create_with_before_publish` up to the publication of the staged file. -/
def createStaged (password : MasterPassword) (o : Oracle) : Except CreateError CreatedVault :=
  if ¬o.succeeds then .error .failed
  else
    match o.publish with
    | .error e => .error e
    | .ok () =>
      match o.unix_time_ms with
      | none => .error .failed
      | some created_at_ms =>
        match Core.createVault P password created_at_ms o.entropy with
        | .error _ => .error .failed
        | .ok (created, _) => .ok created

/-- The conditions of `before_publish`, under the commit gate and the ownership registry. -/
def createAuthorized (context : RequestContext) (start_epoch : ℕ) : Code P Bool := do
  if (← act .loadEpoch) ≠ start_epoch then return false
  if ← act (.isCancelled context.key) then return false
  if ← pastDeadline context.deadline then return false
  if ← act (.loadActive .lock) then return false
  return decide ((← act .loadState) = .noVault)

/-- What the runtime does with a published vault, under the commit gate and the ownership
registry. -/
def installCreated (agent : VaultAgent) (vault_id : Bytes 16) : Code P Outcome := do
  if ¬(← act (.ask Oracle.succeeds)) then return .error .internal
  match ← withLock .idempotency (act (.idempotencyInitialize vault_id)) with
  | .error e => return .error e
  | .ok () =>
    withLock .vault (act (.vaultInstall agent))
    match ← act .incrementEpoch with
    | .error e => return .error e
    | .ok () =>
      act (.storeState .unlocked)
      let epoch ← act .loadEpoch
      return .ok (.success (.status .unlocked epoch))

/-- The answer to a creation that has failed. -/
def creationFailed (context : RequestContext) (error : CreateError) : Code P Outcome := do
  match error with
  | .alreadyExists => return .ok .conflict
  | .failed =>
    if ← act (.isCancelled context.key) then return .ok .cancelled
    if ← pastDeadline context.deadline then return .ok .deadline
    return .ok .failed

/-- `create_vault` from the publication on. The guards that `before_publish` has taken are dropped
when the function returns, the registry's first. -/
def publishCreated (context : RequestContext) (start_epoch : ℕ) (created : CreatedVault)
    (session_id : ℕ) : Code P Outcome := do
  lock .commitGate
  lock .ownedVaults
  if ¬(← createAuthorized context start_epoch) then
    unlock .ownedVaults
    unlock .commitGate
    creationFailed context .failed
  else
    match ← act (.ask Oracle.publish) with
    | .error error =>
      let outcome ← creationFailed context error
      unlock .ownedVaults
      unlock .commitGate
      return outcome
    | .ok () =>
      let outcome ← installCreated (.created created session_id) created.session.header.vault_id
      unlock .ownedVaults
      unlock .commitGate
      return outcome

/-- `create_vault`. -/
def createVault (context : RequestContext) (password : String) : Code P Outcome := do
  if (← act .loadState) ≠ .noVault then return .ok .conflict
  withFlag .mutation <| withLock .creationGate do
    if ← act (.isCancelled context.key) then return .ok .cancelled
    if ← pastDeadline context.deadline then return .ok .deadline
    if ← act (.loadActive .lock) then return .ok .busy
    match MasterPassword.new password with
    | none => return .ok .invalid
    | some password =>
      let start_epoch ← act .loadEpoch
      match ← act (.ask (createStaged (P := P) password)) with
      | .error error => creationFailed context error
      | .ok created =>
        match ← act .nextSessionId with
        | none => creationFailed context .failed
        | some session_id =>
          if ¬(← act (.ask Oracle.succeeds)) then creationFailed context .failed
          else publishCreated context start_epoch created session_id

/-! ## Unlocking -/

/-- The core's unlock, on the bytes that `read_guarded_vault` returned. -/
def coreUnlock (password : MasterPassword) (o : Oracle) :
    Except UnlockError (UnlockedVault × Snapshot) :=
  match o.stored with
  | none => .error .failed
  | some snapshot =>
    (Core.unlockVault P password snapshot o.should_cancel).map (·, snapshot)

/-- The core's unlock with Windows Hello. -/
def coreUnlockWithWindowsHello (o : Oracle) : Except UnlockError (UnlockedVault × Snapshot) :=
  match o.stored with
  | none => .error .failed
  | some snapshot => o.windows_hello_session.map (·, snapshot)

/-- The end of `unlock_with_core`: the bytes are read again, and the session is stored unless the
request has been cancelled. The result has the id of the vault that was unlocked. -/
def storeUnlocked (key : RequestKey) (session : UnlockedVault) (snapshot : Snapshot) :
    Code P (Except UnlockError (Bytes 16)) := do
  if ← act (.isCancelled key) then return .error .cancelled
  if ¬(← act (.ask fun o => decide (o.stored = some snapshot))) then return .error .failed
  match ← act .nextSessionId with
  | none => return .error .failed
  | some session_id =>
    if ¬(← act (.vaultStoreSession session snapshot session_id)) then return .error .failed
    if ← act (.isCancelled key) then
      act .vaultLock
      return .error .cancelled
    return .ok session.header.vault_id

/-- `unlock_with_core`, under the vault mutex. With the result comes whether `before_publish` could
tell the identity of the vault file. -/
def unlockWithCore (key : RequestKey)
    (unlock : Oracle → Except UnlockError (UnlockedVault × Snapshot)) :
    Code P (Except UnlockError (Bytes 16) × Bool) := do
  act .vaultLock
  if ← act (.isCancelled key) then return (.error .cancelled, false)
  match ← act (.ask unlock) with
  | .error e => return (.error e, false)
  | .ok (session, snapshot) =>
    let identified ← act (.ask Oracle.succeeds)
    let result ← storeUnlocked key session snapshot
    return (result, identified)

/-- `lock(&self.vault)?.lock()`. -/
def lockVaultAgent : Code P Unit := withLock .vault (act .vaultLock)

/-- The way out of every unlock that has failed after the core: the key is dropped, then the state is
published. -/
def unlockFailed (outcome : ExecutionOutcome) : Code P Outcome := do
  lockVaultAgent
  act .setLockedUnlessShuttingDown
  return .ok outcome

/-- `lock_active || state() != Unlocking || is_cancelled()`. -/
def unlockInterrupted (key : RequestKey) : Code P Bool := do
  if ← act (.loadActive .lock) then return true
  if (← act .loadState) ≠ .unlocking then return true
  act (.isCancelled key)

/-- `should_abort` of `cleanup_recovered_passkey_creations`. -/
def cleanupShouldAbort (context : RequestContext) : Code P Bool := do
  if ← unlockInterrupted context.key then return true
  pastDeadline context.deadline

/-- `recovered_passkey_cleanup_outcome`. -/
def recoveredPasskeyCleanupOutcome (context : RequestContext) : Code P ExecutionOutcome := do
  if ← unlockInterrupted context.key then return .cancelled
  if ← pastDeadline context.deadline then return .deadline
  return .failed

/-- The deletion of one recovered creation, with the vault guard of its own. -/
def cleanupOne (context : RequestContext) (credential_id : Bytes 32) :
    Code P (Option ExecutionOutcome) := do
  lock .vault
  match ← mutateVault .recoveredCreation (.deletePasskey credential_id)
      (cleanupShouldAbort context) (do return !(← cleanupShouldAbort context)) with
  | .ok _ =>
    unlock .vault
    unlock .commitGate
    return none
  | .error .notFound =>
    unlock .vault
    return none
  | .error .aborted | .error .locked =>
    let outcome ← recoveredPasskeyCleanupOutcome context
    unlock .vault
    return some outcome
  | .error .conflict | .error .failed =>
    unlock .vault
    return some .failed

/-- The loop of `cleanup_recovered_passkey_creations`. A credential that the platform does not let go
is skipped. -/
def cleanupLoop (context : RequestContext) : List (Bytes 32) → Code P (Option ExecutionOutcome)
  | [] => return none
  | credential_id :: rest => do
    if ← cleanupShouldAbort context then
      return some (← recoveredPasskeyCleanupOutcome context)
    if (← act (.ask Oracle.remove_cached_credential)).toOption = none then
      cleanupLoop context rest
    else
      if ← cleanupShouldAbort context then
        return some (← recoveredPasskeyCleanupOutcome context)
      match ← cleanupOne context credential_id with
      | some outcome => return some outcome
      | none => cleanupLoop context rest

/-- The first part of `cleanup_recovered_passkey_creations`. -/
def recoveredCredentialIds (context : RequestContext) :
    Code P (Except ExecutionOutcome (List (Bytes 32))) :=
  withLock .vault do
    match ← act (.vaultRead .pendingPasskeyCredentialIds) with
    | .ok credential_ids => return .ok credential_ids
    | .error .aborted | .error .locked =>
      return .error (← recoveredPasskeyCleanupOutcome context)
    | .error _ => return .error .failed

/-- `cleanup_recovered_passkey_creations`. -/
def cleanupRecoveredPasskeyCreations (context : RequestContext) :
    Code P (Option ExecutionOutcome) := do
  match ← recoveredCredentialIds context with
  | .error outcome => return some outcome
  | .ok credential_ids => cleanupLoop context credential_ids

/-- `lock_active || is_cancelled() || state() != Unlocking`. -/
def publicationInterrupted (key : RequestKey) : Code P Bool := do
  if ← act (.loadActive .lock) then return true
  if ← act (.isCancelled key) then return true
  return decide ((← act .loadState) ≠ .unlocking)

/-- `bind_authenticated` with its closure, under the ownership registry. -/
def bindAuthenticated (vault_id : Bytes 16) : Code P Bool :=
  withLock .ownedVaults do
    if ¬(← act (.ask Oracle.succeeds)) then return false
    let bound ← withLock .idempotency (act (.idempotencyBind vault_id))
    return bound.toOption.isSome

/-- `publish_authenticated_unlock`. -/
def publishAuthenticatedUnlock (context : RequestContext) (identified : Bool)
    (vault_id : Bytes 16) : Code P Outcome :=
  withLock .commitGate do
    if ← publicationInterrupted context.key then unlockFailed .cancelled
    else if ← pastDeadline context.deadline then unlockFailed .deadline
    else if ¬identified then unlockFailed .failed
    else if ¬(← bindAuthenticated vault_id) then unlockFailed .failed
    else
      match ← act .incrementEpoch with
      | .error e => return .error e
      | .ok () =>
        if ← act (.compareExchangeState .unlocking .unlocked) then
          let epoch ← act .loadEpoch
          return .ok (.success (.status .unlocked epoch))
        else unlockFailed .cancelled

/-- What follows a core unlock, for a password and for Windows Hello alike. -/
def finishUnlock (context : RequestContext) (identified : Bool)
    (result : Except UnlockError (Bytes 16)) : Code P Outcome := do
  match result with
  | .ok vault_id =>
    match ← cleanupRecoveredPasskeyCreations context with
    | some outcome => unlockFailed outcome
    | none => publishAuthenticatedUnlock context identified vault_id
  | .error .cancelled =>
    act .setLockedUnlessShuttingDown
    return .ok .cancelled
  | .error .failed =>
    act .setLockedUnlessShuttingDown
    return .ok .failed

/-- The transition to `Unlocking` of a password unlock, under the commit gate. -/
def beginUnlock : Code P (Option ExecutionOutcome) :=
  withLock .commitGate do
    if ← act (.loadActive .lock) then return some .busy
    if ← act (.compareExchangeState .locked .unlocking) then return none
    return some .conflict

/-- The state checks with which an unlock begins. -/
def unlockRefused : Code P (Option ExecutionOutcome) := do
  if (← act .loadState) = .unlocking then return some .busy
  if (← act .loadState) ≠ .locked then return some .conflict
  return none

/-- `unlock_vault`. -/
def unlockVault (context : RequestContext) (password : String) : Code P Outcome := do
  match ← unlockRefused with
  | some outcome => return .ok outcome
  | none =>
    withFlag .kdf <|
      match MasterPassword.new password with
      | none => return .ok .invalid
      | some password => do
        match ← beginUnlock with
        | some outcome => return .ok outcome
        | none =>
          let (result, identified) ←
            withLock .vault (unlockWithCore context.key (coreUnlock (P := P) password))
          if ← act (.isCancelled context.key) then unlockFailed .cancelled
          else if ← pastDeadline context.deadline then unlockFailed .deadline
          else finishUnlock context identified result

/-! ## Locking -/

/-- The state that a Lock leaves behind. -/
def lockTarget : AgentState → AgentState
  | .noVault => .noVault
  | .updating => .updating
  | .shuttingDown => .shuttingDown
  | _ => .locked

/-- The gate section of `lock_vault`: the target state, or the answer when there is none. The flag is
given back when the epoch is exhausted. -/
def beginLock : Code P (Except Outcome AgentState) :=
  withLock .commitGate do
    if ¬(← act (.acquireActive .lock)) then return .error (.ok .busy)
    let target := lockTarget (← act .loadState)
    act (.storeState target)
    match ← advanceEpoch with
    | .error e =>
      act (.storeActive .lock false)
      return .error (.error e)
    | .ok () => return .ok target

/-- The end of `lock_vault`: the state is loaded, and unless it is final it is overwritten. -/
def settleLock (target : AgentState) : Code P Unit := do
  let state ← act .loadState
  if state ≠ .updating ∧ state ≠ .shuttingDown then act (.storeState target)

/-- `lock_vault`. The flag stays taken; `finish_dispatch` gives it back. -/
def lockVault : Code P Outcome := do
  match ← beginLock with
  | .error outcome => return outcome
  | .ok target =>
    withLock .creationGate <| withLock .windowsHelloGate do
      lockVaultAgent
      settleLock target
      return .ok (ExecutionOutcome.success .empty).holdLockTransition

/-! ## Windows Hello -/

/-- `windows_hello_terminal_abort`. -/
def windowsHelloTerminalAbort (context : RequestContext) : Code P (Option ExecutionOutcome) := do
  if ← act (.isCancelled context.key) then return some .cancelled
  if ← act (.loadActive .lock) then return some .cancelled
  if ← pastDeadline context.deadline then return some .deadline
  return none

/-- `map_windows_hello_provider_error`. -/
def mapWindowsHelloProviderError : WindowsHelloProviderError → ExecutionOutcome
  | .invalidRequest => .invalid
  | .cancelled => .cancelled
  | _ => .failed

/-- Whether a save has taken effect: `Ok(()) | Err(Published)`. -/
def published : Except WindowsHelloStateError Unit → Bool
  | .ok () | .error .published => true
  | _ => false

/-- `load_windows_hello_state`: the store's path is bound before and after the access, and each
binding may fail. -/
def loadWindowsHelloState : Code P (Except WindowsHelloStateError WindowsHelloLocalState) :=
  withLock .ownedVaults do
    if ¬(← act (.ask Oracle.succeeds)) then return .error .failed
    let result ← act (.hello .load)
    if ¬(← act (.ask Oracle.succeeds)) then return .error .failed
    return result

/-- `save_windows_hello_state`. A binding that fails after a save leaves the state published. -/
def saveWindowsHelloState (state : WindowsHelloLocalState) :
    Code P (Except WindowsHelloStateError Unit) :=
  withLock .ownedVaults do
    if ¬(← act (.ask Oracle.succeeds)) then return .error .failed
    let result ← act (.hello (.save state))
    if ¬(← act (.ask Oracle.succeeds)) then
      return .error (if published result then .published else .failed)
    return result

/-- `remove_windows_hello_state`. -/
def removeWindowsHelloState : Code P (Except WindowsHelloStateError Unit) :=
  withLock .ownedVaults do
    if ¬(← act (.ask Oracle.succeeds)) then return .error .failed
    let result ← act (.hello .removeState)
    if ¬(← act (.ask Oracle.succeeds)) then return .error .failed
    return result

/-- Whether the state is gone: `Ok(()) | Err(NotFound)`. -/
def absent : Except WindowsHelloStateError Unit → Bool
  | .ok () | .error .notFound => true
  | _ => false

/-- `ensure_absent_windows_hello_state`. -/
def ensureAbsentWindowsHelloState : Code P Bool := do
  return absent (← removeWindowsHelloState)

/-- The provider's removal of a credential. -/
def removeCredential (credential_id : List UInt8) : Code P Bool :=
  act (.hello (.removeCredential credential_id))

/-- `persist_windows_hello_cleanup`. -/
def persistWindowsHelloCleanup (previous : Option WindowsHelloLocalState)
    (credential_id : List UInt8) : Code P Bool := do
  let state :=
    match previous with
    | some (.enrollment vault_id key_epoch installation_key active pending prf_salt protector) =>
      (WindowsHelloLocalState.enrollment vault_id key_epoch installation_key active pending prf_salt
        protector).setPendingRemovalCredentialId credential_id
    | _ => WindowsHelloLocalState.newPendingRemoval credential_id
  match state with
  | none => return false
  | some state => return published (← saveWindowsHelloState state)

/-- `remove_windows_hello_credential_or`. -/
def removeWindowsHelloCredentialOr (previous : Option WindowsHelloLocalState)
    (credential_id : List UInt8) (outcome : ExecutionOutcome) : Code P Outcome := do
  if ← removeCredential credential_id then return .ok outcome
  if ← persistWindowsHelloCleanup previous credential_id then return .ok .retryableFailure
  return .ok .failed

/-- `retry_persisted_windows_hello_retirement`: whether there is no retirement left, and the state
without it. -/
def retryPersistedWindowsHelloRetirement (state : WindowsHelloLocalState) :
    Code P (Bool × WindowsHelloLocalState) := do
  match state.pendingRemovalCredentialId with
  | none => return (true, state)
  | some credential_id =>
    if ¬(← removeCredential credential_id) then return (false, state)
    match state.clearPendingRemovalCredentialId with
    | some state => return (published (← saveWindowsHelloState state), state)
    | none => return (← ensureAbsentWindowsHelloState, state)

/-- `rollback_windows_hello_enrollment`. -/
def rollbackWindowsHelloEnrollment (previous replacement : WindowsHelloLocalState) :
    Code P Outcome := do
  match previous.credentialId, replacement.credentialId with
  | some previous_credential_id, some replacement_credential_id =>
    if previous_credential_id = replacement_credential_id then return .ok .failed
    if ¬published (← saveWindowsHelloState previous) then return .ok .failed
    removeWindowsHelloCredentialOr (some previous) replacement_credential_id .retryableFailure
  | _, _ => return .ok .failed

/-- What `enroll_windows_hello` finds in the store: nothing, or a state whose retirement is done. -/
def previousEnrollment :
    Code P (Except ExecutionOutcome (Option (WindowsHelloLocalState × Bool))) := do
  match ← loadWindowsHelloState with
  | .error .notFound =>
    if ← ensureAbsentWindowsHelloState then return .ok none
    return .error .retryableFailure
  | .error _ => return .error .failed
  | .ok state =>
    let recovering := state.pendingRemovalCredentialId.isSome
    let (retired, state) ← retryPersistedWindowsHelloRetirement state
    if retired then return .ok (some (state, recovering))
    return .error .retryableFailure

/-- The way back from a new enrollment that could not be completed. -/
def undoEnrollment (previous : Option WindowsHelloLocalState) (state : WindowsHelloLocalState) :
    Code P Outcome :=
  match previous with
  | some previous => rollbackWindowsHelloEnrollment previous state
  | none => return .ok .retryableFailure

/-- The publication of a new enrollment, under the commit gate: the complete record, then the removal
of the credential that it replaces, then the record without it. -/
def publishEnrollment (previous : Option WindowsHelloLocalState)
    (state : WindowsHelloLocalState) : Code P Outcome := do
  match state.pendingRemovalCredentialId with
  | none => return .ok (ExecutionOutcome.success .empty).commitPoint
  | some pending =>
    if ¬(← removeCredential pending) then undoEnrollment previous state
    else
      match state.clearPendingRemovalCredentialId with
      | none => return .error .internal
      | some state =>
        if published (← saveWindowsHelloState state) then
          return .ok (ExecutionOutcome.success .empty).commitPoint
        return .ok .retryableFailure

/-- The last part of `enroll_windows_hello`, which commits the new local state. -/
def commitEnrollment (context : RequestContext) (previous : Option WindowsHelloLocalState)
    (credential_id : List UInt8) (state : WindowsHelloLocalState) : Code P Outcome := do
  match ← windowsHelloTerminalAbort context with
  | some outcome => removeWindowsHelloCredentialOr previous credential_id outcome
  | none =>
    lock .commitGate
    match ← preSecretOperation context with
    | some outcome =>
      unlock .commitGate
      removeWindowsHelloCredentialOr previous credential_id outcome
    | none =>
      match ← saveWindowsHelloState state with
      | .ok () =>
        let outcome ← publishEnrollment previous state
        unlock .commitGate
        return outcome
      | .error .published =>
        let outcome ← undoEnrollment previous state
        unlock .commitGate
        return outcome
      | .error _ =>
        unlock .commitGate
        let outcome ← windowsHelloTerminalAbort context
        removeWindowsHelloCredentialOr previous credential_id (outcome.getD .failed)

/-- The protector of a new enrollment, made under the vault mutex while the permit is good. `none` is
the answer to a vault that has been locked meanwhile. -/
def createProtector (context : RequestContext) (permit : OperationPermit)
    (binding : Bytes 16 × UInt32) : Code P (Option (Option (List UInt8))) :=
  withLock .vault do
    if ¬(← act (.vaultAuthorized permit)) then return none
    if (← act .vaultBinding) ≠ some binding then return none
    if (← act .loadEpoch) ≠ context.unlock_epoch then return none
    return some (← act (.ask Oracle.protector))

/-- The local state of a new enrollment, with the credential that it replaces marked for removal. -/
def enrolledState (previous : Option WindowsHelloLocalState) (binding : Bytes 16 × UInt32)
    (installation_key : Bytes 32) (enrollment : WindowsHelloEnrollment) (protector : List UInt8) :
    Option WindowsHelloLocalState :=
  let state := WindowsHelloLocalState.enrollment binding.1 binding.2 installation_key
    enrollment.credential_id none enrollment.prf_salt protector
  match previous.bind WindowsHelloLocalState.credentialId with
  | none => some state
  | some replaced =>
    if replaced = enrollment.credential_id then some state
    else state.setPendingRemovalCredentialId replaced

/-- `enroll_windows_hello` after the ceremony. -/
def useEnrollment (context : RequestContext) (permit : OperationPermit)
    (binding : Bytes 16 × UInt32) (previous : Option WindowsHelloLocalState)
    (enrollment : WindowsHelloEnrollment) : Code P Outcome := do
  let giveUp := removeWindowsHelloCredentialOr (P := P) previous enrollment.credential_id
  match ← windowsHelloTerminalAbort context with
  | some outcome => giveUp outcome
  | none =>
    if (← act .loadEpoch) ≠ context.unlock_epoch then giveUp .locked
    else
      match ← act (.ask Oracle.installation_key) with
      | none => giveUp .failed
      | some installation_key =>
        match ← createProtector context permit binding with
        | none => giveUp .locked
        | some none => giveUp .failed
        | some (some protector) =>
          match enrolledState previous binding installation_key enrollment protector with
          | none => giveUp .failed
          | some state => commitEnrollment context previous enrollment.credential_id state

/-- The ceremony of `enroll_windows_hello`, and what follows. -/
def enrollCeremony (context : RequestContext) (permit : OperationPermit)
    (binding : Bytes 16 × UInt32) (previous : Option WindowsHelloLocalState) :
    Code P Outcome :=
  checkingFirst context do
    if ¬(← act (.ask Oracle.succeeds)) then return .error .internal
    match ← act (.hello .enroll) with
    | .error (.cleanupRequired credential_id) =>
      if ← persistWindowsHelloCleanup previous credential_id then return .ok .retryableFailure
      return .ok .failed
    | .error error => return .ok (mapWindowsHelloProviderError error)
    | .ok enrollment => useEnrollment context permit binding previous enrollment

/-- The permit and the binding with which `enroll_windows_hello` begins. -/
def beginEnrollment : Code P (Option (OperationPermit × (Bytes 16 × UInt32))) :=
  withLock .vault do
    match ← act .vaultBeginOperation with
    | none => return none
    | some permit =>
      match ← act .vaultBinding with
      | none => return none
      | some binding => return some (permit, binding)

/-- `enroll_windows_hello`. -/
def enrollWindowsHello (context : RequestContext) : Code P Outcome := do
  if ¬(← act (.ask Oracle.succeeds)) then return .ok .failed
  checkingFirst context <| withFlag .windowsHello <| withLock .windowsHelloGate <|
    checkingFirst context do
      match ← beginEnrollment with
      | none => return .ok .locked
      | some (permit, binding) =>
        match ← previousEnrollment with
        | .error outcome => return .ok outcome
        | .ok none => enrollCeremony context permit binding none
        | .ok (some (state, recovering)) =>
          if state.vaultBinding = none then enrollCeremony context permit binding none
          else if recovering ∧ state.vaultBinding = some binding then
            checkingFirst context (return .ok (.success .empty))
          else enrollCeremony context permit binding (some state)

/-- The transition to `Unlocking` of a Windows Hello unlock, under the commit gate; with it comes the
epoch at which the ceremony starts. -/
def beginHelloUnlock (context : RequestContext) : Code P (Except ExecutionOutcome ℕ) :=
  withLock .commitGate do
    match ← windowsHelloTerminalAbort context with
    | some outcome => return .error outcome
    | none =>
      if (← act .loadEpoch) ≠ context.unlock_epoch then return .error .locked
      let start_epoch ← act .loadEpoch
      if ← act (.compareExchangeState .locked .unlocking) then return .ok start_epoch
      return .error .conflict

/-- A Windows Hello unlock that has failed before the core. -/
def helloUnlockFailed (outcome : ExecutionOutcome) : Code P Outcome := do
  act .setLockedUnlessShuttingDown
  return .ok outcome

/-- `epoch() != start_epoch || state() != Unlocking`. -/
def ceremonyOutdated (start_epoch : ℕ) : Code P Bool := do
  if (← act .loadEpoch) ≠ start_epoch then return true
  return decide ((← act .loadState) ≠ .unlocking)

/-- `unlock_windows_hello` after the ceremony. -/
def helloUnlockCore (context : RequestContext) (state : WindowsHelloLocalState) :
    Code P Outcome := do
  lock .vault
  match state.installationKey, state.protector with
  | some _, some _ =>
    let (result, identified) ← unlockWithCore context.key coreUnlockWithWindowsHello
    unlock .vault
    match ← windowsHelloTerminalAbort context with
    | some outcome => unlockFailed outcome
    | none => finishUnlock context identified result
  | _, _ =>
    let outcome ← helloUnlockFailed .failed
    unlock .vault
    return outcome

/-- The ceremony of `unlock_windows_hello`, and what follows. -/
def helloUnlockCeremony (context : RequestContext) (state : WindowsHelloLocalState)
    (start_epoch : ℕ) : Code P Outcome := do
  match ← act (.ask Oracle.evaluate) with
  | .error error => helloUnlockFailed (mapWindowsHelloProviderError error)
  | .ok _ =>
    match ← windowsHelloTerminalAbort context with
    | some outcome => helloUnlockFailed outcome
    | none =>
      if ← ceremonyOutdated start_epoch then helloUnlockFailed .cancelled
      else helloUnlockCore context state

/-- What `unlock_windows_hello` finds in the store. -/
def enrolledForUnlock : Code P (Except ExecutionOutcome WindowsHelloLocalState) := do
  match ← loadWindowsHelloState with
  | .error .notFound =>
    if ← ensureAbsentWindowsHelloState then return .error .failed
    return .error .retryableFailure
  | .error _ => return .error .failed
  | .ok state =>
    let (retired, state) ← retryPersistedWindowsHelloRetirement state
    if ¬retired then return .error .retryableFailure
    if state.credentialId = none ∨ state.prfSalt = none then return .error .failed
    return .ok state

/-- `unlock_windows_hello`. -/
def unlockWindowsHello (context : RequestContext) : Code P Outcome := do
  if ¬(← act (.ask Oracle.succeeds)) then return .ok .failed
  match ← unlockRefused with
  | some outcome => return .ok outcome
  | none =>
    withFlag .windowsHello <| withLock .windowsHelloGate do
      match ← enrolledForUnlock with
      | .error outcome => return .ok outcome
      | .ok state =>
        if ¬(← act (.ask Oracle.succeeds)) then return .error .internal
        match ← beginHelloUnlock context with
        | .error outcome => return .ok outcome
        | .ok start_epoch => helloUnlockCeremony context state start_epoch

/-- Whether the vault is bound as the local state says. -/
def boundTo (binding : Bytes 16 × UInt32) : Code P Bool :=
  withLock .vault do return decide ((← act .vaultBinding) = some binding)

/-- The part of `remove_windows_hello` under the commit gate, which takes the vault mutex again. -/
def removeEnrollment (context : RequestContext) (binding : Bytes 16 × UInt32)
    (credential_id : List UInt8) : Code P Outcome :=
  withLock .commitGate <| checkingFirst context do
    if ¬(← boundTo binding) then return .ok .failed
    if ¬(← removeCredential credential_id) then return .ok .retryableFailure
    if absent (← removeWindowsHelloState) then
      return .ok (ExecutionOutcome.success .empty).commitPoint
    return .ok .retryableFailure

/-- `remove_windows_hello` on a state without retirement. -/
def removeRetired (context : RequestContext) (state : WindowsHelloLocalState) :
    Code P Outcome := do
  match state.vaultBinding with
  | none => return .ok (.success .empty)
  | some binding =>
    match state.credentialId with
    | none => return .error .internal
    | some credential_id =>
      if ¬(← boundTo binding) then return .ok .failed
      checkingFirst context (removeEnrollment context binding credential_id)

/-- `remove_windows_hello`. -/
def removeWindowsHello (context : RequestContext) : Code P Outcome := do
  if ¬(← act (.ask Oracle.succeeds)) then return .ok .failed
  checkingFirst context <| withFlag .windowsHello <| withLock .windowsHelloGate do
    match ← loadWindowsHelloState with
    | .error .notFound =>
      if ← ensureAbsentWindowsHelloState then return .ok (.success .empty)
      return .ok .retryableFailure
    | .error _ => return .ok .failed
    | .ok state =>
      let (retired, state) ← retryPersistedWindowsHelloRetirement state
      if ¬retired then return .ok .retryableFailure
      removeRetired context state

end Librarian.Agent
