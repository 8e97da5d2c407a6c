import Librarian.Agent.Lifecycle

/-!
# Dispatching requests

Admission, execution and completion of a request, and the other entry points of the runtime. Each
entry point is one thread; `Programs` are all of them.
-/

namespace Librarian.Agent

open Conc Librarian.Core Librarian.Protocol
open Conc.Prog hiding act

variable {P : Primitives}

/-! ## Execution -/

/-- `passkey_binding_failure`. -/
def passkeyBindingFailure (request : OperationRequest) (context : RequestContext) :
    Option ExecutionOutcome :=
  let valid_request_id : Bool :=
    match request with
    | .rollbackPasskeyCreation _ _ => context.key.request_id = 2 ∨ context.key.request_id = 3
    | .confirmPasskeyCreation _ _ => context.key.request_id = 2
    | _ => context.key.request_id = 1
  match request.passkeyProof with
  | none => none
  | some proof =>
    if ¬valid_request_id ∨ proof.agent_challenge ≠ context.key.connection_id then some .invalid
    else none

/-- The `match` of `execute`. `rounds` bounds the loop of `make_passkey` in the run under
consideration. -/
def executeOperation (rounds : ℕ) (context : RequestContext) : OperationRequest → Code P Outcome
  | .status => return .ok (.success .empty)
  | .exactOriginMatches browser => browserFill context browser none
  | .getSelectedCredential browser selection => browserFill context browser (some selection)
  | .createVault master_password => createVault context master_password
  | .unlockMasterPassword master_password => unlockVault context master_password
  | .lock => lockVault
  | .listAccountSummaries offset limit => listAccounts context offset limit
  | .getAccount id => getAccount context id
  | .addAccount fields => addAccount context fields
  | .updateAccount id fields => updateAccount context id fields
  | .deleteAccount id => deleteAccount context id
  | .enrollWindowsHello _ => enrollWindowsHello context
  | .unlockWindowsHello _ => unlockWindowsHello context
  | .removeWindowsHello => removeWindowsHello context
  | .makePasskey proof => makePasskey rounds context proof
  | .getPasskeyAssertion _ credential_id => getPasskeyAssertion context credential_id
  | .deletePasskey credential_id => deletePasskey context credential_id
  | .listPasskeysForAssertion _ => listPasskeysForAssertion context
  | .listPasskeys => listPasskeys context
  | .confirmPasskeyCreation proof credential_id =>
    confirmPasskeyCreation context proof credential_id
  | .rollbackPasskeyCreation proof credential_id =>
    rollbackPasskeyCreation context proof credential_id

/-- `execute`. -/
def execute (rounds : ℕ) (context : RequestContext) (request : OperationRequest) :
    Code P Outcome := do
  if ← act (.isCancelled context.key) then return .ok .cancelled
  if ← pastDeadline context.deadline then return .ok .deadline
  executeOperation rounds context request

/-- `execute_decoded`. -/
def executeDecoded (rounds : ℕ) (context : RequestContext) (request : OperationRequest) :
    Code P Outcome :=
  match passkeyBindingFailure request context with
  | some rejection => return .ok rejection
  | none => execute rounds context request

/-- `map_operation_decode_error`. -/
def mapOperationDecodeError : DecodeError → ExecutionOutcome
  | .unsupported => .failed
  | .invalid => .invalid

/-- The decoding and execution that both branches of `dispatch_with_admission` share. -/
def executeEnvelope (rounds : ℕ) (context : RequestContext) (envelope : RequestEnvelope) :
    Code P Outcome :=
  match envelope.decoded with
  | .ok request => executeDecoded rounds context request
  | .error error => return .ok (mapOperationDecodeError error)

/-- The replay of a cached outcome, which is refused to a request that fails its binding. -/
def validateReplay (context : RequestContext) (envelope : RequestEnvelope)
    (cached : CachedOutcome) : ExecutionOutcome :=
  match envelope.decoded with
  | .ok request => (passkeyBindingFailure request context).getD cached.replay
  | .error _ => cached.replay

/-- What `execute_idempotent` caches of an outcome. -/
def cachedOutcome (request_fingerprint : Bytes 32) (outcome : ExecutionOutcome) :
    Option CachedOutcome :=
  if outcome.shouldCache then
    some ⟨request_fingerprint, outcome.error, outcome.retry, outcome.body⟩
  else none

/-- The end of `execute_idempotent`. A reservation that is not completed is dropped. -/
def completeReservation (key : IdempotencyKey) (request_fingerprint : Bytes 32)
    (outcome : Outcome) : Code P Outcome := do
  match outcome with
  | .error e =>
    withLock .idempotency (act (.idempotencyRelease key))
    return .error e
  | .ok outcome =>
    match ← withLock .idempotency
        (act (.idempotencyComplete key (cachedOutcome request_fingerprint outcome))) with
    | .ok () => return .ok outcome
    | .error e =>
      withLock .idempotency (act (.idempotencyRelease key))
      return .error e

/-- `execute_idempotent`. -/
def executeIdempotent (key : IdempotencyKey) (request_fingerprint : Bytes 32)
    (replay : CachedOutcome → ExecutionOutcome) (body : Code P Outcome) : Code P Outcome := do
  match ← withLock .idempotency (act (.idempotencyReserve key request_fingerprint)) with
  | .conflict => return .ok .conflict
  | .busy => return .ok .busy
  | .replay cached => return .ok (replay cached)
  | .reserved =>
    let outcome ← body
    completeReservation key request_fingerprint outcome

/-- `request_fingerprint`: a keyed hash of the operation, of the epoch where the operation depends on
it, and of the body. -/
def requestFingerprint (hmac : List UInt8 → Bytes 32) (operation : OperationCode)
    (unlock_epoch : ℕ) (body : List UInt8) : Bytes 32 :=
  hmac <|
    Utf8.encode "Librarian idempotency request v2" ++ [0] ++ BigEndian.encode 2 operation.code ++
      (if operation.requiresUnlockedEpoch then 1 :: BigEndian.encode 8 unlock_epoch else [0]) ++
      body

/-! ## Admission -/

/-- What `admit_request` decides. After a rejection the commit gate is still held. -/
inductive RequestAdmission
  | admitted (context : RequestContext) (permit : RequestPermit)
  | rejected (response : Response)
  | fatal
  deriving DecidableEq

/-- The answer to a request for which there is no room. -/
def refuseBusy (deadline : ℕ) : Code P RequestAdmission := do
  if ← pastDeadline deadline then return .rejected ExecutionOutcome.deadline.intoResponse
  return .rejected ExecutionOutcome.busy.intoResponse

/-- A cancellation may have come between the issue of the id and the registration. -/
def carryOverCancellation (key : RequestKey) : Code P Unit := do
  if ← act (.connectionIsCancelled key) then act (.cancelFlag key)

/-- The registration of an admitted request, under the commit gate. -/
def registerRequest (connection : Connection) (permit : RequestPermit) (deadline : ℕ) :
    Code P RequestAdmission := do
  let key : RequestKey := ⟨connection.connection_id, permit.request_id⟩
  if ¬(← act .acquireGlobal) then
    match ← act (.connectionFinish key) with
    | .error _ =>
      unlock .commitGate
      return .fatal
    | .ok _ => refuseBusy deadline
  else
    if ¬(← withLock .cancellations (act (.register key))) then
      act .releaseGlobal
      unlock .commitGate
      return .fatal
    else
      carryOverCancellation key
      unlock .commitGate
      return .admitted
        ⟨key, permit.unlock_epoch, deadline, connection.authenticated_process_id⟩ permit

/-- `admit_request`. -/
def admitRequest (connection : Connection) (header : FrameHeader) (envelope : RequestEnvelope) :
    Code P RequestAdmission := do
  let admission_started ← act .now
  let current_unlock_epoch ← act .loadEpoch
  let permit ← act (.beginRequest connection header envelope current_unlock_epoch)
  lock .commitGate
  match permit with
  | .error .unauthorized => return .rejected (.failure .unauthorizedOperation .never)
  | .error (.busy effective_timeout_ms) => refuseBusy (admission_started + effective_timeout_ms)
  | .error .staleEpoch => return .rejected (.failure .locked .afterUnlock)
  | .error .missingIdempotencyKey => return .rejected (.failure .invalidRequest .never)
  | .error (.connection _) =>
    unlock .commitGate
    return .fatal
  | .ok permit =>
    registerRequest connection permit (admission_started + permit.effective_timeout_ms)

/-! ## Completion -/

/-- `outcome_is_still_authorized`. -/
def outcomeIsStillAuthorized (permit : RequestPermit) (outcome : ExecutionOutcome) :
    Code P Bool := do
  match permit.operation with
  | .status | .lock => return decide (outcome.error = none)
  | .createVault | .unlockMasterPassword | .unlockWindowsHello =>
    if ← act (.loadActive .lock) then return false
    return decide ((← act .loadState) = .unlocked)
  | operation =>
    if operation.requiresUnlockedEpoch then
      if ← act (.loadActive .lock) then return false
      return !(← notUnlockedAt permit.unlock_epoch)
    else return false

/-- The checks of `finish_dispatch` on an outcome that is not committed. -/
def recheckOutcome (context : RequestContext) (permit : RequestPermit)
    (completion : RequestCompletion) (outcome : ExecutionOutcome) : Code P ExecutionOutcome := do
  if completion = .cancelled then return .cancelled
  if outcome.error = none ∨ outcome.error = some .notFound then
    let cancelled ← act (.isCancelled context.key)
    if cancelled ∧ permit.operation ≠ .lock then return .cancelled
    if ← pastDeadline context.deadline then return .deadline
    let authorized ← outcomeIsStillAuthorized permit outcome
    if authorized ∨ outcome.replayed ∧ permit.operation = .createVault then return outcome
    return .locked
  return outcome

/-- The checks of `finish_dispatch` on every outcome. A committed one is past them. -/
def recheckUncommitted (context : RequestContext) (permit : RequestPermit)
    (completion : RequestCompletion) (outcome : ExecutionOutcome) : Code P ExecutionOutcome :=
  if outcome.committed then return outcome
  else recheckOutcome context permit completion outcome

/-- The deadline of a browser outcome. -/
def recheckBrowserDeadline (outcome : ExecutionOutcome) : Code P ExecutionOutcome := do
  match outcome.browser_deadline with
  | none => return outcome
  | some deadline =>
    if ← pastDeadline deadline then return .deadline
    return outcome

/-- The browser checks of `finish_dispatch`. -/
def recheckBrowser (outcome : ExecutionOutcome) : Code P ExecutionOutcome := do
  let outcome ← recheckBrowserDeadline outcome
  match outcome.browser_generation with
  | none => return outcome
  | some generation =>
    let current ← act .loadAccountsGeneration
    if generation = u64Max ∨ generation ≠ current then return .conflict
    return outcome

/-- The drop of a `DispatchContext`. -/
def dropContext (key : RequestKey) : Code P Unit := do
  act .releaseGlobal
  withLock .cancellations (act (.deregister key))

/-- The drop of the `FlagPermit` that a Lock hands over. -/
def endLockTransition (held : Bool) : Code P Unit :=
  if held then act (.storeActive .lock false) else return ()

/-- A failed browser request loses its lease. -/
def consumeFailedLease (context : RequestContext) (permit : RequestPermit)
    (outcome : ExecutionOutcome) : Code P Unit :=
  if outcome.error.isSome ∧
      (permit.operation = .exactOriginMatches ∨ permit.operation = .getSelectedCredential) then
    withLock .browserLeases (act (.leaseConsume context.key.connection_id))
  else return ()

/-- The status that a success of `Status` or `CreateVault` reports is read under the commit gate. -/
def refreshStatus (permit : RequestPermit) (outcome : ExecutionOutcome) :
    Code P ExecutionOutcome := do
  if outcome.error = none ∧ (permit.operation = .status ∨ permit.operation = .createVault) then
    let state ← act .loadState
    let epoch ← act .loadEpoch
    return .success (.status state epoch)
  return outcome

/-- The last part of `finish_dispatch` under the commit gate: the response is bounded and written.
The result says whether a response was written. -/
def respond (context : RequestContext) (permit : RequestPermit) (outcome : ExecutionOutcome) :
    Code P Bool := do
  consumeFailedLease context permit outcome
  let outcome ← refreshStatus permit outcome
  if ← act (.ask Oracle.succeeds) then
    act (.writeResponse context.key permit outcome.committed outcome.intoResponse)
    return true
  else if ← act (.ask Oracle.succeeds) then
    -- The response does not fit into the negotiated payload.
    act (.writeResponse context.key permit outcome.committed (.failure .operationFailed .never))
    return true
  else return false

/-- `finish_dispatch`. The drop of the context comes before the release of the gate, unless the
function returns early. -/
def finishDispatch (context : RequestContext) (permit : RequestPermit)
    (outcome : ExecutionOutcome) : Code P Unit := do
  lock .commitGate
  match ← act (.connectionFinish context.key) with
  | .error _ =>
    unlock .commitGate
    endLockTransition outcome.holds_lock_transition
    dropContext context.key
  | .ok completion =>
    let rechecked ← recheckUncommitted context permit completion outcome
    let rechecked ← recheckBrowser rechecked
    if ← respond context permit rechecked then
      dropContext context.key
      unlock .commitGate
      endLockTransition outcome.holds_lock_transition
    else
      unlock .commitGate
      endLockTransition outcome.holds_lock_transition
      dropContext context.key

/-! ## The entry points -/

/-- The execution of an admitted request. -/
def executeAdmitted (hmac : List UInt8 → Bytes 32) (rounds : ℕ) (context : RequestContext)
    (permit : RequestPermit) (envelope : RequestEnvelope) : Code P Outcome :=
  if permit.operation.requiresIdempotencyKey then
    match envelope.idempotency_key with
    | none => return .error .internal
    | some key =>
      executeIdempotent key
        (requestFingerprint hmac envelope.operation permit.unlock_epoch envelope.body)
        (validateReplay context envelope) (executeEnvelope rounds context envelope)
  else executeEnvelope rounds context envelope

/-- `dispatch_with_admission`. -/
def dispatch (hmac : List UInt8 → Bytes 32) (rounds : ℕ) (connection : Connection)
    (header : FrameHeader) (envelope : RequestEnvelope) : Code P Unit := do
  if ¬(← act (.ask Oracle.succeeds)) then return ()
  match ← admitRequest connection header envelope with
  | .fatal => return ()
  | .rejected response =>
    act (.writeRejection ⟨connection.connection_id, header.request_id⟩ response)
    unlock .commitGate
  | .admitted context permit =>
    match ← executeAdmitted hmac rounds context permit envelope with
    | .error _ => dropContext context.key
    | .ok outcome => finishDispatch context permit outcome

/-- `apply_cancel`. -/
def applyCancel (connection : Connection) (header : FrameHeader) : Code P Unit :=
  withLock .commitGate do
    match ← act (.connectionCancel connection header) with
    | .error _ => return ()
    | .ok () =>
      withLock .cancellations <|
        act (.cancelRequest ⟨connection.connection_id, header.request_id⟩)

/-- The gate section of `disconnect`. -/
def closeConnection (connection_id : ConnectionId) : Code P Unit :=
  withLock .commitGate do
    act (.connectionClose connection_id)
    withLock .cancellations (act (.cancelConnection connection_id))
    withLock .browserLeases (act (.leaseRemove connection_id))
    withLock .pendingPasskeyCreations (act (.pendingDisconnect connection_id))

/-- `disconnect`. -/
def disconnect (rounds : ℕ) (connection_id : ConnectionId) : Code P Unit := do
  closeConnection connection_id
  let _ ← rollbackDisconnectedPasskeyCreations rounds
  act (.returned (.disconnect connection_id))

/-- The gate section of `shutdown`. -/
def beginShutdown : Code P (Except DispatchError Unit) :=
  withLock .commitGate do
    act (.storeActive .lock true)
    act (.storeState .shuttingDown)
    advanceEpoch

/-- `shutdown`. Only a shutdown that has succeeded is recorded as returned. -/
def shutdown : Code P Unit := do
  match ← beginShutdown with
  | .error _ => return ()
  | .ok () =>
    withLock .creationGate <| withLock .windowsHelloGate do
      lockVaultAgent
      act (.storeState .shuttingDown)
    act (.returned .shutdown)

/-- `status_snapshot`. -/
def statusSnapshot : Code P (AgentState × ℕ) :=
  withLock .commitGate do
    let state ← act .loadState
    let epoch ← act .loadEpoch
    return (state, epoch)

/-- A handshake: the advertised state is read, and the connection is set up. -/
def accept (connection : Connection) : Code P Unit := do
  let _ ← statusSnapshot
  act (.connect connection)

/-- What the threads of the agent run. -/
inductive Program (P : Primitives) (hmac : List UInt8 → Bytes 32) : Code P Unit → Prop
  | accept (connection : Connection) : Program P hmac (accept connection)
  | dispatch (rounds : ℕ) (connection : Connection) (header : FrameHeader)
      (envelope : RequestEnvelope) :
      Program P hmac (dispatch hmac rounds connection header envelope)
  | applyCancel (connection : Connection) (header : FrameHeader) :
      Program P hmac (applyCancel connection header)
  | disconnect (rounds : ℕ) (connection_id : ConnectionId) :
      Program P hmac (disconnect rounds connection_id)
  | shutdown : Program P hmac shutdown

/-- A run of the agent from its start. -/
abbrev AgentRun (P : Primitives) (hmac : List UInt8 → Bytes 32) (vault_exists : Bool) :
    History (machine P) → Config (machine P) → Prop :=
  Run (Program P hmac) (Shared.start vault_exists)

end Librarian.Agent
