import Mathlib.Data.Fintype.Sets
import Mathlib.Data.List.AList
import Mathlib.Data.Prod.Lex
import Librarian.Agent.Idempotency
import Librarian.Agent.VaultAgent
import Librarian.Agent.WindowsHello
import Librarian.Lib.Conc.Logic
import Librarian.Protocol.Connection

/-!
# The shared state of the agent and its atomic actions

`AgentRuntime` and its `Coordinator` share ten mutexes and a handful of atomics between the threads
that serve requests, cancellations, disconnects and the shutdown. An action is one access that no
other thread can see half done: a load, a store or a read-modify-write of an atomic, or an access to
what a mutex protects, under that mutex. Everything that the runtime asks of the outside (storage,
the platform, random bytes, the clock) is answered by the oracle.

No mutex is ever poisoned, since no thread panics in the model.
-/

namespace Librarian.Agent

open Librarian.Core Librarian.Protocol

abbrev ConnectionId : Type := Bytes 16

/-- A request of a connection. -/
structure RequestKey where
  connection_id : ConnectionId
  request_id : ℕ
  deriving DecidableEq

/-- A passkey creation that its connection has still to confirm. -/
structure PendingPasskeyCreationKey where
  connection_id : ConnectionId
  transaction_id : Bytes 16
  deriving DecidableEq

/-- What the agent remembers of a passkey creation. -/
structure PendingPasskeyCreation where
  credential_id : Bytes 32
  authenticated_process_id : ℕ
  unlock_epoch : ℕ
  confirmed : Bool
  disconnected : Bool
  deriving DecidableEq

/-- The entries of `pending_passkey_creations`, in the order of their keys. -/
abbrev PendingPasskeyCreations : Type := List (PendingPasskeyCreationKey × PendingPasskeyCreation)

namespace PendingPasskeyCreations

/-- The order of the keys. -/
def sortKey (entry : PendingPasskeyCreationKey × PendingPasskeyCreation) : Bytes 16 ×ₗ Bytes 16 :=
  toLex (entry.1.connection_id, entry.1.transaction_id)

/-- `BTreeMap::get`. -/
def get (pending : PendingPasskeyCreations) (key : PendingPasskeyCreationKey) :
    Option PendingPasskeyCreation :=
  (pending.find? fun entry => entry.1 = key).map Prod.snd

/-- `BTreeMap::remove`, without its result. -/
def remove (pending : PendingPasskeyCreations) (key : PendingPasskeyCreationKey) :
    PendingPasskeyCreations :=
  pending.filter fun entry => entry.1 ≠ key

/-- `BTreeMap::insert`, without its result. -/
def insert (pending : PendingPasskeyCreations) (key : PendingPasskeyCreationKey)
    (creation : PendingPasskeyCreation) : PendingPasskeyCreations :=
  Keyed.sortByKey sortKey (pending.remove key ++ [(key, creation)])

/-- The `retain` of `disconnect`: a confirmed creation of the connection is forgotten, and an
unconfirmed one is marked. -/
def disconnect (pending : PendingPasskeyCreations) (connection_id : ConnectionId) :
    PendingPasskeyCreations :=
  pending.filterMap fun entry =>
    if entry.1.connection_id ≠ connection_id then some entry
    else if entry.2.confirmed then none
    else some (entry.1, { entry.2 with disconnected := true })

end PendingPasskeyCreations

/-- The right to read one credential, issued to one connection. -/
structure BrowserLease where
  context : BrowserContext
  selection : BrowserSelection
  epoch : ℕ
  accounts_generation : ℕ
  expires : ℕ
  deriving DecidableEq

/-- The atomics that a `FlagPermit` is taken on. -/
inductive Flag
  | kdf
  | mutation
  | lock
  | windowsHello
  deriving DecidableEq, Repr

/-- The mutexes. -/
inductive Mutex
  | creationGate
  | windowsHelloGate
  | passkeyCleanupGate
  | vault
  | commitGate
  | ownedVaults
  | idempotency
  | browserLeases
  | pendingPasskeyCreations
  | cancellations
  deriving DecidableEq, Repr

instance Mutex.instFintype : Fintype Mutex where
  elems := {.creationGate, .windowsHelloGate, .passkeyCleanupGate, .vault, .commitGate,
    .ownedVaults, .idempotency, .browserLeases, .pendingPasskeyCreations, .cancellations}
  complete m := by cases m <;> decide

/-- What the threads share. A cancellation flag outlives its entry in `cancellations`, so the flags
and the keys of that map are apart; `None` in `browser_leases` is a consumed tombstone. -/
structure Shared where
  state : AgentState
  epoch : ℕ
  active : Flag → Bool
  global_in_flight : ℕ
  cancellations : Finset RequestKey
  cancelled : RequestKey → Bool
  connections : AList fun _ : ConnectionId => ConnectionState
  vault : VaultAgent
  next_session_id : ℕ
  idempotency : IdempotencyState
  browser_leases : AList fun _ : ConnectionId => Option BrowserLease
  accounts_generation : ℕ
  pending_passkey_creations : PendingPasskeyCreations
  /-- The monotonic clock of `Instant`. -/
  clock : ℕ

/-- The runtime after `start`: a vault file exists or it does not. -/
def Shared.start (vault_exists : Bool) : Shared where
  state := if vault_exists then .locked else .noVault
  epoch := 1
  active _ := false
  global_in_flight := 0
  cancellations := ∅
  cancelled _ := false
  connections := ∅
  vault := .openLocked
  next_session_id := 1
  idempotency := .new
  browser_leases := ∅
  accounts_generation := 1
  pending_passkey_creations := []
  clock := 0

/-! ## The outside -/

/-- Why the platform did not verify a passkey request. -/
inductive PasskeyVerificationError
  | invalid
  | unavailable
  | failed
  deriving DecidableEq, Repr

structure VerifiedMakeRequest where
  rp_id : String
  user_handle : List UInt8
  user_name : String
  user_display_name : String
  excluded_credential_ids : List (Bytes 32)

structure VerifiedAssertionRequest where
  rp_id : String
  client_data_hash : Bytes 32

structure VerifiedAssertionLookup where
  rp_id : String
  allowed_credential_ids : List (Bytes 32)
  allow_list_present : Bool

/-- A non-secret failure while creating a new local vault. -/
inductive CreateError
  | alreadyExists
  | failed
  deriving DecidableEq, Repr

/-- What the outside answers at one step. Each step consults the fields that it needs. -/
structure Oracle where
  /-- Whether an operation of the platform or of the file system succeeds. -/
  succeeds : Bool := true
  /-- How much time has passed on the monotonic clock. -/
  elapsed : ℕ := 0
  /-- The contents of the vault file, when it can be read. -/
  stored : Option Snapshot := none
  /-- `unix_time_ms`. -/
  unix_time_ms : Option UInt64 := some 0
  /-- The answers of `should_cancel` during one call of the core. -/
  should_cancel : ℕ → Bool := fun _ => false
  entropy : Entropy := []
  random : Option (Bytes 16) := none
  publish : Except CreateError Unit := .ok ()
  verify_make : Except PasskeyVerificationError VerifiedMakeRequest := .error .unavailable
  verify_assertion : Except PasskeyVerificationError VerifiedAssertionRequest :=
    .error .unavailable
  verify_assertion_lookup : Except PasskeyVerificationError VerifiedAssertionLookup :=
    .error .unavailable
  remove_cached_credential : Except PasskeyVerificationError Unit := .ok ()
  /-- The provider's enrollment ceremony. -/
  enroll : Except WindowsHelloProviderError WindowsHelloEnrollment := .error .unavailable
  /-- The provider's evaluation ceremony. -/
  evaluate : Except WindowsHelloProviderError (Bytes 32) := .error .unavailable
  /-- `unlock_vault_with_windows_hello`, on the stored bytes. -/
  windows_hello_session : Except UnlockError UnlockedVault := .error .failed
  /-- `create_windows_hello_protector`, and the checks of `WindowsHelloLocalState::new`. -/
  protector : Option (List UInt8) := none
  installation_key : Option (Bytes 32) := none
  load_windows_hello_state : Except WindowsHelloStateError WindowsHelloLocalState :=
    .error .notFound
  save_windows_hello_state : Except WindowsHelloStateError Unit := .ok ()

/-- The oracle's answers to the calls of Windows Hello. -/
def Oracle.hello (o : Oracle) : (call : HelloCall) → call.Result
  | .load => o.load_windows_hello_state
  | .save _ | .removeState => o.save_windows_hello_state
  | .enroll => o.enroll
  | .removeCredential _ => o.succeeds

/-! ## Actions -/

/-- For whom a change is made durable. -/
inductive Origin
  | request (key : RequestKey) (unlock_epoch : ℕ)
  | disconnectedCreation
  | recoveredCreation
  deriving DecidableEq

/-- Public entry points whose return is an event of its own. -/
inductive EntryPoint
  | disconnect (connection_id : ConnectionId)
  | shutdown
  deriving DecidableEq

/-- How `claim_browser_lease` finds the slot of a connection that asks for a new lease. -/
inductive SlotClaim
  | occupied
  | full
  | claimed
  deriving DecidableEq, Repr

/-- A response, by what it carries. -/
inductive Response
  | success (body : Body)
  | failure (error : PublicErrorCode) (retry : RetryCategory)
  deriving DecidableEq

/-- `into_response`. -/
def ExecutionOutcome.intoResponse (outcome : ExecutionOutcome) : Response :=
  match outcome.error with
  | some error => .failure error outcome.retry
  | none => .success outcome.body

/-- The atomic actions. -/
inductive Action (P : Primitives) : Type 1
  -- The published state.
  | loadState
  | storeState (state : AgentState)
  | compareExchangeState (current new : AgentState)
  | setLockedUnlessShuttingDown
  -- The coordinator.
  | loadEpoch
  | incrementEpoch
  | loadActive (flag : Flag)
  | acquireActive (flag : Flag)
  | storeActive (flag : Flag) (active : Bool)
  | acquireGlobal
  | releaseGlobal
  | register (key : RequestKey)
  | deregister (key : RequestKey)
  | isCancelled (key : RequestKey)
  | cancelFlag (key : RequestKey)
  | cancelRequest (key : RequestKey)
  | cancelConnection (connection_id : ConnectionId)
  | cancelAll
  -- The connections.
  | connect (connection : Connection)
  | beginRequest (connection : Connection) (header : FrameHeader) (envelope : RequestEnvelope)
      (current_unlock_epoch : ℕ)
  | connectionCancel (connection : Connection) (header : FrameHeader)
  | connectionIsCancelled (key : RequestKey)
  | connectionFinish (key : RequestKey)
  | connectionClose (connection_id : ConnectionId)
  -- The vault agent.
  | vaultLock
  | vaultBinding
  | vaultBeginOperation
  | vaultAuthorized (permit : OperationPermit)
  | vaultRead {α : Type} (query : Query P α)
  | vaultPrepare {α : Type} (change : Change P α)
  | commit (origin : Origin) (prepared : PreparedRecordMutation)
  | vaultCommitRecordMutation (permit : OperationPermit) (prepared : PreparedRecordMutation)
  | nextSessionId
  | vaultStoreSession (session : UnlockedVault) (snapshot : Snapshot) (session_id : ℕ)
  | vaultInstall (agent : VaultAgent)
  -- What has a mutex of its own.
  | idempotencyReserve (key : IdempotencyKey) (request_fingerprint : Bytes 32)
  | idempotencyComplete (key : IdempotencyKey) (cached : Option CachedOutcome)
  | idempotencyRelease (key : IdempotencyKey)
  | idempotencyInitialize (vault_id : Bytes 16)
  | idempotencyBind (vault_id : Bytes 16)
  | leaseTake (connection_id : ConnectionId)
  | leaseClaim (connection_id : ConnectionId)
  | leaseIssue (connection_id : ConnectionId) (lease : BrowserLease)
  | leaseConsume (connection_id : ConnectionId)
  | leaseRemove (connection_id : ConnectionId)
  | pendingFindDisconnected
  | pendingGet (key : PendingPasskeyCreationKey)
  | pendingInsert (key : PendingPasskeyCreationKey) (creation : PendingPasskeyCreation)
  | pendingRemove (key : PendingPasskeyCreationKey)
  | pendingDisconnect (connection_id : ConnectionId)
  -- The generation of the accounts.
  | loadAccountsGeneration
  | accountsChanged
  -- The outside.
  | now
  | ask {α : Type} (view : Oracle → α)
  | hello (call : HelloCall)
  | writeResponse (key : RequestKey) (permit : RequestPermit) (committed : Bool)
      (response : Response)
  | writeRejection (key : RequestKey) (response : Response)
  | returned (call : EntryPoint)

/-- The results of the actions. -/
abbrev Action.Result {P : Primitives} : Action P → Type
  | @Action.vaultRead _ α _ => Except AccountError α
  | @Action.vaultPrepare _ α _ => Except AccountError (OperationPermit × PreparedRecordMutation × α)
  | @Action.ask _ α _ => α
  | .hello call => call.Result
  | .loadState => AgentState
  | .storeState _ | .setLockedUnlessShuttingDown | .storeActive _ _ | .releaseGlobal
  | .deregister _ | .cancelFlag _ | .cancelRequest _ | .cancelConnection _ | .cancelAll
  | .connect _ | .connectionClose _ | .vaultLock | .vaultInstall _ | .idempotencyRelease _
  | .leaseConsume _ | .leaseRemove _ | .pendingDisconnect _ | .accountsChanged
  | .writeResponse _ _ _ _ | .writeRejection _ _ | .returned _ => Unit
  | .compareExchangeState _ _ | .loadActive _ | .acquireActive _ | .acquireGlobal | .register _
  | .isCancelled _ | .connectionIsCancelled _ | .vaultAuthorized _ | .commit _ _
  | .vaultStoreSession _ _ _ | .leaseIssue _ _ => Bool
  | .loadEpoch | .loadAccountsGeneration | .now => ℕ
  | .incrementEpoch | .idempotencyComplete _ _ | .idempotencyInitialize _
  | .idempotencyBind _ => Except DispatchError Unit
  | .beginRequest _ _ _ _ => Except BeginRequestError RequestPermit
  | .connectionCancel _ _ => Except ConnectionError Unit
  | .connectionFinish _ => Except ConnectionError RequestCompletion
  | .vaultBinding => Option (Bytes 16 × UInt32)
  | .vaultBeginOperation => Option OperationPermit
  | .vaultCommitRecordMutation _ _ => Except AccountError RecordId
  | .nextSessionId => Option ℕ
  | .idempotencyReserve _ _ => Admission
  | .leaseTake _ => Option BrowserLease
  | .leaseClaim _ => SlotClaim
  | .pendingFindDisconnected => Option (PendingPasskeyCreationKey × PendingPasskeyCreation)
  | .pendingGet _ | .pendingInsert _ _ | .pendingRemove _ => Option PendingPasskeyCreation

namespace Shared

variable (s : Shared)

/-- Applies an operation of a connection to its state. A connection that was never negotiated
behaves like a closed one. -/
def onConnection {α : Type} (connection_id : ConnectionId) (absent : α)
    (f : ConnectionState → α × ConnectionState) : α × Shared :=
  match s.connections.lookup connection_id with
  | none => (absent, s)
  | some state =>
    ((f state).1, { s with connections := s.connections.insert connection_id (f state).2 })

/-- Sets the flags of the registered requests that satisfy a condition. -/
def cancelWhere (which : RequestKey → Bool) : Shared :=
  { s with
    cancelled := fun key => s.cancelled key || (decide (key ∈ s.cancellations) && which key) }

/-- Changes what a connection has in `browser_leases`. -/
def setLease (connection_id : ConnectionId) (slot : Option BrowserLease) : Shared :=
  { s with browser_leases := s.browser_leases.insert connection_id slot }

end Shared

/-- What each action does. -/
def perform {P : Primitives} (action : Action P) (o : Oracle) (s : Shared) :
    action.Result × Shared :=
  match action with
  | .loadState => (s.state, s)
  | .storeState state => ((), { s with state := state })
  | .compareExchangeState current new =>
    if s.state = current then (true, { s with state := new }) else (false, s)
  | .setLockedUnlessShuttingDown =>
    if s.state = .updating ∨ s.state = .shuttingDown then ((), s)
    else ((), { s with state := .locked })
  | .loadEpoch => (s.epoch, s)
  | .incrementEpoch =>
    match checkedAddOne s.epoch with
    | none => (.error .internal, s)
    | some next => (.ok (), { s with epoch := next })
  | .loadActive flag => (s.active flag, s)
  | .acquireActive flag =>
    if s.active flag then (false, s)
    else (true, { s with active := Function.update s.active flag true })
  | .storeActive flag active => ((), { s with active := Function.update s.active flag active })
  | .acquireGlobal =>
    if s.global_in_flight < maxInFlightGlobal then
      (true, { s with global_in_flight := s.global_in_flight + 1 })
    else (false, s)
  | .releaseGlobal => ((), { s with global_in_flight := s.global_in_flight - 1 })
  | .register key =>
    if key ∈ s.cancellations then
      -- The ids of a connection increase, so no request comes here.
      (false, s)
    else
      (true, { s with
        cancellations := insert key s.cancellations
        cancelled := Function.update s.cancelled key false })
  | .deregister key => ((), { s with cancellations := s.cancellations.erase key })
  | .isCancelled key => (s.cancelled key, s)
  | .cancelFlag key => ((), { s with cancelled := Function.update s.cancelled key true })
  | .cancelRequest key => ((), s.cancelWhere fun other => other = key)
  | .cancelConnection connection_id =>
    ((), s.cancelWhere fun other => other.connection_id = connection_id)
  | .cancelAll => ((), s.cancelWhere fun _ => true)
  | .connect connection =>
    if (s.connections.lookup connection.connection_id).isSome then ((), s)
    else
      ((), { s with connections := s.connections.insert connection.connection_id .new })
  | .beginRequest connection header envelope current_unlock_epoch =>
    s.onConnection connection.connection_id (.error (.connection .connectionClosed))
      (ConnectionState.beginRequest connection header envelope current_unlock_epoch)
  | .connectionCancel connection header =>
    s.onConnection connection.connection_id (.error .connectionClosed)
      (ConnectionState.cancel connection header)
  | .connectionIsCancelled key =>
    (((s.connections.lookup key.connection_id).map
      (ConnectionState.isCancelled key.request_id)).getD true, s)
  | .connectionFinish key =>
    s.onConnection key.connection_id (.error .connectionClosed)
      (ConnectionState.finish key.request_id)
  | .connectionClose connection_id =>
    s.onConnection connection_id () fun state => ((), state.close)
  | .vaultLock => ((), { s with vault := s.vault.lock })
  | .vaultBinding => (s.vault.authenticatedVaultBinding, s)
  | .vaultBeginOperation => (s.vault.beginOperation, s)
  | .vaultAuthorized permit => (s.vault.operationIsAuthorized permit, s)
  | .vaultRead query =>
    let done := s.vault.read query o.stored o.should_cancel
    (done.1, { s with vault := done.2 })
  | .vaultPrepare change =>
    let done := s.vault.prepare change o.stored o.unix_time_ms o.should_cancel o.entropy
    (done.1.map fun value => (value.1, value.2.2), { s with vault := done.2 })
  | .commit _ _ => (o.succeeds, s)
  | .vaultCommitRecordMutation permit prepared =>
    let done := s.vault.commitRecordMutation permit prepared
    (done.1, { s with vault := done.2 })
  | .nextSessionId =>
    match checkedAddOne s.next_session_id with
    | none => (none, s)
    | some next => (some s.next_session_id, { s with next_session_id := next })
  | .vaultStoreSession session snapshot session_id =>
    let done := s.vault.storeSession session snapshot session_id
    (done.1, { s with vault := done.2 })
  | .vaultInstall agent => ((), { s with vault := agent })
  | .idempotencyReserve key request_fingerprint =>
    let done := s.idempotency.reserve key request_fingerprint
    (done.1, { s with idempotency := done.2 })
  | .idempotencyComplete key cached =>
    let done := s.idempotency.complete key cached
    (done.1, { s with idempotency := done.2 })
  | .idempotencyRelease key => ((), { s with idempotency := s.idempotency.release key })
  | .idempotencyInitialize vault_id =>
    let done := s.idempotency.initializeIdempotencyVault vault_id
    (done.1, { s with idempotency := done.2 })
  | .idempotencyBind vault_id =>
    let done := s.idempotency.bindAuthenticatedIdempotencyVault vault_id
    (done.1, { s with idempotency := done.2 })
  | .leaseTake connection_id =>
    match s.browser_leases.lookup connection_id with
    | some (some lease) => (some lease, s.setLease connection_id none)
    | _ => (none, s)
  | .leaseClaim connection_id =>
    if (s.browser_leases.lookup connection_id).isSome then (.occupied, s)
    else if s.browser_leases.keys.length ≥ maxConnections then (.full, s)
    else (.claimed, s.setLease connection_id none)
  | .leaseIssue connection_id lease =>
    if (s.browser_leases.lookup connection_id).isSome then
      (true, s.setLease connection_id (some lease))
    else (false, s)
  | .leaseConsume connection_id =>
    if (s.browser_leases.lookup connection_id).isSome then ((), s.setLease connection_id none)
    else ((), s)
  | .leaseRemove connection_id =>
    ((), { s with browser_leases := s.browser_leases.erase connection_id })
  | .pendingFindDisconnected =>
    (s.pending_passkey_creations.find? fun entry => entry.2.disconnected, s)
  | .pendingGet key => (s.pending_passkey_creations.get key, s)
  | .pendingInsert key creation =>
    (s.pending_passkey_creations.get key,
      { s with pending_passkey_creations := s.pending_passkey_creations.insert key creation })
  | .pendingRemove key =>
    (s.pending_passkey_creations.get key,
      { s with pending_passkey_creations := s.pending_passkey_creations.remove key })
  | .pendingDisconnect connection_id =>
    ((), { s with
      pending_passkey_creations := s.pending_passkey_creations.disconnect connection_id })
  | .loadAccountsGeneration => (s.accounts_generation, s)
  | .accountsChanged =>
    ((), { s with accounts_generation := (checkedAddOne s.accounts_generation).getD u64Max })
  | .now => (s.clock + o.elapsed, { s with clock := s.clock + o.elapsed })
  | .ask view => (view o, s)
  | .hello call => (o.hello call, s)
  | .writeResponse _ _ _ _ => ((), s)
  | .writeRejection _ _ => ((), s)
  | .returned _ => ((), s)

/-- The agent as a machine. -/
abbrev machine (P : Primitives) : Conc.Machine where
  State := Shared
  Oracle := Oracle
  Mutex := Mutex
  Action := Action P
  Result := Action.Result
  perform := perform

/-- The mutexes under which an action is performed, wherever the source performs it. -/
def Action.guard {P : Primitives} : Action P → Finset Mutex
  | .compareExchangeState _ _ | .incrementEpoch | .acquireActive .lock | .storeActive .lock true
  | .cancelFlag _ | .connectionCancel _ _ | .connectionFinish _ | .connectionClose _
  | .writeResponse _ _ _ _ | .writeRejection _ _ => {.commitGate}
  | .register _ | .cancelRequest _ | .cancelConnection _ | .cancelAll =>
    {.commitGate, .cancellations}
  | .deregister _ => {.cancellations}
  | .vaultLock | .vaultBinding | .vaultBeginOperation | .vaultAuthorized _ | .vaultRead _
  | .vaultPrepare _ | .vaultStoreSession _ _ _ => {.vault}
  | .commit _ _ | .vaultCommitRecordMutation _ _ | .vaultInstall _ | .accountsChanged =>
    {.vault, .commitGate}
  | .idempotencyReserve _ _ | .idempotencyComplete _ _ | .idempotencyRelease _
  | .idempotencyInitialize _ | .idempotencyBind _ => {.idempotency}
  | .leaseTake _ | .leaseClaim _ | .leaseIssue _ _ | .leaseConsume _ => {.browserLeases}
  | .leaseRemove _ => {.commitGate, .browserLeases}
  | .pendingFindDisconnected | .pendingGet _ | .pendingInsert _ _ | .pendingRemove _ =>
    {.pendingPasskeyCreations}
  | .pendingDisconnect _ => {.commitGate, .pendingPasskeyCreations}
  | _ => ∅

end Librarian.Agent
