import Librarian.Agent.Runtime

/-!
# The passkey provider, the agent and the credential cache of Windows

`provider_bridge.cpp` creates a passkey in several steps, with the agent on one side and the
credential cache of Windows on the other: the agent makes a pending record, the provider enters the
credential into the cache, and the agent confirms the record. What goes wrong is undone by the
provider's removal, by the agent's rollbacks and by the cleanup of the next unlock. The desktop
deletes passkeys from both.

An action is what no other part can see half done. The agent keeps the vault mutex from its last
look at the published state to the end of a commit, and the commit gate from the check before a
commit to the end of what the commit does to `pending_passkey_creations`; so a commit is one action,
which checks what the source checks under these two. Every other check that the source makes may
fail at any time, and the oracle decides it. -/

namespace Librarian.Provider

open Librarian.Agent Librarian.Format Librarian.Protocol

abbrev CredentialId : Type := Bytes 32

abbrev TransactionId : Type := Bytes 16

/-! ## Connections -/

/-- What the provider asks on its prepared connection. -/
inductive Request
  | make
  | confirm (credential_id : CredentialId)
  | rollback (credential_id : CredentialId)
  deriving DecidableEq

/-- A request with what its envelope and its proof carry. -/
structure Frame where
  transaction_id : TransactionId
  unlock_epoch : ℕ
  request : Request
  deriving DecidableEq

/-- What the agent answers. Every error is a refusal. -/
inductive Reply
  | created (credential_id : CredentialId)
  | done
  | refused
  deriving DecidableEq

/-- A connection of the provider. It sends a request only when it has the last reply. -/
inductive Wire
  | idle
  | sent (frame : Frame)
  /-- The agent has read the request. -/
  | serving (request : Request)
  | replied (request : Request) (reply : Reply)
  deriving DecidableEq

/-! ## Results -/

/-- The result of a callback, and of the operation: `S_OK` or an error. -/
inductive HResult
  | ok
  | userCancelled
  | failed
  deriving DecidableEq, Repr

/-- How a commit of the agent ends. A failure may come after the commit has taken effect. -/
inductive Commit
  | ok
  | notFound
  | aborted
  | failed
  deriving DecidableEq, Repr

/-- What `make_credential` returns, and how far it has come. -/
structure Outcome where
  result : HResult
  /-- `pbEncodedResponse` is set. -/
  response : Bool := false
  connection_id : Option ConnectionId := none
  /-- The credential that the agent has made for it, when it knows of one. -/
  credential_id : Option CredentialId := none
  /-- The agent has answered that it has rolled the credential back. -/
  rolled_back : Bool := false
  deriving DecidableEq

/-! ## The state -/

/-- What has happened to one credential. -/
structure Ledger where
  /-- The creation that has drawn the id. -/
  home : Option PendingPasskeyCreationKey := none
  /-- The provider has entered it into the cache. -/
  added : Bool := false
  /-- The provider has asked for its rollback. -/
  withdrawn : Bool := false
  /-- Its confirmation has been committed, and its entry says so. -/
  confirmed : Bool := false
  /-- Its creation has returned `S_OK`. -/
  created : Bool := false
  /-- The provider could not take it out of the cache again. -/
  leftover : Bool := false
  /-- The agent has cleaned the cache of it before the provider had entered it. -/
  overtaken : Bool := false
  /-- `DeletePasskey` has cleaned the cache of it. -/
  targeted : Bool := false
  /-- `DeletePasskey` has done so before the provider had entered it. -/
  early : Bool := false
  /-- `DeletePasskey` has reported that it is deleted. -/
  deleted : Bool := false
  /-- `DeletePasskey` has reported an error after it had cleaned the cache of it. -/
  undeleted : Bool := false

/-- The agent, the provider and the cache. -/
structure World where
  /-- The published state of the agent. -/
  state : AgentState
  epoch : ℕ
  /-- How often all requests have been cancelled. -/
  cancellations : ℕ
  /-- The passkey records of the vault. -/
  records : CredentialId → Option PasskeyCreationState
  pending_passkey_creations : PendingPasskeyCreations
  /-- The agent has closed the connection, which cancels its requests. -/
  closed : ConnectionId → Bool
  wire : ConnectionId → Wire
  /-- The connections that have been accepted. -/
  connected : ConnectionId → Bool
  /-- The connections whose request 1 has been admitted. No other request makes a passkey. -/
  requested : ConnectionId → Bool
  /-- The credential cache of Windows. -/
  cache : CredentialId → Bool
  /-- `operation_gate` is held. -/
  operating : Bool
  /-- `active_transaction`, while `transaction_active`. -/
  active_transaction : Option TransactionId
  active_cancelled : Bool
  /-- `CancelOperation` has answered `S_OK` for the active transaction. -/
  cancel_answered : Bool
  /-- What has been returned, with whether `CancelOperation` had answered `S_OK` for the
  transaction. -/
  returned : List (Outcome × Bool)
  ledger : CredentialId → Ledger

/-- The start: a vault without passkeys, and nothing in the cache. -/
def World.start : World where
  state := .locked
  epoch := 1
  cancellations := 0
  records _ := none
  pending_passkey_creations := []
  closed _ := false
  wire _ := .idle
  connected _ := false
  requested _ := false
  cache _ := false
  operating := false
  active_transaction := none
  active_cancelled := false
  cancel_answered := false
  returned := []
  ledger _ := {}

/-- What the outside answers at one step. -/
structure Answers where
  /-- A check passes, or a call succeeds. -/
  succeeds : Bool := true
  /-- A commit that fails has taken effect. -/
  durable : Bool := false
  credential_id : CredentialId := Bytes.replicate 32 0
  connection_id : ConnectionId := Bytes.replicate 16 0
  /-- The ids of the table that is read, in its order. -/
  candidates : List CredentialId := []

/-! ## Actions -/

/-- What a deletion by the agent is for, with what is checked before its commit. -/
inductive Deletion
  | rollback (key : PendingPasskeyCreationKey) (expected : PendingPasskeyCreation)
  | disconnected (key : PendingPasskeyCreationKey) (pending : PendingPasskeyCreation)
      (request_epoch : ℕ)
  | recovered (credential_id : CredentialId) (cancellations : ℕ)
  | requested (credential_id : CredentialId) (request_epoch : ℕ)

/-- The credential that is deleted. -/
def Deletion.credential_id : Deletion → CredentialId
  | rollback _ expected => expected.credential_id
  | disconnected _ pending _ => pending.credential_id
  | recovered credential_id _ | requested credential_id _ => credential_id

/-- The atomic actions. -/
inductive Action
  -- The lifecycle of the agent.
  | loadState
  | loadEpoch
  | loadCancellations
  /-- A check, or a call of the outside. -/
  | check
  | lock
  /-- `set_locked_unless_shutting_down`, by a request that finds itself outdated. -/
  | setLocked
  | publishFailure
  | beginUnlock
  | publishUnlock (cancellations : ℕ)
  -- The requests of the provider.
  | connect
  | send (connection_id : ConnectionId) (frame : Frame)
  | takeRequest (connection_id : ConnectionId)
  | reply (connection_id : ConnectionId) (request : Request) (reply : Reply)
  | receive (connection_id : ConnectionId) (request : Request)
  | closeConnection (connection_id : ConnectionId)
  -- The vault, and the creations that are not confirmed.
  | pendingGet (key : PendingPasskeyCreationKey)
  | pendingFindDisconnected
  | pendingRemove (key : PendingPasskeyCreationKey)
  | pendingPasskeyCredentialIds (cancellations : ℕ)
  | commitMake (key : PendingPasskeyCreationKey) (authenticated_process_id request_epoch : ℕ)
  | commitConfirm (key : PendingPasskeyCreationKey) (expected : PendingPasskeyCreation)
  | commitDelete (deletion : Deletion)
  -- The cache.
  | addCredentials (credential_id : CredentialId)
  | removeCredentials (credential_id : CredentialId)
  | removeCachedCredential (credential_id : CredentialId)
  | removeCachedPasskey (credential_id : CredentialId)
  -- The operation of the provider.
  | enterOperation
  | leaveOperation
  | beginTransaction (transaction_id : TransactionId)
  | isActiveCancelled
  | complete
  | endTransaction
  | cancelOperation (transaction_id : TransactionId)
  /-- What `make_credential` returns is settled. -/
  | returned (outcome : Outcome)
  /-- `DeletePasskey` returns. -/
  | reportDeletion (credential_id : CredentialId) (succeeded : Bool)

/-- The results of the actions. -/
abbrev Action.Result : Action → Type
  | .loadState => AgentState
  | .loadEpoch | .loadCancellations => ℕ
  | .check | .beginUnlock | .publishUnlock _ | .addCredentials _ | .removeCredentials _
  | .removeCachedCredential _ | .removeCachedPasskey _ | .enterOperation | .isActiveCancelled
  | .complete | .cancelOperation _ => Bool
  | .connect => Option (ConnectionId × ℕ)
  | .takeRequest _ => Option Frame
  | .receive _ _ => Option Reply
  | .pendingGet _ => Option PendingPasskeyCreation
  | .pendingFindDisconnected => Option (PendingPasskeyCreationKey × PendingPasskeyCreation)
  | .pendingPasskeyCredentialIds _ => Option (List CredentialId)
  | .commitMake _ _ _ => Commit × CredentialId
  | .commitConfirm _ _ | .commitDelete _ => Commit
  | _ => Unit

namespace World

variable (w : World)

/-- Changes the records. -/
def setRecord (credential_id : CredentialId) (record : Option PasskeyCreationState) : World :=
  { w with records := Function.update w.records credential_id record }

/-- Changes the cache. -/
def setCache (credential_id : CredentialId) (present : Bool) : World :=
  { w with cache := Function.update w.cache credential_id present }

/-- Changes a connection. -/
def setWire (connection_id : ConnectionId) (wire : Wire) : World :=
  { w with wire := Function.update w.wire connection_id wire }

/-- Notes what has happened to a credential. -/
def note (credential_id : CredentialId) (f : Ledger → Ledger) : World :=
  { w with ledger := Function.update w.ledger credential_id (f (w.ledger credential_id)) }

/-- Changes the creations that are not confirmed. -/
def setPending (pending : PendingPasskeyCreations) : World :=
  { w with pending_passkey_creations := pending }

/-- The vault is open in the epoch of a request. -/
def Authorizes (request_epoch : ℕ) : Prop := w.state = .unlocked ∧ w.epoch = request_epoch

instance (request_epoch : ℕ) : Decidable (w.Authorizes request_epoch) :=
  inferInstanceAs (Decidable (_ ∧ _))

/-- What is checked before a deletion is committed. -/
def Permits : Deletion → Prop
  | .rollback key expected => w.Authorizes expected.unlock_epoch ∧ w.closed key.connection_id =
      false
  | .disconnected key pending request_epoch =>
    w.Authorizes request_epoch ∧ w.pending_passkey_creations.get key = some pending
  | .recovered _ cancellations => w.state = .unlocking ∧ w.cancellations = cancellations
  | .requested _ request_epoch => w.Authorizes request_epoch

instance (deletion : Deletion) : Decidable (w.Permits deletion) := by
  cases deletion <;> exact inferInstanceAs (Decidable (_ ∧ _))

/-- What a deletion that has been committed does to the entry that it is for. -/
def forget : Deletion → World
  | .rollback key _ | .disconnected key _ _ =>
    w.setPending (w.pending_passkey_creations.remove key)
  | .recovered _ _ | .requested _ _ => w

end World

/-- What each action does. -/
def perform (action : Action) (o : Answers) (w : World) : action.Result × World :=
  match action with
  | .loadState => (w.state, w)
  | .loadEpoch => (w.epoch, w)
  | .loadCancellations => (w.cancellations, w)
  | .check => (o.succeeds, w)
  | .lock => ((), { w with
      state := .locked, epoch := w.epoch + 1, cancellations := w.cancellations + 1 })
  | .setLocked => ((), { w with state := .locked })
  | .publishFailure => ((), { w with
      state := .locked, epoch := w.epoch + 1, cancellations := w.cancellations + 1 })
  | .beginUnlock =>
    if w.state = .locked ∧ o.succeeds then (true, { w with state := .unlocking }) else (false, w)
  | .publishUnlock cancellations =>
    if w.state = .unlocking ∧ w.cancellations = cancellations ∧ o.succeeds then
      (true, { w with state := .unlocked, epoch := w.epoch + 1 })
    else (false, w)
  | .connect =>
    if w.connected o.connection_id = false ∧ o.succeeds then
      (some (o.connection_id, w.epoch),
        { w with connected := Function.update w.connected o.connection_id true })
    else (none, w)
  | .send connection_id frame =>
    let sent := w.setWire connection_id (.sent frame)
    match frame.request with
    | .rollback credential_id =>
      ((), sent.note credential_id fun ledger => { ledger with withdrawn := true })
    | _ => ((), sent)
  | .takeRequest connection_id =>
    match w.wire connection_id with
    | .sent frame =>
      if w.closed connection_id = false ∧ o.succeeds ∧
          (frame.request = .make → w.requested connection_id = false) then
        (some frame, { w.setWire connection_id (.serving frame.request) with
          requested := Function.update w.requested connection_id true })
      else (none, w)
    | _ => (none, w)
  | .reply connection_id request reply =>
    if w.wire connection_id = .serving request then
      ((), w.setWire connection_id (.replied request reply))
    else ((), w)
  | .receive connection_id request =>
    match w.wire connection_id with
    | .replied request' reply =>
      if request' = request ∧ o.succeeds then (some reply, w.setWire connection_id .idle)
      else (none, w)
    | _ => (none, w)
  | .closeConnection connection_id =>
    ((), { w with
      closed := Function.update w.closed connection_id true
      pending_passkey_creations := w.pending_passkey_creations.disconnect connection_id })
  | .pendingGet key => (w.pending_passkey_creations.get key, w)
  | .pendingFindDisconnected =>
    (w.pending_passkey_creations.find? fun entry => entry.2.disconnected, w)
  | .pendingRemove key => ((), w.setPending (w.pending_passkey_creations.remove key))
  | .pendingPasskeyCredentialIds cancellations =>
    if w.state = .unlocking ∧ w.cancellations = cancellations ∧ o.succeeds then
      (some (o.candidates.filter fun credential_id => w.records credential_id = some .pending), w)
    else (none, w)
  | .commitMake key authenticated_process_id request_epoch =>
    if ¬(w.Authorizes request_epoch ∧ w.closed key.connection_id = false ∧
        (w.ledger o.credential_id).home = none) then
      -- The ids are random: one that has been drawn before is not drawn again.
      ((.aborted, o.credential_id), w)
    else
      let made := (w.setRecord o.credential_id (some .pending)).note o.credential_id
        fun ledger => { ledger with home := some key }
      if o.succeeds then
        ((.ok, o.credential_id), made.setPending (made.pending_passkey_creations.insert key
          ⟨o.credential_id, authenticated_process_id, request_epoch, false, false⟩))
      else if o.durable then ((.failed, o.credential_id), made)
      else ((.failed, o.credential_id), w)
  | .commitConfirm key expected =>
    if w.records expected.credential_id = none then (.notFound, w)
    else if ¬(w.Authorizes expected.unlock_epoch ∧ w.closed key.connection_id = false ∧
        w.pending_passkey_creations.get key = some expected) then (.aborted, w)
    else
      let committed := w.setRecord expected.credential_id (some .confirmed)
      if o.succeeds then
        (.ok, (committed.setPending (committed.pending_passkey_creations.insert key
          { expected with confirmed := true })).note expected.credential_id
            fun ledger => { ledger with confirmed := true })
      else if o.durable then (.failed, committed)
      else (.failed, w)
  | .commitDelete deletion =>
    if w.records deletion.credential_id = none then (.notFound, w)
    else if ¬w.Permits deletion then (.aborted, w)
    else
      let committed := w.setRecord deletion.credential_id none
      if o.succeeds then (.ok, committed.forget deletion)
      else if o.durable then (.failed, committed)
      else (.failed, w)
  | .addCredentials credential_id =>
    if o.succeeds then
      (true, (w.setCache credential_id true).note credential_id
        fun ledger => { ledger with added := true })
    else (false, w)
  | .removeCredentials credential_id =>
    if o.succeeds then (true, w.setCache credential_id false)
    else (false, w.note credential_id
      fun ledger => { ledger with leftover := ledger.leftover || w.cache credential_id })
  | .removeCachedCredential credential_id =>
    if o.succeeds then
      (true, (w.setCache credential_id false).note credential_id fun ledger =>
        { ledger with overtaken := ledger.overtaken || !ledger.added })
    else (false, w)
  | .removeCachedPasskey credential_id =>
    if o.succeeds then
      (true, (w.setCache credential_id false).note credential_id fun ledger =>
        { ledger with targeted := true, early := ledger.early || !ledger.added })
    else (false, w)
  | .enterOperation => if w.operating then (false, w) else (true, { w with operating := true })
  | .leaveOperation => ((), { w with operating := false })
  | .beginTransaction transaction_id =>
    ((), { w with
      active_transaction := some transaction_id
      active_cancelled := false
      cancel_answered := false })
  | .isActiveCancelled => (w.active_cancelled, w)
  | .complete =>
    if w.active_transaction = none ∨ w.active_cancelled then (false, w)
    else (true, { w with active_transaction := none, active_cancelled := false })
  | .endTransaction => ((), { w with active_transaction := none, active_cancelled := false })
  | .cancelOperation transaction_id =>
    if w.active_transaction = some transaction_id then
      (true, { w with active_cancelled := true, cancel_answered := true })
    else (false, w)
  | .returned outcome =>
    let settled := { w with returned := (outcome, w.cancel_answered) :: w.returned }
    match outcome.result, outcome.credential_id with
    | .ok, some credential_id =>
      ((), settled.note credential_id fun ledger => { ledger with created := true })
    | _, _ => ((), settled)
  | .reportDeletion credential_id succeeded =>
    ((), w.note credential_id fun ledger =>
      if succeeded then { ledger with deleted := true } else { ledger with undeleted := true })

/-- Nothing here takes a mutex: the sections that the source protects are single actions. -/
abbrev machine : Conc.Machine where
  State := World
  Oracle := Answers
  Mutex := Empty
  Action := ULift Action
  Result a := a.down.Result
  perform a := perform a.down

end Librarian.Provider
