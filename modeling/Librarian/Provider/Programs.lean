import Librarian.Provider.World

/-!
# What the provider, the agent and the desktop run

Each program is translated from the function of the source whose name it has. The provider's
operation runs from `MakeCredential` to the end of its destructors; the agent serves what has been
sent on a connection, cleans up after the connections that it closes, locks and unlocks; the desktop
deletes.
-/

namespace Librarian.Provider

open Conc Librarian.Agent Librarian.Protocol

/-- One action. -/
abbrev act (a : Action) : Prog machine a.Result := Prog.act (M := machine) ⟨a⟩

/-! ## The provider -/

/-- A prepared connection, with the epoch of its handshake. -/
abbrev Session : Type := ConnectionId × ℕ

/-- `Session::execute`: the answer, unless the transport fails. -/
def execute (session : Session) (transaction_id : TransactionId) (request : Request) :
    Prog machine (Option Reply) := do
  act (.send session.1 ⟨transaction_id, session.2, request⟩)
  act (.receive session.1 request)

/-- `rollback_creation`: the callback takes the prepared session, and nothing restores it. -/
def rollback_creation (session : Option Session) (transaction_id : TransactionId)
    (credential_id : CredentialId) : Prog machine HResult :=
  match session with
  | none => pure .failed
  | some session => do
    match ← execute session transaction_id (.rollback credential_id) with
    | some .done => pure .ok
    | _ => pure .failed

/-- The provider rolls back what it has made: an error of the rollback takes the place of the
result. -/
def abandon (session : Option Session) (transaction_id : TransactionId)
    (connection_id : ConnectionId) (credential_id : CredentialId) (result : HResult) :
    Prog machine Outcome := do
  let rollback_result ← rollback_creation session transaction_id credential_id
  pure
    { result := if rollback_result = .ok then result else rollback_result
      connection_id := some connection_id
      credential_id := some credential_id
      rolled_back := decide (rollback_result = .ok) }

/-- `make_credential` after its credential has been entered into the cache. -/
def confirm_creation (session : Session) (transaction_id : TransactionId)
    (credential_id : CredentialId) : Prog machine Outcome := do
  match ← execute session transaction_id (.confirm credential_id) with
  | some .done => do
    if ← act .complete then
      pure
        { result := .ok
          response := true
          connection_id := some session.1
          credential_id := some credential_id }
    else do
      let _ ← act (.removeCredentials credential_id)
      abandon (some session) transaction_id session.1 credential_id .userCancelled
  | some _ => do
    -- The callback restores the session before it looks at what has been answered.
    let _ ← act (.removeCredentials credential_id)
    abandon (some session) transaction_id session.1 credential_id .failed
  | none => do
    let _ ← act (.removeCredentials credential_id)
    abandon none transaction_id session.1 credential_id .failed

/-- `make_credential` after the agent has made a credential. -/
def finish_creation (session : Session) (transaction_id : TransactionId)
    (credential_id : CredentialId) : Prog machine Outcome := do
  if ← act .isActiveCancelled then
    abandon (some session) transaction_id session.1 credential_id .userCancelled
  else do
    -- `encode_make_response`, which does not throw
    if ← act .check then do
      if ← act (.addCredentials credential_id) then
        confirm_creation session transaction_id credential_id
      else do
        let _ ← act (.removeCredentials credential_id)
        abandon (some session) transaction_id session.1 credential_id .failed
    else abandon (some session) transaction_id session.1 credential_id .failed

/-- `make_credential` within its `transaction_scope`. -/
def operate (transaction_id : TransactionId) : Prog machine Outcome := do
  -- `webauthn_api`, `decode_make` and what they are asked for
  if ← act .check then do
    match ← act .connect with
    | none => pure { result := .failed }
    | some session => do
      -- `perform_user_verification`
      if ← act .check then do
        if ← act .isActiveCancelled then
          pure { result := .userCancelled, connection_id := some session.1 }
        else do
          match ← execute session transaction_id .make with
          | some (.created credential_id) => finish_creation session transaction_id credential_id
          | _ => pure { result := .failed, connection_id := some session.1 }
      else pure { result := .failed, connection_id := some session.1 }
  else pure { result := .failed }

/-- `make_credential`. Its result is settled before the destructors run, of which the one of a
completed `transaction_scope` does nothing. -/
def make_credential (transaction_id : TransactionId) : Prog machine Unit := do
  -- `valid_operation_request`
  if ← act .check then do
    if ← act .enterOperation then do
      act (.beginTransaction transaction_id)
      let outcome ← operate transaction_id
      act (.returned outcome)
      if outcome.result = .ok then act .leaveOperation
      else do
        act .endTransaction
        act .leaveOperation
    else act (.returned { result := .failed })
  else act (.returned { result := .failed })

/-- `CancelOperation`. -/
def cancel_operation (transaction_id : TransactionId) : Prog machine Unit := do
  let _ ← act (.cancelOperation transaction_id)
  pure ()

/-! ## The agent -/

/-- `pre_secret_operation`: the request may go on. -/
def pre_secret_operation (request_epoch : ℕ) : Prog machine Bool := do
  let state ← act .loadState
  let epoch ← act .loadEpoch
  if state = .unlocked ∧ epoch = request_epoch then act .check else pure false

/-- What a handler does about a commit that has failed: `abort_after_core` locks the vault of a
request that is outdated, and `account_error_after_core` locks it in any case. -/
def after_core : Commit → Prog machine Unit
  | .failed => act .publishFailure
  | _ => do
    if ← act .check then act .setLocked else pure ()

/-- `rollback_disconnected_passkey_creations`, for so many rounds of its loop. -/
def rollback_disconnected_passkey_creations : ℕ → Prog machine Bool
  | 0 => .halt
  | rounds + 1 => do
    match ← act .pendingFindDisconnected with
    | none => pure true
    | some (pending_key, pending) => do
      if (← act .loadState) ≠ .unlocked then pure false
      else do
        if ← act (.removeCachedCredential pending.credential_id) then do
          let request_epoch ← act .loadEpoch
          match ← act (.commitDelete (.disconnected pending_key pending request_epoch)) with
          | .ok => rollback_disconnected_passkey_creations rounds
          | .notFound => do
            act (.pendingRemove pending_key)
            rollback_disconnected_passkey_creations rounds
          | .aborted => pure false
          | .failed => do
            act .publishFailure
            pure false
        else pure false

/-- `make_passkey`. -/
def make_passkey (rounds : ℕ) (pending_key : PendingPasskeyCreationKey)
    (authenticated_process_id request_epoch : ℕ) : Prog machine Reply := do
  if ← pre_secret_operation request_epoch then do
    if ← rollback_disconnected_passkey_creations rounds then do
      -- `verify_make`
      if ← act .check then do
        match ← act (.pendingGet pending_key) with
        | some _ => pure .refused
        | none => do
          -- `mutation_active`, and `PasskeyInput::new`
          if ← act .check then do
            if ← pre_secret_operation request_epoch then do
              match ← act (.commitMake pending_key authenticated_process_id request_epoch) with
              | (.ok, credential_id) => pure (.created credential_id)
              | (result, _) => do
                after_core result
                pure .refused
            else pure .refused
          else pure .refused
      else pure .refused
    else pure .refused
  else pure .refused

/-- `confirm_passkey_creation`. -/
def confirm_passkey_creation (pending_key : PendingPasskeyCreationKey)
    (credential_id : CredentialId) (authenticated_process_id request_epoch : ℕ) :
    Prog machine Reply := do
  if ← pre_secret_operation request_epoch then do
    if ← act .check then do
      match ← act (.pendingGet pending_key) with
      | none => pure .refused
      | some expected => do
        if expected.credential_id ≠ credential_id ∨
            expected.authenticated_process_id ≠ authenticated_process_id ∨
            expected.unlock_epoch ≠ request_epoch ∨ expected.confirmed = true ∨
            expected.disconnected = true then pure .refused
        else do
          if ← act .check then do
            if ← pre_secret_operation request_epoch then do
              match ← act (.commitConfirm pending_key expected) with
              | .ok => pure .done
              | result => do
                after_core result
                pure .refused
            else pure .refused
          else pure .refused
    else pure .refused
  else pure .refused

/-- `rollback_passkey_creation`. -/
def rollback_passkey_creation (pending_key : PendingPasskeyCreationKey)
    (credential_id : CredentialId) (authenticated_process_id request_epoch : ℕ) :
    Prog machine Reply := do
  if ← pre_secret_operation request_epoch then do
    if ← act .check then do
      match ← act (.pendingGet pending_key) with
      | none => pure .refused
      | some expected => do
        if expected.credential_id ≠ credential_id ∨
            expected.authenticated_process_id ≠ authenticated_process_id ∨
            expected.unlock_epoch ≠ request_epoch ∨ expected.disconnected = true then pure .refused
        else do
          if ← act .check then do
            if ← act (.removeCachedCredential credential_id) then do
              if ← pre_secret_operation request_epoch then do
                match ← act (.commitDelete (.rollback pending_key expected)) with
                | .ok => pure .done
                | .notFound => do
                  act (.pendingRemove pending_key)
                  pure .done
                | result => do
                  after_core result
                  pure .refused
              else pure .refused
            else pure .refused
          else pure .refused
    else pure .refused
  else pure .refused

/-- The agent answers the request that has been sent on a connection, if there is one. -/
def serve (rounds : ℕ) (connection_id : ConnectionId) (authenticated_process_id : ℕ) :
    Prog machine Unit := do
  match ← act (.takeRequest connection_id) with
  | none => pure ()
  | some frame => do
    let pending_key := ⟨connection_id, frame.transaction_id⟩
    let reply ← match frame.request with
      | .make =>
        make_passkey rounds pending_key authenticated_process_id frame.unlock_epoch
      | .confirm credential_id =>
        confirm_passkey_creation pending_key credential_id authenticated_process_id
          frame.unlock_epoch
      | .rollback credential_id =>
        rollback_passkey_creation pending_key credential_id authenticated_process_id
          frame.unlock_epoch
    act (.reply connection_id frame.request reply)

/-- `disconnect`. -/
def disconnect (rounds : ℕ) (connection_id : ConnectionId) : Prog machine Unit := do
  act (.closeConnection connection_id)
  let _ ← rollback_disconnected_passkey_creations rounds
  pure ()

/-- The loop of `cleanup_recovered_passkey_creations`: whether the unlock goes on. -/
def cleanup_recovered (cancellations : ℕ) : List CredentialId → Prog machine Bool
  | [] => pure true
  | credential_id :: credential_ids => do
    -- `should_abort`
    if ← act .check then do
      if ← act (.removeCachedCredential credential_id) then do
        if ← act .check then do
          match ← act (.commitDelete (.recovered credential_id cancellations)) with
          | .ok | .notFound => cleanup_recovered cancellations credential_ids
          | _ => pure false
        else pure false
      else cleanup_recovered cancellations credential_ids
    else pure false

/-- `cleanup_recovered_passkey_creations`. -/
def cleanup_recovered_passkey_creations (cancellations : ℕ) : Prog machine Bool := do
  match ← act (.pendingPasskeyCredentialIds cancellations) with
  | none => pure false
  | some credential_ids => cleanup_recovered cancellations credential_ids

/-- `unlock_master_password` and `unlock_windows_hello`. -/
def unlock : Prog machine Unit := do
  let cancellations ← act .loadCancellations
  if ← act .beginUnlock then do
    -- the vault opens
    if ← act .check then do
      if ← cleanup_recovered_passkey_creations cancellations then do
        if ← act (.publishUnlock cancellations) then pure () else act .setLocked
      else act .setLocked
    else act .setLocked
  else pure ()

/-- `lock_vault`, which stores the state a second time when it has the vault. -/
def lock_vault : Prog machine Unit := do
  act .lock
  act .setLocked

/-- `delete_passkey`: whether it succeeds. -/
def delete_passkey (credential_id : CredentialId) (request_epoch : ℕ) : Prog machine Bool := do
  if ← pre_secret_operation request_epoch then do
    match ← act (.commitDelete (.requested credential_id request_epoch)) with
    | .ok => pure true
    | result => do
      after_core result
      pure false
  else pure false

/-! ## The desktop -/

/-- `DeletePasskey`, with what the agent does for it. The desktop may lose the answer, or give up
before there is one. -/
def deletePasskey (credential_id : CredentialId) (request_epoch : ℕ) : Prog machine Unit := do
  if ← act (.removeCachedPasskey credential_id) then do
    -- the request reaches the agent
    if ← act .check then do
      if ← act .check then do
        if ← delete_passkey credential_id request_epoch then do
          let answered ← act .check
          act (.reportDeletion credential_id answered)
        else act (.reportDeletion credential_id false)
      else do
        act (.reportDeletion credential_id false)
        let _ ← delete_passkey credential_id request_epoch
        pure ()
    else act (.reportDeletion credential_id false)
  else pure ()

/-- The programs that run side by side. -/
inductive Allowed : Prog machine Unit → Prop
  | make_credential (transaction_id : TransactionId) : Allowed (make_credential transaction_id)
  | cancel_operation (transaction_id : TransactionId) : Allowed (cancel_operation transaction_id)
  | serve (rounds : ℕ) (connection_id : ConnectionId) (authenticated_process_id : ℕ) :
      Allowed (serve rounds connection_id authenticated_process_id)
  | disconnect (rounds : ℕ) (connection_id : ConnectionId) :
      Allowed (disconnect rounds connection_id)
  | unlock : Allowed unlock
  | lock_vault : Allowed lock_vault
  | deletePasskey (credential_id : CredentialId) (request_epoch : ℕ) :
      Allowed (deletePasskey credential_id request_epoch)

end Librarian.Provider
