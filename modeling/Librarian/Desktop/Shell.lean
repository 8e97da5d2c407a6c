import Librarian.Desktop.Codec

/-!
# The view model of the desktop shell

`ShellViewModel` of `ShellViewModel.cpp`: what the window shows, and which request it waits for. A
`begin…` method says whether a request may be sent now, and takes the window to a busy state; the
matching `complete…` method takes the outcome in. The window may call them in any order, and an
outcome may come late, twice, or for a request that is not the pending one.
-/

namespace Librarian.Desktop

/-- `ShellState`. -/
inductive ShellState
  | firstRun
  | locked
  | unlocking
  | saving
  | unlocked
  | refreshing
  | error
  | agentUnavailable
  deriving DecidableEq, Repr

/-- `AccountListResult`. -/
structure AccountListResult where
  error : ClientError
  accounts : List AccountSummary
  next_offset : Option UInt32
  deriving DecidableEq

/-- `PasskeyListResult`. -/
structure PasskeyListResult where
  error : ClientError
  passkeys : List PasskeyEntry
  deriving DecidableEq

/-- `ShellRequestOutcome`. -/
structure ShellRequestOutcome where
  request : ClientResult
  accounts : Option AccountListResult
  passkeys : Option PasskeyListResult
  deriving DecidableEq

/-- `ShellViewModel::PendingAction`; `initialStatus` is its `Initialize`. -/
inductive PendingAction
  | none
  | initialStatus
  | retryStatus
  | refreshStatus
  | create
  | unlock
  | unlockWindowsHello
  | enrollWindowsHello
  | removeWindowsHello
  | lock
  | saveAccount
  | deletePasskey
  | nextAccountPage
  | previousAccountPage
  deriving DecidableEq, Repr

/-! ## Messages -/

def firstRunMessage : String := "Create a local vault to get started."

def lockedMessage : String := "Unlock Librarian with your master password."

def unlockingMessage : String := "Librarian is completing a security-sensitive request."

def refreshingMessage : String := "Checking vault status."

def windowsHelloMessage : String := "Complete the Windows Hello prompt to continue."

def windowsHelloFallbackMessage : String :=
  "Windows Hello could not complete the request. The vault is unchanged, and your master "
    ++ "password still works."

def windowsHelloCancelledMessage : String :=
  "Windows Hello was canceled. The vault is unchanged, and your master password still works."

def windowsHelloEnrolledMessage : String :=
  "Windows Hello unlock is enabled. Your master password remains available."

def windowsHelloRemovedMessage : String :=
  "Windows Hello unlock was removed. Your master password and vault are unchanged."

def lockingMessage : String := "Librarian is locking the vault through the local vault agent."

def savingMessage : String := "Librarian is saving the account through the local vault agent."

def deletingPasskeyMessage : String :=
  "Librarian is removing the passkey from Windows and the local vault."

def loadingAccountsMessage : String := "Librarian is loading the requested account page."

def emptyAccountsMessage : String := "No accounts are stored in this vault yet."

def agentUnavailableMessage : String :=
  "The vault agent is unavailable. Start or repair Librarian, then try again."

def busyMessage : String := "Librarian is busy with another security transition. Try again."

def cancelledMessage : String := "The request was canceled."

def invalidCredentialsMessage : String :=
  "Librarian could not complete that request. Check your password and try again."

def lockedDuringRequestMessage : String := "The vault locked before the request completed."

def lockStatusUnknownMessage : String :=
  "Librarian could not confirm that the vault locked. Access remains hidden until the vault "
    ++ "confirms it is locked."

def accountLoadCancelledMessage : String :=
  "Librarian could not confirm the account list. Retry vault status."

def passkeyLoadCancelledMessage : String :=
  "The passkey list refresh was canceled. The vault remains unlocked."

def unexpectedMessage : String :=
  "Librarian could not complete the request. No changes were made."

/-! ## The model and its helpers -/

/-- `ShellViewModel`, with the values its members start with. -/
structure ShellViewModel where
  state : ShellState := .agentUnavailable
  resume_state : ShellState := .locked
  pending_action : PendingAction := .none
  message : String := ""
  accounts : List AccountSummary := []
  passkeys : List PasskeyEntry := []
  next_account_offset : Option UInt32 := none
  pending_account_offset : Option UInt32 := none
  previous_account_offsets : List UInt32 := []
  current_account_offset : UInt32 := 0
  account_editor_visible : Bool := false
  lock_intent_pending : Bool := false
  deriving DecidableEq

namespace ShellViewModel

/-- The lines that open `SetVaultStatus`: no editor, no listed account or passkey, the first page. -/
def clearAccounts (s : ShellViewModel) : ShellViewModel :=
  { s with
    account_editor_visible := false
    accounts := []
    passkeys := []
    pending_account_offset := none
    current_account_offset := 0
    previous_account_offsets := []
    next_account_offset := none }

/-- `SetVaultStatus`. -/
def setVaultStatus (s : ShellViewModel) (status : VaultStatus) : ShellViewModel :=
  if s.lock_intent_pending = true ∧ status ≠ .locked then
    { s.clearAccounts with state := .error, message := lockStatusUnknownMessage }
  else
    match status with
    | .firstRun => { s.clearAccounts with state := .firstRun, message := firstRunMessage }
    | .locked =>
      { s.clearAccounts with lock_intent_pending := false, state := .locked, message := lockedMessage }
    | .unlocked =>
      { s.clearAccounts with state := .unlocked, message := "", resume_state := .unlocked }

/-- The three lines that hide what the window shows of the vault. -/
def hide (s : ShellViewModel) : ShellViewModel :=
  { s with account_editor_visible := false, accounts := [], passkeys := [] }

/-- The branch of `ApplyError` that goes back to the state the request was begun in. -/
def resume (s : ShellViewModel) (message : String) : ShellViewModel :=
  let s := { s with state := s.resume_state, message }
  if s.state ≠ .unlocked then s.hide else s

/-- `ApplyError`. -/
def applyError (s : ShellViewModel) (error : ClientError) : ShellViewModel :=
  match error with
  | .cancelled => s.resume cancelledMessage
  | .windowsHelloUnavailable => s.resume windowsHelloFallbackMessage
  | .none => s.hide.setVaultStatus .locked
  | .agentUnavailable =>
    { s.hide with state := .agentUnavailable, message := agentUnavailableMessage }
  | .busy => { s.hide with state := .error, message := busyMessage }
  | .invalidCredentials => { s.hide with state := .locked, message := invalidCredentialsMessage }
  | .locked => { s.hide with state := .locked, message := lockedDuringRequestMessage }
  | .unexpected => { s.hide with state := .error, message := unexpectedMessage }

/-- `ApplyPasskeys`. -/
def applyPasskeys (s : ShellViewModel) (result : PasskeyListResult) : ShellViewModel :=
  if result.error ≠ .none then
    if result.error = .cancelled ∧ s.state = .unlocked then
      { s with passkeys := [], message := passkeyLoadCancelledMessage }
    else s.applyError result.error
  else { s with passkeys := result.passkeys }

/-- `ApplyAccounts`. -/
def applyAccounts (s : ShellViewModel) (result : AccountListResult) : ShellViewModel :=
  if result.error ≠ .none then
    if result.error = .cancelled then
      { s with
        account_editor_visible := false
        accounts := []
        state := .error
        message := accountLoadCancelledMessage }
    else s.applyError result.error
  else
    { s with
      accounts := result.accounts
      current_account_offset := 0
      previous_account_offsets := []
      next_account_offset := result.next_offset
      message := if result.accounts = [] then emptyAccountsMessage else s.message }

/-- `Apply`. -/
def apply (s : ShellViewModel) (outcome : ShellRequestOutcome) : ShellViewModel :=
  if outcome.request.error ≠ .none then s.applyError outcome.request.error
  else
    let s := s.setVaultStatus outcome.request.status
    if s.state ≠ .unlocked then s
    else
      match outcome.accounts, outcome.passkeys with
      | some accounts, some passkeys =>
        let s := s.applyAccounts accounts
        if s.state = .unlocked then s.applyPasskeys passkeys else s
      | _, _ => s.applyError .unexpected

/-- `ApplyLockFailure`. -/
def applyLockFailure (s : ShellViewModel) (error : ClientError) : ShellViewModel :=
  if error = .agentUnavailable then
    { s.hide with state := .agentUnavailable, message := agentUnavailableMessage }
  else { s.hide with state := .error, message := lockStatusUnknownMessage }

/-- `BeginStatusRequest`. -/
def beginStatusRequest (s : ShellViewModel) (action : PendingAction) : Bool × ShellViewModel :=
  if s.pending_action ≠ .none then (false, s)
  else
    let refreshing := decide (action = .refreshStatus ∧ s.state = .unlocked)
    (true, { s with
      resume_state := s.state
      pending_action := action
      account_editor_visible := refreshing && s.account_editor_visible
      accounts := []
      passkeys := []
      state := if refreshing then .refreshing else .unlocking
      message := if refreshing then refreshingMessage else unlockingMessage })

/-- `BeginWindowsHelloRequest`. -/
def beginWindowsHelloRequest (s : ShellViewModel) (action : PendingAction) :
    Bool × ShellViewModel :=
  if s.pending_action ≠ .none then (false, s)
  else
    (true, { s with
      resume_state := s.state
      pending_action := action
      account_editor_visible := false
      state := .unlocking
      message := windowsHelloMessage })

/-- `CompleteWindowsHelloRequest`. -/
def completeWindowsHelloRequest (s : ShellViewModel) (action : PendingAction)
    (outcome : ShellRequestOutcome) : ShellViewModel :=
  if s.pending_action ≠ action then s
  else
    let s := { s with pending_action := .none }.apply outcome
    if outcome.request.error = .cancelled then { s with message := windowsHelloCancelledMessage }
    else s

/-- `keep_editor` of `CompleteStatusRequest`. -/
def keepEditor (s : ShellViewModel) (action : PendingAction) (outcome : ShellRequestOutcome) :
    Bool :=
  action = .refreshStatus ∧ s.resume_state = .unlocked ∧ s.account_editor_visible = true ∧
    outcome.request.error = .none ∧ outcome.request.status = .unlocked ∧
    outcome.accounts.map (·.error) = some .none ∧
    (outcome.passkeys.map (·.error) = some .none ∨
      outcome.passkeys.map (·.error) = some .cancelled)

/-- `CompleteStatusRequest`. -/
def completeStatusRequest (s : ShellViewModel) (action : PendingAction)
    (outcome : ShellRequestOutcome) : ShellViewModel :=
  if s.pending_action ≠ action then s
  else
    let keep_editor := s.keepEditor action outcome
    let s := { s with pending_action := .none, account_editor_visible := false }
    -- A cancelled status check does not confirm that access is still safe.
    if outcome.request.error = .cancelled ∨ outcome.request.error = .windowsHelloUnavailable then
      s.applyError .unexpected
    else
      let s := s.apply outcome
      { s with account_editor_visible := keep_editor && decide (s.state = .unlocked) }

/-- `BeginLockRequest`. -/
def beginLockRequest (s : ShellViewModel) : Bool × ShellViewModel :=
  if s.pending_action ≠ .none then (false, s)
  else
    (true, { s with
      resume_state := s.state
      pending_action := .lock
      account_editor_visible := false
      accounts := []
      state := .unlocking
      message := lockingMessage })

/-- `BeginAccountPageRequest`. -/
def beginAccountPageRequest (s : ShellViewModel) (action : PendingAction) (offset : UInt32) :
    Option UInt32 × ShellViewModel :=
  if s.state ≠ .unlocked ∨ s.pending_action ≠ .none then (none, s)
  else
    (some offset, { s with
      resume_state := s.state
      pending_action := action
      pending_account_offset := some offset
      account_editor_visible := false
      accounts := []
      state := .unlocking
      message := loadingAccountsMessage })

/-- `CompleteAccountPageRequest`. -/
def completeAccountPageRequest (s : ShellViewModel) (action : PendingAction)
    (result : AccountListResult) : ShellViewModel :=
  match s.pending_account_offset with
  | none => s
  | some offset =>
    if s.pending_action ≠ action then s
    else
      let s := { s with pending_action := .none, pending_account_offset := none }
      if result.error ≠ .none then s.applyAccounts result
      else
        { s with
          previous_account_offsets :=
            if action = .nextAccountPage then
              s.previous_account_offsets ++ [s.current_account_offset]
            else s.previous_account_offsets.dropLast
          current_account_offset := offset
          state := .unlocked
          message := if result.accounts = [] then emptyAccountsMessage else ""
          accounts := result.accounts
          next_account_offset := result.next_offset }

/-! ## The methods the window calls -/

/-- `BeginInitialize`. -/
def beginInitialize (s : ShellViewModel) : Bool × ShellViewModel :=
  s.beginStatusRequest .initialStatus

/-- `CompleteInitialize`. -/
def completeInitialize (s : ShellViewModel) (outcome : ShellRequestOutcome) : ShellViewModel :=
  s.completeStatusRequest .initialStatus outcome

/-- `BeginRetry`. -/
def beginRetry (s : ShellViewModel) : Bool × ShellViewModel :=
  if s.state ≠ .error ∧ s.state ≠ .agentUnavailable then (false, s)
  else if s.lock_intent_pending then s.beginLockRequest
  else s.beginStatusRequest .retryStatus

/-- `BeginRefresh`. -/
def beginRefresh (s : ShellViewModel) : Bool × ShellViewModel :=
  s.beginStatusRequest .refreshStatus

/-- `CompleteRefresh`. -/
def completeRefresh (s : ShellViewModel) (outcome : ShellRequestOutcome) : ShellViewModel :=
  s.completeStatusRequest .refreshStatus outcome

/-- `BeginCreate`. -/
def beginCreate (s : ShellViewModel) : Bool × ShellViewModel :=
  if s.state ≠ .firstRun then (false, s)
  else
    (true, { s with
      resume_state := s.state
      pending_action := .create
      state := .unlocking
      message := unlockingMessage })

/-- `CompleteCreate`. -/
def completeCreate (s : ShellViewModel) (outcome : ShellRequestOutcome) : ShellViewModel :=
  if s.pending_action ≠ .create then s else { s with pending_action := .none }.apply outcome

/-- `BeginUnlock`. -/
def beginUnlock (s : ShellViewModel) : Bool × ShellViewModel :=
  if s.state ≠ .locked then (false, s)
  else
    (true, { s with
      resume_state := s.state
      pending_action := .unlock
      state := .unlocking
      message := unlockingMessage })

/-- `CompleteUnlock`. -/
def completeUnlock (s : ShellViewModel) (outcome : ShellRequestOutcome) : ShellViewModel :=
  if s.pending_action ≠ .unlock then s else { s with pending_action := .none }.apply outcome

/-- `BeginWindowsHelloUnlock`. -/
def beginWindowsHelloUnlock (s : ShellViewModel) : Bool × ShellViewModel :=
  if s.state ≠ .locked then (false, s) else s.beginWindowsHelloRequest .unlockWindowsHello

/-- `CompleteWindowsHelloUnlock`. -/
def completeWindowsHelloUnlock (s : ShellViewModel) (outcome : ShellRequestOutcome) :
    ShellViewModel :=
  s.completeWindowsHelloRequest .unlockWindowsHello outcome

/-- `BeginWindowsHelloEnrollment`. -/
def beginWindowsHelloEnrollment (s : ShellViewModel) : Bool × ShellViewModel :=
  if s.state ≠ .unlocked then (false, s) else s.beginWindowsHelloRequest .enrollWindowsHello

/-- `CompleteWindowsHelloEnrollment`. -/
def completeWindowsHelloEnrollment (s : ShellViewModel) (outcome : ShellRequestOutcome) :
    ShellViewModel :=
  if s.pending_action ≠ .enrollWindowsHello then s
  else
    let s := s.completeWindowsHelloRequest .enrollWindowsHello outcome
    if outcome.request = ⟨.none, .unlocked⟩ ∧ s.state = .unlocked then
      { s with message := windowsHelloEnrolledMessage }
    else s

/-- `BeginWindowsHelloRemoval`. -/
def beginWindowsHelloRemoval (s : ShellViewModel) : Bool × ShellViewModel :=
  if s.state ≠ .unlocked then (false, s) else s.beginWindowsHelloRequest .removeWindowsHello

/-- `CompleteWindowsHelloRemoval`. -/
def completeWindowsHelloRemoval (s : ShellViewModel) (outcome : ShellRequestOutcome) :
    ShellViewModel :=
  if s.pending_action ≠ .removeWindowsHello then s
  else
    let s := s.completeWindowsHelloRequest .removeWindowsHello outcome
    if outcome.request = ⟨.none, .unlocked⟩ ∧ s.state = .unlocked then
      { s with message := windowsHelloRemovedMessage }
    else s

/-- `BeginLock`. -/
def beginLock (s : ShellViewModel) : Bool × ShellViewModel :=
  if s.state ≠ .unlocked ∨ s.pending_action ≠ .none then (false, s)
  else { s with lock_intent_pending := true }.beginLockRequest

/-- `CompleteLock`. -/
def completeLock (s : ShellViewModel) (outcome : ShellRequestOutcome) : ShellViewModel :=
  if s.pending_action ≠ .lock then s
  else
    let s := { s with pending_action := .none }
    if outcome.request = ⟨.none, .locked⟩ ∨ outcome.request.error = .locked then
      { s with lock_intent_pending := false }.setVaultStatus .locked
    else s.applyLockFailure outcome.request.error

/-- `CompleteRetry`. -/
def completeRetry (s : ShellViewModel) (outcome : ShellRequestOutcome) : ShellViewModel :=
  if s.pending_action = .lock then s.completeLock outcome
  else s.completeStatusRequest .retryStatus outcome

/-- `ShowAccountEditor`. -/
def showAccountEditor (s : ShellViewModel) : ShellViewModel :=
  if s.state = .unlocked then { s with account_editor_visible := true } else s

/-- `CancelAccountEditor`. -/
def cancelAccountEditor (s : ShellViewModel) : ShellViewModel :=
  { s with account_editor_visible := false }

/-- `BeginSaveAccount`. -/
def beginSaveAccount (s : ShellViewModel) : Bool × ShellViewModel :=
  if s.state ≠ .unlocked ∨ s.account_editor_visible = false then (false, s)
  else
    (true, { s with
      resume_state := s.state
      pending_action := .saveAccount
      state := .saving
      message := savingMessage })

/-- `CompleteSaveAccount`. -/
def completeSaveAccount (s : ShellViewModel) (outcome : ShellRequestOutcome) : ShellViewModel :=
  if s.pending_action ≠ .saveAccount then s
  else
    let s := { s with pending_action := .none }
    if outcome.request.error = .none then
      { s with account_editor_visible := false }.apply outcome
    else s.apply outcome

/-- `BeginDeletePasskey`. -/
def beginDeletePasskey (s : ShellViewModel) : Bool × ShellViewModel :=
  if s.state ≠ .unlocked ∨ s.pending_action ≠ .none then (false, s)
  else
    (true, { s with
      resume_state := s.state
      pending_action := .deletePasskey
      account_editor_visible := false
      state := .saving
      message := deletingPasskeyMessage })

/-- `CompleteDeletePasskey`. -/
def completeDeletePasskey (s : ShellViewModel) (outcome : ShellRequestOutcome) :
    ShellViewModel :=
  if s.pending_action ≠ .deletePasskey then s
  else { s with pending_action := .none }.apply outcome

/-- `BeginNextAccountPage`. -/
def beginNextAccountPage (s : ShellViewModel) : Option UInt32 × ShellViewModel :=
  match s.next_account_offset with
  | none => (none, s)
  | some offset => s.beginAccountPageRequest .nextAccountPage offset

/-- `BeginPreviousAccountPage`. -/
def beginPreviousAccountPage (s : ShellViewModel) : Option UInt32 × ShellViewModel :=
  match s.previous_account_offsets.getLast? with
  | none => (none, s)
  | some offset => s.beginAccountPageRequest .previousAccountPage offset

/-- `CompleteNextAccountPage`. -/
def completeNextAccountPage (s : ShellViewModel) (result : AccountListResult) : ShellViewModel :=
  s.completeAccountPageRequest .nextAccountPage result

/-- `CompletePreviousAccountPage`. -/
def completePreviousAccountPage (s : ShellViewModel) (result : AccountListResult) :
    ShellViewModel :=
  s.completeAccountPageRequest .previousAccountPage result

end ShellViewModel

/-! ## Calls -/

/-- A call of the window. -/
inductive ShellCall
  | beginInitialize
  | completeInitialize (outcome : ShellRequestOutcome)
  | beginRetry
  | completeRetry (outcome : ShellRequestOutcome)
  | beginRefresh
  | completeRefresh (outcome : ShellRequestOutcome)
  | beginCreate
  | completeCreate (outcome : ShellRequestOutcome)
  | beginUnlock
  | completeUnlock (outcome : ShellRequestOutcome)
  | beginWindowsHelloUnlock
  | completeWindowsHelloUnlock (outcome : ShellRequestOutcome)
  | beginWindowsHelloEnrollment
  | completeWindowsHelloEnrollment (outcome : ShellRequestOutcome)
  | beginWindowsHelloRemoval
  | completeWindowsHelloRemoval (outcome : ShellRequestOutcome)
  | beginLock
  | completeLock (outcome : ShellRequestOutcome)
  | showAccountEditor
  | cancelAccountEditor
  | beginSaveAccount
  | completeSaveAccount (outcome : ShellRequestOutcome)
  | beginDeletePasskey
  | completeDeletePasskey (outcome : ShellRequestOutcome)
  | beginNextAccountPage
  | beginPreviousAccountPage
  | completeNextAccountPage (result : AccountListResult)
  | completePreviousAccountPage (result : AccountListResult)

namespace ShellViewModel

/-- What a call makes of the model. -/
def call (s : ShellViewModel) : ShellCall → ShellViewModel
  | .beginInitialize => s.beginInitialize.2
  | .completeInitialize outcome => s.completeInitialize outcome
  | .beginRetry => s.beginRetry.2
  | .completeRetry outcome => s.completeRetry outcome
  | .beginRefresh => s.beginRefresh.2
  | .completeRefresh outcome => s.completeRefresh outcome
  | .beginCreate => s.beginCreate.2
  | .completeCreate outcome => s.completeCreate outcome
  | .beginUnlock => s.beginUnlock.2
  | .completeUnlock outcome => s.completeUnlock outcome
  | .beginWindowsHelloUnlock => s.beginWindowsHelloUnlock.2
  | .completeWindowsHelloUnlock outcome => s.completeWindowsHelloUnlock outcome
  | .beginWindowsHelloEnrollment => s.beginWindowsHelloEnrollment.2
  | .completeWindowsHelloEnrollment outcome => s.completeWindowsHelloEnrollment outcome
  | .beginWindowsHelloRemoval => s.beginWindowsHelloRemoval.2
  | .completeWindowsHelloRemoval outcome => s.completeWindowsHelloRemoval outcome
  | .beginLock => s.beginLock.2
  | .completeLock outcome => s.completeLock outcome
  | .showAccountEditor => s.showAccountEditor
  | .cancelAccountEditor => s.cancelAccountEditor
  | .beginSaveAccount => s.beginSaveAccount.2
  | .completeSaveAccount outcome => s.completeSaveAccount outcome
  | .beginDeletePasskey => s.beginDeletePasskey.2
  | .completeDeletePasskey outcome => s.completeDeletePasskey outcome
  | .beginNextAccountPage => s.beginNextAccountPage.2
  | .beginPreviousAccountPage => s.beginPreviousAccountPage.2
  | .completeNextAccountPage result => s.completeNextAccountPage result
  | .completePreviousAccountPage result => s.completePreviousAccountPage result

/-- What a sequence of calls makes of the model. -/
def calls (s : ShellViewModel) (history : List ShellCall) : ShellViewModel :=
  history.foldl call s

/-- The model of a new window after a sequence of calls. -/
def after (history : List ShellCall) : ShellViewModel := calls {} history

end ShellViewModel

namespace ShellCall

/-- The action a call completes when it is pending; `none` for a call that completes nothing.
`CompleteRetry` completes a pending lock as well. -/
def completes (s : ShellViewModel) : ShellCall → Option PendingAction
  | .completeInitialize _ => some .initialStatus
  | .completeRetry _ => some (if s.pending_action = .lock then .lock else .retryStatus)
  | .completeRefresh _ => some .refreshStatus
  | .completeCreate _ => some .create
  | .completeUnlock _ => some .unlock
  | .completeWindowsHelloUnlock _ => some .unlockWindowsHello
  | .completeWindowsHelloEnrollment _ => some .enrollWindowsHello
  | .completeWindowsHelloRemoval _ => some .removeWindowsHello
  | .completeLock _ => some .lock
  | .completeSaveAccount _ => some .saveAccount
  | .completeDeletePasskey _ => some .deletePasskey
  | .completeNextAccountPage _ => some .nextAccountPage
  | .completePreviousAccountPage _ => some .previousAccountPage
  | _ => none

/-- What a completion says of the vault: the result of the request, or the error of a page. -/
def answer : ShellCall → Option ClientResult
  | .completeInitialize outcome | .completeRetry outcome | .completeRefresh outcome
  | .completeCreate outcome | .completeUnlock outcome | .completeWindowsHelloUnlock outcome
  | .completeWindowsHelloEnrollment outcome | .completeWindowsHelloRemoval outcome
  | .completeLock outcome | .completeSaveAccount outcome | .completeDeletePasskey outcome =>
    some outcome.request
  | .completeNextAccountPage result | .completePreviousAccountPage result =>
    some ⟨result.error, .unlocked⟩
  | _ => none

end ShellCall

end Librarian.Desktop
