import Librarian.Desktop.Shell
import Librarian.Lib.Runs

/-!
# The calls of the view model

What one call of `ShellViewModel` can do: begin a request, show or hide the account editor, take in
the outcome of the pending action, or nothing. Every call keeps the model consistent.
-/

namespace Librarian.Desktop

/-- The states in which the window waits for an outcome. -/
def ShellState.busy : ShellState → Bool
  | .unlocking | .saving | .refreshing => true
  | _ => false

/-- The actions that load a page of accounts. -/
def PendingAction.pages : PendingAction → Bool
  | .nextAccountPage | .previousAccountPage => true
  | _ => false

namespace ShellViewModel

variable {s s' : ShellViewModel} {status : VaultStatus} {error : ClientError}
  {outcome : ShellRequestOutcome} {result : AccountListResult} {action : PendingAction}
  {c : ShellCall}

/-! ## What a begun request changes -/

/-- The model between two calls. -/
structure Consistent (s : ShellViewModel) : Prop where
  pending : s.pending_action ≠ .none ↔ s.state.busy = true
  resume : s.resume_state.busy = false
  editor : s.account_editor_visible = true →
    s.state = .unlocked ∨ s.state = .saving ∨ s.state = .refreshing
  offset : s.pending_account_offset.isSome = s.pending_action.pages
  previous : s.pending_action = .previousAccountPage →
    s.previous_account_offsets.getLast? = s.pending_account_offset
  paging : s.pending_action.pages = true → s.resume_state = .unlocked
  intent : s.lock_intent_pending = true → s.state ≠ .unlocked
  held : s.lock_intent_pending = true → s.pending_action ≠ .none → s.pending_action ≠ .lock →
    s.resume_state ≠ .unlocked

/-- The effect of a `Begin` that returns true. -/
structure Begun (s s' : ShellViewModel) : Prop where
  idle : s.pending_action = .none
  pending : s'.pending_action ≠ .none
  state : s'.state.busy = true
  resume : s'.resume_state = s.state
  editor : s'.account_editor_visible = true →
    s.account_editor_visible = true ∧
        (s.state = .unlocked → s'.state = .saving ∨ s'.state = .refreshing)
  offset : s'.pending_action.pages = false ∧ s'.pending_account_offset = s.pending_account_offset ∨
    s'.pending_action.pages = true ∧ s'.pending_account_offset.isSome = true ∧ s.state = .unlocked
  previous : s'.pending_action = .previousAccountPage →
    s.previous_account_offsets.getLast? = s'.pending_account_offset
  offsets : s'.current_account_offset = s.current_account_offset ∧
    s'.previous_account_offsets = s.previous_account_offsets
  accounts : s'.accounts = s.accounts ∨ s'.accounts = []
  passkeys : s'.passkeys = s.passkeys ∨ s'.passkeys = []
  intent : s'.lock_intent_pending = s.lock_intent_pending ∨
    s.state = .unlocked ∧ s'.pending_action = .lock

theorem Consistent.idle (h : Consistent s) (hstate : s.state.busy = false) :
    s.pending_action = .none := by
  by_contra hpending
  rw [h.pending.mp hpending] at hstate
  cases hstate

theorem begun_status (haction : action ≠ .none) (hpages : action.pages = false) :
    (s.beginStatusRequest action).2 = s ∨ Begun s (s.beginStatusRequest action).2 := by
  unfold beginStatusRequest
  split_ifs with hidle
  · exact .inl rfl
  · rw [not_not] at hidle
    have hprevious : action ≠ .previousAccountPage := by
      rintro rfl
      cases hpages
    right
    by_cases hrefreshing : action = .refreshStatus ∧ s.state = .unlocked
    · constructor <;> simp [hidle, hrefreshing, ShellState.busy, PendingAction.pages]
    · constructor <;> simp [hidle, hrefreshing, haction, hpages, hprevious, ShellState.busy]

theorem begun_windowsHello (haction : action ≠ .none) (hpages : action.pages = false) :
    (s.beginWindowsHelloRequest action).2 = s ∨ Begun s (s.beginWindowsHelloRequest action).2 := by
  unfold beginWindowsHelloRequest
  split_ifs with hidle
  · exact .inl rfl
  · rw [not_not] at hidle
    have hprevious : action ≠ .previousAccountPage := by
      rintro rfl
      cases hpages
    right
    constructor <;> simp [hidle, haction, hpages, hprevious, ShellState.busy]

theorem begun_lock : s.beginLockRequest.2 = s ∨ Begun s s.beginLockRequest.2 := by
  unfold beginLockRequest
  split_ifs with hidle
  · exact .inl rfl
  · rw [not_not] at hidle
    right
    constructor <;> simp [hidle, ShellState.busy, PendingAction.pages]

theorem begun_page {offset : UInt32} (hpages : action.pages = true)
    (hprevious : action = .previousAccountPage →
      s.previous_account_offsets.getLast? = some offset) :
    (s.beginAccountPageRequest action offset).2 = s ∨
      Begun s (s.beginAccountPageRequest action offset).2 := by
  unfold beginAccountPageRequest
  split_ifs with hguard
  · exact .inl rfl
  · rw [not_or, not_not, not_not] at hguard
    obtain ⟨hstate, hidle⟩ := hguard
    have haction : action ≠ .none := by
      rintro rfl
      cases hpages
    right
    constructor <;> simp [hidle, hstate, hpages, haction, ShellState.busy]
    exact hprevious

/-- A `Begin` that keeps everything but the state, the message and the pending action. -/
theorem begun_plain {state : ShellState} {message : String} (hidle : s.pending_action = .none)
    (hbusy : state.busy = true) (haction : action ≠ .none) (hpages : action.pages = false)
    (heditor : s.account_editor_visible = true → s.state = .unlocked → state = .saving) :
    Begun s { s with
      resume_state := s.state, pending_action := action, state := state, message := message } := by
  have hprevious : action ≠ .previousAccountPage := by
    rintro rfl
    cases hpages
  constructor <;> simp [hidle, hbusy, haction, hpages, hprevious]
  intro hvisible
  exact ⟨hvisible, fun hstate => .inl (heditor hvisible hstate)⟩

/-- The calls that begin a request. -/
def Begins : ShellCall → Prop
  | .beginInitialize | .beginRetry | .beginRefresh | .beginCreate | .beginUnlock
  | .beginWindowsHelloUnlock | .beginWindowsHelloEnrollment | .beginWindowsHelloRemoval
  | .beginLock | .beginSaveAccount | .beginDeletePasskey | .beginNextAccountPage
  | .beginPreviousAccountPage => True
  | _ => False

/-- Beginning a request either changes nothing or starts it. -/
theorem Consistent.begun (h : Consistent s) (hc : Begins c) :
    s.call c = s ∨ Begun s (s.call c) := by
  cases c with
  | beginInitialize => exact begun_status (by decide) rfl
  | beginRetry =>
    show s.beginRetry.2 = s ∨ _
    unfold call beginRetry
    split_ifs
    · exact .inl rfl
    · exact begun_lock
    · exact begun_status (by decide) rfl
  | beginRefresh => exact begun_status (by decide) rfl
  | beginCreate =>
    unfold call beginCreate
    split_ifs with hstate
    · exact .inl rfl
    · rw [not_not] at hstate
      have hidle := h.idle (by rw [hstate]; rfl)
      exact .inr (begun_plain hidle rfl (by decide) rfl (by simp [hstate]))
  | beginUnlock =>
    unfold call beginUnlock
    split_ifs with hstate
    · exact .inl rfl
    · rw [not_not] at hstate
      have hidle := h.idle (by rw [hstate]; rfl)
      exact .inr (begun_plain hidle rfl (by decide) rfl (by simp [hstate]))
  | beginWindowsHelloUnlock =>
    unfold call beginWindowsHelloUnlock
    split_ifs
    · exact .inl rfl
    · exact begun_windowsHello (by decide) rfl
  | beginWindowsHelloEnrollment =>
    unfold call beginWindowsHelloEnrollment
    split_ifs
    · exact .inl rfl
    · exact begun_windowsHello (by decide) rfl
  | beginWindowsHelloRemoval =>
    unfold call beginWindowsHelloRemoval
    split_ifs
    · exact .inl rfl
    · exact begun_windowsHello (by decide) rfl
  | beginLock =>
    unfold call beginLock
    split_ifs with hguard
    · exact .inl rfl
    · rw [not_or, not_not, not_not] at hguard
      obtain ⟨hstate, hidle⟩ := hguard
      right
      unfold beginLockRequest
      rw [if_neg (by simp [hidle])]
      constructor <;> simp [hidle, hstate, ShellState.busy, PendingAction.pages]
  | beginSaveAccount =>
    unfold call beginSaveAccount
    split_ifs with hguard
    · exact .inl rfl
    · rw [not_or, not_not] at hguard
      have hidle := h.idle (by rw [hguard.1]; rfl)
      exact .inr (begun_plain hidle rfl (by decide) rfl fun _ _ => rfl)
  | beginDeletePasskey =>
    unfold call beginDeletePasskey
    split_ifs with hguard
    · exact .inl rfl
    · rw [not_or, not_not, not_not] at hguard
      obtain ⟨hstate, hidle⟩ := hguard
      right
      constructor <;> simp [hidle, hstate, ShellState.busy, PendingAction.pages]
  | beginNextAccountPage =>
    unfold call beginNextAccountPage
    cases s.next_account_offset with
    | none => exact .inl rfl
    | some offset => exact begun_page rfl (by simp)
  | beginPreviousAccountPage =>
    unfold call beginPreviousAccountPage
    cases hlast : s.previous_account_offsets.getLast? with
    | none => exact .inl rfl
    | some offset => exact begun_page rfl fun _ => hlast
  | _ => exact hc.elim

/-- A begun request leaves the model consistent. -/
theorem Begun.consistent (hb : Begun s s') (h : Consistent s) : Consistent s' := by
  have hresting : s.state.busy = false := by
    by_contra hbusy
    exact h.pending.mpr (by simpa using hbusy) hb.idle
  have hoffset : s.pending_account_offset = none := by
    have hsome := h.offset
    rw [hb.idle] at hsome
    simpa [PendingAction.pages] using hsome
  have hunlocked : s.account_editor_visible = true → s.state = .unlocked := by
    intro hvisible
    rcases h.editor hvisible with hstate | hstate | hstate
    · exact hstate
    all_goals
      rw [hstate] at hresting
      cases hresting
  exact {
    pending := ⟨fun _ => hb.state, fun _ => hb.pending⟩
    resume := by rw [hb.resume]; exact hresting
    editor := fun hvisible =>
      .inr ((hb.editor hvisible).2 (hunlocked (hb.editor hvisible).1))
    offset := by
      rcases hb.offset with ⟨hpages, hsame⟩ | ⟨hpages, hsome, -⟩
      · rw [hpages, hsame, hoffset]
        rfl
      · rw [hpages, hsome]
    previous := fun hprevious => by
      rw [hb.offsets.2]
      exact hb.previous hprevious
    paging := fun hpages => by
      rcases hb.offset with ⟨hno, -⟩ | ⟨-, -, hstate⟩
      · rw [hpages] at hno
        cases hno
      · exact hb.resume.trans hstate
    intent := fun _ hstate => by
      have hbusy := hb.state
      rw [hstate] at hbusy
      cases hbusy
    held := fun hintent _ hlock => by
      rw [hb.resume]
      rcases hb.intent with hsame | ⟨-, hpending⟩
      · rw [hsame] at hintent
        exact h.intent hintent
      · exact absurd hpending hlock }

/-! ## What an outcome changes -/

/-- The model while an outcome is taken in: the action is no longer pending. -/
structure Answering (s : ShellViewModel) : Prop where
  pending : s.pending_action = .none
  resume : s.resume_state.busy = false
  offset : s.pending_account_offset = none
  held : s.lock_intent_pending = true → s.resume_state ≠ .unlocked

/-- The model once an outcome is taken in. -/
structure Rested (s : ShellViewModel) : Prop where
  pending : s.pending_action = .none
  resume : s.resume_state.busy = false
  offset : s.pending_account_offset = none
  state : s.state.busy = false
  editor : s.account_editor_visible = true → s.state = .unlocked
  intent : s.lock_intent_pending = true → s.state ≠ .unlocked

theorem Rested.consistent (h : Rested s) : Consistent s where
  pending := by simp [h.pending, h.state]
  resume := h.resume
  editor := fun hvisible => .inl (h.editor hvisible)
  offset := by rw [h.pending, h.offset]; rfl
  previous := by simp [h.pending]
  paging := by simp [h.pending, PendingAction.pages]
  intent := h.intent
  held := fun _ hpending => absurd h.pending hpending

theorem setVaultStatus_hidden (s : ShellViewModel) (status : VaultStatus) :
    (s.setVaultStatus status).accounts = [] ∧ (s.setVaultStatus status).passkeys = [] := by
  unfold setVaultStatus
  dsimp only
  split_ifs
  · exact ⟨rfl, rfl⟩
  · cases status <;> exact ⟨rfl, rfl⟩

theorem rested_setVaultStatus (hpending : s.pending_action = .none)
    (hresume : s.resume_state.busy = false) (status : VaultStatus) :
    Rested (s.setVaultStatus status) := by
  unfold setVaultStatus
  dsimp only
  split_ifs with hheld
  · exact ⟨hpending, hresume, rfl, rfl, by simp [clearAccounts], by simp⟩
  · cases status with
    | firstRun => exact ⟨hpending, hresume, rfl, rfl, by simp [clearAccounts], by simp⟩
    | locked => exact ⟨hpending, hresume, rfl, rfl, by simp [clearAccounts], by simp⟩
    | unlocked =>
      refine ⟨hpending, rfl, rfl, rfl, by simp, fun hintent => ?_⟩
      exact absurd ⟨hintent, by decide⟩ hheld

theorem rested_applyLockFailure (hpending : s.pending_action = .none)
    (hresume : s.resume_state.busy = false) (hoffset : s.pending_account_offset = none)
    (error : ClientError) : Rested (s.applyLockFailure error) := by
  unfold applyLockFailure hide
  split_ifs
  · exact ⟨hpending, hresume, hoffset, rfl, by simp, by simp⟩
  · exact ⟨hpending, hresume, hoffset, rfl, by simp, by simp⟩

theorem Answering.resumed (h : Answering s) (message : String) : Rested (s.resume message) := by
  unfold ShellViewModel.resume hide
  dsimp only
  split_ifs with hunlocked
  · exact ⟨h.pending, h.resume, h.offset, h.resume, by simp, fun _ => hunlocked⟩
  · rw [not_not] at hunlocked
    exact ⟨h.pending, h.resume, h.offset, h.resume, fun _ => hunlocked, h.held⟩

theorem Answering.applyError (h : Answering s) (error : ClientError) :
    Rested (s.applyError error) := by
  cases error with
  | none => exact rested_setVaultStatus h.pending h.resume _
  | cancelled => exact h.resumed _
  | windowsHelloUnavailable => exact h.resumed _
  | agentUnavailable | busy | invalidCredentials | locked | unexpected =>
    exact ⟨h.pending, h.resume, h.offset, rfl, by simp [ShellViewModel.applyError, hide],
      by simp [ShellViewModel.applyError]⟩

theorem Answering.applyAccounts (h : Answering s) (hrested : result.error = .none → Rested s) :
    Rested (s.applyAccounts result) := by
  unfold ShellViewModel.applyAccounts
  by_cases herror : result.error = .none
  · rw [if_neg (not_not.mpr herror)]
    obtain ⟨hpending, hresume, hoffset, hstate, heditor, hintent⟩ := hrested herror
    exact ⟨hpending, hresume, hoffset, hstate, heditor, hintent⟩
  · rw [if_pos herror]
    split_ifs
    · exact ⟨h.pending, h.resume, h.offset, rfl, by simp, by simp⟩
    · exact h.applyError _

theorem Answering.applyPasskeys (h : Answering s) (hrested : Rested s)
    (result : PasskeyListResult) : Rested (s.applyPasskeys result) := by
  obtain ⟨hpending, hresume, hoffset, hstate, heditor, hintent⟩ := hrested
  unfold ShellViewModel.applyPasskeys
  split_ifs
  · exact ⟨hpending, hresume, hoffset, hstate, heditor, hintent⟩
  · exact h.applyError _
  · exact ⟨hpending, hresume, hoffset, hstate, heditor, hintent⟩

/-- With the intent to lock out of the way, a rested model can take in an error. -/
theorem Rested.answering (h : Rested s) (hunlocked : s.state = .unlocked) : Answering s where
  pending := h.pending
  resume := h.resume
  offset := h.offset
  held := fun hintent => absurd hunlocked (h.intent hintent)

theorem Answering.apply (h : Answering s) (outcome : ShellRequestOutcome) :
    Rested (s.apply outcome) := by
  have hstatus := rested_setVaultStatus h.pending h.resume outcome.request.status
  unfold ShellViewModel.apply
  dsimp only
  split_ifs with herror hunlocked
  · exact h.applyError _
  · exact hstatus
  · rw [not_not] at hunlocked
    have hanswering := hstatus.answering hunlocked
    split
    · rename_i accounts passkeys _ _
      have haccounts : Rested ((s.setVaultStatus outcome.request.status).applyAccounts accounts) :=
        hanswering.applyAccounts fun _ => hstatus
      split_ifs with hstill
      · exact (haccounts.answering hstill).applyPasskeys haccounts passkeys
      · exact haccounts
    · exact hanswering.applyError _

/-! ## One call -/

/-- The call completes the pending action. -/
def Settles (s : ShellViewModel) (c : ShellCall) : Prop := c.completes s = some s.pending_action

instance : DecidableRel Settles := fun s c =>
  inferInstanceAs (Decidable (c.completes s = some s.pending_action))

/-- A completion of an action that is not pending changes nothing. -/
theorem unsettled (hc : (c.completes s).isSome = true) (hsettles : ¬ Settles s c) :
    s.call c = s := by
  unfold Settles at hsettles
  cases c with
  | completeInitialize outcome | completeRefresh outcome | completeCreate outcome
  | completeUnlock outcome | completeWindowsHelloUnlock outcome
  | completeWindowsHelloEnrollment outcome | completeWindowsHelloRemoval outcome
  | completeLock outcome | completeSaveAccount outcome | completeDeletePasskey outcome =>
    exact if_pos fun hpending => hsettles (congrArg some hpending.symm)
  | completeRetry outcome =>
    have hlock : s.pending_action ≠ .lock := by
      intro hlock
      exact hsettles (by simp [ShellCall.completes, hlock])
    have hretry : s.pending_action ≠ .retryStatus := by
      intro hretry
      exact hsettles (by simp [ShellCall.completes, hretry])
    show s.completeRetry outcome = s
    unfold completeRetry completeStatusRequest
    rw [if_neg hlock, if_pos hretry]
  | completeNextAccountPage result | completePreviousAccountPage result =>
    have hpending := fun h => hsettles (congrArg some (Eq.symm h))
    unfold call completeNextAccountPage completePreviousAccountPage completeAccountPageRequest
    cases s.pending_account_offset with
    | none => rfl
    | some offset => exact if_pos hpending
  | _ => cases hc

/-- A result that says the vault is locked. -/
def Confirms (answer : ClientResult) : Prop := answer = ⟨.none, .locked⟩ ∨ answer.error = .locked

instance : DecidablePred Confirms := fun answer =>
  inferInstanceAs (Decidable (answer = ⟨.none, .locked⟩ ∨ answer.error = .locked))

/-- What the completion of the pending action makes of the model. -/
inductive Completion (s : ShellViewModel) (c : ShellCall) : ShellViewModel → Prop
  | locked {answer : ClientResult} (hanswer : c.answer = some answer)
      (hpending : s.pending_action = .lock) (hconfirms : Confirms answer) :
      Completion s c
          ({ s with pending_action := .none, lock_intent_pending := false }.setVaultStatus
        .locked)
  | lockFailed {answer : ClientResult} (hanswer : c.answer = some answer)
      (hpending : s.pending_action = .lock) (hconfirms : ¬ Confirms answer) :
      Completion s c ({ s with pending_action := .none }.applyLockFailure answer.error)
  | unverified {answer : ClientResult} (hanswer : c.answer = some answer)
      (hpending : s.pending_action ≠ .lock) (hpages : s.pending_action.pages = false)
      (herror : answer.error = .cancelled ∨ answer.error = .windowsHelloUnavailable) :
      Completion s c ({ s with pending_action := .none, account_editor_visible := false }.applyError
        .unexpected)
  | applied {outcome : ShellRequestOutcome} (hanswer : c.answer = some outcome.request)
      (hpending : s.pending_action ≠ .lock) (hpages : s.pending_action.pages = false)
      (before after : Bool) (message : String)
      (hafter : after = true →
        ({ s with pending_action := .none, account_editor_visible := before }.apply
          outcome).account_editor_visible = true ∨
        ({ s with pending_action := .none, account_editor_visible := before }.apply
          outcome).state = .unlocked) :
      Completion s c { ({ s with pending_action := .none, account_editor_visible := before }.apply
        outcome) with account_editor_visible := after, message := message }
  | pageFailed {result : AccountListResult} (hanswer : c.answer = some ⟨result.error, .unlocked⟩)
      (hpages : s.pending_action.pages = true) (herror : result.error ≠ .none) :
      Completion s c
          ({ s with pending_action := .none, pending_account_offset := none }.applyAccounts
        result)
  | pageLoaded {result : AccountListResult} (hanswer : c.answer = some ⟨result.error, .unlocked⟩)
      (hpages : s.pending_action.pages = true) (herror : result.error = .none) (offset : UInt32)
      (hoffset : s.pending_account_offset = some offset) (message : String) :
      Completion s c { s with
        pending_action := .none
        pending_account_offset := none
        previous_account_offsets :=
          if s.pending_action = .nextAccountPage then
            s.previous_account_offsets ++ [s.current_account_offset]
          else s.previous_account_offsets.dropLast
        current_account_offset := offset
        state := .unlocked
        message := message
        accounts := result.accounts
        next_account_offset := result.next_offset }

/-- `Apply` as it stands in a completion. -/
theorem Completion.of_apply {outcome : ShellRequestOutcome}
    (hanswer : c.answer = some outcome.request) (hpending : s.pending_action ≠ .lock)
    (hpages : s.pending_action.pages = false) (before : Bool) :
    Completion s c ({ s with pending_action := .none, account_editor_visible := before }.apply
      outcome) :=
  .applied hanswer hpending hpages before _ _ .inl

theorem completion_status {outcome : ShellRequestOutcome}
    (hanswer : c.answer = some outcome.request) (haction : s.pending_action = action)
    (hlock : action ≠ .lock) (hpages : action.pages = false) :
    Completion s c (s.completeStatusRequest action outcome) := by
  subst haction
  unfold completeStatusRequest
  rw [if_neg (not_not.mpr rfl)]
  dsimp only
  split_ifs with herror
  · exact .unverified hanswer hlock hpages herror
  · refine .applied hanswer hlock hpages false _ _ fun hafter => .inr ?_
    rw [Bool.and_eq_true, decide_eq_true_eq] at hafter
    exact hafter.2

theorem completion_windowsHello {outcome : ShellRequestOutcome}
    (hanswer : c.answer = some outcome.request) (haction : s.pending_action = action)
    (hlock : action ≠ .lock) (hpages : action.pages = false) (message : Option String) :
    Completion s c { s.completeWindowsHelloRequest action outcome with
      message := message.getD (s.completeWindowsHelloRequest action outcome).message } := by
  subst haction
  unfold completeWindowsHelloRequest
  rw [if_neg (not_not.mpr rfl)]
  dsimp only
  split_ifs
  · exact .applied hanswer hlock hpages s.account_editor_visible _ _ .inl
  · exact .applied hanswer hlock hpages s.account_editor_visible _ _ .inl

theorem completion_lock {outcome : ShellRequestOutcome}
    (hanswer : c.answer = some outcome.request) (haction : s.pending_action = .lock) :
    Completion s c (s.completeLock outcome) := by
  unfold completeLock
  rw [if_neg (not_not.mpr haction)]
  dsimp only
  split_ifs with hconfirms
  · exact .locked hanswer haction hconfirms
  · exact .lockFailed hanswer haction hconfirms

theorem completion_page (h : Consistent s)
    (hanswer : c.answer = some ⟨result.error, .unlocked⟩) (haction : s.pending_action = action)
    (hpages : action.pages = true) :
    Completion s c (s.completeAccountPageRequest action result) := by
  subst haction
  unfold completeAccountPageRequest
  have hsome := h.offset.trans hpages
  obtain ⟨offset, hoffset⟩ := Option.isSome_iff_exists.mp hsome
  rw [hoffset]
  dsimp only
  rw [if_neg (not_not.mpr rfl)]
  by_cases herror : result.error = .none
  · rw [if_neg (not_not.mpr herror)]
    exact .pageLoaded hanswer hpages herror offset hoffset _
  · rw [if_pos herror]
    exact .pageFailed hanswer hpages herror

/-- The completion of the pending action, one case for each way it can go. -/
theorem Settles.completion (h : Consistent s) (hc : Settles s c) : Completion s c (s.call c) := by
  unfold Settles at hc
  cases c with
  | completeInitialize outcome | completeRefresh outcome =>
    have haction := (Option.some.inj hc).symm
    exact completion_status rfl haction (by decide) rfl
  | completeRetry outcome =>
    have haction := Option.some.inj hc
    show Completion s _ (s.completeRetry outcome)
    unfold completeRetry
    split_ifs at haction ⊢ with hlock
    · exact completion_lock rfl hlock
    · exact completion_status rfl haction.symm (by decide) rfl
  | completeCreate outcome | completeUnlock outcome | completeDeletePasskey outcome =>
    have haction := (Option.some.inj hc).symm
    have hlock : s.pending_action ≠ .lock := by rw [haction]; decide
    have hpages : s.pending_action.pages = false := by rw [haction]; rfl
    unfold call completeCreate completeUnlock completeDeletePasskey
    dsimp only
    rw [if_neg (not_not.mpr haction)]
    exact .of_apply rfl hlock hpages s.account_editor_visible
  | completeWindowsHelloUnlock outcome =>
    have haction := (Option.some.inj hc).symm
    exact completion_windowsHello rfl haction (by decide) rfl none
  | completeWindowsHelloEnrollment outcome | completeWindowsHelloRemoval outcome =>
    have haction := (Option.some.inj hc).symm
    unfold call completeWindowsHelloEnrollment completeWindowsHelloRemoval
    dsimp only
    rw [if_neg (not_not.mpr haction)]
    split_ifs
    · exact completion_windowsHello rfl haction (by decide) rfl (some _)
    · exact completion_windowsHello rfl haction (by decide) rfl none
  | completeLock outcome => exact completion_lock rfl (Option.some.inj hc).symm
  | completeSaveAccount outcome =>
    have haction := (Option.some.inj hc).symm
    have hlock : s.pending_action ≠ .lock := by rw [haction]; decide
    have hpages : s.pending_action.pages = false := by rw [haction]; rfl
    show Completion s _ (s.completeSaveAccount outcome)
    unfold completeSaveAccount
    rw [if_neg (not_not.mpr haction)]
    dsimp only
    split_ifs
    · exact .of_apply rfl hlock hpages false
    · exact .of_apply rfl hlock hpages s.account_editor_visible
  | completeNextAccountPage result | completePreviousAccountPage result =>
    exact completion_page h rfl (Option.some.inj hc).symm rfl
  | _ => cases hc

theorem Settles.pending (hc : Settles s c) : s.pending_action ≠ .none := by
  intro hnone
  unfold Settles at hc
  cases c <;> simp [ShellCall.completes, hnone] at hc

/-- What a call can do. -/
theorem Consistent.call_cases (h : Consistent s) (c : ShellCall) :
    s.call c = s ∨ Begins c ∧ Begun s (s.call c) ∨
      (∃ visible, s.call c = { s with account_editor_visible := visible } ∧
        (visible = true → s.state = .unlocked)) ∨
      Settles s c ∧ Completion s c (s.call c) := by
  by_cases hbegins : Begins c
  · rcases h.begun hbegins with hsame | hbegun
    · exact .inl hsame
    · exact .inr (.inl ⟨hbegins, hbegun⟩)
  · by_cases hcompletes : (c.completes s).isSome = true
    · by_cases hsettles : Settles s c
      · exact .inr (.inr (.inr ⟨hsettles, hsettles.completion h⟩))
      · exact .inl (unsettled hcompletes hsettles)
    · -- What is left are the two calls that show and hide the editor.
      cases c with
      | showAccountEditor =>
        unfold call showAccountEditor
        split_ifs with hstate
        · exact .inr (.inr (.inl ⟨true, rfl, fun _ => hstate⟩))
        · exact .inl rfl
      | cancelAccountEditor => exact .inr (.inr (.inl ⟨false, rfl, by simp⟩))
      | _ => first
        | exact absurd trivial hbegins
        | exact absurd rfl hcompletes

theorem Consistent.answering (h : Consistent s) (hpending : s.pending_action ≠ .none)
    (hlock : s.pending_action ≠ .lock) (hpages : s.pending_action.pages = false)
    (visible : Bool) :
    Answering { s with pending_action := .none, account_editor_visible := visible } where
  pending := rfl
  resume := h.resume
  offset := by simpa [hpages] using h.offset
  held := fun hintent => h.held hintent hpending hlock

/-- A completion leaves the model at rest. -/
theorem Completion.rested (hc : Completion s c s') (h : Consistent s)
    (hpending : s.pending_action ≠ .none) : Rested s' := by
  cases hc with
  | locked =>
    exact rested_setVaultStatus
      (s := { s with pending_action := .none, lock_intent_pending := false }) rfl h.resume _
  | lockFailed _ hlock =>
    have hoffset : s.pending_account_offset = none := by
      simpa [hlock, PendingAction.pages] using h.offset
    exact rested_applyLockFailure (s := { s with pending_action := .none }) rfl h.resume hoffset _
  | unverified _ hlock hpages => exact (h.answering hpending hlock hpages _).applyError _
  | @applied outcome _ hlock hpages before after message hafter =>
    obtain ⟨hnone, hresume, hoffset, hstate, heditor, hintent⟩ :=
      (h.answering hpending hlock hpages before).apply outcome
    refine ⟨hnone, hresume, hoffset, hstate, fun hvisible => ?_, hintent⟩
    exact (hafter hvisible).elim heditor id
  | pageFailed _ hpages herror =>
    have hlock : s.pending_action ≠ .lock := by
      intro hlock
      rw [hlock] at hpages
      cases hpages
    have hanswering :
        Answering { s with pending_action := .none, pending_account_offset := none } :=
      ⟨rfl, h.resume, rfl, fun hintent => h.held hintent hpending hlock⟩
    exact hanswering.applyAccounts fun hnone => absurd hnone herror
  | pageLoaded _ hpages =>
    have hlock : s.pending_action ≠ .lock := by
      intro hlock
      rw [hlock] at hpages
      cases hpages
    exact ⟨rfl, h.resume, rfl, rfl, fun _ => rfl,
      fun hintent => absurd (h.paging hpages) (h.held hintent hpending hlock)⟩

/-- Every call keeps the model consistent. -/
theorem Consistent.call (h : Consistent s) (c : ShellCall) : Consistent (s.call c) := by
  rcases h.call_cases c with
    hsame | ⟨-, hbegun⟩ | ⟨visible, hcall, hvisible⟩ | ⟨hsettles, hcompletion⟩
  · rw [hsame]
    exact h
  · exact hbegun.consistent h
  · rw [hcall]
    exact { h with editor := fun hshown => .inl (hvisible hshown) }
  · exact (hcompletion.rested h hsettles.pending).consistent

theorem Consistent.calls (h : Consistent s) (history : List ShellCall) :
    Consistent (s.calls history) :=
  Runs.invariant history h fun _ c h => h.call c

/-- The model a window starts with is consistent. -/
theorem consistent_initial : Consistent {} where
  pending := by decide
  resume := rfl
  editor := by decide
  offset := rfl
  previous := by decide
  paging := by decide
  intent := by decide
  held := by decide

theorem consistent_after (history : List ShellCall) : Consistent (after history) :=
  consistent_initial.calls history

theorem after_append (before history : List ShellCall) :
    after (before ++ history) = (after before).calls history :=
  List.foldl_append

theorem after_concat (before : List ShellCall) (c : ShellCall) :
    after (before ++ [c]) = (after before).call c := by
  rw [after_append]
  rfl

end ShellViewModel

end Librarian.Desktop
