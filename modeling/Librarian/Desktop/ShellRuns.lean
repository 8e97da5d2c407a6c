import Librarian.Desktop.ShellCalls

/-!
# Runs of the view model

What any sequence of calls leaves true of `ShellViewModel`: the pending action and the busy states
go together, no credential metadata outlives the confirmed access, and the intent to lock holds
until the vault is known to be locked.
-/

namespace Librarian.Desktop

namespace ShellViewModel

variable {s s' : ShellViewModel} {status : VaultStatus} {error : ClientError}
  {outcome : ShellRequestOutcome} {result : AccountListResult} {action : PendingAction}
  {c : ShellCall}

/-! ## Paging -/

/-- The pages before the one shown, and the one shown. -/
def offsets (s : ShellViewModel) : List UInt32 × UInt32 :=
  (s.previous_account_offsets, s.current_account_offset)

/-- Between two completions the pages stay. -/
theorem offsets_call (h : Consistent s) (hc : ¬ Settles s c) : (s.call c).offsets = s.offsets := by
  rcases h.call_cases c with hsame | ⟨-, hbegun⟩ | ⟨visible, hcall, -⟩ | ⟨hsettles, -⟩
  · rw [hsame]
  · unfold offsets
    rw [hbegun.offsets.1, hbegun.offsets.2]
  · rw [hcall]
    rfl
  · exact absurd hsettles hc

theorem offsets_calls (h : Consistent s) {history : List ShellCall}
    (hquiet : Runs.Along call (fun s c => ¬ Settles s c) s history) :
    (s.calls history).offsets = s.offsets := by
  have hkept : Consistent (s.calls history) ∧ (s.calls history).offsets = s.offsets :=
    hquiet.invariant (I := fun t => Consistent t ∧ t.offsets = s.offsets) ⟨h, rfl⟩
      fun t c ht hc => ⟨ht.1.call c, (offsets_call ht.1 hc).trans ht.2⟩
  exact hkept.2

theorem Consistent.has_previous (h : Consistent s)
    (hpending : s.pending_action = .previousAccountPage) : s.previous_account_offsets ≠ [] := by
  intro hempty
  have hlast := h.previous hpending
  have hsome := h.offset
  rw [hempty] at hlast
  rw [← hlast, hpending] at hsome
  cases hsome

/-- A next page puts the page shown on the list of those before it. -/
theorem Consistent.next_offsets (h : Consistent s) (hpending : s.pending_action = .nextAccountPage)
    (herror : result.error = .none) : (s.completeNextAccountPage result).previous_account_offsets =
      s.previous_account_offsets ++ [s.current_account_offset] := by
  have hsome := h.offset
  rw [hpending] at hsome
  obtain ⟨offset, hoffset⟩ := Option.isSome_iff_exists.mp hsome
  simp [completeNextAccountPage, completeAccountPageRequest, hoffset, hpending, herror]

/-- A previous page shows the last of the list and takes it off. -/
theorem Consistent.previous_offsets (h : Consistent s)
    (hpending : s.pending_action = .previousAccountPage) (herror : result.error = .none)
    {rest : List UInt32} {offset : UInt32} (hlist : s.previous_account_offsets = rest ++ [offset]) :
    (s.completePreviousAccountPage result).offsets = (rest, offset) := by
  have hoffset := h.previous hpending
  rw [hlist, List.getLast?_concat] at hoffset
  simp [completePreviousAccountPage, completeAccountPageRequest, offsets, ← hoffset, hpending,
    herror, hlist]

/-- A next page and then a previous one lead back. -/
theorem Consistent.there_and_back (h : Consistent s) {next back : AccountListResult}
    {between : List ShellCall} (hnext : s.pending_action = .nextAccountPage)
    (hloaded : next.error = .none)
    (hquiet : Runs.Along ShellViewModel.call (fun s c => ¬ Settles s c)
      (s.completeNextAccountPage next) between)
    (hback : ((s.completeNextAccountPage next).calls between).pending_action = .previousAccountPage)
    (hreloaded : back.error = .none) :
    (((s.completeNextAccountPage next).calls between).completePreviousAccountPage back).offsets =
      s.offsets := by
  have hafter : Consistent (s.completeNextAccountPage next) :=
    h.call (.completeNextAccountPage next)
  have hsame := congrArg Prod.fst (offsets_calls hafter hquiet)
  have hlist : ((s.completeNextAccountPage next).calls between).previous_account_offsets =
      s.previous_account_offsets ++ [s.current_account_offset] :=
    hsame.trans (h.next_offsets hnext hloaded)
  exact (hafter.calls between).previous_offsets hback hreloaded hlist

/-- Over every sequence of calls: an action is pending exactly in the busy states; a completion of
another action changes nothing; the account editor is shown only where the vault is open or checked;
an offset is kept exactly while a page is loaded, and there is a previous page to take off when one
is; and a next page followed by a previous one leads back to the offsets there were. -/
theorem bookkeeping (history : List ShellCall) :
    let s := after history
    (s.pending_action ≠ .none ↔
      s.state = .unlocking ∨ s.state = .saving ∨ s.state = .refreshing) ∧
    (∀ c : ShellCall, (c.completes s).isSome = true → c.completes s ≠ some s.pending_action →
      s.call c = s) ∧
    (s.account_editor_visible = true →
      s.state = .unlocked ∨ s.state = .saving ∨ s.state = .refreshing) ∧
    (s.pending_account_offset.isSome = true ↔
      s.pending_action = .nextAccountPage ∨ s.pending_action = .previousAccountPage) ∧
    (s.pending_action = .previousAccountPage → s.previous_account_offsets ≠ []) ∧
    ∀ (next back : AccountListResult) (between : List ShellCall),
      s.pending_action = .nextAccountPage → next.error = .none →
      Runs.Along call (fun t c => c.completes t ≠ some t.pending_action)
        (s.completeNextAccountPage next) between →
      ((s.completeNextAccountPage next).calls between).pending_action = .previousAccountPage →
      back.error = .none →
      let t := ((s.completeNextAccountPage next).calls between).completePreviousAccountPage back
      t.current_account_offset = s.current_account_offset ∧
        t.previous_account_offsets = s.previous_account_offsets := by
  intro s
  have h : Consistent s := consistent_after history
  refine ⟨?_, fun c => unsettled, h.editor, ?_, h.has_previous, ?_⟩
  · rw [h.pending]
    cases s.state <;> simp [ShellState.busy]
  · rw [h.offset]
    cases s.pending_action <;> simp [PendingAction.pages]
  · intro next back between hnext hloaded hquiet hback hreloaded
    have hoffsets := h.there_and_back hnext hloaded hquiet hback hreloaded
    exact ⟨congrArg Prod.snd hoffsets, congrArg Prod.fst hoffsets⟩

/-! ## Credential metadata -/

/-- What the window may show of the vault only while it is known to be unlocked. -/
def Hidden (s : ShellViewModel) : Prop := s.accounts = [] ∧ s.passkeys = []

theorem applyError_hidden (s : ShellViewModel) (error : ClientError)
    (hstate : (s.applyError error).state ≠ .unlocked) : Hidden (s.applyError error) := by
  have hresume : ∀ message, (s.resume message).state ≠ .unlocked → Hidden (s.resume message) := by
    intro message hunlocked
    unfold resume at hunlocked ⊢
    dsimp only at hunlocked ⊢
    split_ifs at hunlocked ⊢ with hback
    · exact ⟨rfl, rfl⟩
    · exact absurd hunlocked hback
  cases error with
  | cancelled => exact hresume _ hstate
  | windowsHelloUnavailable => exact hresume _ hstate
  | none => exact setVaultStatus_hidden _ _
  | agentUnavailable | busy | invalidCredentials | locked | unexpected => exact ⟨rfl, rfl⟩

/-- An account list that was not loaded hides the accounts; the passkeys too, unless the request
was cancelled. -/
theorem applyAccounts_hidden (herror : result.error ≠ .none)
    (hpasskeys : result.error = .cancelled → s.passkeys = [])
    (hstate : (s.applyAccounts result).state ≠ .unlocked) : Hidden (s.applyAccounts result) := by
  unfold applyAccounts at hstate ⊢
  rw [if_pos herror] at hstate ⊢
  split_ifs at hstate ⊢ with hcancelled
  · exact ⟨rfl, hpasskeys hcancelled⟩
  · exact applyError_hidden s _ hstate

theorem applyPasskeys_hidden {result : PasskeyListResult} (hunlocked : s.state = .unlocked)
    (hstate : (s.applyPasskeys result).state ≠ .unlocked) : Hidden (s.applyPasskeys result) := by
  unfold applyPasskeys at hstate ⊢
  split_ifs at hstate ⊢
  · exact absurd hunlocked hstate
  · exact applyError_hidden s _ hstate
  · exact absurd hunlocked hstate

theorem apply_hidden (s : ShellViewModel) (outcome : ShellRequestOutcome)
    (hstate : (s.apply outcome).state ≠ .unlocked) : Hidden (s.apply outcome) := by
  have hstatus := setVaultStatus_hidden s outcome.request.status
  unfold apply at hstate ⊢
  dsimp only at hstate ⊢
  by_cases herror : outcome.request.error = .none
  · rw [if_neg (not_not.mpr herror)] at hstate ⊢
    by_cases hunlocked : (s.setVaultStatus outcome.request.status).state = .unlocked
    · rw [if_neg (not_not.mpr hunlocked)] at hstate ⊢
      split at hstate
      · split_ifs at hstate ⊢ with hstill
        · exact applyPasskeys_hidden hstill hstate
        · -- The status has hidden the passkeys before the accounts came in.
          refine applyAccounts_hidden (fun hnone => hstill ?_) (fun _ => hstatus.2) hstate
          unfold applyAccounts
          rw [if_neg (not_not.mpr hnone)]
          exact hunlocked
      · exact applyError_hidden _ _ hstate
    · rw [if_pos hunlocked]
      exact hstatus
  · rw [if_pos herror] at hstate ⊢
    exact applyError_hidden s _ hstate

/-- A call that hides the accounts finds no passkeys to hide. -/
def NothingLeft (s : ShellViewModel) : ShellCall → Prop
  | .beginLock => s.state = .unlocked → s.pending_action = .none → s.passkeys = []
  | .completeNextAccountPage result =>
    s.pending_action = .nextAccountPage → result.error = .cancelled → s.passkeys = []
  | .completePreviousAccountPage result =>
    s.pending_action = .previousAccountPage → result.error = .cancelled → s.passkeys = []
  | _ => True

/-- A completion hides what it does not leave unlocked. -/
theorem Completion.hidden (hc : Completion s c s')
    (hpage : s.pending_action.pages = true → ∀ answer, c.answer = some answer →
      answer.error = .cancelled → s.passkeys = [])
    (hstate : s'.state ≠ .unlocked) : Hidden s' := by
  cases hc with
  | locked => exact setVaultStatus_hidden _ _
  | lockFailed =>
    unfold applyLockFailure
    split_ifs <;> exact ⟨rfl, rfl⟩
  | unverified => exact ⟨rfl, rfl⟩
  | applied => exact apply_hidden _ _ hstate
  | pageFailed hanswer hpages herror =>
    exact applyAccounts_hidden herror (hpage hpages _ hanswer) hstate
  | pageLoaded => exact absurd rfl hstate

theorem NothingLeft.page (hc : NothingLeft s c) (hsettles : Settles s c)
    (hpages : s.pending_action.pages = true) {answer : ClientResult}
    (hanswer : c.answer = some answer) (herror : answer.error = .cancelled) : s.passkeys = [] := by
  unfold Settles at hsettles
  cases c with
  | completeNextAccountPage result | completePreviousAccountPage result =>
    obtain rfl := Option.some.inj hanswer
    exact hc (Option.some.inj hsettles).symm herror
  | completeRetry outcome =>
    have haction := Option.some.inj hsettles
    rw [← haction] at hpages
    split at hpages <;> cases hpages
  | _ => first
    | (cases hanswer; done)
    | (rw [← Option.some.inj hsettles] at hpages; cases hpages)

/-- Without a pending action, the window shows of the vault what it may. -/
def Confined (s : ShellViewModel) : Prop :=
  s.pending_action = .none → s.state ≠ .unlocked → Hidden s

theorem Confined.call (h : Consistent s) (hs : Confined s) (hc : NothingLeft s c) :
    Confined (s.call c) := by
  rcases h.call_cases c with hsame | ⟨-, hbegun⟩ | ⟨visible, hcall, -⟩ | ⟨hsettles, hcompletion⟩
  · rw [hsame]
    exact hs
  · exact fun hidle => absurd hidle hbegun.pending
  · rw [hcall]
    exact hs
  · exact fun _ => hcompletion.hidden fun hpages _ => hc.page hsettles hpages

/-- Once hidden, the lists stay so until the vault is unlocked again. -/
theorem Hidden.call (h : Consistent s) (hs : Hidden s) (hstate : (s.call c).state ≠ .unlocked) :
    Hidden (s.call c) := by
  rcases h.call_cases c with hsame | ⟨-, hbegun⟩ | ⟨visible, hcall, -⟩ | ⟨-, hcompletion⟩
  · rw [hsame]
    exact hs
  · exact ⟨hbegun.accounts.elim (·.trans hs.1) id, hbegun.passkeys.elim (·.trans hs.2) id⟩
  · rw [hcall]
    exact hs
  · exact hcompletion.hidden (fun _ _ _ _ => hs.2) hstate

theorem Hidden.calls (h : Consistent s) (hs : Hidden s) {history : List ShellCall}
    (hstate : ∀ past, past <+: history → (s.calls past).state ≠ .unlocked) :
    Hidden (s.calls history) := by
  induction history generalizing s with
  | nil => exact hs
  | cons c history ih =>
    have hnext : (s.call c).state ≠ .unlocked := hstate [c] (by simp)
    refine ih (h.call c) (hs.call h hnext) fun past hpast => ?_
    exact hstate (c :: past) (List.cons_prefix_cons.mpr ⟨rfl, hpast⟩)

/-- A lock that begins hides the accounts, and leaves the passkeys. -/
theorem beginLock_lists (hbegun : s.beginLock.1 = true) :
    s.state = .unlocked ∧ s.pending_action = .none ∧ s.beginLock.2.accounts = [] ∧
      s.beginLock.2.passkeys = s.passkeys := by
  unfold beginLock beginLockRequest at hbegun ⊢
  split_ifs at hbegun ⊢ with hguard hpending
  rw [not_or, not_not, not_not] at hguard
  exact ⟨hguard.1, hguard.2, rfl, rfl⟩

theorem beginLock_of_unlocked (hstate : s.state = .unlocked) (hpending : s.pending_action = .none) :
    s.beginLock.1 = true ∧ s.beginLock.2.state = .unlocking := by
  simp [beginLock, beginLockRequest, hstate, hpending]

/-- A page that was cancelled leaves an error, and the passkeys as they were. -/
theorem Consistent.page_cancelled (h : Consistent s) (hpages : action.pages = true)
    (hpending : s.pending_action = action) (herror : result.error = .cancelled) :
    (s.completeAccountPageRequest action result).pending_action = .none ∧
      (s.completeAccountPageRequest action result).state = .error ∧
      (s.completeAccountPageRequest action result).passkeys = s.passkeys := by
  subst hpending
  obtain ⟨offset, hoffset⟩ := Option.isSome_iff_exists.mp (h.offset.trans hpages)
  simp [completeAccountPageRequest, hoffset, herror, applyAccounts]

theorem confined_after {history : List ShellCall}
    (hall : Runs.Along call NothingLeft {} history) : Confined (after history) := by
  have hboth : Consistent (after history) ∧ Confined (after history) :=
    hall.invariant (I := fun s => Consistent s ∧ Confined s)
      ⟨consistent_initial, fun _ _ => ⟨rfl, rfl⟩⟩
      fun s c hs hc => ⟨hs.1.call c, hs.2.call hs.1 hc⟩
  exact hboth.2

/-- The view model keeps credential metadata exactly as long as access is confirmed in the runs in
which every call that hides the accounts alone finds no passkeys. -/
theorem metadata_confined_iff (history : List ShellCall) :
    ((∀ past, past <+: history → (after past).pending_action = .none →
        (after past).accounts ≠ [] ∨ (after past).passkeys ≠ [] →
        (after past).state = .unlocked) ∧
      ∀ before since, before ++ .beginLock :: since <+: history →
        (after before).beginLock.1 = true →
        (∀ past, past <+: since → (after (before ++ .beginLock :: past)).state ≠ .unlocked) →
        (after (before ++ .beginLock :: since)).accounts = [] ∧
          (after (before ++ .beginLock :: since)).passkeys = []) ↔
    Runs.Along call NothingLeft {} history := by
  have hlocked : ∀ before since, after (before ++ .beginLock :: since) =
      (after before).beginLock.2.calls since := fun before since => after_append _ _
  constructor
  · rintro ⟨hidle, hlock⟩
    refine Runs.along_iff.mpr fun before c rest hsplit => ?_
    have hpast : before ++ [c] <+: history := ⟨rest, by rw [hsplit]; simp⟩
    have h := consistent_after before
    have hcancelled : ∀ (action : PendingAction) (result : AccountListResult), action.pages = true →
        after (before ++ [c]) = (after before).completeAccountPageRequest action result →
        (after before).pending_action = action → result.error = .cancelled →
        (after before).passkeys = [] := by
      intro action result hpages hcall hpending herror
      obtain ⟨hnone, hstate, hpasskeys⟩ := h.page_cancelled hpages hpending herror
      have hconfined := hidle _ hpast
      rw [hcall, hnone, hstate, hpasskeys] at hconfined
      by_contra hleft
      cases hconfined rfl (.inr hleft)
    cases c with
    | beginLock =>
      intro hunlocked hpending
      obtain ⟨hbegun, hstate⟩ := beginLock_of_unlocked hunlocked hpending
      have hhidden := hlock before [] hpast hbegun fun past hnil => by
        rw [List.prefix_nil.mp hnil, hlocked]
        exact fun hopen => by cases hstate.symm.trans hopen
      rw [hlocked] at hhidden
      exact (beginLock_lists hbegun).2.2.2.symm.trans hhidden.2
    | completeNextAccountPage result =>
      exact hcancelled .nextAccountPage result rfl (after_concat _ _)
    | completePreviousAccountPage result =>
      exact hcancelled .previousAccountPage result rfl (after_concat _ _)
    | _ => trivial
  · intro hall
    have hpasts : ∀ past, past <+: history → Runs.Along call NothingLeft {} past := by
      rintro past ⟨rest, rfl⟩
      exact (Runs.along_append.mp hall).1
    constructor
    · intro past hpast hpending hleft
      by_contra hstate
      have hhidden := confined_after (hpasts past hpast) hpending hstate
      exact hleft.elim (absurd hhidden.1) (absurd hhidden.2)
    · intro before since hsplit hbegun hstate
      have hnothing := (Runs.along_append.mp (hpasts _ hsplit)).2.1
      obtain ⟨hunlocked, hpending, haccounts, hpasskeys⟩ := beginLock_lists hbegun
      have hhidden : Hidden (after before).beginLock.2 :=
        ⟨haccounts, hpasskeys.trans (hnothing hunlocked hpending)⟩
      rw [hlocked]
      refine hhidden.calls ((consistent_after before).call .beginLock) fun past hpast => ?_
      have hpart := hstate past hpast
      rw [hlocked] at hpart
      exact hpart

/-- An unlocked vault with one passkey and two pages of accounts, as a status check shows it. -/
def samplePasskeys : List ShellCall :=
  [.beginInitialize,
    .completeInitialize ⟨⟨.none, .unlocked⟩, some ⟨.none, [], some 8⟩,
      some ⟨.none, [⟨[], "example.com", "user", "User"⟩]⟩⟩]

/-- A lock in flight leaves the passkeys in the model, and so does a page that was cancelled, with
no action pending. -/
theorem metadata_left :
    ((after samplePasskeys).beginLock.1 = true ∧
      (after (samplePasskeys ++ [.beginLock])).state = .unlocking ∧
      (after (samplePasskeys ++ [.beginLock])).passkeys ≠ []) ∧
    (after (samplePasskeys ++ [.beginNextAccountPage,
        .completeNextAccountPage ⟨.cancelled, [], none⟩])).pending_action = .none ∧
      (after (samplePasskeys ++ [.beginNextAccountPage,
        .completeNextAccountPage ⟨.cancelled, [], none⟩])).passkeys ≠ [] ∧
      (after (samplePasskeys ++ [.beginNextAccountPage,
        .completeNextAccountPage ⟨.cancelled, [], none⟩])).state ≠ .unlocked := by
  decide

/-! ## The intent to lock -/

/-- The intent to lock keeps the vault from being shown as unlocked or as new. -/
structure Held (s : ShellViewModel) : Prop where
  intent : s.lock_intent_pending = true
  unlocked : s.state ≠ .unlocked
  firstRun : s.state ≠ .firstRun
  resume : s.pending_action ≠ .none → s.pending_action ≠ .lock → s.resume_state ≠ .firstRun

/-- An outcome that does not say the vault is locked leaves the intent to lock. -/
theorem held_apply (hintent : s.lock_intent_pending = true) (hunlocked : s.resume_state ≠ .unlocked)
    (hfirst : s.resume_state ≠ .firstRun) (hconfirms : ¬ Confirms outcome.request) :
    (s.apply outcome).lock_intent_pending = true ∧ (s.apply outcome).state ≠ .unlocked ∧
      (s.apply outcome).state ≠ .firstRun := by
  obtain ⟨⟨error, status⟩, accounts, passkeys⟩ := outcome
  unfold Confirms at hconfirms
  rw [not_or] at hconfirms
  by_cases herror : error = .none
  · subst herror
    have hstatus : status ≠ .locked := by
      rintro rfl
      exact hconfirms.1 rfl
    simp [apply, setVaultStatus, clearAccounts, hintent, hstatus]
  · have happly : s.apply ⟨⟨error, status⟩, accounts, passkeys⟩ = s.applyError error := by
      simp [apply, herror]
    rw [happly]
    have hresume : ∀ message, (s.resume message).lock_intent_pending = true ∧
        (s.resume message).state = s.resume_state := by
      intro message
      simp [resume, hunlocked, hide, hintent]
    cases error with
    | none => exact absurd rfl herror
    | locked => exact absurd rfl hconfirms.2
    | cancelled | windowsHelloUnavailable =>
      obtain ⟨hkept, hstate⟩ := hresume _
      exact ⟨hkept, hstate ▸ hunlocked, hstate ▸ hfirst⟩
    | agentUnavailable | busy | invalidCredentials | unexpected =>
      exact ⟨hintent, by simp [applyError], by simp [applyError]⟩

/-- The intent to lock outlives every call but a completion that says the vault is locked. -/
theorem Held.call (hs : Held s) (h : Consistent s)
    (hc : Settles s c → ∀ answer, c.answer = some answer → ¬ Confirms answer) :
    Held (s.call c) := by
  rcases h.call_cases c with hsame | ⟨-, hbegun⟩ | ⟨visible, hcall, -⟩ | ⟨hsettles, hcompletion⟩
  · rw [hsame]
    exact hs
  · have hbusy := hbegun.state
    refine ⟨?_, ?_, ?_, fun _ _ => by rw [hbegun.resume]; exact hs.firstRun⟩
    · rcases hbegun.intent with hsame | ⟨hstate, -⟩
      · exact hsame.trans hs.intent
      · exact absurd hstate hs.unlocked
    · intro hstate
      rw [hstate] at hbusy
      cases hbusy
    · intro hstate
      rw [hstate] at hbusy
      cases hbusy
  · rw [hcall]
    exact ⟨hs.intent, hs.unlocked, hs.firstRun, hs.resume⟩
  · have hrested := hcompletion.rested h hsettles.pending
    suffices hheld : (s.call c).lock_intent_pending = true ∧ (s.call c).state ≠ .unlocked ∧
        (s.call c).state ≠ .firstRun from
      ⟨hheld.1, hheld.2.1, hheld.2.2, fun hpending => absurd hrested.pending hpending⟩
    have hpaging : s.pending_action.pages = false := by
      by_contra hpages
      rw [Bool.not_eq_false] at hpages
      have hlock : s.pending_action ≠ .lock := by
        intro hlock
        rw [hlock] at hpages
        cases hpages
      exact h.held hs.intent hsettles.pending hlock (h.paging hpages)
    generalize s.call c = t at hcompletion
    cases hcompletion with
    | locked hanswer _ hconfirms => exact absurd hconfirms (hc hsettles _ hanswer)
    | lockFailed =>
      unfold applyLockFailure
      split_ifs <;> exact ⟨hs.intent, by simp, by simp⟩
    | unverified => exact ⟨hs.intent, by simp [applyError], by simp [applyError]⟩
    | applied hanswer hlock =>
      exact held_apply hs.intent (h.held hs.intent hsettles.pending hlock)
        (hs.resume hsettles.pending hlock) (hc hsettles _ hanswer)
    | pageFailed _ hpages | pageLoaded _ hpages =>
      rw [hpaging] at hpages
      cases hpages

theorem held_beginLock (hbegun : s.beginLock.1 = true) : Held s.beginLock.2 := by
  unfold beginLock beginLockRequest at hbegun ⊢
  split_ifs at hbegun ⊢
  exact ⟨rfl, by simp, by simp, fun _ hlock => absurd rfl hlock⟩

theorem setVaultStatus_released (hintent : s.lock_intent_pending = false) :
    (s.setVaultStatus status).lock_intent_pending = false := by
  unfold setVaultStatus
  dsimp only
  split_ifs
  · exact hintent
  · cases status <;> first | exact hintent | rfl

theorem applyError_released (hintent : s.lock_intent_pending = false) :
    (s.applyError error).lock_intent_pending = false := by
  cases error with
  | none => exact setVaultStatus_released hintent
  | cancelled | windowsHelloUnavailable =>
    unfold applyError resume hide
    dsimp only
    split_ifs <;> exact hintent
  | agentUnavailable | busy | invalidCredentials | locked | unexpected => exact hintent

theorem applyAccounts_released (hintent : s.lock_intent_pending = false) :
    (s.applyAccounts result).lock_intent_pending = false := by
  unfold applyAccounts
  split
  · split
    · exact hintent
    · exact applyError_released hintent
  · exact hintent

theorem applyPasskeys_released {result : PasskeyListResult}
    (hintent : s.lock_intent_pending = false) :
    (s.applyPasskeys result).lock_intent_pending = false := by
  unfold applyPasskeys
  split_ifs
  · exact hintent
  · exact applyError_released hintent
  · exact hintent

theorem apply_released (hintent : s.lock_intent_pending = false) :
    (s.apply outcome).lock_intent_pending = false := by
  have hstatus : (s.setVaultStatus outcome.request.status).lock_intent_pending = false :=
    setVaultStatus_released hintent
  unfold apply
  dsimp only
  split_ifs
  · exact applyError_released hintent
  · exact hstatus
  · split
    · split_ifs
      · exact applyPasskeys_released (applyAccounts_released hstatus)
      · exact applyAccounts_released hstatus
    · exact applyError_released hstatus

/-- A lock is not begun. -/
def NoLock (s : ShellViewModel) (c : ShellCall) : Prop := c = .beginLock → s.beginLock.1 = false

theorem begins_intent (hc : Begins c) (hlock : NoLock s c) :
    (s.call c).lock_intent_pending = s.lock_intent_pending := by
  cases c with
  | beginLock =>
    have hrefused := hlock rfl
    show s.beginLock.2.lock_intent_pending = _
    unfold beginLock beginLockRequest at hrefused ⊢
    split_ifs at hrefused ⊢ with hguard hpending
    · rfl
    · exact absurd (.inr hpending) hguard
  | beginRetry =>
    show s.beginRetry.2.lock_intent_pending = _
    unfold beginRetry beginLockRequest beginStatusRequest
    split_ifs <;> rfl
  | beginNextAccountPage =>
    unfold call beginNextAccountPage beginAccountPageRequest
    dsimp only
    split
    · rfl
    · split_ifs <;> rfl
  | beginPreviousAccountPage =>
    unfold call beginPreviousAccountPage beginAccountPageRequest
    dsimp only
    split
    · rfl
    · split_ifs <;> rfl
  | beginInitialize | beginRefresh | beginCreate | beginUnlock | beginWindowsHelloUnlock
  | beginWindowsHelloEnrollment | beginWindowsHelloRemoval | beginSaveAccount
  | beginDeletePasskey =>
    unfold call beginInitialize beginRefresh beginCreate beginUnlock beginWindowsHelloUnlock
      beginWindowsHelloEnrollment beginWindowsHelloRemoval beginSaveAccount beginDeletePasskey
      beginStatusRequest beginWindowsHelloRequest
    dsimp only
    split_ifs <;> rfl
  | _ => exact hc.elim

theorem Completion.released (hc : Completion s c s') (hintent : s.lock_intent_pending = false) :
    s'.lock_intent_pending = false := by
  cases hc with
  | locked => exact setVaultStatus_released rfl
  | lockFailed =>
    unfold applyLockFailure
    split_ifs <;> exact hintent
  | unverified => exact applyError_released hintent
  | applied => exact apply_released hintent
  | pageFailed => exact applyAccounts_released hintent
  | pageLoaded => exact hintent

/-- Without a new lock, the intent to lock does not come back. -/
theorem released_call (h : Consistent s) (hintent : s.lock_intent_pending = false)
    (hlock : NoLock s c) : (s.call c).lock_intent_pending = false := by
  rcases h.call_cases c with hsame | ⟨hbegins, -⟩ | ⟨visible, hcall, -⟩ | ⟨-, hcompletion⟩
  · rw [hsame]
    exact hintent
  · exact (begins_intent hbegins hlock).trans hintent
  · rw [hcall]
    exact hintent
  · exact hcompletion.released hintent

/-- An answer that says the vault is locked is heard: outside a lock, the error `Locked` finds no
intent to lock. -/
def Heard (s : ShellViewModel) (c : ShellCall) : Prop :=
  c.completes s = some s.pending_action → s.pending_action ≠ .lock →
    ∀ answer, c.answer = some answer → answer.error = .locked → s.lock_intent_pending = false

/-- An answer that says the vault is locked, and is heard, ends the intent to lock. -/
theorem Completion.released_of_confirms (hc : Completion s c s') {answer : ClientResult}
    (hanswer : c.answer = some answer) (hconfirms : Confirms answer)
    (hheard : s.pending_action ≠ .lock → answer.error = .locked → s.lock_intent_pending = false) :
    s'.lock_intent_pending = false := by
  cases hc with
  | locked => exact setVaultStatus_released rfl
  | lockFailed hsame _ hno =>
    obtain rfl := Option.some.inj (hsame.symm.trans hanswer)
    exact absurd hconfirms hno
  | unverified hsame _ _ herror =>
    obtain rfl := Option.some.inj (hsame.symm.trans hanswer)
    rcases hconfirms with rfl | hlocked
    · rcases herror with herror | herror <;> cases herror
    · rcases herror with herror | herror <;> cases hlocked.symm.trans herror
  | @applied outcome hsame hlock _ before =>
    obtain rfl := Option.some.inj (hsame.symm.trans hanswer)
    rcases hconfirms with hlocked | hlocked
    · simp [apply, hlocked, setVaultStatus]
    · exact apply_released (hheard hlock hlocked)
  | pageFailed hsame hpages =>
    obtain rfl := Option.some.inj (hsame.symm.trans hanswer)
    have hlock : s.pending_action ≠ .lock := by
      intro hlock
      rw [hlock] at hpages
      cases hpages
    rcases hconfirms with hlocked | hlocked
    · cases congrArg ClientResult.status hlocked
    · exact applyAccounts_released (hheard hlock hlocked)
  | pageLoaded hsame _ herror =>
    obtain rfl := Option.some.inj (hsame.symm.trans hanswer)
    rcases hconfirms with hlocked | hlocked
    · cases congrArg ClientResult.status hlocked
    · cases herror.symm.trans hlocked

/-- Where it is not heard, the window asks for the password again and keeps the intent to lock. -/
theorem Completion.unheard (hc : Completion s c s') (h : Consistent s)
    (hpending : s.pending_action ≠ .none) (hlock : s.pending_action ≠ .lock) {answer : ClientResult}
    (hanswer : c.answer = some answer) (hlocked : answer.error = .locked)
    (hintent : s.lock_intent_pending = true) :
    s'.state = .locked ∧ s'.lock_intent_pending = true := by
  have hpaging : s.pending_action.pages = true → False := fun hpages =>
    h.held hintent hpending hlock (h.paging hpages)
  cases hc with
  | locked _ hsame | lockFailed _ hsame => exact absurd hsame hlock
  | unverified hsame _ _ herror =>
    obtain rfl := Option.some.inj (hsame.symm.trans hanswer)
    rcases herror with herror | herror <;> cases hlocked.symm.trans herror
  | applied hsame =>
    obtain rfl := Option.some.inj (hsame.symm.trans hanswer)
    simp [apply, applyError, hlocked, hide, hintent]
  | pageFailed _ hpages | pageLoaded _ hpages => exact (hpaging hpages).elim

/-- What an unlock needs to show the vault. -/
def Opens (outcome : ShellRequestOutcome) : Prop :=
  outcome.request = ⟨.none, .unlocked⟩ ∧ outcome.accounts.map (·.error) = some .none ∧
    outcome.passkeys.map (·.error) = some .none

theorem apply_opens (hintent : s.lock_intent_pending = false) (hopens : Opens outcome) :
    (s.apply outcome).state = .unlocked := by
  obtain ⟨request, accounts, passkeys⟩ := outcome
  obtain ⟨hrequest, haccounts, hpasskeys⟩ := hopens
  dsimp only at hrequest haccounts hpasskeys
  obtain ⟨accounts, rfl, hloaded⟩ := Option.map_eq_some_iff.mp haccounts
  obtain ⟨passkeys, rfl, hloaded'⟩ := Option.map_eq_some_iff.mp hpasskeys
  simp [apply, hrequest, setVaultStatus, hintent, applyAccounts, hloaded, applyPasskeys, hloaded']

/-- While an action is pending, the calls that do not complete it leave it pending. -/
theorem waiting_call (h : Consistent s) (hpending : s.pending_action ≠ .none)
    (hc : ¬ Settles s c) : (s.call c).pending_action = s.pending_action ∧
      (s.call c).lock_intent_pending = s.lock_intent_pending := by
  rcases h.call_cases c with hsame | ⟨-, hbegun⟩ | ⟨visible, hcall, -⟩ | ⟨hsettles, -⟩
  · rw [hsame]
    exact ⟨rfl, rfl⟩
  · exact absurd hbegun.idle hpending
  · rw [hcall]
    exact ⟨rfl, rfl⟩
  · exact absurd hsettles hc

/-- With no intent to lock, an unlock that succeeds shows the vault. -/
theorem Consistent.unlocks (h : Consistent s) (hintent : s.lock_intent_pending = false)
    (hbegun : s.beginUnlock.1 = true) {waiting : List ShellCall}
    (hquiet : Runs.Along ShellViewModel.call (fun s c => ¬ Settles s c) s.beginUnlock.2 waiting)
    (hopens : Opens outcome) :
    ((s.beginUnlock.2.calls waiting).completeUnlock outcome).state = .unlocked := by
  have hstart : s.beginUnlock.2.pending_action = .unlock ∧
      s.beginUnlock.2.lock_intent_pending = false := by
    unfold beginUnlock at hbegun ⊢
    split_ifs at hbegun ⊢
    exact ⟨rfl, hintent⟩
  have hend : Consistent (s.beginUnlock.2.calls waiting) ∧
      (s.beginUnlock.2.calls waiting).pending_action = .unlock ∧
      (s.beginUnlock.2.calls waiting).lock_intent_pending = false := by
    refine hquiet.invariant (I := fun t => Consistent t ∧ t.pending_action = .unlock ∧
      t.lock_intent_pending = false) ⟨h.call .beginUnlock, hstart⟩ fun t c ht hc => ?_
    obtain ⟨hconsistent, hpending, hreleased⟩ := ht
    obtain ⟨hsame, hkept⟩ := waiting_call hconsistent (by rw [hpending]; decide) hc
    exact ⟨hconsistent.call c, hsame.trans hpending, hkept.trans hreleased⟩
  unfold completeUnlock
  rw [if_neg (not_not.mpr hend.2.1)]
  exact apply_opens hend.2.2 hopens

/-- The intent to lock holds until the vault is known to be locked, and no longer, in the runs in
which every answer that says so is heard. -/
theorem lock_intent_iff (history : List ShellCall) :
    ((∀ before since, before ++ .beginLock :: since <+: history →
        (after before).beginLock.1 = true →
        Runs.Along call (fun s c => c.completes s = some s.pending_action →
            ∀ answer, c.answer = some answer → ¬ Confirms answer)
          (after (before ++ [.beginLock])) since →
        (after (before ++ .beginLock :: since)).state ≠ .unlocked ∧
          (after (before ++ .beginLock :: since)).state ≠ .firstRun) ∧
      ∀ before c answer, before ++ [c] <+: history →
        c.completes (after before) = some (after before).pending_action →
        c.answer = some answer → Confirms answer →
        ∀ since, Runs.Along call NoLock (after (before ++ [c])) since →
          (after (before ++ c :: since)).beginUnlock.1 = true →
        ∀ waiting, Runs.Along call (fun s c => c.completes s ≠ some s.pending_action)
            (after (before ++ c :: since)).beginUnlock.2 waiting →
        ∀ outcome, Opens outcome →
          (((after (before ++ c :: since)).beginUnlock.2.calls waiting).completeUnlock
            outcome).state = .unlocked) ↔
    Runs.Along call Heard {} history := by
  have hcons : ∀ before c since,
      after (before ++ c :: since) = ((after before).call c).calls since :=
    fun before c since => after_append _ _
  constructor
  · rintro ⟨-, hunlock⟩
    refine Runs.along_iff.mpr fun before c rest hsplit hsettles hlock answer hanswer hlocked => ?_
    have hpast : before ++ [c] <+: history := ⟨rest, by rw [hsplit]; simp⟩
    have h := consistent_after before
    by_contra hintent
    rw [Bool.not_eq_false] at hintent
    have hcompletion : Completion (after before) c ((after before).call c) :=
      Settles.completion h hsettles
    obtain ⟨hstate, hkept⟩ :=
      hcompletion.unheard h (Settles.pending hsettles) hlock hanswer hlocked hintent
    have hcall : after (before ++ [c]) = (after before).call c := after_concat before c
    have hbegun : (after (before ++ [c])).beginUnlock.1 = true := by
      rw [hcall]
      simp [beginUnlock, hstate]
    have hopened := hunlock before c answer hpast hsettles hanswer (.inr hlocked) [] trivial hbegun
      [] trivial ⟨⟨.none, .unlocked⟩, some ⟨.none, [], none⟩, some ⟨.none, []⟩⟩
      ⟨rfl, rfl, rfl⟩
    rw [hcall] at hopened
    simp [calls, completeUnlock, beginUnlock, hstate, hkept, apply, setVaultStatus] at hopened
  · intro hall
    constructor
    · intro before since _ hbegun hquiet
      rw [hcons]
      have hlocked := held_beginLock hbegun
      rw [after_concat] at hquiet
      have hheld : Consistent (((after before).call .beginLock).calls since) ∧
          Held (((after before).call .beginLock).calls since) :=
        hquiet.invariant (I := fun s => Consistent s ∧ Held s)
          ⟨(consistent_after before).call _, hlocked⟩
          fun s c hs hc => ⟨hs.1.call c, hs.2.call hs.1 hc⟩
      exact ⟨hheld.2.unlocked, hheld.2.firstRun⟩
    · intro before c answer hsplit hsettles hanswer hconfirms since hnolock hbegun waiting hquiet
        outcome hopens
      have h := consistent_after before
      obtain ⟨rest, rfl⟩ := hsplit
      have hheard : Heard (after before) c :=
        Runs.along_iff.mp hall before c rest (List.append_assoc _ _ _)
      have hreleased : ((after before).call c).lock_intent_pending = false :=
        (Settles.completion h hsettles).released_of_confirms hanswer hconfirms
          fun hlock => hheard hsettles hlock answer hanswer
      rw [after_concat] at hnolock
      rw [hcons] at hbegun hquiet ⊢
      have hsince : Consistent (((after before).call c).calls since) ∧
          (((after before).call c).calls since).lock_intent_pending = false :=
        hnolock.invariant (I := fun s => Consistent s ∧ s.lock_intent_pending = false)
          ⟨h.call c, hreleased⟩ fun s c hs hc => ⟨hs.1.call c, released_call hs.1 hs.2 hc⟩
      exact hsince.1.unlocks hsince.2 hbegun hquiet hopens

/-- A status check that says the vault is locked, after a lock that failed. -/
def sampleUnheard : List ShellCall :=
  samplePasskeys ++ [.beginLock, .completeLock ⟨⟨.unexpected, .locked⟩, none, none⟩, .beginRefresh]

/-- The status check completes the pending action and says that the vault is locked; the unlock
after it succeeds, and the window shows an error. -/
theorem lock_intent_stays :
    let check : ShellCall := .completeRefresh ⟨⟨.locked, .locked⟩, none, none⟩
    let opened : ShellRequestOutcome :=
      ⟨⟨.none, .unlocked⟩, some ⟨.none, [], none⟩, some ⟨.none, []⟩⟩
    let s := after (sampleUnheard ++ [check])
    check.completes (after sampleUnheard) = some (after sampleUnheard).pending_action ∧
      check.answer = some ⟨.locked, .locked⟩ ∧ Opens opened ∧ s.beginUnlock.1 = true ∧
      (s.beginUnlock.2.completeUnlock opened).state = .error := by
  unfold Opens
  decide

end ShellViewModel

end Librarian.Desktop
