import Librarian.Agent.Dispatch
import Librarian.Agent.Sessions
import Librarian.Lib.Conc.Rely

/-!
# An unlock among other requests

One `UnlockMasterPassword` request is watched while any other requests run. Its password opens the
vault file, which nobody changes; it is not cancelled, its deadline does not pass, no Lock and no
shutdown runs, and no other runtime owns the vault. What the other requests do is arbitrary, as long
as none of them writes the published state or touches the session between the unlock's transition to
`Unlocking` and its answer.

`Progress` keeps what the unlock has met on its way. The answer is a success, `Busy`, or `Conflict`
when the agent was not locked; and it is `OperationFailed` when the idempotency state was bound to
another vault, or to none, while a reservation was in flight.
-/

namespace Librarian.Agent

open Conc Librarian.Core Librarian.Protocol
open Conc.Prog hiding act

variable {P : Primitives}

/-- What `dispatch_with_admission` does for a request that has been admitted. -/
def serve (hmac : List UInt8 → Bytes 32) (rounds : ℕ) (context : RequestContext)
    (permit : RequestPermit) (envelope : RequestEnvelope) : Code P Unit := do
  match ← executeAdmitted hmac rounds context permit envelope with
  | .error _ => dropContext context.key
  | .ok outcome => finishDispatch context permit outcome

theorem dispatch_eq_serve (hmac : List UInt8 → Bytes 32) (rounds : ℕ) (connection : Connection)
    (header : FrameHeader) (envelope : RequestEnvelope) :
    dispatch (P := P) hmac rounds connection header envelope = (do
      if ¬(← act (.ask Oracle.succeeds)) then return ()
      match ← admitRequest connection header envelope with
      | .fatal => return ()
      | .rejected response =>
        act (.writeRejection ⟨connection.connection_id, header.request_id⟩ response)
        unlock .commitGate
      | .admitted context permit => serve hmac rounds context permit envelope) := rfl

/-! ## What is assumed -/

/-- What an unlock has met so far. -/
structure Progress where
  /-- It has moved the published state. -/
  begun : Bool := false
  /-- The latest published state other than `Locked` that it has met before that. -/
  met : Option AgentState := none
  /-- The idempotency state to which it has bound its vault, or tried to. -/
  binding : Option IdempotencyState := none
  /-- Its response, with the state in which it was written. -/
  answer : Option (Response × Shared) := none

/-- What one action adds. -/
def Progress.next (φ : Progress) : (a : Action P) → a.Result → Shared → Progress
  | .loadState, _, s =>
    if φ.begun = true ∨ s.state = .locked then φ else { φ with met := some s.state }
  | .compareExchangeState _ _, moved, s =>
    if moved = true then { φ with begun := true } else { φ with met := some s.state }
  | .idempotencyBind _, _, s => { φ with binding := some s.idempotency }
  | .writeResponse _ _ _ response, _, s => { φ with answer := some (response, s) }
  | _, _, _ => φ

/-- What the unlock finds at each of its actions: every call outside succeeds, the file has the same
contents, the platform holds on to what it has cached, and neither a Lock, nor a cancellation, nor
the deadline, nor the end of a counter comes in between. -/
structure Favourable (context : RequestContext) (snapshot : Snapshot) (a : Action P) (o : Oracle)
    (s : Shared) : Prop where
  succeeds : o.succeeds = true
  stored : o.stored = some snapshot
  should_cancel : o.should_cancel = fun _ => false
  cached : o.remove_cached_credential.toOption = none
  lock_active : s.active .lock = false
  cancelled : s.cancelled context.key = false
  deadline : s.clock + o.elapsed < context.deadline
  finish : a = .connectionFinish context.key →
    (perform (P := P) (.connectionFinish context.key) o s).1 = .ok .active
  epoch : a = .incrementEpoch → s.epoch < u64Max
  session_id : a = .nextSessionId → s.next_session_id < u64Max
  authorization_epoch : ∀ session snapshot session_id,
    a = .vaultStoreSession session snapshot session_id → s.vault.authorization_epoch < u64Max

/-- What other requests leave alone once the unlock has begun. -/
def Progress.Undisturbed (φ : Progress) (s s' : Shared) : Prop :=
  φ.begun = true → s'.state = s.state ∧ s'.vault = s.vault

theorem Progress.Undisturbed.trans {φ : Progress} {s₁ s₂ s₃ : Shared} (h₁ : φ.Undisturbed s₁ s₂)
    (h₂ : φ.Undisturbed s₂ s₃) : φ.Undisturbed s₁ s₃ := by
  intro hbegun
  obtain ⟨hstate, hvault⟩ := h₁ hbegun
  obtain ⟨hstate', hvault'⟩ := h₂ hbegun
  exact ⟨hstate'.trans hstate, hvault'.trans hvault⟩

/-- The unlock among the others. -/
def unlockSetting (P : Primitives) (context : RequestContext) (snapshot : Snapshot) :
    Setting (machine P) Progress where
  next := Progress.next
  meets := Favourable context snapshot
  rely := Progress.Undisturbed
  rely_refl _ _ _ := ⟨rfl, rfl⟩
  rely_trans := Progress.Undisturbed.trans

/-! ## What is shown -/

/-- A reservation is in flight, and the state is not bound to the vault. -/
def IdempotencyState.Refuses (state : IdempotencyState) (vault_id : Bytes 16) : Prop :=
  state.authenticated_vault_id ≠ some vault_id ∧ state.in_flight ≠ ∅

/-- An answer that the unlock may give. -/
inductive Progress.Answers (session : UnlockedVault) (φ : Progress) : Response → Shared → Prop
  | success {s : Shared} (epoch : ℕ) (state : s.state = .unlocked)
      (vault : s.vault.session = some session) :
      Answers session φ (.success (.status .unlocked epoch)) s
  | busy {s : Shared} : Answers session φ (.failure .busy .backoff) s
  | conflict {s : Shared} {state : AgentState} (met : φ.met = some state) (ne : state ≠ .locked) :
      Answers session φ (.failure .conflict .never) s
  | refused {s : Shared} {state : IdempotencyState} (binding : φ.binding = some state)
      (refuses : state.Refuses session.header.vault_id) :
      Answers session φ (.failure .operationFailed .never) s

/-- Whatever has been answered so far is one of these. -/
def Progress.Fair (session : UnlockedVault) (φ : Progress) : Prop :=
  ∀ response s, φ.answer = some (response, s) → φ.Answers session response s

theorem Progress.fair_of_none {session : UnlockedVault} {φ : Progress} (h : φ.answer = none) :
    φ.Fair session := by
  intro response s hanswer
  rw [h] at hanswer
  cases hanswer

/-! ## Single actions -/

section

variable {α β : Type} {context : RequestContext} {snapshot : Snapshot} {session : UnlockedVault}
  {Q : β → Shared → Progress → Prop} {s s' : Shared} {φ : Progress}

/-- A part of the unlock passes fair states only, and ends in `Q`. -/
abbrev UnlockPasses (context : RequestContext) (snapshot : Snapshot) (session : UnlockedVault)
    (p : Code P β) (Q : β → Shared → Progress → Prop) (s : Shared) (φ : Progress) : Prop :=
  upholds (unlockSetting P context snapshot).environment (fun e => e.2.Fair session) p
    (fun b e => Q b e.1 e.2) (s, φ)

theorem unlock_seq {p : Code P α} {f : α → Code P β} {Q' : α → Shared → Progress → Prop}
    (hp : UnlockPasses context snapshot session p Q' s φ)
    (hf : ∀ a s φ, Q' a s φ → UnlockPasses context snapshot session (f a) Q s φ) :
    UnlockPasses context snapshot session (p.bind f) Q s φ :=
  upholds.seq hp fun a e => hf a e.1 e.2

theorem unlock_mono {p : Code P β} {Q' : β → Shared → Progress → Prop}
    (hp : UnlockPasses context snapshot session p Q' s φ) (hQ : ∀ b s φ, Q' b s φ → Q b s φ) :
    UnlockPasses context snapshot session p Q s φ :=
  upholds.mono hp fun b e => hQ b e.1 e.2

theorem unlock_withLock {m : Mutex} {p : Code P β} (hφ : φ.answer = none)
    (hp : UnlockPasses context snapshot session p
      (fun b s φ' => φ'.Fair session ∧ Q b s φ') s φ) :
    UnlockPasses context snapshot session (withLock m p) Q s φ :=
  upholds.withLock (Progress.fair_of_none hφ) hp

theorem unlock_lock {m : Mutex} {p : Code P β} (hφ : φ.answer = none)
    (hp : UnlockPasses context snapshot session p Q s φ) :
    UnlockPasses context snapshot session ((lock m).bind fun _ => p) Q s φ :=
  ⟨Progress.fair_of_none hφ, hp⟩

theorem unlock_act {a : Action P} {k : a.Result → Code P β} (hφ : φ.answer = none)
    (hk : ∀ s' o, φ.Undisturbed s s' → Favourable context snapshot a o s' →
      UnlockPasses context snapshot session (k (perform a o s').1) Q (perform a o s').2
        (φ.next a (perform a o s').1 s')) :
    UnlockPasses context snapshot session ((act a).bind k) Q s φ :=
  Setting.upholds_act (M := machine P) (Progress.fair_of_none hφ) hk

/-- An action that the unlock does not keep track of. -/
theorem unlock_quiet {a : Action P} {k : a.Result → Code P β} (hφ : φ.answer = none)
    (hnext : ∀ r s, φ.next a r s = φ)
    (hk : ∀ s' o, φ.Undisturbed s s' → Favourable context snapshot a o s' →
      UnlockPasses context snapshot session (k (perform a o s').1) Q (perform a o s').2 φ) :
    UnlockPasses context snapshot session ((act a).bind k) Q s φ := by
  refine unlock_act hφ fun s' o hrely hmeets => ?_
  rw [hnext]
  exact hk s' o hrely hmeets

/-- An action that also leaves alone what matters. -/
theorem unlock_observe {a : Action P} {k : a.Result → Code P β} (hφ : φ.answer = none)
    (hnext : ∀ r s, φ.next a r s = φ)
    (hkeeps : ∀ o s, (perform a o s).2.state = s.state ∧ (perform a o s).2.vault = s.vault)
    (hk : ∀ s' o s'', φ.Undisturbed s s' → Favourable context snapshot a o s'' →
      UnlockPasses context snapshot session (k (perform a o s'').1) Q s' φ) :
    UnlockPasses context snapshot session ((act a).bind k) Q s φ := by
  refine unlock_quiet hφ hnext fun s' o hrely hmeets => ?_
  exact hk _ o s' (hrely.trans fun _ => hkeeps o s') hmeets

theorem unlock_isCancelled {k : Bool → Code P β} (hφ : φ.answer = none)
    (hk : ∀ s', φ.Undisturbed s s' →
      UnlockPasses context snapshot session (k false) Q s' φ) :
    UnlockPasses context snapshot session ((act (.isCancelled context.key)).bind k) Q s φ := by
  refine unlock_observe hφ (fun _ _ => rfl) (fun _ _ => ⟨rfl, rfl⟩) fun s' o s'' hrely hmeets => ?_
  have hcancelled : (perform (P := P) (.isCancelled context.key) o s'').1 = false :=
    hmeets.cancelled
  rw [hcancelled]
  exact hk s' hrely

theorem unlock_loadLock {k : Bool → Code P β} (hφ : φ.answer = none)
    (hk : ∀ s', φ.Undisturbed s s' →
      UnlockPasses context snapshot session (k false) Q s' φ) :
    UnlockPasses context snapshot session ((act (.loadActive .lock)).bind k) Q s φ := by
  refine unlock_observe hφ (fun _ _ => rfl) (fun _ _ => ⟨rfl, rfl⟩) fun s' o s'' hrely hmeets => ?_
  have hactive : (perform (P := P) (.loadActive .lock) o s'').1 = false := hmeets.lock_active
  rw [hactive]
  exact hk s' hrely

theorem unlock_pastDeadline {k : Bool → Code P β} (hφ : φ.answer = none)
    (hk : ∀ s', φ.Undisturbed s s' →
      UnlockPasses context snapshot session (k false) Q s' φ) :
    UnlockPasses context snapshot session ((pastDeadline context.deadline).bind k) Q s φ := by
  refine unlock_observe (a := .now) (k := fun now => k (decide (now ≥ context.deadline))) hφ
    (fun _ _ => rfl) (fun _ _ => ⟨rfl, rfl⟩) fun s' o s'' hrely hmeets => ?_
  have hnow : decide ((perform (P := P) .now o s'').1 ≥ context.deadline) = false :=
    decide_eq_false (not_le.mpr hmeets.deadline)
  rw [hnow]
  exact hk s' hrely

theorem unlock_ask {view : Oracle → α} {k : α → Code P β} (hφ : φ.answer = none)
    (hk : ∀ s' o, φ.Undisturbed s s' → o.succeeds = true → o.stored = some snapshot →
      o.should_cancel = (fun _ => false) → o.remove_cached_credential.toOption = none →
      UnlockPasses context snapshot session (k (view o)) Q s' φ) :
    UnlockPasses context snapshot session ((act (.ask view)).bind k) Q s φ :=
  unlock_observe hφ (fun _ _ => rfl) (fun _ _ => ⟨rfl, rfl⟩) fun s' o _ hrely hmeets =>
    hk s' o hrely hmeets.succeeds hmeets.stored hmeets.should_cancel hmeets.cached

theorem unlock_ask_succeeds {k : Bool → Code P β} (hφ : φ.answer = none)
    (hk : ∀ s', φ.Undisturbed s s' → UnlockPasses context snapshot session (k true) Q s' φ) :
    UnlockPasses context snapshot session ((act (.ask Oracle.succeeds)).bind k) Q s φ := by
  refine unlock_ask hφ fun s' o hrely hsucceeds _ _ _ => ?_
  rw [hsucceeds]
  exact hk s' hrely

/-! ## After the transition to `Unlocking` -/

/-- The unlock has moved the state, and has not answered. -/
structure Progress.Opening (φ : Progress) (s : Shared) : Prop where
  begun : φ.begun = true
  answer : φ.answer = none
  state : s.state = .unlocking

/-- The agent has the session that the core has made. -/
def Shared.HasSession (s : Shared) (snapshot : Snapshot) (session : UnlockedVault) : Prop :=
  ∃ session_id, s.vault.Present session snapshot.header snapshot.manifest_envelope session_id

theorem Progress.Opening.undisturbed (h : φ.Opening s) (hrely : φ.Undisturbed s s') :
    φ.Opening s' :=
  ⟨h.begun, h.answer, (hrely h.begun).1.trans h.state⟩

theorem Shared.HasSession.undisturbed (h : s.HasSession snapshot session)
    (hbegun : φ.begun = true) (hrely : φ.Undisturbed s s') : s'.HasSession snapshot session := by
  obtain ⟨session_id, hpresent⟩ := h
  exact ⟨session_id, (hrely hbegun).2 ▸ hpresent⟩

theorem unlock_loadState {k : AgentState → Code P β} (hbegun : φ.begun = true)
    (hφ : φ.answer = none)
    (hk : ∀ s', φ.Undisturbed s s' → UnlockPasses context snapshot session (k s'.state) Q s' φ) :
    UnlockPasses context snapshot session ((act .loadState).bind k) Q s φ := by
  refine unlock_act hφ fun s' o hrely _ => ?_
  have hnext : φ.next (P := P) .loadState s'.state s' = φ := if_pos (.inl hbegun)
  show UnlockPasses context snapshot session (k s'.state) Q s' _
  rw [show perform (P := P) .loadState o s' = (s'.state, s') from rfl, hnext]
  exact hk s' hrely

/-- Nothing has interrupted the unlock. -/
theorem unlock_unlockInterrupted (h : φ.Opening s) :
    UnlockPasses (P := P) context snapshot session (unlockInterrupted context.key)
      (fun interrupted s' φ' => interrupted = false ∧ φ' = φ ∧ φ.Undisturbed s s') s φ := by
  unfold unlockInterrupted
  refine unlock_loadLock h.answer fun s₁ h₁ => ?_
  rw [if_neg Bool.false_ne_true]
  refine unlock_loadState h.begun h.answer fun s₂ h₂ => ?_
  have hstate : s₂.state = .unlocking := ((h.undisturbed h₁).undisturbed h₂).state
  rw [if_neg (not_not.mpr hstate)]
  refine unlock_isCancelled (k := .ret) h.answer fun s₃ h₃ => ?_
  exact ⟨rfl, rfl, (h₁.trans h₂).trans h₃⟩

theorem unlock_cleanupShouldAbort (h : φ.Opening s) :
    UnlockPasses (P := P) context snapshot session (cleanupShouldAbort context)
      (fun aborts s' φ' => aborts = false ∧ φ' = φ ∧ φ.Undisturbed s s') s φ := by
  unfold cleanupShouldAbort
  refine unlock_seq (unlock_unlockInterrupted h) ?_
  rintro _ s₁ _ ⟨rfl, rfl, h₁⟩
  rw [if_neg Bool.false_ne_true]
  refine unlock_pastDeadline (k := .ret) h.answer fun s₂ h₂ => ?_
  exact ⟨rfl, rfl, h₁.trans h₂⟩

/-- The platform keeps every credential, so that no recovered creation is deleted. -/
theorem unlock_cleanupLoop (credential_ids : List (Bytes 32)) (h : φ.Opening s) :
    UnlockPasses (P := P) context snapshot session (cleanupLoop context credential_ids)
      (fun outcome s' φ' => outcome = none ∧ φ' = φ ∧ φ.Undisturbed s s') s φ := by
  induction credential_ids generalizing s with
  | nil => exact ⟨rfl, rfl, fun _ => ⟨rfl, rfl⟩⟩
  | cons credential_id rest ih =>
    unfold cleanupLoop
    refine unlock_seq (unlock_cleanupShouldAbort h) ?_
    rintro _ s₁ _ ⟨rfl, rfl, h₁⟩
    rw [if_neg Bool.false_ne_true]
    refine unlock_ask h.answer fun s₂ o h₂ _ _ _ hcached => ?_
    rw [if_pos hcached]
    refine unlock_mono (ih ((h.undisturbed h₁).undisturbed h₂)) ?_
    rintro _ s₃ _ ⟨rfl, rfl, h₃⟩
    exact ⟨rfl, rfl, (h₁.trans h₂).trans h₃⟩

/-- The bytes are the same as before, so the session is stored. -/
theorem unlock_storeUnlocked (h : φ.Opening s) :
    UnlockPasses (P := P) context snapshot session (storeUnlocked context.key session snapshot)
      (fun result s' φ' => result = .ok session.header.vault_id ∧ φ' = φ ∧ φ.Opening s' ∧
        s'.HasSession snapshot session) s φ := by
  unfold storeUnlocked
  refine unlock_isCancelled h.answer fun s₁ h₁ => ?_
  rw [if_neg Bool.false_ne_true]
  refine unlock_ask h.answer fun s₂ o h₂ _ hstored _ _ => ?_
  rw [if_neg (not_not.mpr (decide_eq_true hstored))]
  refine unlock_quiet h.answer (fun _ _ => rfl) fun s₃ o h₃ hmeets => ?_
  have hopening := ((h.undisturbed h₁).undisturbed h₂).undisturbed h₃
  have hid : perform (P := P) .nextSessionId o s₃ =
      (some s₃.next_session_id, { s₃ with next_session_id := s₃.next_session_id + 1 }) := by
    unfold perform checkedAddOne
    rw [if_pos (hmeets.session_id rfl)]
  rw [hid]
  refine unlock_quiet h.answer (fun _ _ => rfl) fun s₄ o h₄ hmeets => ?_
  have hstore : perform (P := P) (.vaultStoreSession session snapshot s₃.next_session_id) o s₄ =
      (true, { s₄ with
        vault := ⟨some session, some snapshot.header, some snapshot.manifest_envelope,
          some s₃.next_session_id, s₄.vault.authorization_epoch + 1⟩ }) := by
    unfold perform VaultAgent.storeSession VaultAgent.advanceAuthorizationEpoch checkedAddOne
    rw [if_pos (hmeets.authorization_epoch _ _ _ rfl)]
  have hstate : s₄.state = .unlocking := (h₄ h.begun).1.trans hopening.state
  rw [hstore]
  rw [if_neg (not_not.mpr rfl)]
  refine unlock_isCancelled h.answer fun s₅ h₅ => ?_
  rw [if_neg Bool.false_ne_true]
  obtain ⟨hstate', hvault⟩ := h₅ h.begun
  refine ⟨rfl, rfl, ⟨h.begun, h.answer, hstate'.trans hstate⟩, s₃.next_session_id, ?_⟩
  rw [hvault]
  exact ⟨rfl, rfl, rfl, rfl⟩

/-- The core opens the vault, and the file can be told from others. -/
theorem unlock_unlockWithCore {password : MasterPassword}
    (hunlock : Core.unlockVault P password snapshot (fun _ => false) = .ok session)
    (h : φ.Opening s) :
    UnlockPasses (P := P) context snapshot session
      (unlockWithCore context.key (coreUnlock (P := P) password))
      (fun result s' φ' => result = (.ok session.header.vault_id, true) ∧ φ' = φ ∧ φ.Opening s' ∧
        s'.HasSession snapshot session) s φ := by
  unfold unlockWithCore
  refine unlock_quiet h.answer (fun _ _ => rfl) fun s₁ o h₁ _ => ?_
  have hlocked : φ.Opening { s₁ with vault := s₁.vault.lock } :=
    ⟨h.begun, h.answer, (h.undisturbed h₁).state⟩
  refine unlock_isCancelled h.answer fun s₂ h₂ => ?_
  rw [if_neg Bool.false_ne_true]
  refine unlock_ask h.answer fun s₃ o h₃ _ hstored hcancel _ => ?_
  have hcore : coreUnlock (P := P) password o = .ok (session, snapshot) := by
    unfold coreUnlock
    rw [hstored, hcancel]
    dsimp only
    rw [hunlock]
    rfl
  rw [hcore]
  refine unlock_ask_succeeds h.answer fun s₄ h₄ => ?_
  refine unlock_seq (unlock_storeUnlocked
    (((hlocked.undisturbed h₂).undisturbed h₃).undisturbed h₄)) ?_
  rintro _ s₅ _ ⟨rfl, rfl, hopening, hsession⟩
  exact ⟨rfl, rfl, hopening, hsession⟩

/-- A read of the authenticated file gets the core's answer. -/
theorem VaultAgent.Present.read_of_core {α : Type} {agent : VaultAgent} {session_id : ℕ}
    {query : Query P α} {should_cancel : ℕ → Bool} {value : α}
    (h : agent.Present session snapshot.header snapshot.manifest_envelope session_id)
    (hcore : query.core session snapshot should_cancel = .ok value) :
    agent.read query (some snapshot) should_cancel = (.ok value, agent) := by
  have hload : agent.loadAuthenticatedSnapshot (some snapshot) = (.ok snapshot, agent) :=
    VaultAgent.loadAuthenticatedSnapshot_eq_ok h.authenticated_header h.authenticated_manifest
  unfold VaultAgent.read VaultAgent.withSnapshot
  simp only [h.beginOperation, hload, h.session, hcore, h.operationIsAuthorized, if_true]

section

variable {credential_ids : List (Bytes 32)}
  (hpending : listPendingPasskeyCredentialIds P session snapshot (fun _ => false) =
    .ok credential_ids)

include hpending

theorem unlock_recoveredCredentialIds (h : φ.Opening s) (hs : s.HasSession snapshot session) :
    UnlockPasses (P := P) context snapshot session (recoveredCredentialIds context)
      (fun result s' φ' => result = .ok credential_ids ∧ φ' = φ ∧ φ.Undisturbed s s') s φ := by
  unfold recoveredCredentialIds
  refine unlock_withLock h.answer ?_
  refine unlock_quiet h.answer (fun _ _ => rfl) fun s₁ o h₁ hmeets => ?_
  obtain ⟨session_id, hpresent⟩ := hs.undisturbed h.begun h₁
  have hread : s₁.vault.read (P := P) .pendingPasskeyCredentialIds (some snapshot)
      (fun _ => false) = (.ok credential_ids, s₁.vault) := hpresent.read_of_core hpending
  have hperform : perform (P := P) (.vaultRead .pendingPasskeyCredentialIds) o s₁ =
      (.ok credential_ids, s₁) := by
    unfold perform
    dsimp only
    rw [hmeets.stored, hmeets.should_cancel, hread]
  rw [hperform]
  exact ⟨Progress.fair_of_none h.answer, rfl, rfl, h₁⟩

theorem unlock_cleanup (h : φ.Opening s) (hs : s.HasSession snapshot session) :
    UnlockPasses (P := P) context snapshot session (cleanupRecoveredPasskeyCreations context)
      (fun outcome s' φ' => outcome = none ∧ φ' = φ ∧ φ.Undisturbed s s') s φ := by
  unfold cleanupRecoveredPasskeyCreations
  refine unlock_seq (unlock_recoveredCredentialIds hpending h hs) ?_
  rintro _ s₁ _ ⟨rfl, rfl, h₁⟩
  refine unlock_mono (unlock_cleanupLoop credential_ids (h.undisturbed h₁)) ?_
  rintro _ s₂ _ ⟨rfl, rfl, h₂⟩
  exact ⟨rfl, rfl, h₁.trans h₂⟩

/-! ## The publication -/

omit hpending in
theorem unlock_publicationInterrupted (h : φ.Opening s) :
    UnlockPasses (P := P) context snapshot session (publicationInterrupted context.key)
      (fun interrupted s' φ' => interrupted = false ∧ φ' = φ ∧ φ.Undisturbed s s') s φ := by
  unfold publicationInterrupted
  refine unlock_loadLock h.answer fun s₁ h₁ => ?_
  rw [if_neg Bool.false_ne_true]
  refine unlock_isCancelled h.answer fun s₂ h₂ => ?_
  rw [if_neg Bool.false_ne_true]
  refine unlock_loadState h.begun h.answer fun s₃ h₃ => ?_
  have hstate : s₃.state = .unlocking :=
    (((h.undisturbed h₁).undisturbed h₂).undisturbed h₃).state
  exact ⟨decide_eq_false (not_not.mpr hstate), rfl, (h₁.trans h₂).trans h₃⟩

end

/-- The idempotency state refuses a vault only when it belongs to another one and is in use. -/
theorem IdempotencyState.refuses_of_bind {state : IdempotencyState} {vault_id : Bytes 16}
    (h : (state.bindAuthenticatedIdempotencyVault vault_id).1.toOption.isSome = false) :
    state.Refuses vault_id := by
  unfold IdempotencyState.bindAuthenticatedIdempotencyVault at h
  split_ifs at h with hbound hused
  · cases h
  · exact ⟨hbound, hused⟩
  · cases h

/-- Binding the vault succeeds unless the idempotency state refuses. -/
theorem unlock_bindAuthenticated {vault_id : Bytes 16} (h : φ.Opening s) :
    UnlockPasses (P := P) context snapshot session (bindAuthenticated vault_id)
      (fun bound s' φ' => ∃ state, φ' = { φ with binding := some state } ∧ φ.Undisturbed s s' ∧
        (bound = false → state.Refuses vault_id)) s φ := by
  unfold bindAuthenticated
  refine unlock_withLock h.answer ?_
  refine unlock_ask_succeeds h.answer fun s₁ h₁ => ?_
  rw [if_neg (not_not.mpr rfl)]
  have hbind : UnlockPasses (P := P) context snapshot session
      (withLock .idempotency (act (.idempotencyBind vault_id)))
      (fun result s' φ' => ∃ state, φ' = { φ with binding := some state } ∧
        φ.Undisturbed s₁ s' ∧ (result.toOption.isSome = false → state.Refuses vault_id)) s₁ φ := by
    refine unlock_withLock h.answer ?_
    refine unlock_act (k := .ret) h.answer fun s₂ o h₂ _ => ?_
    refine ⟨Progress.fair_of_none h.answer, s₂.idempotency, rfl, h₂, fun hfailed => ?_⟩
    exact IdempotencyState.refuses_of_bind hfailed
  refine unlock_seq hbind ?_
  rintro result s₂ _ ⟨state, rfl, h₂, hrefuses⟩
  exact ⟨Progress.fair_of_none h.answer, state, rfl, h₁.trans h₂, hrefuses⟩

/-- How the execution of the unlock ends. -/
inductive Progress.Ends (snapshot : Snapshot) (session : UnlockedVault) (φ : Progress) :
    Outcome → Shared → Prop
  | success {s : Shared} (epoch : ℕ) (begun : φ.begun = true) (state : s.state = .unlocked)
      (vault : s.HasSession snapshot session) :
      Ends snapshot session φ (.ok (.success (.status .unlocked epoch))) s
  | busy {s : Shared} : Ends snapshot session φ (.ok .busy) s
  | conflict {s : Shared} {state : AgentState} (met : φ.met = some state) (ne : state ≠ .locked) :
      Ends snapshot session φ (.ok .conflict) s
  | refused {s : Shared} {state : IdempotencyState} (binding : φ.binding = some state)
      (refuses : state.Refuses session.header.vault_id) : Ends snapshot session φ (.ok .failed) s

/-- What holds of an execution's end. -/
abbrev ends (snapshot : Snapshot) (session : UnlockedVault) (outcome : Outcome) (s : Shared)
    (φ : Progress) : Prop :=
  φ.answer = none ∧ φ.Ends snapshot session outcome s

theorem unlock_unlockFailed {outcome : ExecutionOutcome} (hφ : φ.answer = none) :
    UnlockPasses (P := P) context snapshot session (unlockFailed outcome)
      (fun result _ φ' => result = .ok outcome ∧ φ' = φ) s φ := by
  unfold unlockFailed lockVaultAgent
  have hlock : UnlockPasses (P := P) context snapshot session
      (withLock .vault (act .vaultLock)) (fun _ _ φ' => φ' = φ) s φ := by
    refine unlock_withLock hφ ?_
    refine unlock_quiet (k := .ret) hφ (fun _ _ => rfl) fun s₁ o _ _ => ?_
    exact ⟨Progress.fair_of_none hφ, rfl⟩
  refine unlock_seq hlock ?_
  rintro _ s₁ _ rfl
  exact unlock_quiet hφ (fun _ _ => rfl) fun s₂ o _ _ => ⟨rfl, rfl⟩

theorem unlock_publish (h : φ.Opening s) (hs : s.HasSession snapshot session) :
    UnlockPasses (P := P) context snapshot session
      (publishAuthenticatedUnlock context true session.header.vault_id) (ends snapshot session)
      s φ := by
  unfold publishAuthenticatedUnlock
  refine unlock_withLock h.answer ?_
  refine unlock_seq (unlock_publicationInterrupted h) ?_
  rintro _ s₁ _ ⟨rfl, rfl, h₁⟩
  rw [if_neg Bool.false_ne_true]
  refine unlock_pastDeadline h.answer fun s₂ h₂ => ?_
  rw [if_neg Bool.false_ne_true, if_neg (not_not.mpr rfl)]
  have hopening := (h.undisturbed h₁).undisturbed h₂
  have hsession := (hs.undisturbed h.begun h₁).undisturbed h.begun h₂
  refine unlock_seq (unlock_bindAuthenticated hopening) ?_
  rintro bound s₃ _ ⟨state, rfl, h₃, hrefuses⟩
  cases bound with
  | false =>
    rw [if_pos Bool.false_ne_true]
    refine unlock_mono (unlock_unlockFailed h.answer) ?_
    rintro _ s₄ _ ⟨rfl, rfl⟩
    exact ⟨Progress.fair_of_none h.answer, h.answer, .refused rfl (hrefuses rfl)⟩
  | true =>
    rw [if_neg (not_not.mpr rfl)]
    refine unlock_quiet h.answer (fun _ _ => rfl) fun s₄ o h₄ hmeets => ?_
    have hadvance : perform (P := P) .incrementEpoch o s₄ =
        (.ok (), { s₄ with epoch := s₄.epoch + 1 }) := by
      unfold perform checkedAddOne
      rw [if_pos (hmeets.epoch rfl)]
    rw [hadvance]
    refine unlock_act h.answer fun s₅ o h₅ _ => ?_
    -- Nobody has moved the state or touched the session since the transition to `Unlocking`.
    have hkept : s₅.state = s₂.state ∧ s₅.vault = s₂.vault := by
      obtain ⟨hstate₅, hvault₅⟩ := h₅ h.begun
      obtain ⟨hstate₄, hvault₄⟩ := h₄ h.begun
      obtain ⟨hstate₃, hvault₃⟩ := h₃ h.begun
      exact ⟨(hstate₅.trans hstate₄).trans hstate₃, (hvault₅.trans hvault₄).trans hvault₃⟩
    have hexchange : perform (P := P) (.compareExchangeState .unlocking .unlocked) o s₅ =
        (true, { s₅ with state := .unlocked }) := if_pos (hkept.1.trans hopening.state)
    rw [hexchange, if_pos rfl]
    refine unlock_quiet h.answer (fun _ _ => rfl) fun s₆ o h₆ _ => ?_
    obtain ⟨hstate, hvault⟩ := h₆ rfl
    refine ⟨Progress.fair_of_none h.answer, h.answer, .success _ rfl hstate ?_⟩
    obtain ⟨session_id, hpresent⟩ := hsession
    refine ⟨session_id, ?_⟩
    have hvault₆ : (perform (P := P) .loadEpoch o s₆).2.vault = s₂.vault := hvault.trans hkept.2
    rw [hvault₆]
    exact hpresent

/-! ## The execution -/

theorem Progress.Ends.undisturbed {outcome : Outcome} (h : φ.Ends snapshot session outcome s)
    (hrely : φ.Undisturbed s s') : φ.Ends snapshot session outcome s' := by
  cases h with
  | success epoch begun state vault =>
    exact .success epoch begun ((hrely begun).1.trans state) (vault.undisturbed begun hrely)
  | busy => exact .busy
  | conflict met ne => exact .conflict met ne
  | refused binding refuses => exact .refused binding refuses

/-- An agent that is not locked turns the unlock away. -/
theorem unlock_unlockRefused (hφ : φ.answer = none) (hbegun : φ.begun = false) :
    UnlockPasses (P := P) context snapshot session unlockRefused
      (fun refusal s' φ' => φ'.answer = none ∧
        ∀ outcome, refusal = some outcome → φ'.Ends snapshot session (.ok outcome) s') s φ := by
  have hnext : ∀ (φ : Progress) (s : Shared), φ.begun = false → s.state ≠ .locked →
      φ.next (P := P) .loadState s.state s = { φ with met := some s.state } := by
    intro φ s hbegun hstate
    refine if_neg ?_
    rw [hbegun]
    simp [hstate]
  have hanswer : ∀ (φ : Progress) (s : Shared), φ.answer = none → φ.begun = false →
      (φ.next (P := P) .loadState s.state s).answer = none ∧
        (φ.next (P := P) .loadState s.state s).begun = false := by
    intro φ s hφ hbegun
    unfold Progress.next
    dsimp only
    split_ifs
    · exact ⟨hφ, hbegun⟩
    · exact ⟨hφ, hbegun⟩
  unfold unlockRefused
  refine unlock_act hφ fun s₁ o _ _ => ?_
  obtain ⟨hφ₁, hbegun₁⟩ := hanswer φ s₁ hφ hbegun
  rw [show perform (P := P) .loadState o s₁ = (s₁.state, s₁) from rfl]
  generalize φ.next (P := P) .loadState s₁.state s₁ = φ₁ at hφ₁ hbegun₁ ⊢
  split_ifs
  · refine ⟨hφ₁, ?_⟩
    rintro _ ⟨⟩
    exact .busy
  · refine unlock_act hφ₁ fun s₂ o _ _ => ?_
    obtain ⟨hφ₂, -⟩ := hanswer φ₁ s₂ hφ₁ hbegun₁
    rw [show perform (P := P) .loadState o s₂ = (s₂.state, s₂) from rfl]
    dsimp only
    split_ifs with hstate
    · refine ⟨hφ₂, ?_⟩
      rintro _ ⟨⟩
      rw [hnext φ₁ s₂ hbegun₁ hstate]
      exact .conflict rfl hstate
    · refine ⟨hφ₂, ?_⟩
      rintro _ ⟨⟩

/-- The transition to `Unlocking`, or an agent that is not locked any more. -/
theorem unlock_beginUnlock (hφ : φ.answer = none) :
    UnlockPasses (P := P) context snapshot session beginUnlock
      (fun refusal s' φ' => φ'.answer = none ∧ (refusal = none → φ'.Opening s') ∧
        ∀ outcome, refusal = some outcome → φ'.Ends snapshot session (.ok outcome) s') s φ := by
  unfold beginUnlock
  refine unlock_withLock hφ ?_
  refine unlock_loadLock hφ fun s₁ _ => ?_
  rw [if_neg Bool.false_ne_true]
  refine unlock_act hφ fun s₂ o _ _ => ?_
  by_cases hstate : s₂.state = .locked
  · have hexchange : perform (P := P) (.compareExchangeState .locked .unlocking) o s₂ =
        (true, { s₂ with state := .unlocking }) := if_pos hstate
    rw [hexchange, if_pos rfl]
    refine ⟨Progress.fair_of_none hφ, hφ, fun _ => ⟨rfl, hφ, rfl⟩, ?_⟩
    rintro _ ⟨⟩
  · have hexchange : perform (P := P) (.compareExchangeState .locked .unlocking) o s₂ =
        (false, s₂) := if_neg hstate
    rw [hexchange, if_neg Bool.false_ne_true]
    refine ⟨Progress.fair_of_none hφ, hφ, fun hnone => ?_, ?_⟩
    · cases hnone
    · rintro _ ⟨⟩
      exact .conflict rfl hstate

theorem unlock_withFlag {flag : Flag} {body : Code P Outcome} (hφ : φ.answer = none)
    (hbody : ∀ s', UnlockPasses context snapshot session body (ends snapshot session) s' φ) :
    UnlockPasses context snapshot session (withFlag flag body) (ends snapshot session) s φ := by
  unfold withFlag
  refine unlock_quiet hφ (fun _ _ => rfl) fun s₁ o _ _ => ?_
  split_ifs
  · refine unlock_seq (hbody _) ?_
    rintro outcome s₂ φ₂ ⟨hφ₂, hends⟩
    refine unlock_quiet hφ₂ (fun _ _ => rfl) fun s₃ o h₃ _ => ?_
    exact ⟨hφ₂, (hends.undisturbed h₃).undisturbed fun _ => ⟨rfl, rfl⟩⟩
  · exact ⟨hφ, .busy⟩

section

variable {password : String} {master_password : MasterPassword} {credential_ids : List (Bytes 32)}
  (hpassword : MasterPassword.new password = some master_password)
  (hunlock : Core.unlockVault P master_password snapshot (fun _ => false) = .ok session)
  (hpending : listPendingPasskeyCredentialIds P session snapshot (fun _ => false) =
    .ok credential_ids)

include hpassword hunlock hpending

theorem unlock_unlockVault (hφ : φ.answer = none) (hbegun : φ.begun = false) :
    UnlockPasses (P := P) context snapshot session (unlockVault context password)
      (ends snapshot session) s φ := by
  unfold unlockVault
  refine unlock_seq (unlock_unlockRefused hφ hbegun) ?_
  rintro (_ | outcome) s₁ φ₁ ⟨hφ₁, hends⟩
  case some => exact ⟨hφ₁, hends outcome rfl⟩
  refine unlock_withFlag hφ₁ fun s₂ => ?_
  rw [hpassword]
  refine unlock_seq (unlock_beginUnlock hφ₁) ?_
  rintro (_ | outcome) s₃ φ₃ ⟨hφ₃, hopening, hends⟩
  case some => exact ⟨hφ₃, hends outcome rfl⟩
  have hopening := hopening rfl
  have hcore : UnlockPasses (P := P) context snapshot session
      (withLock .vault (unlockWithCore context.key (coreUnlock (P := P) master_password)))
      (fun result s' φ' => result = (.ok session.header.vault_id, true) ∧ φ' = φ₃ ∧
        φ₃.Opening s' ∧ s'.HasSession snapshot session) s₃ φ₃ := by
    refine unlock_withLock hφ₃ ?_
    refine unlock_mono (unlock_unlockWithCore hunlock hopening) ?_
    rintro _ s₄ _ ⟨hresult, rfl, h⟩
    exact ⟨Progress.fair_of_none hφ₃, hresult, rfl, h⟩
  refine unlock_seq hcore ?_
  rintro _ s₄ _ ⟨rfl, rfl, hopening, hsession⟩
  dsimp only
  refine unlock_isCancelled hφ₃ fun s₅ h₅ => ?_
  rw [if_neg Bool.false_ne_true]
  refine unlock_pastDeadline hφ₃ fun s₆ h₆ => ?_
  rw [if_neg Bool.false_ne_true]
  have hopening := (hopening.undisturbed h₅).undisturbed h₆
  have hsession := (hsession.undisturbed hopening.begun h₅).undisturbed hopening.begun h₆
  unfold finishUnlock
  refine unlock_seq (unlock_cleanup hpending hopening hsession) ?_
  rintro _ s₇ _ ⟨rfl, rfl, h₇⟩
  exact unlock_publish (hopening.undisturbed h₇) (hsession.undisturbed hopening.begun h₇)

theorem unlock_executeAdmitted {hmac : List UInt8 → Bytes 32} {rounds : ℕ} {permit : RequestPermit}
    {envelope : RequestEnvelope} (hoperation : permit.operation = .unlockMasterPassword)
    (hdecoded : envelope.decoded = .ok (.unlockMasterPassword password)) (hφ : φ.answer = none)
    (hbegun : φ.begun = false) :
    UnlockPasses (P := P) context snapshot session
      (executeAdmitted hmac rounds context permit envelope) (ends snapshot session) s φ := by
  have hkey : ¬permit.operation.requiresIdempotencyKey = true := by
    rw [hoperation]
    decide
  unfold executeAdmitted executeEnvelope
  rw [if_neg hkey, hdecoded]
  show UnlockPasses (P := P) context snapshot session
    (execute rounds context (.unlockMasterPassword password)) (ends snapshot session) s φ
  unfold execute
  refine unlock_isCancelled hφ fun s₁ _ => ?_
  rw [if_neg Bool.false_ne_true]
  refine unlock_pastDeadline hφ fun s₂ _ => ?_
  rw [if_neg Bool.false_ne_true]
  exact unlock_unlockVault hpassword hunlock hpending hφ hbegun

end

/-! ## The answer -/

/-- An outcome that `finish_dispatch` looks at as it is. -/
structure ExecutionOutcome.Plain (outcome : ExecutionOutcome) : Prop where
  committed : outcome.committed = false
  holds_lock_transition : outcome.holds_lock_transition = false
  browser_generation : outcome.browser_generation = none
  browser_deadline : outcome.browser_deadline = none
  error : outcome.error ≠ some .notFound

theorem Progress.Ends.plain {outcome : Outcome} (h : φ.Ends snapshot session outcome s) :
    ∃ plain : ExecutionOutcome, outcome = .ok plain ∧ plain.Plain := by
  cases h with
  | success => exact ⟨_, rfl, rfl, rfl, rfl, rfl, fun h => by cases h⟩
  | busy => exact ⟨_, rfl, rfl, rfl, rfl, rfl, by decide⟩
  | conflict => exact ⟨_, rfl, rfl, rfl, rfl, rfl, by decide⟩
  | refused => exact ⟨_, rfl, rfl, rfl, rfl, rfl, by decide⟩

/-- An outcome without an error is that of an agent which is unlocked. -/
theorem Progress.Ends.unlocked {outcome : ExecutionOutcome}
    (h : φ.Ends snapshot session (.ok outcome) s) (herror : outcome.error = none) :
    φ.begun = true ∧ s.state = .unlocked := by
  cases h with
  | success _ begun state => exact ⟨begun, state⟩
  | busy => cases herror
  | conflict => cases herror
  | refused => cases herror

/-- The response to the outcome. -/
theorem Progress.Ends.answers {outcome : ExecutionOutcome}
    (h : φ.Ends snapshot session (.ok outcome) s) (answer : Option (Response × Shared)) :
    Progress.Answers session { φ with answer := answer } outcome.intoResponse s := by
  cases h with
  | success epoch _ state vault =>
    obtain ⟨_, hpresent⟩ := vault
    exact .success epoch state hpresent.session
  | busy => exact .busy
  | conflict met ne => exact .conflict met ne
  | refused binding refuses => exact .refused binding refuses

variable {permit : RequestPermit} {outcome : ExecutionOutcome}

/-- The outcome stands: nothing has been cancelled, and a success finds the agent unlocked. -/
theorem unlock_recheckOutcome (hoperation : permit.operation = .unlockMasterPassword)
    (hφ : φ.answer = none) (hends : φ.Ends snapshot session (.ok outcome) s)
    (hplain : outcome.Plain) :
    UnlockPasses (P := P) context snapshot session
      (recheckOutcome context permit .active outcome)
      (fun rechecked s' φ' => rechecked = outcome ∧ φ' = φ ∧ φ.Undisturbed s s') s φ := by
  unfold recheckOutcome
  rw [if_neg (by decide)]
  by_cases herror : outcome.error = none
  · obtain ⟨hbegun, hstate⟩ := hends.unlocked herror
    rw [if_pos (.inl herror)]
    refine unlock_isCancelled hφ fun s₁ h₁ => ?_
    rw [if_neg (fun h => Bool.false_ne_true h.1)]
    refine unlock_pastDeadline hφ fun s₂ h₂ => ?_
    rw [if_neg Bool.false_ne_true]
    unfold outcomeIsStillAuthorized
    rw [hoperation]
    have hauthorized : UnlockPasses (P := P) context snapshot session
        (do
          if ← act (.loadActive .lock) then return false
          return decide ((← act .loadState) = .unlocked))
        (fun authorized s' φ' => authorized = true ∧ φ' = φ ∧ φ.Undisturbed s s') s₂ φ := by
      refine unlock_loadLock hφ fun s₃ h₃ => ?_
      rw [if_neg Bool.false_ne_true]
      refine unlock_loadState hbegun hφ fun s₄ h₄ => ?_
      have hrely := ((h₁.trans h₂).trans h₃).trans h₄
      exact ⟨decide_eq_true ((hrely hbegun).1.trans hstate), rfl, hrely⟩
    refine unlock_seq hauthorized ?_
    rintro _ s₅ _ ⟨rfl, rfl, h₅⟩
    rw [if_pos (.inl rfl)]
    exact ⟨rfl, rfl, h₅⟩
  · rw [if_neg (not_or.mpr ⟨herror, hplain.error⟩)]
    exact ⟨rfl, rfl, fun _ => ⟨rfl, rfl⟩⟩

theorem recheckBrowser_of_plain (hplain : outcome.Plain) :
    recheckBrowser (P := P) outcome = .ret outcome := by
  unfold recheckBrowser recheckBrowserDeadline
  simp only [hplain.browser_deadline, pure_eq, bind_eq, ret_bind, hplain.browser_generation]

/-- The response is written, and is one that the unlock may give. -/
theorem unlock_respond (hoperation : permit.operation = .unlockMasterPassword)
    (hφ : φ.answer = none) (hends : φ.Ends snapshot session (.ok outcome) s) :
    UnlockPasses (P := P) context snapshot session (respond context permit outcome)
      (fun written _ φ' => written = true ∧ φ'.answer ≠ none ∧ φ'.Fair session) s φ := by
  have hlease : consumeFailedLease (P := P) context permit outcome = .ret () := by
    unfold consumeFailedLease
    rw [hoperation]
    exact if_neg (by simp)
  have hrefresh : refreshStatus (P := P) permit outcome = .ret outcome := by
    unfold refreshStatus
    rw [hoperation]
    exact if_neg (by simp)
  unfold respond
  rw [hlease, hrefresh]
  refine unlock_ask_succeeds hφ fun s₁ h₁ => ?_
  rw [if_pos rfl]
  refine unlock_act hφ fun s₂ o h₂ _ => ?_
  refine ⟨rfl, Option.some_ne_none _, ?_⟩
  rintro response s' ⟨⟩
  exact (hends.undisturbed (h₁.trans h₂)).answers _

/-- The drop of the context after the answer. -/
theorem unlock_dropContext (hφ : φ.Fair session) :
    UnlockPasses (P := P) context snapshot session (dropContext context.key)
      (fun _ _ φ' => φ' = φ) s φ := by
  unfold dropContext
  refine Setting.upholds_act (M := machine P) hφ fun s₁ o _ _ => ?_
  refine upholds.withLock hφ ?_
  exact Setting.upholds_act (M := machine P) (k := .ret) hφ fun s₂ o _ _ => ⟨hφ, rfl⟩

/-- A connection's own operation leaves the published state and the vault alone. -/
theorem Shared.onConnection_keeps {γ : Type} (s : Shared) (connection_id : ConnectionId)
    (absent : γ) (f : ConnectionState → γ × ConnectionState) :
    (s.onConnection connection_id absent f).2.state = s.state ∧
      (s.onConnection connection_id absent f).2.vault = s.vault := by
  unfold Shared.onConnection
  split
  · exact ⟨rfl, rfl⟩
  · exact ⟨rfl, rfl⟩

theorem unlock_finishDispatch (hoperation : permit.operation = .unlockMasterPassword)
    (hφ : φ.answer = none) (hends : φ.Ends snapshot session (.ok outcome) s)
    (hplain : outcome.Plain) :
    UnlockPasses (P := P) context snapshot session (finishDispatch context permit outcome)
      (fun _ _ φ' => φ'.answer ≠ none ∧ φ'.Fair session) s φ := by
  unfold finishDispatch
  refine unlock_lock hφ ?_
  refine unlock_observe (a := .connectionFinish context.key) hφ (fun _ _ => rfl)
    (fun o s => s.onConnection_keeps _ _ _) fun s₁ o s' h₁ hmeets => ?_
  rw [hmeets.finish rfl]
  dsimp only
  unfold recheckUncommitted
  rw [if_neg (by rw [hplain.committed]; exact Bool.false_ne_true)]
  refine unlock_seq (unlock_recheckOutcome hoperation hφ (hends.undisturbed h₁) hplain) ?_
  rintro _ s₂ _ ⟨rfl, rfl, h₂⟩
  rw [recheckBrowser_of_plain hplain]
  show UnlockPasses _ _ _ ((respond context permit _).bind _) _ _ _
  refine unlock_seq (unlock_respond hoperation hφ ((hends.undisturbed h₁).undisturbed h₂)) ?_
  rintro _ s₃ φ₃ ⟨rfl, hanswer, hfair₃⟩
  rw [if_pos rfl]
  refine unlock_seq (unlock_dropContext hfair₃) ?_
  rintro _ s₄ _ rfl
  unfold endLockTransition
  rw [hplain.holds_lock_transition, if_neg Bool.false_ne_true]
  exact ⟨hfair₃, hanswer, hfair₃⟩

end

/-! ## Runs of the sample vault -/

/-- What of `Favourable` depends on the state, for an oracle that does not vary. -/
def favourableCheck (context : RequestContext) (o : Oracle) : Event (machine P) → Bool
  | .action _ a _ s =>
    decide (s.active .lock = false ∧ s.cancelled context.key = false ∧
      s.clock + o.elapsed < context.deadline ∧ s.epoch < u64Max ∧ s.next_session_id < u64Max ∧
      s.vault.authorization_epoch < u64Max) &&
    match a with
    | .connectionFinish key =>
      decide ((perform (P := P) (.connectionFinish key) o s).1.toOption = some .active)
    | _ => true
  | .acquire _ _ | .release _ _ => true

theorem meets_of_favourableCheck {context : RequestContext} {snapshot : Snapshot} {o : Oracle}
    (hsucceeds : o.succeeds = true) (hstored : o.stored = some snapshot)
    (hcancel : o.should_cancel = fun _ => false)
    (hcached : o.remove_cached_credential.toOption = none) (event : Event (machine P))
    (h : favourableCheck context o event = true) :
    (unlockSetting P context snapshot).Meets o event := by
  cases event with
  | acquire t m => trivial
  | release t m => trivial
  | action t a result s =>
    unfold favourableCheck at h
    rw [Bool.and_eq_true] at h
    obtain ⟨hstate, hfinish⟩ := h
    obtain ⟨hlock, hcancelled, hdeadline, hepoch, hid, hauthorization⟩ := of_decide_eq_true hstate
    refine ⟨hsucceeds, hstored, hcancel, hcached, hlock, hcancelled, hdeadline, ?_, fun _ => hepoch,
      fun _ => hid, fun _ _ _ _ => hauthorization⟩
    rintro rfl
    exact Except.toOption_eq_some.mp (of_decide_eq_true hfinish)

/-- The unlock among others of which nothing is assumed. -/
def freeSetting (P : Primitives) (context : RequestContext) (snapshot : Snapshot) :
    Setting (machine P) Progress :=
  { unlockSetting P context snapshot with
    rely := fun _ _ _ => True
    rely_refl := fun _ _ => trivial
    rely_trans := fun _ _ => trivial }

/-- The desktop's connection. -/
def desktopConnection : Connection where
  role := .desktop
  version := ⟨1, 0⟩
  authenticated_process_id := 1
  granted_features := []
  connection_id := ⟨List.replicate 16 1, rfl⟩
  maximum_payload_bytes := 65536
  maximum_in_flight := 8

/-- A request of the desktop. -/
def desktopRequest (operation : OperationRequest) (unlock_epoch : ℕ)
    (idempotency_key : Option (Bytes 16)) : RequestEnvelope where
  operation := operation.operation
  unlock_epoch := unlock_epoch
  timeout_ms := 5000
  idempotency_key := idempotency_key
  body := []
  decoded := .ok operation
  decoded_operation := by rintro _ ⟨⟩; rfl

/-- The unlock with the right password. -/
def sampleUnlock : RequestEnvelope := desktopRequest (.unlockMasterPassword "master") 1 none

def sampleUnlockContext (request_id : ℕ) : RequestContext :=
  ⟨⟨desktopConnection.connection_id, request_id⟩, 1, 5000, 1⟩

def sampleUnlockPermit (request_id : ℕ) : RequestPermit :=
  ⟨request_id, .unlockMasterPassword, 1, 5000⟩

def sampleHmac (_ : List UInt8) : Bytes 32 := ⟨List.replicate 32 0, rfl⟩

/-- The file of the sample vault. -/
def sampleStored : Snapshot :=
  (sampleCreated.map fun created =>
    ⟨created.2.1.header, created.2.1.manifest_envelope, []⟩).getD ⟨[], [], []⟩

/-- The outside while everything works. -/
def favourableOracle : Oracle where
  stored := some sampleStored
  remove_cached_credential := .error .unavailable

/-- The desktop sends a request. -/
def send (request_id : ℕ) (envelope : RequestEnvelope) : Move (machine exampleComPrimitives) :=
  .spawn (dispatch sampleHmac 0 desktopConnection
    ⟨.request, desktopConnection.version, 0, desktopConnection.connection_id, request_id⟩ envelope)

/-- A thread takes some steps. -/
def steps (t n : ℕ) (o : Oracle) : List (Move (machine exampleComPrimitives)) :=
  List.replicate n (.step t o)

/-- The desktop has connected. -/
def connected : List (Move (machine exampleComPrimitives)) :=
  .spawn (accept desktopConnection) :: steps 0 5 favourableOracle

/-- A creation has reserved its idempotency key. -/
def creating : List (Move (machine exampleComPrimitives)) :=
  connected ++ send 1 (desktopRequest (.createVault "other") 1 (some ⟨List.replicate 16 7, rfl⟩)) ::
    steps 1 14 favourableOracle

/-- An unlock has succeeded. -/
def unlockedOnce : List (Move (machine exampleComPrimitives)) :=
  connected ++ send 1 sampleUnlock :: steps 1 65 favourableOracle

/-- Two reads have begun. The first could not read the file and has dropped the session; the second
has found the agent unlocked and is about to ask the vault, when the first publishes its failure. -/
def failing : List (Move (machine exampleComPrimitives)) :=
  unlockedOnce ++
    send 2 (desktopRequest (.listAccountSummaries 0 10) 2 none) :: steps 2 27 {} ++
    send 3 (desktopRequest (.listAccountSummaries 0 10) 2 none) :: steps 3 24 favourableOracle ++
    steps 2 7 {}

/-- After some moves, with the agent started on the sample vault, the desktop sends the unlock as
thread `t`, which is admitted. -/
def admitted (before : List (Move (machine exampleComPrimitives))) (t request_id : ℕ) :
    Option (History (machine exampleComPrimitives) × Config (machine exampleComPrimitives)) :=
  exec [] (Config.init (Shared.start true))
    (before ++ send request_id sampleUnlock :: steps t 11 favourableOracle)

/-- How an unlock is answered that is sent after some moves and then runs along with others. -/
def answered (before : List (Move (machine exampleComPrimitives))) (t request_id : ℕ)
    (ts : List ℕ) : Option (Option Response) :=
  (admitted before t request_id).bind fun done =>
    (follow (freeSetting exampleComPrimitives (sampleUnlockContext request_id) sampleStored)
      (favourableCheck (sampleUnlockContext request_id) favourableOracle) t favourableOracle ts
        done.2 {}).map fun done => done.2.answer.map Prod.fst

/-- The programs that some moves start are programs of the agent. -/
def Allowed (moves : List (Move (machine exampleComPrimitives))) : Prop :=
  ∀ p, .spawn p ∈ moves → Program exampleComPrimitives sampleHmac p

theorem Allowed.append {moves moves' : List (Move (machine exampleComPrimitives))}
    (h : Allowed moves) (h' : Allowed moves') : Allowed (moves ++ moves') := by
  intro p hmem
  rcases List.mem_append.mp hmem with hmem | hmem
  · exact h p hmem
  · exact h' p hmem

theorem allowed_steps (t n : ℕ) (o : Oracle) : Allowed (steps t n o) := by
  intro p hmem
  cases (List.mem_replicate.mp hmem).2

theorem Allowed.send {moves : List (Move (machine exampleComPrimitives))} (h : Allowed moves)
    (request_id : ℕ) (envelope : RequestEnvelope) :
    Allowed (Agent.send request_id envelope :: moves) := by
  intro p hmem
  rcases List.mem_cons.mp hmem with hspawn | hmem
  · cases hspawn
    exact .dispatch _ _ _ _
  · exact h p hmem

theorem allowed_connected : Allowed connected := by
  intro p hmem
  rcases List.mem_cons.mp hmem with hspawn | hmem
  · cases hspawn
    exact .accept _
  · exact allowed_steps _ _ _ p hmem

theorem allowed_unlockedOnce : Allowed unlockedOnce :=
  allowed_connected.append ((allowed_steps _ _ _).send _ _)

/-- An unlock of the sample vault is answered with a response, in a run of the agent in which
everything is favourable to it. -/
def AnsweredWith (response : Response) : Prop :=
  ∃ t request_id history c c' φ', AgentRun exampleComPrimitives sampleHmac true history c ∧
    c.threads t = serve sampleHmac 0 (sampleUnlockContext request_id)
      (sampleUnlockPermit request_id) sampleUnlock ∧
    Watched (freeSetting exampleComPrimitives (sampleUnlockContext request_id) sampleStored)
      (Program exampleComPrimitives sampleHmac) t c {} c' φ' ∧
    φ'.answer.map Prod.fst = some response

theorem answeredWith_of_answered {before : List (Move (machine exampleComPrimitives))}
    {t request_id : ℕ} {ts : List ℕ} {response : Response} (hbefore : Allowed before)
    (hserve : (admitted before t request_id).map (fun done => done.2.threads t) =
      some (serve sampleHmac 0 (sampleUnlockContext request_id) (sampleUnlockPermit request_id)
        sampleUnlock))
    (hanswered : answered before t request_id ts = some (some response)) :
    AnsweredWith response := by
  obtain ⟨⟨history, c⟩, hadmitted, hfollow⟩ := Option.bind_eq_some_iff.mp hanswered
  obtain ⟨⟨c', φ'⟩, hfollow, hresponse⟩ := Option.map_eq_some_iff.mp hfollow
  rw [hadmitted, Option.map_some, Option.some.injEq] at hserve
  have hrun : AgentRun exampleComPrimitives sampleHmac true history c :=
    Run.of_exec .init (hbefore.append ((allowed_steps _ _ _).send _ _)) hadmitted
  refine ⟨t, request_id, history, c, c', φ', hrun, hserve, ?_, hresponse⟩
  refine Watched.of_follow (fun _ _ _ _ _ _ => trivial) ?_ .start hfollow
  exact meets_of_favourableCheck rfl rfl rfl rfl

/-- What the right password opens. -/
def sampleUnlocked : Option (MasterPassword × UnlockedVault × List (Bytes 32)) := do
  let master_password ← MasterPassword.new "master"
  let session ← (Core.unlockVault exampleComPrimitives master_password sampleStored
    fun _ => false).toOption
  let credential_ids ← (listPendingPasskeyCredentialIds exampleComPrimitives session sampleStored
    fun _ => false).toOption
  return (master_password, session, credential_ids)

/-- The password of the sample is right. -/
theorem sampleUnlocked_some : ∃ master_password session credential_ids,
    MasterPassword.new "master" = some master_password ∧
      Core.unlockVault exampleComPrimitives master_password sampleStored (fun _ => false) =
        .ok session ∧
      listPendingPasskeyCredentialIds exampleComPrimitives session sampleStored (fun _ => false) =
        .ok credential_ids := by
  have hsome : sampleUnlocked.isSome = true := by decide +kernel
  obtain ⟨⟨master_password, session, credential_ids⟩, hopened⟩ := Option.isSome_iff_exists.mp hsome
  simp only [sampleUnlocked, Option.bind_eq_bind, Option.bind_eq_some_iff, Except.toOption_eq_some,
    Option.pure_def, Option.some.injEq, Prod.mk.injEq] at hopened
  obtain ⟨_, hpassword, _, hunlock, _, hpending, rfl, rfl, rfl⟩ := hopened
  exact ⟨_, _, _, hpassword, hunlock, hpending⟩

end Librarian.Agent
