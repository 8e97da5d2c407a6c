import Librarian.Agent.LifecycleGuards

/-!
# What the operations on Windows Hello touch, and requests as a whole

The last part of the pass over all programs.
-/

namespace Librarian.Agent

open Conc Librarian.Core Librarian.Protocol

variable {P : Primitives} {H : Finset Mutex} {context : RequestContext}

/-! ## Windows Hello -/

theorem windowsHelloTerminalAbort_keeps :
    Keeps ∅ (windowsHelloTerminalAbort context : Code P _) H := by
  refine wp_plain rfl rfl fun cancelled => wp_leave fun _ => ?_
  refine wp_plain rfl rfl fun active => wp_leave fun _ => ?_
  exact Guarded.seq pastDeadline_keeps fun late => wp_leave fun _ => rfl

theorem loadWindowsHelloState_keeps (hH : Below H .ownedVaults) :
    Keeps ∅ (loadWindowsHelloState : Code P _) H := by
  refine Keeps.withLock hH (wp_plain rfl rfl fun bound => wp_leave fun _ => ?_)
  refine wp_plain rfl rfl fun result => wp_plain rfl rfl fun bound => ?_
  exact wp_leave fun _ => rfl

theorem saveWindowsHelloState_keeps {state : WindowsHelloLocalState} (hH : Below H .ownedVaults) :
    Keeps ∅ (saveWindowsHelloState state : Code P _) H := by
  refine Keeps.withLock hH (wp_plain rfl rfl fun bound => wp_leave fun _ => ?_)
  refine wp_plain rfl rfl fun result => wp_plain rfl rfl fun bound => ?_
  exact wp_leave fun _ => rfl

theorem removeWindowsHelloState_keeps (hH : Below H .ownedVaults) :
    Keeps ∅ (removeWindowsHelloState : Code P _) H := by
  refine Keeps.withLock hH (wp_plain rfl rfl fun bound => wp_leave fun _ => ?_)
  refine wp_plain rfl rfl fun result => wp_plain rfl rfl fun bound => ?_
  exact wp_leave fun _ => rfl

theorem ensureAbsentWindowsHelloState_keeps (hH : Below H .ownedVaults) :
    Keeps ∅ (ensureAbsentWindowsHelloState : Code P _) H :=
  (removeWindowsHelloState_keeps hH).first fun _ => rfl

theorem persistWindowsHelloCleanup_keeps {previous : Option WindowsHelloLocalState}
    {credential_id : List UInt8} (hH : Below H .ownedVaults) :
    Keeps ∅ (persistWindowsHelloCleanup previous credential_id : Code P _) H := by
  unfold persistWindowsHelloCleanup
  dsimp only
  split
  · rfl
  · exact (saveWindowsHelloState_keeps hH).first fun _ => rfl

theorem removeWindowsHelloCredentialOr_keeps {previous : Option WindowsHelloLocalState}
    {credential_id : List UInt8} {outcome : ExecutionOutcome} (hH : Below H .ownedVaults) :
    Keeps ∅ (removeWindowsHelloCredentialOr previous credential_id outcome : Code P _)
      H := by
  refine wp_plain rfl rfl fun removed => wp_leave fun _ => ?_
  exact (persistWindowsHelloCleanup_keeps hH).first fun persisted => wp_leave fun _ => rfl

theorem retryPersistedWindowsHelloRetirement_keeps {state : WindowsHelloLocalState}
    (hH : Below H .ownedVaults) :
    Keeps ∅ (retryPersistedWindowsHelloRetirement state : Code P _) H := by
  unfold retryPersistedWindowsHelloRetirement
  cases state.pendingRemovalCredentialId with
  | none => rfl
  | some credential_id =>
  refine wp_plain rfl rfl fun removed => wp_leave fun _ => ?_
  cases state.clearPendingRemovalCredentialId with
  | none => exact (ensureAbsentWindowsHelloState_keeps hH).first fun _ => rfl
  | some state => exact (saveWindowsHelloState_keeps hH).first fun _ => rfl

theorem undoEnrollment_keeps {previous : Option WindowsHelloLocalState}
    {state : WindowsHelloLocalState} (hH : Below H .ownedVaults) :
    Keeps ∅ (undoEnrollment previous state : Code P _) H := by
  cases previous with
  | none => rfl
  | some previous =>
    unfold undoEnrollment rollbackWindowsHelloEnrollment
    dsimp only
    split
    · refine wp_leave fun _ => (saveWindowsHelloState_keeps hH).first fun saved => ?_
      exact wp_leave fun _ => removeWindowsHelloCredentialOr_keeps hH
    · rfl

theorem previousEnrollment_keeps (hH : Below H .ownedVaults) :
    Keeps ∅ (previousEnrollment : Code P _) H := by
  refine (loadWindowsHelloState_keeps hH).first fun result => ?_
  cases result with
  | error error =>
    cases error with
    | notFound =>
      exact (ensureAbsentWindowsHelloState_keeps hH).first fun absent => wp_leave fun _ => rfl
    | invalid => rfl
    | failed => rfl
    | published => rfl
  | ok state =>
    exact (retryPersistedWindowsHelloRetirement_keeps hH).first fun retired => wp_leave fun _ => rfl

theorem publishEnrollment_keeps {previous : Option WindowsHelloLocalState}
    {state : WindowsHelloLocalState} (hH : Below H .ownedVaults) :
    Keeps ∅ (publishEnrollment previous state : Code P _) H := by
  have hundo : Keeps ∅ (undoEnrollment previous state : Code P _) H :=
    undoEnrollment_keeps hH
  unfold publishEnrollment
  cases state.pendingRemovalCredentialId with
  | none => rfl
  | some credential_id =>
  refine wp_plain rfl rfl fun removed => (wp_ite (M := machine P)).mpr
    ⟨fun _ => hundo, fun _ => ?_⟩
  cases state.clearPendingRemovalCredentialId with
  | none => rfl
  | some state =>
    refine (saveWindowsHelloState_keeps hH).first fun saved => ?_
    simp

theorem commitEnrollment_keeps {previous : Option WindowsHelloLocalState}
    {credential_id : List UInt8} {state : WindowsHelloLocalState} (hH : Below H .commitGate) :
    Keeps ∅ (commitEnrollment context previous credential_id state : Code P _) H := by
  have howned : Below H .ownedVaults := hH.mono (by simp [Mutex.rank])
  have howned' : Below (insert .commitGate H) .ownedVaults := by simpa [Mutex.rank] using howned
  refine windowsHelloTerminalAbort_keeps.first fun outcome => ?_
  cases outcome with
  | some outcome => exact removeWindowsHelloCredentialOr_keeps howned
  | none =>
  refine ⟨hH, fun hfree => ?_⟩
  rw [Prog.ret_bind]
  refine preSecretOperation_keeps.first fun outcome => ?_
  have hgiveUp (outcome : ExecutionOutcome) : Keeps ∅
      (removeWindowsHelloCredentialOr previous credential_id outcome : Code P _) H :=
    removeWindowsHelloCredentialOr_keeps howned
  cases outcome with
  | some outcome =>
    refine ⟨Finset.mem_insert_self _ _, trivial, ?_⟩
    rw [Finset.erase_insert hfree]
    exact hgiveUp outcome
  | none =>
  refine (saveWindowsHelloState_keeps howned').first fun saved => ?_
  cases saved with
  | ok u => exact (publishEnrollment_keeps howned').first fun _ => released hfree
  | error error =>
    have hrest : Keeps ∅ (do
        let outcome ← windowsHelloTerminalAbort context
        removeWindowsHelloCredentialOr previous credential_id (outcome.getD .failed) : Code P _)
        H := windowsHelloTerminalAbort_keeps.first fun outcome => hgiveUp _
    cases error with
    | published => exact (undoEnrollment_keeps howned').first fun _ => released hfree
    | notFound | invalid | failed =>
      refine ⟨Finset.mem_insert_self _ _, trivial, ?_⟩
      rw [Finset.erase_insert hfree]
      exact hrest

theorem createProtector_keeps {permit : OperationPermit} {binding : Bytes 16 × UInt32}
    (hH : Below H .vault) :
    Keeps ∅ (createProtector context permit binding : Code P _) H := by
  refine Keeps.withLock hH ⟨within_plain (G := {.vault}) rfl rfl (by simp), fun authorized => ?_⟩
  refine wp_leave fun _ => ⟨within_plain (G := {.vault}) rfl rfl (by simp), fun bound => ?_⟩
  refine wp_leave fun _ => wp_plain rfl rfl fun epoch => wp_leave fun _ => ?_
  exact wp_plain rfl rfl fun _ => rfl

theorem useEnrollment_keeps {permit : OperationPermit} {binding : Bytes 16 × UInt32}
    {previous : Option WindowsHelloLocalState} {enrollment : WindowsHelloEnrollment}
    (hH : Below H .vault) :
    Keeps ∅ (useEnrollment context permit binding previous enrollment : Code P _) H := by
  have hgiveUp (outcome : ExecutionOutcome) : Keeps ∅
      (removeWindowsHelloCredentialOr previous enrollment.credential_id outcome : Code P _) H :=
    removeWindowsHelloCredentialOr_keeps (hH.mono (by simp [Mutex.rank]))
  refine windowsHelloTerminalAbort_keeps.first fun outcome => ?_
  cases outcome with
  | some outcome => exact hgiveUp outcome
  | none =>
  refine wp_plain rfl rfl fun epoch => (wp_ite (M := machine P)).mpr
    ⟨fun _ => hgiveUp .locked, fun _ => wp_plain rfl rfl fun installation_key => ?_⟩
  cases installation_key with
  | none => exact hgiveUp .failed
  | some installation_key =>
  refine (createProtector_keeps hH).first fun protector => ?_
  cases protector with
  | none => exact hgiveUp .locked
  | some protector =>
  cases protector with
  | none => exact hgiveUp .failed
  | some protector =>
  dsimp only
  cases enrolledState previous binding installation_key enrollment protector with
  | none => exact hgiveUp .failed
  | some state => exact commitEnrollment_keeps (hH.mono (by simp [Mutex.rank]))

theorem enrollCeremony_keeps {permit : OperationPermit} {binding : Bytes 16 × UInt32}
    {previous : Option WindowsHelloLocalState} (hH : Below H .vault) :
    Keeps ∅ (enrollCeremony context permit binding previous : Code P _) H := by
  refine checkingFirst_keeps (wp_plain rfl rfl fun ready => wp_leave fun _ =>
    wp_plain rfl rfl fun result => ?_)
  cases result with
  | ok enrollment => exact useEnrollment_keeps hH
  | error error =>
    cases error with
    | cleanupRequired credential_id =>
      refine (persistWindowsHelloCleanup_keeps (hH.mono (by simp [Mutex.rank]))).first
        fun persisted => wp_leave fun _ => rfl
    | invalidRequest => rfl
    | cancelled => rfl
    | unavailable => rfl
    | failed => rfl
    | removalFailed => rfl

theorem beginEnrollment_keeps (hH : Below H .vault) :
    Keeps ∅ (beginEnrollment : Code P _) H := by
  refine Keeps.withLock hH ⟨within_plain (G := {.vault}) rfl rfl (by simp), fun permit => ?_⟩
  cases permit with
  | none => rfl
  | some permit =>
  refine ⟨within_plain (G := {.vault}) rfl rfl (by simp), fun binding => ?_⟩
  cases binding <;> rfl

theorem enrollWindowsHello_keeps :
    Keeps ∅ (enrollWindowsHello context : Code P _) ∅ := by
  refine wp_plain rfl rfl fun ready => wp_leave fun _ => ?_
  refine checkingFirst_keeps (withFlag_keeps (by simp) (Keeps.withLock (by simp)
    (checkingFirst_keeps ?_)))
  have hvault : Below (insert .windowsHelloGate ∅) .vault := by simp [Mutex.rank]
  refine (beginEnrollment_keeps hvault).first fun begun => ?_
  cases begun with
  | none => rfl
  | some begun =>
  refine (previousEnrollment_keeps (hvault.mono (by simp [Mutex.rank]))).first fun previous => ?_
  cases previous with
  | error outcome => rfl
  | ok previous =>
  cases previous with
  | none => exact enrollCeremony_keeps hvault
  | some previous =>
  refine (wp_ite (M := machine P)).mpr ⟨fun _ => enrollCeremony_keeps hvault, fun _ => ?_⟩
  refine (wp_ite (M := machine P)).mpr ⟨fun _ => ?_, fun _ => enrollCeremony_keeps hvault⟩
  exact checkingFirst_keeps rfl

theorem enrolledForUnlock_keeps (hH : Below H .ownedVaults) :
    Keeps ∅ (enrolledForUnlock : Code P _) H := by
  refine (loadWindowsHelloState_keeps hH).first fun result => ?_
  cases result with
  | error error =>
    cases error with
    | notFound =>
      exact (ensureAbsentWindowsHelloState_keeps hH).first fun absent => wp_leave fun _ => rfl
    | invalid => rfl
    | failed => rfl
    | published => rfl
  | ok state =>
    exact (retryPersistedWindowsHelloRetirement_keeps hH).first fun retired =>
      wp_leave fun _ => wp_leave fun _ => rfl

theorem beginHelloUnlock_keeps (hH : Below H .commitGate) :
    Keeps sessionKinds (beginHelloUnlock context : Code P _) H := by
  refine Keeps.withLock hH (windowsHelloTerminalAbort_keeps.first fun outcome => ?_)
  cases outcome with
  | some outcome => rfl
  | none =>
  refine wp_plain rfl rfl fun epoch => wp_leave fun _ => wp_plain rfl rfl fun start_epoch => ?_
  refine ⟨within_of {.commitGate} .lifecycle rfl rfl (by simp) (by simp), fun changed => ?_⟩
  exact wp_leave fun _ => rfl

theorem helloUnlockFailed_keeps {outcome : ExecutionOutcome} {K : Finset Kind}
    (hK : .secret ∈ K) : Keeps K (helloUnlockFailed outcome : Code P _) H :=
  wp_free .secret hK rfl rfl fun _ => rfl

theorem helloUnlockCore_keeps {state : WindowsHelloLocalState} (hH : Below H .vault) :
    KeepsLoosely lifecycleKinds (helloUnlockCore context state : Code P _) H := by
  refine ⟨.inl hH, fun hfree => ?_⟩
  have hfailed : KeepsLoosely lifecycleKinds (helloUnlockFailed .failed : Code P _)
      (insert .vault H) := (helloUnlockFailed_keeps (by simp)).loosely
  have hcore : KeepsLoosely lifecycleKinds
      (unlockWithCore context.key coreUnlockWithWindowsHello : Code P _) (insert .vault H) :=
    (unlockWithCore_keeps (by simp)).loosely.mono (by decide)
  dsimp only [Prog.ret_bind]
  split
  · refine hcore.seq (Finset.Subset.refl _) fun unlocked => ?_
    refine ⟨Finset.mem_insert_self _ _, trivial, ?_⟩
    rw [Finset.erase_insert hfree, Prog.ret_bind]
    refine windowsHelloTerminalAbort_keeps.loosely.first fun outcome => ?_
    cases outcome with
    | some outcome =>
      have hgone : KeepsLoosely lifecycleKinds (unlockFailed outcome : Code P _) H :=
        (unlockFailed_keeps (.inl hH)).mono (by simp)
      exact hgone
    | none => exact finishUnlock_keeps hH
  · exact hfailed.seq (Finset.Subset.refl _) fun _ => released hfree

theorem helloUnlockCeremony_keeps {state : WindowsHelloLocalState} {start_epoch : ℕ}
    (hH : Below H .vault) :
    KeepsLoosely lifecycleKinds (helloUnlockCeremony context state start_epoch : Code P _) H := by
  have hfailed (outcome : ExecutionOutcome) : KeepsLoosely lifecycleKinds
      (helloUnlockFailed outcome : Code P _) H := (helloUnlockFailed_keeps (by simp)).loosely
  refine wp_plain rfl rfl fun evaluated => ?_
  cases evaluated with
  | error error => exact hfailed _
  | ok output =>
  refine windowsHelloTerminalAbort_keeps.loosely.first fun outcome => ?_
  cases outcome with
  | some outcome => exact hfailed _
  | none =>
  have houtdated : Keeps ∅ (ceremonyOutdated start_epoch : Code P _) H := by
    refine wp_plain rfl rfl fun epoch => wp_leave fun _ => ?_
    exact wp_plain rfl rfl fun state => rfl
  refine houtdated.loosely.first fun outdated => ?_
  exact (wp_ite (M := machine P)).mpr
    ⟨fun _ => hfailed .cancelled, fun _ => helloUnlockCore_keeps hH⟩

theorem unlockWindowsHello_keeps :
    KeepsLoosely lifecycleKinds (unlockWindowsHello context : Code P _) ∅ := by
  refine wp_plain rfl rfl fun ready => wp_leave fun _ => ?_
  refine unlockRefused_keeps.loosely.first fun refused => ?_
  cases refused with
  | some outcome => rfl
  | none =>
  have hvault : Below (insert .windowsHelloGate ∅) .vault := by simp [Mutex.rank]
  refine withFlag_keepsLoosely (by simp) (KeepsLoosely.withLock (.inl (by simp)) ?_)
  refine (enrolledForUnlock_keeps (hvault.mono (by simp [Mutex.rank]))).loosely.first
    fun enrolled => ?_
  cases enrolled with
  | error outcome => rfl
  | ok state =>
  refine wp_plain rfl rfl fun challenged => wp_leave fun _ => ?_
  refine (beginHelloUnlock_keeps (hvault.mono (by simp [Mutex.rank]))).loosely.seq (by simp)
    fun begun => ?_
  cases begun with
  | error outcome => rfl
  | ok start_epoch => exact helloUnlockCeremony_keeps hvault

theorem boundTo_keeps {binding : Bytes 16 × UInt32} (hH : Loosely H .vault) :
    KeepsLoosely ∅ (boundTo binding : Code P _) H :=
  KeepsLoosely.withLock hH ⟨within_plain (G := {.vault}) rfl rfl (by simp), fun _ => rfl⟩

theorem removeEnrollment_keeps {binding : Bytes 16 × UInt32} {credential_id : List UInt8}
    (hH : Below H .vault) :
    KeepsLoosely ∅ (removeEnrollment context binding credential_id : Code P _) H := by
  have hgate : Below H .commitGate := hH.mono (by simp [Mutex.rank])
  have howned : Below (insert .commitGate H) .ownedVaults := by
    simpa [Mutex.rank] using hgate.mono (by simp [Mutex.rank])
  have hvault : Loosely (insert .commitGate H) .vault :=
    .inr ⟨rfl, Finset.mem_insert_self _ _, by simp [hH.notMem]⟩
  refine KeepsLoosely.withLock (.inl hgate) (checkingFirst_keepsLoosely ?_)
  refine (boundTo_keeps hvault).first fun bound => wp_leave fun _ => ?_
  refine wp_plain rfl rfl fun removed => wp_leave fun _ => ?_
  exact (removeWindowsHelloState_keeps howned).loosely.first fun result => wp_leave fun _ => rfl

theorem removeRetired_keeps {state : WindowsHelloLocalState} (hH : Below H .vault) :
    KeepsLoosely ∅ (removeRetired context state : Code P _) H := by
  unfold removeRetired
  cases state.vaultBinding with
  | none => rfl
  | some binding =>
  cases state.credentialId with
  | none => rfl
  | some credential_id =>
  refine (boundTo_keeps (.inl hH)).first fun bound => wp_leave fun _ => ?_
  exact checkingFirst_keepsLoosely (removeEnrollment_keeps hH)

theorem removeWindowsHello_keeps :
    KeepsLoosely ∅ (removeWindowsHello context : Code P _) ∅ := by
  refine wp_plain rfl rfl fun ready => wp_leave fun _ => ?_
  have hvault : Below (insert .windowsHelloGate ∅) .vault := by simp [Mutex.rank]
  have howned : Below (insert .windowsHelloGate ∅) .ownedVaults := by simp [Mutex.rank]
  refine checkingFirst_keepsLoosely (withFlag_keepsLoosely (by simp) (KeepsLoosely.withLock
    (.inl (by simp)) ?_))
  refine (loadWindowsHelloState_keeps howned).loosely.first fun result => ?_
  cases result with
  | error error =>
    cases error with
    | notFound =>
      exact (ensureAbsentWindowsHelloState_keeps howned).loosely.first
        fun absent => wp_leave fun _ => rfl
    | invalid => rfl
    | failed => rfl
    | published => rfl
  | ok state =>
    refine (retryPersistedWindowsHelloRetirement_keeps howned).loosely.first fun retired => ?_
    exact wp_leave fun _ => removeRetired_keeps hvault

/-! ## Requests -/

/-- The execution of every operation. -/
theorem executeOperation_keeps {rounds : ℕ} {request : OperationRequest} :
    KeepsLoosely executionKinds (executeOperation rounds context request : Code P _) ∅ := by
  cases request with
  | status => rfl
  | exactOriginMatches browser => exact browserFill_keeps.loosely.mono (by decide)
  | getSelectedCredential browser selection => exact browserFill_keeps.loosely.mono (by decide)
  | createVault password => exact createVault_keeps.mono (by decide)
  | unlockMasterPassword password => exact unlockVault_keeps.mono (by decide)
  | lock => exact lockVault_keeps.mono (by decide)
  | listAccountSummaries offset limit =>
    exact (listAccounts_keeps (by simp)).loosely.mono (by decide)
  | getAccount id => exact (getAccount_keeps (by simp)).loosely.mono (by decide)
  | addAccount fields => exact addAccount_keeps.loosely.mono (by decide)
  | updateAccount id fields => exact updateAccount_keeps.loosely.mono (by decide)
  | deleteAccount id => exact deleteAccount_keeps.loosely.mono (by decide)
  | enrollWindowsHello parent_window => exact enrollWindowsHello_keeps.loosely.mono (by simp)
  | unlockWindowsHello parent_window => exact unlockWindowsHello_keeps.mono (by decide)
  | removeWindowsHello => exact removeWindowsHello_keeps.mono (by simp)
  | makePasskey proof => exact makePasskey_keeps.loosely.mono (by decide)
  | getPasskeyAssertion proof id => exact getPasskeyAssertion_keeps.loosely.mono (by decide)
  | deletePasskey id => exact deletePasskey_keeps.loosely.mono (by decide)
  | listPasskeysForAssertion proof =>
    exact (listPasskeysForAssertion_keeps (by simp)).loosely.mono (by decide)
  | listPasskeys => exact (listPasskeys_keeps (by simp)).loosely.mono (by decide)
  | confirmPasskeyCreation proof id =>
    exact confirmPasskeyCreation_keeps.loosely.mono (by decide)
  | rollbackPasskeyCreation proof id =>
    exact rollbackPasskeyCreation_keeps.loosely.mono (by decide)

/-- What surrounds an operation when a request is executed, for any order of the mutexes: the
operation itself is the one part that matters. -/
theorem executeEnvelope_keeps {K : Finset Kind} {L : Finset Mutex → Mutex → Prop} {rounds : ℕ}
    {envelope : RequestEnvelope}
    (hrequest : ∀ request, envelope.decoded = .ok request →
      Guarded (M := machine P) (within K) L (executeOperation rounds context request) ∅) :
    Guarded (M := machine P) (within K) L (executeEnvelope rounds context envelope) ∅ := by
  unfold executeEnvelope
  cases hdecoded : envelope.decoded with
  | error error => rfl
  | ok request =>
  dsimp only [executeDecoded]
  cases passkeyBindingFailure request context with
  | some rejection => rfl
  | none =>
  unfold execute
  refine wp_plain rfl rfl fun cancelled => wp_leave fun _ => ?_
  refine wp_plain rfl rfl fun now => wp_leave fun _ => ?_
  exact hrequest request hdecoded

theorem executeAdmitted_keeps {K : Finset Kind} {L : Finset Mutex → Mutex → Prop}
    {hmac : List UInt8 → Bytes 32} {rounds : ℕ} {permit : RequestPermit}
    {envelope : RequestEnvelope} (hL : L ∅ .idempotency)
    (hrequest : ∀ request, envelope.decoded = .ok request →
      Guarded (M := machine P) (within K) L (executeOperation rounds context request) ∅) :
    Guarded (M := machine P) (within K) L (executeAdmitted hmac rounds context permit envelope)
      ∅ := by
  have hlock {a : Action P} (hguard : a.guard = {.idempotency}) (hkind : a.kind = .plain) :
      Guarded (M := machine P) (within K) L
        (Prog.withLock (M := machine P) .idempotency (act a)) ∅ :=
    (wp_withLock (M := machine P)).mpr ⟨hL, fun hfree =>
      ⟨within_plain hguard hkind (by simp), fun _ => released hfree⟩⟩
  unfold executeAdmitted
  split_ifs
  · cases envelope.idempotency_key with
    | none => rfl
    | some key =>
    refine (hlock rfl rfl).seq fun admission => ?_
    cases admission with
    | conflict => rfl
    | busy => rfl
    | replay cached => rfl
    | reserved =>
    refine (executeEnvelope_keeps hrequest).seq fun outcome => ?_
    cases outcome with
    | error e => exact (hlock rfl rfl).seq fun _ => rfl
    | ok outcome =>
    refine (hlock rfl rfl).seq fun completed => ?_
    cases completed with
    | ok u => rfl
    | error e => exact (hlock rfl rfl).seq fun _ => rfl
  · exact executeEnvelope_keeps hrequest

/-! ## Admission and completion -/

/-- What the admission and the completion of a request consist of. -/
@[simp]
def dispatchKinds : Finset Kind := {.admission, .completion}

/-- The mutexes that are held after the admission. -/
def RequestAdmission.held : RequestAdmission → Finset Mutex
  | .rejected _ => {.commitGate}
  | _ => ∅

theorem gate_released : ({.commitGate} : Finset Mutex).erase .commitGate = ∅ :=
  Finset.erase_singleton _

theorem refuseBusy_keeps {deadline : ℕ} :
    wp (M := machine P) (guards (within dispatchKinds) Below) (refuseBusy deadline)
      (fun admission _ H => H = admission.held) () {.commitGate} := by
  refine pastDeadline_keeps.first fun late => ?_
  cases late <;> rfl

theorem carryOverCancellation_keeps {key : RequestKey} (hgate : .commitGate ∈ H) :
    Keeps dispatchKinds (carryOverCancellation key : Code P _) H := by
  refine wp_free .admission (by simp) rfl rfl fun cancelled => ?_
  refine (wp_ite (M := machine P)).mpr ⟨fun _ => ?_, fun _ => rfl⟩
  exact keeps_act (within_of {.commitGate} .admission rfl rfl (by simp) (by simpa using hgate))

theorem registerRequest_keeps {connection : Connection} {permit : RequestPermit} {deadline : ℕ} :
    wp (M := machine P) (guards (within dispatchKinds) Below)
      (registerRequest connection permit deadline) (fun admission _ H => H = admission.held) ()
      {.commitGate} := by
  have hgate : Mutex.commitGate ∈ ({.commitGate} : Finset Mutex) := Finset.mem_singleton_self _
  refine wp_free .admission (by simp) rfl rfl fun acquired =>
    (wp_ite (M := machine P)).mpr ⟨fun _ => ?_, fun _ => ?_⟩
  · refine ⟨within_of {.commitGate} .completion rfl rfl (by simp) (by simp), fun completed => ?_⟩
    cases completed with
    | error e => exact ⟨hgate, trivial, gate_released⟩
    | ok completion => exact refuseBusy_keeps
  · have hregister (key : RequestKey) : Keeps dispatchKinds
        (Prog.withLock (M := machine P) .cancellations (act (.register key))) {.commitGate} :=
      Keeps.withLock (by simp [Mutex.rank]) (keeps_act
        (within_of {.commitGate, .cancellations} .admission rfl rfl (by simp) (by simp [Finset.insert_subset_iff])))
    refine (hregister _).seq (Finset.Subset.refl _) fun registered => ?_
    refine (wp_ite (M := machine P)).mpr ⟨fun _ => ?_, fun _ => ?_⟩
    · exact wp_free .completion (by simp) rfl rfl fun _ => ⟨hgate, trivial, gate_released⟩
    · exact (carryOverCancellation_keeps hgate).seq (Finset.Subset.refl _) fun _ =>
        ⟨hgate, trivial, gate_released⟩

theorem admitRequest_keeps {connection : Connection} {header : FrameHeader}
    {envelope : RequestEnvelope} :
    wp (M := machine P) (guards (within dispatchKinds) Below)
      (admitRequest connection header envelope) (fun admission _ H => H = admission.held) () ∅ := by
  refine wp_plain rfl rfl fun started => wp_plain rfl rfl fun current_unlock_epoch => ?_
  refine wp_free .admission (by simp) rfl rfl fun result => ⟨by simp, fun _ => ?_⟩
  cases result with
  | ok permit => exact registerRequest_keeps
  | error error =>
    cases error with
    | connection e => exact ⟨Finset.mem_singleton_self _, trivial, gate_released⟩
    | unauthorized => rfl
    | busy timeout => exact refuseBusy_keeps
    | staleEpoch => rfl
    | missingIdempotencyKey => rfl

theorem outcomeIsStillAuthorized_keeps {permit : RequestPermit} {outcome : ExecutionOutcome} :
    Keeps ∅ (outcomeIsStillAuthorized permit outcome : Code P Bool) H := by
  have hloads : Keeps ∅ (do
      if ← act (.loadActive .lock) then return false
      return !(← notUnlockedAt permit.unlock_epoch) : Code P Bool) H :=
    wp_plain rfl rfl fun _ => wp_leave fun _ => notUnlockedAt_keeps.first fun _ => rfl
  have hstate : Keeps ∅ (do
      if ← act (.loadActive .lock) then return false
      return decide ((← act .loadState) = .unlocked) : Code P Bool) H :=
    wp_plain rfl rfl fun _ => wp_leave fun _ => wp_plain rfl rfl fun _ => rfl
  unfold outcomeIsStillAuthorized
  cases permit.operation <;> first | exact hloads | exact hstate | rfl

theorem recheckOutcome_keeps {permit : RequestPermit} {completion : RequestCompletion}
    {outcome : ExecutionOutcome} :
    Keeps ∅ (recheckOutcome context permit completion outcome : Code P _) H := by
  refine wp_leave fun _ => (wp_ite (M := machine P)).mpr ⟨fun _ => ?_, fun _ => rfl⟩
  refine wp_plain rfl rfl fun cancelled => wp_leave fun _ => ?_
  refine pastDeadline_keeps.first fun late => wp_leave fun _ => ?_
  exact outcomeIsStillAuthorized_keeps.first fun authorized => wp_leave fun _ => rfl

theorem recheckUncommitted_keeps {permit : RequestPermit} {completion : RequestCompletion}
    {outcome : ExecutionOutcome} :
    Keeps ∅ (recheckUncommitted context permit completion outcome : Code P _) H :=
  wp_leave fun _ => recheckOutcome_keeps

theorem recheckBrowser_keeps {outcome : ExecutionOutcome} :
    Keeps ∅ (recheckBrowser outcome : Code P _) H := by
  have hdeadline : Keeps ∅ (recheckBrowserDeadline outcome : Code P _) H := by
    unfold recheckBrowserDeadline
    cases outcome.browser_deadline with
    | none => rfl
    | some deadline => exact pastDeadline_keeps.first fun late => wp_leave fun _ => rfl
  refine hdeadline.first fun outcome => ?_
  cases outcome.browser_generation with
  | none => rfl
  | some generation => exact wp_plain rfl rfl fun current => wp_leave fun _ => rfl

theorem consumeFailedLease_keeps {permit : RequestPermit} {outcome : ExecutionOutcome}
    (hH : Below H .browserLeases) :
    Keeps dispatchKinds (consumeFailedLease context permit outcome : Code P _) H :=
  (wp_ite (M := machine P)).mpr ⟨fun _ => Keeps.withLock hH (keeps_act
    (within_of {.browserLeases} .completion rfl rfl (by simp) (by simp))), fun _ => rfl⟩

theorem refreshStatus_keeps {permit : RequestPermit} {outcome : ExecutionOutcome} :
    Keeps ∅ (refreshStatus permit outcome : Code P _) H :=
  (wp_ite (M := machine P)).mpr
    ⟨fun _ => wp_plain rfl rfl fun _ => wp_plain rfl rfl fun _ => rfl, fun _ => rfl⟩

theorem respond_keeps {permit : RequestPermit} {outcome : ExecutionOutcome}
    (hgate : .commitGate ∈ H) (hH : Below H .browserLeases) :
    Keeps dispatchKinds (respond context permit outcome : Code P _) H := by
  have hwrite (response : Response) (committed : Bool) : within (P := P) dispatchKinds H
      (.writeResponse context.key permit committed response) :=
    within_of {.commitGate} .completion rfl rfl (by simp) (by simpa using hgate)
  refine (consumeFailedLease_keeps hH).seq (Finset.Subset.refl _) fun _ => ?_
  refine refreshStatus_keeps.first fun outcome => ?_
  refine wp_plain rfl rfl fun fits => (wp_ite (M := machine P)).mpr ⟨fun _ => ?_, fun _ => ?_⟩
  · exact ⟨hwrite _ _, fun _ => rfl⟩
  · refine wp_plain rfl rfl fun fits => (wp_ite (M := machine P)).mpr ⟨fun _ => ?_, fun _ => rfl⟩
    exact ⟨hwrite _ _, fun _ => rfl⟩

theorem dropContext_keeps {key : RequestKey} (hH : Below H .cancellations) :
    Keeps dispatchKinds (dropContext key : Code P _) H :=
  wp_free .completion (by simp) rfl rfl fun _ => Keeps.withLock hH (keeps_act
    (within_of {.cancellations} .completion rfl rfl (by simp) (by simp)))

/-- The Lock's flag is given back at the end of a Lock. -/
theorem endLockTransition_keeps {held : Bool} {K : Finset Kind} (hK : .lifecycle ∈ K) :
    Keeps K (endLockTransition held : Code P _) H := by
  refine (wp_ite (M := machine P)).mpr ⟨fun _ => ?_, fun _ => rfl⟩
  exact wp_free .lifecycle hK rfl rfl fun _ => rfl

/-- What the answer to a request consists of. -/
@[simp]
def answerKinds : Finset Kind := {.completion, .admission, .lifecycle}

theorem finishDispatch_keeps {permit : RequestPermit} {outcome : ExecutionOutcome} :
    Keeps answerKinds (finishDispatch context permit outcome : Code P _) ∅ := by
  have hgate : Mutex.commitGate ∈ insert Mutex.commitGate (∅ : Finset Mutex) :=
    Finset.mem_insert_self _ _
  have hgone : (insert Mutex.commitGate (∅ : Finset Mutex)).erase .commitGate = ∅ :=
    Finset.erase_insert (Finset.notMem_empty _)
  have hend (held : Bool) : Keeps answerKinds (endLockTransition held : Code P _) ∅ :=
    endLockTransition_keeps (by simp)
  have hdrop (H : Finset Mutex) (hH : Below H .cancellations) :
      Keeps answerKinds (dropContext context.key : Code P _) H :=
    (dropContext_keeps hH).mono (by decide)
  -- After the gate is given back, the Lock's flag and the context are left to give back.
  have hafter : Keeps answerKinds (do
      endLockTransition outcome.holds_lock_transition
      dropContext context.key : Code P _) ∅ :=
    (hend _).seq (Finset.Subset.refl _) fun _ => hdrop ∅ (by simp)
  refine ⟨by simp, fun _ => ⟨within_of {.commitGate} .completion rfl rfl (by simp) (by simp),
    fun completed => ?_⟩⟩
  cases completed with
  | error e =>
    refine ⟨hgate, trivial, ?_⟩
    rw [hgone]
    exact hafter
  | ok completion =>
  refine recheckUncommitted_keeps.first fun rechecked => ?_
  refine recheckBrowser_keeps.first fun rechecked => ?_
  refine (respond_keeps hgate (by simp [Mutex.rank])).seq (by decide) fun responded => ?_
  refine (wp_ite (M := machine P)).mpr ⟨fun _ => ?_, fun _ => ?_⟩
  · refine (hdrop _ (by simp [Mutex.rank])).seq (Finset.Subset.refl _) fun _ => ?_
    refine ⟨hgate, trivial, ?_⟩
    rw [hgone]
    exact hend _
  · refine ⟨hgate, trivial, ?_⟩
    rw [hgone]
    exact hafter

/-! ## Entry points other than requests -/

/-- What a handshake, a cancellation, a disconnect or the shutdown consists of. -/
@[simp]
def entryKinds : Finset Kind := {.secret, .write, .creation, .lifecycle, .cancellation}

/-- What is cancelled together with a connection or a request of it. -/
theorem cancellation_within {a : Action P} {K : Finset Kind} (G : Finset Mutex)
    (hguard : a.guard = G) (hkind : a.kind = .cancellation) (hK : .cancellation ∈ K) (hG : G ⊆ H) :
    within K H a :=
  within_of G .cancellation hguard hkind hK hG

theorem accept_keeps {connection : Connection} :
    Keeps {.cancellation} (accept connection : Code P _) ∅ := by
  have hstatus : Keeps ∅ (statusSnapshot : Code P _) ∅ :=
    Keeps.withLock (by simp) (wp_plain rfl rfl fun _ => wp_plain rfl rfl fun _ => rfl)
  exact hstatus.first fun _ => keeps_act (cancellation_within ∅ rfl rfl (by simp) (Finset.empty_subset _))

theorem applyCancel_keeps {connection : Connection} {header : FrameHeader} :
    Keeps {.cancellation} (applyCancel connection header : Code P _) ∅ := by
  refine Keeps.withLock (by simp)
    ⟨cancellation_within {.commitGate} rfl rfl (by simp) (by simp), fun result => ?_⟩
  cases result with
  | error e => rfl
  | ok u =>
    exact Keeps.withLock (by simp [Mutex.rank])
      (keeps_act (cancellation_within {.commitGate, .cancellations} rfl rfl (by simp)
        (by simp [Finset.insert_subset_iff])))

theorem closeConnection_keeps {connection_id : ConnectionId} :
    Keeps {.cancellation} (closeConnection connection_id : Code P _) ∅ := by
  have hpart {a : Action P} {m : Mutex} (hm : Below {.commitGate} m)
      (hguard : a.guard = {.commitGate, m}) (hkind : a.kind = .cancellation) :
      Keeps {.cancellation} (Prog.withLock (M := machine P) m (act a)) (insert .commitGate ∅) :=
    Keeps.withLock hm (keeps_act (cancellation_within _ hguard hkind (by simp)
      (by simp [Finset.insert_subset_iff])))
  refine Keeps.withLock (by simp)
    ⟨cancellation_within {.commitGate} rfl rfl (by simp) (by simp), fun _ => ?_⟩
  refine (hpart (m := .cancellations) (by simp [Mutex.rank]) rfl rfl).seq (by simp) fun _ => ?_
  refine (hpart (m := .browserLeases) (by simp [Mutex.rank]) rfl rfl).seq (by simp) fun _ => ?_
  exact hpart (by simp [Mutex.rank]) rfl rfl

theorem disconnect_keeps {rounds : ℕ} {connection_id : ConnectionId} :
    Keeps entryKinds (disconnect rounds connection_id : Code P _) ∅ := by
  refine closeConnection_keeps.seq (by simp) fun _ => ?_
  refine rollbackDisconnectedPasskeyCreations_keeps.seq (by decide) fun _ => ?_
  exact keeps_act (cancellation_within ∅ rfl rfl (by simp) (Finset.empty_subset _))

theorem shutdown_keeps :
    KeepsLoosely {.secret, .lifecycle, .cancellation} (shutdown : Code P _) ∅ := by
  have hbegin : Keeps {.secret, .lifecycle} (beginShutdown : Code P _) ∅ := by
    refine Keeps.withLock (by simp) ⟨within_of {.commitGate} .lifecycle rfl rfl (by simp) (by simp),
      fun _ => wp_free .lifecycle (by simp) rfl rfl fun _ => ?_⟩
    exact (advanceEpoch_keeps (by simp) (by simp [Mutex.rank])).mono (by simp)
  refine hbegin.loosely.seq (by decide) fun result => ?_
  cases result with
  | error e => rfl
  | ok u =>
  have hlock : KeepsLoosely {.secret, .lifecycle, .cancellation}
      (do lockVaultAgent; act (.storeState .shuttingDown) : Code P _)
      (insert .windowsHelloGate (insert .creationGate ∅)) := by
    refine (lockVaultAgent_keeps (.inl (by simp [Mutex.rank]))).seq (by simp) fun _ => ?_
    exact wp_free .lifecycle (by simp) rfl rfl fun _ => rfl
  have hgates := KeepsLoosely.withLock (.inl (by simp)) (KeepsLoosely.withLock
    (.inl (by simp [Mutex.rank])) hlock)
  refine hgates.seq (Finset.Subset.refl _) fun _ => ?_
  exact (keeps_act (cancellation_within ∅ rfl rfl (by simp) (Finset.empty_subset _))).loosely

/-! ## All programs -/

/-- What all programs together consist of. -/
@[simp]
def programKinds : Finset Kind :=
  {.secret, .write, .lease, .creation, .lifecycle, .admission, .completion, .cancellation}

theorem dispatch_keeps {hmac : List UInt8 → Bytes 32} {rounds : ℕ} {connection : Connection}
    {header : FrameHeader} {envelope : RequestEnvelope} :
    KeepsLoosely programKinds (dispatch hmac rounds connection header envelope : Code P _) ∅ := by
  refine wp_plain rfl rfl fun ready => wp_leave fun _ => ?_
  have hadmit : wp (M := machine P) (guards (within programKinds) Loosely)
      (admitRequest connection header envelope) (fun admission _ H => H = admission.held) () ∅ :=
    wp_guards_mono admitRequest_keeps (within_mono (by decide)) fun _ _ h => .inl h
  refine wp.seq hadmit fun admission _ H hH => ?_
  subst hH
  cases admission with
  | fatal => rfl
  | rejected response =>
    refine ⟨within_of {.commitGate} .completion rfl rfl (by simp) (by rfl), fun _ => ?_⟩
    exact ⟨Finset.mem_singleton_self _, trivial, gate_released⟩
  | admitted context permit =>
    have hexecute : KeepsLoosely executionKinds
        (executeAdmitted hmac rounds context permit envelope : Code P _) ∅ :=
      executeAdmitted_keeps (.inl (by simp)) fun request _ => executeOperation_keeps
    refine hexecute.seq (by decide) fun outcome => ?_
    cases outcome with
    | error e => exact (dropContext_keeps (by simp)).loosely.mono (by decide)
    | ok outcome => exact finishDispatch_keeps.loosely.mono (by decide)

/-- Every program of the agent holds the mutexes that guard its actions, takes them in order or the
vault's under the commit gate, and gives back what it has taken. -/
theorem program_keeps {hmac : List UInt8 → Bytes 32} {p : Code P Unit} (h : Program P hmac p) :
    KeepsLoosely programKinds p ∅ := by
  cases h with
  | accept connection => exact accept_keeps.loosely.mono (by decide)
  | dispatch rounds connection header envelope => exact dispatch_keeps
  | applyCancel connection header => exact applyCancel_keeps.loosely.mono (by decide)
  | disconnect rounds connection_id => exact disconnect_keeps.loosely.mono (by decide)
  | shutdown => exact shutdown_keeps.mono (by decide)

end Librarian.Agent
