import Librarian.Agent.Guards

/-!
# What the operations of the life cycle touch

The second part of the pass over all programs: creating, unlocking and locking the vault.
-/

namespace Librarian.Agent

open Conc Librarian.Core Librarian.Protocol

variable {P : Primitives} {H : Finset Mutex} {context : RequestContext}

/-- What the creation of a vault, a Lock or the publication of an unlock consists of. -/
@[simp]
def sessionKinds : Finset Kind := {.secret, .lifecycle}

/-- What an unlock consists of. -/
@[simp]
def lifecycleKinds : Finset Kind := {.secret, .write, .lifecycle}

/-- What the execution of any operation consists of. -/
@[simp]
def executionKinds : Finset Kind := {.secret, .write, .lease, .creation, .lifecycle}

theorem checkingFirst_keepsLoosely {K : Finset Kind} {body : Code P Outcome}
    (hbody : KeepsLoosely K body H) : KeepsLoosely K (checkingFirst context body) H := by
  refine preSecretOperation_keeps.loosely.first fun outcome => ?_
  cases outcome with
  | none => exact hbody
  | some outcome => rfl

theorem withFlag_keepsLoosely {K : Finset Kind} {flag : Flag} {body : Code P Outcome}
    (hflag : flag ≠ .lock) (hbody : KeepsLoosely K body H) :
    KeepsLoosely K (withFlag flag body) H := by
  refine ⟨(flag_within hflag).1, fun taken => ?_⟩
  cases taken with
  | false => rfl
  | true =>
    exact hbody.seq (Finset.Subset.refl K) fun outcome => ⟨(flag_within hflag).2, fun _ => rfl⟩

/-! ## Creating a vault -/

theorem createAuthorized_keeps {start_epoch : ℕ} :
    Keeps ∅ (createAuthorized context start_epoch : Code P _) H := by
  refine wp_plain rfl rfl fun epoch => wp_leave fun _ => ?_
  refine wp_plain rfl rfl fun cancelled => wp_leave fun _ => ?_
  refine Guarded.seq pastDeadline_keeps fun late => wp_leave fun _ => ?_
  refine wp_plain rfl rfl fun active => wp_leave fun _ => ?_
  exact wp_plain rfl rfl fun state => rfl

theorem creationFailed_keeps {error : CreateError} :
    Keeps ∅ (creationFailed context error : Code P _) H := by
  cases error with
  | alreadyExists => rfl
  | failed =>
    refine wp_plain rfl rfl fun cancelled => wp_leave fun _ => ?_
    exact Guarded.seq pastDeadline_keeps fun late => wp_leave fun _ => rfl

theorem idempotency_keeps {a : Action P} (hguard : a.guard = {.idempotency})
    (hkind : a.kind = .plain) (hH : Below H .idempotency) :
    Keeps ∅ (Prog.withLock (M := machine P) .idempotency (act a)) H :=
  Keeps.withLock hH (keeps_act (within_plain hguard hkind (by simp)))

theorem installCreated_keeps {agent : VaultAgent} {vault_id : Bytes 16} (hgate : .commitGate ∈ H)
    (hvault : .vault ∉ H) (hH : Below H .idempotency) :
    KeepsLoosely sessionKinds (installCreated agent vault_id : Code P _) H := by
  refine wp_plain rfl rfl fun bound => ?_
  refine wp_leave fun _ => ?_
  refine (idempotency_keeps rfl rfl hH).loosely.first fun result => ?_
  cases result with
  | error e => rfl
  | ok u =>
  have hinstall : KeepsLoosely sessionKinds (act (.vaultInstall agent) : Code P _)
      (insert .vault H) :=
    (keeps_act (within_of {.vault, .commitGate} .lifecycle rfl rfl (by simp)
      (by simp [Finset.insert_subset_iff, hgate]))).loosely
  refine (KeepsLoosely.withLock (.inr ⟨rfl, hgate, hvault⟩) hinstall).seq (by simp) fun _ => ?_
  refine ⟨within_of {.commitGate} .secret rfl rfl (by simp) (by simp [hgate]), fun result => ?_⟩
  cases result with
  | error e => rfl
  | ok u => exact wp_free .lifecycle (by simp) rfl rfl fun _ => wp_plain rfl rfl fun _ => rfl

theorem publishCreated_keeps {start_epoch : ℕ} {created : CreatedVault} {session_id : ℕ}
    (hH : Below H .vault) :
    KeepsLoosely sessionKinds
      (publishCreated context start_epoch created session_id : Code P _) H := by
  have hgate : Below H .commitGate := hH.mono (by simp [Mutex.rank])
  have howned : Below (insert .commitGate H) .ownedVaults := by
    simpa [Mutex.rank] using hgate.mono (by simp [Mutex.rank])
  have hidempotency : Below (insert .ownedVaults (insert .commitGate H)) .idempotency := by
    simpa [Mutex.rank] using hgate.mono (by simp [Mutex.rank])
  refine ⟨.inl hgate, fun hfree => ⟨.inl howned, fun hfree' => ?_⟩⟩
  -- Every way out gives both mutexes back, the registry's first.
  have hdrop : Mutex.ownedVaults ∈ insert Mutex.ownedVaults (insert Mutex.commitGate H) ∧ True ∧
      Mutex.commitGate ∈
        (insert Mutex.ownedVaults (insert Mutex.commitGate H)).erase .ownedVaults ∧ True ∧
      ((insert Mutex.ownedVaults (insert Mutex.commitGate H)).erase .ownedVaults).erase
        .commitGate = H := by
    rw [Finset.erase_insert hfree', Finset.erase_insert hfree]
    exact ⟨Finset.mem_insert_self _ _, trivial, Finset.mem_insert_self _ _, trivial, rfl⟩
  refine createAuthorized_keeps.loosely.first fun authorized => ?_
  cases authorized with
  | false =>
    obtain ⟨howns, -, hholds, -, hrest⟩ := hdrop
    refine ⟨howns, trivial, hholds, trivial, ?_⟩
    rw [hrest]
    have hfailed : KeepsLoosely sessionKinds (creationFailed context .failed : Code P _) H :=
      creationFailed_keeps.loosely.mono (by simp)
    exact hfailed
  | true =>
  refine wp_plain rfl rfl fun published => ?_
  cases published with
  | error error => exact creationFailed_keeps.loosely.first fun _ => hdrop
  | ok u =>
    exact (installCreated_keeps (by simp) (by simp [hH.notMem]) hidempotency).seq (by simp)
      fun _ => hdrop

theorem createVault_keeps {password : String} :
    KeepsLoosely sessionKinds (createVault context password : Code P _) ∅ := by
  refine wp_plain rfl rfl fun state => ?_
  refine wp_leave fun _ => ?_
  refine withFlag_keepsLoosely (by simp) ?_
  refine KeepsLoosely.withLock (.inl (by simp)) ?_
  have hfailed (error : CreateError) : KeepsLoosely sessionKinds
      (creationFailed context error : Code P _) (insert .creationGate ∅) :=
    creationFailed_keeps.loosely.mono (by simp)
  refine wp_plain rfl rfl fun cancelled => ?_
  refine wp_leave fun _ => ?_
  refine pastDeadline_keeps.loosely.first fun late => ?_
  refine wp_leave fun _ => ?_
  refine wp_plain rfl rfl fun active => ?_
  refine wp_leave fun _ => ?_
  cases MasterPassword.new password with
  | none => rfl
  | some password =>
  refine wp_plain rfl rfl fun start_epoch => ?_
  refine wp_plain rfl rfl fun staged => ?_
  cases staged with
  | error error => exact hfailed error
  | ok created =>
  refine wp_plain rfl rfl fun session_id => ?_
  cases session_id with
  | none => exact hfailed .failed
  | some session_id =>
  refine wp_plain rfl rfl fun acquired => ?_
  exact (wp_ite (M := machine P)).mpr ⟨fun _ => hfailed .failed, fun _ =>
    publishCreated_keeps (by simp [Mutex.rank])⟩

/-! ## Unlocking -/

theorem storeUnlocked_keeps {key : RequestKey} {session : UnlockedVault} {snapshot : Snapshot}
    (hvault : .vault ∈ H) :
    Keeps sessionKinds (storeUnlocked key session snapshot : Code P _) H := by
  refine wp_plain rfl rfl fun cancelled => wp_leave fun _ => ?_
  refine wp_plain rfl rfl fun unchanged => wp_leave fun _ => ?_
  refine wp_plain rfl rfl fun session_id => ?_
  cases session_id with
  | none => rfl
  | some session_id =>
  refine ⟨within_of {.vault} .lifecycle rfl rfl (by simp) (by simp [hvault]), fun stored => ?_⟩
  refine wp_leave fun _ => wp_plain rfl rfl fun cancelled => ?_
  refine (wp_ite (M := machine P)).mpr ⟨fun _ => ?_, fun _ => rfl⟩
  exact ⟨within_of {.vault} .secret rfl rfl (by simp) (by simp [hvault]), fun _ => rfl⟩

theorem unlockWithCore_keeps {key : RequestKey}
    {unlock : Oracle → Except UnlockError (UnlockedVault × Snapshot)} (hvault : .vault ∈ H) :
    Keeps sessionKinds (unlockWithCore key unlock : Code P _) H := by
  refine ⟨within_of {.vault} .secret rfl rfl (by simp) (by simp [hvault]), fun _ => ?_⟩
  refine wp_plain rfl rfl fun cancelled => wp_leave fun _ => wp_plain rfl rfl fun unlocked => ?_
  cases unlocked with
  | error e => rfl
  | ok unlocked =>
    refine wp_plain rfl rfl fun identified => ?_
    exact (storeUnlocked_keeps hvault).seq (Finset.Subset.refl _) fun _ => rfl

theorem lockVaultAgent_keeps (hH : Loosely H .vault) :
    KeepsLoosely {.secret} (lockVaultAgent : Code P _) H :=
  KeepsLoosely.withLock hH
    (keeps_act (within_of {.vault} .secret rfl rfl (by simp) (by simp))).loosely

theorem unlockFailed_keeps {outcome : ExecutionOutcome} (hH : Loosely H .vault) :
    KeepsLoosely {.secret} (unlockFailed outcome : Code P _) H :=
  (lockVaultAgent_keeps hH).seq (by simp) fun _ => wp_free .secret (by simp) rfl rfl fun _ => rfl

theorem unlockInterrupted_keeps {key : RequestKey} :
    Keeps ∅ (unlockInterrupted key : Code P _) H := by
  refine wp_plain rfl rfl fun active => wp_leave fun _ => ?_
  refine wp_plain rfl rfl fun state => wp_leave fun _ => ?_
  exact wp_plain rfl rfl fun cancelled => rfl

theorem cleanupShouldAbort_keeps : Keeps ∅ (cleanupShouldAbort context : Code P _) H := by
  refine unlockInterrupted_keeps.first fun interrupted => ?_
  exact wp_leave fun _ => pastDeadline_keeps

theorem recoveredPasskeyCleanupOutcome_keeps :
    Keeps ∅ (recoveredPasskeyCleanupOutcome context : Code P _) H := by
  refine unlockInterrupted_keeps.first fun interrupted => wp_leave fun _ => ?_
  exact pastDeadline_keeps.first fun late => wp_leave fun _ => rfl

theorem cleanupOne_keeps {credential_id : Bytes 32} (hH : Below H .vault) :
    Keeps {.secret, .write} (cleanupOne context credential_id : Code P _) H := by
  have hgate : Below (insert .vault H) .commitGate := by
    simpa [Mutex.rank] using hH.mono (by simp [Mutex.rank])
  have hcheck : Keeps {.secret, .write}
      (do return !(← cleanupShouldAbort context) : Code P _)
      (insert .commitGate (insert .vault H)) :=
    cleanupShouldAbort_keeps.first fun _ => rfl
  refine ⟨hH, fun hfree => ?_⟩
  rw [Prog.ret_bind]
  refine wp.seq (mutateVault_keeps (Finset.Subset.refl _) (Finset.mem_insert_self .vault H) hgate
    cleanupShouldAbort_keeps hcheck) fun result _ H' hH' => ?_
  subst hH'
  cases result with
  | ok value => exact released_both hH
  | error error =>
    cases error with
    | notFound => exact released hfree
    | conflict => exact released hfree
    | failed => exact released hfree
    | aborted => exact recoveredPasskeyCleanupOutcome_keeps.first fun _ => released hfree
    | locked => exact recoveredPasskeyCleanupOutcome_keeps.first fun _ => released hfree

theorem cleanupLoop_keeps {credential_ids : List (Bytes 32)} (hH : Below H .vault) :
    Keeps {.secret, .write} (cleanupLoop context credential_ids : Code P _) H := by
  induction credential_ids with
  | nil => rfl
  | cons credential_id rest ih =>
    have hreport : Keeps {.secret, .write}
        (do return some (← recoveredPasskeyCleanupOutcome context) : Code P _) H :=
      recoveredPasskeyCleanupOutcome_keeps.first fun _ => rfl
    refine cleanupShouldAbort_keeps.first fun stop => ?_
    refine (wp_ite (M := machine P)).mpr ⟨fun _ => hreport, fun _ => ?_⟩
    refine wp_plain rfl rfl fun removed => ?_
    refine (wp_ite (M := machine P)).mpr ⟨fun _ => ih, fun _ => ?_⟩
    refine cleanupShouldAbort_keeps.first fun stop => ?_
    refine (wp_ite (M := machine P)).mpr ⟨fun _ => hreport, fun _ => ?_⟩
    refine (cleanupOne_keeps hH).seq (by simp) fun outcome => ?_
    cases outcome with
    | some outcome => rfl
    | none => exact ih

theorem recoveredCredentialIds_keeps (hH : Below H .vault) :
    Keeps {.secret} (recoveredCredentialIds context : Code P _) H := by
  refine Keeps.withLock hH ⟨within_of {.vault} .secret rfl rfl (by simp) (by simp),
    fun result => ?_⟩
  cases result with
  | ok credential_ids => rfl
  | error error =>
    cases error with
    | aborted => exact recoveredPasskeyCleanupOutcome_keeps.first fun _ => rfl
    | locked => exact recoveredPasskeyCleanupOutcome_keeps.first fun _ => rfl
    | notFound => rfl
    | conflict => rfl
    | failed => rfl

theorem cleanupRecoveredPasskeyCreations_keeps (hH : Below H .vault) :
    Keeps {.secret, .write} (cleanupRecoveredPasskeyCreations context : Code P _) H := by
  refine (recoveredCredentialIds_keeps hH).seq (by simp) fun result => ?_
  cases result with
  | error outcome => rfl
  | ok credential_ids => exact cleanupLoop_keeps hH

theorem publicationInterrupted_keeps {key : RequestKey} :
    Keeps ∅ (publicationInterrupted key : Code P _) H := by
  refine wp_plain rfl rfl fun active => wp_leave fun _ => ?_
  refine wp_plain rfl rfl fun cancelled => wp_leave fun _ => ?_
  exact wp_plain rfl rfl fun state => rfl

theorem bindAuthenticated_keeps {vault_id : Bytes 16} (hH : Below H .ownedVaults) :
    Keeps ∅ (bindAuthenticated vault_id : Code P _) H := by
  have hidempotency : Below (insert .ownedVaults H) .idempotency := by
    simpa [Mutex.rank] using hH.mono (by simp [Mutex.rank])
  refine Keeps.withLock hH (wp_plain rfl rfl fun bound => wp_leave fun _ => ?_)
  exact (idempotency_keeps rfl rfl hidempotency).first fun _ => rfl

theorem publishAuthenticatedUnlock_keeps {identified : Bool} {vault_id : Bytes 16}
    (hH : Below H .vault) :
    KeepsLoosely sessionKinds
      (publishAuthenticatedUnlock context identified vault_id : Code P _) H := by
  have hgate : Below H .commitGate := hH.mono (by simp [Mutex.rank])
  have howned : Below (insert .commitGate H) .ownedVaults := by
    simpa [Mutex.rank] using hgate.mono (by simp [Mutex.rank])
  have hmem : Mutex.commitGate ∈ insert Mutex.commitGate H := Finset.mem_insert_self _ _
  have hvault : Loosely (insert .commitGate H) .vault := .inr ⟨rfl, hmem, by simp [hH.notMem]⟩
  have hfailed (outcome : ExecutionOutcome) : KeepsLoosely sessionKinds
      (unlockFailed outcome : Code P _) (insert .commitGate H) :=
    (unlockFailed_keeps hvault).mono (by simp)
  refine KeepsLoosely.withLock (.inl hgate) ?_
  refine publicationInterrupted_keeps.loosely.first fun interrupted => ?_
  refine (wp_ite (M := machine P)).mpr ⟨fun _ => hfailed .cancelled, fun _ => ?_⟩
  refine pastDeadline_keeps.loosely.first fun late => ?_
  refine (wp_ite (M := machine P)).mpr ⟨fun _ => hfailed .deadline, fun _ => ?_⟩
  refine (wp_ite (M := machine P)).mpr ⟨fun _ => hfailed .failed, fun _ => ?_⟩
  refine (bindAuthenticated_keeps howned).loosely.first fun bound => ?_
  refine (wp_ite (M := machine P)).mpr ⟨fun _ => hfailed .failed, fun _ => ?_⟩
  refine ⟨within_of {.commitGate} .secret rfl rfl (by simp) (by simp), fun result => ?_⟩
  cases result with
  | error e => rfl
  | ok u =>
  refine ⟨within_of {.commitGate} .lifecycle rfl rfl (by simp) (by simp), fun changed => ?_⟩
  exact (wp_ite (M := machine P)).mpr
    ⟨fun _ => wp_plain rfl rfl fun _ => rfl, fun _ => hfailed .cancelled⟩

theorem finishUnlock_keeps {identified : Bool} {result : Except UnlockError (Bytes 16)}
    (hH : Below H .vault) :
    KeepsLoosely lifecycleKinds (finishUnlock context identified result : Code P _) H := by
  cases result with
  | error error => cases error <;> exact wp_free .secret (by simp) rfl rfl fun _ => rfl
  | ok vault_id =>
    refine (cleanupRecoveredPasskeyCreations_keeps hH).loosely.seq (by simp) fun outcome => ?_
    cases outcome with
    | none => exact (publishAuthenticatedUnlock_keeps hH).mono (by decide)
    | some outcome =>
      have hfailed : KeepsLoosely lifecycleKinds (unlockFailed outcome : Code P _) H :=
        (unlockFailed_keeps (.inl hH)).mono (by simp)
      exact hfailed

theorem unlockRefused_keeps : Keeps ∅ (unlockRefused : Code P _) H := by
  refine wp_plain rfl rfl fun state => wp_leave fun _ => ?_
  exact wp_plain rfl rfl fun state => wp_leave fun _ => rfl

theorem beginUnlock_keeps (hH : Below H .commitGate) :
    Keeps sessionKinds (beginUnlock : Code P _) H := by
  refine Keeps.withLock hH (wp_plain rfl rfl fun active => wp_leave fun _ => ?_)
  refine ⟨within_of {.commitGate} .lifecycle rfl rfl (by simp) (by simp), fun changed => ?_⟩
  exact wp_leave fun _ => rfl

theorem unlockVault_keeps {password : String} :
    KeepsLoosely lifecycleKinds (Librarian.Agent.unlockVault context password : Code P _) ∅ := by
  refine unlockRefused_keeps.loosely.first fun refused => ?_
  cases refused with
  | some outcome => rfl
  | none =>
  refine withFlag_keepsLoosely (by simp) ?_
  cases MasterPassword.new password with
  | none => rfl
  | some password =>
  refine (beginUnlock_keeps (by simp)).loosely.seq (by simp) fun outcome => ?_
  cases outcome with
  | some outcome => rfl
  | none =>
  have hcore : Keeps sessionKinds (Prog.withLock (M := machine P) .vault
      (unlockWithCore context.key (coreUnlock (P := P) password))) ∅ :=
    Keeps.withLock (by simp) (unlockWithCore_keeps (by simp))
  have hfailed (outcome : ExecutionOutcome) : KeepsLoosely lifecycleKinds
      (unlockFailed outcome : Code P _) ∅ :=
    (unlockFailed_keeps (.inl (by simp))).mono (by simp)
  refine hcore.loosely.seq (by decide) fun unlocked => ?_
  refine wp_plain rfl rfl fun cancelled => ?_
  refine (wp_ite (M := machine P)).mpr ⟨fun _ => hfailed .cancelled, fun _ => ?_⟩
  refine pastDeadline_keeps.loosely.first fun late => ?_
  exact (wp_ite (M := machine P)).mpr
    ⟨fun _ => hfailed .deadline, fun _ => finishUnlock_keeps (by simp)⟩

/-! ## Locking -/

theorem beginLock_keeps (hH : Below H .commitGate) :
    Keeps sessionKinds (beginLock : Code P _) H := by
  have hcancellations : Below (insert .commitGate H) .cancellations := by
    simpa [Mutex.rank] using hH.mono (by simp [Mutex.rank])
  refine Keeps.withLock hH ⟨within_of {.commitGate} .lifecycle rfl rfl (by simp) (by simp),
    fun taken => wp_leave fun _ => ?_⟩
  refine wp_plain rfl rfl fun state => wp_free .lifecycle (by simp) rfl rfl fun _ => ?_
  refine (advanceEpoch_keeps (by simp) hcancellations).seq (by simp) fun result => ?_
  cases result with
  | error e => exact wp_free .lifecycle (by simp) rfl rfl fun _ => rfl
  | ok u => rfl

theorem settleLock_keeps {target : AgentState} :
    Keeps sessionKinds (settleLock target : Code P _) H := by
  refine wp_plain rfl rfl fun state => ?_
  exact (wp_ite (M := machine P)).mpr ⟨fun _ => wp_free .lifecycle (by simp) rfl rfl
    fun _ => rfl, fun _ => rfl⟩

theorem lockVault_keeps : KeepsLoosely sessionKinds (lockVault : Code P _) ∅ := by
  refine (beginLock_keeps (by simp)).loosely.seq (by simp) fun result => ?_
  cases result with
  | error outcome => rfl
  | ok target =>
  refine KeepsLoosely.withLock (.inl (by simp)) (KeepsLoosely.withLock
    (.inl (by simp [Mutex.rank])) ?_)
  refine (lockVaultAgent_keeps (.inl (by simp [Mutex.rank]))).seq (by simp) fun _ => ?_
  exact settleLock_keeps.loosely.seq (by simp) fun _ => rfl

end Librarian.Agent
