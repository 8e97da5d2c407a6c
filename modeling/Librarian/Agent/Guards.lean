import Librarian.Agent.Dispatch
import Librarian.Agent.Frames

/-!
# What the operations touch, and under which mutexes

One pass over all programs. For each it says which kinds of actions it performs, that it holds the
mutexes that guard them, that it takes mutexes in the order of their ranks, and that it gives back
what it has taken. Two operations take the vault mutex under the commit gate, against the order:
the publication of a created vault or of an unlock, and the removal of Windows Hello. They are
checked against the weaker `Loosely`.
-/

namespace Librarian.Agent

open Conc Librarian.Core Librarian.Protocol

/-- The order in which the operations nest the mutexes. -/
def Mutex.rank : Mutex → ℕ
  | .creationGate => 0
  | .windowsHelloGate => 1
  | .passkeyCleanupGate => 2
  | .vault => 3
  | .commitGate => 4
  | .ownedVaults => 5
  | .idempotency => 6
  | .browserLeases => 7
  | .pendingPasskeyCreations => 8
  | .cancellations => 9

/-- A mutex comes after all that are in hand. -/
def Below (H : Finset Mutex) (m : Mutex) : Prop := ∀ held ∈ H, held.rank < m.rank

/-- A mutex comes after all that are in hand, or it is the vault's under the commit gate. -/
def Loosely (H : Finset Mutex) (m : Mutex) : Prop :=
  Below H m ∨ m = .vault ∧ .commitGate ∈ H ∧ .vault ∉ H

@[simp]
theorem below_empty (m : Mutex) : Below ∅ m := by
  simp [Below]

@[simp]
theorem below_insert {m m' : Mutex} {H : Finset Mutex} :
    Below (insert m' H) m ↔ m'.rank < m.rank ∧ Below H m := by
  simp [Below]

@[simp]
theorem below_singleton {m m' : Mutex} : Below {m'} m ↔ m'.rank < m.rank := by
  simp [Below]

theorem Below.notMem {m : Mutex} {H : Finset Mutex} (h : Below H m) : m ∉ H :=
  fun hmem => lt_irrefl _ (h m hmem)

theorem Below.mono {m m' : Mutex} {H : Finset Mutex} (h : Below H m) (hm : m.rank ≤ m'.rank) :
    Below H m' :=
  fun held hmem => (h held hmem).trans_le hm

variable {P : Primitives} {α β : Type}

/-- An action of some kinds, or a plain one, performed under its mutexes. -/
def within (K : Finset Kind) (H : Finset Mutex) (a : Action P) : Prop :=
  a.guard ⊆ H ∧ a.kind ∈ insert .plain K

/-- A program of such actions that takes mutexes in order. -/
def Keeps (K : Finset Kind) (p : Code P α) (H : Finset Mutex) : Prop :=
  Guarded (M := machine P) (within K) Below p H

/-- A program of such actions that may take the vault mutex against the order. -/
def KeepsLoosely (K : Finset Kind) (p : Code P α) (H : Finset Mutex) : Prop :=
  Guarded (M := machine P) (within K) Loosely p H

section

variable {K K' : Finset Kind} {H : Finset Mutex} {p : Code P α} {a : Action P}

theorem within_mono (hK : K ⊆ K') (H : Finset Mutex) (a : Action P) (h : within K H a) :
    within K' H a :=
  ⟨h.1, Finset.insert_subset_insert _ hK h.2⟩

/-- A plain action by its mutexes. -/
theorem within_plain {G : Finset Mutex} (hguard : a.guard = G) (hkind : a.kind = .plain)
    (hG : G ⊆ H) : within K H a :=
  ⟨hguard ▸ hG, hkind ▸ Finset.mem_insert_self _ _⟩

/-- An action by its mutexes and its kind. -/
theorem within_of (G : Finset Mutex) (kind : Kind) (hguard : a.guard = G) (hkind : a.kind = kind)
    (hK : kind ∈ K) (hG : G ⊆ H) : within K H a :=
  ⟨hguard ▸ hG, hkind ▸ Finset.mem_insert_of_mem hK⟩

theorem Keeps.mono (h : Keeps K p H) (hK : K ⊆ K') : Keeps K' p H :=
  wp_guards_mono h (within_mono hK) fun _ _ h => h

theorem KeepsLoosely.mono (h : KeepsLoosely K p H) (hK : K ⊆ K') : KeepsLoosely K' p H :=
  wp_guards_mono h (within_mono hK) fun _ _ h => h

theorem Keeps.loosely (h : Keeps K p H) : KeepsLoosely K p H :=
  wp_guards_mono h (fun _ _ h => h) fun _ _ h => .inl h

/-- A part that keeps the order, and then the rest. -/
theorem Keeps.seq {f : α → Code P β} {Q : β → Unit → Finset Mutex → Prop}
    (hp : Keeps K p H) (hK : K ⊆ K')
    (hf : ∀ a, wp (M := machine P) (guards (within K') Below) (f a) Q () H) :
    wp (M := machine P) (guards (within K') Below) (p.bind f) Q () H :=
  Guarded.seq (hp.mono hK) hf

theorem KeepsLoosely.seq {f : α → Code P β} {Q : β → Unit → Finset Mutex → Prop}
    (hp : KeepsLoosely K p H) (hK : K ⊆ K')
    (hf : ∀ a, wp (M := machine P) (guards (within K') Loosely) (f a) Q () H) :
    wp (M := machine P) (guards (within K') Loosely) (p.bind f) Q () H :=
  Guarded.seq (hp.mono hK) hf

/-- A part of plain actions, and then the rest. -/
theorem Keeps.first {f : α → Code P β} {Q : β → Unit → Finset Mutex → Prop} (hp : Keeps ∅ p H)
    (hf : ∀ a, wp (M := machine P) (guards (within K) Below) (f a) Q () H) :
    wp (M := machine P) (guards (within K) Below) (p.bind f) Q () H :=
  hp.seq (Finset.empty_subset K) hf

theorem KeepsLoosely.first {f : α → Code P β} {Q : β → Unit → Finset Mutex → Prop}
    (hp : KeepsLoosely ∅ p H)
    (hf : ∀ a, wp (M := machine P) (guards (within K) Loosely) (f a) Q () H) :
    wp (M := machine P) (guards (within K) Loosely) (p.bind f) Q () H :=
  hp.seq (Finset.empty_subset K) hf

/-- A part under a mutex. -/
theorem Keeps.withLock {m : Mutex} (hm : Below H m) (hp : Keeps K p (insert m H)) :
    Keeps K (Prog.withLock (M := machine P) m p) H := by
  refine (wp_withLock (M := machine P)).mpr ⟨hm, fun hfree => wp_mono hp fun a _ H' hH => ?_⟩
  subst hH
  exact ⟨Finset.mem_insert_self _ _, trivial, Finset.erase_insert hfree⟩

theorem KeepsLoosely.withLock {m : Mutex} (hm : Loosely H m)
    (hp : KeepsLoosely K p (insert m H)) :
    KeepsLoosely K (Prog.withLock (M := machine P) m p) H := by
  refine (wp_withLock (M := machine P)).mpr ⟨hm, fun hfree => wp_mono hp fun a _ H' hH => ?_⟩
  subst hH
  exact ⟨Finset.mem_insert_self _ _, trivial, Finset.erase_insert hfree⟩

/-- One action. -/
theorem keeps_act (h : within K H a) : Keeps K (act a) H := ⟨h, fun _ => rfl⟩

/-- A plain action that needs no mutex, and then the rest. -/
theorem wp_plain {k : a.Result → Code P α} {Q : α → Unit → Finset Mutex → Prop}
    {L : Finset Mutex → Mutex → Prop} (hguard : a.guard = ∅) (hkind : a.kind = .plain)
    (hk : ∀ r, wp (M := machine P) (guards (within K) L) (k r) Q () H) :
    wp (M := machine P) (guards (within K) L) (.call a k) Q () H :=
  ⟨within_plain hguard hkind (Finset.empty_subset H), hk⟩

/-- An action of some kind that needs no mutex, and then the rest. -/
theorem wp_free {k : a.Result → Code P α} {Q : α → Unit → Finset Mutex → Prop}
    {L : Finset Mutex → Mutex → Prop} (kind : Kind) (hK : kind ∈ K) (hguard : a.guard = ∅)
    (hkind : a.kind = kind)
    (hk : ∀ r, wp (M := machine P) (guards (within K) L) (k r) Q () H) :
    wp (M := machine P) (guards (within K) L) (.call a k) Q () H :=
  ⟨within_of ∅ kind hguard hkind hK (Finset.empty_subset H), hk⟩

/-- A test that leaves the program. -/
theorem wp_leave {G : Finset Mutex → Action P → Prop} {L : Finset Mutex → Mutex → Prop}
    {c : Prop} [Decidable c] {a : α} {p : Code P α}
    (hp : ¬c → wp (M := machine P) (guards G L) p (fun _ _ H' => H' = H) () H) :
    wp (M := machine P) (guards G L) (if c then .ret a else p) (fun _ _ H' => H' = H) () H :=
  (wp_ite (M := machine P)).mpr ⟨fun _ => rfl, hp⟩

end

/-! ## Checks -/

section

variable {H : Finset Mutex} {context : RequestContext}

theorem pastDeadline_keeps {deadline : ℕ} : Keeps ∅ (pastDeadline deadline : Code P Bool) H := by
  exact wp_plain rfl rfl fun now => rfl

theorem notUnlockedAt_keeps {unlock_epoch : ℕ} :
    Keeps ∅ (notUnlockedAt unlock_epoch : Code P Bool) H := by
  refine wp_plain rfl rfl fun state => wp_leave fun _ => ?_
  exact wp_plain rfl rfl fun epoch => rfl

theorem preSecretOperation_keeps :
    Keeps ∅ (preSecretOperation context : Code P _) H := by
  refine wp_plain rfl rfl fun active => wp_leave fun _ => ?_
  refine wp_plain rfl rfl fun cancelled => wp_leave fun _ => ?_
  refine Guarded.seq pastDeadline_keeps fun late => wp_leave fun _ => ?_
  exact Guarded.seq notUnlockedAt_keeps fun outdated => wp_leave fun _ => rfl

theorem secretOperationShouldAbort_keeps :
    Keeps ∅ (secretOperationShouldAbort context : Code P Bool) H := by
  refine wp_plain rfl rfl fun active => wp_leave fun _ => ?_
  refine wp_plain rfl rfl fun cancelled => wp_leave fun _ => ?_
  exact Guarded.seq pastDeadline_keeps fun late => wp_leave fun _ => notUnlockedAt_keeps

theorem postSecretOperation_keeps (hvault : .vault ∈ H) :
    Keeps {.secret} (postSecretOperation context : Code P _) H := by
  have hlocked : Keeps ∅ (lockedMeanwhile context.unlock_epoch : Code P Bool) H :=
    wp_plain rfl rfl fun active => wp_leave fun _ => notUnlockedAt_keeps
  refine hlocked.first fun locked => (wp_ite (M := machine P)).mpr ⟨fun _ => ?_, fun _ => ?_⟩
  · refine ⟨within_of {.vault} .secret rfl rfl (by simp) (by simpa using hvault), fun _ => ?_⟩
    exact wp_free .secret (by simp) rfl rfl fun _ => rfl
  · refine wp_plain rfl rfl fun cancelled => wp_leave fun _ => ?_
    exact pastDeadline_keeps.first fun late => wp_leave fun _ => rfl

theorem abortAfterCore_keeps (hvault : .vault ∈ H) :
    Keeps {.secret} (abortAfterCore context : Code P _) H := by
  refine (postSecretOperation_keeps hvault).seq (by simp) fun outcome => ?_
  cases outcome <;> rfl

theorem advanceEpoch_keeps (hgate : .commitGate ∈ H) (hH : Below H .cancellations) :
    Keeps {.secret} (advanceEpoch : Code P _) H := by
  refine ⟨within_of {.commitGate} .secret rfl rfl (by simp) (by simpa using hgate),
    fun result => ?_⟩
  cases result with
  | error e => rfl
  | ok u =>
    have hcancel : Keeps {.secret} (act .cancelAll : Code P _) (insert .cancellations H) :=
      keeps_act (within_of {.commitGate, .cancellations} .secret rfl rfl (by simp)
        (by simp [Finset.insert_subset_iff, hgate]))
    exact (hcancel.withLock hH).seq (by simp) fun _ => rfl

/-- The operations that begin with the check. -/
theorem checkingFirst_keeps {K : Finset Kind} {body : Code P Outcome} (hbody : Keeps K body H) :
    Keeps K (checkingFirst context body) H := by
  refine preSecretOperation_keeps.first fun outcome => ?_
  cases outcome with
  | none => exact hbody
  | some outcome => rfl

/-- The accesses to a flag other than the Lock's. -/
theorem flag_within {K : Finset Kind} {flag : Flag} (hflag : flag ≠ .lock) :
    within (P := P) K H (.acquireActive flag) ∧
      within (P := P) K H (.storeActive flag false) := by
  cases flag with
  | lock => exact absurd rfl hflag
  | kdf | mutation | windowsHello =>
    exact ⟨within_plain rfl rfl (Finset.empty_subset H),
      within_plain rfl rfl (Finset.empty_subset H)⟩

theorem withFlag_keeps {K : Finset Kind} {flag : Flag} {body : Code P Outcome}
    (hflag : flag ≠ .lock) (hbody : Keeps K body H) : Keeps K (withFlag flag body) H := by
  refine ⟨(flag_within hflag).1, fun taken => ?_⟩
  cases taken with
  | false => rfl
  | true =>
    exact hbody.seq (Finset.Subset.refl K) fun outcome => ⟨(flag_within hflag).2, fun _ => rfl⟩

end

/-! ## Reads -/

section

variable {H : Finset Mutex} {context : RequestContext}

/-- The mutexes in hand after one has been taken and given back. -/
theorem released {m : Mutex} (hfree : m ∉ H) :
    m ∈ insert m H ∧ True ∧ (insert m H).erase m = H :=
  ⟨Finset.mem_insert_self m H, trivial, Finset.erase_insert hfree⟩

theorem publishFailure_keeps (hH : Below H .commitGate) :
    Keeps {.secret} (publishFailure : Code P _) H := by
  refine Keeps.withLock hH (wp_free .secret (by simp) rfl rfl fun _ => ?_)
  have hcancellations : Below (insert .commitGate H) .cancellations := by
    simpa [Mutex.rank] using hH.mono (by simp [Mutex.rank])
  refine (advanceEpoch_keeps (Finset.mem_insert_self _ _) hcancellations).seq (by simp)
    fun result => ?_
  cases result <;> rfl

theorem accountErrorAfterCore_keeps {error : AccountError} (hH : Below H .vault) :
    wp (M := machine P) (guards (within {.secret}) Below) (accountErrorAfterCore error)
      (fun _ _ H' => H' = H) () (insert .vault H) := by
  unfold accountErrorAfterCore
  split_ifs with herror
  · exact released hH.notMem
  · refine ⟨within_of {.vault} .secret rfl rfl (by simp) (by simp), fun _ => ?_⟩
    refine ⟨Finset.mem_insert_self _ _, trivial, ?_⟩
    rw [Finset.erase_insert hH.notMem]
    exact (publishFailure_keeps (hH.mono (by simp [Mutex.rank]))).mono (by simp)

theorem authenticatedReadErrorAfterCore_keeps {error : AccountError} (hH : Below H .vault) :
    wp (M := machine P) (guards (within {.secret}) Below)
      (authenticatedReadErrorAfterCore context error) (fun _ _ H' => H' = H) ()
      (insert .vault H) := by
  unfold authenticatedReadErrorAfterCore
  split_ifs with herror
  · exact accountErrorAfterCore_keeps hH
  · exact (postSecretOperation_keeps (Finset.mem_insert_self _ _)).seq (by simp)
      fun _ => released hH.notMem

theorem readVault_keeps {query : Query P α} {respond : α → Outcome} (hH : Below H .vault) :
    Keeps {.secret} (readVault context query respond) H := by
  refine ⟨hH, fun hfree => preSecretOperation_keeps.first fun outcome => ?_⟩
  cases outcome with
  | some outcome => exact released hfree
  | none =>
    have hvault : Mutex.vault ∈ insert Mutex.vault H := Finset.mem_insert_self _ _
    refine ⟨within_of {.vault} .secret rfl rfl (by simp) (by simp), fun result => ?_⟩
    cases result with
    | ok value => exact (postSecretOperation_keeps hvault).seq (by simp) fun _ => released hfree
    | error error =>
      cases error with
      | aborted => exact (abortAfterCore_keeps hvault).seq (by simp) fun _ => released hfree
      | locked => exact authenticatedReadErrorAfterCore_keeps hH
      | notFound => exact authenticatedReadErrorAfterCore_keeps hH
      | conflict => exact authenticatedReadErrorAfterCore_keeps hH
      | failed => exact authenticatedReadErrorAfterCore_keeps hH

theorem listAccounts_keeps {offset : UInt32} {limit : UInt16} (hH : Below H .vault) :
    Keeps {.secret} (listAccounts context offset limit : Code P _) H :=
  checkingFirst_keeps (readVault_keeps hH)

theorem getAccount_keeps {id : RecordId} (hH : Below H .vault) :
    Keeps {.secret} (getAccount context id : Code P _) H :=
  checkingFirst_keeps (readVault_keeps hH)

theorem listPasskeys_keeps (hH : Below H .vault) :
    Keeps {.secret} (Librarian.Agent.listPasskeys context : Code P _) H :=
  checkingFirst_keeps (readVault_keeps hH)

theorem listPasskeysForAssertion_keeps (hH : Below H .vault) :
    Keeps {.secret} (listPasskeysForAssertion context : Code P _) H := by
  refine checkingFirst_keeps (wp_plain rfl rfl fun verified => ?_)
  cases verified with
  | error error => rfl
  | ok verified => exact readVault_keeps hH

end

/-! ## Writes -/

section

variable {H : Finset Mutex} {context : RequestContext}

theorem stillAuthorized_keeps : Keeps ∅ (stillAuthorized context : Code P Bool) H := by
  refine wp_plain rfl rfl fun epoch => wp_leave fun _ => ?_
  refine wp_plain rfl rfl fun active => wp_leave fun _ => ?_
  refine wp_plain rfl rfl fun cancelled => wp_leave fun _ => ?_
  exact Guarded.seq pastDeadline_keeps fun late => rfl

/-- The mutexes in hand after a mutation: the commit gate comes with a success. -/
def afterMutation (H : Finset Mutex) {β : Type} : Except AccountError β → Finset Mutex
  | .ok _ => insert .commitGate H
  | .error _ => H

theorem persistMutation_keeps {origin : Origin} {permit : OperationPermit}
    {prepared : PreparedRecordMutation} {check : Code P Bool} {K : Finset Kind}
    (hK : {.secret, .write} ⊆ K) (hvault : .vault ∈ H) (hgate : Below H .commitGate)
    (hcheck : Keeps K check (insert .commitGate H)) :
    wp (M := machine P) (guards (within K) Below) (persistMutation origin permit prepared check)
      (fun result _ H' => H' = afterMutation H result) () H := by
  have hlock : ∀ H', .vault ∈ H' → within (P := P) K H' .vaultLock := fun H' hH' =>
    within_of {.vault} .secret rfl rfl (hK (by simp)) (by simpa using hH')
  have hwrite : ∀ (a : Action P) (kind : Kind), a.guard = {.vault, .commitGate} → a.kind = kind →
      kind ∈ K → within K (insert .commitGate H) a := fun a kind hguard hkind hmem =>
    within_of _ kind hguard hkind hmem (by simp [Finset.insert_subset_iff, hvault])
  refine ⟨within_plain (G := {.vault}) rfl rfl (by simpa using hvault), fun authorized => ?_⟩
  cases authorized with
  | false => rfl
  | true =>
  refine wp_plain rfl rfl fun staged => ?_
  cases staged with
  | false => exact ⟨hlock H hvault, fun _ => rfl⟩
  | true =>
  refine ⟨hgate, fun hfree => hcheck.seq (Finset.Subset.refl K) fun passed => ?_⟩
  cases passed with
  | false => exact released hfree
  | true =>
  refine ⟨hwrite _ .write rfl rfl (hK (by simp)), fun committed => ?_⟩
  cases committed with
  | false => exact ⟨hlock _ (Finset.mem_insert_of_mem hvault), fun _ => released hfree⟩
  | true =>
  refine ⟨hwrite _ .secret rfl rfl (hK (by simp)), fun applied => ?_⟩
  cases applied with
  | error error => exact released hfree
  | ok id => rfl

theorem mutateVault_keeps {origin : Origin} {change : Change P α} {should_cancel : Code P Bool}
    {check : Code P Bool} {K : Finset Kind} (hK : {.secret, .write} ⊆ K)
    (hvault : .vault ∈ H) (hgate : Below H .commitGate) (hcancel : Keeps ∅ should_cancel H)
    (hcheck : Keeps K check (insert .commitGate H)) :
    wp (M := machine P) (guards (within K) Below) (mutateVault origin change should_cancel check)
      (fun result _ H' => H' = afterMutation H result) () H := by
  refine ⟨within_of {.vault} .secret rfl rfl (hK (by simp)) (by simpa using hvault),
    fun result => ?_⟩
  cases result with
  | error error => rfl
  | ok value =>
  obtain ⟨permit, prepared, value⟩ := value
  have hagain : Keeps ∅ (cancelledAgain change should_cancel) H := by
    unfold cancelledAgain
    split_ifs
    · exact hcancel
    · rfl
  refine hagain.first fun cancelled => ?_
  cases cancelled with
  | true => rfl
  | false =>
  refine wp.seq (persistMutation_keeps hK hvault hgate hcheck) fun result _ H' hH' => ?_
  subst hH'
  cases result <;> rfl

theorem mutationFailed_keeps {error : AccountError} (hH : Below H .vault) :
    wp (M := machine P) (guards (within {.secret}) Below)
      (mutationFailed context error) (fun _ _ H' => H' = H) () (insert .vault H) := by
  have hvault : Mutex.vault ∈ insert Mutex.vault H := Finset.mem_insert_self _ _
  unfold mutationFailed
  cases error with
  | aborted => exact Guarded.seq (abortAfterCore_keeps hvault) fun _ => released hH.notMem
  | failed => exact accountErrorAfterCore_keeps hH
  | locked => exact Guarded.seq (postSecretOperation_keeps hvault) fun _ => released hH.notMem
  | notFound => exact Guarded.seq (postSecretOperation_keeps hvault) fun _ => released hH.notMem
  | conflict => exact Guarded.seq (postSecretOperation_keeps hvault) fun _ => released hH.notMem

/-- The mutexes in hand after the vault and the commit gate have been taken and given back. -/
theorem released_both (hH : Below H .vault) :
    Mutex.vault ∈ insert Mutex.commitGate (insert Mutex.vault H) ∧ True ∧
      Mutex.commitGate ∈ (insert Mutex.commitGate (insert Mutex.vault H)).erase .vault ∧ True ∧
      ((insert Mutex.commitGate (insert Mutex.vault H)).erase .vault).erase .commitGate = H := by
  have hvault := hH.notMem
  have hgate : Mutex.commitGate ∉ H := (hH.mono (by simp [Mutex.rank])).notMem
  refine ⟨by simp, trivial, by simp, trivial, ?_⟩
  rw [Finset.erase_insert_of_ne (by simp), Finset.erase_insert hvault, Finset.erase_insert hgate]

theorem writeVault_keeps {change : Change P α} {check : Code P Bool}
    {finish : α → RecordId → Code P Outcome} {K : Finset Kind} (hH : Below H .vault)
    (hK : {.secret, .write} ⊆ K)
    (hcheck : Keeps K check (insert .commitGate (insert .vault H)))
    (hfinish : ∀ value id, Keeps K (finish value id) (insert .commitGate (insert .vault H))) :
    Keeps K (writeVault context change check finish) H := by
  have hgate : Below (insert .vault H) .commitGate := by
    simpa [Mutex.rank] using hH.mono (by simp [Mutex.rank])
  refine ⟨hH, fun hfree => preSecretOperation_keeps.first fun outcome => ?_⟩
  cases outcome with
  | some outcome => exact released hfree
  | none =>
  refine wp.seq (mutateVault_keeps hK (Finset.mem_insert_self .vault H) hgate
    secretOperationShouldAbort_keeps hcheck) fun result _ H' hH' => ?_
  subst hH'
  cases result with
  | error error =>
    have hsecret : ({.secret} : Finset Kind) ⊆ K := by simpa using hK (by simp : .secret ∈ _)
    exact wp_guards_mono (mutationFailed_keeps hH) (within_mono hsecret) fun _ _ h => h
  | ok value =>
    exact Guarded.seq (hfinish value.1 value.2) fun _ => released_both hH

theorem writeAccount_keeps {change : Change P Unit} {body : RecordId → Body}
    (hH : Below H .vault) : Keeps {.secret, .write} (writeAccount context change body) H :=
  writeVault_keeps hH (by simp) (stillAuthorized_keeps.mono (by simp)) fun _ _ =>
    ⟨within_of {.vault, .commitGate} .secret rfl rfl (by simp)
      (by simp [Finset.insert_subset_iff]), fun _ => rfl⟩

theorem addAccount_keeps {fields : AccountFields} :
    Keeps {.secret, .write} (addAccount context fields : Code P _) ∅ := by
  refine withFlag_keeps (by simp) (checkingFirst_keeps ?_)
  cases accountInput P fields with
  | none => rfl
  | some input => exact writeAccount_keeps (by simp)

theorem updateAccount_keeps {id : RecordId} {fields : AccountFields} :
    Keeps {.secret, .write} (updateAccount context id fields : Code P _) ∅ := by
  refine withFlag_keeps (by simp) (checkingFirst_keeps ?_)
  cases accountInput P fields with
  | none => rfl
  | some input => exact writeAccount_keeps (by simp)

theorem deleteAccount_keeps {id : RecordId} :
    Keeps {.secret, .write} (deleteAccount context id : Code P _) ∅ :=
  withFlag_keeps (by simp) (checkingFirst_keeps (writeAccount_keeps (by simp)))

theorem deletePasskey_keeps {credential_id : Bytes 32} :
    Keeps {.secret, .write} (deletePasskey context credential_id : Code P _) ∅ :=
  withFlag_keeps (by simp) (checkingFirst_keeps (writeVault_keeps (by simp) (by simp)
    (stillAuthorized_keeps.mono (by simp)) fun _ _ => rfl))

theorem getPasskeyAssertion_keeps {credential_id : Bytes 32} :
    Keeps {.secret, .write} (getPasskeyAssertion context credential_id : Code P _) ∅ := by
  refine checkingFirst_keeps (wp_plain rfl rfl fun verified => ?_)
  cases verified with
  | error error => rfl
  | ok verified =>
    exact withFlag_keeps (by simp) (checkingFirst_keeps (writeVault_keeps (by simp) (by simp)
      (stillAuthorized_keeps.mono (by simp)) fun _ _ => rfl))

/-! ## Pending creations -/

theorem pending_keeps {a : Action P} (hguard : a.guard = {.pendingPasskeyCreations})
    (hkind : a.kind = .creation) (hH : Below H .pendingPasskeyCreations) :
    Keeps {.creation} (Prog.withLock (M := machine P) .pendingPasskeyCreations (act a)) H :=
  Keeps.withLock hH (keeps_act (within_of _ .creation hguard hkind (by simp) (by simp)))

theorem getPending_keeps {key : PendingPasskeyCreationKey} (hH : Below H .pendingPasskeyCreations) :
    Keeps {.creation} (getPending key : Code P _) H :=
  pending_keeps rfl rfl hH

theorem rollbackAuthorized_keeps {unlock_epoch : ℕ} {key : PendingPasskeyCreationKey}
    {pending : PendingPasskeyCreation} (hH : Below H .pendingPasskeyCreations) :
    Keeps {.creation} (rollbackAuthorized unlock_epoch key pending : Code P _) H := by
  refine (getPending_keeps hH).seq (by simp) fun current => wp_plain rfl rfl fun epoch => ?_
  exact wp_leave fun _ => wp_plain rfl rfl fun active => wp_leave fun _ => rfl

theorem rollbackShouldAbort_keeps {unlock_epoch : ℕ} :
    Keeps ∅ (rollbackShouldAbort unlock_epoch : Code P _) H := by
  refine wp_plain rfl rfl fun epoch => wp_leave fun _ => ?_
  exact wp_plain rfl rfl fun active => rfl

theorem rollbackOutdated_keeps {unlock_epoch : ℕ} :
    Keeps ∅ (rollbackOutdated unlock_epoch : Code P _) H := by
  exact wp_plain rfl rfl fun state => wp_leave fun _ => rollbackShouldAbort_keeps

theorem notUnlocked_keeps : Keeps ∅ (notUnlocked : Code P _) H := by
  refine wp_plain rfl rfl fun state => wp_leave fun _ => ?_
  exact wp_plain rfl rfl fun active => rfl

theorem removePending_keeps {key : PendingPasskeyCreationKey} {pending : PendingPasskeyCreation}
    (hH : Below H .pendingPasskeyCreations) :
    Keeps {.creation} (removePending key pending : Code P _) H := by
  refine (pending_keeps rfl rfl hH).seq (by simp) fun removed => ?_
  simp

/-- What the rollback of a creation and the operations on pending creations consist of. -/
@[simp]
def creationKinds : Finset Kind := {.secret, .write, .creation}

theorem rollbackRound_keeps {key : PendingPasskeyCreationKey} {pending : PendingPasskeyCreation}
    {unlock_epoch : ℕ} (hH : Below H .vault) :
    Keeps creationKinds (rollbackRound key pending unlock_epoch : Code P _) H := by
  have hgate : Below (insert .vault H) .commitGate := by
    simpa [Mutex.rank] using hH.mono (by simp [Mutex.rank])
  have hpending : Below (insert .vault H) .pendingPasskeyCreations := hgate.mono (by simp [Mutex.rank])
  have hpending' : Below (insert .commitGate (insert .vault H)) .pendingPasskeyCreations := by
    simpa [Mutex.rank] using hpending
  refine ⟨hH, fun hfree => rollbackOutdated_keeps.first fun outdated => ?_⟩
  cases outdated with
  | true => exact released hfree
  | false =>
  refine wp.seq (mutateVault_keeps (by decide) (Finset.mem_insert_self .vault H) hgate
    rollbackShouldAbort_keeps ((rollbackAuthorized_keeps hpending').mono (by decide)))
    fun result _ H' hH' => ?_
  subst hH'
  cases result with
  | ok value =>
    refine (removePending_keeps hpending').seq (by decide) fun removed => ?_
    obtain ⟨hv, -, hg, -, heq⟩ := released_both hH
    refine ⟨hv, trivial, hg, trivial, ?_⟩
    rw [heq]
    cases removed <;> rfl
  | error error =>
    cases error with
    | notFound =>
      refine (removePending_keeps hpending).seq (by decide) fun removed => ?_
      refine ⟨Finset.mem_insert_self _ _, trivial, ?_⟩
      rw [Finset.erase_insert hfree]
      cases removed <;> rfl
    | aborted => exact released hfree
    | locked => exact released hfree
    | conflict => exact released hfree
    | failed =>
      refine wp.seq (wp_guards_mono (accountErrorAfterCore_keeps hH) (within_mono (by decide))
        fun _ _ h => h) fun outcome _ H' hH' => ?_
      subst hH'
      cases outcome <;> rfl

theorem rollbackLoop_keeps {rounds : ℕ} (hH : Below H .vault) :
    Keeps creationKinds (rollbackLoop rounds : Code P _) H := by
  induction rounds with
  | zero => trivial
  | succ rounds ih =>
    have hpending : Below H .pendingPasskeyCreations := hH.mono (by simp [Mutex.rank])
    refine (pending_keeps rfl rfl hpending).seq (by decide) fun candidate => ?_
    cases candidate with
    | none => rfl
    | some candidate =>
    refine notUnlocked_keeps.first fun stopped => ?_
    cases stopped with
    | true => rfl
    | false =>
    refine wp_plain rfl rfl fun removed => ?_
    simp only [Prog.ret_bind]
    by_cases hremoved : removed.toOption = none
    · rw [if_pos hremoved]
      rfl
    rw [if_neg hremoved]
    refine wp_plain rfl rfl fun unlock_epoch => ?_
    refine (rollbackRound_keeps hH).seq (by decide) fun round => ?_
    cases round with
    | again => exact ih
    | done result => rfl

theorem rollbackDisconnectedPasskeyCreations_keeps {rounds : ℕ} :
    Keeps creationKinds (rollbackDisconnectedPasskeyCreations rounds : Code P _) ∅ :=
  Keeps.withLock (by simp) (rollbackLoop_keeps (by simp [Mutex.rank]))

theorem makePasskey_keeps {rounds : ℕ} {proof : PasskeyTransactionProof} :
    Keeps creationKinds (makePasskey rounds context proof : Code P _) ∅ := by
  refine checkingFirst_keeps ?_
  refine rollbackDisconnectedPasskeyCreations_keeps.seq (by decide) fun result => ?_
  cases result with
  | error e => rfl
  | ok done =>
  cases done with
  | false => rfl
  | true =>
  refine wp_plain rfl rfl fun verified => ?_
  cases verified with
  | error error => rfl
  | ok verified =>
  refine (getPending_keeps (by simp)).seq (by decide) fun existing => ?_
  by_cases hexisting : existing.isSome
  · rw [if_pos hexisting]
    rfl
  rw [if_neg hexisting]
  refine withFlag_keeps (by simp) (checkingFirst_keeps ?_)
  cases (PasskeyInput.new P verified.rp_id verified.user_handle verified.user_name
    verified.user_display_name).toOption with
  | none => rfl
  | some input =>
  refine writeVault_keeps (by simp) (by decide) (stillAuthorized_keeps.mono (by decide))
    fun credential _ => ?_
  refine (pending_keeps rfl rfl (by simp [Mutex.rank])).seq (by decide) fun previous => ?_
  cases previous <;> rfl

/-- The operations on a creation that its client names. -/
theorem withPending_keeps {proof : PasskeyTransactionProof}
    {accepts : PendingPasskeyCreation → Bool}
    {body : PendingPasskeyCreationKey → PendingPasskeyCreation → Code P Outcome}
    (hbody : ∀ key expected, Keeps creationKinds (body key expected) ∅) :
    Keeps creationKinds (withPending context proof accepts body) ∅ := by
  refine checkingFirst_keeps (wp_plain rfl rfl fun verified => ?_)
  cases verified with
  | error error => rfl
  | ok verified =>
  refine (getPending_keeps (by simp)).seq (by decide) fun expected => ?_
  cases expected with
  | none => rfl
  | some expected =>
    by_cases haccepts : accepts expected = true
    · simp only [haccepts, if_true]
      exact hbody _ _
    · simp only [haccepts]
      rfl

theorem confirmPasskeyCreation_keeps {proof : PasskeyTransactionProof} {credential_id : Bytes 32} :
    Keeps creationKinds (confirmPasskeyCreation context proof credential_id : Code P _) ∅ := by
  refine withPending_keeps fun key expected => ?_
  refine withFlag_keeps (by simp) (checkingFirst_keeps ?_)
  refine writeVault_keeps (by simp) (by decide) ?_ fun _ _ => ?_
  · refine (getPending_keeps (by simp [Mutex.rank])).seq (by decide) fun current => ?_
    refine stillAuthorized_keeps.first fun authorized => ?_
    cases authorized <;> rfl
  · have hregistry (a : Action P) (hguard : a.guard = {.pendingPasskeyCreations})
        (hkind : a.kind = .creation) : within creationKinds
          (insert .pendingPasskeyCreations (insert .commitGate (insert .vault ∅))) a :=
      within_of _ .creation hguard hkind (by simp) (by simp)
    refine Keeps.withLock (by simp [Mutex.rank]) ⟨hregistry _ rfl rfl, fun current => ?_⟩
    simp only [Prog.ret_bind]
    split_ifs
    · rfl
    · exact ⟨hregistry _ rfl rfl, fun _ => rfl⟩

theorem forgetPending_keeps {key : PendingPasskeyCreationKey} {expected : PendingPasskeyCreation}
    (hH : Below H .pendingPasskeyCreations) :
    Keeps {.creation} (forgetPending key expected : Code P _) H := by
  refine (pending_keeps rfl rfl hH).seq (by simp) fun removed => ?_
  simp

theorem rollbackVault_keeps {credential_id : Bytes 32} {key : PendingPasskeyCreationKey}
    {expected : PendingPasskeyCreation} :
    Keeps creationKinds (rollbackVault context credential_id key expected : Code P _) ∅ := by
  have hempty : Below ∅ Mutex.vault := by simp
  refine ⟨hempty, fun hfree => preSecretOperation_keeps.first fun outcome => ?_⟩
  cases outcome with
  | some outcome => exact released hfree
  | none =>
  refine wp.seq (mutateVault_keeps (by decide) (Finset.mem_insert_self Mutex.vault ∅)
    (by simp [Mutex.rank]) secretOperationShouldAbort_keeps
    (stillAuthorized_keeps.mono (by decide))) fun result _ H' hH' => ?_
  subst hH'
  cases result with
  | ok value =>
    exact (forgetPending_keeps (by simp [afterMutation, Mutex.rank])).seq (by decide)
      fun _ => released_both hempty
  | error error =>
    have hfailed (error : AccountError) : wp (M := machine P) (guards (within creationKinds) Below)
        (mutationFailed context error) (fun _ _ H' => H' = ∅) () (insert .vault ∅) :=
      wp_guards_mono (mutationFailed_keeps hempty) (within_mono (by decide)) fun _ _ h => h
    cases error with
    | notFound =>
      exact (forgetPending_keeps (by simp [afterMutation, Mutex.rank])).seq (by decide)
        fun _ => released hfree
    | aborted => exact hfailed _
    | locked => exact hfailed _
    | conflict => exact hfailed _
    | failed => exact hfailed _

theorem rollbackPasskeyCreation_keeps {proof : PasskeyTransactionProof} {credential_id : Bytes 32} :
    Keeps creationKinds (rollbackPasskeyCreation context proof credential_id : Code P _) ∅ := by
  refine withPending_keeps fun key expected => ?_
  refine withFlag_keeps (by simp) (checkingFirst_keeps ?_)
  refine wp_plain rfl rfl fun removed => ?_
  cases removed with
  | error error => rfl
  | ok removed => exact checkingFirst_keeps rollbackVault_keeps

end

/-! ## Browser fill -/

section

variable {H : Finset Mutex} {request : RequestContext} {context : BrowserContext}

/-- What browser requests consist of. -/
@[simp]
def browserKinds : Finset Kind := {.secret, .lease}

theorem lease_keeps {a : Action P} (hguard : a.guard = {.browserLeases}) (hkind : a.kind = .lease)
    (hH : Below H .browserLeases) :
    Keeps {.lease} (Prog.withLock (M := machine P) .browserLeases (act a)) H :=
  Keeps.withLock hH (keeps_act (within_of _ .lease hguard hkind (by simp) (by simp)))

theorem claimBrowserLease_keeps {selection : Option BrowserSelection}
    (hH : Below H .browserLeases) :
    Keeps {.lease} (claimBrowserLease request context selection : Code P _) H := by
  cases selection with
  | none =>
    refine (lease_keeps rfl rfl hH).seq (by simp) fun claim => ?_
    cases claim <;> rfl
  | some selection =>
    refine (lease_keeps rfl rfl hH).seq (by simp) fun lease => ?_
    cases lease with
    | none => rfl
    | some lease => simp

theorem offerSelection_keeps {generation : ℕ} {account : Option WebsiteAccount}
    (hH : Below H .browserLeases) :
    Keeps browserKinds (offerSelection request context generation account : Code P _) H := by
  cases account with
  | none => rfl
  | some account =>
  refine wp_plain rfl rfl fun token => ?_
  cases token with
  | none => rfl
  | some token =>
  simp only [Prog.ret_bind]
  cases BrowserSelection.new token account.id account.revision with
  | none => rfl
  | some selection =>
  refine (lease_keeps rfl rfl hH).seq (by decide) fun issued => ?_
  simp

theorem browserOutcome_keeps {generation : ℕ} {required : Option BrowserLease}
    {account : Option WebsiteAccount} (hH : Below H .browserLeases) :
    Keeps browserKinds (browserOutcome request context generation required account : Code P _)
      H := by
  cases required with
  | none => exact offerSelection_keeps hH
  | some lease => rfl

theorem browserRead_keeps {required : Option BrowserLease} {origin : BrowserOrigin P}
    (hH : Below H .vault) :
    Keeps browserKinds (browserRead request context required origin) H := by
  have hvault : Mutex.vault ∈ insert Mutex.vault H := Finset.mem_insert_self _ _
  have hleases : Below (insert .vault H) .browserLeases := by
    simpa [Mutex.rank] using hH.mono (by simp [Mutex.rank])
  have hfailed (error : AccountError) : wp (M := machine P) (guards (within browserKinds) Below)
      (authenticatedReadErrorAfterCore request error) (fun _ _ H' => H' = H) ()
      (insert .vault H) :=
    wp_guards_mono (authenticatedReadErrorAfterCore_keeps hH) (within_mono (by decide))
      fun _ _ h => h
  refine ⟨hH, fun hfree => preSecretOperation_keeps.first fun outcome => ?_⟩
  cases outcome with
  | some outcome => exact released hfree
  | none =>
  refine wp_plain rfl rfl fun generation => ?_
  refine (wp_ite (M := machine P)).mpr ⟨fun _ => released hfree, fun _ => ?_⟩
  refine ⟨within_of {.vault} .secret rfl rfl (by simp) (by simp), fun result => ?_⟩
  cases result with
  | error error =>
    cases error with
    | aborted => exact (abortAfterCore_keeps hvault).seq (by decide) fun _ => released hfree
    | locked => exact hfailed _
    | notFound => exact hfailed _
    | conflict => exact hfailed _
    | failed => exact hfailed _
  | ok account =>
  refine (postSecretOperation_keeps hvault).seq (by decide) fun outcome => ?_
  cases outcome with
  | some outcome => exact released hfree
  | none => exact (browserOutcome_keeps hleases).seq (by decide) fun _ => released hfree

theorem browserFill_keeps {selection : Option BrowserSelection} :
    Keeps browserKinds (browserFill request context selection : Code P _) ∅ := by
  refine (claimBrowserLease_keeps (by simp)).seq (by decide) fun admission => ?_
  cases admission with
  | rejected outcome => rfl
  | ready required =>
  dsimp only
  cases BrowserOrigin.parse P context.top_origin with
  | none => rfl
  | some origin =>
  cases BrowserOrigin.parse P context.frame_origin with
  | none => rfl
  | some frame_origin =>
  refine (wp_ite (M := machine P)).mpr ⟨fun _ => rfl, fun _ => ?_⟩
  exact checkingFirst_keeps (browserRead_keeps (by simp))

end

end Librarian.Agent
