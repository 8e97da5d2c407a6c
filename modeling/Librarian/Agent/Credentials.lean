import Librarian.Agent.Lifecycle
import Librarian.Lib.Conc.Environment

/-!
# The credentials of Windows Hello

The platform holds credentials and the state store one record, and neither is part of the agent's
state. `Device` is what they hold, and `Device.Answers` what the runtime relies on: an enrollment
returns a new id, a removal that fails leaves the credential in place, and a save that fails leaves
the store unchanged. The operations hold the gate of Windows Hello while they call either, so they
run one after another; the results of all their other actions are arbitrary.

Between two operations every credential on the platform is referenced by the record, and the active
credential of the record exists. Two things can get in the way, and the history keeps track of both:
an operation that ends with a failure that is not worth a retry may abandon a credential, and a
removal of Windows Hello may remove the credential and fail to remove the record.
-/

namespace Librarian.Agent

open Conc Librarian.Core Librarian.Protocol

variable {P : Primitives}

/-! ## The device -/

/-- What the platform and the store hold, the ids that enrollments have returned, and the credentials
that removals of Windows Hello have removed. -/
structure Device where
  platform : Set (List UInt8)
  store : Option WindowsHelloLocalState
  issued : Set (List UInt8)
  removed : Set (List UInt8)

namespace Device

/-- The record has changed. -/
def withStore (d : Device) (store : Option WindowsHelloLocalState) : Device :=
  { d with store := store }

/-- An enrollment has made a credential. -/
def issue (d : Device) (credential_id : List UInt8) : Device :=
  { d with platform := insert credential_id d.platform, issued := insert credential_id d.issued }

/-- A credential has been removed, by a removal of Windows Hello or by another operation. -/
def drop (d : Device) (removing : Bool) (credential_id : List UInt8) : Device :=
  { d with
    platform := d.platform \ {credential_id}
    removed := if removing then insert credential_id d.removed else d.removed }

/-- The answers that a device may give to a call, with the device afterwards. -/
def Answers (removing : Bool) (d : Device) : (call : HelloCall) → call.Result → Device → Prop
  | .load, .ok state, d' => d.store = some state ∧ d' = d
  | .load, .error error, d' => (error = .notFound → d.store = none) ∧ d' = d
  | .save state, result, d' => d' = if published result then d.withStore (some state) else d
  | .removeState, result, d' =>
    d' = d.withStore none ∨ absent result = false ∧ d' = d
  | .enroll, .ok enrollment, d' =>
    enrollment.credential_id ∉ d.issued ∧ d' = d.issue enrollment.credential_id
  | .enroll, .error (.cleanupRequired credential_id), d' =>
    credential_id ∉ d.issued ∧ d' = d.issue credential_id
  | .enroll, .error _, d' => d' = d
  | .removeCredential credential_id, done, d' =>
    d' = if done then d.drop removing credential_id else d

/-- The record's active credential. -/
def active (d : Device) : Option (List UInt8) := d.store.bind WindowsHelloLocalState.credentialId

/-- The credential that the record wants removed. -/
def pendingRemoval (d : Device) : Option (List UInt8) :=
  d.store.bind WindowsHelloLocalState.pendingRemovalCredentialId

/-- The record refers to a credential. -/
def Refers (d : Device) (credential_id : List UInt8) : Prop :=
  d.active = some credential_id ∨ d.pendingRemoval = some credential_id

/-- What holds at every moment. -/
structure Sound (d : Device) : Prop where
  active : ∀ credential_id, d.active = some credential_id →
    credential_id ∈ d.platform ∨ credential_id ∈ d.removed
  distinct : ∀ credential_id, d.active = some credential_id →
    d.pendingRemoval ≠ some credential_id
  platform : ∀ credential_id ∈ d.platform, credential_id ∈ d.issued
  referred : ∀ credential_id, d.Refers credential_id → credential_id ∈ d.issued

/-- Every credential is referenced, abandoned, or one of a few others. -/
def Covered (abandoned others : Set (List UInt8)) (d : Device) : Prop :=
  ∀ credential_id ∈ d.platform,
    d.Refers credential_id ∨ credential_id ∈ abandoned ∨ credential_id ∈ others

end Device

/-- The environment of an operation. -/
def helloEnvironment (removing : Bool) : Environment (machine P) Device
  | d, .hello call, r, d' => d.Answers removing call r d'
  | d, _, _, d' => d' = d

/-- The actions that concern the device. -/
def CallsDevice (a : Action P) : Prop := ∃ call, a = .hello call

theorem eq_of_not_callsDevice {removing : Bool} {d d' : Device} {a : Action P} {r : a.Result}
    (h : ¬CallsDevice a) (hstep : helloEnvironment removing d a r d') : d' = d := by
  cases a <;> first | exact hstep | exact absurd ⟨_, rfl⟩ h

/-! ## Parts that leave the device alone -/

/-- A program that makes no call of the device. -/
abbrev OffDevice {α : Type} (p : Code P α) : Prop := Quiet (M := machine P) CallsDevice p

namespace OffDevice

variable {α β : Type}

/-- One action. -/
theorem act {a : Action P} (h : ∀ call, a ≠ .hello call) : OffDevice (Librarian.Agent.act a) :=
  Quiet.act fun ⟨call, hcall⟩ => h call hcall

/-- An action, and then the rest. -/
theorem call {a : Action P} {k : a.Result → Code P α} (h : ∀ call, a ≠ .hello call)
    (hk : ∀ r, OffDevice (k r)) : OffDevice ((Librarian.Agent.act a).bind k) :=
  Quiet.bind (act h) hk

theorem pastDeadline {deadline : ℕ} : OffDevice (pastDeadline deadline : Code P Bool) :=
  call (by simp) fun _ => trivial

theorem notUnlockedAt {unlock_epoch : ℕ} : OffDevice (notUnlockedAt unlock_epoch : Code P Bool) := by
  refine call (by simp) fun state => ?_
  split_ifs
  · trivial
  · exact call (by simp) fun _ => trivial

theorem preSecretOperation {context : RequestContext} :
    OffDevice (preSecretOperation context : Code P _) := by
  refine call (by simp) fun locked => Quiet.ite trivial ?_
  refine call (by simp) fun cancelled => Quiet.ite trivial ?_
  refine Quiet.bind pastDeadline fun late => Quiet.ite trivial ?_
  exact Quiet.bind notUnlockedAt fun elsewhere => Quiet.ite trivial trivial

theorem windowsHelloTerminalAbort {context : RequestContext} :
    OffDevice (windowsHelloTerminalAbort context : Code P _) := by
  refine call (by simp) fun cancelled => Quiet.ite trivial ?_
  refine call (by simp) fun locked => Quiet.ite trivial ?_
  exact Quiet.bind pastDeadline fun late => Quiet.ite trivial trivial

theorem createProtector {context : RequestContext} {permit : OperationPermit}
    {binding : Bytes 16 × UInt32} : OffDevice (createProtector context permit binding : Code P _) := by
  refine Quiet.withLock (call (by simp) fun authorized => Quiet.ite trivial ?_)
  refine call (by simp) fun bound => Quiet.ite trivial ?_
  refine call (by simp) fun epoch => Quiet.ite trivial ?_
  exact call (by simp) fun _ => trivial

theorem beginEnrollment : OffDevice (beginEnrollment : Code P _) := by
  refine Quiet.withLock (call (by simp) fun permit => ?_)
  cases permit with
  | none => trivial
  | some permit =>
    refine call (by simp) fun binding => ?_
    cases binding with
    | none => trivial
    | some binding => trivial

theorem boundTo {binding : Bytes 16 × UInt32} : OffDevice (boundTo binding : Code P Bool) :=
  Quiet.withLock (call (by simp) fun _ => trivial)

/-! ### The unlock after the ceremony -/

theorem lockVaultAgent : OffDevice (lockVaultAgent : Code P Unit) := Quiet.withLock (act (by simp))

theorem unlockFailed {outcome : ExecutionOutcome} : OffDevice (unlockFailed outcome : Code P _) :=
  Quiet.bind lockVaultAgent fun _ => call (by simp) fun _ => trivial

theorem helloUnlockFailed {outcome : ExecutionOutcome} :
    OffDevice (helloUnlockFailed outcome : Code P _) :=
  call (by simp) fun _ => trivial

theorem unlockInterrupted {key : RequestKey} : OffDevice (unlockInterrupted key : Code P Bool) := by
  refine call (by simp) fun locked => Quiet.ite trivial ?_
  exact call (by simp) fun state => Quiet.ite trivial (act (by simp))

theorem cleanupShouldAbort {context : RequestContext} :
    OffDevice (cleanupShouldAbort context : Code P Bool) :=
  Quiet.bind unlockInterrupted fun _ => Quiet.ite trivial pastDeadline

theorem recoveredPasskeyCleanupOutcome {context : RequestContext} :
    OffDevice (recoveredPasskeyCleanupOutcome context : Code P _) :=
  Quiet.bind unlockInterrupted fun _ => Quiet.ite trivial
    (Quiet.bind pastDeadline fun _ => Quiet.ite trivial trivial)

theorem persistMutation {origin : Origin} {permit : OperationPermit}
    {prepared : PreparedRecordMutation} {check : Code P Bool} (hcheck : OffDevice check) :
    OffDevice (persistMutation origin permit prepared check) := by
  refine call (by simp) fun authorized => Quiet.ite trivial ?_
  refine call (by simp) fun staged => Quiet.ite (call (by simp) fun _ => trivial) ?_
  refine Quiet.bind trivial fun _ => Quiet.bind hcheck fun passed => Quiet.ite trivial ?_
  refine call (by simp) fun committed => Quiet.ite (call (by simp) fun _ => trivial) ?_
  refine call (by simp) fun applied => ?_
  cases applied with
  | error error => trivial
  | ok id => trivial

theorem mutateVault {origin : Origin} {change : Change P α} {should_cancel check : Code P Bool}
    (hcancel : OffDevice should_cancel) (hcheck : OffDevice check) :
    OffDevice (mutateVault origin change should_cancel check) := by
  refine call (by simp) fun prepared => ?_
  cases prepared with
  | error error => trivial
  | ok value =>
    refine Quiet.bind (Quiet.ite hcancel trivial) fun cancelled => Quiet.ite trivial ?_
    refine Quiet.bind (persistMutation hcheck) fun result => ?_
    cases result with
    | error error => trivial
    | ok id => trivial

theorem cleanupOne {context : RequestContext} {credential_id : Bytes 32} :
    OffDevice (cleanupOne context credential_id : Code P _) := by
  have hcheck : OffDevice (do return !(← Librarian.Agent.cleanupShouldAbort context) : Code P Bool) :=
    Quiet.bind cleanupShouldAbort fun _ => trivial
  refine Quiet.bind trivial fun _ => Quiet.bind (mutateVault cleanupShouldAbort hcheck)
    fun result => ?_
  cases result with
  | ok value => trivial
  | error error =>
    cases error with
    | notFound => trivial
    | aborted => exact Quiet.bind recoveredPasskeyCleanupOutcome fun _ => trivial
    | locked => exact Quiet.bind recoveredPasskeyCleanupOutcome fun _ => trivial
    | conflict => trivial
    | failed => trivial

theorem cleanupLoop {context : RequestContext} {credential_ids : List (Bytes 32)} :
    OffDevice (cleanupLoop context credential_ids : Code P _) := by
  induction credential_ids with
  | nil => trivial
  | cons credential_id rest ih =>
    have hend : OffDevice ((do
        return some (← Librarian.Agent.recoveredPasskeyCleanupOutcome context)) :
        Code P (Option ExecutionOutcome)) :=
      Quiet.bind recoveredPasskeyCleanupOutcome fun _ => trivial
    refine Quiet.bind cleanupShouldAbort fun _ => Quiet.ite hend ?_
    refine call (by simp) fun uncached => Quiet.ite ih ?_
    refine Quiet.bind cleanupShouldAbort fun _ => Quiet.ite hend ?_
    refine Quiet.bind cleanupOne fun outcome => ?_
    cases outcome with
    | some outcome => trivial
    | none => exact ih

theorem recoveredCredentialIds {context : RequestContext} :
    OffDevice (recoveredCredentialIds context : Code P _) := by
  refine Quiet.withLock (call (by simp) fun ids => ?_)
  cases ids with
  | ok ids => trivial
  | error error =>
    cases error with
    | aborted => exact Quiet.bind recoveredPasskeyCleanupOutcome fun _ => trivial
    | locked => exact Quiet.bind recoveredPasskeyCleanupOutcome fun _ => trivial
    | notFound => trivial
    | conflict => trivial
    | failed => trivial

theorem publishAuthenticatedUnlock {context : RequestContext} {identified : Bool}
    {vault_id : Bytes 16} :
    OffDevice (publishAuthenticatedUnlock context identified vault_id : Code P _) := by
  have hinterrupted : OffDevice (publicationInterrupted context.key : Code P Bool) := by
    refine call (by simp) fun locked => Quiet.ite trivial ?_
    refine call (by simp) fun cancelled => Quiet.ite trivial ?_
    exact call (by simp) fun _ => trivial
  have hbind : OffDevice (bindAuthenticated vault_id : Code P Bool) := by
    refine Quiet.withLock (call (by simp) fun identified => Quiet.ite trivial ?_)
    exact Quiet.bind (Quiet.withLock (act (by simp))) fun _ => trivial
  refine Quiet.withLock (Quiet.bind hinterrupted fun _ => Quiet.ite unlockFailed ?_)
  refine Quiet.bind pastDeadline fun _ => Quiet.ite unlockFailed ?_
  refine Quiet.ite unlockFailed (Quiet.bind hbind fun _ => Quiet.ite unlockFailed ?_)
  refine call (by simp) fun advanced => ?_
  cases advanced with
  | error e => trivial
  | ok u =>
    exact call (by simp) fun _ => Quiet.ite (call (by simp) fun _ => trivial) unlockFailed

theorem finishUnlock {context : RequestContext} {identified : Bool}
    {result : Except UnlockError (Bytes 16)} :
    OffDevice (finishUnlock context identified result : Code P _) := by
  unfold Librarian.Agent.finishUnlock
  cases result with
  | error error =>
    cases error with
    | cancelled => exact call (by simp) fun _ => trivial
    | failed => exact call (by simp) fun _ => trivial
  | ok vault_id =>
    refine Quiet.bind (Quiet.bind recoveredCredentialIds fun ids => ?_) fun outcome => ?_
    · cases ids with
      | error outcome => trivial
      | ok ids => exact cleanupLoop
    · cases outcome with
      | some outcome => exact unlockFailed
      | none => exact publishAuthenticatedUnlock

theorem unlockWithCore {key : RequestKey}
    {core : Oracle → Except UnlockError (UnlockedVault × Snapshot)} :
    OffDevice (unlockWithCore key core : Code P _) := by
  refine call (by simp) fun _ => call (by simp) fun cancelled => Quiet.ite trivial ?_
  refine call (by simp) fun unlocked => ?_
  cases unlocked with
  | error e => trivial
  | ok value =>
    refine call (by simp) fun identified => Quiet.bind ?_ fun result => trivial
    refine call (by simp) fun cancelled => Quiet.ite trivial ?_
    refine call (by simp) fun same => Quiet.ite trivial ?_
    refine call (by simp) fun session_id => ?_
    cases session_id with
    | none => trivial
    | some session_id =>
      refine call (by simp) fun stored => Quiet.ite trivial ?_
      exact call (by simp) fun cancelled => Quiet.ite (call (by simp) fun _ => trivial) trivial

theorem helloUnlockCeremony {context : RequestContext} {state : WindowsHelloLocalState}
    {start_epoch : ℕ} : OffDevice (helloUnlockCeremony context state start_epoch : Code P _) := by
  have houtdated : OffDevice (ceremonyOutdated start_epoch : Code P Bool) :=
    call (by simp) fun _ => Quiet.ite trivial (call (by simp) fun _ => trivial)
  have hcore : OffDevice (helloUnlockCore context state : Code P _) := by
    unfold helloUnlockCore
    cases state with
    | pendingRemoval id =>
      exact Quiet.bind trivial fun _ => Quiet.bind helloUnlockFailed fun _ => trivial
    | enrollment vault_id key_epoch installation_key id pending prf_salt protector =>
      refine Quiet.bind trivial fun _ => Quiet.bind unlockWithCore fun result =>
        Quiet.bind trivial fun _ => Quiet.bind windowsHelloTerminalAbort fun outcome => ?_
      cases outcome with
      | some outcome => exact unlockFailed
      | none => exact finishUnlock
  refine call (by simp) fun output => ?_
  cases output with
  | error error => exact helloUnlockFailed
  | ok output =>
    refine Quiet.bind windowsHelloTerminalAbort fun outcome => ?_
    cases outcome with
    | some outcome => exact helloUnlockFailed
    | none => exact Quiet.bind houtdated fun _ => Quiet.ite helloUnlockFailed hcore

theorem unlockRefused : OffDevice (unlockRefused : Code P _) := by
  refine call (by simp) fun state => Quiet.ite trivial ?_
  exact call (by simp) fun state => Quiet.ite trivial trivial

theorem beginHelloUnlock {context : RequestContext} :
    OffDevice (beginHelloUnlock context : Code P _) := by
  refine Quiet.withLock (Quiet.bind windowsHelloTerminalAbort fun outcome => ?_)
  cases outcome with
  | some outcome => trivial
  | none =>
    refine call (by simp) fun epoch => Quiet.ite trivial (call (by simp) fun start_epoch => ?_)
    exact call (by simp) fun unlocking => Quiet.ite trivial trivial

end OffDevice

/-! ## What a change of the device keeps -/

namespace Device

variable {d : Device} {removing : Bool} {credential_id : List UInt8}
  {state : WindowsHelloLocalState} {abandoned others : Set (List UInt8)}

@[simp]
theorem withStore_refers {store : Option WindowsHelloLocalState} :
    (d.withStore store).Refers credential_id ↔
      store.bind WindowsHelloLocalState.credentialId = some credential_id ∨
      store.bind WindowsHelloLocalState.pendingRemovalCredentialId = some credential_id := Iff.rfl

theorem Sound.withStore_none (h : d.Sound) : (d.withStore none).Sound where
  active := by simp [Device.active, withStore]
  distinct := by simp [Device.active, withStore]
  platform := h.platform
  referred := by simp [Refers, Device.active, pendingRemoval, withStore]

/-- A record is acceptable when its credentials have been issued, its active one exists, and the one
to remove is another. -/
theorem Sound.withStore_some (h : d.Sound)
    (hactive : ∀ id, state.credentialId = some id →
      (id ∈ d.platform ∨ id ∈ d.removed) ∧ state.pendingRemovalCredentialId ≠ some id)
    (hissued : ∀ id, state.credentialId = some id ∨ state.pendingRemovalCredentialId = some id →
      id ∈ d.issued) : (d.withStore (some state)).Sound where
  active := fun id hid => (hactive id hid).1
  distinct := fun id hid => (hactive id hid).2
  platform := h.platform
  referred := hissued

/-- A record with the same active credential and none to remove. -/
theorem Sound.withStore_retired (h : d.Sound) (hactive : state.credentialId = d.active)
    (hpending : state.pendingRemovalCredentialId = none) : (d.withStore (some state)).Sound := by
  refine h.withStore_some ?_ ?_
  · intro id hid
    exact ⟨h.active id (hactive ▸ hid), by simp [hpending]⟩
  · rintro id (hid | hid)
    · exact h.referred id (.inl (hactive ▸ hid))
    · rw [hpending] at hid
      cases hid

theorem Sound.issue (h : d.Sound) : (d.issue credential_id).Sound where
  active := fun id hid => (h.active id hid).imp_left (Set.mem_insert_of_mem _)
  distinct := h.distinct
  platform := by
    rintro id (rfl | hid)
    · exact Set.mem_insert _ _
    · exact Set.mem_insert_of_mem _ (h.platform id hid)
  referred := fun id hid => Set.mem_insert_of_mem _ (h.referred id hid)

/-- Removing a credential that is not active, or by a removal of Windows Hello. -/
theorem Sound.drop (h : d.Sound)
    (hinactive : removing = true ∨ d.active ≠ some credential_id) :
    (d.drop removing credential_id).Sound where
  active := by
    intro id hid
    have hid' : d.active = some id := hid
    unfold Device.drop
    by_cases heq : id = credential_id
    · subst heq
      rcases hinactive with rfl | hne
      · exact .inr (Set.mem_insert _ _)
      · exact absurd hid' hne
    · rcases h.active id hid' with hplatform | hremoved
      · exact .inl ⟨hplatform, heq⟩
      · refine .inr ?_
        dsimp only
        split_ifs
        · exact Set.mem_insert_of_mem _ hremoved
        · exact hremoved
  distinct := h.distinct
  platform := fun id hid => h.platform id hid.1
  referred := h.referred

/-- A removed credential needs no reference. -/
theorem Covered.drop (h : d.Covered abandoned {credential_id}) :
    (d.drop removing credential_id).Covered abandoned ∅ := by
  rintro id ⟨hid, hne⟩
  rcases h id hid with hrefers | habandoned | rfl
  · exact .inl hrefers
  · exact .inr (.inl habandoned)
  · exact absurd rfl hne

end Device

/-! ## The parts of the operations -/

section

variable {removing : Bool} {α β : Type} {Q : α → Device → Prop} {d : Device}

/-- A program keeps the device sound and ends in `Q`. -/
abbrev KeepsSound (removing : Bool) (p : Code P α) (Q : α → Device → Prop) (d : Device) : Prop :=
  upholds (M := machine P) (helloEnvironment removing) Device.Sound p Q d

/-- A part that leaves the device alone, and then the rest. -/
theorem OffDevice.seq {p : Code P β} {f : β → Code P α} (hp : OffDevice p) (hd : d.Sound)
    (hf : ∀ b, KeepsSound removing (f b) Q d) : KeepsSound removing (p.bind f) Q d :=
  upholds_bind.mpr (hp.upholds hd (fun _ _ _ _ => eq_of_not_callsDevice) hf)

/-- A call of the device, and then the rest. -/
theorem callDevice {call : HelloCall} {f : call.Result → Code P α} (hd : d.Sound)
    (hf : ∀ r d', d.Answers removing call r d' → KeepsSound removing (f r) Q d') :
    KeepsSound removing ((act (.hello call)).bind f) Q d :=
  ⟨hd, fun r d' h => hf r d' h⟩

theorem loadWindowsHelloState_spec {Q : Except WindowsHelloStateError WindowsHelloLocalState →
    Device → Prop} (hd : d.Sound)
    (hQ : ∀ r, (∀ state, r = .ok state → d.store = some state) →
      (r = .error .notFound → d.store = none) → Q r d) :
    KeepsSound removing (loadWindowsHelloState : Code P _) Q d := by
  refine upholds.withLock hd ((OffDevice.act (by simp)).seq hd fun bound => ?_)
  cases bound with
  | false => exact ⟨hd, hQ _ (by simp) (by simp)⟩
  | true =>
    refine callDevice hd fun r d' hanswer => ?_
    have hload : d' = d ∧ (∀ state, r = .ok state → d.store = some state) ∧
        (r = .error .notFound → d.store = none) := by
      cases r with
      | ok state => exact ⟨hanswer.2, by simpa using hanswer.1, by simp⟩
      | error error => exact ⟨hanswer.2, by simp, by simpa using hanswer.1⟩
    obtain ⟨rfl, hok, hnone⟩ := hload
    refine (OffDevice.act (by simp)).seq hd fun bound => ?_
    cases bound with
    | false => exact ⟨hd, hQ _ (by simp) (by simp)⟩
    | true => exact ⟨hd, hQ r hok hnone⟩

theorem saveWindowsHelloState_spec {Q : Except WindowsHelloStateError Unit → Device → Prop}
    {state : WindowsHelloLocalState} (hd : d.Sound) (hstate : (d.withStore (some state)).Sound)
    (hQ : ∀ r, Q r (if published r then d.withStore (some state) else d)) :
    KeepsSound removing (saveWindowsHelloState state : Code P _) Q d := by
  refine upholds.withLock hd ((OffDevice.act (by simp)).seq hd fun bound => ?_)
  cases bound with
  | false => exact ⟨hd, hQ (.error .failed)⟩
  | true =>
    refine callDevice hd fun r d' hanswer => ?_
    obtain rfl : d' = if published r then d.withStore (some state) else d := hanswer
    have hd' : (if published r then d.withStore (some state) else d).Sound := by
      split_ifs
      · exact hstate
      · exact hd
    refine (OffDevice.act (by simp)).seq hd' fun bound => ?_
    cases bound with
    | true => exact ⟨hd', hQ r⟩
    | false =>
      refine ⟨hd', ?_⟩
      by_cases hpublished : published r
      · simp only [hpublished, if_true]
        exact hQ (.error .published)
      · simp only [hpublished, if_false, Bool.false_eq_true]
        exact hQ (.error .failed)

theorem removeWindowsHelloState_spec {Q : Except WindowsHelloStateError Unit → Device → Prop}
    (hd : d.Sound) (hgone : ∀ r, Q r (d.withStore none))
    (hkept : ∀ r, absent r = false → Q r d) :
    KeepsSound removing (removeWindowsHelloState : Code P _) Q d := by
  refine upholds.withLock hd ((OffDevice.act (by simp)).seq hd fun bound => ?_)
  cases bound with
  | false => exact ⟨hd, hkept _ rfl⟩
  | true =>
    refine callDevice hd fun r d' hanswer => ?_
    rcases hanswer with rfl | ⟨hfailed, rfl⟩
    · refine (OffDevice.act (by simp)).seq hd.withStore_none fun bound => ?_
      cases bound with
      | false => exact ⟨hd.withStore_none, hgone _⟩
      | true => exact ⟨hd.withStore_none, hgone r⟩
    · refine (OffDevice.act (by simp)).seq hd fun bound => ?_
      cases bound with
      | false => exact ⟨hd, hkept _ rfl⟩
      | true => exact ⟨hd, hkept r hfailed⟩

variable {abandoned : Set (List UInt8)} {credential_id : List UInt8}

/-- An operation ends with a failure that is not worth a retry. -/
def Abandons : Outcome → Prop
  | .ok outcome => outcome.error = some .operationFailed ∧ outcome.retry = .never
  | .error _ => False

/-- What an operation owes at its end: unless it ends with a failure that is not worth a retry, it
has left no credential behind. -/
def Settles (abandoned : Set (List UInt8)) (r : Outcome) (d : Device) : Prop :=
  d.Sound ∧ (¬Abandons r → d.Covered abandoned ∅)

theorem settles_failed (hd : d.Sound) : Settles abandoned (.ok .failed) d :=
  ⟨hd, fun h => absurd ⟨rfl, rfl⟩ h⟩

/-- The record that an enrollment found has no credential to remove any more. -/
def Retired (previous : Option WindowsHelloLocalState) : Prop :=
  ∀ state, previous = some state →
    state.credentialId.isSome ∧ state.pendingRemovalCredentialId = none

/-- A new credential, which the record does not refer to, beside those that are covered. -/
structure Extra (abandoned : Set (List UInt8)) (previous : Option WindowsHelloLocalState)
    (credential_id : List UInt8) (d : Device) : Prop where
  sound : d.Sound
  store : d.store = previous
  retired : Retired previous
  present : credential_id ∈ d.platform
  inactive : d.active ≠ some credential_id
  covered : d.Covered abandoned {credential_id}

/-- What the record refers to when there is nothing to remove. -/
theorem Extra.refers {previous : Option WindowsHelloLocalState}
    (h : Extra abandoned previous credential_id d) {id : List UInt8} :
    d.Refers id ↔ previous.bind WindowsHelloLocalState.credentialId = some id := by
  unfold Device.Refers Device.active Device.pendingRemoval
  rw [h.store]
  constructor
  · rintro (hactive | hpending)
    · exact hactive
    · cases previous with
      | none => cases hpending
      | some state =>
        have hnone := (h.retired state rfl).2
        rw [Option.bind_some, hnone] at hpending
        cases hpending
  · exact .inl

theorem persistWindowsHelloCleanup_spec {previous : Option WindowsHelloLocalState}
    (h : Extra abandoned previous credential_id d) :
    KeepsSound removing (persistWindowsHelloCleanup previous credential_id : Code P _)
      (fun done d' => d'.Sound ∧ (done = true → d'.Covered abandoned ∅)) d := by
  -- A record with the credential to remove, which keeps the active one, covers all.
  have hsave : ∀ state : WindowsHelloLocalState,
      state.credentialId = previous.bind WindowsHelloLocalState.credentialId →
      state.pendingRemovalCredentialId = some credential_id →
      KeepsSound removing (do return published (← saveWindowsHelloState state) : Code P Bool)
        (fun done d' => d'.Sound ∧ (done = true → d'.Covered abandoned ∅)) d := by
    intro state hactive hpending
    have hstate : (d.withStore (some state)).Sound := by
      refine h.sound.withStore_some ?_ ?_
      · intro id hid
        have hid' : d.active = some id := by
          unfold Device.active
          rw [h.store, ← hactive, hid]
        refine ⟨h.sound.active id hid', ?_⟩
        rw [hpending]
        rintro ⟨rfl⟩
        exact h.inactive hid'
      · rintro id (hid | hid)
        · exact h.sound.referred id (h.refers.mpr (hactive ▸ hid))
        · rw [hpending, Option.some.injEq] at hid
          exact hid ▸ h.sound.platform _ h.present
    refine upholds_bind.mpr (saveWindowsHelloState_spec h.sound hstate fun r => ?_)
    cases hpublished : published r with
    | false => exact ⟨h.sound, by simp⟩
    | true =>
      refine ⟨hstate, fun _ id hid => ?_⟩
      rcases h.covered id hid with hrefers | habandoned | rfl
      · exact .inl (.inl (hactive.trans (h.refers.mp hrefers)))
      · exact .inr (.inl habandoned)
      · exact .inl (.inr hpending)
  have hrefused : KeepsSound removing (.ret false : Code P Bool)
      (fun done d' => d'.Sound ∧ (done = true → d'.Covered abandoned ∅)) d :=
    ⟨h.sound, by simp⟩
  unfold persistWindowsHelloCleanup
  cases hprevious : previous with
  | none =>
    rw [hprevious] at hsave
    unfold WindowsHelloLocalState.newPendingRemoval
    split_ifs
    · exact hrefused
    · exact hsave (.pendingRemoval credential_id) rfl rfl
  | some state =>
    rw [hprevious] at hsave
    cases state with
    | enrollment vault_id key_epoch installation_key active pending prf_salt protector =>
      unfold WindowsHelloLocalState.setPendingRemovalCredentialId
      dsimp only
      split_ifs
      · exact hrefused
      · exact hsave (.enrollment vault_id key_epoch installation_key active (some credential_id)
          prf_salt protector) rfl rfl
    | pendingRemoval id => cases (h.retired _ hprevious).2

theorem removeWindowsHelloCredentialOr_spec {previous : Option WindowsHelloLocalState}
    {outcome : ExecutionOutcome} (h : Extra abandoned previous credential_id d) :
    KeepsSound false (removeWindowsHelloCredentialOr previous credential_id outcome : Code P _)
      (Settles abandoned) d := by
  refine callDevice h.sound fun done d' hanswer => ?_
  cases done with
  | true =>
    obtain rfl : d' = d.drop false credential_id := hanswer
    exact ⟨h.sound.drop (.inr h.inactive), fun _ => h.covered.drop⟩
  | false =>
    -- The removal has failed, so that the record has to refer to the credential.
    obtain rfl : d' = d := hanswer
    refine (persistWindowsHelloCleanup_spec h).seq fun persisted d' hd' => ?_
    cases persisted with
    | true => exact ⟨hd'.1, fun _ => hd'.2 rfl⟩
    | false => exact settles_failed hd'.1

/-! ### The retirement -/

/-- What an operation knows after the retirement: either the record is gone, or it is an enrollment
that has nothing to remove. -/
def AfterRetirement (state : WindowsHelloLocalState) (d : Device) : Prop :=
  state.vaultBinding = none ∧ d.store = none ∨ d.store = some state ∧ Retired (some state)

theorem retired_enrollment {vault_id : Bytes 16} {key_epoch : UInt32}
    {installation_key prf_salt : Bytes 32} {id protector : List UInt8} :
    Retired (some (.enrollment vault_id key_epoch installation_key id none prf_salt protector)) := by
  rintro state ⟨rfl⟩
  exact ⟨rfl, rfl⟩

/-- Once the credential to remove is gone, a record with the same active credential is enough. -/
theorem covered_withStore_of_drop {store : Option WindowsHelloLocalState}
    (hd : d.Covered abandoned ∅) (hpending : d.pendingRemoval = some credential_id)
    (hactive : d.active = store.bind WindowsHelloLocalState.credentialId) :
    ((d.drop removing credential_id).withStore store).Covered abandoned ∅ := by
  rintro id ⟨hid, hne⟩
  rcases hd id hid with (hrefers | hrefers) | habandoned
  · exact .inl (.inl (hactive.symm.trans hrefers))
  · rw [hpending, Option.some.injEq] at hrefers
    exact absurd hrefers.symm hne
  · exact .inr habandoned

theorem retryPersistedWindowsHelloRetirement_spec {state : WindowsHelloLocalState} (hd : d.Sound)
    (hcovered : d.Covered abandoned ∅) (hstore : d.store = some state) :
    KeepsSound removing (retryPersistedWindowsHelloRetirement state : Code P _)
      (fun r d' => d'.Sound ∧ d'.Covered abandoned ∅ ∧
        (r.1 = true → AfterRetirement r.2 d')) d := by
  have hactive : d.active = state.credentialId := by
    unfold Device.active
    rw [hstore]
    rfl
  have hpending : d.pendingRemoval = state.pendingRemovalCredentialId := by
    unfold Device.pendingRemoval
    rw [hstore]
    rfl
  unfold retryPersistedWindowsHelloRetirement
  cases hid : state.pendingRemovalCredentialId with
  | none =>
    refine ⟨hd, hcovered, fun _ => .inr ⟨hstore, ?_⟩⟩
    cases state with
    | enrollment vault_id key_epoch installation_key active pending prf_salt protector =>
      obtain rfl : pending = none := hid
      exact retired_enrollment
    | pendingRemoval id => cases hid
  | some credential_id =>
    refine callDevice hd fun done d' hanswer => ?_
    cases done with
    | false =>
      obtain rfl : d' = d := hanswer
      exact ⟨hd, hcovered, by simp⟩
    | true =>
      obtain rfl : d' = d.drop removing credential_id := hanswer
      rw [hid] at hpending
      -- The credential to remove is not the active one.
      have hdrop : (d.drop removing credential_id).Sound :=
        hd.drop (.inr fun h => hd.distinct _ h hpending)
      have hkept : (d.drop removing credential_id).Covered abandoned ∅ := by
        rintro id ⟨hid, -⟩
        exact hcovered id hid
      cases state with
      | enrollment vault_id key_epoch installation_key active pending prf_salt protector =>
        refine upholds_bind.mpr (saveWindowsHelloState_spec hdrop ?_ fun r => ?_)
        · exact hdrop.withStore_retired hactive.symm rfl
        · cases hpublished : published r with
          | false => exact ⟨hdrop, hkept, by simp⟩
          | true =>
            exact ⟨hdrop.withStore_retired hactive.symm rfl,
              covered_withStore_of_drop hcovered hpending hactive,
              fun _ => .inr ⟨rfl, retired_enrollment⟩⟩
      | pendingRemoval id =>
        refine upholds_bind.mpr (upholds_bind.mpr (removeWindowsHelloState_spec hdrop ?_ ?_))
        · intro r
          exact ⟨hdrop.withStore_none, covered_withStore_of_drop hcovered hpending hactive,
            fun _ => .inl ⟨rfl, rfl⟩⟩
        · intro r hfailed
          exact ⟨hdrop, hkept, fun hdone => by simp [hfailed] at hdone⟩

/-- What `enroll_windows_hello` finds. -/
def Found : Except ExecutionOutcome (Option (WindowsHelloLocalState × Bool)) → Device → Prop
  | .error _, _ => True
  | .ok none, d => d.store = none
  | .ok (some (state, _)), d => AfterRetirement state d

theorem ensureAbsentWindowsHelloState_spec (hd : d.Sound) (hstore : d.store = none) :
    KeepsSound removing (ensureAbsentWindowsHelloState : Code P _) (fun _ d' => d' = d) d := by
  have hnone : d.withStore none = d := by
    rw [← hstore]
    rfl
  exact upholds_bind.mpr (removeWindowsHelloState_spec hd (fun _ => hnone) fun _ _ => rfl)

theorem previousEnrollment_spec (hd : d.Sound) (hcovered : d.Covered abandoned ∅) :
    KeepsSound removing (previousEnrollment : Code P _)
      (fun r d' => d'.Sound ∧ d'.Covered abandoned ∅ ∧ Found r d') d := by
  refine upholds_bind.mpr (loadWindowsHelloState_spec hd fun loaded hok hnone => ?_)
  cases loaded with
  | error error =>
    cases error with
    | notFound =>
      refine (ensureAbsentWindowsHelloState_spec hd (hnone rfl)).seq fun done d' hd' => ?_
      subst hd'
      cases done with
      | true => exact ⟨hd, hcovered, hnone rfl⟩
      | false => exact ⟨hd, hcovered, trivial⟩
    | invalid => exact ⟨hd, hcovered, trivial⟩
    | failed => exact ⟨hd, hcovered, trivial⟩
    | published => exact ⟨hd, hcovered, trivial⟩
  | ok state =>
    refine (retryPersistedWindowsHelloRetirement_spec hd hcovered (hok state rfl)).seq
      fun retired d' hd' => ?_
    obtain ⟨retired, state⟩ := retired
    cases retired with
    | true => exact ⟨hd'.1, hd'.2.1, hd'.2.2 rfl⟩
    | false => exact ⟨hd'.1, hd'.2.1, trivial⟩

/-! ### The enrollment -/

/-- The record of a new enrollment: its credential is active, and the one that it replaces is to be
removed. -/
structure Replaces (previous : Option WindowsHelloLocalState) (credential_id : List UInt8)
    (state : WindowsHelloLocalState) : Prop where
  active : state.credentialId = some credential_id
  pending : state.pendingRemovalCredentialId = previous.bind WindowsHelloLocalState.credentialId

theorem replaces_of_enrolledState {previous : Option WindowsHelloLocalState}
    {binding : Bytes 16 × UInt32} {installation_key : Bytes 32}
    {enrollment : WindowsHelloEnrollment} {protector : List UInt8} {state : WindowsHelloLocalState}
    (hinactive : previous.bind WindowsHelloLocalState.credentialId ≠ some enrollment.credential_id)
    (h : enrolledState previous binding installation_key enrollment protector = some state) :
    Replaces previous enrollment.credential_id state := by
  unfold enrolledState at h
  cases hreplaced : previous.bind WindowsHelloLocalState.credentialId with
  | none =>
    simp only [hreplaced, Option.some.injEq] at h
    subst h
    exact ⟨rfl, hreplaced.symm⟩
  | some replaced =>
    have hne : replaced ≠ enrollment.credential_id := by
      rintro rfl
      exact hinactive hreplaced
    simp only [hreplaced, hne, if_false, WindowsHelloLocalState.setPendingRemovalCredentialId] at h
    split_ifs at h
    cases h
    exact ⟨rfl, hreplaced.symm⟩

section

variable {previous : Option WindowsHelloLocalState} {state : WindowsHelloLocalState}

theorem Replaces.sound (hstate : Replaces previous credential_id state)
    (h : Extra abandoned previous credential_id d) : (d.withStore (some state)).Sound := by
  have hprevious : ∀ id, previous.bind WindowsHelloLocalState.credentialId = some id →
      d.active = some id := by
    intro id hid
    unfold Device.active
    rw [h.store, hid]
  refine h.sound.withStore_some ?_ ?_
  · intro id hid
    obtain rfl : credential_id = id := Option.some.inj (hstate.active.symm.trans hid)
    refine ⟨.inl h.present, fun hpending => h.inactive ?_⟩
    exact hprevious _ (hstate.pending ▸ hpending)
  · rintro id (hid | hid)
    · obtain rfl : credential_id = id := Option.some.inj (hstate.active.symm.trans hid)
      exact h.sound.platform _ h.present
    · exact h.sound.referred id (.inl (hprevious id (hstate.pending ▸ hid)))

theorem Replaces.covered (hstate : Replaces previous credential_id state)
    (h : Extra abandoned previous credential_id d) :
    (d.withStore (some state)).Covered abandoned ∅ := by
  intro id hid
  rcases h.covered id hid with hrefers | habandoned | rfl
  · exact .inl (.inr (hstate.pending.trans (h.refers.mp hrefers)))
  · exact .inr (.inl habandoned)
  · exact .inl (.inl hstate.active)

/-- The way back saves the previous record, with which the new credential is an extra one again. -/
theorem undoEnrollment_spec (hstate : Replaces previous credential_id state)
    (h : Extra abandoned previous credential_id d) :
    KeepsSound false (undoEnrollment previous state : Code P _) (Settles abandoned)
      (d.withStore (some state)) := by
  have hd : (d.withStore (some state)).Sound := hstate.sound h
  cases hprevious : previous with
  | none => exact ⟨hd, fun _ => hstate.covered h⟩
  | some previous =>
    have hback : (d.withStore (some state)).withStore (some previous) = d := by
      rw [← hprevious, ← h.store]
      rfl
    unfold undoEnrollment rollbackWindowsHelloEnrollment
    dsimp only
    rw [hstate.active]
    cases hold : previous.credentialId with
    | none => exact settles_failed hd
    | some old =>
      dsimp only
      split_ifs
      · exact settles_failed hd
      · refine upholds_bind.mpr (saveWindowsHelloState_spec hd (by rw [hback]; exact h.sound)
          fun r => ?_)
        rw [hback]
        cases hpublished : published r with
        | false => exact settles_failed hd
        | true => exact removeWindowsHelloCredentialOr_spec (hprevious ▸ h)

theorem publishEnrollment_spec (hstate : Replaces previous credential_id state)
    (h : Extra abandoned previous credential_id d) :
    KeepsSound false (publishEnrollment previous state : Code P _) (Settles abandoned)
      (d.withStore (some state)) := by
  have hd : (d.withStore (some state)).Sound := hstate.sound h
  have hcovered : (d.withStore (some state)).Covered abandoned ∅ := hstate.covered h
  unfold publishEnrollment
  cases hpending : state.pendingRemovalCredentialId with
  | none => exact ⟨hd, fun _ => hcovered⟩
  | some pending =>
    refine callDevice hd fun done d' hanswer => ?_
    cases done with
    | false =>
      obtain rfl : d' = d.withStore (some state) := hanswer
      exact undoEnrollment_spec hstate h
    | true =>
      obtain rfl : d' = (d.withStore (some state)).drop false pending := hanswer
      have hdrop : ((d.withStore (some state)).drop false pending).Sound :=
        hd.drop (.inr fun hactive => hd.distinct _ hactive hpending)
      cases state with
      | pendingRemoval id => cases hstate.active
      | enrollment vault_id key_epoch installation_key active old prf_salt protector =>
        refine upholds_bind.mpr (saveWindowsHelloState_spec hdrop ?_ fun r => ?_)
        · exact hdrop.withStore_retired rfl rfl
        · cases hpublished : published r with
          | true =>
            exact ⟨hdrop.withStore_retired rfl rfl,
              fun _ => covered_withStore_of_drop hcovered hpending rfl⟩
          | false => exact ⟨hdrop, fun _ id hid => hcovered id hid.1⟩

/-- A release of a mutex, and then the rest. -/
theorem releasing {m : Mutex} {p : Code P α} (hd : d.Sound) (hp : KeepsSound removing p Q d) :
    KeepsSound removing ((Prog.unlock m).bind fun _ => p) Q d := ⟨hd, hp⟩

theorem commitEnrollment_spec {context : RequestContext}
    (hstate : Replaces previous credential_id state)
    (h : Extra abandoned previous credential_id d) :
    KeepsSound false (commitEnrollment context previous credential_id state : Code P _)
      (Settles abandoned) d := by
  -- Every end releases the gate.
  have hend : ∀ p : Code P Outcome, ∀ d : Device, KeepsSound false p (Settles abandoned) d →
      KeepsSound false (p.bind fun outcome => (Prog.unlock (M := machine P) .commitGate).bind fun _ => .ret outcome)
        (Settles abandoned) d :=
    fun p d hp => hp.seq fun outcome d' hd' => releasing hd'.1 hd'
  refine OffDevice.windowsHelloTerminalAbort.seq h.sound fun outcome => ?_
  cases outcome with
  | some outcome => exact removeWindowsHelloCredentialOr_spec h
  | none =>
    refine ⟨h.sound, OffDevice.preSecretOperation.seq h.sound fun outcome => ?_⟩
    cases outcome with
    | some outcome => exact releasing h.sound (removeWindowsHelloCredentialOr_spec h)
    | none =>
      refine upholds_bind.mpr (saveWindowsHelloState_spec h.sound (hstate.sound h) fun r => ?_)
      have hfailed : KeepsSound false ((Prog.unlock (M := machine P) .commitGate).bind fun _ =>
          (windowsHelloTerminalAbort context).bind fun outcome =>
            removeWindowsHelloCredentialOr (P := P) previous credential_id (outcome.getD .failed))
          (Settles abandoned) d :=
        releasing h.sound (OffDevice.windowsHelloTerminalAbort.seq h.sound fun _ =>
          removeWindowsHelloCredentialOr_spec h)
      cases r with
      | ok u => exact hend _ _ (publishEnrollment_spec hstate h)
      | error error =>
        cases error with
        | published => exact hend _ _ (undoEnrollment_spec hstate h)
        | notFound => exact hfailed
        | invalid => exact hfailed
        | failed => exact hfailed

theorem useEnrollment_spec {context : RequestContext} {permit : OperationPermit}
    {binding : Bytes 16 × UInt32} {enrollment : WindowsHelloEnrollment}
    (h : Extra abandoned previous enrollment.credential_id d) :
    KeepsSound false (useEnrollment context permit binding previous enrollment : Code P _)
      (Settles abandoned) d := by
  have hinactive : previous.bind WindowsHelloLocalState.credentialId ≠
      some enrollment.credential_id := by
    rw [← h.store]
    exact h.inactive
  refine OffDevice.windowsHelloTerminalAbort.seq h.sound fun outcome => ?_
  cases outcome with
  | some outcome => exact removeWindowsHelloCredentialOr_spec h
  | none =>
    refine (OffDevice.act (by simp)).seq h.sound fun epoch => ?_
    split_ifs
    · exact removeWindowsHelloCredentialOr_spec h
    · refine (OffDevice.act (by simp)).seq h.sound fun installation_key => ?_
      cases installation_key with
      | none => exact removeWindowsHelloCredentialOr_spec h
      | some installation_key =>
        refine OffDevice.createProtector.seq h.sound fun protector => ?_
        cases protector with
        | none => exact removeWindowsHelloCredentialOr_spec h
        | some protector =>
          cases protector with
          | none => exact removeWindowsHelloCredentialOr_spec h
          | some protector =>
            dsimp only
            cases hstate : enrolledState previous binding installation_key enrollment protector with
            | none => exact removeWindowsHelloCredentialOr_spec h
            | some state =>
              exact commitEnrollment_spec (replaces_of_enrolledState hinactive hstate) h

/-- A check of the request, and then the rest. -/
theorem checkingFirst_spec {context : RequestContext} {p : Code P Outcome} (hd : d.Sound)
    (hcovered : d.Covered abandoned ∅) (hp : KeepsSound removing p (Settles abandoned) d) :
    KeepsSound removing (checkingFirst context p) (Settles abandoned) d := by
  refine OffDevice.preSecretOperation.seq hd fun outcome => ?_
  cases outcome with
  | some outcome => exact ⟨hd, fun _ => hcovered⟩
  | none => exact hp

/-- The credential of an enrollment is new, and nothing refers to it yet. -/
theorem extra_issue (hd : d.Sound) (hcovered : d.Covered abandoned ∅) (hstore : d.store = previous)
    (hretired : Retired previous) (hnew : credential_id ∉ d.issued) :
    Extra abandoned previous credential_id (d.issue credential_id) where
  sound := hd.issue
  store := hstore
  retired := hretired
  present := Set.mem_insert _ _
  inactive := fun h => hnew (hd.referred _ (.inl h))
  covered := by
    rintro id (rfl | hid)
    · exact .inr (.inr rfl)
    · rcases hcovered id hid with hrefers | habandoned | hempty
      · exact .inl hrefers
      · exact .inr (.inl habandoned)
      · cases hempty

theorem enrollCeremony_spec {context : RequestContext} {permit : OperationPermit}
    {binding : Bytes 16 × UInt32} (hd : d.Sound) (hcovered : d.Covered abandoned ∅)
    (hstore : d.store = previous) (hretired : Retired previous) :
    KeepsSound false (enrollCeremony context permit binding previous : Code P _)
      (Settles abandoned) d := by
  refine checkingFirst_spec hd hcovered ((OffDevice.act (by simp)).seq hd fun succeeds => ?_)
  cases succeeds with
  | false => exact ⟨hd, fun _ => hcovered⟩
  | true =>
    refine callDevice hd fun enrolled d' hanswer => ?_
    cases enrolled with
    | ok enrollment =>
      obtain ⟨hnew, rfl⟩ := hanswer
      exact useEnrollment_spec (extra_issue hd hcovered hstore hretired hnew)
    | error error =>
      cases error with
      | cleanupRequired credential_id =>
        obtain ⟨hnew, rfl⟩ := hanswer
        refine (persistWindowsHelloCleanup_spec
          (extra_issue hd hcovered hstore hretired hnew)).seq fun persisted d' hd' => ?_
        cases persisted with
        | true => exact ⟨hd'.1, fun _ => hd'.2 rfl⟩
        | false => exact settles_failed hd'.1
      -- No credential has been made.
      | invalidRequest =>
        obtain rfl : d' = d := hanswer
        exact ⟨hd, fun _ => hcovered⟩
      | unavailable =>
        obtain rfl : d' = d := hanswer
        exact ⟨hd, fun _ => hcovered⟩
      | cancelled =>
        obtain rfl : d' = d := hanswer
        exact ⟨hd, fun _ => hcovered⟩
      | failed =>
        obtain rfl : d' = d := hanswer
        exact ⟨hd, fun _ => hcovered⟩
      | removalFailed =>
        obtain rfl : d' = d := hanswer
        exact ⟨hd, fun _ => hcovered⟩

/-! ### The operations -/

theorem withFlag_spec {flag : Flag} {p : Code P Outcome} (hd : d.Sound)
    (hcovered : d.Covered abandoned ∅) (hp : KeepsSound removing p (Settles abandoned) d) :
    KeepsSound removing (withFlag flag p) (Settles abandoned) d := by
  refine (OffDevice.act (by simp)).seq hd fun acquired => ?_
  cases acquired with
  | false => exact ⟨hd, fun _ => hcovered⟩
  | true =>
    exact hp.seq fun outcome d' hd' => (OffDevice.act (by simp)).seq hd'.1 fun _ => hd'

/-- The gate of Windows Hello, and the parts under it. -/
theorem withLock_spec {m : Mutex} {p : Code P Outcome} (hd : d.Sound)
    (hp : KeepsSound removing p (Settles abandoned) d) :
    KeepsSound removing (Prog.withLock m p) (Settles abandoned) d :=
  upholds.withLock hd (hp.mono fun _ _ h => ⟨h.1, h⟩)

theorem enrollWindowsHello_spec {context : RequestContext} (hd : d.Sound)
    (hcovered : d.Covered abandoned ∅) :
    KeepsSound false (enrollWindowsHello context : Code P _) (Settles abandoned) d := by
  refine (OffDevice.act (by simp)).seq hd fun succeeds => ?_
  cases succeeds with
  | false => exact settles_failed hd
  | true =>
    refine checkingFirst_spec hd hcovered (withFlag_spec hd hcovered (withLock_spec hd
      (checkingFirst_spec hd hcovered (OffDevice.beginEnrollment.seq hd fun begun => ?_))))
    cases begun with
    | none => exact ⟨hd, fun _ => hcovered⟩
    | some begun =>
      obtain ⟨permit, binding⟩ := begun
      refine (previousEnrollment_spec hd hcovered).seq fun found d' hd' => ?_
      obtain ⟨hd, hcovered, hfound⟩ := hd'
      cases found with
      | error outcome => exact ⟨hd, fun _ => hcovered⟩
      | ok found =>
        cases found with
        | none => exact enrollCeremony_spec hd hcovered hfound (by simp [Retired])
        | some found =>
          obtain ⟨state, recovering⟩ := found
          dsimp only
          split_ifs with hunbound hbound
          · have hgone : d'.store = none := by
              rcases hfound with hgone | ⟨-, hretired⟩
              · exact hgone.2
              · cases state with
                | enrollment => cases hunbound
                | pendingRemoval id => cases (hretired _ rfl).2
            exact enrollCeremony_spec hd hcovered hgone (by simp [Retired])
          · exact checkingFirst_spec hd hcovered ⟨hd, fun _ => hcovered⟩
          · rcases hfound with hgone | ⟨hstore, hretired⟩
            · exact absurd hgone.1 hunbound
            · exact enrollCeremony_spec hd hcovered hstore hretired

theorem enrolledForUnlock_spec (hd : d.Sound) (hcovered : d.Covered abandoned ∅) :
    KeepsSound removing (enrolledForUnlock : Code P _)
      (fun _ d' => d'.Sound ∧ d'.Covered abandoned ∅) d := by
  refine upholds_bind.mpr (loadWindowsHelloState_spec hd fun loaded hok hnone => ?_)
  cases loaded with
  | error error =>
    cases error with
    | notFound =>
      refine (ensureAbsentWindowsHelloState_spec hd (hnone rfl)).seq fun done d' hd' => ?_
      subst hd'
      cases done with
      | true => exact ⟨hd, hcovered⟩
      | false => exact ⟨hd, hcovered⟩
    | invalid => exact ⟨hd, hcovered⟩
    | failed => exact ⟨hd, hcovered⟩
    | published => exact ⟨hd, hcovered⟩
  | ok state =>
    refine (retryPersistedWindowsHelloRetirement_spec hd hcovered (hok state rfl)).seq
      fun retired d' hd' => ?_
    dsimp only
    split_ifs
    · exact ⟨hd'.1, hd'.2.1⟩
    · exact ⟨hd'.1, hd'.2.1⟩
    · exact ⟨hd'.1, hd'.2.1⟩

theorem unlockWindowsHello_spec {context : RequestContext} (hd : d.Sound)
    (hcovered : d.Covered abandoned ∅) :
    KeepsSound removing (unlockWindowsHello context : Code P _) (Settles abandoned) d := by
  refine (OffDevice.act (by simp)).seq hd fun succeeds => ?_
  cases succeeds with
  | false => exact settles_failed hd
  | true =>
    refine OffDevice.unlockRefused.seq hd fun refused => ?_
    cases refused with
    | some outcome => exact ⟨hd, fun _ => hcovered⟩
    | none =>
      refine withFlag_spec hd hcovered (withLock_spec hd
        ((enrolledForUnlock_spec hd hcovered).seq fun found d' hd' => ?_))
      obtain ⟨hd, hcovered⟩ := hd'
      cases found with
      | error outcome => exact ⟨hd, fun _ => hcovered⟩
      | ok state =>
        refine (OffDevice.act (by simp)).seq hd fun succeeds => ?_
        cases succeeds with
        | false => exact ⟨hd, fun _ => hcovered⟩
        | true =>
          refine OffDevice.beginHelloUnlock.seq hd fun begun => ?_
          cases begun with
          | error outcome => exact ⟨hd, fun _ => hcovered⟩
          | ok start_epoch =>
            exact OffDevice.helloUnlockCeremony.upholds hd (fun _ _ _ _ => eq_of_not_callsDevice)
              fun _ => ⟨hd, fun _ => hcovered⟩

/-- The removal takes the active credential away before the record. -/
theorem removeRetired_spec {context : RequestContext} (hd : d.Sound)
    (hcovered : d.Covered abandoned ∅) (hstate : AfterRetirement state d) :
    KeepsSound true (removeRetired context state : Code P _) (Settles abandoned) d := by
  cases state with
  | pendingRemoval id => exact ⟨hd, fun _ => hcovered⟩
  | enrollment vault_id key_epoch installation_key credential_id pending prf_salt protector =>
    rcases hstate with ⟨hunbound, -⟩ | ⟨hstore, hretired⟩
    · cases hunbound
    · have hactive : d.active = some credential_id := by
        unfold Device.active
        rw [hstore]
        rfl
      have hpending : d.pendingRemoval = none := by
        unfold Device.pendingRemoval
        rw [hstore]
        exact (hretired _ rfl).2
      refine OffDevice.boundTo.seq hd fun bound => ?_
      cases bound with
      | false => exact settles_failed hd
      | true =>
        refine checkingFirst_spec hd hcovered (withLock_spec hd (checkingFirst_spec hd hcovered
          (OffDevice.boundTo.seq hd fun bound => ?_)))
        cases bound with
        | false => exact settles_failed hd
        | true =>
          refine callDevice hd fun done d' hanswer => ?_
          cases done with
          | false =>
            obtain rfl : d' = d := hanswer
            exact ⟨hd, fun _ => hcovered⟩
          | true =>
            obtain rfl : d' = d.drop true credential_id := hanswer
            have hdrop : (d.drop true credential_id).Sound := hd.drop (.inl rfl)
            have hkept : (d.drop true credential_id).Covered abandoned ∅ :=
              fun id hid => hcovered id hid.1
            refine upholds_bind.mpr (removeWindowsHelloState_spec hdrop (fun r => ?_) fun r hr => ?_)
            · -- The record is gone, and the active credential was the only one that it had.
              have hgone : ((d.drop true credential_id).withStore none).Covered abandoned ∅ := by
                rintro id ⟨hid, hne⟩
                rcases hcovered id hid with (hrefers | hrefers) | habandoned
                · rw [hactive, Option.some.injEq] at hrefers
                  exact absurd hrefers.symm hne
                · rw [hpending] at hrefers
                  cases hrefers
                · exact .inr habandoned
              split_ifs
              · exact ⟨hdrop.withStore_none, fun _ => hgone⟩
              · exact ⟨hdrop.withStore_none, fun _ => hgone⟩
            · rw [hr]
              exact ⟨hdrop, fun _ => hkept⟩

theorem removeWindowsHello_spec {context : RequestContext} (hd : d.Sound)
    (hcovered : d.Covered abandoned ∅) :
    KeepsSound true (removeWindowsHello context : Code P _) (Settles abandoned) d := by
  refine (OffDevice.act (by simp)).seq hd fun succeeds => ?_
  cases succeeds with
  | false => exact settles_failed hd
  | true =>
    refine checkingFirst_spec hd hcovered (withFlag_spec hd hcovered (withLock_spec hd
      (upholds_bind.mpr (loadWindowsHelloState_spec hd fun loaded hok hnone => ?_))))
    cases loaded with
    | error error =>
      cases error with
      | notFound =>
        refine (ensureAbsentWindowsHelloState_spec hd (hnone rfl)).seq fun done d' hd' => ?_
        subst hd'
        cases done with
        | true => exact ⟨hd, fun _ => hcovered⟩
        | false => exact ⟨hd, fun _ => hcovered⟩
      | invalid => exact settles_failed hd
      | failed => exact settles_failed hd
      | published => exact settles_failed hd
    | ok state =>
      refine (retryPersistedWindowsHelloRetirement_spec hd hcovered (hok state rfl)).seq
        fun retired d' hd' => ?_
      obtain ⟨retired, state⟩ := retired
      cases retired with
      | false => exact ⟨hd'.1, fun _ => hd'.2.1⟩
      | true => exact removeRetired_spec hd'.1 hd'.2.1 (hd'.2.2 rfl)

end

end

end Librarian.Agent
