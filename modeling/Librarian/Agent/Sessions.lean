import Librarian.Agent.PasskeyRuns
import Librarian.Core.WindowsHello

/-!
# The session of a vault agent

A vault agent holds its session in four fields, which an unlock and a creation set together and which
every failure clears together. A record operation may end at many points: with an error of the
request, which leaves the agent and the file as they were; with a failure, which locks the agent,
possibly after the change has become durable; or with success, after which the manifest that the
agent has authenticated is the one in the file.
-/

namespace Librarian.Agent

open Librarian.Core Librarian.Format

variable {P : Primitives}

/-! ## Unlocking -/

/-- The two ways to unlock. -/
inductive UnlockMethod
  | masterPassword (password : MasterPassword)
  | windowsHello (prf_output installation_key : Bytes 32) (credential_id protector : List UInt8)

/-- The function of the core that an unlock calls. -/
def UnlockMethod.core (P : Primitives) (method : UnlockMethod) (snapshot : Snapshot)
    (cancelled : ℕ → Bool) : Except UnlockError UnlockedVault :=
  match method with
  | .masterPassword password => unlockVault P password snapshot cancelled
  | .windowsHello prf_output installation_key credential_id protector =>
    unlockVaultWithWindowsHello P prf_output installation_key credential_id protector snapshot
      cancelled

/-- What one unlock meets: what the two reads of the file return, none also for a path that could
not be bound, and the answers of `is_cancelled` at the start, in the core, before the session is
stored and after it. -/
structure UnlockAttempt where
  method : UnlockMethod
  stored : Option Snapshot
  current : Option Snapshot
  cancelled_first : Bool := false
  cancelled : ℕ → Bool := fun _ => false
  cancelled_before : Bool := false
  cancelled_after : Bool := false

/-- `next_session_id`, on the process-wide counter. -/
def nextSessionId (counter : ℕ) : Option ℕ × ℕ :=
  match checkedAddOne counter with
  | none => (none, counter)
  | some next => (some counter, next)

/-- `unlock_with_core`, with the process-wide counter of sessions. -/
def VaultAgent.unlock (P : Primitives) (agent : VaultAgent) (counter : ℕ) (o : UnlockAttempt) :
    Except UnlockError Unit × VaultAgent × ℕ :=
  let agent := agent.lock
  if o.cancelled_first then (.error .cancelled, agent, counter)
  else
    match o.stored with
    | none => (.error .failed, agent, counter)
    | some snapshot =>
      match o.method.core P snapshot o.cancelled with
      | .error e => (.error e, agent, counter)
      | .ok session =>
        if o.cancelled_before then (.error .cancelled, agent, counter)
        else if o.current ≠ some snapshot then (.error .failed, agent, counter)
        else
          match nextSessionId counter with
          | (none, counter) => (.error .failed, agent, counter)
          | (some session_id, counter) =>
            match agent.storeSession session snapshot session_id with
            | (false, agent) => (.error .failed, agent, counter)
            | (true, agent) =>
              if o.cancelled_after then (.error .cancelled, agent.lock, counter)
              else (.ok (), agent, counter)

/-! ## The four fields -/

/-- The agent has no session. -/
structure VaultAgent.Absent (agent : VaultAgent) : Prop where
  session : agent.session = none
  authenticated_header : agent.authenticated_header = none
  authenticated_manifest : agent.authenticated_manifest = none
  session_id : agent.session_id = none

/-- The agent has a session. -/
structure VaultAgent.Present (agent : VaultAgent) (vault : UnlockedVault)
    (header manifest : List UInt8) (id : ℕ) : Prop where
  session : agent.session = some vault
  authenticated_header : agent.authenticated_header = some header
  authenticated_manifest : agent.authenticated_manifest = some manifest
  session_id : agent.session_id = some id

/-- A session was made from these bytes. -/
structure Authenticates (P : Primitives) (vault : UnlockedVault) (header manifest : List UInt8) :
    Prop where
  header : VaultHeader.decode header = .ok vault.header
  manifest : decryptManifest P vault manifest = .ok vault.manifest

/-- The four fields are all absent or all present, and in the latter case belong together. -/
def VaultAgent.Consistent (P : Primitives) (agent : VaultAgent) : Prop :=
  agent.Absent ∨ ∃ session header manifest session_id,
    agent.Present session header manifest session_id ∧ Authenticates P session header manifest

section

variable {agent : VaultAgent}

theorem VaultAgent.absent_openLocked : VaultAgent.openLocked.Absent := ⟨rfl, rfl, rfl, rfl⟩

theorem VaultAgent.absent_lock (agent : VaultAgent) : agent.lock.Absent := by
  unfold VaultAgent.lock VaultAgent.advanceAuthorizationEpoch
  split <;> exact ⟨rfl, rfl, rfl, rfl⟩

/-- An agent without a session that stores one has all four fields; or it stores none. -/
theorem VaultAgent.storeSession_cases (agent : VaultAgent) (session : UnlockedVault)
    (snapshot : Snapshot) (session_id : ℕ) :
    (∃ epoch, agent.storeSession session snapshot session_id =
      (true, ⟨some session, some snapshot.header, some snapshot.manifest_envelope, some session_id,
        epoch⟩)) ∨
    agent.storeSession session snapshot session_id = (false, agent) := by
  unfold VaultAgent.storeSession VaultAgent.advanceAuthorizationEpoch
  cases checkedAddOne agent.authorization_epoch with
  | none => exact .inr rfl
  | some next => exact .inl ⟨next, rfl⟩

/-- Both unlocks yield a session that opens the file. -/
theorem UnlockMethod.opens {method : UnlockMethod} {snapshot : Snapshot} {cancelled : ℕ → Bool}
    {session : UnlockedVault} (h : method.core P snapshot cancelled = .ok session) :
    ∃ root, OpensSnapshot P root snapshot session := by
  cases method with
  | masterPassword password =>
    simp only [UnlockMethod.core, Core.unlockVault, Except.throw_eq, Except.error_bind,
      Except.bind_eq_ok, Except.ite_error_eq_ok, Except.mapErr_eq_ok, Option.okOr_eq_ok] at h
    obtain ⟨-, header, hheader, envelope, henvelope, _, -, -, _, -, root, -, hsession⟩ := h
    exact ⟨root, opens_of_authenticateVaultRootKey hheader henvelope hsession⟩
  | windowsHello prf_output installation_key credential_id protector =>
    simp only [UnlockMethod.core, Core.unlockVaultWithWindowsHello, Except.throw_eq,
      Except.error_bind, Except.bind_eq_ok, Except.ite_error_eq_ok, Except.mapErr_eq_ok,
      Option.okOr_eq_ok] at h
    obtain ⟨-, header, hheader, envelope, henvelope, _, -, -, _, -, -, root, -, hsession⟩ := h
    exact ⟨root, opens_of_authenticateVaultRootKey hheader henvelope hsession⟩

/-- How an unlock ends: with a new session from the counter, or without one. -/
theorem VaultAgent.unlock_cases (P : Primitives) (agent : VaultAgent) (counter : ℕ)
    (o : UnlockAttempt) :
    (∃ session snapshot epoch root, OpensSnapshot P root snapshot session ∧
      agent.unlock P counter o = (.ok (), ⟨some session, some snapshot.header,
        some snapshot.manifest_envelope, some counter, epoch⟩, counter + 1)) ∨
    ∃ e agent' counter', agent.unlock P counter o = (.error e, agent', counter') ∧ agent'.Absent ∧
      counter ≤ counter' := by
  have hlock := agent.absent_lock
  unfold VaultAgent.unlock
  dsimp only
  by_cases hfirst : o.cancelled_first = true
  · rw [if_pos hfirst]
    exact .inr ⟨_, _, _, rfl, hlock, le_rfl⟩
  rw [if_neg hfirst]
  cases o.stored with
  | none => exact .inr ⟨_, _, _, rfl, hlock, le_rfl⟩
  | some snapshot =>
    dsimp only
    cases hcore : o.method.core P snapshot o.cancelled with
    | error e => exact .inr ⟨_, _, _, rfl, hlock, le_rfl⟩
    | ok session =>
      dsimp only
      by_cases hbefore : o.cancelled_before = true
      · rw [if_pos hbefore]
        exact .inr ⟨_, _, _, rfl, hlock, le_rfl⟩
      by_cases hsame : o.current = some snapshot
      · rw [if_neg hbefore, if_neg (not_not.mpr hsame)]
        unfold nextSessionId checkedAddOne
        by_cases hcounter : counter < u64Max
        · rw [if_pos hcounter]
          dsimp only
          rcases agent.lock.storeSession_cases session snapshot counter with ⟨epoch, hstore⟩ | hstore
          · rw [hstore]
            dsimp only
            by_cases hafter : o.cancelled_after = true
            · rw [if_pos hafter]
              exact .inr ⟨_, _, _, rfl, VaultAgent.absent_lock _, Nat.le_succ _⟩
            · rw [if_neg hafter]
              obtain ⟨root, hopens⟩ := UnlockMethod.opens hcore
              exact .inl ⟨session, snapshot, epoch, root, hopens, rfl⟩
          · rw [hstore]
            exact .inr ⟨_, _, _, rfl, hlock, Nat.le_succ _⟩
        · rw [if_neg hcounter]
          exact .inr ⟨_, _, _, rfl, hlock, le_rfl⟩
      · rw [if_neg hbefore, if_pos hsame]
        exact .inr ⟨_, _, _, rfl, hlock, le_rfl⟩

theorem VaultAgent.consistent_unlock (agent : VaultAgent) (counter : ℕ) (o : UnlockAttempt) :
    (agent.unlock P counter o).2.1.Consistent P := by
  rcases agent.unlock_cases P counter o with ⟨session, snapshot, epoch, root, hopens, heq⟩ |
    ⟨e, agent', counter', heq, habsent, -⟩
  · rw [heq]
    exact .inr ⟨_, _, _, _, ⟨rfl, rfl, rfl, rfl⟩, hopens.2.1, hopens.2.2⟩
  · rw [heq]
    exact .inl habsent

end

/-! ## Record operations -/

/-- A record operation: a read or a change. -/
inductive RecordOperation (P : Primitives) (α : Type)
  | read (query : Query P α)
  | change (change : Change P α)

/-- One record operation of an agent on its file. A read makes no use of the clock, the random bytes
and the application. -/
def AgentFile.perform {α : Type} (s : AgentFile) (operation : RecordOperation P α)
    (o : Circumstances) : Except AccountError α × AgentFile :=
  match operation with
  | .read query =>
    let done := s.agent.read query (if o.readable then some s.file else none) o.should_cancel
    (done.1, ⟨done.2, s.file⟩)
  | .change change =>
    let done := s.agent.mutate s.file change o
    (done.result, ⟨done.agent, done.file⟩)

/-- How a record operation that began with a session may end. The errors of the request change
nothing, a failure drops the session, and a success leaves a session whose manifest is the one in the
file. That the session is missing is not an answer. -/
def Settled (P : Primitives) {α : Type} (s s' : AgentFile) : Except AccountError α → Prop
  | .error .notFound => s' = s
  | .error .conflict => s' = s
  | .error .aborted => s' = s
  | .error .failed => s'.agent.Absent
  | .error .locked => False
  | .ok _ => ∃ session, s'.agent.session = some session ∧
    s'.agent.authenticated_manifest = some s'.file.manifest_envelope ∧
    decryptManifest P session s'.file.manifest_envelope = .ok session.manifest

section

variable {agent : VaultAgent} {session : UnlockedVault} {header manifest : List UInt8}
  {session_id : ℕ}

namespace VaultAgent.Present

variable (h : agent.Present session header manifest session_id)

include h

theorem beginOperation : agent.beginOperation = some ⟨session_id, agent.authorization_epoch⟩ := by
  unfold VaultAgent.beginOperation
  rw [h.session, h.session_id]

theorem operationIsAuthorized :
    agent.operationIsAuthorized ⟨session_id, agent.authorization_epoch⟩ = true := by
  simp [VaultAgent.operationIsAuthorized, h.session, h.session_id]

/-- A record operation gets its answer from the core, or it ends before or in the core: with an error
of the request, or with a failure that locks the agent. -/
theorem withSnapshot_cases {α : Type} (stored : Option Snapshot)
    (core : UnlockedVault → Snapshot → Except RecordOperationError α) :
    (∃ snapshot value, stored = some snapshot ∧ snapshot.header = header ∧
      snapshot.manifest_envelope = manifest ∧ core session snapshot = .ok value ∧
      agent.withSnapshot stored core =
        (.ok (⟨session_id, agent.authorization_epoch⟩, snapshot, value), agent)) ∨
    (∃ e, (e = .notFound ∨ e = .conflict ∨ e = .aborted) ∧
      agent.withSnapshot stored core = (.error e, agent)) ∨
    agent.withSnapshot stored core = (.error .failed, agent.lock) := by
  unfold VaultAgent.withSnapshot
  rw [h.beginOperation]
  dsimp only
  cases stored with
  | none => exact .inr (.inr rfl)
  | some snapshot =>
    unfold VaultAgent.loadAuthenticatedSnapshot
    rw [h.authenticated_header, h.authenticated_manifest]
    simp only [Option.some.injEq]
    by_cases hraw : header = snapshot.header ∧ manifest = snapshot.manifest_envelope
    · rw [if_pos hraw]
      dsimp only
      rw [h.session]
      dsimp only
      cases hcore : core session snapshot with
      | ok value => exact .inl ⟨snapshot, value, rfl, hraw.1.symm, hraw.2.symm, hcore, rfl⟩
      | error e =>
        cases e with
        | failed => exact .inr (.inr rfl)
        | notFound => exact .inr (.inl ⟨.notFound, by simp, rfl⟩)
        | conflict => exact .inr (.inl ⟨.conflict, by simp, rfl⟩)
        | cancelled => exact .inr (.inl ⟨.aborted, by simp, rfl⟩)
    · rw [if_neg hraw]
      exact .inr (.inr rfl)

/-- The end of `persist_mutation` succeeds with the next session, or fails and locks the agent. -/
theorem commitRecordMutation_cases (prepared : PreparedRecordMutation) :
    (∃ id, agent.commitRecordMutation ⟨session_id, agent.authorization_epoch⟩ prepared =
      (.ok id, { agent with
        session := some { session with manifest := prepared.next_manifest }
        authenticated_manifest := some prepared.manifest_envelope })) ∨
    agent.commitRecordMutation ⟨session_id, agent.authorization_epoch⟩ prepared =
      (.error .failed, agent.lock) := by
  unfold VaultAgent.commitRecordMutation
  rw [if_neg (not_not.mpr h.operationIsAuthorized), h.session]
  dsimp only
  cases hcommit : Core.commitRecordMutation session prepared with
  | error e => exact .inr rfl
  | ok result =>
    obtain ⟨session', id⟩ := result
    obtain ⟨rfl, -, -⟩ := commitRecordMutation_eq_ok hcommit
    exact .inl ⟨id, rfl⟩

end VaultAgent.Present

/-- The session after a change that has become durable. -/
theorem Authenticates.committed (hP : Lawful P) (h : Authenticates P session header manifest)
    {prepared : PreparedRecordMutation} (hseals : SealsNext P session prepared) :
    Authenticates P { session with manifest := prepared.next_manifest } header
      prepared.manifest_envelope :=
  ⟨h.header, hseals.sealed.decryptManifest hP rfl rfl⟩

/-- What the agent holds of the file after an operation has succeeded: what it held before, or what
the operation has sealed. -/
inductive Advances (P : Primitives) (session : UnlockedVault) (manifest : List UInt8) :
    UnlockedVault → List UInt8 → Prop
  | unchanged : Advances P session manifest session manifest
  | sealed {prepared : PreparedRecordMutation} (seals : SealsNext P session prepared) :
      Advances P session manifest { session with manifest := prepared.next_manifest }
        prepared.manifest_envelope

/-- How a record operation ends, when it begins with a session. -/
inductive Performed (P : Primitives) {α : Type} (s : AgentFile) (session : UnlockedVault)
    (header manifest : List UInt8) (session_id : ℕ) : Except AccountError α → AgentFile → Prop
  | refused (e : AccountError) (kind : e = .notFound ∨ e = .conflict ∨ e = .aborted) :
      Performed P s session header manifest session_id (.error e) s
  | failed (file : Snapshot) :
      Performed P s session header manifest session_id (.error .failed) ⟨s.agent.lock, file⟩
  | succeeded (value : α) (agent : VaultAgent) (file : Snapshot) (session' : UnlockedVault)
      (epoch : agent.authorization_epoch = s.agent.authorization_epoch)
      (present : agent.Present session' header file.manifest_envelope session_id)
      (advances : Advances P session manifest session' file.manifest_envelope) :
      Performed P s session header manifest session_id (.ok value) ⟨agent, file⟩

theorem VaultAgent.Present.read {s : AgentFile}
    (h : s.agent.Present session header manifest session_id) {α : Type} (query : Query P α)
    (o : Circumstances) :
    Performed P s session header manifest session_id (s.perform (.read query) o).1
      (s.perform (.read query) o).2 := by
  unfold AgentFile.perform VaultAgent.read
  dsimp only
  rcases h.withSnapshot_cases (if o.readable then some s.file else none)
      (fun session snapshot => query.core session snapshot o.should_cancel) with
    ⟨snapshot, value, hstored, hheader, hmanifest, -, heq⟩ | ⟨e, he, heq⟩ | heq
  · obtain rfl : s.file = snapshot := by
      split_ifs at hstored
      exact Option.some.inj hstored
    rw [heq]
    dsimp only
    rw [if_pos h.operationIsAuthorized]
    refine .succeeded value s.agent s.file session rfl ?_ ?_
    · rw [hmanifest]
      exact h
    · rw [hmanifest]
      exact .unchanged
  · rw [heq]
    exact .refused e he
  · rw [heq]
    exact .failed s.file

/-- A preparation succeeds with what it has sealed, or ends as `withSnapshot` does. -/
theorem VaultAgent.Present.prepare_cases (h : agent.Present session header manifest session_id)
    {α : Type} (change : Change P α) (stored : Option Snapshot) (now : Option UInt64)
    (should_cancel : ℕ → Bool) (entropy : Entropy) :
    (∃ snapshot prepared value, stored = some snapshot ∧ SealsNext P session prepared ∧
      agent.prepare change stored now should_cancel entropy =
        (.ok (⟨session_id, agent.authorization_epoch⟩, snapshot, prepared, value), agent)) ∨
    (∃ e, (e = .notFound ∨ e = .conflict ∨ e = .aborted) ∧
      agent.prepare change stored now should_cancel entropy = (.error e, agent)) ∨
    agent.prepare change stored now should_cancel entropy = (.error .failed, agent.lock) := by
  unfold VaultAgent.prepare
  rcases h.withSnapshot_cases (α := PreparedRecordMutation × α) stored _ with
    ⟨snapshot, ⟨prepared, value⟩, hstored, -, -, hcore, heq⟩ | hrefused
  · refine .inl ⟨snapshot, prepared, value, hstored, ?_, heq⟩
    cases now with
    | none => cases hcore
    | some now => exact Mutation.prepare_sealsNext (Change.prepare_of_core hcore)
  · exact .inr hrefused

theorem VaultAgent.Present.change {s : AgentFile}
    (h : s.agent.Present session header manifest session_id) {α : Type} (change : Change P α)
    (o : Circumstances) :
    Performed P s session header manifest session_id (s.perform (.change change) o).1
      (s.perform (.change change) o).2 := by
  unfold AgentFile.perform VaultAgent.mutate
  dsimp only
  rcases h.prepare_cases change (if o.readable then some s.file else none) o.now o.should_cancel
      o.entropy with
    ⟨snapshot, prepared, value, hstored, hseals, heq⟩ | ⟨e, he, heq⟩ | heq
  · obtain rfl : s.file = snapshot := by
      split_ifs at hstored
      exact Option.some.inj hstored
    rw [heq]
    dsimp only
    by_cases hcancelled : change.checksAgain = true ∧ o.cancelled = true
    · rw [if_pos hcancelled]
      exact .refused .aborted (by simp)
    rw [if_neg hcancelled, if_neg (not_not.mpr h.operationIsAuthorized)]
    cases htransact : transact s.file s.file prepared o.application with
    | error e =>
      cases e with
      | aborted => exact .refused .aborted (by simp)
      | _ => exact .failed s.file
    | ok file =>
      obtain ⟨-, records, -, rfl⟩ := transact_eq_ok htransact
      dsimp only
      cases hverify : verifyCommitted ⟨s.file.header, prepared.manifest_envelope, records⟩ s.file
        prepared o.application with
      | error e =>
        cases e with
        | aborted => exact absurd hverify (verifyCommitted_ne_aborted _ _ _ _)
        | _ => exact .failed _
      | ok u =>
        dsimp only
        rcases h.commitRecordMutation_cases prepared with ⟨id, hcommit⟩ | hcommit
        · rw [hcommit]
          exact .succeeded value _ _ _ rfl ⟨rfl, h.authenticated_header, rfl, h.session_id⟩
            (.sealed hseals)
        · rw [hcommit]
          exact .failed _
  · rw [heq]
    exact .refused e he
  · rw [heq]
    exact .failed s.file

/-- Every record operation of an agent with a session ends in one of these ways. -/
theorem VaultAgent.Present.perform {s : AgentFile}
    (h : s.agent.Present session header manifest session_id) {α : Type}
    (operation : RecordOperation P α) (o : Circumstances) :
    Performed P s session header manifest session_id (s.perform operation o).1
      (s.perform operation o).2 := by
  cases operation with
  | read query => exact h.read query o
  | change change => exact h.change change o

/-- Without a session a record operation does nothing. -/
theorem VaultAgent.Absent.perform {s : AgentFile} (h : s.agent.Absent) {α : Type}
    (operation : RecordOperation P α) (o : Circumstances) :
    s.perform operation o = (.error .locked, s) := by
  have hbegin : s.agent.beginOperation = none := by
    unfold VaultAgent.beginOperation
    rw [h.session]
  cases operation with
  | read query =>
    unfold AgentFile.perform VaultAgent.read VaultAgent.withSnapshot
    rw [hbegin]
  | change change =>
    unfold AgentFile.perform VaultAgent.mutate VaultAgent.prepare VaultAgent.withSnapshot
    rw [hbegin]

theorem Authenticates.advances (hP : Lawful P) (h : Authenticates P session header manifest)
    {session' : UnlockedVault} {manifest' : List UInt8}
    (hadvances : Advances P session manifest session' manifest') :
    Authenticates P session' header manifest' := by
  cases hadvances with
  | unchanged => exact h
  | sealed hseals => exact h.committed hP hseals

end

/-! ## Reachable states -/

/-- The states that an agent and its file can come to. Other processes may replace the file between
two operations. -/
inductive AgentFile.Reachable (P : Primitives) : AgentFile → Prop
  | created {password : MasterPassword} {created_at_ms : UInt64} {entropy rest : Entropy}
      {vault : CreatedVault} (session_id : ℕ)
      (create : Core.createVault P password created_at_ms entropy = .ok (vault, rest)) :
      Reachable P (AgentFile.created vault session_id)
  | openLocked (file : Snapshot) : Reachable P ⟨VaultAgent.openLocked, file⟩
  | unlock {s : AgentFile} (reachable : Reachable P s) (counter : ℕ) (o : UnlockAttempt) :
      Reachable P ⟨(s.agent.unlock P counter o).2.1, s.file⟩
  | lock {s : AgentFile} (reachable : Reachable P s) : Reachable P ⟨s.agent.lock, s.file⟩
  | perform {s : AgentFile} (reachable : Reachable P s) {α : Type}
      (operation : RecordOperation P α) (o : Circumstances) :
      Reachable P (s.perform operation o).2
  | replaced {s : AgentFile} (reachable : Reachable P s) (file : Snapshot) :
      Reachable P ⟨s.agent, file⟩

/-- A record operation keeps the four fields together. -/
theorem VaultAgent.Consistent.perform (hP : Lawful P) {s : AgentFile} (h : s.agent.Consistent P)
    {α : Type} (operation : RecordOperation P α) (o : Circumstances) :
    (s.perform operation o).2.agent.Consistent P := by
  rcases h with habsent | ⟨session, header, manifest, session_id, hpresent, hauthenticates⟩
  · rw [habsent.perform]
    exact .inl habsent
  · have hperformed := hpresent.perform operation o
    generalize s.perform operation o = done at hperformed
    obtain ⟨result, s'⟩ := done
    cases hperformed with
    | refused e kind =>
      exact .inr ⟨session, header, manifest, session_id, hpresent, hauthenticates⟩
    | failed file => exact .inl (VaultAgent.absent_lock _)
    | succeeded value agent file session' epoch present advances =>
      exact .inr ⟨session', header, _, session_id, present, hauthenticates.advances hP advances⟩

theorem AgentFile.Reachable.consistent (hP : Lawful P) {s : AgentFile} (h : s.Reachable P) :
    s.agent.Consistent P := by
  induction h with
  | created session_id create =>
    obtain ⟨-, hheader, hmanifest⟩ := opens_of_represents (createVault_represents hP create) rfl
    exact .inr ⟨_, _, _, _, ⟨rfl, rfl, rfl, rfl⟩, hheader, hmanifest⟩
  | openLocked file => exact .inl VaultAgent.absent_openLocked
  | unlock reachable counter o ih => exact VaultAgent.consistent_unlock _ counter o
  | lock reachable ih => exact .inl (VaultAgent.absent_lock _)
  | perform reachable operation o ih => exact ih.perform hP operation o
  | replaced reachable file ih => exact ih

/-- In every state that a vault agent can come to, its session is there as a whole or not at all. And
every record operation that begins with a session settles it, whatever the storage, the clock, the
caller and the cancellation answer. -/
theorem record_operations_settle (hP : Lawful P) {s : AgentFile} (h : s.Reachable P) :
    (s.agent.Absent ∨ ∃ session header manifest session_id,
      s.agent.Present session header manifest session_id) ∧
    (s.agent.session.isSome → ∀ (α : Type) (operation : RecordOperation P α) (o : Circumstances),
      Settled P s (s.perform operation o).2 (s.perform operation o).1) := by
  rcases h.consistent hP with habsent | ⟨session, header, manifest, session_id, hpresent,
    hauthenticates⟩
  · refine ⟨.inl habsent, ?_⟩
    rw [habsent.session]
    intro hsome
    cases hsome
  · refine ⟨.inr ⟨session, header, manifest, session_id, hpresent⟩, ?_⟩
    intro _ α operation o
    have hperformed := hpresent.perform operation o
    generalize s.perform operation o = done at hperformed
    obtain ⟨result, s'⟩ := done
    cases hperformed with
    | refused e kind => rcases kind with rfl | rfl | rfl <;> rfl
    | failed file => exact VaultAgent.absent_lock _
    | succeeded value agent file session' epoch present advances =>
      exact ⟨session', present.session, present.authenticated_manifest,
        (hauthenticates.advances hP advances).manifest⟩

/-- The agent that has created the sample vault adds a passkey to it. -/
def performSample (created : CreatedVault) : Except AccountError PasskeyCredential × AgentFile :=
  (AgentFile.created created 1).perform (P := exampleComPrimitives)
    (.change (.addPasskey samplePasskeyInput [] .confirmed))
    { now := some 1
      entropy := [List.replicate 16 1, List.replicate 32 5, List.replicate 32 6,
        List.replicate 24 0, List.replicate 24 0] }

/-- In the sample the operation succeeds, and settles the session. -/
theorem record_operations_settle_sample :
    ∃ created, (performSample created).1.isOk = true ∧
      Settled exampleComPrimitives (AgentFile.created created 1) (performSample created).2
        (performSample created).1 := by
  have hok : sampleCreated.map (fun created => (performSample created.2.1).1.isOk) = some true := by
    decide +kernel
  obtain ⟨⟨password, created, rest⟩, hcreated, hok⟩ := Option.map_eq_some_iff.mp hok
  refine ⟨created, hok, ?_⟩
  simp only [sampleCreated, Option.bind_eq_bind, Option.bind_eq_some_iff, Except.toOption_eq_some,
    Option.pure_def, Option.some.injEq, Prod.mk.injEq] at hcreated
  obtain ⟨password', -, ⟨created', rest'⟩, hcreate, -, rfl, rfl⟩ := hcreated
  exact (record_operations_settle exampleComPrimitives_lawful (.created 1 hcreate)).2 rfl _ _ _

end Librarian.Agent
