import Librarian.Agent.VaultAgent
import Librarian.Core.Prepared

/-!
# Storing a mutation

`apply_record_mutation` and `persist_mutation`. An application is one transaction, which compares
what is stored with what the mutation was prepared from, and a second read after its commit. SQLite
runs the transactions one after another, and one that does not commit leaves no trace; other writers
may come between the commit and the second read.
-/

namespace Librarian.Agent

open Librarian.Core Librarian.Format

/-- `StorageError`, as far as `apply_record_mutation` returns it. -/
inductive ApplyError
  | filesystem
  | sqlite
  | schema
  | resourceLimit
  | conflict
  | integrity
  | aborted
  deriving DecidableEq, Repr

/-- The errors of `apply_to_expected_records`. -/
def ApplyError.ofRows : Core.StorageError → ApplyError
  | .schema => .schema
  | .conflict => .conflict

/-- `StorageError`, as far as the checks after a commit return it. -/
inductive CommittedError
  | filesystem
  | sqlite
  | schema
  | resourceLimit
  deriving DecidableEq, Repr

/-- The same errors, as `apply_record_mutation` returns them. -/
def ApplyError.ofCommitted : CommittedError → ApplyError
  | .filesystem => .filesystem
  | .sqlite => .sqlite
  | .schema => .schema
  | .resourceLimit => .resourceLimit

/-- What the file system, SQLite and the caller answer during one application: before the
transaction, at its statements, in `before_commit`, at the commit, and after it. -/
structure Application where
  inputs : Except ApplyError Unit := .ok ()
  statements : Except ApplyError Unit := .ok ()
  before_commit : Except ApplyError Unit := .ok ()
  commit : Except ApplyError Unit := .ok ()
  committed : Except CommittedError Unit := .ok ()

/-- The statement that changes a row. The record id is the key of the table, a statement has to
affect one row, and the rows are read back in the order of their ids. -/
def executeMutation (rows : List EncryptedRecord) (mutation : PreparedRecordMutation) :
    Except ApplyError (List EncryptedRecord) :=
  match mutation.kind with
  | .insert => do
    let envelope ← mutation.envelope.okOr .schema
    if rows.any fun row => row.id = mutation.id then throw .sqlite
    return Keyed.sortByKey EncryptedRecord.id (rows ++ [⟨mutation.id, envelope⟩])
  | .update => do
    let envelope ← mutation.envelope.okOr .schema
    if (rows.filter fun row => row.id = mutation.id).length ≠ 1 then throw .conflict
    return rows.map fun row => if row.id = mutation.id then ⟨mutation.id, envelope⟩ else row
  | .delete => do
    if (rows.filter fun row => row.id = mutation.id).length ≠ 1 then throw .conflict
    return Keyed.eraseKey EncryptedRecord.id mutation.id rows

/-- The transaction of `apply_record_mutation`: what the file holds after its commit. -/
def transact (file expected : Snapshot) (mutation : PreparedRecordMutation) (o : Application) :
    Except ApplyError Snapshot := do
  o.inputs
  if file.header ≠ expected.header ∨ file.manifest_envelope ≠ expected.manifest_envelope ∨
      file.records ≠ expected.records then
    throw .conflict
  let records ← executeMutation file.records mutation
  o.statements
  o.before_commit
  o.commit
  return ⟨file.header, mutation.manifest_envelope, records⟩

/-- The rest of `apply_record_mutation`, which reads the file again. -/
def verifyCommitted (file expected : Snapshot) (mutation : PreparedRecordMutation)
    (o : Application) : Except ApplyError Unit := do
  o.committed.mapErr ApplyError.ofCommitted
  let records ← (applyToExpectedRecords expected.records mutation).mapErr ApplyError.ofRows
  if file.header ≠ expected.header ∨ file.manifest_envelope ≠ mutation.manifest_envelope ∨
      file.records ≠ records then
    throw .integrity

/-- Only the caller aborts, and it is not asked after the commit. -/
theorem verifyCommitted_ne_aborted (file expected : Snapshot) (mutation : PreparedRecordMutation)
    (o : Application) : verifyCommitted file expected mutation o ≠ .error .aborted := by
  intro h
  simp only [verifyCommitted, Except.bind_eq_error, Except.mapErr_eq_error, Except.throw_eq,
    Except.ite_error_eq_error, Except.pure_eq, reduceCtorEq, and_false, or_false, exists_const] at h
  rcases h with ⟨e, -, he⟩ | ⟨-, -, e, -, he⟩
  · cases e <;> cases he
  · cases e <;> cases he

/-- `commit_record_mutation`, as a change of the session. -/
def commitInPlace (session : UnlockedVault) (mutation : PreparedRecordMutation) :
    Except RecordOperationError RecordId × UnlockedVault :=
  match commitRecordMutation session mutation with
  | .ok (session, id) => (.ok id, session)
  | .error e => (.error e, session)

/-- A transaction commits on the very snapshot that the mutation was prepared from. -/
theorem transact_eq_ok {file expected file' : Snapshot} {mutation : PreparedRecordMutation}
    {o : Application} (h : transact file expected mutation o = .ok file') :
    file = expected ∧ ∃ records, executeMutation file.records mutation = .ok records ∧
      file' = ⟨file.header, mutation.manifest_envelope, records⟩ := by
  simp only [transact, Except.bind_eq_ok, Except.throw_eq, Except.error_bind,
    Except.ite_error_eq_ok, Except.pure_eq, Except.ok.injEq] at h
  obtain ⟨_, -, hsame, records, hrecords, _, -, _, -, _, -, rfl⟩ := h
  simp only [not_or, not_not] at hsame
  refine ⟨?_, records, hrecords, rfl⟩
  obtain ⟨hheader, hmanifest, hrows⟩ := hsame
  cases file
  cases expected
  simp_all

section

variable {rows rows' : List EncryptedRecord} {mutation : PreparedRecordMutation}

/-- The rows with a key, when there are any. -/
theorem exists_row_of_filter {id : RecordId}
    (h : (rows.filter fun row => row.id = id).length = 1) : ∃ row ∈ rows, row.id = id := by
  obtain ⟨row, hrow⟩ := List.length_eq_one_iff.mp h
  have hmem : row ∈ rows.filter fun row => row.id = id := by
    rw [hrow]
    exact List.mem_singleton_self row
  rw [List.mem_filter, decide_eq_true_eq] at hmem
  exact ⟨row, hmem.1, hmem.2⟩

/-- `apply_to_expected_records` says what the rows of the table are after the statement. -/
theorem applyToExpectedRecords_of_execute (hascending : Keyed.Ascending EncryptedRecord.id rows)
    (h : executeMutation rows mutation = .ok rows') :
    applyToExpectedRecords rows mutation = .ok rows' := by
  unfold executeMutation at h
  unfold applyToExpectedRecords
  cases hkind : mutation.kind with
  | insert =>
    simp only [hkind, Except.bind_eq_ok, Option.okOr_eq_ok, Except.throw_eq, Except.error_bind,
      Except.ite_error_eq_ok, Except.pure_eq, Except.ok.injEq] at h
    obtain ⟨envelope, henvelope, -, rfl⟩ := h
    simp [henvelope]
  | update =>
    simp only [hkind, Except.bind_eq_ok, Option.okOr_eq_ok, Except.throw_eq, Except.error_bind,
      Except.ite_error_eq_ok, Except.pure_eq, Except.ok.injEq, not_not] at h
    obtain ⟨envelope, henvelope, hone, rfl⟩ := h
    obtain ⟨row, hrow, hid⟩ := exists_row_of_filter hone
    have hreplaced : Keyed.replaceFirst EncryptedRecord.id ⟨mutation.id, envelope⟩ rows = some
        (rows.map fun row => if row.id = mutation.id then ⟨mutation.id, envelope⟩ else row) := by
      rw [hascending.replaceFirst_eq_map ⟨row, hrow, hid⟩]
      -- The two conditions are decided by different instances.
      refine congrArg some (List.map_congr_left fun a _ => ?_)
      split_ifs <;> rfl
    simp [henvelope, hreplaced, (hascending.replaceFirst hreplaced).sortByKey_eq]
  | delete =>
    simp only [hkind, Except.throw_eq, Except.error_bind,
      Except.ite_error_eq_ok, Except.pure_eq, Except.ok.injEq, not_not] at h
    obtain ⟨hone, rfl⟩ := h
    have hlt := Keyed.eraseKey_length_lt (exists_row_of_filter hone)
    simp [hlt.ne, (hascending.eraseKey mutation.id).sortByKey_eq]

end

/-- The end of `persist_mutation` advances the session, or it fails and drops it. -/
theorem VaultAgent.commitRecordMutation_cases (agent : VaultAgent) (permit : OperationPermit)
    (prepared : PreparedRecordMutation) :
    (∃ session session' id, agent.session = some session ∧
      agent.operationIsAuthorized permit = true ∧
      Core.commitRecordMutation session prepared = .ok (session', id) ∧
      agent.commitRecordMutation permit prepared = (.ok id, { agent with
        session := some session'
        authenticated_manifest := some prepared.manifest_envelope })) ∨
    ∃ e, agent.commitRecordMutation permit prepared = (.error e, agent.lock) := by
  unfold VaultAgent.commitRecordMutation
  by_cases hauthorized : agent.operationIsAuthorized permit = true
  · rw [if_neg (not_not.mpr hauthorized)]
    cases hsession : agent.session with
    | none => simp [VaultAgent.operationIsAuthorized, hsession] at hauthorized
    | some session =>
      dsimp only
      cases hcommit : Core.commitRecordMutation session prepared with
      | error e => exact .inr ⟨.failed, rfl⟩
      | ok result => exact .inl ⟨session, result.1, result.2, rfl, hauthorized, hcommit, rfl⟩
  · rw [if_pos hauthorized]
    exact .inr ⟨.locked, rfl⟩

/-- A commit changes the manifest of the session only. -/
theorem commitRecordMutation_eq_ok {session session' : UnlockedVault}
    {prepared : PreparedRecordMutation} {id : RecordId}
    (h : Core.commitRecordMutation session prepared = .ok (session', id)) :
    session' = { session with manifest := prepared.next_manifest } ∧ id = prepared.id ∧
      session.manifest.generation = prepared.expected_generation := by
  simp only [Core.commitRecordMutation, Except.throw_eq, Except.error_bind, Except.pure_eq,
    Except.bind_eq_ok, Except.ite_error_eq_ok, not_not, Except.ok.injEq, Prod.mk.injEq] at h
  obtain ⟨hgeneration, -, -, -, rfl, rfl⟩ := h
  exact ⟨rfl, rfl, hgeneration⟩

/-! ## Sessions of one vault -/

/-- A session with the root key authenticates the metadata of a snapshot. -/
def OpensSnapshot (P : Primitives) (root : Bytes 32) (snapshot : Snapshot)
    (session : UnlockedVault) : Prop :=
  session.vault_root_key = root ∧ VaultHeader.decode snapshot.header = .ok session.header ∧
    decryptManifest P session snapshot.manifest_envelope = .ok session.manifest

section

variable {P : Primitives} {root : Bytes 32} {snapshot : Snapshot}

/-- Decrypting a manifest depends on the root key and the header only. -/
theorem OpensSnapshot.unique {session session' : UnlockedVault}
    (h : OpensSnapshot P root snapshot session) (h' : OpensSnapshot P root snapshot session') :
    session = session' := by
  obtain ⟨hkey, hheader, hmanifest⟩ := h
  obtain ⟨hkey', hheader', hmanifest'⟩ := h'
  obtain ⟨key, header, manifest⟩ := session
  obtain ⟨key', header', manifest'⟩ := session'
  obtain rfl : key = root := hkey
  obtain rfl : key' = key := hkey'
  rw [hheader, Except.ok.injEq] at hheader'
  obtain rfl : header = header' := hheader'
  have hsame : decryptManifest P ⟨key', header, manifest⟩ snapshot.manifest_envelope =
      decryptManifest P ⟨key', header, manifest'⟩ snapshot.manifest_envelope := rfl
  rw [hmanifest, hmanifest', Except.ok.injEq] at hsame
  obtain rfl : manifest = manifest' := hsame
  rfl

/-- An unlock yields a session that opens the file. -/
theorem opens_of_authenticateVaultRootKey {header : VaultHeader} {envelope : ManifestEnvelope}
    {records : List EncryptedRecord} {cancelled : ℕ → Bool} {i : ℕ} {session : UnlockedVault}
    (hheader : VaultHeader.decode snapshot.header = .ok header)
    (henvelope : ManifestEnvelope.decode snapshot.manifest_envelope = .ok envelope)
    (h : authenticateVaultRootKey P root header envelope records cancelled i = .ok session) :
    OpensSnapshot P root snapshot session := by
  simp only [authenticateVaultRootKey, Except.bind_eq_ok, Except.pure_eq, Option.okOr_eq_ok,
    Except.mapErr_eq_ok] at h
  obtain ⟨manifest_key, hkey, plaintext, hdecrypt, manifest, hmanifest, h⟩ := h
  split_ifs at h
  all_goals simp only [Except.throw_eq, Except.error_bind, reduceCtorEq, Except.bind_eq_ok,
    Except.ok.injEq] at h
  obtain ⟨_, -, rfl⟩ := h
  refine ⟨rfl, hheader, ?_⟩
  simp [decryptManifest, henvelope, hkey, hdecrypt, hmanifest]

/-- Storing a session stores that one, or keeps the one that was there. -/
theorem VaultAgent.storeSession_session {agent : VaultAgent} {session σ : UnlockedVault}
    {snapshot : Snapshot} {session_id : ℕ}
    (h : (agent.storeSession session snapshot session_id).2.session = some σ) :
    σ = session ∨ agent.session = some σ := by
  unfold VaultAgent.storeSession VaultAgent.advanceAuthorizationEpoch at h
  cases hnext : checkedAddOne agent.authorization_epoch with
  | none =>
    rw [hnext] at h
    exact .inr h
  | some next =>
    rw [hnext] at h
    exact .inl (Option.some.inj h).symm

end

/-! ## A whole mutation -/

/-- What one mutation meets on its way: whether the file can be read, the clock, the answers of
`should_cancel` during the preparation and after it, the random bytes, and the application. -/
structure Circumstances where
  readable : Bool := true
  now : Option UInt64 := some 0
  should_cancel : ℕ → Bool := fun _ => false
  cancelled : Bool := false
  entropy : Entropy := []
  application : Application := {}

/-- The end of a mutation: what is returned, the agent, the file, and what belongs to the change that
has become durable. -/
structure Mutated (α : Type) where
  result : Except AccountError α
  agent : VaultAgent
  file : Snapshot
  durable : Option α

/-- A mutation of a vault agent that nobody else writes the file of, from the permit to the end of
`persist_mutation`. -/
def VaultAgent.mutate {P : Primitives} {α : Type} (agent : VaultAgent) (file : Snapshot)
    (change : Change P α) (o : Circumstances) : Mutated α :=
  match agent.prepare change (if o.readable then some file else none) o.now o.should_cancel
      o.entropy with
  | (.error e, agent) => ⟨.error e, agent, file, none⟩
  | (.ok (permit, snapshot, prepared, value), agent) =>
    if change.checksAgain ∧ o.cancelled then ⟨.error .aborted, agent, file, none⟩
    else if ¬agent.operationIsAuthorized permit then ⟨.error .locked, agent, file, none⟩
    else
      match transact file snapshot prepared o.application with
      | .error .aborted => ⟨.error .aborted, agent, file, none⟩
      | .error _ => ⟨.error .failed, agent.lock, file, none⟩
      | .ok file =>
        -- From here on the change is durable, whatever is returned.
        match verifyCommitted file snapshot prepared o.application with
        | .error .aborted => ⟨.error .aborted, agent, file, some value⟩
        | .error _ => ⟨.error .failed, agent.lock, file, some value⟩
        | .ok () =>
          match agent.commitRecordMutation permit prepared with
          | (.error e, agent) => ⟨.error e, agent, file, some value⟩
          | (.ok _, agent) => ⟨.ok value, agent, file, some value⟩

/-- A record operation that succeeds has handed the core the file and the session. -/
theorem VaultAgent.withSnapshot_eq_ok {agent agent' : VaultAgent} {α : Type}
    {stored : Option Snapshot} {core : UnlockedVault → Snapshot → Except RecordOperationError α}
    {permit : OperationPermit} {snapshot : Snapshot} {value : α}
    (h : agent.withSnapshot stored core = (.ok (permit, snapshot, value), agent')) :
    agent' = agent ∧ stored = some snapshot ∧
      agent.authenticated_header = some snapshot.header ∧
      agent.authenticated_manifest = some snapshot.manifest_envelope ∧
      ∃ session, agent.session = some session ∧ core session snapshot = .ok value := by
  unfold VaultAgent.withSnapshot at h
  cases hpermit : agent.beginOperation with
  | none => simp [hpermit] at h
  | some permit' =>
    cases stored with
    | none => simp [hpermit, VaultAgent.loadAuthenticatedSnapshot] at h
    | some snapshot' =>
      by_cases hraw : agent.authenticated_header = some snapshot'.header ∧
          agent.authenticated_manifest = some snapshot'.manifest_envelope
      · simp only [hpermit, VaultAgent.loadAuthenticatedSnapshot, hraw, and_self, if_true] at h
        cases hsession : agent.session with
        | none => simp [hsession] at h
        | some session =>
          simp only [hsession] at h
          cases hcore : core session snapshot' with
          | error e =>
            rw [hcore] at h
            cases e <;> simp at h
          | ok value' =>
            rw [hcore] at h
            simp only [Prod.mk.injEq, Except.ok.injEq] at h
            obtain ⟨⟨-, rfl, rfl⟩, rfl⟩ := h
            exact ⟨rfl, rfl, hraw.1, hraw.2, session, rfl, hcore⟩
      · simp [hpermit, VaultAgent.loadAuthenticatedSnapshot, hraw] at h

/-! ## The changes as mutations -/

/-- The mutation that a change asks for. -/
def Change.mutation {P : Primitives} {α : Type} (now : UInt64) : Change P α → Mutation P
  | .addWebsiteAccount input => .addWebsiteAccount input now
  | .updateWebsiteAccount id input => .updateWebsiteAccount id input now
  | .deleteWebsiteAccount id => .deleteWebsiteAccount id now
  | .addPasskey input excluded creation_state => .addPasskey input excluded creation_state now
  | .signPasskeyAssertion rp_id credential_id client_data_hash =>
    .passkeyAssertion rp_id credential_id client_data_hash now
  | .deletePasskey credential_id => .deletePasskey credential_id now
  | .confirmPasskeyCreation credential_id => .confirmPasskeyCreation credential_id now

theorem Change.prepare_of_core {P : Primitives} {α : Type} {change : Change P α}
    {session : UnlockedVault} {snapshot : Snapshot} {now : UInt64} {should_cancel : ℕ → Bool}
    {entropy : Entropy} {prepared : PreparedRecordMutation} {value : α}
    (h : change.core session snapshot now should_cancel entropy = .ok (prepared, value)) :
    (change.mutation now).prepare ⟨session, snapshot⟩ should_cancel entropy = .ok prepared := by
  cases change with
  | addWebsiteAccount input =>
    obtain ⟨result, hok, hresult⟩ := Except.map_eq_ok.mp h
    exact Except.map_eq_ok.mpr ⟨result, hok, congrArg Prod.fst hresult⟩
  | updateWebsiteAccount id input =>
    obtain ⟨result, hok, hresult⟩ := Except.map_eq_ok.mp h
    exact Except.map_eq_ok.mpr ⟨result, hok, congrArg Prod.fst hresult⟩
  | deleteWebsiteAccount id =>
    obtain ⟨result, hok, hresult⟩ := Except.map_eq_ok.mp h
    exact Except.map_eq_ok.mpr ⟨result, hok, congrArg Prod.fst hresult⟩
  | addPasskey input excluded creation_state =>
    obtain ⟨result, hok, hresult⟩ := Except.map_eq_ok.mp h
    exact Except.map_eq_ok.mpr ⟨result, hok, congrArg Prod.fst hresult⟩
  | signPasskeyAssertion rp_id credential_id client_data_hash =>
    obtain ⟨result, hok, hresult⟩ := Except.map_eq_ok.mp h
    exact Except.map_eq_ok.mpr ⟨result, hok, congrArg Prod.fst hresult⟩
  | deletePasskey credential_id =>
    obtain ⟨result, hok, hresult⟩ := Except.map_eq_ok.mp h
    exact Except.map_eq_ok.mpr ⟨result, hok, congrArg Prod.fst hresult⟩
  | confirmPasskeyCreation credential_id =>
    obtain ⟨result, hok, hresult⟩ := Except.map_eq_ok.mp h
    exact Except.map_eq_ok.mpr ⟨result, hok, congrArg Prod.fst hresult⟩

end Librarian.Agent
