import Librarian.Agent.Handlers
import Librarian.Lib.Conc.Environment

/-!
# Creating a vault, file by file

`VaultAgent::create_with_before_publish` and the request around it, down to the calls of the file
system. A directory maps names to files. Other processes may create, replace or remove the name of
the vault between any two steps, and every step may fail.

With the directory a scene keeps what an observer of the call notes: the file that it has reserved,
the files whose names it has removed or whose bytes it has written, and what has gone wrong.
-/

namespace Librarian.Agent.Creation

open Conc Librarian.Core Librarian.Protocol

/-! ## Directories -/

/-- The suffixes of the files that SQLite keeps beside a database. -/
inductive Sidecar
  | wal
  | shm
  deriving DecidableEq, Repr

/-- The names that the creation of a vault deals with. -/
inductive FileName
  | vault
  /-- `.librarian-stage-<process>-<sequence>`. -/
  | staging (sequence : ℕ)
  /-- `sqlite_sidecar`. -/
  | sidecar (path : FileName) (suffix : Sidecar)
  deriving DecidableEq, Repr

/-- The files of a directory, by their identities. -/
structure Directory where
  names : FileName → Option ℕ
  /-- What a file holds, when it is a vault. -/
  contents : ℕ → Option Snapshot
  /-- An identity that no file has had. -/
  next : ℕ
  bounded : ∀ name file, names name = some file → file < next

namespace Directory

/-- A new and empty file. -/
def create (d : Directory) (name : FileName) : Directory where
  names := Function.update d.names name (some d.next)
  contents := Function.update d.contents d.next none
  next := d.next + 1
  bounded other file h := by
    by_cases hname : other = name
    · subst hname
      rw [Function.update_self, Option.some.injEq] at h
      omega
    · rw [Function.update_of_ne hname] at h
      have hlt := d.bounded other file h
      omega

/-- A second name for a file. -/
def link (d : Directory) (source target : FileName) : Directory where
  names := Function.update d.names target (d.names source)
  contents := d.contents
  next := d.next
  bounded other file h := by
    by_cases hname : other = target
    · subst hname
      rw [Function.update_self] at h
      exact d.bounded source file h
    · rw [Function.update_of_ne hname] at h
      exact d.bounded other file h

/-- Removes a name. -/
def unlink (d : Directory) (name : FileName) : Directory where
  names := Function.update d.names name none
  contents := d.contents
  next := d.next
  bounded other file h := by
    by_cases hname : other = name
    · subst hname
      rw [Function.update_self] at h
      cases h
    · rw [Function.update_of_ne hname] at h
      exact d.bounded other file h

/-- Writes to a file. -/
def write (d : Directory) (file : ℕ) (image : Option Snapshot) : Directory :=
  { d with contents := Function.update d.contents file image }

@[simp]
theorem create_names (d : Directory) (name other : FileName) :
    (d.create name).names other = if other = name then some d.next else d.names other :=
  Function.update_apply ..

@[simp]
theorem link_names (d : Directory) (source target other : FileName) :
    (d.link source target).names other =
      if other = target then d.names source else d.names other :=
  Function.update_apply ..

@[simp]
theorem unlink_names (d : Directory) (name other : FileName) :
    (d.unlink name).names other = if other = name then none else d.names other :=
  Function.update_apply ..

end Directory

/-- What an observer of a creation sees. -/
structure Scene where
  directory : Directory
  /-- The published state of the agent. -/
  state : AgentState
  agent : VaultAgent
  /-- The file that the call has reserved. -/
  staged : Option ℕ
  /-- The call has linked the staged file to the name of the vault. -/
  linked : Bool
  /-- The name of the vault has been changed by another process since then. -/
  disturbed : Bool
  /-- The files whose names the call has removed, or whose bytes it has written. -/
  touched : List ℕ
  /-- A removal has failed: the call could not open, compare or unlink a file that was there. -/
  removal_failed : Bool
  /-- After it has installed its vault, the request has been found cancelled, late or overtaken. -/
  interrupted : Bool
  response : Option ExecutionOutcome

/-- Before the call. -/
def Scene.start (directory : Directory) (state : AgentState) (agent : VaultAgent) : Scene where
  directory := directory
  state := state
  agent := agent
  staged := none
  linked := false
  disturbed := false
  touched := []
  removal_failed := false
  interrupted := false
  response := none

/-! ## Steps -/

/-- What the outside answers at one step. -/
structure Answers where
  succeeds : Bool := true
  sequence : Option ℕ := none
  unix_time_ms : Option UInt64 := none
  entropy : List (List UInt8) := []
  session_id : Option ℕ := none
  epoch : Option ℕ := none
  reserved : Option ExecutionOutcome := none

/-- The result of `create_staging_reservation`. -/
inductive Reservation
  | reserved (file : ℕ)
  | alreadyExists
  | failed
  deriving DecidableEq, Repr

/-- What a request may be interrupted by. -/
inductive Interruption
  | cancelled
  | deadline
  | lockActive
  deriving DecidableEq, Repr

/-- The steps of a creation. -/
inductive Call : Type 1
  /-- `validate_new_target`. -/
  | validateNewTarget
  /-- `NEXT_STAGING_ID`. -/
  | nextStagingId
  | createStagingReservation (sequence : ℕ)
  /-- The clock, `create_vault` of the core, and `next_session_id`. -/
  | createVault (password : MasterPassword)
  /-- `initialize_database`, through the reservation. -/
  | initializeDatabase (file : ℕ) (header manifest : List UInt8)
  | ensureSidecarsAbsent (path : FileName)
  /-- `open_regular_file_guard`, to look at a file or to remove it. -/
  | openGuard (removing : Bool) (path : FileName)
  /-- `guarded_files_match`, to look at a file or to remove it. -/
  | guardedFilesMatch (removing : Bool) (left right : ℕ)
  /-- The checks of `before_publish`, under the commit gate and the ownership registry. -/
  | beforePublish
  | hardLink (source target : FileName)
  | removeFile (path : FileName)
  | syncParentDirectory
  /-- `read_guarded_empty_vault`: the file and its bytes. -/
  | readGuardedEmptyVault (path : FileName)
  | loadState
  | storeState (state : AgentState)
  | vaultInstall (agent : VaultAgent)
  /-- `advance_epoch_without_cancellation`, with the new epoch. -/
  | advanceEpoch
  | interruptedBy (interruption : Interruption)
  /-- The reservation of the idempotency key: what to answer instead of an execution. -/
  | idempotencyReserve
  /-- A step of the runtime that may fail. -/
  | attempt
  | writeResponse (outcome : ExecutionOutcome)

namespace Call

/-- The types of the results. -/
abbrev Result : Call → Type
  | validateNewTarget | beforePublish | hardLink _ _ => Except CreateError Unit
  | nextStagingId | advanceEpoch => Option ℕ
  | createStagingReservation _ => Reservation
  | createVault _ => Option (CreatedVault × ℕ)
  | openGuard _ _ => Option ℕ
  | initializeDatabase _ _ _ | ensureSidecarsAbsent _ | guardedFilesMatch _ _ _ | removeFile _
  | syncParentDirectory | interruptedBy _ | attempt => Bool
  | readGuardedEmptyVault _ => Option (ℕ × Snapshot)
  | loadState => AgentState
  | idempotencyReserve => Option ExecutionOutcome
  | storeState _ | vaultInstall _ | writeResponse _ => Unit

variable (P : Primitives)

/-- The clock, the core and the session counter. -/
def coreCreate (password : MasterPassword) (o : Answers) : Option (CreatedVault × ℕ) := do
  let created_at_ms ← o.unix_time_ms
  let (created, _) ← (Core.createVault P password created_at_ms o.entropy).toOption
  return (created, ← o.session_id)

/-- What a step does. -/
def perform : (a : Call) → Answers → Scene → a.Result × Scene
  | validateNewTarget, o, s =>
    if ¬o.succeeds then (.error .failed, s)
    else if s.directory.names .vault = none then (.ok (), s)
    else (.error .alreadyExists, s)
  | nextStagingId, o, s => (o.sequence, s)
  | createStagingReservation sequence, o, s =>
    if ¬o.succeeds then (.failed, s)
    else if s.directory.names (.staging sequence) ≠ none then (.alreadyExists, s)
    else (.reserved s.directory.next,
      { s with
        directory := s.directory.create (.staging sequence)
        staged := some s.directory.next })
  | createVault password, o, s => (coreCreate P password o, s)
  | initializeDatabase file header manifest, o, s =>
    -- A write that fails may have written a part.
    (o.succeeds,
      { s with
        directory := s.directory.write file
          (if o.succeeds then some ⟨header, manifest, []⟩ else none)
        touched := file :: s.touched })
  | ensureSidecarsAbsent path, o, s =>
    (o.succeeds && decide (s.directory.names (.sidecar path .wal) = none ∧
      s.directory.names (.sidecar path .shm) = none), s)
  | openGuard removing path, o, s =>
    if o.succeeds then (s.directory.names path, s)
    else (none,
      { s with
        removal_failed := s.removal_failed || removing && (s.directory.names path).isSome })
  | guardedFilesMatch removing left right, o, s =>
    if o.succeeds then (decide (left = right), s)
    else (false, { s with removal_failed := s.removal_failed || removing })
  | beforePublish, o, s =>
    if o.succeeds ∧ s.state = .noVault then (.ok (), s) else (.error .failed, s)
  | hardLink source target, o, s =>
    if ¬o.succeeds ∨ s.directory.names source = none then (.error .failed, s)
    else if s.directory.names target ≠ none then (.error .alreadyExists, s)
    else (.ok (), { s with directory := s.directory.link source target, linked := true })
  | removeFile path, o, s =>
    match s.directory.names path with
    | none => (false, s)
    | some file =>
      if o.succeeds then
        (true, { s with directory := s.directory.unlink path, touched := file :: s.touched })
      else (false, { s with removal_failed := true })
  | syncParentDirectory, o, s => (o.succeeds, s)
  | readGuardedEmptyVault path, o, s =>
    (do
      if ¬o.succeeds then failure
      let file ← s.directory.names path
      let snapshot ← s.directory.contents file
      if snapshot.records ≠ [] then failure
      return (file, snapshot), s)
  | loadState, _, s => (s.state, s)
  | storeState state, _, s => ((), { s with state := state })
  | vaultInstall agent, _, s => ((), { s with agent := agent })
  | advanceEpoch, o, s => (o.epoch, s)
  | interruptedBy _, o, s =>
    (o.succeeds,
      { s with interrupted := s.interrupted || o.succeeds && s.agent.session.isSome })
  | idempotencyReserve, o, s => (o.reserved, s)
  | attempt, o, s => (o.succeeds, s)
  | writeResponse outcome, _, s => ((), { s with response := some outcome })

end Call

/-- The creation of a vault as a machine. It holds its mutexes against other requests, which do not
change the scene. -/
abbrev machine (P : Primitives) : Machine where
  State := Scene
  Oracle := Answers
  Mutex := Empty
  Action := Call
  Result := Call.Result
  perform := Call.perform P

/-- What another process may do: give the name of the vault to a file of its own, or remove it. -/
structure Outside (s : Scene) (directory : Directory) : Prop where
  names : ∀ name, name ≠ .vault → directory.names name = s.directory.names name
  /-- The staged file belongs to the call. -/
  foreign : ∀ file, s.staged = some file → directory.names .vault = some file →
    s.directory.names .vault = some file
  contents : ∀ file, s.staged = some file → directory.contents file = s.directory.contents file

/-- The scene after a move of another process. -/
def Scene.after (s : Scene) (directory : Directory) : Scene :=
  { s with
    directory := directory
    disturbed := s.disturbed ||
      s.linked && decide (directory.names .vault ≠ s.directory.names .vault) }

/-- After each step of the call, other processes may move. -/
def environment (P : Primitives) : Environment (machine P) Scene := fun s a r s' =>
  ∃ o directory, Outside (Call.perform P a o s).2 directory ∧ r = (Call.perform P a o s).1 ∧
    s' = (Call.perform P a o s).2.after directory

/-! ## The programs -/

section

variable {P : Primitives}

/-- A program of steps. -/
abbrev Steps (P : Primitives) (α : Type) : Type 1 := Prog (machine P) α

/-- One step. -/
abbrev step (a : Call) : Steps P a.Result := Prog.act (M := machine P) a

/-- `MAX_STAGING_ATTEMPTS`. -/
def maxStagingAttempts : ℕ := 128

/-- The loop of `reserve_staging_file`. The result has the sequence number and the file. -/
def reserveLoop : ℕ → Steps P (Except CreateError (ℕ × ℕ))
  | 0 => return .error .failed
  | attempts + 1 => do
    match ← step .nextStagingId with
    | none => return .error .failed
    | some sequence =>
      match ← step (.createStagingReservation sequence) with
      | .reserved file => return .ok (sequence, file)
      | .alreadyExists => reserveLoop attempts
      | .failed => return .error .failed

/-- `reserve_staging_file`. -/
def reserveStagingFile : Steps P (Except CreateError (ℕ × ℕ)) := do
  match ← step .validateNewTarget with
  | .error e => return .error e
  | .ok () => reserveLoop maxStagingAttempts

/-- Whether the link names the staged file and has no sidecars. -/
def publicationIsValid (file : ℕ) (guard : Option ℕ) : Steps P Bool := do
  match guard with
  | none => return false
  | some published =>
    if ¬(← step (.guardedFilesMatch false file published)) then return false
    step (.ensureSidecarsAbsent .vault)

/-- `publish_staged_vault_with_before_link`. -/
def publishStagedVault (sequence file : ℕ) : Steps P (Except CreateError ℕ) := do
  if ¬(← step (.ensureSidecarsAbsent .vault)) then return .error .failed
  if ¬(← step .attempt) then return .error .failed
  match ← step (.openGuard false (.staging sequence)) with
  | none => return .error .failed
  | some current =>
    if ¬(← step (.guardedFilesMatch false file current)) then return .error .failed
    match ← step .beforePublish with
    | .error e => return .error e
    | .ok () =>
      match ← step (.hardLink (.staging sequence) .vault) with
      | .error e => return .error e
      | .ok () =>
        let guard ← step (.openGuard false .vault)
        if ¬(← publicationIsValid file guard) then
          let _ ← step (.removeFile .vault)
          return .error .failed
        return .ok (guard.getD file)

/-- `seal_published_vault`. -/
def sealPublishedVault (published : ℕ) : Steps P (Except CreateError ℕ) := do
  match ← step (.openGuard false .vault) with
  | none => return .error .failed
  | some sealed =>
    if ¬(← step (.guardedFilesMatch false published sealed)) then return .error .failed
    if ¬(← step (.ensureSidecarsAbsent .vault)) then return .error .failed
    return .ok sealed

/-- `verify_published_vault`. -/
def verifyPublishedVault (published : ℕ) (header manifest : List UInt8) :
    Steps P (Except CreateError Unit) := do
  match ← step (.readGuardedEmptyVault .vault) with
  | none => return .error .failed
  | some (file, snapshot) =>
    if ¬(← step (.guardedFilesMatch false published file)) then return .error .failed
    if snapshot.header ≠ header ∨ snapshot.manifest_envelope ≠ manifest then
      return .error .failed
    return .ok ()

/-- `remove_target_if_guarded_matches`. -/
def removeTargetIfGuardedMatches (published : ℕ) : Steps P Unit := do
  match ← step (.openGuard true .vault) with
  | none => return ()
  | some current =>
    if ¬(← step (.guardedFilesMatch true published current)) then return ()
    let _ ← step (.removeFile .vault)
    return ()

/-- The drop of a `StagedVault`. -/
def dropStaged (sequence : ℕ) : Steps P Unit := do
  let _ ← step (.removeFile (.staging sequence))
  let _ ← step (.removeFile (.sidecar (.staging sequence) .wal))
  let _ ← step (.removeFile (.sidecar (.staging sequence) .shm))
  return ()

/-- `create_with_before_publish` after the publication. -/
def settlePublished (sequence published : ℕ) (created : CreatedVault × ℕ) :
    Steps P (Except CreateError (CreatedVault × ℕ)) := do
  if ¬(← step (.removeFile (.staging sequence))) then
    let _ ← step (.removeFile .vault)
    return .error .failed
  match ← sealPublishedVault published with
  | .error e =>
    removeTargetIfGuardedMatches published
    return .error e
  | .ok sealed =>
    if ¬(← step .syncParentDirectory) then
      let _ ← step (.removeFile .vault)
      let _ ← step .syncParentDirectory
      return .error .failed
    match ← verifyPublishedVault sealed created.1.header created.1.manifest_envelope with
    | .error e =>
      removeTargetIfGuardedMatches sealed
      let _ ← step .syncParentDirectory
      return .error e
    | .ok () => return .ok created

/-- `create_with_before_publish` while it has a staged file. -/
def createStaged (password : MasterPassword) (sequence file : ℕ) :
    Steps P (Except CreateError (CreatedVault × ℕ)) := do
  match ← step (.createVault password) with
  | none => return .error .failed
  | some created =>
    if ¬(← step (.initializeDatabase file created.1.header created.1.manifest_envelope)) then
      return .error .failed
    if ¬(← step (.ensureSidecarsAbsent (.staging sequence))) then return .error .failed
    match ← publishStagedVault sequence file with
    | .error e => return .error e
    | .ok published => settlePublished sequence published created

/-- `VaultAgent::create_with_before_publish`. The result has the bytes and the session of the new
vault, and the id of that session. -/
def createWithBeforePublish (password : MasterPassword) :
    Steps P (Except CreateError (CreatedVault × ℕ)) := do
  -- `bind_vault_path`
  if ¬(← step .attempt) then return .error .failed
  match ← step .validateNewTarget with
  | .error e => return .error e
  | .ok () =>
    match ← reserveStagingFile with
    | .error e => return .error e
    | .ok (sequence, file) =>
      let result ← createStaged password sequence file
      dropStaged sequence
      return result

/-- The answer of `create_vault` to a creation that has failed. -/
def creationFailed (error : CreateError) : Steps P Outcome := do
  match error with
  | .alreadyExists => return .ok .conflict
  | .failed =>
    if ← step (.interruptedBy .cancelled) then return .ok .cancelled
    if ← step (.interruptedBy .deadline) then return .ok .deadline
    return .ok .failed

/-- What `create_vault` does with a published vault: the ownership registry, the idempotency state,
the agent, the epoch and the state. -/
def installCreated (created : CreatedVault × ℕ) : Steps P Outcome := do
  if ¬(← step .attempt) then return .error .internal
  if ¬(← step .attempt) then return .error .internal
  step (.vaultInstall (.created created.1 created.2))
  match ← step .advanceEpoch with
  | none => return .error .internal
  | some epoch =>
    step (.storeState .unlocked)
    return .ok (.success (.status .unlocked epoch))

/-- `create_vault`. -/
def createVault (password : String) : Steps P Outcome := do
  if (← step .loadState) ≠ .noVault then return .ok .conflict
  if ¬(← step .attempt) then return .ok .busy
  if ← step (.interruptedBy .cancelled) then return .ok .cancelled
  if ← step (.interruptedBy .deadline) then return .ok .deadline
  if ← step (.interruptedBy .lockActive) then return .ok .busy
  match MasterPassword.new password with
  | none => return .ok .invalid
  | some password =>
    match ← createWithBeforePublish password with
    | .error error => creationFailed error
    | .ok created => installCreated created

/-- `execute_idempotent` around it. -/
def executeCreate (password : String) : Steps P Outcome := do
  match ← step .idempotencyReserve with
  | some outcome => return .ok outcome
  | none =>
    match ← createVault password with
    | .error e => return .error e
    | .ok outcome =>
      if ¬(← step .attempt) then return .error .internal
      return .ok outcome

/-- The checks of `finish_dispatch` on an outcome. -/
def recheckOutcome (outcome : ExecutionOutcome) : Steps P ExecutionOutcome := do
  if ← step (.interruptedBy .cancelled) then return .cancelled
  if outcome.error = none then
    if ← step (.interruptedBy .cancelled) then return .cancelled
    if ← step (.interruptedBy .deadline) then return .deadline
    if outcome.replayed then return outcome
    if ← step (.interruptedBy .lockActive) then return .locked
    if (← step .loadState) ≠ .unlocked then return .locked
    return outcome
  return outcome

/-- A `CreateVault` request, from its execution to its response. An error of the runtime, or of the
connection, ends it without one. -/
def createVaultRequest (password : String) : Steps P Unit := do
  match ← executeCreate password with
  | .error _ => return ()
  | .ok outcome =>
    if ¬(← step .attempt) then return ()
    let outcome ← recheckOutcome outcome
    step (.writeResponse outcome)

end

end Librarian.Agent.Creation
