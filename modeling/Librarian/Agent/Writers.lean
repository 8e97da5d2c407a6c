import Librarian.Agent.Storage
import Librarian.Core.VaultRun

/-!
# Several writers of one vault file

Any number of vault agents have sessions on the same file, and their loads, preparations,
applications and commits interleave in any order: nothing forces an agent to finish one mutation
before it prepares the next one from the same snapshot.

What keeps the file consistent is the comparison in the transaction. Each mutation seals the next
generation of the manifest, so that a snapshot which a mutation has been applied to never comes back.
-/

namespace Librarian.Agent

open Librarian.Core Librarian.Format

variable {P : Primitives}

/-- A mutation that an agent has prepared, with the snapshot that it was prepared from. -/
structure Attempt where
  writer : ℕ
  permit : OperationPermit
  snapshot : Snapshot
  mutation : PreparedRecordMutation

/-- A mutation that has been applied, with the contents of the file before and after. -/
structure Applied where
  attempt : Attempt
  before : Snapshot
  after : Snapshot

/-- The file, the agents, and how far their mutations have come. -/
structure Writers where
  file : Snapshot
  agents : ℕ → VaultAgent
  loaded : Set (ℕ × OperationPermit × Snapshot)
  prepared : Set Attempt
  /-- The last mutation comes first. -/
  applied : List Applied
  verified : Set Attempt
  reported : Set Attempt

namespace Writers

variable (s : Writers)

/-- Changes one agent. -/
def setAgent (writer : ℕ) (agent : VaultAgent) : Writers :=
  { s with agents := Function.update s.agents writer agent }

/-- `load_authenticated_snapshot`, on a file that may not be readable. -/
def load (writer : ℕ) (permit : OperationPermit) (readable : Bool) : Writers :=
  let loaded := (s.agents writer).loadAuthenticatedSnapshot (if readable then some s.file else none)
  match loaded.1 with
  | .ok snapshot =>
    { s.setAgent writer loaded.2 with loaded := insert (writer, permit, snapshot) s.loaded }
  | .error _ => s.setAgent writer loaded.2

/-- The preparation by the core, and `map_preparation`. -/
def prepare {α : Type} (writer : ℕ) (permit : OperationPermit) (snapshot : Snapshot)
    (result : Except RecordOperationError (PreparedRecordMutation × α)) : Writers :=
  match result with
  | .ok (mutation, _) =>
    { s with prepared := insert ⟨writer, permit, snapshot, mutation⟩ s.prepared }
  | .error .failed => s.setAgent writer (s.agents writer).lock
  | .error _ => s

/-- The first part of `apply_record_mutation`. A mutation that is aborted leaves the session alone,
and every other failure drops it. -/
def apply (attempt : Attempt) (o : Application) : Writers :=
  match transact s.file attempt.snapshot attempt.mutation o with
  | .ok file => { s with file := file, applied := ⟨attempt, s.file, file⟩ :: s.applied }
  | .error .aborted => s
  | .error _ => s.setAgent attempt.writer (s.agents attempt.writer).lock

theorem apply_of_ok {attempt : Attempt} {o : Application} {file : Snapshot}
    (h : transact s.file attempt.snapshot attempt.mutation o = .ok file) :
    s.apply attempt o =
      { s with file := file, applied := ⟨attempt, s.file, file⟩ :: s.applied } := by
  simp [apply, h]

/-- The second part of `apply_record_mutation`. -/
def verify (attempt : Attempt) (o : Application) : Writers :=
  match verifyCommitted s.file attempt.snapshot attempt.mutation o with
  | .ok () => { s with verified := insert attempt s.verified }
  | .error .aborted => s
  | .error _ => s.setAgent attempt.writer (s.agents attempt.writer).lock

/-- The end of `persist_mutation`, with which a mutation is reported successful. -/
def commit (attempt : Attempt) : Writers :=
  let committed := (s.agents attempt.writer).commitRecordMutation attempt.permit attempt.mutation
  match committed.1 with
  | .ok _ =>
    { s.setAgent attempt.writer committed.2 with reported := insert attempt s.reported }
  | .error _ => s.setAgent attempt.writer committed.2

/-- No session and nothing in flight. -/
def start (file : Snapshot) : Writers where
  file := file
  agents _ := .openLocked
  loaded := ∅
  prepared := ∅
  applied := []
  verified := ∅
  reported := ∅

/-- The steps. A vault has one root key, which every way of unlocking it yields. -/
inductive Step (P : Primitives) (root : Bytes 32) : Writers → Writers → Prop
  | opens {s : Writers} (writer : ℕ) {header : VaultHeader} {envelope : ManifestEnvelope}
      {session : UnlockedVault} (session_id : ℕ) (cancelled : ℕ → Bool) (i : ℕ)
      (hheader : VaultHeader.decode s.file.header = .ok header)
      (henvelope : ManifestEnvelope.decode s.file.manifest_envelope = .ok envelope)
      (hsession : authenticateVaultRootKey P root header envelope s.file.records cancelled i =
        .ok session) :
      Step P root s
        (s.setAgent writer ((s.agents writer).storeSession session s.file session_id).2)
  | locks {s : Writers} (writer : ℕ) : Step P root s (s.setAgent writer (s.agents writer).lock)
  | load {s : Writers} (writer : ℕ) {permit : OperationPermit} (readable : Bool)
      (hpermit : (s.agents writer).beginOperation = some permit) :
      Step P root s (s.load writer permit readable)
  | prepare {s : Writers} {writer : ℕ} {permit : OperationPermit} {snapshot : Snapshot}
      {session : UnlockedVault} {α : Type} (change : Change P α) (now : UInt64)
      (should_cancel : ℕ → Bool) (entropy : Entropy)
      (hloaded : (writer, permit, snapshot) ∈ s.loaded)
      (hsession : (s.agents writer).session = some session) :
      Step P root s (s.prepare writer permit snapshot
        (change.core session snapshot now should_cancel entropy))
  | apply {s : Writers} {attempt : Attempt} (o : Application) (hprepared : attempt ∈ s.prepared)
      (hauthorized : (s.agents attempt.writer).operationIsAuthorized attempt.permit = true) :
      Step P root s (s.apply attempt o)
  | verify {s : Writers} {attempt : Attempt} (o : Application)
      (happlied : attempt ∈ s.applied.map Applied.attempt) : Step P root s (s.verify attempt o)
  | commit {s : Writers} {attempt : Attempt} (hverified : attempt ∈ s.verified) :
      Step P root s (s.commit attempt)

/-- The states that writers of a file can reach. -/
inductive Run (P : Primitives) (root : Bytes 32) (file : Snapshot) : Writers → Prop
  | start : Run P root file (start file)
  | step {s s' : Writers} (run : Run P root file s) (step : Step P root s s') : Run P root file s'

end Writers

/-! ## Generations -/

/-- The generation of the manifest in a snapshot. -/
def HasGeneration (P : Primitives) (root : Bytes 32) (snapshot : Snapshot) (generation : ℕ) : Prop :=
  ∃ session, OpensSnapshot P root snapshot session ∧
    session.manifest.generation.toNat = generation

section

variable {root : Bytes 32} {snapshot snapshot' : Snapshot}

theorem HasGeneration.unique {generation generation' : ℕ}
    (h : HasGeneration P root snapshot generation)
    (h' : HasGeneration P root snapshot generation') : generation = generation' := by
  obtain ⟨session, hsession, rfl⟩ := h
  obtain ⟨session', hsession', rfl⟩ := h'
  rw [hsession.unique hsession']

/-- What is known of a mutation that has been prepared. -/
def PreparedFrom (P : Primitives) (root : Bytes 32) (snapshot : Snapshot)
    (prepared : PreparedRecordMutation) : Prop :=
  ∃ (session : UnlockedVault) (mutation : Mutation P) (should_cancel : ℕ → Bool)
    (entropy : Entropy), session.vault_root_key = root ∧
    mutation.prepare ⟨session, snapshot⟩ should_cancel entropy = .ok prepared

/-- A mutation that is applied to its snapshot takes the generation one further. -/
theorem PreparedFrom.hasGeneration (hP : Lawful P) {prepared : PreparedRecordMutation}
    (h : PreparedFrom P root snapshot prepared) (hheader : snapshot'.header = snapshot.header)
    (hmanifest : snapshot'.manifest_envelope = prepared.manifest_envelope) :
    ∃ generation, HasGeneration P root snapshot generation ∧
      HasGeneration P root snapshot' (generation + 1) := by
  obtain ⟨session, mutation, should_cancel, entropy, hkey, hprepare⟩ := h
  obtain ⟨decrypted, hauthentic⟩ := mutation.prepare_authentic hprepare
  have hseals := mutation.prepare_sealsNext hprepare
  refine ⟨session.manifest.generation.toNat, ⟨session, ⟨hkey, hauthentic.header,
    hauthentic.manifest⟩, rfl⟩, { session with manifest := prepared.next_manifest },
    ⟨hkey, ?_, ?_⟩, hseals.generation.2⟩
  · rw [hheader]
    exact hauthentic.header
  · rw [hmanifest]
    exact hseals.sealed.decryptManifest hP rfl rfl

end

/-! ## The invariant -/

/-- The applied mutations lead from the file at the start to the file now. -/
def Follows (file : Snapshot) : List Applied → Snapshot → Prop
  | [], now => now = file
  | done :: rest, now => now = done.after ∧ Follows file rest done.before

/-- What an applied mutation did. -/
structure Applied.Sound (P : Primitives) (root : Bytes 32) (done : Applied) : Prop where
  prepared : PreparedFrom P root done.attempt.snapshot done.attempt.mutation
  before : done.before = done.attempt.snapshot
  header : done.after.header = done.before.header
  manifest : done.after.manifest_envelope = done.attempt.mutation.manifest_envelope

/-- What holds in every state that the writers reach. -/
structure Writers.Sound (P : Primitives) (root : Bytes 32) (file : Snapshot) (s : Writers) :
    Prop where
  keys : ∀ writer session, (s.agents writer).session = some session → session.vault_root_key = root
  prepared : ∀ attempt ∈ s.prepared, PreparedFrom P root attempt.snapshot attempt.mutation
  applied : ∀ done ∈ s.applied, done.Sound P root
  follows : Follows file s.applied s.file
  verified : ∀ attempt ∈ s.verified, attempt ∈ s.applied.map Applied.attempt
  reported : ∀ attempt ∈ s.reported, attempt ∈ s.verified

theorem Applied.Sound.hasGeneration (hP : Lawful P) {root : Bytes 32} {done : Applied}
    (h : done.Sound P root) : ∃ generation, HasGeneration P root done.before generation ∧
      HasGeneration P root done.after (generation + 1) := by
  refine PreparedFrom.hasGeneration hP (h.before ▸ h.prepared) h.header h.manifest

section

variable {root : Bytes 32} {file : Snapshot} {s s' : Writers}

/-- A step that only changes one agent. -/
theorem Writers.Sound.setAgent (h : s.Sound P root file) {writer : ℕ} {agent : VaultAgent}
    (hagent : ∀ session, agent.session = some session → session.vault_root_key = root) :
    (s.setAgent writer agent).Sound P root file where
  keys := by
    intro other session hsession
    unfold Writers.setAgent at hsession
    dsimp only at hsession
    by_cases hother : other = writer
    · subst hother
      rw [Function.update_self] at hsession
      exact hagent session hsession
    · rw [Function.update_of_ne hother] at hsession
      exact h.keys other session hsession
  prepared := h.prepared
  applied := h.applied
  follows := h.follows
  verified := h.verified
  reported := h.reported

theorem Writers.Sound.lockAgent (h : s.Sound P root file) {writer : ℕ} :
    (s.setAgent writer (s.agents writer).lock).Sound P root file :=
  h.setAgent (by simp)

theorem Writers.Sound.step (h : s.Sound P root file) (hstep : Writers.Step P root s s') :
    s'.Sound P root file := by
  cases hstep with
  | opens writer session_id cancelled i hheader henvelope hsession =>
    refine h.setAgent fun σ hσ => ?_
    rcases VaultAgent.storeSession_session hσ with rfl | hold
    · exact (opens_of_authenticateVaultRootKey hheader henvelope hsession).1
    · exact h.keys writer σ hold
  | locks writer => exact h.lockAgent
  | load writer readable hpermit =>
    rename_i permit
    rcases (s.agents writer).loadAuthenticatedSnapshot_cases
      (if readable then some s.file else none) with ⟨snapshot, hload⟩ | hload
    · simp only [Writers.load, hload]
      have hsame : (s.setAgent writer (s.agents writer)).Sound P root file :=
        h.setAgent (h.keys writer)
      exact { hsame with }
    · simp only [Writers.load, hload]
      exact h.lockAgent
  | prepare change now should_cancel entropy hloaded hsession =>
    rename_i writer permit snapshot session α
    unfold Writers.prepare
    cases hcore : change.core session snapshot now should_cancel entropy with
    | ok result =>
      obtain ⟨mutation, value⟩ := result
      refine { h with prepared := ?_ }
      rintro attempt (rfl | hattempt)
      · exact ⟨session, _, should_cancel, entropy, h.keys writer session hsession,
          Change.prepare_of_core hcore⟩
      · exact h.prepared attempt hattempt
    | error error =>
      cases error with
      | failed => exact h.lockAgent
      | notFound => exact h
      | conflict => exact h
      | cancelled => exact h
  | apply o hprepared hauthorized =>
    rename_i attempt
    unfold Writers.apply
    cases htransact : transact s.file attempt.snapshot attempt.mutation o with
    | ok file' =>
      obtain ⟨hsame, records, -, rfl⟩ := transact_eq_ok htransact
      refine { h with applied := ?_, follows := ⟨rfl, h.follows⟩, verified := ?_ }
      · intro done hdone
        rcases List.mem_cons.mp hdone with rfl | hdone
        · exact ⟨h.prepared attempt hprepared, hsame, rfl, rfl⟩
        · exact h.applied done hdone
      · intro other hother
        exact List.mem_cons_of_mem _ (h.verified other hother)
    | error error =>
      cases error with
      | aborted => exact h
      | _ => exact h.lockAgent
  | verify o happlied =>
    rename_i attempt
    unfold Writers.verify
    cases hverify : verifyCommitted s.file attempt.snapshot attempt.mutation o with
    | ok u =>
      refine { h with verified := ?_, reported := ?_ }
      · rintro other (rfl | hother)
        · exact happlied
        · exact h.verified other hother
      · intro other hother
        exact Set.mem_insert_of_mem _ (h.reported other hother)
    | error error =>
      cases error with
      | aborted => exact h
      | _ => exact h.lockAgent
  | commit hverified =>
    rename_i attempt
    unfold Writers.commit
    rcases (s.agents attempt.writer).commitRecordMutation_cases attempt.permit attempt.mutation with
      ⟨session, session', id, hsession, -, hcommit, heq⟩ | ⟨e, heq⟩
    · simp only [heq]
      obtain ⟨rfl, -, -⟩ := commitRecordMutation_eq_ok hcommit
      have hagent : (s.setAgent attempt.writer { s.agents attempt.writer with
          session := some { session with manifest := attempt.mutation.next_manifest }
          authenticated_manifest := some attempt.mutation.manifest_envelope }).Sound P root file := by
        refine h.setAgent ?_
        rintro σ ⟨rfl⟩
        exact h.keys attempt.writer session hsession
      refine { hagent with reported := ?_ }
      rintro other (rfl | hother)
      · exact hverified
      · exact h.reported other hother
    · simp only [heq]
      exact h.lockAgent

theorem Writers.Run.sound (h : Writers.Run P root file s) : s.Sound P root file := by
  induction h with
  | start =>
    exact {
      keys := by simp [Writers.start, VaultAgent.openLocked]
      prepared := by simp [Writers.start]
      applied := by simp [Writers.start]
      follows := rfl
      verified := by simp [Writers.start]
      reported := by simp [Writers.start] }
  | step _ hstep ih => exact ih.step hstep

/-! ## The result -/

/-- Whatever was applied before has an earlier generation. -/
theorem Follows.generation_lt (hP : Lawful P) {applied : List Applied} {now : Snapshot}
    (h : Follows file applied now) (hsound : ∀ done ∈ applied, done.Sound P root) :
    ∀ done ∈ applied, ∃ earlier later, HasGeneration P root done.before earlier ∧
      HasGeneration P root now later ∧ earlier < later := by
  induction applied generalizing now with
  | nil => simp
  | cons latest rest ih =>
    obtain ⟨rfl, hrest⟩ := h
    obtain ⟨generation, hbefore, hafter⟩ :=
      (hsound latest List.mem_cons_self).hasGeneration hP
    intro done hdone
    rcases List.mem_cons.mp hdone with rfl | hdone
    · exact ⟨generation, generation + 1, hbefore, hafter, by omega⟩
    · obtain ⟨earlier, later, hearlier, hlater, hlt⟩ :=
        ih hrest (fun done hdone => hsound done (List.mem_cons_of_mem _ hdone)) done hdone
      obtain rfl := hlater.unique hbefore
      exact ⟨earlier, later + 1, hearlier, hafter, by omega⟩

/-- No snapshot is the basis of two mutations that are applied. -/
theorem Follows.nodup (hP : Lawful P) {applied : List Applied} {now : Snapshot}
    (h : Follows file applied now) (hsound : ∀ done ∈ applied, done.Sound P root) :
    (applied.map fun done => done.attempt.snapshot).Nodup := by
  induction applied generalizing now with
  | nil => simp
  | cons latest rest ih =>
    have hrest : ∀ done ∈ rest, done.Sound P root :=
      fun done hdone => hsound done (List.mem_cons_of_mem _ hdone)
    rw [List.map_cons, List.nodup_cons]
    refine ⟨?_, ih h.2 hrest⟩
    intro hmem
    obtain ⟨done, hdone, hsame⟩ := List.mem_map.mp hmem
    obtain ⟨earlier, later, hearlier, hlater, hlt⟩ := h.2.generation_lt hP hrest done hdone
    rw [(hrest done hdone).before, hsame, ← (hsound latest List.mem_cons_self).before] at hearlier
    have := hearlier.unique hlater
    omega

/-- A step changes the file only by applying a mutation to it. -/
theorem Writers.Step.file_or_applied (h : Writers.Step P root s s') :
    s'.file = s.file ∧ s'.applied = s.applied ∨
      ∃ attempt ∈ s.prepared, s'.applied = ⟨attempt, s.file, s'.file⟩ :: s.applied := by
  cases h with
  | opens => exact .inl ⟨rfl, rfl⟩
  | locks => exact .inl ⟨rfl, rfl⟩
  | load =>
    unfold Writers.load
    dsimp only
    split
    · exact .inl ⟨rfl, rfl⟩
    · exact .inl ⟨rfl, rfl⟩
  | prepare =>
    unfold Writers.prepare
    split
    · exact .inl ⟨rfl, rfl⟩
    · exact .inl ⟨rfl, rfl⟩
    · exact .inl ⟨rfl, rfl⟩
  | apply o hprepared hauthorized =>
    unfold Writers.apply
    split
    · exact .inr ⟨_, hprepared, rfl⟩
    · exact .inl ⟨rfl, rfl⟩
    · exact .inl ⟨rfl, rfl⟩
  | verify =>
    unfold Writers.verify
    split
    · exact .inl ⟨rfl, rfl⟩
    · exact .inl ⟨rfl, rfl⟩
    · exact .inl ⟨rfl, rfl⟩
  | commit =>
    unfold Writers.commit
    dsimp only
    split
    · exact .inl ⟨rfl, rfl⟩
    · exact .inl ⟨rfl, rfl⟩

/-- No update is lost between writers. A mutation that is reported successful has been applied, to
exactly the snapshot that it was prepared from; the applied mutations lead from one content of the
file to the next, each one generation further; no two of them were prepared from the same snapshot;
a mutation whose transaction is refused leaves the file as it was; and `commit_record_mutation`
leaves a session alone that it does not accept the mutation for. -/
theorem no_lost_update (hP : Lawful P) (h : Writers.Run P root file s) :
    (∀ attempt ∈ s.reported, PreparedFrom P root attempt.snapshot attempt.mutation ∧
      ∃ done ∈ s.applied, done.attempt = attempt ∧ done.before = attempt.snapshot) ∧
    (Follows file s.applied s.file ∧ ∀ done ∈ s.applied, ∃ generation,
      HasGeneration P root done.before generation ∧
      HasGeneration P root done.after (generation + 1)) ∧
    (s.applied.map fun done => done.attempt.snapshot).Nodup ∧
    (∀ attempt o e, transact s.file attempt.snapshot attempt.mutation o = .error e →
      (s.apply attempt o).file = s.file ∧ (s.apply attempt o).applied = s.applied) ∧
    (∀ s', Writers.Step P root s s' → s'.file = s.file ∧ s'.applied = s.applied ∨
      ∃ attempt ∈ s.prepared, s'.applied = ⟨attempt, s.file, s'.file⟩ :: s.applied) ∧
    ∀ session mutation e, (commitInPlace session mutation).1 = .error e →
      (commitInPlace session mutation).2 = session := by
  have hsound := h.sound
  refine ⟨?_, ⟨hsound.follows, fun done hdone => (hsound.applied done hdone).hasGeneration hP⟩,
    hsound.follows.nodup hP hsound.applied, ?_, fun s' hstep => hstep.file_or_applied, ?_⟩
  · intro attempt hattempt
    obtain ⟨done, hdone, rfl⟩ :=
      List.mem_map.mp (hsound.verified attempt (hsound.reported attempt hattempt))
    have hdone' := hsound.applied done hdone
    exact ⟨hdone'.prepared, done, hdone, rfl, hdone'.before⟩
  · intro attempt o e herror
    unfold Writers.apply
    rw [herror]
    cases e with
    | aborted => exact ⟨rfl, rfl⟩
    | _ => exact ⟨rfl, rfl⟩
  · intro session mutation e herror
    unfold commitInPlace at herror ⊢
    cases hcommit : commitRecordMutation session mutation with
    | ok result =>
      rw [hcommit] at herror
      cases herror
    | error e => rfl

end

/-! ## A sample writer

One agent adds an account to the empty vault, and the check after the commit fails. -/

/-- What the agent prepares, and the file after its transaction. -/
def sampleWrite : Option (PreparedRecordMutation × Snapshot) := do
  let (prepared, _) ← ((Change.addWebsiteAccount exampleComInput).core sampleVault
    (sampleSnapshot []) 1 (fun _ => false)
    [List.replicate 16 1, List.replicate 24 0, List.replicate 24 0]).toOption
  let file ← (transact (sampleSnapshot []) (sampleSnapshot []) prepared {}).toOption
  return (prepared, file)

/-- The agent of the sample session. -/
def sampleAgent : VaultAgent :=
  (VaultAgent.openLocked.storeSession sampleVault (sampleSnapshot []) 1).2

/-- The sample session as the first writer. -/
def sampleOpened : Writers := (Writers.start (sampleSnapshot [])).setAgent 0 sampleAgent

theorem sampleOpened_run :
    Writers.Run exampleComPrimitives (Bytes.replicate 32 0) (sampleSnapshot []) sampleOpened := by
  have hheader : VaultHeader.decode (sampleSnapshot []).header = .ok sampleVault.header :=
    sampleSnapshot_authentic.header
  have henvelope : ManifestEnvelope.decode (sampleSnapshot []).manifest_envelope =
      .ok ⟨Bytes.replicate 24 0, encodeManifestInto sampleVault.manifest ++ List.replicate 16 0⟩ := by
    decide +kernel
  exact .step .start (.opens 0 1 (fun _ => false) 0 hheader henvelope (by decide +kernel))

/-- The sample session after it has loaded the file. -/
def sampleLoaded : Writers :=
  { sampleOpened.setAgent 0 sampleAgent with loaded := {(0, ⟨1, 1⟩, sampleSnapshot [])} }

theorem sampleLoaded_run :
    Writers.Run exampleComPrimitives (Bytes.replicate 32 0) (sampleSnapshot []) sampleLoaded := by
  have hload : sampleOpened.load 0 ⟨1, 1⟩ true = sampleLoaded := by
    have hagent : sampleAgent.loadAuthenticatedSnapshot (some (sampleSnapshot [])) =
        (.ok (sampleSnapshot []), sampleAgent) :=
      VaultAgent.loadAuthenticatedSnapshot_eq_ok rfl rfl
    have hopened : sampleOpened.agents 0 = sampleAgent := rfl
    simp only [Writers.load, hopened, if_true]
    rw [show sampleOpened.file = sampleSnapshot [] from rfl, hagent]
    simp [sampleLoaded, sampleOpened, Writers.start, Writers.setAgent]
  rw [← hload]
  exact .step sampleOpened_run (.load 0 true rfl)

/-- The sample mutation in flight. -/
def sampleAttempt (prepared : PreparedRecordMutation) : Attempt :=
  ⟨0, ⟨1, 1⟩, sampleSnapshot [], prepared⟩

/-- A writer that has loaded the file prepares a mutation and applies it. -/
theorem Writers.Run.write {root : Bytes 32} {file : Snapshot} {s : Writers}
    (h : Writers.Run P root file s) {writer : ℕ} {permit : OperationPermit}
    {session : UnlockedVault} {α : Type} {change : Change P α} {now : UInt64}
    {should_cancel : ℕ → Bool} {entropy : Entropy} {prepared : PreparedRecordMutation} {value : α}
    {o : Application} {file' : Snapshot} (hloaded : (writer, permit, s.file) ∈ s.loaded)
    (hsession : (s.agents writer).session = some session)
    (hauthorized : (s.agents writer).operationIsAuthorized permit = true)
    (hcore : change.core session s.file now should_cancel entropy = .ok (prepared, value))
    (htransact : transact s.file s.file prepared o = .ok file') :
    ∃ s', Writers.Run P root file s' ∧ s'.file = file' ∧
      s'.applied = ⟨⟨writer, permit, s.file, prepared⟩, s.file, file'⟩ :: s.applied := by
  have hprepare := h.step (.prepare change now should_cancel entropy hloaded hsession)
  rw [hcore] at hprepare
  have hprepared : (⟨writer, permit, s.file, prepared⟩ : Attempt) ∈
      (s.prepare writer permit s.file (.ok (prepared, value))).prepared := Set.mem_insert _ _
  have happly := hprepare.step (.apply o hprepared hauthorized)
  rw [Writers.apply_of_ok _ htransact] at happly
  exact ⟨_, happly, rfl, rfl⟩

theorem sampleWrite_run {prepared : PreparedRecordMutation} {file : Snapshot}
    (h : sampleWrite = some (prepared, file)) :
    ∃ s, Writers.Run exampleComPrimitives (Bytes.replicate 32 0) (sampleSnapshot []) s ∧
      s.file = file ∧ s.applied = [⟨sampleAttempt prepared, sampleSnapshot [], file⟩] := by
  simp only [sampleWrite, Option.bind_eq_bind, Option.bind_eq_some_iff, Except.toOption_eq_some,
    Option.pure_def, Option.some.injEq, Prod.mk.injEq] at h
  obtain ⟨⟨prepared', u⟩, hcore, file', htransact, rfl, rfl⟩ := h
  exact sampleLoaded_run.write (Set.mem_singleton _) rfl rfl hcore htransact

theorem sampleWrite_isSome : sampleWrite.isSome := by decide +kernel

/-- A mutation is applied and its verification fails all the same, which reports a failure for a
change of the file. -/
theorem failure_after_commit :
    ∃ s attempt o, Writers.Run exampleComPrimitives (Bytes.replicate 32 0) (sampleSnapshot []) s ∧
      attempt ∈ s.applied.map Applied.attempt ∧
      verifyCommitted s.file attempt.snapshot attempt.mutation o = .error .filesystem ∧
      attempt.snapshot = sampleSnapshot [] ∧ s.file ≠ sampleSnapshot [] := by
  obtain ⟨⟨prepared, file⟩, hwrite⟩ := Option.isSome_iff_exists.mp sampleWrite_isSome
  obtain ⟨s, hrun, hfile, happlied⟩ := sampleWrite_run hwrite
  refine ⟨s, sampleAttempt prepared, { committed := .error .filesystem }, hrun, ?_, rfl, rfl, ?_⟩
  · rw [happlied]
    exact List.mem_singleton.mpr rfl
  · -- The file is one generation further.
    have hdone := hrun.sound.applied ⟨sampleAttempt prepared, sampleSnapshot [], file⟩ (by
      rw [happlied]
      exact List.mem_singleton.mpr rfl)
    obtain ⟨generation, hbefore, hafter⟩ := hdone.hasGeneration exampleComPrimitives_lawful
    rw [hfile]
    rintro rfl
    have := hbefore.unique hafter
    omega

/-- The sample run applies one mutation. -/
theorem no_lost_update_sample :
    ∃ s, Writers.Run exampleComPrimitives (Bytes.replicate 32 0) (sampleSnapshot []) s ∧
      s.applied.length = 1 ∧
      (s.applied.map fun done => done.attempt.snapshot).Nodup ∧
      Follows (sampleSnapshot []) s.applied s.file := by
  obtain ⟨⟨prepared, file⟩, hwrite⟩ := Option.isSome_iff_exists.mp sampleWrite_isSome
  obtain ⟨s, hrun, -, happlied⟩ := sampleWrite_run hwrite
  obtain ⟨-, ⟨hfollows, -⟩, hnodup, -⟩ := no_lost_update exampleComPrimitives_lawful hrun
  exact ⟨s, hrun, by rw [happlied]; rfl, hnodup, hfollows⟩

end Librarian.Agent
