import Librarian.Agent.PasskeyHistory

/-!
# Runs of passkey operations

The vault file represents a map of records at every moment of a run, whatever the agent knows about
it, and the history tracks that map. From this come the properties of passkeys over whole runs.
-/

namespace Librarian.Agent

open Librarian.Core Librarian.Format

variable {P : Primitives} {root : Bytes 32} {password : MasterPassword}

/-! ## The agent -/

/-- The agent's session belongs to the bytes that it has authenticated. -/
def Coherent (P : Primitives) (root : Bytes 32) (agent : VaultAgent) : Prop :=
  ∀ session, agent.session = some session → session.vault_root_key = root ∧
    ∃ header manifest_envelope, agent.authenticated_header = some header ∧
      agent.authenticated_manifest = some manifest_envelope ∧
      VaultHeader.decode header = .ok session.header ∧
      decryptManifest P session manifest_envelope = .ok session.manifest

theorem coherent_lock (agent : VaultAgent) : Coherent P root agent.lock := by
  simp [Coherent]

/-- A session whose bytes are those of the file opens the file. -/
theorem Coherent.opens {agent : VaultAgent} (h : Coherent P root agent) {session : UnlockedVault}
    (hsession : agent.session = some session) {snapshot : Snapshot}
    (hheader : agent.authenticated_header = some snapshot.header)
    (hmanifest : agent.authenticated_manifest = some snapshot.manifest_envelope) :
    OpensSnapshot P root snapshot session := by
  obtain ⟨hkey, header, manifest_envelope, hheader', hmanifest', hdecode, hdecrypt⟩ :=
    h session hsession
  rw [hheader, Option.some.injEq] at hheader'
  rw [hmanifest, Option.some.injEq] at hmanifest'
  subst hheader' hmanifest'
  exact ⟨hkey, hdecode, hdecrypt⟩

/-- A session of a represented vault opens its file. -/
theorem opens_of_represents {session : UnlockedVault} {file : Snapshot} {V : VaultMap}
    (h : Represents P password ⟨session, file⟩ V) (hkey : session.vault_root_key = root) :
    OpensSnapshot P root file session :=
  ⟨hkey, VaultHeader.decode_encode h.header, h.manifest⟩

/-- An unlock keeps the agent coherent. -/
theorem Coherent.storeSession {agent : VaultAgent} (h : Coherent P root agent)
    {session : UnlockedVault} {snapshot : Snapshot} (hopens : OpensSnapshot P root snapshot session)
    {session_id : ℕ} : Coherent P root (agent.storeSession session snapshot session_id).2 := by
  unfold VaultAgent.storeSession VaultAgent.advanceAuthorizationEpoch
  cases checkedAddOne agent.authorization_epoch with
  | none => exact h
  | some next =>
    rintro σ ⟨rfl⟩
    exact ⟨hopens.1, snapshot.header, snapshot.manifest_envelope, rfl, rfl, hopens.2.1,
      hopens.2.2⟩

/-- The end of a mutation keeps the agent coherent. -/
theorem Coherent.commit (hP : Lawful P) {agent : VaultAgent} (h : Coherent P root agent)
    {session : UnlockedVault} (hsession : agent.session = some session)
    {prepared : PreparedRecordMutation} (hseals : SealsNext P session prepared)
    {permit : OperationPermit} :
    Coherent P root (agent.commitRecordMutation permit prepared).2 := by
  rcases agent.commitRecordMutation_cases permit prepared with
    ⟨session', after, id, hsession', -, hcommit, heq⟩ | ⟨e, heq⟩
  · rw [hsession, Option.some.injEq] at hsession'
    subst hsession'
    obtain ⟨rfl, -, -⟩ := commitRecordMutation_eq_ok hcommit
    obtain ⟨hkey, header, manifest_envelope, hheader, -, hdecode, -⟩ := h session hsession
    rw [heq]
    rintro σ ⟨rfl⟩
    exact ⟨hkey, header, prepared.manifest_envelope, hheader, rfl, hdecode,
      hseals.sealed.decryptManifest hP rfl rfl⟩
  · rw [heq]
    exact coherent_lock agent

/-- A transaction of a represented vault writes what `commit` says. -/
theorem transact_commit {session : UnlockedVault} {file file' snapshot : Snapshot} {V : VaultMap}
    (h : Represents P password ⟨session, file⟩ V) {prepared : PreparedRecordMutation}
    {o : Application} (htransact : transact file snapshot prepared o = .ok file')
    {vault' : StoredVault}
    (hcommit : (⟨session, file⟩ : StoredVault).commit prepared = some vault') :
    vault'.snapshot = file' ∧ vault'.session.vault_root_key = session.vault_root_key := by
  obtain ⟨-, records, hexecute, rfl⟩ := transact_eq_ok htransact
  have hrecords := applyToExpectedRecords_of_execute h.ascending hexecute
  unfold StoredVault.commit at hcommit
  rw [hrecords] at hcommit
  cases hsession : commitRecordMutation session prepared with
  | error e => simp [hsession] at hcommit
  | ok result =>
    obtain ⟨session', id⟩ := result
    simp only [hsession, Option.some.injEq] at hcommit
    subst hcommit
    obtain ⟨rfl, -, -⟩ := commitRecordMutation_eq_ok hsession
    exact ⟨rfl, rfl⟩

/-! ## The operations -/

/-- The file represents the map, and the agent is coherent. -/
structure AgentFile.Represents (P : Primitives) (password : MasterPassword) (root : Bytes 32)
    (s : AgentFile) (V : VaultMap) : Prop where
  file : ∃ session, session.vault_root_key = root ∧ Core.Represents P password ⟨session, s.file⟩ V
  coherent : Coherent P root s.agent

/-- How a mutation ends: without a trace in the file, or with a durable change that may be
reported. -/
def Ends (P : Primitives) (password : MasterPassword) (root : Bytes 32) (file : Snapshot)
    (V : VaultMap) {α : Type} (change : Change P α) (done : Mutated α) : Prop :=
  done.durable = none ∧ done.file = file ∧ (∀ value, done.result ≠ .ok value) ∨
  ∃ value V' session, done.durable = some value ∧ (∀ value', done.result = .ok value' → value' = value) ∧
    session.vault_root_key = root ∧ Represents P password ⟨session, done.file⟩ V' ∧
    PasskeyEffect V (change.durable value) (change.returned value) V'

/-- A preparation leaves the agent as it was, or locks it. -/
theorem VaultAgent.prepare_agent (agent : VaultAgent) {α : Type} (change : Change P α)
    (stored : Option Snapshot) (now : Option UInt64) (should_cancel : ℕ → Bool) (entropy : Entropy) :
    (agent.prepare change stored now should_cancel entropy).2 = agent ∨
      (agent.prepare change stored now should_cancel entropy).2 = agent.lock :=
  (agent.withSnapshot_agent stored _).imp_right And.right

/-- The session with which a preparation succeeds is the one that opens the file. -/
theorem VaultAgent.prepare_eq_ok {s : AgentFile} {V : VaultMap} {session : UnlockedVault}
    (hkey : session.vault_root_key = root)
    (hrepresents : Represents P password ⟨session, s.file⟩ V) (hcoherent : Coherent P root s.agent)
    {α : Type} {change : Change P α} {readable : Bool} {now : Option UInt64}
    {should_cancel : ℕ → Bool} {entropy : Entropy} {agent : VaultAgent} {permit : OperationPermit}
    {snapshot : Snapshot} {prepared : PreparedRecordMutation} {value : α}
    (h : s.agent.prepare change (if readable then some s.file else none) now should_cancel entropy =
      (.ok (permit, snapshot, prepared, value), agent)) :
    agent = s.agent ∧ snapshot = s.file ∧ s.agent.session = some session ∧
      ∃ now, change.core session s.file now should_cancel entropy = .ok (prepared, value) := by
  obtain ⟨rfl, hstored, hheader, hmanifest, σ, hσ, hcore⟩ := VaultAgent.withSnapshot_eq_ok h
  obtain rfl : s.file = snapshot := by
    split_ifs at hstored
    exact Option.some.inj hstored
  obtain rfl := (hcoherent.opens hσ hheader hmanifest).unique (opens_of_represents hrepresents hkey)
  cases now with
  | none => cases hcore
  | some now => exact ⟨rfl, rfl, hσ, now, hcore⟩

theorem VaultAgent.mutate_spec (hP : Lawful P) {s : AgentFile} {V : VaultMap}
    (h : s.Represents P password root V) {α : Type} (change : Change P α) (o : Circumstances) :
    Coherent P root (s.agent.mutate s.file change o).agent ∧
      Ends P password root s.file V change (s.agent.mutate s.file change o) := by
  obtain ⟨⟨session, hkey, hrepresents⟩, hcoherent⟩ := h
  unfold VaultAgent.mutate
  cases hprepare : s.agent.prepare change (if o.readable then some s.file else none) o.now
    o.should_cancel o.entropy with
  | mk result agent =>
    cases result with
    | error e =>
      refine ⟨?_, .inl ⟨rfl, rfl, by simp⟩⟩
      have hagent := s.agent.prepare_agent change (if o.readable then some s.file else none) o.now
        o.should_cancel o.entropy
      rw [hprepare] at hagent
      rcases hagent with rfl | rfl
      · exact hcoherent
      · exact coherent_lock _
    | ok value =>
      obtain ⟨permit, snapshot, prepared, value⟩ := value
      obtain ⟨rfl, rfl, hsession, now, hcore⟩ :=
        VaultAgent.prepare_eq_ok hkey hrepresents hcoherent hprepare
      dsimp only
      split_ifs
      · exact ⟨hcoherent, .inl ⟨rfl, rfl, by simp⟩⟩
      · cases htransact : transact s.file s.file prepared o.application with
        | error e =>
          cases e with
          | aborted => exact ⟨hcoherent, .inl ⟨rfl, rfl, by simp⟩⟩
          | _ => exact ⟨coherent_lock _, .inl ⟨rfl, rfl, by simp⟩⟩
        | ok file =>
          obtain ⟨V', vault', hcommit, hrepresents', heffect⟩ :=
            Change.effect hP hrepresents hcore
          obtain ⟨rfl, hkey'⟩ := transact_commit hrepresents htransact hcommit
          -- From here on the change is durable.
          have hend : ∀ result : Except AccountError α, (∀ value', result = .ok value' → value' = value) →
              ∀ agent, Ends P password root s.file V change ⟨result, agent, vault'.snapshot, some value⟩ :=
            fun result hresult agent => .inr ⟨value, V', vault'.session, rfl, hresult,
              hkey'.trans hkey, hrepresents', heffect⟩
          dsimp only
          cases hverify : verifyCommitted vault'.snapshot s.file prepared o.application with
          | error e =>
            cases e with
            | aborted => exact ⟨hcoherent, hend _ (by simp) _⟩
            | _ => exact ⟨coherent_lock _, hend _ (by simp) _⟩
          | ok u =>
            have hcommitted : Coherent P root (s.agent.commitRecordMutation permit prepared).2 :=
              hcoherent.commit hP hsession
                (Mutation.prepare_sealsNext (Change.prepare_of_core hcore))
            cases hlast : s.agent.commitRecordMutation permit prepared with
            | mk result agent =>
              rw [hlast] at hcommitted
              cases result with
              | error e => exact ⟨hcommitted, hend _ (by simp) _⟩
              | ok id => exact ⟨hcommitted, hend _ (by simp) _⟩
      · exact ⟨hcoherent, .inl ⟨rfl, rfl, by simp⟩⟩

/-! ### Listings -/

section

variable {vault : StoredVault} {V : VaultMap}

/-- What a listing collects is in the map. -/
theorem confirmed_of_collected (h : Represents P password vault V) {should_cancel : ℕ → Bool}
    {selected : PasskeyRecord → Bool}
    (hselected : ∀ passkey, selected passkey = true → passkey.creation_state = .confirmed)
    {finish : List PasskeySummary → List PasskeySummary}
    (hfinish : ∀ summaries, ∀ summary ∈ finish summaries, summary ∈ summaries)
    {passkeys : List PasskeySummary}
    (hlist : (do
      let state ← visitSnapshot P vault.session vault.snapshot should_cancel
        (collectPasskey selected maxPasskeyCredentials PasskeyRecord.summary) ⟨[], [], false⟩
      if state.invalid then throw .failed
      return finish state.collected : Except RecordOperationError _) = .ok passkeys) :
    ∀ summary ∈ passkeys, Confirmed V summary.credential_id := by
  obtain ⟨decrypted, hreadout⟩ := h.readout
  rcases h.collect_or_cancelled hreadout should_cancel selected PasskeyRecord.summary finish with
    hok | hcancelled
  · rw [hlist, Except.ok.injEq] at hok
    subst hok
    intro summary hsummary
    obtain ⟨passkey, hpasskey, rfl⟩ := List.mem_map.mp (hfinish _ summary hsummary)
    obtain ⟨hmem, hstate⟩ := List.mem_filter.mp hpasskey
    obtain ⟨record, hrecord, hof⟩ := (hreadout.passkeys passkey).mp (mem_passkeysOf.mp hmem)
    exact ⟨passkey.id, record, passkey.contents, ⟨hrecord, hof.contents⟩, rfl,
      hselected passkey hstate⟩
  · rw [hlist] at hcancelled
    cases hcancelled

/-- Both public listings return confirmed passkeys only. -/
theorem Query.returned_confirmed (h : Represents P password vault V) {α : Type} {query : Query P α}
    {should_cancel : ℕ → Bool} {value : α}
    (hcore : query.core vault.session vault.snapshot should_cancel = .ok value)
    {history : List PasskeyEvent} (htracks : Tracks V history) :
    Tracks V (query.returned value ++ history) := by
  cases query with
  | listPasskeys =>
    refine htracks.listed fun credential_id hid => ?_
    obtain ⟨summary, hsummary, rfl⟩ := List.mem_map.mp hid
    refine confirmed_of_collected h ?_ (fun summaries summary => Keyed.mem_sortByKey.mp) hcore summary
      hsummary
    intro passkey hstate
    cases hcreation : passkey.creation_state with
    | pending => simp [hcreation] at hstate
    | confirmed => rfl
  | listPasskeysForAssertion rp_id allowed =>
    refine htracks.listed fun credential_id hid => ?_
    obtain ⟨summary, hsummary, rfl⟩ := List.mem_map.mp hid
    have hlist : Core.listPasskeysForAssertion P vault.session vault.snapshot rp_id allowed
        should_cancel = .ok value := hcore
    by_cases hrejected : AssertionRejected P rp_id allowed
    · rw [listPasskeysForAssertion_rejected hrejected] at hlist
      cases hlist
    · rw [listPasskeysForAssertion_accepted hrejected] at hlist
      refine confirmed_of_collected h ?_ (fun summaries summary hmem => hmem) hlist summary hsummary
      intro passkey hmatches
      simp only [matchesAssertion, Bool.decide_and, Bool.and_eq_true, decide_eq_true_eq] at hmatches
      exact hmatches.1
  | listWebsiteAccounts => exact htracks
  | listWebsiteAccountPage offset limit => exact htracks
  | getWebsiteAccount id => exact htracks
  | uniqueBrowserAccount origin => exact htracks
  | pendingPasskeyCredentialIds => exact htracks

end

/-- A read that succeeds has handed the core the file and the session that opens it. -/
theorem VaultAgent.read_eq_ok {s : AgentFile} {V : VaultMap} {session : UnlockedVault}
    (hkey : session.vault_root_key = root)
    (hrepresents : Represents P password ⟨session, s.file⟩ V) (hcoherent : Coherent P root s.agent)
    {α : Type} {query : Query P α} {readable : Bool} {should_cancel : ℕ → Bool} {value : α}
    (h : (s.agent.read query (if readable then some s.file else none) should_cancel).1 = .ok value) :
    query.core session s.file should_cancel = .ok value := by
  unfold VaultAgent.read at h
  cases hsnapshot : s.agent.withSnapshot (if readable then some s.file else none)
    (fun session snapshot => query.core session snapshot should_cancel) with
  | mk result agent =>
    rw [hsnapshot] at h
    cases result with
    | error e => cases h
    | ok done =>
      obtain ⟨permit, snapshot, value'⟩ := done
      obtain ⟨rfl, hstored, hheader, hmanifest, σ, hσ, hcore⟩ :=
        VaultAgent.withSnapshot_eq_ok hsnapshot
      obtain rfl : s.file = snapshot := by
        split_ifs at hstored
        exact Option.some.inj hstored
      obtain rfl :=
        (hcoherent.opens hσ hheader hmanifest).unique (opens_of_represents hrepresents hkey)
      dsimp only at h
      split_ifs at h
      cases h
      exact hcore

/-! ## Runs -/

/-- What holds at every moment of a run. -/
structure AgentFile.Sound (P : Primitives) (password : MasterPassword) (root : Bytes 32)
    (s : AgentFile) (V : VaultMap) (history : List PasskeyEvent) : Prop where
  represents : s.Represents P password root V
  tracks : Tracks V history

/-- A passkey that is not deleted keeps its fixed fields. -/
def KeepsFixed (V V' : VaultMap) (events : List PasskeyEvent) : Prop :=
  ∀ id record passkey, V.HasPasskey id record passkey → .deleted passkey.credential_id ∉ events →
    ∃ record' passkey', V'.HasPasskey id record' passkey' ∧
      record'.created_at_ms = record.created_at_ms ∧
      passkey' = { passkey with
        signature_counter := passkey'.signature_counter
        creation_state := passkey'.creation_state }

theorem KeepsFixed.refl {V : VaultMap} {events : List PasskeyEvent} : KeepsFixed V V events :=
  fun _ record passkey hpasskey _ => ⟨record, passkey, hpasskey, rfl, rfl⟩

theorem KeepsFixed.trans {V V' V'' : VaultMap} {events events' : List PasskeyEvent}
    (h : KeepsFixed V V' events) (h' : KeepsFixed V' V'' events') :
    KeepsFixed V V'' (events' ++ events) := by
  intro id record passkey hpasskey hkept
  rw [List.mem_append, not_or] at hkept
  obtain ⟨record', passkey', hpasskey', hcreated, hfixed⟩ := h id record passkey hpasskey hkept.2
  have hcredential : passkey'.credential_id = passkey.credential_id := by rw [hfixed]
  obtain ⟨record'', passkey'', hpasskey'', hcreated', hfixed'⟩ :=
    h' id record' passkey' hpasskey' (hcredential ▸ hkept.1)
  refine ⟨record'', passkey'', hpasskey'', hcreated'.trans hcreated, ?_⟩
  rw [hfixed', hfixed]

theorem PasskeyEffect.keepsFixed {V V' : VaultMap} {durable returned events : List PasskeyEvent}
    (h : PasskeyEffect V durable returned V') (hevents : ∀ event ∈ durable, event ∈ events) :
    KeepsFixed V V' events := by
  intro id₁ record₁ passkey₁ hpasskey hkept
  cases h with
  | unrelated hsame => exact ⟨record₁, passkey₁, (hsame _ _ _).mpr hpasskey, rfl, rfl⟩
  | added hcontents hcredential hstate hfresh hunused =>
    refine ⟨record₁, passkey₁, hasPasskey_set.mpr (.inr ⟨?_, hpasskey⟩), rfl, rfl⟩
    rintro rfl
    exact absurd hpasskey.1 (by simp [hfresh])
  | confirmed hpresent hpending hcreated hcontents =>
    rename_i id record record' passkey now
    by_cases hid : id₁ = id
    · subst hid
      obtain ⟨rfl, rfl⟩ := HasPasskey.unique hpresent hpasskey
      exact ⟨record', _, hasPasskey_set.mpr (.inl ⟨rfl, rfl, hcontents⟩), hcreated, rfl⟩
    · exact ⟨record₁, passkey₁, hasPasskey_set.mpr (.inr ⟨hid, hpasskey⟩), rfl, rfl⟩
  | asserted hpresent hstate hbound hcredential hcounter hcreated hcontents =>
    rename_i id record record' passkey now assertion
    by_cases hid : id₁ = id
    · subst hid
      obtain ⟨rfl, rfl⟩ := HasPasskey.unique hpresent hpasskey
      exact ⟨record', _, hasPasskey_set.mpr (.inl ⟨rfl, rfl, hcontents⟩), hcreated, rfl⟩
    · exact ⟨record₁, passkey₁, hasPasskey_set.mpr (.inr ⟨hid, hpasskey⟩), rfl, rfl⟩
  | deleted hpresent =>
    rename_i id record passkey now
    refine ⟨record₁, passkey₁, hasPasskey_set.mpr (.inr ⟨?_, hpasskey⟩), rfl, rfl⟩
    rintro rfl
    obtain ⟨-, rfl⟩ := HasPasskey.unique hpresent hpasskey
    exact hkept (hevents _ (List.mem_singleton_self _))

section

variable {s s' : AgentFile} {V : VaultMap} {history events : List PasskeyEvent}

theorem AgentFile.Sound.distinct (h : s.Sound P password root V history) :
    DistinctCredentials V := by
  obtain ⟨session, -, hrepresents⟩ := h.represents.file
  exact hrepresents.wellFormed.credentials

theorem AgentFile.Sound.step (hP : Lawful P) (h : s.Sound P password root V history)
    (hstep : AgentFile.Step P root s events s') :
    ∃ V', s'.Sound P password root V' (events ++ history) ∧ KeepsFixed V V' events := by
  cases hstep with
  | mutate change o =>
    obtain ⟨hcoherent, hend⟩ := VaultAgent.mutate_spec hP h.represents change o
    rcases hend with ⟨hdurable, hfile, hresult⟩ | ⟨value, V', session, hdurable, hresult, hkey,
      hrepresents, heffect⟩
    · have hevents : (s.agent.mutate s.file change o).events change = [] := by
        unfold Mutated.events
        rw [hdurable]
        cases hcase : (s.agent.mutate s.file change o).result with
        | ok value => exact absurd hcase (hresult value)
        | error e => rfl
      rw [hevents]
      refine ⟨V, ⟨⟨?_, hcoherent⟩, h.tracks⟩, KeepsFixed.refl⟩
      rw [hfile]
      exact h.represents.file
    · have hevents : (s.agent.mutate s.file change o).events change =
          (if (s.agent.mutate s.file change o).result.isOk then change.returned value else []) ++
            change.durable value := by
        unfold Mutated.events
        rw [hdurable]
        cases hcase : (s.agent.mutate s.file change o).result with
        | ok value' =>
          obtain rfl := hresult value' hcase
          rfl
        | error e => rfl
      rw [hevents]
      refine ⟨V', ⟨⟨⟨session, hkey, hrepresents⟩, hcoherent⟩, ?_⟩, ?_⟩
      · rw [List.append_assoc]
        exact h.tracks.effect h.distinct heffect
      · exact heffect.keepsFixed fun event hevent => List.mem_append_right _ hevent
  | read query readable should_cancel =>
    obtain ⟨session, hkey, hrepresents⟩ := h.represents.file
    refine ⟨V, ⟨⟨⟨session, hkey, hrepresents⟩, ?_⟩, ?_⟩, KeepsFixed.refl⟩
    · rcases s.agent.read_agent query (if readable then some s.file else none) should_cancel with
        hagent | ⟨-, hagent⟩
      · dsimp only
        rw [hagent]
        exact h.represents.coherent
      · dsimp only
        rw [hagent]
        exact coherent_lock _
    · cases hcase : (s.agent.read query (if readable then some s.file else none)
          should_cancel).1 with
      | error e => exact h.tracks
      | ok value =>
        exact Query.returned_confirmed hrepresents
          (VaultAgent.read_eq_ok hkey hrepresents h.represents.coherent hcase) h.tracks
  | lock => exact ⟨V, ⟨⟨h.represents.file, coherent_lock _⟩, h.tracks⟩, KeepsFixed.refl⟩
  | unlock session_id cancelled i hheader henvelope hsession =>
    refine ⟨V, ⟨⟨h.represents.file, ?_⟩, h.tracks⟩, KeepsFixed.refl⟩
    exact h.represents.coherent.storeSession
      (opens_of_authenticateVaultRootKey hheader henvelope hsession)

theorem AgentFile.Run.sound (hP : Lawful P) (h : s.Sound P password root V history)
    (hrun : AgentFile.Run P root s events s') :
    ∃ V', s'.Sound P password root V' (events ++ history) ∧ KeepsFixed V V' events := by
  induction hrun with
  | start => exact ⟨V, h, KeepsFixed.refl⟩
  | step _ hstep ih =>
    obtain ⟨V', hsound, hkept⟩ := ih
    obtain ⟨V'', hsound', hkept'⟩ := hsound.step hP hstep
    rw [← List.append_assoc] at hsound'
    exact ⟨V'', hsound', hkept.trans hkept'⟩

end

theorem AgentFile.created_sound (hP : Lawful P) {created_at_ms : UInt64} {entropy rest : Entropy}
    {created : CreatedVault}
    (h : Core.createVault P password created_at_ms entropy = .ok (created, rest)) {session_id : ℕ} :
    (AgentFile.created created session_id).Sound P password created.session.vault_root_key
      (VaultMap.empty created_at_ms) [] := by
  have hrepresents := createVault_represents hP h
  refine ⟨⟨⟨created.session, rfl, hrepresents⟩, ?_⟩, ?_, ?_, ?_⟩
  · rintro σ ⟨rfl⟩
    obtain ⟨-, hheader, hmanifest⟩ := opens_of_represents hrepresents rfl
    exact ⟨rfl, _, _, rfl, rfl, hheader, hmanifest⟩
  · intro credential_id
    simp [ConfirmedSince, Confirmed, VaultMap.HasPasskey, VaultMap.empty]
  · simp [assertionsSince]
  · intro event before hsuffix
    simp at hsuffix

/-! ## The result -/

/-- A passkey as a session with the root key reads it from the file. -/
def StoresPasskey (P : Primitives) (root : Bytes 32) (file : Snapshot) (passkey : PasskeyRecord) :
    Prop :=
  ∃ session decrypted, session.vault_root_key = root ∧ Authentic P session file decrypted ∧
    .passkey passkey ∈ decrypted

/-- What is read from a represented file is in the map. -/
theorem hasPasskey_of_stores {s : AgentFile} {V : VaultMap} (h : s.Represents P password root V)
    {passkey : PasskeyRecord} (hstores : StoresPasskey P root s.file passkey) :
    ∃ record, V.HasPasskey passkey.id record passkey.contents ∧ PasskeyOf record passkey := by
  obtain ⟨σ, decrypted, hkey, hauthentic, hmem⟩ := hstores
  obtain ⟨session, hkey', hrepresents⟩ := h.file
  have hopens : OpensSnapshot P root s.file σ := ⟨hkey, hauthentic.header, hauthentic.manifest⟩
  obtain rfl := hopens.unique (opens_of_represents hrepresents hkey')
  obtain ⟨decrypted', hreadout⟩ := hrepresents.readout
  obtain rfl : decrypted = decrypted' := hauthentic.unique hreadout.authentic
  obtain ⟨record, hrecord, hof⟩ := (hreadout.passkeys passkey).mp hmem
  exact ⟨record, ⟨hrecord, hof.contents⟩, hof⟩

/-! ### A counter that is exhausted -/

section

variable {session : UnlockedVault} {file : Snapshot} {V : VaultMap} {record : Record}
  {passkey : PasskeyRecord}

/-- A passkey with the last counter does not sign. -/
theorem not_sign_exhausted (hP : Lawful P) (h : Represents P password ⟨session, file⟩ V)
    (hpasskey : V.HasPasskey passkey.id record passkey.contents)
    (hcounter : passkey.signature_counter.toNat + 1 = 2 ^ 32) {rp_id : String}
    {client_data_hash : Bytes 32} {now : UInt64} {should_cancel : ℕ → Bool} {entropy : Entropy}
    {value : PreparedRecordMutation × PasskeyAssertion} :
    (Change.signPasskeyAssertion rp_id passkey.credential_id client_data_hash : Change P _).core
      session file now should_cancel entropy ≠ .ok value := by
  intro hcore
  obtain ⟨⟨⟨_, assertion⟩, rest⟩, hok, -⟩ := Except.map_eq_ok.mp hcore
  obtain ⟨id, record', passkey', -, hpasskey', hcredential, -, -, hbound, -⟩ :=
    h.passkeyAssertion_spec hP hok
  have hdistinct : DistinctCredentials V := h.wellFormed.credentials
  obtain ⟨-, -, rfl⟩ := hdistinct.eq hpasskey' hpasskey hcredential
  have hsame : passkey.contents.signature_counter = passkey.signature_counter := rfl
  rw [hsame] at hbound
  omega

/-- The refusal is a conflict, once the vault has been read. -/
theorem sign_exhausted_eq (h : Represents P password ⟨session, file⟩ V)
    (hpasskey : V.records passkey.id = some record) (hof : PasskeyOf record passkey)
    (hstate : passkey.creation_state = .confirmed)
    (hcounter : passkey.signature_counter.toNat + 1 = 2 ^ 32) (rp_id : String)
    (client_data_hash : Bytes 32) (now : UInt64) (entropy : Entropy) :
    (Change.signPasskeyAssertion rp_id passkey.credential_id client_data_hash : Change P _).core
      session file now (fun _ => false) entropy = .error .conflict := by
  obtain ⟨decrypted, hreadout⟩ := h.readout
  have hmem : passkey ∈ passkeysOf decrypted :=
    mem_passkeysOf.mpr ((hreadout.passkeys passkey).mpr ⟨record, hpasskey, hof⟩)
  have hvisit := hreadout.authentic.visitSnapshot_eq (findPasskey passkey.credential_id) (none, false)
  rw [foldl_findPasskey_unique (h.nodup_credential_ids hreadout) hmem] at hvisit
  simp only [visitSnapshot, Except.bind_eq_ok, Except.exists_unit_eq, Except.mapErr_eq_ok] at hvisit
  obtain ⟨hmetadata, hrecords⟩ := hvisit
  have hconflict : preparePasskeyAssertion P session file rp_id passkey.credential_id
      client_data_hash now (fun _ => false) entropy = .error .conflict := by
    have hnone : checkedSucc32 passkey.signature_counter = none := by
      unfold checkedSucc32
      rw [if_neg (by omega)]
    simp only [preparePasskeyAssertion, Draw.lift_bind_apply, hmetadata, Except.ok_bind]
    cases normalizeRpId P rp_id with
    | error e => rfl
    | ok expected =>
      simp only [Except.mapErr_ok, Except.ok_bind, hrecords, Bool.false_eq_true, if_false,
        Draw.lift_bind_apply, Option.okOr_some, hstate, ne_eq, not_true_eq_false]
      -- A relying party that differs and a revision that is exhausted are conflicts too.
      by_cases hrp : passkey.rp_id = expected
      · simp only [hrp, not_true_eq_false, if_false, Draw.lift_bind_apply]
        cases checkedSucc passkey.revision with
        | none => rfl
        | some revision =>
          simp only [Option.okOr_some, Except.ok_bind, hnone]
          rfl
      · simp only [hrp, not_false_eq_true, if_true, Draw.throw_bind_apply]
  exact congrArg (Except.map fun done => done.1) hconflict

end

/-- A signature with an exhausted counter is refused: nothing is returned and the file stays as it
is, and an agent that can read the vault answers with a conflict. -/
def SignRefused (s : AgentFile) (passkey : PasskeyRecord) (rp_id : String)
    (client_data_hash : Bytes 32) (o : Circumstances) : Prop :=
  let change : Change P PasskeyAssertion :=
    .signPasskeyAssertion rp_id passkey.credential_id client_data_hash
  (∀ assertion, (s.agent.mutate s.file change o).result ≠ .ok assertion) ∧
    (s.agent.mutate s.file change o).file = s.file ∧
    (s.agent.beginOperation.isSome → s.agent.authenticated_header = some s.file.header →
      s.agent.authenticated_manifest = some s.file.manifest_envelope → o.readable = true →
      o.now.isSome → (∀ i, o.should_cancel i = false) →
        (s.agent.mutate s.file change o).result = .error .conflict ∧
        (s.agent.mutate s.file change o).agent = s.agent)

theorem signRefused_of_exhausted (hP : Lawful P) {s : AgentFile} {V : VaultMap}
    (h : s.Represents P password root V) {passkey : PasskeyRecord}
    (hstores : StoresPasskey P root s.file passkey) (hstate : passkey.creation_state = .confirmed)
    (hcounter : passkey.signature_counter.toNat + 1 = 2 ^ 32) (rp_id : String)
    (client_data_hash : Bytes 32) (o : Circumstances) :
    SignRefused (P := P) s passkey rp_id client_data_hash o := by
  obtain ⟨record, hpasskey, hof⟩ := hasPasskey_of_stores h hstores
  obtain ⟨⟨session, hkey, hrepresents⟩, hcoherent⟩ := h
  -- Nothing is prepared, so that the mutation ends with the preparation.
  have hend : ∃ e, s.agent.mutate s.file (Change.signPasskeyAssertion (P := P) rp_id
      passkey.credential_id client_data_hash) o = ⟨.error e, (s.agent.prepare
        (Change.signPasskeyAssertion (P := P) rp_id passkey.credential_id client_data_hash)
        (if o.readable then some s.file else none) o.now o.should_cancel o.entropy).2, s.file,
        none⟩ ∧ (s.agent.prepare
        (Change.signPasskeyAssertion (P := P) rp_id passkey.credential_id client_data_hash)
        (if o.readable then some s.file else none) o.now o.should_cancel o.entropy).1 = .error e := by
    unfold VaultAgent.mutate
    cases hprepare : s.agent.prepare (Change.signPasskeyAssertion (P := P) rp_id
        passkey.credential_id client_data_hash) (if o.readable then some s.file else none) o.now
        o.should_cancel o.entropy with
    | mk result agent =>
      cases result with
      | error e => exact ⟨e, rfl, rfl⟩
      | ok value =>
        obtain ⟨permit, snapshot, prepared, value⟩ := value
        obtain ⟨-, -, -, now, hcore⟩ := VaultAgent.prepare_eq_ok hkey hrepresents hcoherent hprepare
        exact absurd hcore (not_sign_exhausted hP hrepresents hpasskey hcounter)
  obtain ⟨e, hmutate, herror⟩ := hend
  unfold SignRefused
  dsimp only
  rw [hmutate]
  refine ⟨by simp, rfl, ?_⟩
  intro hbegin hheader hmanifest hreadable hnow hcancel
  obtain ⟨permit, hpermit⟩ := Option.isSome_iff_exists.mp hbegin
  obtain ⟨now, hnow⟩ := Option.isSome_iff_exists.mp hnow
  obtain ⟨σ, hσ⟩ : ∃ σ, s.agent.session = some σ := by
    unfold VaultAgent.beginOperation at hpermit
    cases hsession : s.agent.session with
    | none => simp [hsession] at hpermit
    | some σ => exact ⟨σ, rfl⟩
  obtain rfl := (hcoherent.opens hσ hheader hmanifest).unique (opens_of_represents hrepresents hkey)
  have hprepare : s.agent.prepare (Change.signPasskeyAssertion (P := P) rp_id
      passkey.credential_id client_data_hash) (if o.readable then some s.file else none) o.now
      o.should_cancel o.entropy = (.error .conflict, s.agent) := by
    have hcore := sign_exhausted_eq hrepresents hpasskey.1 hof hstate hcounter rp_id
      client_data_hash now o.entropy
    have hnever : o.should_cancel = fun _ => false := funext hcancel
    unfold VaultAgent.prepare VaultAgent.withSnapshot
    simp only [hpermit, hreadable, if_true, hnow, hnever,
      VaultAgent.loadAuthenticatedSnapshot_eq_ok hheader hmanifest, hσ, hcore]
    rfl
  rw [hprepare] at herror ⊢
  cases herror
  exact ⟨rfl, rfl⟩

/-- The life of a passkey, over every run of a vault agent that starts with the creation of its
vault. A credential is listed or signs only after it was added confirmed or its confirmation became
durable, it is confirmed at most once, and each assertion that is returned for it carries a counter
greater than those before. What a passkey was created with never changes. And a passkey whose counter
is exhausted is refused, with a conflict and without a change. -/
theorem passkey_life_cycle (hP : Lawful P) {created_at_ms : UInt64} {entropy rest : Entropy}
    {created : CreatedVault} {session_id : ℕ} {history : List PasskeyEvent} {s : AgentFile}
    (hcreate : Core.createVault P password created_at_ms entropy = .ok (created, rest))
    (hrun : AgentFile.Run P created.session.vault_root_key (AgentFile.created created session_id)
      history s) :
    (∀ event before, (event :: before) <:+ history → event.Allowed before) ∧
    (∀ recent s' passkey passkey', AgentFile.Run P created.session.vault_root_key s recent s' →
      StoresPasskey P created.session.vault_root_key s.file passkey →
      StoresPasskey P created.session.vault_root_key s'.file passkey' →
      passkey'.credential_id = passkey.credential_id →
      .deleted passkey.credential_id ∉ recent →
        passkey'.rp_id = passkey.rp_id ∧ passkey'.user_handle = passkey.user_handle ∧
        passkey'.user_name = passkey.user_name ∧
        passkey'.user_display_name = passkey.user_display_name ∧
        passkey'.private_key = passkey.private_key ∧
        passkey'.created_at_ms = passkey.created_at_ms) ∧
    ∀ passkey, StoresPasskey P created.session.vault_root_key s.file passkey →
      passkey.creation_state = .confirmed → passkey.signature_counter.toNat + 1 = 2 ^ 32 →
        ∀ rp_id client_data_hash o, SignRefused (P := P) s passkey rp_id client_data_hash o := by
  obtain ⟨V, hsound, -⟩ := AgentFile.Run.sound hP (AgentFile.created_sound hP hcreate) hrun
  rw [List.append_nil] at hsound
  refine ⟨hsound.tracks.allowed, ?_, ?_⟩
  · intro recent s' passkey passkey' hlater hstores hstores' hcredential hkept
    obtain ⟨V', hsound', hfixed⟩ := AgentFile.Run.sound hP hsound hlater
    obtain ⟨record, hpasskey, hof⟩ := hasPasskey_of_stores hsound.represents hstores
    obtain ⟨record', hpasskey', hof'⟩ := hasPasskey_of_stores hsound'.represents hstores'
    obtain ⟨record'', contents, hcontents, hcreated, heq⟩ := hfixed _ _ _ hpasskey hkept
    have hsame : contents.credential_id = passkey'.contents.credential_id := by
      rw [heq]
      exact hcredential.symm
    obtain ⟨-, rfl, rfl⟩ := hsound'.distinct.eq hcontents hpasskey' hsame
    simp only [PasskeyRecord.contents, PasskeyContents.mk.injEq] at heq
    obtain ⟨-, -, hrp, hhandle, hname, hdisplay, -, hprivate⟩ := heq
    refine ⟨hrp, hhandle, hname, hdisplay, hprivate, ?_⟩
    rw [hof'.created_at_ms, hcreated, hof.created_at_ms]
  · intro passkey hstores hstate hcounter rp_id client_data_hash o
    exact signRefused_of_exhausted hP hsound.represents hstores hstate hcounter rp_id
      client_data_hash o

/-! ## A sample run -/

/-- A passkey at the one relying party. -/
def samplePasskeyInput : PasskeyInput exampleComPrimitives where
  rp_id := "example.com"
  user_handle := [1]
  user_name := "user"
  user_display_name := "User"
  normalized := by decide +kernel

/-- The agent adds a confirmed passkey. -/
def addSample (s : AgentFile) : List PasskeyEvent × AgentFile :=
  let change : Change exampleComPrimitives PasskeyCredential :=
    .addPasskey samplePasskeyInput [] .confirmed
  let done := s.agent.mutate s.file change
    { now := some 1
      entropy := [List.replicate 16 1, List.replicate 32 5, List.replicate 32 6,
        List.replicate 24 0, List.replicate 24 0] }
  (done.events change, ⟨done.agent, done.file⟩)

/-- The agent signs with it. -/
def signSample (s : AgentFile) : List PasskeyEvent × AgentFile :=
  let change : Change exampleComPrimitives PasskeyAssertion :=
    .signPasskeyAssertion "example.com" (Bytes.replicate 32 5) (Bytes.replicate 32 0)
  let done := s.agent.mutate s.file change
    { now := some 2, entropy := [List.replicate 24 0, List.replicate 24 0] }
  (done.events change, ⟨done.agent, done.file⟩)

/-- The history of a vault that is created, gains a passkey and signs with it twice. -/
def sampleHistory (created : CreatedVault) : List PasskeyEvent :=
  let added := addSample (AgentFile.created created 1)
  let signed := signSample added.2
  let again := signSample signed.2
  again.1 ++ (signed.1 ++ (added.1 ++ []))

/-- The vault of the sample. -/
def sampleCreated : Option (MasterPassword × CreatedVault × Entropy) := do
  let password ← MasterPassword.new "master"
  let created ← (Core.createVault exampleComPrimitives password 0 [List.replicate 16 0,
    List.replicate 32 0, List.replicate 32 0, List.replicate 16 0, List.replicate 24 0,
    List.replicate 24 0, List.replicate 24 0]).toOption
  return (password, created)

/-- In the sample the passkey is added and signs twice, as it may. -/
theorem passkey_life_cycle_sample :
    ∃ created, (sampleHistory created).length = 3 ∧
      ∀ event before, (event :: before) <:+ sampleHistory created → event.Allowed before := by
  have hlength : sampleCreated.map (fun created => (sampleHistory created.2.1).length) = some 3 := by
    decide +kernel
  obtain ⟨⟨password, created, rest⟩, hcreated, hlength⟩ := Option.map_eq_some_iff.mp hlength
  refine ⟨created, hlength, ?_⟩
  simp only [sampleCreated, Option.bind_eq_bind, Option.bind_eq_some_iff, Except.toOption_eq_some,
    Option.pure_def, Option.some.injEq, Prod.mk.injEq] at hcreated
  obtain ⟨password', -, ⟨created', rest'⟩, hcreate, -, rfl, rfl⟩ := hcreated
  have hrun : AgentFile.Run exampleComPrimitives created.session.vault_root_key
      (AgentFile.created created 1) (sampleHistory created) _ :=
    .step (.step (.step .start (.mutate _ _)) (.mutate _ _)) (.mutate _ _)
  exact (passkey_life_cycle exampleComPrimitives_lawful hcreate hrun).1

end Librarian.Agent
