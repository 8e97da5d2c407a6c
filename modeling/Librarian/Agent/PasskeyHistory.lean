import Librarian.Agent.Storage
import Librarian.Core.VaultRun

/-!
# The life of a passkey

A vault agent runs passkey operations, operations on website accounts, locks and unlocks in any
order on one vault file. A history records which changes to passkeys have become durable and what
was returned to the clients, newest first. A change may become durable without being reported, when
a check after the commit fails, and an assertion is returned after its counter is durable only.

A credential id is drawn at random, and nothing but chance keeps an id that has been deleted from
being drawn again. A credential here is one life of an id, from its creation to its deletion.
-/

namespace Librarian.Agent

open Librarian.Core Librarian.Format

variable {P : Primitives}

/-! ## Histories -/

/-- What happens to passkeys. -/
inductive PasskeyEvent
  | added (credential_id : Bytes 32) (creation_state : PasskeyCreationState)
  | confirmed (credential_id : Bytes 32)
  | deleted (credential_id : Bytes 32)
  | listed (credential_ids : List (Bytes 32))
  | asserted (assertion : PasskeyAssertion)
  deriving DecidableEq

/-- The signature counter in the authenticator data of an assertion, behind the hash of the relying
party and the flags. -/
def assertionCounter (assertion : PasskeyAssertion) : ℕ :=
  BigEndian.decode (assertion.authenticator_data.drop 33)

/-- A credential has been added confirmed or has been confirmed, and not been deleted since. -/
def ConfirmedSince (credential_id : Bytes 32) : List PasskeyEvent → Prop
  | [] => False
  | .added id creation_state :: before =>
    id = credential_id ∧ creation_state = .confirmed ∨ ConfirmedSince credential_id before
  | .confirmed id :: before => id = credential_id ∨ ConfirmedSince credential_id before
  | .deleted id :: before => id ≠ credential_id ∧ ConfirmedSince credential_id before
  | .listed _ :: before => ConfirmedSince credential_id before
  | .asserted _ :: before => ConfirmedSince credential_id before

/-- The assertions that have been returned for a credential since it was last deleted. -/
def assertionsSince (credential_id : Bytes 32) : List PasskeyEvent → List PasskeyAssertion
  | [] => []
  | .asserted assertion :: before =>
    if assertion.credential_id = credential_id then
      assertion :: assertionsSince credential_id before
    else assertionsSince credential_id before
  | .deleted id :: before =>
    if id = credential_id then [] else assertionsSince credential_id before
  | .added _ _ :: before => assertionsSince credential_id before
  | .confirmed _ :: before => assertionsSince credential_id before
  | .listed _ :: before => assertionsSince credential_id before

/-- What an event may follow. A credential is confirmed once; it is listed and it signs only when it
is confirmed; and the counter of each assertion exceeds those of all before. -/
def PasskeyEvent.Allowed (before : List PasskeyEvent) : PasskeyEvent → Prop
  | added _ _ => True
  | confirmed credential_id => ¬ConfirmedSince credential_id before
  | deleted _ => True
  | listed credential_ids =>
    ∀ credential_id ∈ credential_ids, ConfirmedSince credential_id before
  | asserted assertion => ConfirmedSince assertion.credential_id before ∧
    ∀ earlier ∈ assertionsSince assertion.credential_id before,
      assertionCounter earlier < assertionCounter assertion

/-! ## Runs -/

/-- The changes to passkeys that a mutation makes durable. -/
def Change.durable {α : Type} : Change P α → α → List PasskeyEvent
  | .addPasskey _ _ creation_state, credential => [.added credential.credential_id creation_state]
  | .confirmPasskeyCreation credential_id, _ => [.confirmed credential_id]
  | .deletePasskey credential_id, _ => [.deleted credential_id]
  | _, _ => []

/-- What a mutation that succeeds returns. -/
def Change.returned {α : Type} : Change P α → α → List PasskeyEvent
  | .signPasskeyAssertion _ _ _, assertion => [.asserted assertion]
  | _, _ => []

/-- What a read returns. -/
def Query.returned {α : Type} : Query P α → α → List PasskeyEvent
  | .listPasskeysForAssertion _ _, passkeys => [.listed (passkeys.map PasskeySummary.credential_id)]
  | .listPasskeys, passkeys => [.listed (passkeys.map PasskeySummary.credential_id)]
  | _, _ => []

/-- The events of a mutation. -/
def Mutated.events {α : Type} (change : Change P α) (done : Mutated α) : List PasskeyEvent :=
  (done.result.toOption.elim [] change.returned) ++ done.durable.elim [] change.durable

/-- An agent and its file. -/
structure AgentFile where
  agent : VaultAgent
  file : Snapshot

namespace AgentFile

/-- One operation of the agent, with its events. -/
inductive Step (P : Primitives) (root : Bytes 32) : AgentFile → List PasskeyEvent → AgentFile → Prop
  | mutate {s : AgentFile} {α : Type} (change : Change P α) (o : Circumstances) :
      Step P root s ((s.agent.mutate s.file change o).events change)
        ⟨(s.agent.mutate s.file change o).agent, (s.agent.mutate s.file change o).file⟩
  | read {s : AgentFile} {α : Type} (query : Query P α) (readable : Bool)
      (should_cancel : ℕ → Bool) :
      Step P root s
        ((s.agent.read query (if readable then some s.file else none)
          should_cancel).1.toOption.elim [] query.returned)
        ⟨(s.agent.read query (if readable then some s.file else none) should_cancel).2, s.file⟩
  | lock {s : AgentFile} : Step P root s [] ⟨s.agent.lock, s.file⟩
  | unlock {s : AgentFile} {header : VaultHeader} {envelope : ManifestEnvelope}
      {session : UnlockedVault} (session_id : ℕ) (cancelled : ℕ → Bool) (i : ℕ)
      (hheader : VaultHeader.decode s.file.header = .ok header)
      (henvelope : ManifestEnvelope.decode s.file.manifest_envelope = .ok envelope)
      (hsession : authenticateVaultRootKey P root header envelope s.file.records cancelled i =
        .ok session) :
      Step P root s [] ⟨(s.agent.storeSession session s.file session_id).2, s.file⟩

/-- Operations in any order. The history grows at its front. -/
inductive Run (P : Primitives) (root : Bytes 32) (start : AgentFile) :
    List PasskeyEvent → AgentFile → Prop
  | start : Run P root start [] start
  | step {s s' : AgentFile} {history events : List PasskeyEvent} (run : Run P root start history s)
      (step : Step P root s events s') : Run P root start (events ++ history) s'

/-- The agent and the file after a creation. -/
def created (vault : CreatedVault) (session_id : ℕ) : AgentFile :=
  ⟨VaultAgent.created vault session_id, ⟨vault.header, vault.manifest_envelope, []⟩⟩

end AgentFile

/-! ## What a mutation does to the passkeys of the map -/

section

variable {V V' : VaultMap}

/-- A credential is in the map, and confirmed. -/
def Confirmed (V : VaultMap) (credential_id : Bytes 32) : Prop :=
  ∃ id record passkey, V.HasPasskey id record passkey ∧ passkey.credential_id = credential_id ∧
    passkey.creation_state = .confirmed

/-- The effect of a mutation on the passkeys, with its durable events and what it returns. -/
inductive PasskeyEffect (V : VaultMap) :
    List PasskeyEvent → List PasskeyEvent → VaultMap → Prop
  | unrelated {V' : VaultMap}
      (same : ∀ id record passkey, V'.HasPasskey id record passkey ↔ V.HasPasskey id record passkey) :
      PasskeyEffect V [] [] V'
  | added {id : RecordId} {record : Record} {passkey : PasskeyContents} {now : UInt64}
      {credential_id : Bytes 32} {creation_state : PasskeyCreationState}
      (contents : record.contents = .passkey passkey)
      (credential : passkey.credential_id = credential_id)
      (state : passkey.creation_state = creation_state) (fresh : V.records id = none)
      (unused : ∀ id' record' passkey', V.HasPasskey id' record' passkey' →
        passkey'.credential_id ≠ credential_id) :
      PasskeyEffect V [.added credential_id creation_state] [] (V.set id (some record) now)
  | confirmed {id : RecordId} {record record' : Record} {passkey : PasskeyContents} {now : UInt64}
      (present : V.HasPasskey id record passkey) (pending : passkey.creation_state = .pending)
      (created : record'.created_at_ms = record.created_at_ms)
      (contents : record'.contents = .passkey { passkey with creation_state := .confirmed }) :
      PasskeyEffect V [.confirmed passkey.credential_id] [] (V.set id (some record') now)
  | asserted {id : RecordId} {record record' : Record} {passkey : PasskeyContents} {now : UInt64}
      {assertion : PasskeyAssertion} (present : V.HasPasskey id record passkey)
      (state : passkey.creation_state = .confirmed)
      (bound : passkey.signature_counter.toNat + 1 < 2 ^ 32)
      (credential : assertion.credential_id = passkey.credential_id)
      (counter : assertionCounter assertion = passkey.signature_counter.toNat + 1)
      (created : record'.created_at_ms = record.created_at_ms)
      (contents : record'.contents =
        .passkey { passkey with signature_counter := passkey.signature_counter + 1 }) :
      PasskeyEffect V [] [.asserted assertion] (V.set id (some record') now)
  | deleted {id : RecordId} {record : Record} {passkey : PasskeyContents} {now : UInt64}
      (present : V.HasPasskey id record passkey) :
      PasskeyEffect V [.deleted passkey.credential_id] [] (V.set id none now)

/-- A record id has one passkey. -/
theorem HasPasskey.unique {id : RecordId} {record record' : Record}
    {passkey passkey' : PasskeyContents} (h : V.HasPasskey id record passkey)
    (h' : V.HasPasskey id record' passkey') : record = record' ∧ passkey = passkey' := by
  obtain ⟨hrecord, hcontents⟩ := h
  obtain ⟨hrecord', hcontents'⟩ := h'
  rw [hrecord, Option.some.injEq] at hrecord'
  subst hrecord'
  rw [hcontents, Contents.passkey.injEq] at hcontents'
  exact ⟨rfl, hcontents'⟩

/-- The passkeys after a change of one record. -/
theorem hasPasskey_set {id id' : RecordId} {record : Option Record} {record' : Record}
    {passkey : PasskeyContents} {now : UInt64} :
    (V.set id record now).HasPasskey id' record' passkey ↔
      id' = id ∧ record = some record' ∧ record'.contents = .passkey passkey ∨
      id' ≠ id ∧ V.HasPasskey id' record' passkey := by
  unfold VaultMap.HasPasskey
  by_cases hid : id' = id
  · subst hid
    simp
  · simp [hid, VaultMap.set_records_of_ne V hid]

/-- A change of a record that is not a passkey, to one that is not either. -/
theorem PasskeyEffect.of_website {id : RecordId} {record : Option Record} {now : UInt64}
    (hold : ∀ old, V.records id = some old → ∃ contents, old.contents = .websiteAccount contents)
    (hnew : ∀ new, record = some new → ∃ contents, new.contents = .websiteAccount contents) :
    PasskeyEffect V [] [] (V.set id record now) := by
  refine .unrelated fun id' record' passkey => ?_
  rw [hasPasskey_set]
  constructor
  · rintro (⟨-, hrecord, hpasskey⟩ | ⟨-, hpasskey⟩)
    · obtain ⟨contents, hcontents⟩ := hnew record' hrecord
      rw [hcontents] at hpasskey
      cases hpasskey
    · exact hpasskey
  · intro hpasskey
    refine .inr ⟨?_, hpasskey⟩
    rintro rfl
    obtain ⟨contents, hcontents⟩ := hold record' hpasskey.1
    have := hpasskey.2
    rw [hcontents] at this
    cases this

/-- The counter that an assertion carries. -/
theorem assertionCounter_eq {assertion : PasskeyAssertion} {rp_id : String} {counter : UInt32}
    (h : assertion.authenticator_data = authenticatorData P rp_id counter) :
    assertionCounter assertion = counter.toNat := by
  have hdrop : (authenticatorData P rp_id counter).drop 33 = BigEndian.encode 4 counter.toNat := by
    have hlength : ((P.sha256 (Utf8.encode rp_id)).val ++ [0x01 ||| 0x04 ||| 0x08]).length = 33 := by
      simp [(P.sha256 (Utf8.encode rp_id)).property]
    unfold authenticatorData
    rw [← hlength, List.drop_left]
  rw [assertionCounter, h, hdrop]
  exact BigEndian.decode_encode counter.toNat_lt

variable {password : MasterPassword} {session : UnlockedVault} {snapshot : Snapshot}

/-- Every change commits, and has its effect. -/
theorem Change.effect (hP : Lawful P) (h : Represents P password ⟨session, snapshot⟩ V) {α : Type}
    {change : Change P α} {now : UInt64} {should_cancel : ℕ → Bool} {entropy : Entropy}
    {prepared : PreparedRecordMutation} {value : α}
    (hcore : change.core session snapshot now should_cancel entropy = .ok (prepared, value)) :
    ∃ V' vault', (⟨session, snapshot⟩ : StoredVault).commit prepared = some vault' ∧
      Represents P password vault' V' ∧
      PasskeyEffect V (change.durable value) (change.returned value) V' := by
  cases change with
  | addWebsiteAccount input =>
    obtain ⟨⟨_, rest⟩, hok, hvalue⟩ := Except.map_eq_ok.mp hcore
    obtain ⟨rfl, rfl⟩ := Prod.mk.inj hvalue
    obtain ⟨V', hstep, vault', hcommit, hrepresents⟩ := h.addWebsiteAccount hP hok
    refine ⟨V', vault', hcommit, hrepresents, ?_⟩
    cases hstep with
    | addWebsiteAccount id hfresh htime =>
      refine .of_website (fun old hold => ?_) fun new hnew => ?_
      · rw [hfresh] at hold
        cases hold
      · cases hnew
        exact ⟨_, rfl⟩
  | updateWebsiteAccount id input =>
    obtain ⟨⟨_, rest⟩, hok, hvalue⟩ := Except.map_eq_ok.mp hcore
    obtain ⟨rfl, rfl⟩ := Prod.mk.inj hvalue
    obtain ⟨V', hstep, vault', hcommit, hrepresents⟩ := h.updateWebsiteAccount hP hok
    refine ⟨V', vault', hcommit, hrepresents, ?_⟩
    cases hstep with
    | updateWebsiteAccount record contents hpresent hfamily htime =>
      refine .of_website (fun old hold => ?_) fun new hnew => ?_
      · rw [hpresent, Option.some.injEq] at hold
        exact ⟨contents, hold ▸ hfamily⟩
      · cases hnew
        exact ⟨_, rfl⟩
  | deleteWebsiteAccount id =>
    obtain ⟨⟨_, rest⟩, hok, hvalue⟩ := Except.map_eq_ok.mp hcore
    obtain ⟨rfl, rfl⟩ := Prod.mk.inj hvalue
    obtain ⟨V', hstep, vault', hcommit, hrepresents⟩ := h.deleteWebsiteAccount hP hok
    refine ⟨V', vault', hcommit, hrepresents, ?_⟩
    cases hstep with
    | deleteWebsiteAccount record contents hpresent hfamily htime =>
      refine .of_website (fun old hold => ?_) fun new hnew => by cases hnew
      rw [hpresent, Option.some.injEq] at hold
      exact ⟨contents, hold ▸ hfamily⟩
  | addPasskey input excluded creation_state =>
    obtain ⟨⟨⟨_, credential⟩, rest⟩, hok, hvalue⟩ := Except.map_eq_ok.mp hcore
    obtain ⟨rfl, rfl⟩ := Prod.mk.inj hvalue
    obtain ⟨id, private_key, vault', hfresh, hunused, hcommit, hrepresents⟩ :=
      h.addPasskey_spec hP hok
    exact ⟨_, vault', hcommit, hrepresents, .added rfl rfl rfl hfresh hunused⟩
  | signPasskeyAssertion rp_id credential_id client_data_hash =>
    obtain ⟨⟨⟨_, assertion⟩, rest⟩, hok, hvalue⟩ := Except.map_eq_ok.mp hcore
    obtain ⟨rfl, rfl⟩ := Prod.mk.inj hvalue
    obtain ⟨id, record, passkey, vault', hpasskey, rfl, hstate, -, hbound, hcredential, hdata,
      hcommit, hrepresents⟩ := h.passkeyAssertion_spec hP hok
    refine ⟨_, vault', hcommit, hrepresents, .asserted hpasskey hstate hbound hcredential ?_ rfl rfl⟩
    rw [assertionCounter_eq hdata, UInt32.toNat_add, UInt32.toNat_one, Nat.mod_eq_of_lt hbound]
  | deletePasskey credential_id =>
    obtain ⟨⟨_, rest⟩, hok, hvalue⟩ := Except.map_eq_ok.mp hcore
    obtain ⟨rfl, rfl⟩ := Prod.mk.inj hvalue
    obtain ⟨V', hstep, vault', hcommit, hrepresents⟩ := h.deletePasskey hP hok
    refine ⟨V', vault', hcommit, hrepresents, ?_⟩
    cases hstep with
    | deletePasskey id record passkey hpresent => exact .deleted hpresent
  | confirmPasskeyCreation credential_id =>
    obtain ⟨⟨_, rest⟩, hok, hvalue⟩ := Except.map_eq_ok.mp hcore
    obtain ⟨rfl, rfl⟩ := Prod.mk.inj hvalue
    obtain ⟨V', hstep, vault', hcommit, hrepresents⟩ := h.confirmPasskeyCreation hP hok
    refine ⟨V', vault', hcommit, hrepresents, ?_⟩
    cases hstep with
    | confirmPasskeyCreation id record passkey hpresent hpending =>
      exact .confirmed hpresent hpending rfl rfl

end

/-! ## The history and the map -/

/-- No two passkeys of a map have the same credential id. -/
def DistinctCredentials (V : VaultMap) : Prop :=
  ∀ id id' record record' passkey passkey', V.HasPasskey id record passkey →
    V.HasPasskey id' record' passkey' → passkey.credential_id = passkey'.credential_id → id = id'

/-- What a history says about the map that it has led to. -/
structure Tracks (V : VaultMap) (history : List PasskeyEvent) : Prop where
  confirmed : ∀ credential_id, ConfirmedSince credential_id history ↔ Confirmed V credential_id
  counters : ∀ credential_id, ∀ assertion ∈ assertionsSince credential_id history,
    ∃ id record passkey, V.HasPasskey id record passkey ∧ passkey.credential_id = credential_id ∧
      assertionCounter assertion ≤ passkey.signature_counter.toNat
  allowed : ∀ event before, (event :: before) <:+ history → event.Allowed before

section

variable {V V' : VaultMap} {history : List PasskeyEvent}

/-- A history that grows by an event. -/
theorem allowed_cons {event : PasskeyEvent}
    (h : ∀ event before, (event :: before) <:+ history → event.Allowed before)
    (hevent : event.Allowed history) :
    ∀ event' before, (event' :: before) <:+ (event :: history) → event'.Allowed before := by
  intro event' before hsuffix
  rcases List.suffix_cons_iff.mp hsuffix with heq | hsuffix
  · obtain ⟨rfl, rfl⟩ := List.cons.inj heq
    exact hevent
  · exact h event' before hsuffix

/-- In a map with distinct credentials an id determines the passkey. -/
theorem DistinctCredentials.eq (h : DistinctCredentials V) {id id' : RecordId}
    {record record' : Record} {passkey passkey' : PasskeyContents}
    (hpasskey : V.HasPasskey id record passkey) (hpasskey' : V.HasPasskey id' record' passkey')
    (hcredential : passkey.credential_id = passkey'.credential_id) :
    id = id' ∧ record = record' ∧ passkey = passkey' := by
  obtain rfl := h id id' record record' passkey passkey' hpasskey hpasskey' hcredential
  exact ⟨rfl, HasPasskey.unique hpasskey hpasskey'⟩

theorem Tracks.unrelated (h : Tracks V history)
    (hsame : ∀ id record passkey, V'.HasPasskey id record passkey ↔ V.HasPasskey id record passkey) :
    Tracks V' history where
  confirmed := by
    intro credential_id
    simp only [h.confirmed, Confirmed, hsame]
  counters := by
    simp only [hsame]
    exact h.counters
  allowed := h.allowed

theorem Tracks.added (h : Tracks V history) {id : RecordId} {record : Record}
    {passkey : PasskeyContents} {now : UInt64} (hfresh : V.records id = none)
    (hcontents : record.contents = .passkey passkey) :
    Tracks (V.set id (some record) now)
      (.added passkey.credential_id passkey.creation_state :: history) where
  confirmed := by
    intro credential_id
    rw [ConfirmedSince, h.confirmed]
    constructor
    · rintro (⟨rfl, hstate⟩ | ⟨id', record', passkey', hpasskey, hrest⟩)
      · exact ⟨id, record, passkey, hasPasskey_set.mpr (.inl ⟨rfl, rfl, hcontents⟩), rfl, hstate⟩
      · refine ⟨id', record', passkey', hasPasskey_set.mpr (.inr ⟨?_, hpasskey⟩), hrest⟩
        rintro rfl
        exact absurd hpasskey.1 (by simp [hfresh])
    · rintro ⟨id', record', passkey', hpasskey, hcredential, hstate⟩
      rcases hasPasskey_set.mp hpasskey with ⟨rfl, hrecord, hcontents'⟩ | ⟨-, hpasskey⟩
      · cases hrecord
        rw [hcontents, Contents.passkey.injEq] at hcontents'
        subst hcontents'
        exact .inl ⟨hcredential, hstate⟩
      · exact .inr ⟨id', record', passkey', hpasskey, hcredential, hstate⟩
  counters := by
    intro credential_id assertion hassertion
    obtain ⟨id', record', passkey', hpasskey, hrest⟩ := h.counters credential_id assertion hassertion
    refine ⟨id', record', passkey', hasPasskey_set.mpr (.inr ⟨?_, hpasskey⟩), hrest⟩
    rintro rfl
    exact absurd hpasskey.1 (by simp [hfresh])
  allowed := allowed_cons h.allowed trivial

/-- The passkeys after one of them has been rewritten. -/
theorem hasPasskey_rewrite {id : RecordId} {record record' : Record}
    {passkey passkey' : PasskeyContents} {now : UInt64} (hdistinct : DistinctCredentials V)
    (hpasskey : V.HasPasskey id record passkey) (hcontents : record'.contents = .passkey passkey')
    (hcredential : passkey'.credential_id = passkey.credential_id) {credential_id : Bytes 32}
    {Q : PasskeyContents → Prop} :
    (∃ id₁ record₁ passkey₁, (V.set id (some record') now).HasPasskey id₁ record₁ passkey₁ ∧
      passkey₁.credential_id = credential_id ∧ Q passkey₁) ↔
    passkey.credential_id = credential_id ∧ Q passkey' ∨
    passkey.credential_id ≠ credential_id ∧ ∃ id₁ record₁ passkey₁,
      V.HasPasskey id₁ record₁ passkey₁ ∧ passkey₁.credential_id = credential_id ∧ Q passkey₁ := by
  constructor
  · rintro ⟨id₁, record₁, passkey₁, hpasskey₁, hcredential₁, hQ⟩
    rcases hasPasskey_set.mp hpasskey₁ with ⟨rfl, hrecord, hcontents₁⟩ | ⟨hne, hpasskey₁⟩
    · cases hrecord
      rw [hcontents, Contents.passkey.injEq] at hcontents₁
      subst hcontents₁
      exact .inl ⟨hcredential.symm.trans hcredential₁, hQ⟩
    · refine .inr ⟨fun heq => hne ?_, id₁, record₁, passkey₁, hpasskey₁, hcredential₁, hQ⟩
      exact hdistinct _ _ _ _ _ _ hpasskey₁ hpasskey (hcredential₁.trans heq.symm)
  · rintro (⟨rfl, hQ⟩ | ⟨hne, id₁, record₁, passkey₁, hpasskey₁, hcredential₁, hQ⟩)
    · exact ⟨id, record', passkey', hasPasskey_set.mpr (.inl ⟨rfl, rfl, hcontents⟩), hcredential, hQ⟩
    · refine ⟨id₁, record₁, passkey₁, hasPasskey_set.mpr (.inr ⟨?_, hpasskey₁⟩), hcredential₁, hQ⟩
      rintro rfl
      exact hne ((HasPasskey.unique hpasskey hpasskey₁).2 ▸ hcredential₁)

theorem Tracks.confirm (h : Tracks V history) (hdistinct : DistinctCredentials V) {id : RecordId}
    {record record' : Record} {passkey : PasskeyContents} {now : UInt64}
    (hpasskey : V.HasPasskey id record passkey) (hpending : passkey.creation_state = .pending)
    (hcontents : record'.contents = .passkey { passkey with creation_state := .confirmed }) :
    Tracks (V.set id (some record') now) (.confirmed passkey.credential_id :: history) where
  confirmed := by
    intro credential_id
    rw [ConfirmedSince, h.confirmed, Confirmed, Confirmed,
      hasPasskey_rewrite hdistinct hpasskey hcontents rfl]
    by_cases heq : passkey.credential_id = credential_id
    · simp [heq]
    · simp [heq]
  counters := by
    intro credential_id assertion hassertion
    have hold := h.counters credential_id assertion hassertion
    rw [hasPasskey_rewrite hdistinct hpasskey hcontents rfl]
    by_cases heq : passkey.credential_id = credential_id
    · obtain ⟨id₁, record₁, passkey₁, hpasskey₁, hcredential₁, hcounter⟩ := hold
      obtain ⟨-, -, rfl⟩ := hdistinct.eq hpasskey hpasskey₁ (heq.trans hcredential₁.symm)
      exact .inl ⟨heq, hcounter⟩
    · exact .inr ⟨heq, hold⟩
  allowed := by
    refine allowed_cons h.allowed ?_
    -- A pending passkey has not been confirmed.
    intro hconfirmed
    obtain ⟨id₁, record₁, passkey₁, hpasskey₁, hcredential₁, hstate⟩ :=
      (h.confirmed _).mp hconfirmed
    obtain ⟨-, -, rfl⟩ := hdistinct.eq hpasskey hpasskey₁ hcredential₁.symm
    rw [hpending] at hstate
    cases hstate

/-- A durable assertion, before it is returned. -/
theorem Tracks.sign (h : Tracks V history) (hdistinct : DistinctCredentials V) {id : RecordId}
    {record record' : Record} {passkey : PasskeyContents} {now : UInt64}
    (hpasskey : V.HasPasskey id record passkey)
    (hbound : passkey.signature_counter.toNat + 1 < 2 ^ 32)
    (hcontents : record'.contents =
      .passkey { passkey with signature_counter := passkey.signature_counter + 1 }) :
    Tracks (V.set id (some record') now) history where
  confirmed := by
    intro credential_id
    rw [h.confirmed, Confirmed, Confirmed, hasPasskey_rewrite hdistinct hpasskey hcontents rfl]
    by_cases heq : passkey.credential_id = credential_id
    · simp only [heq, true_and, ne_eq, not_true_eq_false, false_and, or_false]
      constructor
      · rintro ⟨id₁, record₁, passkey₁, hpasskey₁, hcredential₁, hstate⟩
        obtain ⟨-, -, rfl⟩ := hdistinct.eq hpasskey hpasskey₁ (heq.trans hcredential₁.symm)
        exact hstate
      · intro hstate
        exact ⟨id, record, passkey, hpasskey, heq, hstate⟩
    · simp [heq]
  counters := by
    intro credential_id assertion hassertion
    have hold := h.counters credential_id assertion hassertion
    rw [hasPasskey_rewrite hdistinct hpasskey hcontents rfl]
    by_cases heq : passkey.credential_id = credential_id
    · obtain ⟨id₁, record₁, passkey₁, hpasskey₁, hcredential₁, hcounter⟩ := hold
      obtain ⟨-, -, rfl⟩ := hdistinct.eq hpasskey hpasskey₁ (heq.trans hcredential₁.symm)
      refine .inl ⟨heq, ?_⟩
      rw [UInt32.toNat_add, UInt32.toNat_one, Nat.mod_eq_of_lt hbound]
      omega
    · exact .inr ⟨heq, hold⟩
  allowed := h.allowed

/-- An assertion that is returned, after its counter has become durable. -/
theorem Tracks.returned (h : Tracks V history) {assertion : PasskeyAssertion}
    (hconfirmed : Confirmed V assertion.credential_id)
    (hcounter : ∃ id record passkey, V.HasPasskey id record passkey ∧
      passkey.credential_id = assertion.credential_id ∧
      assertionCounter assertion ≤ passkey.signature_counter.toNat)
    (hgreater : ∀ earlier ∈ assertionsSince assertion.credential_id history,
      assertionCounter earlier < assertionCounter assertion) :
    Tracks V (.asserted assertion :: history) where
  confirmed := h.confirmed
  counters := by
    intro credential_id assertion' hassertion
    unfold assertionsSince at hassertion
    split_ifs at hassertion with heq
    · subst heq
      rcases List.mem_cons.mp hassertion with rfl | hassertion
      · exact hcounter
      · exact h.counters _ _ hassertion
    · exact h.counters _ _ hassertion
  allowed := allowed_cons h.allowed ⟨(h.confirmed _).mpr hconfirmed, hgreater⟩

theorem Tracks.listed (h : Tracks V history) {credential_ids : List (Bytes 32)}
    (hconfirmed : ∀ credential_id ∈ credential_ids, Confirmed V credential_id) :
    Tracks V (.listed credential_ids :: history) where
  confirmed := h.confirmed
  counters := h.counters
  allowed := allowed_cons h.allowed fun credential_id hid =>
    (h.confirmed _).mpr (hconfirmed credential_id hid)

theorem Tracks.delete (h : Tracks V history) (hdistinct : DistinctCredentials V) {id : RecordId}
    {record : Record} {passkey : PasskeyContents} {now : UInt64}
    (hpasskey : V.HasPasskey id record passkey) :
    Tracks (V.set id none now) (.deleted passkey.credential_id :: history) := by
  -- What is left are the passkeys with other credential ids.
  have hleft : ∀ {id₁ record₁ passkey₁}, (V.set id none now).HasPasskey id₁ record₁ passkey₁ ↔
      passkey.credential_id ≠ passkey₁.credential_id ∧ V.HasPasskey id₁ record₁ passkey₁ := by
    intro id₁ record₁ passkey₁
    rw [hasPasskey_set]
    constructor
    · rintro (⟨-, hnone, -⟩ | ⟨hne, hpasskey₁⟩)
      · cases hnone
      · exact ⟨fun heq => hne (hdistinct.eq hpasskey₁ hpasskey heq.symm).1, hpasskey₁⟩
    · rintro ⟨hne, hpasskey₁⟩
      refine .inr ⟨?_, hpasskey₁⟩
      rintro rfl
      exact hne (congrArg PasskeyContents.credential_id (HasPasskey.unique hpasskey hpasskey₁).2)
  refine ⟨?_, ?_, allowed_cons h.allowed trivial⟩
  · intro credential_id
    rw [ConfirmedSince, h.confirmed]
    constructor
    · rintro ⟨hne, id₁, record₁, passkey₁, hpasskey₁, rfl, hstate⟩
      exact ⟨id₁, record₁, passkey₁, hleft.mpr ⟨hne, hpasskey₁⟩, rfl, hstate⟩
    · rintro ⟨id₁, record₁, passkey₁, hpasskey₁, rfl, hstate⟩
      obtain ⟨hne, hpasskey₁⟩ := hleft.mp hpasskey₁
      exact ⟨hne, id₁, record₁, passkey₁, hpasskey₁, rfl, hstate⟩
  · intro credential_id assertion hassertion
    unfold assertionsSince at hassertion
    split_ifs at hassertion with heq
    · cases hassertion
    · obtain ⟨id₁, record₁, passkey₁, hpasskey₁, rfl, hcounter⟩ := h.counters _ _ hassertion
      exact ⟨id₁, record₁, passkey₁, hleft.mpr ⟨heq, hpasskey₁⟩, rfl, hcounter⟩

/-- A mutation that has become durable, and possibly been reported. -/
theorem Tracks.effect (h : Tracks V history) (hdistinct : DistinctCredentials V)
    {durable returned : List PasskeyEvent} (heffect : PasskeyEffect V durable returned V')
    {reported : Bool} :
    Tracks V' ((if reported then returned else []) ++ (durable ++ history)) := by
  cases heffect with
  | unrelated hsame =>
    cases reported <;> exact h.unrelated hsame
  | added hcontents hcredential hstate hfresh hunused =>
    subst hcredential hstate
    cases reported <;> exact h.added hfresh hcontents
  | confirmed hpresent hpending hcreated hcontents =>
    cases reported <;> exact h.confirm hdistinct hpresent hpending hcontents
  | deleted hpresent =>
    cases reported <;> exact h.delete hdistinct hpresent
  | asserted hpresent hstate hbound hcredential hcounter hcreated hcontents =>
    rename_i id record record' passkey now assertion
    have hsigned : Tracks (V.set id (some record') now) history :=
      h.sign hdistinct hpresent hbound hcontents
    cases reported with
    | false => exact hsigned
    | true =>
      have hnew : (V.set id (some record') now).HasPasskey id record'
          { passkey with signature_counter := passkey.signature_counter + 1 } :=
        hasPasskey_set.mpr (.inl ⟨rfl, rfl, hcontents⟩)
      refine hsigned.returned ⟨id, record', _, hnew, hcredential.symm, hstate⟩
        ⟨id, record', _, hnew, hcredential.symm, ?_⟩ ?_
      · rw [hcounter, UInt32.toNat_add, UInt32.toNat_one, Nat.mod_eq_of_lt hbound]
      · -- Those before have been returned for the same passkey, with at most its counter.
        intro earlier hearlier
        obtain ⟨id₁, record₁, passkey₁, hpasskey₁, hcredential₁, hle⟩ := h.counters _ _ hearlier
        obtain ⟨-, -, rfl⟩ :=
          hdistinct.eq hpresent hpasskey₁ (hcredential.symm.trans hcredential₁.symm)
        omega

end

end Librarian.Agent
