import Librarian.Agent.GateSections
import Librarian.Protocol.Accounting

/-!
# What a thread knows when it fills a form

A browser asks twice: first which account fits a document, then for the credential of the account
that it was offered. The first answer leaves a lease in the slot of the connection, the second
request takes it out. Between the two the vault mutex, the commit gate and the mutex of the leases
are free most of the time. What ties the two requests together is the lease: its context, its
selection, its epoch, and the generation of the accounts, which counts their changes.
-/

namespace Librarian.Agent

open Conc Librarian.Core Librarian.Protocol

variable {P : Primitives}

/-! ## Leases in a history -/

/-- A thread has begun a request, for which its connection has the role and the features. -/
def Begins (history : History (machine P)) (t : ℕ) (key : RequestKey) (permit : RequestPermit)
    (envelope : RequestEnvelope) : Prop :=
  ∃ connection header current_unlock_epoch s,
    .action t (.beginRequest connection header envelope current_unlock_epoch) (.ok permit) s ∈
      history ∧
    key = ⟨connection.connection_id, permit.request_id⟩ ∧ permit.operation = envelope.operation ∧
    permit.operation.isAuthorizedFor connection.role = true ∧
    ∀ feature ∈ permit.operation.requiredFeature, feature ∈ connection.granted_features

/-- A thread has begun a request for an operation. -/
def Asks (history : History (machine P)) (t : ℕ) (key : RequestKey) (permit : RequestPermit)
    (request : OperationRequest) : Prop :=
  ∃ envelope, Begins history t key permit envelope ∧ envelope.decoded = .ok request

/-- A thread has read the one account that fits an origin, at a generation of the accounts. -/
def Finds (events : History (machine P)) (t : ℕ) (origin : BrowserOrigin P)
    (account : Option WebsiteAccount) (generation : ℕ) : Prop :=
  ∃ s, .action t (.vaultRead (.uniqueBrowserAccount origin)) (.ok account) s ∈ events ∧
    s.accounts_generation = generation

/-- A lease is put into the slot of a connection: by a thread that serves a request without a
selection, for the context of that request, and for the account that the thread has read at the
present generation of the accounts. -/
def Offered (earlier : History (machine P)) (issue : Event (machine P))
    (connection_id : ConnectionId) (lease : BrowserLease) : Prop :=
  ∃ t key permit origin account token s,
    issue = .action t (.leaseIssue connection_id lease) true s ∧
    key.connection_id = connection_id ∧
    Asks earlier t key permit (.exactOriginMatches lease.context) ∧
    permit.unlock_epoch = lease.epoch ∧ s.accounts_generation = lease.accounts_generation ∧
    BrowserOrigin.parse P lease.context.top_origin = some origin ∧
    Finds earlier t origin (some account) lease.accounts_generation ∧
    BrowserSelection.new token account.id account.revision = some lease.selection

/-- The connection whose slot an action empties or fills. A claim leaves an occupied slot alone. -/
def Action.leaseSlot : Action P → Option ConnectionId
  | .leaseTake connection_id | .leaseIssue connection_id _ | .leaseConsume connection_id
  | .leaseRemove connection_id => some connection_id
  | _ => none

/-- An event empties or fills the slot of a connection. -/
def Touches (connection_id : ConnectionId) : Event (machine P) → Prop
  | .action _ a _ _ => a.leaseSlot = some connection_id
  | _ => False

/-- An account is added, updated or deleted. -/
def Changes : Event (machine P) → Prop
  | .action _ .accountsChanged _ _ => True
  | _ => False

/-- A thread has redeemed a lease: it has taken it out of the slot of its connection, where it was
put by an offer and where nobody has touched it in between, and no account has changed since the
offer. -/
def Redeemed (history later : History (machine P)) (t : ℕ) (connection_id : ConnectionId)
    (lease : BrowserLease) : Prop :=
  ∃ before middle issue earlier,
    history = later ++ .action t (.leaseTake connection_id) (some lease) before ::
      (middle ++ issue :: earlier) ∧
    Offered earlier issue connection_id lease ∧ (∀ event ∈ middle, ¬Touches connection_id event) ∧
    ∀ event ∈ later ++ middle, ¬Changes event

/-- As long as the generation of the accounts is the lease's, no account has changed. -/
structure Unchanged (lease : BrowserLease) (generation : ℕ) (events : History (machine P)) :
    Prop where
  bound : lease.accounts_generation < u64Max
  le : lease.accounts_generation ≤ generation
  unchanged : generation = lease.accounts_generation → ∀ event ∈ events, ¬Changes event

/-- A lease is in the slot of a connection since it was offered there. -/
def Outstanding (history : History (machine P)) (connection_id : ConnectionId)
    (lease : BrowserLease) (generation : ℕ) : Prop :=
  ∃ middle issue earlier, history = middle ++ issue :: earlier ∧
    Offered earlier issue connection_id lease ∧ (∀ event ∈ middle, ¬Touches connection_id event) ∧
    Unchanged lease generation middle

/-- A thread has taken a lease out of its slot. -/
def Taken (history later : History (machine P)) (t : ℕ) (connection_id : ConnectionId)
    (lease : BrowserLease) (generation : ℕ) : Prop :=
  ∃ before middle issue earlier,
    history = later ++ .action t (.leaseTake connection_id) (some lease) before ::
      (middle ++ issue :: earlier) ∧
    Offered earlier issue connection_id lease ∧ (∀ event ∈ middle, ¬Touches connection_id event) ∧
    Unchanged lease generation (later ++ middle)

theorem Taken.redeemed {history later : History (machine P)} {t : ℕ}
    {connection_id : ConnectionId} {lease : BrowserLease}
    (h : Taken history later t connection_id lease lease.accounts_generation) :
    Redeemed history later t connection_id lease := by
  obtain ⟨before, middle, issue, earlier, hhistory, hoffered, huntouched, hunchanged⟩ := h
  exact ⟨before, middle, issue, earlier, hhistory, hoffered, huntouched, hunchanged.unchanged rfl⟩

section

variable {history later : History (machine P)} {t : ℕ} {a : Action P} {o : Oracle} {s : Shared}
  {lease : BrowserLease} {connection_id : ConnectionId} {generation : ℕ}

theorem Begins.cons {key : RequestKey} {permit : RequestPermit} {envelope : RequestEnvelope}
    (h : Begins history t key permit envelope) (event : Event (machine P)) :
    Begins (event :: history) t key permit envelope := by
  obtain ⟨connection, header, current, s, hmem, hpermit⟩ := h
  exact ⟨connection, header, current, s, List.mem_cons_of_mem _ hmem, hpermit⟩

theorem Finds.cons {origin : BrowserOrigin P} {account : Option WebsiteAccount}
    (h : Finds history t origin account generation) (event : Event (machine P)) :
    Finds (event :: history) t origin account generation := by
  obtain ⟨s, hmem, hgeneration⟩ := h
  exact ⟨s, List.mem_cons_of_mem _ hmem, hgeneration⟩

/-- The generation of the accounts never falls, and every change of an account moves it on. -/
theorem accountsGeneration_perform (h : s.accounts_generation ≤ u64Max) :
    s.accounts_generation ≤ (perform a o s).2.accounts_generation ∧
      (perform a o s).2.accounts_generation ≤ u64Max ∧
      (Changes (.action t a (perform a o s).1 s) → s.accounts_generation < u64Max →
        s.accounts_generation < (perform a o s).2.accounts_generation) := by
  by_cases hchanges : a = .accountsChanged
  · subst hchanges
    have hperform : (perform (P := P) .accountsChanged o s).2.accounts_generation =
        (checkedAddOne s.accounts_generation).getD u64Max := rfl
    rw [hperform]
    unfold checkedAddOne
    split_ifs with hlt
    · show s.accounts_generation ≤ s.accounts_generation + 1 ∧ _
      exact ⟨by omega, by simp only [Option.getD_some]; omega, fun _ _ => by simp⟩
    · exact ⟨h, le_rfl, fun _ hbelow => absurd hbelow hlt⟩
  · have hsame : (perform a o s).2.accounts_generation = s.accounts_generation := by
      cases a <;> first
        | rfl
        | (dsimp only [perform, Shared.onConnection]; split <;> rfl)
        | (dsimp only [perform]; split_ifs <;> rfl)
        | exact absurd rfl hchanges
    rw [hsame]
    refine ⟨le_rfl, h, fun hchange => ?_⟩
    cases a with
    | accountsChanged => exact absurd rfl hchanges
    | _ => exact hchange.elim

theorem Unchanged.perform {events : History (machine P)}
    (h : Unchanged lease s.accounts_generation events) (hbound : s.accounts_generation ≤ u64Max) :
    Unchanged lease (Agent.perform a o s).2.accounts_generation
      (.action t a (Agent.perform a o s).1 s :: events) := by
  obtain ⟨hle, -, hlt⟩ := accountsGeneration_perform (t := t) (a := a) (o := o) hbound
  have hlow := h.le
  refine ⟨h.bound, hlow.trans hle, fun hsame event hmem => ?_⟩
  obtain rfl | hmem := List.mem_cons.mp hmem
  · intro hchanges
    have hbelow := h.bound
    have := hlt hchanges (by omega)
    omega
  · exact h.unchanged (by omega) event hmem

/-- A step on a mutex changes no account. -/
theorem Unchanged.cons {events : History (machine P)} (h : Unchanged lease generation events)
    {event : Event (machine P)} (hevent : ¬Changes event) :
    Unchanged lease generation (event :: events) := by
  refine ⟨h.bound, h.le, fun hsame event' hmem => ?_⟩
  obtain rfl | hmem := List.mem_cons.mp hmem
  · exact hevent
  · exact h.unchanged hsame event' hmem

theorem Outstanding.perform (h : Outstanding history connection_id lease s.accounts_generation)
    (hbound : s.accounts_generation ≤ u64Max) (hslot : a.leaseSlot ≠ some connection_id) :
    Outstanding (.action t a (Agent.perform a o s).1 s :: history) connection_id lease
      (Agent.perform a o s).2.accounts_generation := by
  obtain ⟨middle, issue, earlier, rfl, hoffered, huntouched, hunchanged⟩ := h
  refine ⟨_ :: middle, issue, earlier, rfl, hoffered, fun event hmem => ?_,
    hunchanged.perform hbound⟩
  obtain rfl | hmem := List.mem_cons.mp hmem
  · exact hslot
  · exact huntouched event hmem

theorem Outstanding.cons (h : Outstanding history connection_id lease generation)
    {event : Event (machine P)} (htouches : ¬Touches connection_id event)
    (hchanges : ¬Changes event) :
    Outstanding (event :: history) connection_id lease generation := by
  obtain ⟨middle, issue, earlier, rfl, hoffered, huntouched, hunchanged⟩ := h
  refine ⟨event :: middle, issue, earlier, rfl, hoffered, fun event' hmem => ?_,
    hunchanged.cons hchanges⟩
  obtain rfl | hmem := List.mem_cons.mp hmem
  · exact htouches
  · exact huntouched event' hmem

/-- What is taken out of a slot was put there by an offer. -/
theorem Outstanding.taken (h : Outstanding history connection_id lease generation) (s : Shared) :
    Taken (.action t (.leaseTake connection_id) (some lease) s :: history) [] t connection_id lease
      generation := by
  obtain ⟨middle, issue, earlier, rfl, hoffered, huntouched, hunchanged⟩ := h
  exact ⟨s, middle, issue, earlier, rfl, hoffered, huntouched, hunchanged⟩

theorem Taken.perform {t' : ℕ} (h : Taken history later t connection_id lease s.accounts_generation)
    (hbound : s.accounts_generation ≤ u64Max) :
    Taken (.action t' a (Agent.perform a o s).1 s :: history)
      (.action t' a (Agent.perform a o s).1 s :: later) t connection_id lease
      (Agent.perform a o s).2.accounts_generation := by
  obtain ⟨before, middle, issue, earlier, rfl, hoffered, huntouched, hunchanged⟩ := h
  exact ⟨before, middle, issue, earlier, rfl, hoffered, huntouched, hunchanged.perform hbound⟩

theorem Taken.cons (h : Taken history later t connection_id lease generation)
    {event : Event (machine P)} (hchanges : ¬Changes event) :
    Taken (event :: history) (event :: later) t connection_id lease generation := by
  obtain ⟨before, middle, issue, earlier, rfl, hoffered, huntouched, hunchanged⟩ := h
  exact ⟨before, middle, issue, earlier, rfl, hoffered, huntouched, hunchanged.cons hchanges⟩

end

/-! ## The discipline -/

/-- What a thread knows of the browser request that it serves. -/
structure Filling (P : Primitives) where
  request : Option (RequestKey × RequestPermit × RequestEnvelope) := none
  /-- The lease that the thread has taken, with its connection. -/
  lease : Option (ConnectionId × BrowserLease) := none
  /-- The account that it has read since, with the origin and the generation of the accounts. -/
  found : Option (BrowserOrigin P × Option WebsiteAccount × ℕ) := none
  /-- Whether it holds the vault mutex, and the generation that it has read there. -/
  vault : Option (Option ℕ) := none
  /-- The time that it has read in the present section under the commit gate. -/
  time : Option ℕ := none

namespace Filling

variable (φ : Filling P)

def requestAfter : (a : Action P) → a.Result → Option (RequestKey × RequestPermit × RequestEnvelope)
  | .beginRequest connection _ envelope _, .ok permit =>
    some (⟨connection.connection_id, permit.request_id⟩, permit, envelope)
  | _, _ => φ.request

def leaseAfter : (a : Action P) → a.Result → Option (ConnectionId × BrowserLease)
  | .leaseTake connection_id, lease => lease.map fun lease => (connection_id, lease)
  | _, _ => φ.lease

def foundAfter : (a : Action P) → a.Result → Option (BrowserOrigin P × Option WebsiteAccount × ℕ)
  | .vaultRead (.uniqueBrowserAccount origin), .ok account =>
    φ.vault.join.map fun generation => (origin, account, generation)
  | .leaseTake _, _ => none
  | _, _ => φ.found

def vaultAfter : (a : Action P) → a.Result → Option (Option ℕ)
  | .loadAccountsGeneration, generation => φ.vault.map fun _ => some generation
  | .accountsChanged, _ => φ.vault.map fun _ => none
  | _, _ => φ.vault

def timeAfter : (a : Action P) → a.Result → Option ℕ
  | .now, time => some time
  | _, _ => φ.time

/-- The phase after an action. -/
def next (a : Action P) (r : a.Result) : Filling P where
  request := φ.requestAfter a r
  lease := φ.leaseAfter a r
  found := φ.foundAfter a r
  vault := φ.vaultAfter a r
  time := φ.timeAfter a r

/-- The phase after an acquisition. -/
def acquire : Mutex → Filling P
  | .vault => { φ with vault := some none }
  | .commitGate => { φ with time := none }
  | _ => φ

/-- The phase after a release. -/
def release : Mutex → Filling P
  | .vault => { φ with vault := none }
  | _ => φ

/-- The thread may offer a lease: it serves a request without a selection, and has read the account
under the vault mutex, which it still holds. -/
def Offers (connection_id : ConnectionId) (lease : BrowserLease) : Prop :=
  ∃ key permit envelope origin account token, φ.request = some (key, permit, envelope) ∧
    key.connection_id = connection_id ∧
    envelope.decoded = .ok (.exactOriginMatches lease.context) ∧
    permit.unlock_epoch = lease.epoch ∧ lease.accounts_generation ≠ u64Max ∧
    φ.vault = some (some lease.accounts_generation) ∧
    BrowserOrigin.parse P lease.context.top_origin = some origin ∧
    φ.found = some (origin, some account, lease.accounts_generation) ∧
    BrowserSelection.new token account.id account.revision = some lease.selection

/-- The thread has redeemed a lease for a selection, and has read its account. -/
structure Redeems (connection_id : ConnectionId) (epoch : ℕ) (context : BrowserContext)
    (selection : BrowserSelection) (redeemed : BrowserLease) (origin : BrowserOrigin P)
    (account : WebsiteAccount) : Prop where
  context_eq : redeemed.context = context
  selection_eq : redeemed.selection = selection
  epoch_eq : redeemed.epoch = epoch
  taken : φ.lease = some (connection_id, redeemed)
  parsed : BrowserOrigin.parse P context.top_origin = some origin
  read : φ.found = some (origin, some account, redeemed.accounts_generation)
  id_eq : account.id = selection.record_id
  revision_eq : account.revision = selection.revision

/-- The thread may disclose a credential: it has read the generation of the lease and a time before
its end in the present section. -/
def Fills (seen : Option Seen) (key : RequestKey) (permit : RequestPermit) (committed : Bool)
    (body : Body) : Prop :=
  ∃ envelope request, φ.request = some (key, permit, envelope) ∧ envelope.decoded = .ok request ∧
    ∀ context selection, request = .getSelectedCredential context selection →
      committed = false ∧ ∃ lease origin account known time,
        φ.Redeems key.connection_id permit.unlock_epoch context selection lease origin account ∧
        body = .browserCredential account.username account.password ∧
        seen = some known ∧ known.generation = some lease.accounts_generation ∧
        φ.time = some time ∧ time < lease.expires

/-- What a phase allows. -/
def allows (seen : Option Seen) (φ : Filling P) : Action P → Prop
  | .leaseIssue connection_id lease => φ.Offers connection_id lease
  | .writeResponse key permit committed (.success body) =>
    permit.operation = .getSelectedCredential → φ.Fills seen key permit committed body
  | _ => True

theorem allows_of_kind {seen : Option Seen} {φ : Filling P} {a : Action P} (hlease : a.kind ≠ .lease)
    (hcompletion : a.kind ≠ .completion) : φ.allows seen a := by
  cases a with
  | leaseIssue => exact absurd rfl hlease
  | writeResponse => exact absurd rfl hcompletion
  | _ => trivial

end Filling

/-- The discipline of browser fills. -/
def filling (P : Primitives) : Discipline (machine P) (Option Seen × Filling P) :=
  knowing {} Filling.next Filling.release Filling.allows Filling.acquire

/-! ## The invariant -/

section

variable {history : History (machine P)} {s : Shared} {a : Action P} {t : ℕ} {o : Oracle}
  {φ : Filling P} {connection_id : ConnectionId} {lease : BrowserLease}

/-- The permit of a request is for the operation of its envelope, to which the connection is
entitled. -/
theorem permit_of_beginRequest {connection : Connection} {header : FrameHeader}
    {envelope : RequestEnvelope} {current_unlock_epoch : ℕ} {permit : RequestPermit}
    (h : (perform (P := P) (.beginRequest connection header envelope current_unlock_epoch)
      o s).1 = .ok permit) : permit.operation = envelope.operation ∧
    permit.operation.isAuthorizedFor connection.role = true ∧
    ∀ feature ∈ permit.operation.requiredFeature, feature ∈ connection.granted_features := by
  dsimp only [perform, Shared.onConnection] at h
  split at h
  · cases h
  · dsimp only [ConnectionState.beginRequest] at h
    split at h
    · cases h
    · split at h
      · cases h
      · split_ifs at h with hrole hfeature
        all_goals cases h
        exact ⟨rfl, hrole, by simpa using hfeature⟩

theorem Filling.of_requestAfter {key : RequestKey} {permit : RequestPermit}
    {envelope : RequestEnvelope}
    (h : φ.requestAfter a (perform a o s).1 = some (key, permit, envelope)) :
    φ.request = some (key, permit, envelope) ∨
      Begins (.action t a (perform a o s).1 s :: history) t key permit envelope := by
  cases a with
  | beginRequest connection header envelope' current =>
    cases hresult : (perform (P := P) (.beginRequest connection header envelope' current) o s).1 with
    | error e =>
      rw [hresult] at h
      exact .inl h
    | ok permit' =>
      rw [hresult] at h
      obtain ⟨rfl, rfl, rfl⟩ : _ = key ∧ permit' = permit ∧ envelope' = envelope := by
        simpa [requestAfter] using h
      refine .inr ⟨connection, header, current, s, List.mem_cons_self, rfl, ?_⟩
      exact permit_of_beginRequest hresult
  | _ => exact .inl h

/-- A lease that a thread has, it has taken just now, or before. -/
theorem Filling.of_leaseAfter (h : φ.leaseAfter a (perform a o s).1 = some (connection_id, lease)) :
    (φ.lease = some (connection_id, lease) ∧ ∀ id, a ≠ .leaseTake id) ∨
      a = .leaseTake connection_id ∧ s.browser_leases.lookup connection_id = some (some lease) := by
  cases a with
  | leaseTake id =>
    right
    dsimp only [leaseAfter, perform] at h
    split at h
    · next lease' hslot =>
      obtain ⟨rfl, rfl⟩ : id = connection_id ∧ lease' = lease := by simpa using h
      exact ⟨rfl, hslot⟩
    · cases h
  | _ => exact .inl ⟨h, fun _ heq => by cases heq⟩

/-- An account that a thread has found, it has read just now, or before. -/
theorem Filling.of_foundAfter {origin : BrowserOrigin P} {account : Option WebsiteAccount}
    {generation : ℕ} (h : φ.foundAfter a (perform a o s).1 = some (origin, account, generation)) :
    (φ.found = some (origin, account, generation) ∧ ∀ id, a ≠ .leaseTake id) ∨
      φ.vault = some (some generation) ∧ (.action t a (perform a o s).1 s : Event (machine P)) =
        .action t (.vaultRead (.uniqueBrowserAccount origin)) (.ok account) s := by
  cases a with
  | leaseTake => cases h
  | vaultRead query =>
    cases query with
    | uniqueBrowserAccount origin' =>
      cases hresult : (perform (.vaultRead (.uniqueBrowserAccount origin')) o s).1 with
      | error e =>
        rw [hresult] at h
        exact .inl ⟨h, fun _ heq => by cases heq⟩
      | ok account' =>
        rw [hresult] at h
        right
        dsimp only [foundAfter] at h
        obtain ⟨generation', hvault, heq⟩ := Option.map_eq_some_iff.mp h
        cases heq
        exact ⟨Option.join_eq_some_iff.mp hvault, rfl⟩
    | _ => exact .inl ⟨h, fun _ heq => by cases heq⟩
  | _ => exact .inl ⟨h, fun _ heq => by cases heq⟩

/-- What a thread knows of the generation of the accounts is so after its action. -/
theorem Filling.of_vaultAfter {known : Option ℕ}
    (h : φ.vaultAfter a (perform a o s).1 = some known) :
    ∃ known', φ.vault = some known' ∧ ((∀ generation ∈ known', s.accounts_generation = generation) →
      ∀ generation ∈ known, (perform a o s).2.accounts_generation = generation) := by
  cases a with
  | loadAccountsGeneration =>
    obtain ⟨known', hvault, rfl⟩ := Option.map_eq_some_iff.mp h
    exact ⟨known', hvault, fun _ _ hmem => Option.some.inj hmem⟩
  | accountsChanged =>
    obtain ⟨known', hvault, rfl⟩ := Option.map_eq_some_iff.mp h
    exact ⟨known', hvault, fun _ _ hmem => by cases hmem⟩
  | _ =>
    refine ⟨known, h, fun hknown generation hmem => ?_⟩
    refine Eq.trans ?_ (hknown generation hmem)
    first
      | rfl
      | (dsimp only [perform, Shared.onConnection]; split <;> rfl)
      | (dsimp only [perform]; split_ifs <;> rfl)

theorem Filling.of_timeAfter {time : ℕ} (h : φ.timeAfter a (perform a o s).1 = some time) :
    φ.time = some time ∨ (.action t a (perform a o s).1 s : Event (machine P)) =
      .action t .now time s := by
  cases a with
  | now =>
    obtain rfl := Option.some.inj h
    exact .inr rfl
  | _ => exact .inl h

/-- Only the holder of the vault mutex changes the generation of the accounts. -/
theorem perform_generation_of_vault (h : .vault ∉ a.guard) :
    (perform a o s).2.accounts_generation = s.accounts_generation := by
  cases a with
  | accountsChanged => simp [Action.guard] at h
  | _ => first
    | rfl
    | (dsimp only [perform, Shared.onConnection]; split <;> rfl)
    | (dsimp only [perform]; split_ifs <;> rfl)

/-- What is in the slot of a connection after an action was there before, or has been issued just
now. -/
theorem slot_perform (h : (perform a o s).2.browser_leases.lookup connection_id =
      some (some lease)) :
    (s.browser_leases.lookup connection_id = some (some lease) ∧
      a.leaseSlot ≠ some connection_id) ∨
    a = .leaseIssue connection_id lease ∧
      (.action t a (perform a o s).1 s : Event (machine P)) =
        .action t (.leaseIssue connection_id lease) true s := by
  cases a with
  | leaseTake id =>
    left
    dsimp only [perform] at h
    split at h
    · next lease' hslot =>
      by_cases hid : connection_id = id
      · subst hid
        rw [Shared.setLease, AList.lookup_insert] at h
        cases h
      · rw [Shared.setLease, AList.lookup_insert_ne hid] at h
        exact ⟨h, fun heq => hid (Option.some.inj heq).symm⟩
    · next hslot =>
      refine ⟨h, fun heq => ?_⟩
      obtain rfl := Option.some.inj heq
      exact hslot lease h
  | leaseClaim id =>
    left
    refine ⟨?_, by simp [Action.leaseSlot]⟩
    dsimp only [perform] at h
    split_ifs at h with hoccupied hfull
    · exact h
    · exact h
    · by_cases hid : connection_id = id
      · subst hid
        rw [Shared.setLease, AList.lookup_insert] at h
        cases h
      · rwa [Shared.setLease, AList.lookup_insert_ne hid] at h
  | leaseIssue id lease' =>
    dsimp only [perform] at h ⊢
    split_ifs at h ⊢ with hoccupied
    · by_cases hid : connection_id = id
      · subst hid
        rw [Shared.setLease, AList.lookup_insert] at h
        obtain rfl := Option.some.inj (Option.some.inj h)
        exact .inr ⟨rfl, rfl⟩
      · rw [Shared.setLease, AList.lookup_insert_ne hid] at h
        exact .inl ⟨h, fun heq => hid (Option.some.inj heq).symm⟩
    · refine .inl ⟨h, fun heq => ?_⟩
      obtain rfl := Option.some.inj heq
      simp [h] at hoccupied
  | leaseConsume id =>
    left
    dsimp only [perform] at h
    split_ifs at h with hoccupied
    · by_cases hid : connection_id = id
      · subst hid
        rw [Shared.setLease, AList.lookup_insert] at h
        cases h
      · rw [Shared.setLease, AList.lookup_insert_ne hid] at h
        exact ⟨h, fun heq => hid (Option.some.inj heq).symm⟩
    · refine ⟨h, fun heq => ?_⟩
      obtain rfl := Option.some.inj heq
      simp [h] at hoccupied
  | leaseRemove id =>
    left
    dsimp only [perform] at h
    by_cases hid : connection_id = id
    · subst hid
      rw [AList.lookup_erase] at h
      cases h
    · rw [AList.lookup_erase_ne hid] at h
      exact ⟨h, fun heq => hid (Option.some.inj heq).symm⟩
  | _ =>
    refine .inl ⟨?_, by simp [Action.leaseSlot]⟩
    first
      | exact h
      | (dsimp only [perform, Shared.onConnection] at h; split at h <;> exact h)

end

/-- How the books of the threads fit the history and the shared state. -/
structure FillBooks (history : History (machine P)) (s : Shared)
    (phase : ℕ → Option Seen × Filling P) (holder : Mutex → Option ℕ) : Prop where
  informed : Informed s phase holder
  sectioned : Sectioned history holder
  bound : s.accounts_generation ≤ u64Max
  slot (connection_id : ConnectionId) (lease : BrowserLease)
    (h : s.browser_leases.lookup connection_id = some (some lease)) :
    Outstanding history connection_id lease s.accounts_generation
  request (t : ℕ) (key : RequestKey) (permit : RequestPermit) (envelope : RequestEnvelope)
    (h : (phase t).2.request = some (key, permit, envelope)) : Begins history t key permit envelope
  lease (t : ℕ) (connection_id : ConnectionId) (lease : BrowserLease)
    (h : (phase t).2.lease = some (connection_id, lease)) :
    ∃ later, Taken history later t connection_id lease s.accounts_generation ∧
      ∀ origin account generation, (phase t).2.found = some (origin, account, generation) →
        Finds later t origin account generation
  found (t : ℕ) (origin : BrowserOrigin P) (account : Option WebsiteAccount) (generation : ℕ)
    (h : (phase t).2.found = some (origin, account, generation)) :
    Finds history t origin account generation
  vault (t : ℕ) (known : Option ℕ) (h : (phase t).2.vault = some known) :
    holder .vault = some t ∧ ∀ generation ∈ known, s.accounts_generation = generation
  time (t time : ℕ) (h : (phase t).2.time = some time) (hgate : holder .commitGate = some t) :
    ∃ events before, IsSection t history events ∧ .action t .now time before ∈ events

section

variable {history : History (machine P)} {s : Shared} {phase : ℕ → Option Seen × Filling P}
  {holder : Mutex → Option ℕ} {t : ℕ} {a : Action P}

/-- An offer comes from the books of the thread that makes it. -/
theorem FillBooks.offered (h : FillBooks history s phase holder) {connection_id : ConnectionId}
    {lease : BrowserLease} (hoffers : (phase t).2.Offers connection_id lease) :
    Outstanding (.action t (.leaseIssue connection_id lease) true s :: history) connection_id lease
      s.accounts_generation := by
  obtain ⟨key, permit, envelope, origin, account, token, hrequest, hkey, hdecoded, hepoch, hmax,
    hvault, hparsed, hfound, hselection⟩ := hoffers
  have hgeneration : s.accounts_generation = lease.accounts_generation :=
    (h.vault t _ hvault).2 _ rfl
  have hbound := h.bound
  refine ⟨[], _, history, rfl, ?_, by simp, by omega, hgeneration.ge, by simp⟩
  exact ⟨t, key, permit, origin, account, token, s, rfl, hkey,
    ⟨envelope, h.request t key permit envelope hrequest, hdecoded⟩, hepoch, hgeneration, hparsed,
    h.found t _ _ _ hfound, hselection⟩

theorem FillBooks.action (h : FillBooks history s phase holder)
    (hguard : a.guard ⊆ heldBy holder t) (hallows : (phase t).2.allows (phase t).1 a)
    (o : Oracle) :
    FillBooks (.action t a (perform a o s).1 s :: history) (perform a o s).2
      (Function.update phase t ((filling P).next (phase t) a (perform a o s).1)) holder := by
  have hself : (Function.update phase t ((filling P).next (phase t) a (perform a o s).1) t).2 =
      (phase t).2.next a (perform a o s).1 := by
    rw [Function.update_self]
    rfl
  have hother {t' : ℕ} (ht : t' ≠ t) : Function.update phase t
      ((filling P).next (phase t) a (perform a o s).1) t' = phase t' :=
    Function.update_of_ne ht _ _
  refine ⟨h.informed.action hguard o _, h.sectioned.action a _ s,
    (accountsGeneration_perform (t := t) (a := a) (o := o) h.bound).2.1,
    fun connection_id lease hslot => ?_, fun t' key permit envelope hφ => ?_,
    fun t' connection_id lease hφ => ?_, fun t' origin account generation hφ => ?_,
    fun t' known hφ => ?_, fun t' time hφ hgate => ?_⟩
  · obtain ⟨hbefore, huntouched⟩ | ⟨rfl, hissue⟩ := slot_perform (t := t) hslot
    · exact (h.slot connection_id lease hbefore).perform h.bound huntouched
    · have hgeneration : (perform (P := P) (.leaseIssue connection_id lease) o
          s).2.accounts_generation = s.accounts_generation :=
        perform_generation_of_vault (by simp [Action.guard])
      rw [hissue, hgeneration]
      exact h.offered hallows
  · by_cases ht : t' = t
    · subst ht
      rw [hself] at hφ
      have hcases : (phase t').2.request = some (key, permit, envelope) ∨
          Begins (.action t' a (perform a o s).1 s :: history) t' key permit envelope :=
        Filling.of_requestAfter hφ
      obtain hbefore | hnow := hcases
      · exact (h.request t' key permit envelope hbefore).cons _
      · exact hnow
    · rw [hother ht] at hφ
      exact (h.request t' key permit envelope hφ).cons _
  · by_cases ht : t' = t
    · subst ht
      rw [hself] at hφ
      obtain ⟨hbefore, htake⟩ | ⟨rfl, hslot⟩ := Filling.of_leaseAfter hφ
      · obtain ⟨later, htaken, hfinds⟩ := h.lease t' connection_id lease hbefore
        refine ⟨_, htaken.perform h.bound, fun origin account generation hfound => ?_⟩
        rw [hself] at hfound
        obtain ⟨hfound, -⟩ | ⟨hvault, hread⟩ := Filling.of_foundAfter (t := t') hfound
        · exact (hfinds origin account generation hfound).cons _
        · rw [hread]
          exact ⟨s, List.mem_cons_self, (h.vault t' _ hvault).2 _ rfl⟩
      · have hperform : perform (P := P) (.leaseTake connection_id) o s =
            (some lease, s.setLease connection_id none) := by
          simp [perform, hslot]
        refine ⟨[], ?_, fun origin account generation hfound => ?_⟩
        · rw [hperform]
          exact (h.slot connection_id lease hslot).taken s
        · rw [hself] at hfound
          cases hfound
    · rw [hother ht] at hφ
      obtain ⟨later, htaken, hfinds⟩ := h.lease t' connection_id lease hφ
      refine ⟨_, htaken.perform h.bound, fun origin account generation hfound => ?_⟩
      rw [hother ht] at hfound
      exact (hfinds origin account generation hfound).cons _
  · by_cases ht : t' = t
    · subst ht
      rw [hself] at hφ
      obtain ⟨hbefore, -⟩ | ⟨hvault, hread⟩ := Filling.of_foundAfter (t := t') hφ
      · exact (h.found t' origin account generation hbefore).cons _
      · rw [hread]
        exact ⟨s, List.mem_cons_self, (h.vault t' _ hvault).2 _ rfl⟩
    · rw [hother ht] at hφ
      exact (h.found t' origin account generation hφ).cons _
  · by_cases ht : t' = t
    · subst ht
      rw [hself] at hφ
      obtain ⟨known', hbefore, hknown⟩ := Filling.of_vaultAfter hφ
      obtain ⟨hheld, hgeneration⟩ := h.vault t' known' hbefore
      exact ⟨hheld, hknown hgeneration⟩
    · rw [hother ht] at hφ
      obtain ⟨hheld, hgeneration⟩ := h.vault t' known hφ
      refine ⟨hheld, fun generation hmem => ?_⟩
      have hfree : .vault ∉ a.guard := by
        intro hmem
        have hheld' : holder .vault = some t := mem_heldBy.mp (hguard hmem)
        rw [hheld] at hheld'
        exact ht (Option.some.inj hheld')
      rw [perform_generation_of_vault hfree]
      exact hgeneration generation hmem
  · by_cases ht : t' = t
    · subst ht
      rw [hself] at hφ
      obtain hbefore | hnow := Filling.of_timeAfter (t := t') hφ
      · obtain ⟨events, before, hsection, hmem⟩ := h.time t' time hbefore hgate
        exact ⟨_, before, hsection.cons (by simp), List.mem_cons_of_mem _ hmem⟩
      · obtain ⟨events, hsection⟩ := h.sectioned t' hgate
        rw [hnow]
        exact ⟨_, s, hsection.cons (by simp), List.mem_cons_self⟩
    · rw [hother ht] at hφ
      obtain ⟨events, before, hsection, hmem⟩ := h.time t' time hφ hgate
      exact ⟨_, before, hsection.cons (by simp), List.mem_cons_of_mem _ hmem⟩

/-- A step on a mutex leaves the requests, the leases and the accounts of the threads alone. -/
theorem FillBooks.mutex (h : FillBooks history s phase holder)
    {phase' : ℕ → Option Seen × Filling P} {holder' : Mutex → Option ℕ}
    {event : Event (machine P)} (hinformed : Informed s phase' holder')
    (hsectioned : Sectioned (event :: history) holder')
    (htouches : ∀ connection_id, ¬Touches connection_id event) (hchanges : ¬Changes event)
    (hphase : ∀ t', (phase' t').2.request = (phase t').2.request ∧
      (phase' t').2.lease = (phase t').2.lease ∧ (phase' t').2.found = (phase t').2.found)
    (hvault : ∀ t' known, (phase' t').2.vault = some known →
      holder' .vault = some t' ∧ ∀ generation ∈ known, s.accounts_generation = generation)
    (htime : ∀ t' time, (phase' t').2.time = some time → holder' .commitGate = some t' →
      ∃ events before, IsSection t' (event :: history) events ∧
        .action t' .now time before ∈ events) :
    FillBooks (event :: history) s phase' holder' := by
  refine ⟨hinformed, hsectioned, h.bound, fun connection_id lease hslot => ?_,
    fun t' key permit envelope hφ => ?_, fun t' connection_id lease hφ => ?_,
    fun t' origin account generation hφ => ?_, hvault, htime⟩
  · exact (h.slot connection_id lease hslot).cons (htouches connection_id) hchanges
  · rw [(hphase t').1] at hφ
    exact (h.request t' key permit envelope hφ).cons _
  · rw [(hphase t').2.1] at hφ
    obtain ⟨later, htaken, hfinds⟩ := h.lease t' connection_id lease hφ
    refine ⟨_, htaken.cons hchanges, fun origin account generation hfound => ?_⟩
    rw [(hphase t').2.2] at hfound
    exact (hfinds origin account generation hfound).cons _
  · rw [(hphase t').2.2] at hφ
    exact (h.found t' origin account generation hφ).cons _

theorem FillBooks.acquire (h : FillBooks history s phase holder) {m : Mutex}
    (hfree : holder m = none) :
    FillBooks (.acquire t m :: history) s
      (Function.update phase t ((filling P).acquire (phase t) m))
      (Function.update holder m (some t)) := by
  have hself : (Function.update phase t ((filling P).acquire (phase t) m) t).2 =
      (phase t).2.acquire m := by
    rw [Function.update_self]
    rfl
  have hother {t' : ℕ} (ht : t' ≠ t) :
      Function.update phase t ((filling P).acquire (phase t) m) t' = phase t' :=
    Function.update_of_ne ht _ _
  -- A mutex that a thread holds is not the one that is taken.
  have hkept {m' : Mutex} {t' : ℕ} (hheld : holder m' = some t') :
      m' ≠ m ∧ Function.update holder m (some t) m' = some t' := by
    have hne : m' ≠ m := by
      rintro rfl
      rw [hheld] at hfree
      cases hfree
    exact ⟨hne, by rw [Function.update_of_ne hne, hheld]⟩
  refine h.mutex (h.informed.acquire hfree _) (h.sectioned.acquire m) (fun _ htouches => htouches)
    (fun hchanges => hchanges) (fun t' => ?_) (fun t' known hφ => ?_) (fun t' time hφ hgate => ?_)
  · by_cases ht : t' = t
    · subst ht
      rw [hself]
      cases m <;> exact ⟨rfl, rfl, rfl⟩
    · rw [hother ht]
      exact ⟨rfl, rfl, rfl⟩
  · have hbefore : (phase t').2.vault = some known ∨ m = .vault ∧ t' = t ∧ known = none := by
      by_cases ht : t' = t
      · subst ht
        rw [hself] at hφ
        cases m with
        | vault => exact .inr ⟨rfl, rfl, (Option.some.inj hφ).symm⟩
        | _ => exact .inl hφ
      · rw [hother ht] at hφ
        exact .inl hφ
    obtain hbefore | ⟨rfl, rfl, rfl⟩ := hbefore
    · obtain ⟨hheld, hgeneration⟩ := h.vault t' known hbefore
      exact ⟨(hkept hheld).2, hgeneration⟩
    · exact ⟨Function.update_self _ _ _, fun _ hmem => by cases hmem⟩
  · have hbefore : (phase t').2.time = some time ∧ holder .commitGate = some t' := by
      by_cases hm : m = .commitGate
      · subst hm
        rw [Function.update_self] at hgate
        obtain rfl := Option.some.inj hgate
        rw [hself] at hφ
        cases hφ
      · rw [Function.update_of_ne (Ne.symm hm)] at hgate
        refine ⟨?_, hgate⟩
        by_cases ht : t' = t
        · subst ht
          rw [hself] at hφ
          cases m with
          | commitGate => exact absurd rfl hm
          | _ => exact hφ
        · rwa [hother ht] at hφ
    obtain ⟨events, before, hsection, hmem⟩ := h.time t' time hbefore.1 hbefore.2
    exact ⟨_, before, hsection.cons (by simp), List.mem_cons_of_mem _ hmem⟩

theorem FillBooks.release (h : FillBooks history s phase holder) {m : Mutex}
    (hholds : holder m = some t) :
    FillBooks (.release t m :: history) s
      (Function.update phase t ((filling P).release (phase t) m))
      (Function.update holder m none) := by
  have hself : (Function.update phase t ((filling P).release (phase t) m) t).2 =
      (phase t).2.release m := by
    rw [Function.update_self]
    rfl
  have hother {t' : ℕ} (ht : t' ≠ t) :
      Function.update phase t ((filling P).release (phase t) m) t' = phase t' :=
    Function.update_of_ne ht _ _
  refine h.mutex (h.informed.release hholds _) (h.sectioned.release m) (fun _ htouches => htouches)
    (fun hchanges => hchanges) (fun t' => ?_) (fun t' known hφ => ?_) (fun t' time hφ hgate => ?_)
  · by_cases ht : t' = t
    · subst ht
      rw [hself]
      cases m <;> exact ⟨rfl, rfl, rfl⟩
    · rw [hother ht]
      exact ⟨rfl, rfl, rfl⟩
  · have hbefore : (phase t').2.vault = some known ∧ (t' = t → m ≠ .vault) := by
      by_cases ht : t' = t
      · subst ht
        rw [hself] at hφ
        cases m with
        | vault => cases hφ
        | _ => exact ⟨hφ, fun _ => by simp⟩
      · rw [hother ht] at hφ
        exact ⟨hφ, fun heq => absurd heq ht⟩
    obtain ⟨hheld, hgeneration⟩ := h.vault t' known hbefore.1
    have hm : m ≠ .vault := by
      rintro rfl
      rw [hheld] at hholds
      exact hbefore.2 (Option.some.inj hholds) rfl
    exact ⟨by rw [Function.update_of_ne hm.symm, hheld], hgeneration⟩
  · have hm : m ≠ .commitGate := by
      rintro rfl
      rw [Function.update_self] at hgate
      cases hgate
    rw [Function.update_of_ne hm.symm] at hgate
    have hbefore : (phase t').2.time = some time := by
      by_cases ht : t' = t
      · subst ht
        rw [hself] at hφ
        cases m <;> exact hφ
      · rwa [hother ht] at hφ
    obtain ⟨events, before, hsection, hmem⟩ := h.time t' time hbefore hgate
    exact ⟨_, before, hsection.cons (by simp [hm]), List.mem_cons_of_mem _ hmem⟩

end

/-- The books are kept in every run. -/
theorem filling_invariant (vault_exists : Bool) :
    Invariant (filling P) (fun _ _ => True) (Shared.start vault_exists) FillBooks where
  init := ⟨fun _ _ h => (by cases h), fun _ h => (by cases h), (by simp [Shared.start, u64Max]),
    fun _ _ h => (by cases h), fun _ _ _ _ h => (by cases h), fun _ _ _ h => (by cases h),
    fun _ _ _ _ h => (by cases h), fun _ _ h => (by cases h), fun _ _ h => (by cases h)⟩
  action _ _ o inv allowed _ := inv.action allowed.1 allowed.2 o
  acquire _ _ inv _ free := inv.acquire free
  release _ _ inv _ holds := inv.release holds

end Librarian.Agent
