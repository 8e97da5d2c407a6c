import Librarian.Provider.Phases

/-!
# What holds of every credential

`Sound` is what the state alone keeps: entries and records belong to drawn ids, nothing is deleted
before the cache has been cleaned of it, and what has been answered or returned is so. `Phase.Fits`
is what the state keeps of one thread, and `Custody` ties the threads together: a connection and the
making of a credential belong to one thread, and what is in the cache is somebody's business.
-/

namespace Librarian.Provider

open Conc Librarian.Agent Librarian.Format Librarian.Protocol

/-! ## The entries -/

section

variable {pending : PendingPasskeyCreations} {key : PendingPasskeyCreationKey}
  {creation : PendingPasskeyCreation} {connection_id : ConnectionId}
  {entry : PendingPasskeyCreationKey × PendingPasskeyCreation}

theorem mem_remove : entry ∈ pending.remove key ↔ entry ∈ pending ∧ entry.1 ≠ key := by
  unfold PendingPasskeyCreations.remove
  rw [List.mem_filter, decide_eq_true_eq]

theorem mem_insert :
    entry ∈ pending.insert key creation ↔
      (entry ∈ pending ∧ entry.1 ≠ key) ∨ entry = (key, creation) := by
  unfold PendingPasskeyCreations.insert
  rw [Keyed.mem_sortByKey, List.mem_append, mem_remove, List.mem_singleton]

theorem mem_of_get (h : pending.get key = some creation) : (key, creation) ∈ pending := by
  unfold PendingPasskeyCreations.get at h
  rw [Option.map_eq_some_iff] at h
  obtain ⟨⟨key', creation'⟩, hfind, rfl⟩ := h
  have hkey : key' = key := by simpa using List.find?_some hfind
  exact hkey ▸ List.mem_of_find?_eq_some hfind

theorem mem_disconnect :
    entry ∈ pending.disconnect connection_id ↔
      (entry ∈ pending ∧ entry.1.connection_id ≠ connection_id) ∨
        ∃ creation, (entry.1, creation) ∈ pending ∧ entry.1.connection_id = connection_id ∧
          creation.confirmed = false ∧ entry.2 = { creation with disconnected := true } := by
  unfold PendingPasskeyCreations.disconnect
  rw [List.mem_filterMap]
  constructor
  · rintro ⟨⟨key', creation'⟩, hmem, hentry⟩
    split_ifs at hentry with hne hconfirmed
    · cases hentry
      exact .inl ⟨hmem, hne⟩
    · cases hentry
      exact .inr ⟨creation', hmem, not_not.mp hne, Bool.eq_false_iff.mpr hconfirmed, rfl⟩
  · obtain ⟨key', creation'⟩ := entry
    rintro (⟨hmem, hne⟩ | ⟨creation, hmem, heq, hconfirmed, rfl⟩)
    · exact ⟨_, hmem, if_pos hne⟩
    · refine ⟨_, hmem, ?_⟩
      rw [if_neg (not_not.mpr heq), if_neg (by simp [hconfirmed])]

end

/-! ## The state -/

/-- What has been returned is so. -/
structure Outcome.Accounted (outcome : Outcome) (w : World) : Prop where
  ok : outcome.result = .ok → outcome.response = true ∧ ∃ credential_id,
    outcome.credential_id = some credential_id ∧ (w.ledger credential_id).created = true
  failed : outcome.result ≠ .ok → outcome.response = false
  rolled_back : outcome.rolled_back = true → ∃ credential_id,
    outcome.credential_id = some credential_id ∧ w.Gone credential_id
  credential (credential_id : CredentialId) : outcome.credential_id = some credential_id →
    ∃ key, (w.ledger credential_id).home = some key ∧
      outcome.connection_id = some key.connection_id

/-- What the entries of `pending_passkey_creations` are. -/
structure Entries (w : World) : Prop where
  keyed : ∀ a ∈ w.pending_passkey_creations, ∀ b ∈ w.pending_passkey_creations, a.1 = b.1 → a = b
  home : ∀ entry ∈ w.pending_passkey_creations,
    (w.ledger entry.2.credential_id).home = some entry.1
  epoch : ∀ entry ∈ w.pending_passkey_creations, entry.2.unlock_epoch ≤ w.epoch
  confirmed : ∀ entry ∈ w.pending_passkey_creations,
    (w.ledger entry.2.credential_id).confirmed = true →
      entry.2.confirmed = true ∧ entry.2.disconnected = false
  noted : ∀ entry ∈ w.pending_passkey_creations, entry.2.confirmed = true →
    (w.ledger entry.2.credential_id).confirmed = true

/-- There is an entry of a credential. -/
def World.Entered (w : World) (credential_id : CredentialId) : Prop :=
  ∃ entry ∈ w.pending_passkey_creations, entry.2.credential_id = credential_id

/-- What is so of one credential, by its ledger, its record, the cache and its entries. -/
structure Regular (ledger : Ledger) (record : Option PasskeyCreationState) (cache : Bool)
    (entered : Prop) : Prop where
  recorded : record ≠ none → ledger.home ≠ none
  confirmed : ledger.confirmed = true → ledger.home ≠ none ∧ record ≠ some .pending
  withdrawn : ledger.withdrawn = true → ledger.home ≠ none
  added : ledger.added = true → ledger.home ≠ none
  cached : cache = true → ledger.added = true
  /-- A record that is confirmed without the ledger saying so has its entry still. -/
  committed : record = some .confirmed → ledger.confirmed = true ∨ entered
  /-- A confirmed record is deleted only for one of two reasons. -/
  disposed : ledger.confirmed = true → record = none →
    ledger.targeted = true ∨ ledger.withdrawn = true
  /-- A record is deleted only after the cache has been cleaned of it. -/
  gone : ledger.home ≠ none → record = none →
    ledger.overtaken = true ∨ ledger.early = true ∨ (ledger.added = true ∧ cache = false)
  targeted : ledger.targeted = true →
    ledger.early = true ∨ (ledger.added = true ∧ cache = false)
  deleted : ledger.deleted = true → ledger.home ≠ none ∧ record = none
  created : ledger.created = true → ledger.confirmed = true ∧ ledger.withdrawn = false ∧
    (cache = true ∨ ledger.targeted = true)

/-- What is so of one credential. -/
abbrev World.Regular (w : World) (id : CredentialId) : Prop :=
  Provider.Regular (w.ledger id) (w.records id) (w.cache id) (w.Entered id)

/-- A connection makes one credential, with its request 1. -/
structure Homes (w : World) : Prop where
  requested (id : CredentialId) (key : PendingPasskeyCreationKey) : (w.ledger id).home = some key →
    w.requested key.connection_id = true ∧ w.connected key.connection_id = true
  unique (id id' : CredentialId) (key key' : PendingPasskeyCreationKey) :
    (w.ledger id).home = some key → (w.ledger id').home = some key' →
      key.connection_id = key'.connection_id → id = id'

/-- What is on the connections. -/
structure Wired (w : World) : Prop where
  connected (c : ConnectionId) : w.wire c ≠ .idle → w.connected c = true
  created (c : ConnectionId) (id : CredentialId) : w.wire c = .replied .make (.created id) →
    ∃ key, (w.ledger id).home = some key ∧ key.connection_id = c
  confirmed (c : ConnectionId) (id : CredentialId) : w.wire c = .replied (.confirm id) .done →
    (w.ledger id).confirmed = true
  rolled_back (c : ConnectionId) (id : CredentialId) :
    w.wire c = .replied (.rollback id) .done → w.Gone id
  withdrawn (c : ConnectionId) (id : CredentialId) (frame : Frame) : w.wire c = .sent frame →
    frame.request = .rollback id → (w.ledger id).withdrawn = true

/-- What the state keeps. -/
structure Sound (w : World) : Prop where
  entries : Entries w
  homes : Homes w
  regular (id : CredentialId) : w.Regular id
  wired : Wired w
  returned : ∀ r ∈ w.returned, r.1.Accounted w

/-- Everything that a thread can know stays true. -/
structure Later (w w' : World) : Prop where
  home (id : CredentialId) (key : PendingPasskeyCreationKey) : (w.ledger id).home = some key →
    (w'.ledger id).home = some key
  confirmed (id : CredentialId) : (w.ledger id).confirmed = true → (w'.ledger id).confirmed = true
  withdrawn (id : CredentialId) : (w.ledger id).withdrawn = true → (w'.ledger id).withdrawn = true
  targeted (id : CredentialId) : (w.ledger id).targeted = true → (w'.ledger id).targeted = true
  created (id : CredentialId) : (w.ledger id).created = true → (w'.ledger id).created = true
  dead (id : CredentialId) : w.Dead id → w'.Dead id
  cleared (id : CredentialId) : w.Cleared id → w'.Cleared id
  gone (id : CredentialId) : w.Gone id → w'.Gone id

/-! ## The threads -/

/-- The credential that a stage has in the cache. -/
def Stage.entered : Stage → Option CredentialId
  | added credential_id | acked credential_id => some credential_id
  | _ => none

/-- What the state keeps of a thread. -/
structure Phase.Fits (φ : Phase) (w : World) : Prop where
  facts : ∀ fact ∈ φ.facts, fact.Holds w
  connection (c : ConnectionId) : φ.connection = some c → w.connected c = true
  credential (id : CredentialId) : φ.stage.credential_id = some id →
    (w.ledger id).withdrawn = false ∧
      ∃ key, (w.ledger id).home = some key ∧ φ.connection = some key.connection_id
  waiting (id : CredentialId) (key : PendingPasskeyCreationKey) : φ.stage = .waiting →
    (w.ledger id).home = some key → φ.connection = some key.connection_id →
      (w.ledger id).added = false ∧ (w.ledger id).withdrawn = false
  held (id : CredentialId) : φ.stage = .held id → (w.ledger id).added = false
  entered (id : CredentialId) : φ.stage.entered = some id →
    w.cache id = true ∨ (w.ledger id).targeted = true ∨ w.Dead id
  acked (id : CredentialId) : φ.stage = .acked id → (w.ledger id).confirmed = true
  making (c : ConnectionId) : φ.making = some c → w.requested c = true ∧ w.connected c = true ∧
    ∀ id key, (w.ledger id).home = some key → key.connection_id ≠ c

/-- What holds of the state and of all threads. -/
structure Custody (w : World) (phase : ℕ → Phase) : Prop where
  sound : Sound w
  fits (t : ℕ) : (phase t).Fits w
  alone (t t' : ℕ) (c : ConnectionId) : (phase t).connection = some c →
    (phase t').connection = some c → t = t'
  making (t t' : ℕ) (c : ConnectionId) : (phase t).making = some c →
    (phase t').making = some c → t = t'
  /-- The operation of a credential that has been created is over. -/
  created (id : CredentialId) (key : PendingPasskeyCreationKey) (t : ℕ) :
    (w.ledger id).created = true → (w.ledger id).home = some key →
      (phase t).connection ≠ some key.connection_id
  cached (id : CredentialId) : w.cache id = true → (w.ledger id).leftover = true ∨
    (w.ledger id).created = true ∨ ∃ t, (phase t).stage.entered = some id
  targeted (id : CredentialId) : (w.ledger id).targeted = true → (w.ledger id).deleted = true ∨
    (w.ledger id).undeleted = true ∨ ∃ t, (phase t).deleting = some id

theorem Later.holds {w w' : World} (h : Later w w') {fact : Fact} (hfact : fact.Holds w) :
    fact.Holds w' := by
  cases fact with
  | home id key => exact h.home id key hfact
  | on id c =>
    obtain ⟨key, hkey, hc⟩ := hfact
    exact ⟨key, h.home id key hkey, hc⟩
  | confirmed id => exact h.confirmed id hfact
  | withdrawn id => exact h.withdrawn id hfact
  | targeted id => exact h.targeted id hfact
  | dead id => exact h.dead id hfact
  | cleared id => exact h.cleared id hfact
  | gone id => exact h.gone id hfact

section

variable {w w' : World} {phase : ℕ → Phase} {t : ℕ} {φ φ' : Phase}

/-- A thread moves, and the state with it. What is asked of the other threads is asked of each. -/
theorem Custody.of (h : Custody w phase) (hsound : Sound w')
    (hfits : ∀ t' ≠ t, (phase t').Fits w') (hown : φ'.Fits w')
    (hconnection : ∀ c, φ'.connection = some c →
      (phase t).connection = some c ∨ ∀ t', (phase t').connection ≠ some c)
    (hmaking : ∀ c, φ'.making = some c →
      (phase t).making = some c ∨ ∀ t', (phase t').making ≠ some c)
    (hcreated : ∀ id key, (w'.ledger id).created = true → (w'.ledger id).home = some key →
      φ'.connection ≠ some key.connection_id ∧
        ∀ t' ≠ t, (phase t').connection ≠ some key.connection_id)
    (hcached : ∀ id, w'.cache id = true → (w'.ledger id).leftover = true ∨
      (w'.ledger id).created = true ∨ φ'.stage.entered = some id ∨
        ∃ t' ≠ t, (phase t').stage.entered = some id)
    (htargeted : ∀ id, (w'.ledger id).targeted = true → (w'.ledger id).deleted = true ∨
      (w'.ledger id).undeleted = true ∨ φ'.deleting = some id ∨
        ∃ t' ≠ t, (phase t').deleting = some id) :
    Custody w' (Function.update phase t φ') where
  sound := hsound
  fits t' := by
    by_cases ht : t' = t
    · rw [ht, Function.update_self]
      exact hown
    · rw [Function.update_of_ne ht]
      exact hfits t' ht
  alone t₁ t₂ c h₁ h₂ := by
    by_cases ht₁ : t₁ = t <;> by_cases ht₂ : t₂ = t
    · rw [ht₁, ht₂]
    · rw [ht₁, Function.update_self] at h₁
      rw [Function.update_of_ne ht₂] at h₂
      rcases hconnection c h₁ with hsame | hfresh
      · rw [ht₁]
        exact h.alone t t₂ c hsame h₂
      · exact absurd h₂ (hfresh t₂)
    · rw [Function.update_of_ne ht₁] at h₁
      rw [ht₂, Function.update_self] at h₂
      rcases hconnection c h₂ with hsame | hfresh
      · rw [ht₂]
        exact h.alone t₁ t c h₁ hsame
      · exact absurd h₁ (hfresh t₁)
    · rw [Function.update_of_ne ht₁] at h₁
      rw [Function.update_of_ne ht₂] at h₂
      exact h.alone t₁ t₂ c h₁ h₂
  making t₁ t₂ c h₁ h₂ := by
    by_cases ht₁ : t₁ = t <;> by_cases ht₂ : t₂ = t
    · rw [ht₁, ht₂]
    · rw [ht₁, Function.update_self] at h₁
      rw [Function.update_of_ne ht₂] at h₂
      rcases hmaking c h₁ with hsame | hfresh
      · rw [ht₁]
        exact h.making t t₂ c hsame h₂
      · exact absurd h₂ (hfresh t₂)
    · rw [Function.update_of_ne ht₁] at h₁
      rw [ht₂, Function.update_self] at h₂
      rcases hmaking c h₂ with hsame | hfresh
      · rw [ht₂]
        exact h.making t₁ t c h₁ hsame
      · exact absurd h₁ (hfresh t₁)
    · rw [Function.update_of_ne ht₁] at h₁
      rw [Function.update_of_ne ht₂] at h₂
      exact h.making t₁ t₂ c h₁ h₂
  created id key t' hid hkey := by
    obtain ⟨hself, hothers⟩ := hcreated id key hid hkey
    by_cases ht : t' = t
    · rw [ht, Function.update_self]
      exact hself
    · rw [Function.update_of_ne ht]
      exact hothers t' ht
  cached id hid := by
    rcases hcached id hid with hleft | hcreated | hself | ⟨t', ht, hother⟩
    · exact .inl hleft
    · exact .inr (.inl hcreated)
    · exact .inr (.inr ⟨t, by rwa [Function.update_self]⟩)
    · exact .inr (.inr ⟨t', by rwa [Function.update_of_ne ht]⟩)
  targeted id hid := by
    rcases htargeted id hid with hdeleted | hundeleted | hself | ⟨t', ht, hother⟩
    · exact .inl hdeleted
    · exact .inr (.inl hundeleted)
    · exact .inr (.inr ⟨t, by rwa [Function.update_self]⟩)
    · exact .inr (.inr ⟨t', by rwa [Function.update_of_ne ht]⟩)

/-- Some thread has something, or it is this one. -/
theorem exists_or_other {P : Phase → Prop} (h : ∃ t', P (phase t')) :
    P (phase t) ∨ ∃ t' ≠ t, P (phase t') := by
  obtain ⟨t', ht'⟩ := h
  by_cases ht : t' = t
  · exact .inl (ht ▸ ht')
  · exact .inr ⟨t', ht, ht'⟩

/-- A step that leaves the ledger and the cache alone. -/
structure Quiet (w w' : World) : Prop where
  ledger : w'.ledger = w.ledger
  cache : w'.cache = w.cache
  connected (c : ConnectionId) : w.connected c = true → w'.connected c = true
  requested (c : ConnectionId) : w.requested c = true → w'.requested c = true
  dead (id : CredentialId) : w.Dead id → w'.Dead id
  gone (id : CredentialId) : w.Gone id → w'.Gone id

theorem Quiet.later (h : Quiet w w') : Later w w' where
  home id key hid := by rw [h.ledger]; exact hid
  confirmed id hid := by rw [h.ledger]; exact hid
  withdrawn id hid := by rw [h.ledger]; exact hid
  targeted id hid := by rw [h.ledger]; exact hid
  created id hid := by rw [h.ledger]; exact hid
  dead := h.dead
  cleared id hid := by
    unfold World.Cleared
    rw [h.ledger, h.cache]
    exact hid
  gone := h.gone

/-- A thread that learns, or does nothing, fits as before. -/
theorem Phase.Fits.quiet (h : φ.Fits w) (hquiet : Quiet w w')
    (hconnection : φ'.connection = φ.connection) (hstage : φ'.stage = φ.stage)
    (hmaking : φ'.making = φ.making) (hfacts : ∀ fact ∈ φ'.facts, fact ∈ φ.facts ∨ fact.Holds w') :
    φ'.Fits w' where
  facts fact hfact :=
    (hfacts fact hfact).elim (fun hold => hquiet.later.holds (h.facts fact hold)) id
  connection c hc := hquiet.connected c (h.connection c (hconnection ▸ hc))
  credential id hid := by
    rw [hquiet.ledger, hconnection]
    exact h.credential id (hstage ▸ hid)
  waiting id key := by
    rw [hquiet.ledger, hconnection, hstage]
    exact h.waiting id key
  held id := by
    rw [hquiet.ledger, hstage]
    exact h.held id
  entered id hid := by
    rw [hquiet.ledger, hquiet.cache]
    exact (h.entered id (hstage ▸ hid)).imp_right (Or.imp_right (hquiet.dead id))
  acked id := by
    rw [hquiet.ledger, hstage]
    exact h.acked id
  making c hc := by
    obtain ⟨hrequested, hconnected, hhomes⟩ := h.making c (hmaking ▸ hc)
    rw [hquiet.ledger]
    exact ⟨hquiet.requested c hrequested, hquiet.connected c hconnected, hhomes⟩

/-- A quiet step of a thread that at most learns. -/
theorem Custody.quiet (h : Custody w phase) (hsound : Sound w') (hquiet : Quiet w w')
    (hconnection : φ'.connection = (phase t).connection) (hstage : φ'.stage = (phase t).stage)
    (hmaking : φ'.making = (phase t).making) (hdeleting : φ'.deleting = (phase t).deleting)
    (hfacts : ∀ fact ∈ φ'.facts, fact ∈ (phase t).facts ∨ fact.Holds w') :
    Custody w' (Function.update phase t φ') := by
  refine h.of hsound (fun t' _ => (h.fits t').quiet hquiet rfl rfl rfl fun _ => .inl)
    ((h.fits t).quiet hquiet hconnection hstage hmaking hfacts)
    (fun c hc => .inl (hconnection ▸ hc)) (fun c hc => .inl (hmaking ▸ hc))
    (fun id key => ?_) (fun id hid => ?_) (fun id hid => ?_)
  · rw [hquiet.ledger, hconnection]
    exact fun hid hkey => ⟨h.created id key t hid hkey, fun t' _ => h.created id key t' hid hkey⟩
  · rw [hquiet.cache] at hid
    rw [hquiet.ledger, hstage]
    exact (h.cached id hid).imp_right (Or.imp_right
      (exists_or_other (P := fun φ => φ.stage.entered = some id)))
  · rw [hquiet.ledger] at hid ⊢
    rw [hdeleting]
    exact (h.targeted id hid).imp_right (Or.imp_right
      (exists_or_other (P := fun φ => φ.deleting = some id)))

theorem Outcome.Accounted.later {outcome : Outcome} (h : outcome.Accounted w)
    (hlater : Later w w') : outcome.Accounted w' where
  ok hok := by
    obtain ⟨hresponse, id, hid, hcreated⟩ := h.ok hok
    exact ⟨hresponse, id, hid, hlater.created id hcreated⟩
  failed := h.failed
  rolled_back hback := by
    obtain ⟨id, hid, hgone⟩ := h.rolled_back hback
    exact ⟨id, hid, hlater.gone id hgone⟩
  credential id hid := by
    obtain ⟨key, hkey, hconnection⟩ := h.credential id hid
    exact ⟨key, hlater.home id key hkey, hconnection⟩

/-! ## Steps that only others look at -/

/-- What an operation of the provider knows of its gate is no business of a credential. -/
theorem Sound.gate (h : Sound w) {operating : Bool} {active_transaction : Option TransactionId}
    {active_cancelled cancel_answered : Bool} :
    Sound { w with
      operating := operating
      active_transaction := active_transaction
      active_cancelled := active_cancelled
      cancel_answered := cancel_answered } where
  entries := { h.entries with }
  homes := { h.homes with }
  regular id := { h.regular id with }
  wired := { h.wired with }
  returned r hr := { h.returned r hr with }

theorem Quiet.gate {operating : Bool} {active_transaction : Option TransactionId}
    {active_cancelled cancel_answered : Bool} :
    Quiet w { w with
      operating := operating
      active_transaction := active_transaction
      active_cancelled := active_cancelled
      cancel_answered := cancel_answered } :=
  ⟨rfl, rfl, fun _ h => h, fun _ h => h, fun _ h => h, fun _ h => h⟩

theorem Quiet.refl : Quiet w w := ⟨rfl, rfl, fun _ h => h, fun _ h => h, fun _ h => h, fun _ h => h⟩

theorem Sound.lifecycle (h : Sound w) {state : AgentState} {epoch cancellations : ℕ}
    (hepoch : w.epoch ≤ epoch) :
    Sound { w with state := state, epoch := epoch, cancellations := cancellations } where
  entries := { h.entries with
    epoch := fun entry hentry => (h.entries.epoch entry hentry).trans hepoch }
  homes := { h.homes with }
  regular id := { h.regular id with }
  wired := { h.wired with }
  returned r hr := { h.returned r hr with }

/-- A change of the lifecycle opens the vault in no epoch that there has been. -/
theorem Quiet.lifecycle (h : Entries w) {state : AgentState} {epoch cancellations : ℕ}
    (hclosed : state = .unlocked → (w.state = .unlocked ∧ w.epoch = epoch) ∨ w.epoch < epoch) :
    Quiet w { w with state := state, epoch := epoch, cancellations := cancellations } where
  ledger := rfl
  cache := rfl
  connected _ hc := hc
  requested _ hc := hc
  dead id hid := by
    obtain ⟨hhome, hconfirmed, hentries⟩ := hid
    refine ⟨hhome, hconfirmed, fun entry hmem hentry => ?_⟩
    refine (hentries entry hmem hentry).imp_right fun hbarred hauthorizes => ?_
    obtain ⟨hstate, hepoch⟩ := hauthorizes
    change state = _ at hstate
    change epoch = _ at hepoch
    have hle := h.epoch entry hmem
    rcases hclosed hstate with ⟨hopen, hsame⟩ | hlater
    · exact hbarred ⟨hopen, hsame.trans hepoch⟩
    · omega
  gone _ hid := hid

/-! ## Connections -/

theorem update_true {α : Type} [DecidableEq α] {f : α → Bool} {a b : α} (h : f b = true) :
    Function.update f a true b = true := by
  rw [Function.update_apply]
  split_ifs
  · rfl
  · exact h

/-- A connection says only what is so. -/
theorem Sound.setWire (h : Sound w) {c : ConnectionId} {wire : Wire}
    (hconnected : wire ≠ .idle → w.connected c = true)
    (hcreated : ∀ id, wire = .replied .make (.created id) →
      ∃ key, (w.ledger id).home = some key ∧ key.connection_id = c)
    (hconfirmed : ∀ id, wire = .replied (.confirm id) .done → (w.ledger id).confirmed = true)
    (hrolled : ∀ id, wire = .replied (.rollback id) .done → w.Gone id)
    (hwithdrawn : ∀ id frame, wire = .sent frame → frame.request = .rollback id →
      (w.ledger id).withdrawn = true) :
    Sound (w.setWire c wire) where
  entries := { h.entries with }
  homes := { h.homes with }
  regular id := { h.regular id with }
  wired := by
    have hwire : ∀ c', (w.setWire c wire).wire c' = if c' = c then wire else w.wire c' :=
      fun c' => Function.update_apply _ _ _ _
    refine ⟨fun c' hc' => ?_, fun c' id hc' => ?_, fun c' id hc' => ?_, fun c' id hc' => ?_,
      fun c' id frame hc' => ?_⟩ <;> rw [hwire] at hc' <;> split_ifs at hc' with heq
    · exact heq ▸ hconnected hc'
    · exact h.wired.connected c' hc'
    · exact heq ▸ hcreated id hc'
    · exact h.wired.created c' id hc'
    · exact hconfirmed id hc'
    · exact h.wired.confirmed c' id hc'
    · exact hrolled id hc'
    · exact h.wired.rolled_back c' id hc'
    · exact hwithdrawn id frame hc'
    · exact h.wired.withdrawn c' id frame hc'
  returned r hr := { h.returned r hr with }

theorem Quiet.setWire {c : ConnectionId} {wire : Wire} : Quiet w (w.setWire c wire) :=
  ⟨rfl, rfl, fun _ h => h, fun _ h => h, fun _ h => h, fun _ h => h⟩

/-- The request of a connection is taken from it. -/
theorem Sound.serving (h : Sound w) {c : ConnectionId} {request : Request} {frame : Frame}
    (hwire : w.wire c = .sent frame) :
    Sound { w.setWire c (.serving request) with
      requested := Function.update w.requested c true } := by
  have hconnected : w.connected c = true := h.wired.connected c (by simp [hwire])
  have hset : Sound (w.setWire c (.serving request)) :=
    h.setWire (fun _ => hconnected) (by simp) (by simp) (by simp) (by simp)
  exact {
    entries := { hset.entries with }
    homes := { hset.homes with
      requested := fun id key hid => (h.homes.requested id key hid).imp_left update_true }
    regular := fun id => { hset.regular id with }
    wired := { hset.wired with }
    returned := fun r hr => { hset.returned r hr with } }

theorem Quiet.serving {c : ConnectionId} {request : Request} :
    Quiet w { w.setWire c (.serving request) with
      requested := Function.update w.requested c true } :=
  ⟨rfl, rfl, fun _ h => h, fun _ h => update_true h, fun _ h => h, fun _ h => h⟩

theorem Sound.connect (h : Sound w) {c : ConnectionId} :
    Sound { w with connected := Function.update w.connected c true } where
  entries := { h.entries with }
  homes := { h.homes with
    requested := fun id key hid => (h.homes.requested id key hid).imp_right update_true }
  regular id := { h.regular id with }
  wired := { h.wired with connected := fun c' hc' => update_true (h.wired.connected c' hc') }
  returned r hr := { h.returned r hr with }

theorem Quiet.connect {c : ConnectionId} :
    Quiet w { w with connected := Function.update w.connected c true } :=
  ⟨rfl, rfl, fun _ h => update_true h, fun _ h => h, fun _ h => h, fun _ h => h⟩

/-- `disconnect` marks what is not confirmed, and forgets what is. -/
theorem Sound.closeConnection (h : Sound w) {c : ConnectionId} :
    Sound { w with
      closed := Function.update w.closed c true
      pending_passkey_creations := w.pending_passkey_creations.disconnect c } where
  entries := by
    constructor
    · intro a ha b hb hkey
      obtain ⟨key, a⟩ := a
      obtain ⟨key', b⟩ := b
      cases hkey
      rcases mem_disconnect.mp ha with ⟨ha, hne⟩ | ⟨creation, ha, heq, -, rfl⟩ <;>
        rcases mem_disconnect.mp hb with ⟨hb, hne'⟩ | ⟨creation', hb, heq', -, rfl⟩
      · exact h.entries.keyed _ ha _ hb rfl
      · exact absurd heq' hne
      · exact absurd heq hne'
      · have hsame := h.entries.keyed _ ha _ hb rfl
        cases hsame
        rfl
    · rintro ⟨key, a⟩ ha
      rcases mem_disconnect.mp ha with ⟨ha, -⟩ | ⟨creation, ha, -, -, rfl⟩
      · exact h.entries.home _ ha
      · exact h.entries.home (key, creation) ha
    · rintro ⟨key, a⟩ ha
      rcases mem_disconnect.mp ha with ⟨ha, -⟩ | ⟨creation, ha, -, -, rfl⟩
      · exact h.entries.epoch _ ha
      · exact h.entries.epoch (key, creation) ha
    · rintro ⟨key, a⟩ ha hid
      rcases mem_disconnect.mp ha with ⟨ha, -⟩ | ⟨creation, ha, -, hunconfirmed, rfl⟩
      · exact h.entries.confirmed _ ha hid
      · have hconfirmed := (h.entries.confirmed (key, creation) ha hid).1
        rw [hunconfirmed] at hconfirmed
        cases hconfirmed
    · rintro ⟨key, a⟩ ha hid
      rcases mem_disconnect.mp ha with ⟨ha, -⟩ | ⟨creation, ha, -, -, rfl⟩
      · exact h.entries.noted _ ha hid
      · exact h.entries.noted (key, creation) ha hid
  homes := { h.homes with }
  regular id := { h.regular id with
    committed := by
      intro hid
      rcases (h.regular id).committed hid with hconfirmed | ⟨⟨key, creation⟩, hmem, rfl⟩
      · exact .inl hconfirmed
      · -- An entry that is forgotten is one of a confirmed credential.
        by_cases hc : key.connection_id = c
        · by_cases hconfirmed : creation.confirmed = true
          · exact .inl (h.entries.noted _ hmem hconfirmed)
          · exact .inr ⟨(key, { creation with disconnected := true }), mem_disconnect.mpr
              (.inr ⟨creation, hmem, hc, Bool.eq_false_iff.mpr hconfirmed, rfl⟩), rfl⟩
        · exact .inr ⟨(key, creation), mem_disconnect.mpr (.inl ⟨hmem, hc⟩), rfl⟩ }
  wired := { h.wired with }
  returned r hr := { h.returned r hr with }

theorem Quiet.closeConnection {c : ConnectionId} :
    Quiet w { w with
      closed := Function.update w.closed c true
      pending_passkey_creations := w.pending_passkey_creations.disconnect c } where
  ledger := rfl
  cache := rfl
  connected _ hc := hc
  requested _ hc := hc
  dead _ hid := by
    obtain ⟨hhome, hconfirmed, hentries⟩ := hid
    refine ⟨hhome, hconfirmed, ?_⟩
    rintro ⟨key, a⟩ ha hentry
    rcases mem_disconnect.mp ha with ⟨ha, -⟩ | ⟨creation, ha, -, -, rfl⟩
    · exact hentries _ ha hentry
    · exact .inl rfl
  gone _ hid := hid

/-! ## The vault -/

/-- Removing an entry whose credential has no record any more. -/
theorem Sound.remove (h : Sound w) {key : PendingPasskeyCreationKey}
    (hgone : ∀ entry ∈ w.pending_passkey_creations, entry.1 = key →
      w.records entry.2.credential_id = none) :
    Sound (w.setPending (w.pending_passkey_creations.remove key)) where
  entries :=
    { keyed := fun a ha b hb => h.entries.keyed a (mem_remove.mp ha).1 b (mem_remove.mp hb).1
      home := fun entry hentry => h.entries.home entry (mem_remove.mp hentry).1
      epoch := fun entry hentry => h.entries.epoch entry (mem_remove.mp hentry).1
      confirmed := fun entry hentry => h.entries.confirmed entry (mem_remove.mp hentry).1
      noted := fun entry hentry => h.entries.noted entry (mem_remove.mp hentry).1 }
  homes := { h.homes with }
  regular id := { h.regular id with
    committed := by
      intro hid
      refine ((h.regular id).committed hid).imp_right ?_
      rintro ⟨entry, hmem, rfl⟩
      refine ⟨entry, mem_remove.mpr ⟨hmem, fun hkey => ?_⟩, rfl⟩
      change w.records entry.2.credential_id = _ at hid
      rw [hgone entry hmem hkey] at hid
      cases hid }
  wired := { h.wired with }
  returned r hr := { h.returned r hr with }

theorem Quiet.remove {key : PendingPasskeyCreationKey} :
    Quiet w (w.setPending (w.pending_passkey_creations.remove key)) where
  ledger := rfl
  cache := rfl
  connected _ hc := hc
  requested _ hc := hc
  dead _ hid :=
    ⟨hid.1, hid.2.1, fun entry hentry => hid.2.2 entry (mem_remove.mp hentry).1⟩
  gone _ hid := hid

/-- What is so of a credential stays so when nothing happens to it. -/
theorem World.Regular.congr {id : CredentialId} (h : w.Regular id)
    (hledger : w'.ledger id = w.ledger id) (hrecord : w'.records id = w.records id)
    (hcache : w'.cache id = w.cache id) (hentered : w.Entered id → w'.Entered id) :
    w'.Regular id := by
  unfold World.Regular
  rw [hledger, hrecord, hcache]
  exact { h with committed := fun hid => (h.committed hid).imp_right hentered }

/-- A record is deleted when the cache has been cleaned of it, and no one counts on it. -/
theorem Sound.delete (h : Sound w) {id : CredentialId} (hcleared : w.Cleared id)
    (hdisposed : (w.ledger id).confirmed = true →
      (w.ledger id).targeted = true ∨ (w.ledger id).withdrawn = true) :
    Sound (w.setRecord id none) := by
  have hgone : ∀ id', w.Gone id' → (w.setRecord id none).Gone id' := by
    intro id' hid'
    refine ⟨hid'.1, ?_⟩
    change Function.update w.records id none id' = none
    rw [Function.update_apply]
    split_ifs
    · rfl
    · exact hid'.2
  exact {
    entries := { h.entries with }
    homes := { h.homes with }
    regular := by
      intro id'
      by_cases heq : id' = id
      · subst heq
        have hrecord : (w.setRecord id' none).records id' = none := Function.update_self ..
        unfold World.Regular
        rw [hrecord]
        exact { h.regular id' with
          recorded := fun hne => absurd rfl hne
          confirmed := fun hid => ⟨((h.regular id').confirmed hid).1, by simp⟩
          committed := by rintro ⟨⟩
          disposed := fun hid _ => hdisposed hid
          gone := fun _ _ => hcleared
          deleted := fun hid => ⟨((h.regular id').deleted hid).1, rfl⟩ }
      · exact (h.regular id').congr rfl (Function.update_of_ne heq _ _) rfl fun hid => hid
    wired := { h.wired with
      rolled_back := fun c id' hc => hgone id' (h.wired.rolled_back c id' hc) }
    returned := fun r hr => { h.returned r hr with
      rolled_back := fun hback => by
        obtain ⟨id', hid', hgone'⟩ := (h.returned r hr).rolled_back hback
        exact ⟨id', hid', hgone id' hgone'⟩ } }

theorem Quiet.delete {id : CredentialId} : Quiet w (w.setRecord id none) where
  ledger := rfl
  cache := rfl
  connected _ hc := hc
  requested _ hc := hc
  dead _ hid := hid
  gone id' hid' := by
    refine ⟨hid'.1, ?_⟩
    change Function.update w.records id none id' = none
    rw [Function.update_apply]
    split_ifs
    · rfl
    · exact hid'.2

/-! ## One credential -/

/-- What is noted of a credential, with what becomes of it in the cache. -/
def World.mark (w : World) (id : CredentialId) (present : Bool) (f : Ledger → Ledger) : World :=
  (w.setCache id present).note id f

theorem World.mark_ledger_self {id : CredentialId} {present : Bool} {f : Ledger → Ledger} :
    (w.mark id present f).ledger id = f (w.ledger id) :=
  Function.update_self ..

theorem World.mark_ledger_of_ne {id id' : CredentialId} {present : Bool} {f : Ledger → Ledger}
    (h : id' ≠ id) : (w.mark id present f).ledger id' = w.ledger id' :=
  Function.update_of_ne h _ _

theorem World.mark_cache_self {id : CredentialId} {present : Bool} {f : Ledger → Ledger} :
    (w.mark id present f).cache id = present :=
  Function.update_self ..

theorem World.mark_cache_of_ne {id id' : CredentialId} {present : Bool} {f : Ledger → Ledger}
    (h : id' ≠ id) : (w.mark id present f).cache id' = w.cache id' :=
  Function.update_of_ne h _ _

theorem World.note_eq_mark {id : CredentialId} {f : Ledger → Ledger} :
    w.note id f = w.mark id (w.cache id) f := by
  unfold World.mark World.setCache World.note
  rw [Function.update_eq_self]

theorem World.setCache_eq_mark {id : CredentialId} {present : Bool} :
    w.setCache id present = w.mark id present fun ledger => ledger := by
  unfold World.mark World.setCache World.note
  rw [Function.update_eq_self]

/-- A mark that takes nothing back. -/
structure Mark (w : World) (id : CredentialId) (present : Bool) (f : Ledger → Ledger) :
    Prop where
  home : (f (w.ledger id)).home = (w.ledger id).home
  confirmed : (f (w.ledger id)).confirmed = (w.ledger id).confirmed
  withdrawn : (w.ledger id).withdrawn = true → (f (w.ledger id)).withdrawn = true
  targeted : (w.ledger id).targeted = true → (f (w.ledger id)).targeted = true
  created : (w.ledger id).created = true → (f (w.ledger id)).created = true
  cleared : w.Cleared id → (f (w.ledger id)).overtaken = true ∨ (f (w.ledger id)).early = true ∨
    ((f (w.ledger id)).added = true ∧ present = false)

section

variable {id : CredentialId} {present : Bool} {f : Ledger → Ledger}

/-- What is kept of one ledger is kept of all. -/
theorem World.mark_keeps {P : Ledger → Prop} (h : P (w.ledger id) → P (f (w.ledger id)))
    (id' : CredentialId) (hid : P (w.ledger id')) : P ((w.mark id present f).ledger id') := by
  by_cases heq : id' = id
  · subst heq
    rw [World.mark_ledger_self]
    exact h hid
  · rw [World.mark_ledger_of_ne heq]
    exact hid

theorem World.mark_home (h : Mark w id present f) (id' : CredentialId) :
    ((w.mark id present f).ledger id').home = (w.ledger id').home :=
  World.mark_keeps (P := fun l => l.home = (w.ledger id').home) (fun hid => h.home.trans hid) id'
      rfl

theorem World.mark_confirmed (h : Mark w id present f) (id' : CredentialId) :
    ((w.mark id present f).ledger id').confirmed = (w.ledger id').confirmed :=
  World.mark_keeps (P := fun l => l.confirmed = (w.ledger id').confirmed)
    (fun hid => h.confirmed.trans hid) id' rfl

theorem Mark.later (h : Mark w id present f) : Later w (w.mark id present f) where
  home id' key hid := (World.mark_home h id').trans hid
  confirmed id' hid := (World.mark_confirmed h id').trans hid
  withdrawn := World.mark_keeps (P := fun l => l.withdrawn = true) h.withdrawn
  targeted := World.mark_keeps (P := fun l => l.targeted = true) h.targeted
  created := World.mark_keeps (P := fun l => l.created = true) h.created
  dead id' hid := by
    unfold World.Dead
    rw [World.mark_home h, World.mark_confirmed h]
    exact hid
  cleared id' hid := by
    unfold World.Cleared
    by_cases heq : id' = id
    · subst heq
      rw [World.mark_ledger_self, World.mark_cache_self]
      exact h.cleared hid
    · rw [World.mark_ledger_of_ne heq, World.mark_cache_of_ne heq]
      exact hid
  gone id' hid := by
    unfold World.Gone
    rw [World.mark_home h]
    exact hid

/-- A mark keeps the state sound when it keeps its own credential regular. -/
theorem Sound.mark (h : Sound w) (hmark : Mark w id present f)
    (hself : Regular (f (w.ledger id)) (w.records id) present (w.Entered id)) :
    Sound (w.mark id present f) where
  entries :=
    { h.entries with
      home := fun entry hentry => (World.mark_home hmark _).trans (h.entries.home entry hentry)
      confirmed := fun entry hentry hid =>
        h.entries.confirmed entry hentry ((World.mark_confirmed hmark _).symm.trans hid)
      noted := fun entry hentry hid =>
        (World.mark_confirmed hmark _).trans (h.entries.noted entry hentry hid) }
  homes :=
    { requested := fun id' key hid =>
        h.homes.requested id' key ((World.mark_home hmark id').symm.trans hid)
      unique := fun id₁ id₂ key₁ key₂ h₁ h₂ =>
        h.homes.unique id₁ id₂ key₁ key₂ ((World.mark_home hmark id₁).symm.trans h₁)
          ((World.mark_home hmark id₂).symm.trans h₂) }
  regular := by
    intro id'
    by_cases heq : id' = id
    · subst heq
      unfold World.Regular
      rw [World.mark_ledger_self, World.mark_cache_self]
      exact { hself with }
    · exact (h.regular id').congr (World.mark_ledger_of_ne heq) rfl (World.mark_cache_of_ne heq)
        fun hid => hid
  wired :=
    { h.wired with
      created := fun c id' hc => by
        obtain ⟨key, hkey, hconnection⟩ := h.wired.created c id' hc
        exact ⟨key, hmark.later.home id' key hkey, hconnection⟩
      confirmed := fun c id' hc => hmark.later.confirmed id' (h.wired.confirmed c id' hc)
      rolled_back := fun c id' hc => hmark.later.gone id' (h.wired.rolled_back c id' hc)
      withdrawn := fun c id' frame hc hframe =>
        hmark.later.withdrawn id' (h.wired.withdrawn c id' frame hc hframe) }
  returned := fun r hr => (h.returned r hr).later hmark.later

/-- A thread fits after a mark that does not concern its stage. -/
theorem Phase.Fits.mark (h : φ.Fits w) (hmark : Mark w id present f)
    (hcredential : φ.stage.credential_id = some id → (w.ledger id).withdrawn = false →
      (f (w.ledger id)).withdrawn = false)
    (hwaiting : ∀ key, φ.stage = .waiting → (w.ledger id).home = some key →
      φ.connection = some key.connection_id →
        (f (w.ledger id)).added = (w.ledger id).added ∧
          (f (w.ledger id)).withdrawn = (w.ledger id).withdrawn)
    (hheld : φ.stage = .held id → (f (w.ledger id)).added = (w.ledger id).added)
    (hentered : φ.stage.entered = some id → w.cache id = true →
      present = true ∨ (f (w.ledger id)).targeted = true ∨ w.Dead id) :
    φ.Fits (w.mark id present f) where
  facts fact hfact := hmark.later.holds (h.facts fact hfact)
  connection := h.connection
  credential id' hid := by
    obtain ⟨hwithdrawn, hhome⟩ := h.credential id' hid
    rw [World.mark_home hmark]
    refine ⟨?_, hhome⟩
    by_cases heq : id' = id
    · subst heq
      rw [World.mark_ledger_self]
      exact hcredential hid hwithdrawn
    · rw [World.mark_ledger_of_ne heq]
      exact hwithdrawn
  waiting id' key hstage hid hconnection := by
    rw [World.mark_home hmark] at hid
    have hwas := h.waiting id' key hstage hid hconnection
    by_cases heq : id' = id
    · subst heq
      rw [World.mark_ledger_self]
      obtain ⟨hadded, hwithdrawn⟩ := hwaiting key hstage hid hconnection
      rw [hadded, hwithdrawn]
      exact hwas
    · rw [World.mark_ledger_of_ne heq]
      exact hwas
  held id' hid := by
    have hwas := h.held id' hid
    by_cases heq : id' = id
    · subst heq
      rw [World.mark_ledger_self, hheld hid]
      exact hwas
    · rw [World.mark_ledger_of_ne heq]
      exact hwas
  entered id' hid := by
    have hwas := h.entered id' hid
    have hdead : w.Dead id' → (w.mark id present f).Dead id' := hmark.later.dead id'
    by_cases heq : id' = id
    · subst heq
      rw [World.mark_ledger_self, World.mark_cache_self]
      rcases hwas with hcache | htargeted | hwas
      · exact (hentered hid hcache).imp_right (Or.imp_right hdead)
      · exact .inr (.inl (hmark.targeted htargeted))
      · exact .inr (.inr (hdead hwas))
    · rw [World.mark_ledger_of_ne heq, World.mark_cache_of_ne heq]
      exact hwas.imp_right (Or.imp_right hdead)
  acked id' hid := hmark.later.confirmed id' (h.acked id' hid)
  making c hc := by
    obtain ⟨hrequested, hconnected, hhomes⟩ := h.making c hc
    exact ⟨hrequested, hconnected, fun id' key hid => hhomes id' key
      ((World.mark_home hmark id').symm.trans hid)⟩

end

end

end Librarian.Provider
