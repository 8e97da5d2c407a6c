import Librarian.Provider.Custody

/-!
# Steps of the provider and the desktop

What custody says of a thread, and that the steps on the connections, on the cache and at the end of
an operation keep it.
-/

namespace Librarian.Provider

open Conc Librarian.Agent Librarian.Format Librarian.Protocol

section

variable {w : World} {phase : ℕ → Phase} {t : ℕ} {o : Provider.Answers}

/-- A step that changes nothing. -/
theorem Custody.stay (h : Custody w phase) : Custody w (Function.update phase t (phase t)) := by
  rw [Function.update_eq_self]
  exact h

/-- A thread that learns what is so. -/
theorem Custody.learns (h : Custody w phase) {facts : List Fact}
    (hfacts : ∀ fact ∈ facts, fact ∈ (phase t).facts ∨ fact.Holds w) :
    Custody w (Function.update phase t { phase t with facts := facts }) :=
  h.quiet h.sound Quiet.refl rfl rfl rfl rfl hfacts

theorem Custody.learn (h : Custody w phase) {fact : Fact} (hfact : fact.Holds w) :
    Custody w (Function.update phase t ((phase t).learn fact)) := by
  refine h.learns fun fact' hmem => ?_
  rcases List.mem_cons.mp hmem with rfl | hmem
  · exact .inr hfact
  · exact .inl hmem

/-- The other threads have other connections. -/
theorem Custody.other (h : Custody w phase) {t' : ℕ} {c : ConnectionId}
    (hconnection : (phase t).connection = some c) (ht : t' ≠ t) : (phase t').connection ≠ some c :=
  fun hc => ht (h.alone t' t c hc hconnection)

/-- The thread that has a credential in its stage is the only one on its connection. -/
theorem Custody.holder (h : Custody w phase) {id : CredentialId}
    (hid : (phase t).stage.credential_id = some id) {key : PendingPasskeyCreationKey}
    (hkey : (w.ledger id).home = some key) {t' : ℕ} (ht : t' ≠ t) :
    (phase t').connection ≠ some key.connection_id := by
  obtain ⟨-, key', hkey', hconnection⟩ := (h.fits t).credential id hid
  rw [hkey'] at hkey
  cases hkey
  exact h.other hconnection ht

/-- No other thread has the credential of a stage in its own. -/
theorem Custody.credential_ne (h : Custody w phase) {id : CredentialId}
    (hid : (phase t).stage.credential_id = some id) {t' : ℕ} (ht : t' ≠ t) :
    (phase t').stage.credential_id ≠ some id := by
  intro hid'
  obtain ⟨-, key, hkey, hconnection⟩ := (h.fits t').credential id hid'
  exact h.holder hid hkey ht hconnection

/-- The credential of a stage has not been created yet. -/
theorem Custody.not_created (h : Custody w phase) {id : CredentialId}
    (hid : (phase t).stage.credential_id = some id) : (w.ledger id).created ≠ true := by
  intro hcreated
  obtain ⟨-, key, hkey, hconnection⟩ := (h.fits t).credential id hid
  exact h.created id key t hcreated hkey hconnection

theorem credential_of_entered {stage : Stage} {id : CredentialId} (h : stage.entered = some id) :
    stage.credential_id = some id := by
  cases stage with
  | added _ => exact h
  | acked _ => exact h
  | outside => cases h
  | waiting => cases h
  | held _ => cases h
  | abandoned _ => cases h

/-- A mark, with what its thread has to say about the marked credential. -/
theorem Custody.mark (h : Custody w phase) {id : CredentialId} {present : Bool}
    {f : Ledger → Ledger} {φ' : Phase} (hmark : Mark w id present f)
    (hself : Regular (f (w.ledger id)) (w.records id) present (w.Entered id))
    (hothers : ∀ t' ≠ t, (phase t').Fits (w.mark id present f))
    (hown : φ'.Fits (w.mark id present f))
    (hconnection : ∀ c, φ'.connection = some c → (phase t).connection = some c)
    (hmaking : φ'.making = (phase t).making)
    (hcreated : (f (w.ledger id)).created = true → (w.ledger id).created = true ∨
      (φ'.connection = none ∧ (phase t).stage.credential_id = some id))
    (hcached : present = true → (f (w.ledger id)).leftover = true ∨
      (f (w.ledger id)).created = true ∨ φ'.stage.entered = some id ∨
        ∃ t' ≠ t, (phase t').stage.entered = some id)
    (hentered : ∀ id' ≠ id, (phase t).stage.entered = some id' → φ'.stage.entered = some id')
    (htargeted : (f (w.ledger id)).targeted = true → (f (w.ledger id)).deleted = true ∨
      (f (w.ledger id)).undeleted = true ∨ φ'.deleting = some id ∨
        ∃ t' ≠ t, (phase t').deleting = some id)
    (hdeleting : ∀ id' ≠ id, (phase t).deleting = some id' → φ'.deleting = some id') :
    Custody (w.mark id present f) (Function.update phase t φ') := by
  refine h.of (h.sound.mark hmark hself) hothers hown (fun c hc => .inl (hconnection c hc))
    (fun c hc => .inl (hmaking ▸ hc)) (fun id' key hid' hkey => ?_) (fun id' hid' => ?_)
    (fun id' hid' => ?_)
  · rw [World.mark_home hmark] at hkey
    have hwas : (w.ledger id').created = true → φ'.connection ≠ some key.connection_id ∧
        ∀ t' ≠ t, (phase t').connection ≠ some key.connection_id := fun hwas =>
      ⟨fun hc => h.created id' key t hwas hkey (hconnection _ hc),
        fun t' _ => h.created id' key t' hwas hkey⟩
    by_cases heq : id' = id
    · subst heq
      rw [World.mark_ledger_self] at hid'
      rcases hcreated hid' with hcreated | ⟨hnone, hcredential⟩
      · exact hwas hcreated
      · exact ⟨by simp [hnone], fun t' ht => h.holder hcredential hkey ht⟩
    · rw [World.mark_ledger_of_ne heq] at hid'
      exact hwas hid'
  · by_cases heq : id' = id
    · subst heq
      rw [World.mark_cache_self] at hid'
      rw [World.mark_ledger_self]
      exact hcached hid'
    · rw [World.mark_cache_of_ne heq] at hid'
      rw [World.mark_ledger_of_ne heq]
      refine (h.cached id' hid').imp_right (Or.imp_right fun hthread => ?_)
      exact (exists_or_other (P := fun φ => φ.stage.entered = some id') hthread).imp_left
        (hentered id' heq)
  · by_cases heq : id' = id
    · subst heq
      rw [World.mark_ledger_self] at hid' ⊢
      exact htargeted hid'
    · rw [World.mark_ledger_of_ne heq] at hid' ⊢
      refine (h.targeted id' hid').imp_right (Or.imp_right fun hthread => ?_)
      exact (exists_or_other (P := fun φ => φ.deleting = some id') hthread).imp_left
        (hdeleting id' heq)

/-- What is known of a credential in the cache, seen from one thread. -/
theorem Custody.cached_split (h : Custody w phase) {id : CredentialId} (hid : w.cache id = true) :
    (w.ledger id).leftover = true ∨ (w.ledger id).created = true ∨
      (phase t).stage.entered = some id ∨ ∃ t' ≠ t, (phase t').stage.entered = some id :=
  (h.cached id hid).imp_right (Or.imp_right
    (exists_or_other (P := fun φ => φ.stage.entered = some id)))

/-- What is known of a targeted credential, seen from one thread. -/
theorem Custody.targeted_split (h : Custody w phase) {id : CredentialId}
    (hid : (w.ledger id).targeted = true) : (w.ledger id).deleted = true ∨
      (w.ledger id).undeleted = true ∨ (phase t).deleting = some id ∨
        ∃ t' ≠ t, (phase t').deleting = some id :=
  (h.targeted id hid).imp_right (Or.imp_right
    (exists_or_other (P := fun φ => φ.deleting = some id)))

/-! ## Connections -/

theorem Custody.setWire (h : Custody w phase) {c : ConnectionId} {wire : Wire} {facts : List Fact}
    (hsound : Sound (w.setWire c wire))
    (hfacts : ∀ fact ∈ facts, fact ∈ (phase t).facts ∨ fact.Holds (w.setWire c wire)) :
    Custody (w.setWire c wire) (Function.update phase t { phase t with facts := facts }) :=
  h.quiet hsound Quiet.setWire rfl rfl rfl rfl hfacts

/-- The provider asks for a rollback: it has nothing more to do with the credential. -/
theorem Custody.withdraw (h : Custody w phase) {id : CredentialId}
    (hstage : (phase t).stage = .held id ∨ (phase t).stage = .abandoned id) :
    Custody (w.note id fun ledger => { ledger with withdrawn := true })
      (Function.update phase t { phase t with stage := .outside }) := by
  have hid : (phase t).stage.credential_id = some id := by
    rcases hstage with hheld | habandoned
    · rw [hheld]; rfl
    · rw [habandoned]; rfl
  have hentered : (phase t).stage.entered = none := by
    rcases hstage with hheld | habandoned
    · rw [hheld]; rfl
    · rw [habandoned]; rfl
  obtain ⟨-, key, hkey, hconnection⟩ := (h.fits t).credential id hid
  rw [World.note_eq_mark]
  have hmark : Mark w id (w.cache id) fun ledger => { ledger with withdrawn := true } :=
    ⟨rfl, rfl, fun _ => rfl, fun hid => hid, fun hid => hid, fun hid => hid⟩
  have hself : Regular { w.ledger id with withdrawn := true } (w.records id) (w.cache id)
      (w.Entered id) := { h.sound.regular id with
    withdrawn := fun _ => by simp [hkey]
    disposed := fun _ _ => .inr rfl
    created := fun hcreated => absurd hcreated (h.not_created hid) }
  refine h.mark hmark hself (fun t' ht => ?_) ?_ (fun _ hc => hc) rfl .inl ?_
    (fun id' _ hid' => ?_) h.targeted_split fun _ _ hid' => hid'
  · exact (h.fits t').mark hmark (fun hid' => absurd hid' (h.credential_ne hid ht))
      (fun key' _ hkey' hconnection' => absurd hconnection' (h.holder hid hkey' ht))
      (fun _ => rfl) (fun _ hcache => .inl hcache)
  · exact {
      facts := fun fact hfact => hmark.later.holds ((h.fits t).facts fact hfact)
      connection := (h.fits t).connection
      credential := by rintro _ ⟨⟩
      waiting := by rintro _ _ ⟨⟩
      held := by rintro _ ⟨⟩
      entered := by rintro _ ⟨⟩
      acked := by rintro _ ⟨⟩
      making := fun c hc => by
        obtain ⟨hrequested, hconnected, hhomes⟩ := (h.fits t).making c hc
        exact ⟨hrequested, hconnected, fun id' key' hid' =>
          hhomes id' key' ((World.mark_home hmark id').symm.trans hid')⟩ }
  · intro hcache
    have hsplit := h.cached_split (t := t) hcache
    rw [hentered] at hsplit
    exact hsplit.imp_right (Or.imp_right (Or.imp_left fun hnone => by cases hnone))
  · rw [hentered] at hid'
    cases hid'

/-- The provider has got a connection of its own. -/
theorem Custody.connect (h : Custody w phase) {c : ConnectionId} (hfresh : w.connected c = false)
    (hstage : (phase t).stage.entered = none) :
    Custody { w with connected := Function.update w.connected c true }
      (Function.update phase t
        { phase t with connection := some c, stage := .waiting }) := by
  have hnone : ∀ t', (phase t').connection ≠ some c := by
    intro t' hc
    rw [(h.fits t').connection c hc] at hfresh
    cases hfresh
  have hunused : ∀ id key, (w.ledger id).home = some key → key.connection_id ≠ c := by
    rintro id key hkey rfl
    rw [(h.sound.homes.requested id key hkey).2] at hfresh
    cases hfresh
  refine h.of h.sound.connect (fun t' _ => (h.fits t').quiet Quiet.connect rfl rfl rfl
    fun _ => .inl) ?_ ?_ (fun c' => .inl) (fun id key hid hkey => ?_) (fun id hid => ?_)
    (fun id => h.targeted_split)
  · exact {
      facts := fun fact hfact => Quiet.connect.later.holds ((h.fits t).facts fact hfact)
      connection := by
        rintro _ ⟨⟩
        exact Function.update_self ..
      credential := by rintro _ ⟨⟩
      waiting := by
        intro id key _ hkey hc
        exact absurd (Option.some.inj hc).symm (hunused id key hkey)
      held := by rintro _ ⟨⟩
      entered := by rintro _ ⟨⟩
      acked := by rintro _ ⟨⟩
      making := fun c' hc => by
        obtain ⟨hrequested, hconnected, hhomes⟩ := (h.fits t).making c' hc
        exact ⟨hrequested, update_true hconnected, hhomes⟩ }
  · rintro _ ⟨⟩
    exact .inr hnone
  · refine ⟨fun hc => hunused id key hkey (Option.some.inj hc).symm, fun t' _ => ?_⟩
    exact h.created id key t' hid hkey
  · have hsplit := h.cached_split (t := t) hid
    rw [hstage] at hsplit
    exact hsplit.imp_right (Or.imp_right (Or.imp_left fun hnone => by cases hnone))

/-- The provider goes on to another stage of its credential. -/
theorem Custody.stage (h : Custody w phase) {w' : World} {stage : Stage} {facts : List Fact}
    (hsound : Sound w') (hquiet : Quiet w w')
    (hown : Phase.Fits { phase t with stage := stage, facts := facts } w')
    (hentered : ∀ id, (phase t).stage.entered = some id → stage.entered = some id) :
    Custody w' (Function.update phase t { phase t with stage := stage, facts := facts }) := by
  refine h.of hsound (fun t' _ => (h.fits t').quiet hquiet rfl rfl rfl fun _ => .inl) hown
    (fun c => .inl) (fun c => .inl) (fun id key => ?_) (fun id hid => ?_) (fun id hid => ?_)
  · rw [hquiet.ledger]
    exact fun hid hkey => ⟨h.created id key t hid hkey, fun t' _ => h.created id key t' hid hkey⟩
  · rw [hquiet.cache] at hid
    rw [hquiet.ledger]
    exact (h.cached_split hid).imp_right (Or.imp_right (Or.imp_left (hentered id)))
  · rw [hquiet.ledger] at hid ⊢
    exact h.targeted_split hid

theorem Custody.send (h : Custody w phase) {c : ConnectionId} {frame : Frame}
    (hallows : (phase t).Allows (.send c frame)) :
    Custody (perform (.send c frame) o w).2
      (Function.update phase t
        ((phase t).next (.send c frame) (perform (.send c frame) o w).1)) := by
  obtain ⟨hconnection, hrollback⟩ := hallows
  have hconnected := (h.fits t).connection c hconnection
  obtain ⟨transaction_id, unlock_epoch, request⟩ := frame
  have hplain : (∀ id, request ≠ .rollback id) →
      Custody (w.setWire c (.sent ⟨transaction_id, unlock_epoch, request⟩))
        (Function.update phase t { phase t with facts := (phase t).facts }) := by
    intro hrequest
    refine h.setWire (h.sound.setWire (fun _ => hconnected) (by simp) (by simp) (by simp) ?_)
      fun fact => .inl
    rintro id _ ⟨⟩ hframe
    exact absurd hframe (hrequest id)
  cases request with
  | make => exact hplain (by simp)
  | confirm id => exact hplain (by simp)
  | rollback id =>
    have hwithdrawn := h.withdraw (hrollback id rfl)
    have hsent : Sound ((w.note id fun ledger => { ledger with withdrawn := true }).setWire c
        (.sent ⟨transaction_id, unlock_epoch, .rollback id⟩)) := by
      refine hwithdrawn.sound.setWire (fun _ => hconnected) (by simp) (by simp) (by simp) ?_
      rintro id' _ ⟨⟩ ⟨⟩
      show ((w.note id _).ledger id).withdrawn = true
      rw [World.note_eq_mark, World.mark_ledger_self]
    have hset := hwithdrawn.quiet (t := t) hsent Quiet.setWire rfl rfl rfl rfl fun fact => .inl
    rw [Function.update_idem, Function.update_self] at hset
    exact hset

theorem receive_cases (c : ConnectionId) (request : Request) (o : Answers) (w : World) :
    (∃ reply, w.wire c = .replied request reply ∧
      perform (.receive c request) o w = (some reply, w.setWire c .idle)) ∨
    perform (.receive c request) o w = (none, w) := by
  cases hwire : w.wire c with
  | idle => exact .inr (by simp only [perform, hwire])
  | sent frame => exact .inr (by simp only [perform, hwire])
  | serving request' => exact .inr (by simp only [perform, hwire])
  | replied request' reply =>
    by_cases hcond : request' = request ∧ o.succeeds = true
    · obtain ⟨rfl, hsucceeds⟩ := hcond
      exact .inl ⟨reply, rfl, by simp [perform, hwire, hsucceeds]⟩
    · exact .inr (by simp only [perform, hwire, if_neg hcond])

theorem Custody.receive (h : Custody w phase) {c : ConnectionId} {request : Request}
    (hallows : (phase t).Allows (.receive c request)) :
    Custody (perform (.receive c request) o w).2 (Function.update phase t
      ((phase t).next (.receive c request) (perform (.receive c request) o w).1)) := by
  rcases receive_cases c request o w with ⟨reply, hwire, hperform⟩ | hperform
  case inr =>
    rw [hperform]
    cases request <;> exact h.stay
  rw [hperform]
  have hidle : Sound (w.setWire c .idle) :=
    h.sound.setWire (fun hne => absurd rfl hne) (by simp) (by simp) (by simp) (by simp)
  have hplain : Custody (w.setWire c .idle) (Function.update phase t (phase t)) :=
    h.setWire hidle fun fact => .inl
  cases request with
  | make =>
    obtain ⟨hconnection, hstage⟩ := hallows
    cases reply with
    | done => exact hplain
    | refused => exact hplain
    | created id =>
      -- The credential has been made on the connection of this thread, which waits for it.
      obtain ⟨key, hkey, rfl⟩ := h.sound.wired.created c id hwire
      obtain ⟨hadded, hwithdrawn⟩ := (h.fits t).waiting id key hstage hkey hconnection
      refine h.stage hidle Quiet.setWire ?_ (by rw [hstage]; rintro _ ⟨⟩)
      exact { h.fits t with
        facts := fun fact hfact => by
          rcases List.mem_cons.mp hfact with rfl | hfact
          · exact ⟨key, hkey, rfl⟩
          · exact Quiet.setWire.later.holds ((h.fits t).facts fact hfact)
        credential := by
          rintro _ ⟨⟩
          exact ⟨hwithdrawn, key, hkey, hconnection⟩
        waiting := by rintro _ _ ⟨⟩
        held := by
          rintro _ ⟨⟩
          exact hadded
        entered := by rintro _ ⟨⟩
        acked := by rintro _ ⟨⟩ }
  | confirm id =>
    cases reply with
    | created _ => exact hplain
    | refused => exact hplain
    | done =>
      have hstage : (phase t).stage = .added id := hallows
      refine h.stage hidle Quiet.setWire ?_
        (by rw [hstage]; exact fun _ hid => hid)
      exact { h.fits t with
        credential := fun id' hid' => (h.fits t).credential id' (by rw [hstage]; exact hid')
        waiting := by rintro _ _ ⟨⟩
        held := by rintro _ ⟨⟩
        entered := fun id' hid' => (h.fits t).entered id' (by rw [hstage]; exact hid')
        acked := by
          rintro _ ⟨⟩
          exact h.sound.wired.confirmed c id hwire }
  | rollback id =>
    cases reply with
    | created _ => exact hplain
    | refused => exact hplain
    | done =>
      refine h.setWire hidle fun fact hfact => ?_
      rcases List.mem_cons.mp hfact with rfl | hfact
      · exact .inr (h.sound.wired.rolled_back c id hwire)
      · exact .inl hfact

theorem takeRequest_cases (c : ConnectionId) (o : Answers) (w : World) :
    (∃ frame, w.wire c = .sent frame ∧ (frame.request = .make → w.requested c = false) ∧
      perform (.takeRequest c) o w = (some frame, { w.setWire c (.serving frame.request) with
        requested := Function.update w.requested c true })) ∨
    perform (.takeRequest c) o w = (none, w) := by
  cases hwire : w.wire c with
  | idle => exact .inr (by simp only [perform, hwire])
  | serving request => exact .inr (by simp only [perform, hwire])
  | replied request reply => exact .inr (by simp only [perform, hwire])
  | sent frame =>
    by_cases hcond : w.closed c = false ∧ o.succeeds = true ∧
        (frame.request = .make → w.requested c = false)
    · exact .inl ⟨frame, rfl, hcond.2.2, by simp only [perform, hwire, if_pos hcond]⟩
    · exact .inr (by simp only [perform, hwire, if_neg hcond])

theorem Custody.takeRequest (h : Custody w phase) {c : ConnectionId} :
    Custody (perform (.takeRequest c) o w).2
      (Function.update phase t
        ((phase t).next (.takeRequest c) (perform (.takeRequest c) o w).1)) := by
  rcases takeRequest_cases c o w with ⟨frame, hwire, hfirst, hperform⟩ | hperform
  case inr =>
    rw [hperform]
    exact h.stay
  rw [hperform]
  obtain ⟨transaction_id, unlock_epoch, request⟩ := frame
  have hsound : Sound { w.setWire c (.serving request) with
      requested := Function.update w.requested c true } := h.sound.serving hwire
  cases request with
  | confirm id =>
    exact h.quiet hsound Quiet.serving rfl rfl rfl rfl fun fact => .inl
  | rollback id =>
    refine h.quiet hsound Quiet.serving rfl rfl rfl rfl fun fact hfact => ?_
    rcases List.mem_cons.mp hfact with rfl | hfact
    · exact .inr (h.sound.wired.withdrawn c id _ hwire rfl)
    · exact .inl hfact
  | make =>
    have hunrequested : w.requested c = false := hfirst rfl
    refine h.of hsound (fun t' _ => (h.fits t').quiet Quiet.serving rfl rfl rfl fun _ => .inl) ?_
      (fun c' => .inl) ?_ (fun id key hid hkey => ?_) (fun id => h.cached_split)
      (fun id => h.targeted_split)
    · have hquiet : (phase t).Fits { w.setWire c (.serving .make) with
          requested := Function.update w.requested c true } :=
        (h.fits t).quiet Quiet.serving rfl rfl rfl fun _ => .inl
      exact { hquiet with
        making := by
          rintro _ ⟨⟩
          refine ⟨Function.update_self .., h.sound.wired.connected c (by simp [hwire]), ?_⟩
          rintro id key hkey rfl
          rw [(h.sound.homes.requested id key hkey).1] at hunrequested
          cases hunrequested }
    · rintro _ ⟨⟩
      refine .inr fun t' hc => ?_
      rw [((h.fits t').making c hc).1] at hunrequested
      cases hunrequested
    · exact ⟨h.created id key t hid hkey, fun t' _ => h.created id key t' hid hkey⟩

theorem Custody.reply (h : Custody w phase) {c : ConnectionId} {request : Request} {reply : Reply}
    (hallows : (phase t).Allows (.reply c request reply)) :
    Custody (perform (.reply c request reply) o w).2 (Function.update phase t (phase t)) := by
  by_cases hwire : w.wire c = .serving request
  case neg =>
    have hperform : perform (.reply c request reply) o w = ((), w) := if_neg hwire
    rw [hperform]
    exact h.stay
  have hperform : perform (.reply c request reply) o w =
    ((), w.setWire c (.replied request reply)) := if_pos hwire
  rw [hperform]
  have hfacts := (h.fits t).facts
  refine h.setWire (h.sound.setWire (fun _ => h.sound.wired.connected c (by simp [hwire]))
    ?_ ?_ ?_ (by simp)) fun fact => .inl
  · rintro id ⟨⟩
    obtain ⟨key, hkey, hconnection⟩ := hallows
    exact ⟨key, hfacts _ hkey, hconnection⟩
  · rintro id ⟨⟩
    exact hfacts _ hallows
  · rintro id ⟨⟩
    exact hfacts _ hallows

/-! ## The cache -/

theorem entered_eq_none {stage : Stage} {id : CredentialId} (h : stage = .held id) :
    stage.entered = none := by
  rw [h]
  rfl

theorem credential_of_held {stage : Stage} {id : CredentialId} (h : stage = .held id) :
    stage.credential_id = some id := by
  rw [h]
  rfl

/-- The provider enters its credential. A cleanup that counted on the cache came too early. -/
theorem Custody.enter (h : Custody w phase) {id : CredentialId}
    (hstage : (phase t).stage = .held id) :
    Custody (w.mark id true fun ledger => { ledger with added := true })
      (Function.update phase t { phase t with stage := .added id }) := by
  have hid := credential_of_held hstage
  have hunadded : (w.ledger id).added = false := (h.fits t).held id hstage
  have hearly : ∀ {p q : Prop}, (p ∨ q ∨ ((w.ledger id).added = true ∧ w.cache id = false)) →
      p ∨ q := by
    rintro p q (hp | hq | ⟨hadded, -⟩)
    · exact .inl hp
    · exact .inr hq
    · rw [hunadded] at hadded
      cases hadded
  have hmark : Mark w id true fun ledger => { ledger with added := true } :=
    ⟨rfl, rfl, fun hid => hid, fun hid => hid, fun hid => hid,
      fun hid => (hearly hid).imp_right .inl⟩
  obtain ⟨hwithdrawn, key, hkey, hconnection⟩ := (h.fits t).credential id hid
  have hregular := h.sound.regular id
  refine h.mark hmark ?_ (fun t' ht => ?_) ?_ (fun _ hc => hc) rfl .inl
    (fun _ => .inr (.inr (.inl rfl)))
    (fun id' _ hid' => ?_) h.targeted_split fun _ _ hid' => hid'
  · exact { hregular with
      added := fun _ => by simp [hkey]
      cached := fun _ => rfl
      gone := fun hhome hnone => (hearly (hregular.gone hhome hnone)).imp_right .inl
      targeted := fun htargeted => by
        rcases hregular.targeted htargeted with hwas | ⟨hadded, -⟩
        · exact .inl hwas
        · rw [hunadded] at hadded
          cases hadded
      created := fun hcreated => absurd hcreated (h.not_created hid) }
  · exact (h.fits t').mark hmark (fun _ hid' => hid')
      (fun key' _ hkey' hconnection' => absurd hconnection' (h.holder hid hkey' ht))
      (fun hheld => absurd (credential_of_held hheld) (h.credential_ne hid ht))
      (fun _ _ => .inl rfl)
  · exact {
      facts := fun fact hfact => hmark.later.holds ((h.fits t).facts fact hfact)
      connection := (h.fits t).connection
      credential := by
        rintro _ ⟨⟩
        rw [World.mark_ledger_self]
        exact ⟨hwithdrawn, key, hkey, hconnection⟩
      waiting := by rintro _ _ ⟨⟩
      held := by rintro _ ⟨⟩
      entered := by
        rintro _ ⟨⟩
        exact .inl World.mark_cache_self
      acked := by rintro _ ⟨⟩
      making := fun c hc => by
        obtain ⟨hrequested, hconnected, hhomes⟩ := (h.fits t).making c hc
        exact ⟨hrequested, hconnected, fun id' key' hid' =>
          hhomes id' key' ((World.mark_home hmark id').symm.trans hid')⟩ }
  · rw [entered_eq_none hstage] at hid'
    cases hid'

/-- The provider cleans the cache of its credential again, and does not look whether it could. -/
theorem Custody.abandon (h : Custody w phase) {id : CredentialId} {present : Bool}
    (leftover : Bool)
    (hid : (phase t).stage.credential_id = some id)
    (hpresent : present = true → w.cache id = true ∧ leftover = true) :
    Custody (w.mark id present fun ledger => { ledger with leftover := leftover })
      (Function.update phase t { phase t with stage := .abandoned id }) := by
  obtain ⟨hwithdrawn, key, hkey, hconnection⟩ := (h.fits t).credential id hid
  have hregular := h.sound.regular id
  have habsent : w.cache id = false → present = false := by
    intro hcache
    by_contra hne
    rw [(hpresent (by simpa using hne)).1] at hcache
    cases hcache
  have hmark : Mark w id present fun ledger => { ledger with leftover := leftover } :=
    ⟨rfl, rfl, fun hid => hid, fun hid => hid, fun hid => hid,
      fun hid => hid.imp_right (Or.imp_right (And.imp_right habsent))⟩
  have hentered : ∀ id' ≠ id, (phase t).stage.entered ≠ some id' := by
    intro id' hne hid'
    have hsame := (credential_of_entered hid').symm.trans hid
    exact hne (Option.some.inj hsame)
  refine h.mark hmark ?_ (fun t' ht => ?_) ?_ (fun _ hc => hc) rfl .inl
    (fun hp => .inl (hpresent hp).2) (fun id' hne hid' => absurd hid' (hentered id' hne))
    h.targeted_split fun _ _ hid' => hid'
  · exact { hregular with
      cached := fun hp => hregular.cached (hpresent hp).1
      gone := fun hhome hnone =>
        (hregular.gone hhome hnone).imp_right (Or.imp_right (And.imp_right habsent))
      targeted := fun htargeted =>
        (hregular.targeted htargeted).imp_right (And.imp_right habsent)
      created := fun hcreated => absurd hcreated (h.not_created hid) }
  · exact (h.fits t').mark hmark (fun _ hid' => hid') (fun _ _ _ _ => ⟨rfl, rfl⟩) (fun _ => rfl)
      (fun hid' => absurd (credential_of_entered hid') (h.credential_ne hid ht))
  · exact {
      facts := fun fact hfact => hmark.later.holds ((h.fits t).facts fact hfact)
      connection := (h.fits t).connection
      credential := by
        rintro _ ⟨⟩
        rw [World.mark_ledger_self]
        exact ⟨hwithdrawn, key, hkey, hconnection⟩
      waiting := by rintro _ _ ⟨⟩
      held := by rintro _ ⟨⟩
      entered := by rintro _ ⟨⟩
      acked := by rintro _ ⟨⟩
      making := fun c hc => by
        obtain ⟨hrequested, hconnected, hhomes⟩ := (h.fits t).making c hc
        exact ⟨hrequested, hconnected, fun id' key' hid' =>
          hhomes id' key' ((World.mark_home hmark id').symm.trans hid')⟩ }

/-- The agent cleans the cache of a credential that is withdrawn or dead. -/
theorem Custody.clean (h : Custody w phase) {id : CredentialId}
    (hallows : (w.ledger id).withdrawn = true ∨ w.Dead id) :
    Custody (w.mark id false fun ledger =>
        { ledger with overtaken := ledger.overtaken || !ledger.added })
      (Function.update phase t ((phase t).learn (.cleared id))) := by
  have hregular := h.sound.regular id
  have hcleared : ((w.ledger id).overtaken || !(w.ledger id).added) = true ∨
      (w.ledger id).early = true ∨ ((w.ledger id).added = true ∧ (false : Bool) = false) := by
    cases hadded : (w.ledger id).added with
    | false => exact .inl (by simp)
    | true => exact .inr (.inr ⟨rfl, rfl⟩)
  have hmark : Mark w id false fun ledger =>
      { ledger with overtaken := ledger.overtaken || !ledger.added } :=
    ⟨rfl, rfl, fun hid => hid, fun hid => hid, fun hid => hid, fun _ => hcleared⟩
  have hfits : ∀ t', (phase t').Fits (w.mark id false _) := fun t' =>
    (h.fits t').mark hmark (fun _ hid' => hid') (fun _ _ _ _ => ⟨rfl, rfl⟩) (fun _ => rfl)
      fun hid' _ => by
        rcases hallows with hwithdrawn | hdead
        · have hnot := ((h.fits t').credential id (credential_of_entered hid')).1
          rw [hwithdrawn] at hnot
          cases hnot
        · exact .inr (.inr hdead)
  refine h.mark hmark ?_ (fun t' _ => hfits t') ?_ (fun _ hc => hc) rfl .inl (by rintro ⟨⟩)
    (fun _ _ hid' => hid') h.targeted_split fun _ _ hid' => hid'
  · exact { hregular with
      cached := by rintro ⟨⟩
      gone := fun _ _ => hcleared
      targeted := fun htargeted => (hregular.targeted htargeted).imp_right fun hwas => ⟨hwas.1, rfl⟩
      created := fun hcreated => by
        obtain ⟨hconfirmed, hnot, -⟩ := hregular.created hcreated
        rcases hallows with hwithdrawn | hdead
        · rw [hwithdrawn] at hnot
          cases hnot
        · rw [hdead.2.1] at hconfirmed
          cases hconfirmed }
  · exact { hfits t with
      facts := fun fact hfact => by
        rcases List.mem_cons.mp hfact with rfl | hfact
        · show World.Cleared _ id
          unfold World.Cleared
          rw [World.mark_ledger_self, World.mark_cache_self]
          exact hcleared
        · exact (hfits t).facts fact hfact }

/-- `DeletePasskey` cleans the cache first. -/
theorem Custody.target (h : Custody w phase) {id : CredentialId}
    (hdeleting : (phase t).deleting = none) :
    Custody (w.mark id false fun ledger =>
        { ledger with targeted := true, early := ledger.early || !ledger.added })
      (Function.update phase t { phase t with
        deleting := some id
        facts := .targeted id :: .cleared id :: (phase t).facts }) := by
  have hregular := h.sound.regular id
  have hearly : ((w.ledger id).early || !(w.ledger id).added) = true ∨
      ((w.ledger id).added = true ∧ (false : Bool) = false) := by
    cases hadded : (w.ledger id).added with
    | false => exact .inl (by simp)
    | true => exact .inr ⟨rfl, rfl⟩
  have hmark : Mark w id false fun ledger =>
      { ledger with targeted := true, early := ledger.early || !ledger.added } :=
    ⟨rfl, rfl, fun hid => hid, fun _ => rfl, fun hid => hid, fun _ => .inr hearly⟩
  have hfits : ∀ t', (phase t').Fits (w.mark id false _) := fun t' =>
    (h.fits t').mark hmark (fun _ hid' => hid') (fun _ _ _ _ => ⟨rfl, rfl⟩) (fun _ => rfl)
      fun _ _ => .inr (.inl rfl)
  refine h.mark hmark ?_ (fun t' _ => hfits t') ?_ (fun _ hc => hc) rfl .inl (by rintro ⟨⟩)
    (fun _ _ hid' => hid') (fun _ => .inr (.inr (.inl rfl))) fun _ _ hid' => ?_
  · exact { hregular with
      cached := by rintro ⟨⟩
      disposed := fun _ _ => .inl rfl
      gone := fun _ _ => .inr hearly
      targeted := fun _ => hearly
      created := fun hcreated => by
        obtain ⟨hconfirmed, hwithdrawn, -⟩ := hregular.created hcreated
        exact ⟨hconfirmed, hwithdrawn, .inr rfl⟩ }
  · exact { hfits t with
      facts := fun fact hfact => by
        rcases List.mem_cons.mp hfact with rfl | hfact
        · show ((w.mark id false _).ledger id).targeted = true
          rw [World.mark_ledger_self]
        · rcases List.mem_cons.mp hfact with rfl | hfact
          · show World.Cleared _ id
            unfold World.Cleared
            rw [World.mark_ledger_self, World.mark_cache_self]
            exact .inr hearly
          · exact (hfits t).facts fact hfact }
  · rw [hdeleting] at hid'
    cases hid'

/-- `DeletePasskey` reports what it knows. -/
theorem Custody.report (h : Custody w phase) {id : CredentialId} {succeeded : Bool}
    (hdeleting : (phase t).deleting = some id) (hgone : succeeded = true → w.Gone id) :
    Custody (w.mark id (w.cache id) fun ledger => if succeeded then { ledger with deleted := true }
        else { ledger with undeleted := true })
      (Function.update phase t { phase t with deleting := none }) := by
  have hregular := h.sound.regular id
  have hmark : Mark w id (w.cache id) fun ledger =>
      if succeeded then { ledger with deleted := true } else { ledger with undeleted := true } := by
    cases succeeded <;>
      exact ⟨rfl, rfl, fun hid => hid, fun hid => hid, fun hid => hid, fun hid => hid⟩
  have hfits : ∀ t', (phase t').Fits (w.mark id (w.cache id) _) := fun t' =>
    (h.fits t').mark hmark (fun _ hid' => by cases succeeded <;> exact hid')
      (fun _ _ _ _ => by cases succeeded <;> exact ⟨rfl, rfl⟩)
      (fun _ => by cases succeeded <;> rfl) fun _ hcache => .inl hcache
  refine h.mark hmark ?_ (fun t' _ => hfits t') { hfits t with } (fun _ hc => hc) rfl ?_ ?_
    (fun _ _ hid' => hid') ?_ fun id' hne hid' => ?_
  · cases succeeded with
    | false => exact { hregular with }
    | true => exact { hregular with deleted := fun _ => hgone rfl }
  · cases succeeded <;> exact .inl
  · cases succeeded <;> exact h.cached_split
  · cases succeeded with
    | false => exact fun _ => .inr (.inl rfl)
    | true => exact fun _ => .inl rfl
  · rw [hdeleting] at hid'
    exact absurd (Option.some.inj hid').symm hne

/-! ## The end of an operation -/

/-- The provider gives its connection up, with nothing of its own in the cache. -/
theorem Custody.release (h : Custody w phase) (hentered : (phase t).stage.entered = none) :
    Custody w (Function.update phase t { phase t with connection := none, stage := .outside }) := by
  refine h.of h.sound (fun t' _ => h.fits t') ?_ (by rintro _ ⟨⟩) (fun c => .inl)
    (fun id key hid hkey => ⟨by simp, fun t' _ => h.created id key t' hid hkey⟩)
    (fun id hid => ?_) (fun id => h.targeted_split)
  · exact { h.fits t with
      connection := by rintro _ ⟨⟩
      credential := by rintro _ ⟨⟩
      waiting := by rintro _ _ ⟨⟩
      held := by rintro _ ⟨⟩
      entered := by rintro _ ⟨⟩
      acked := by rintro _ ⟨⟩ }
  · have hsplit := h.cached_split (t := t) hid
    rw [hentered] at hsplit
    exact hsplit.imp_right (Or.imp_right (Or.imp_left fun hnone => by cases hnone))

theorem mark_created {id : CredentialId} :
    Mark w id (w.cache id) fun ledger => { ledger with created := true } :=
  ⟨rfl, rfl, fun hid => hid, fun hid => hid, fun _ => rfl, fun hid => hid⟩

/-- The provider returns `S_OK` for a credential whose confirmation has been answered. -/
theorem Custody.succeed (h : Custody w phase) {id : CredentialId}
    (hstage : (phase t).stage = .acked id) :
    Custody (w.mark id (w.cache id) fun ledger => { ledger with created := true })
      (Function.update phase t { phase t with connection := none, stage := .outside }) := by
  have hid : (phase t).stage.credential_id = some id := by rw [hstage]; rfl
  have hentered : (phase t).stage.entered = some id := by rw [hstage]; rfl
  have hregular := h.sound.regular id
  have hfits : ∀ t', (phase t').Fits (w.mark id (w.cache id) _) := fun t' =>
    (h.fits t').mark mark_created (fun _ hid' => hid') (fun _ _ _ _ => ⟨rfl, rfl⟩) (fun _ => rfl)
      fun _ hcache => .inl hcache
  refine h.mark mark_created ?_ (fun t' _ => hfits t') ?_ (by rintro _ ⟨⟩) rfl
    (fun _ => .inr ⟨rfl, hid⟩) (fun _ => .inr (.inl rfl)) (fun id' hne hid' => ?_)
    h.targeted_split fun _ _ hid' => hid'
  · have hconfirmed := (h.fits t).acked id hstage
    exact { hregular with
      created := fun _ => by
        refine ⟨hconfirmed, ((h.fits t).credential id hid).1, ?_⟩
        rcases (h.fits t).entered id hentered with hcache | htargeted | hdead
        · exact .inl hcache
        · exact .inr htargeted
        · rw [hdead.2.1] at hconfirmed
          cases hconfirmed }
  · exact { hfits t with
      connection := by rintro _ ⟨⟩
      credential := by rintro _ ⟨⟩
      waiting := by rintro _ _ ⟨⟩
      held := by rintro _ ⟨⟩
      entered := by rintro _ ⟨⟩
      acked := by rintro _ ⟨⟩ }
  · rw [hentered] at hid'
    exact absurd (Option.some.inj hid').symm hne

theorem Sound.returned_cons (h : Sound w) {outcome : Outcome} {answered : Bool}
    (houtcome : outcome.Accounted w) :
    Sound { w with returned := (outcome, answered) :: w.returned } where
  entries := { h.entries with }
  homes := { h.homes with }
  regular id := { h.regular id with }
  wired := { h.wired with }
  returned := by
    intro r hr
    rcases List.mem_cons.mp hr with rfl | hr
    · exact { houtcome with }
    · exact { h.returned r hr with }

theorem Custody.returned_cons (h : Custody w phase) {outcome : Outcome} (answered : Bool)
    (houtcome : outcome.Accounted w) :
    Custody { w with returned := (outcome, answered) :: w.returned }
      (Function.update phase t (phase t)) :=
  h.quiet (h.sound.returned_cons houtcome)
    ⟨rfl, rfl, fun _ h => h, fun _ h => h, fun _ h => h, fun _ h => h⟩ rfl rfl rfl rfl fun _ => .inl

theorem Custody.returned (h : Custody w phase) {outcome : Outcome}
    (hallows : (phase t).Allows (.returned outcome)) :
    Custody (perform (.returned outcome) o w).2
      (Function.update phase t { phase t with connection := none, stage := .outside }) := by
  have hgone : ∀ id, .gone id ∈ (phase t).facts → w.Gone id :=
    fun id => (h.fits t).facts (.gone id)
  have hcredential : ∀ id, outcome.credential_id = some id → ∃ key,
      (w.ledger id).home = some key ∧ outcome.connection_id = some key.connection_id := by
    intro id hid
    obtain ⟨c, hc, hon⟩ := hallows.credential id hid
    obtain ⟨key, hkey, rfl⟩ := (h.fits t).facts _ hon
    exact ⟨key, hkey, hc⟩
  by_cases hok : outcome.result = .ok
  · obtain ⟨hresponse, -, id, hid, hstage⟩ := hallows.ok hok
    have hsucceed := h.succeed hstage
    have hreturned := hsucceed.returned_cons (t := t) w.cancel_answered
      (show outcome.Accounted _ by
        refine ⟨fun _ => ⟨hresponse, id, hid, ?_⟩, fun hne => absurd hok hne, fun hback => ?_,
          fun id' hid' => ?_⟩
        · rw [World.mark_ledger_self]
        · obtain ⟨id', hid', hmem⟩ := hallows.rolled_back hback
          exact ⟨id', hid', mark_created.later.gone id' (hgone id' hmem)⟩
        · obtain ⟨key, hkey, hc⟩ := hcredential id' hid'
          exact ⟨key, mark_created.later.home id' key hkey, hc⟩)
    rw [Function.update_eq_self, ← World.note_eq_mark] at hreturned
    have hperform : (perform (.returned outcome) o w).2 =
        { (w.note id fun ledger => { ledger with created := true }) with
          returned := (outcome, w.cancel_answered) :: w.returned } := by
      simp only [perform, hok, hid]
      rfl
    rw [hperform]
    exact hreturned
  · have hperform : (perform (.returned outcome) o w).2 =
        { w with returned := (outcome, w.cancel_answered) :: w.returned } := by
      simp only [perform]
      split
      · exact absurd ‹_› hok
      · rfl
    obtain ⟨hresponse, hstage⟩ := hallows.failed hok
    have hentered : (phase t).stage.entered = none := by
      rcases hstage with houtside | hwaiting | ⟨id, habandoned⟩
      · rw [houtside]; rfl
      · rw [hwaiting]; rfl
      · rw [habandoned]; rfl
    have hreturned := (h.release hentered).returned_cons (t := t) w.cancel_answered
      (show outcome.Accounted _ by
        refine ⟨fun h => absurd h hok, fun _ => hresponse, fun hback => ?_, hcredential⟩
        obtain ⟨id', hid', hmem⟩ := hallows.rolled_back hback
        exact ⟨id', hid', hgone id' hmem⟩)
    rw [Function.update_eq_self] at hreturned
    rw [hperform]
    exact hreturned

end

end Librarian.Provider
