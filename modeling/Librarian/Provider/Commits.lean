import Librarian.Provider.Steps

/-!
# Steps of the agent

The commits of the agent keep custody, and with them every step (`Custody.perform`): the actions
that only look, or that concern the lifecycle or the gate, are quiet. -/

namespace Librarian.Provider

open Conc Librarian.Agent Librarian.Format Librarian.Protocol

section

variable {w : World} {phase : ℕ → Phase} {t : ℕ} {o : Provider.Answers}

/-! ## The vault -/

/-- The entry under the key of a credential is its own. -/
theorem Sound.entry_eq (h : Sound w) {id : CredentialId} {key : PendingPasskeyCreationKey}
    (hhome : (w.ledger id).home = some key)
    {entry : PendingPasskeyCreationKey × PendingPasskeyCreation}
    (hmem : entry ∈ w.pending_passkey_creations) (hkey : entry.1 = key) :
    entry.2.credential_id = id :=
  h.homes.unique _ _ _ _ (h.entries.home entry hmem) hhome (by rw [hkey])

/-- The entry of a credential whose record has been deleted is removed. -/
theorem Custody.remove (h : Custody w phase) {id : CredentialId} {key : PendingPasskeyCreationKey}
    {facts : List Fact} (hhome : (w.ledger id).home = some key) (hgone : w.Gone id)
    (hfacts : ∀ fact ∈ facts, fact ∈ (phase t).facts ∨ fact.Holds w) :
    Custody (w.setPending (w.pending_passkey_creations.remove key))
      (Function.update phase t { phase t with facts := facts }) := by
  have hsound : Sound (w.setPending (w.pending_passkey_creations.remove key)) := by
    refine h.sound.remove fun entry hmem hkey => ?_
    rw [h.sound.entry_eq hhome hmem hkey]
    exact hgone.2
  refine h.quiet hsound Quiet.remove rfl rfl rfl rfl fun fact hfact => ?_
  exact (hfacts fact hfact).imp_right Quiet.remove.later.holds

/-- The grounds of a deletion are the reasons for which a confirmed record may be deleted. -/
theorem Custody.disposed (h : Custody w phase) {deletion : Deletion}
    (hgrounds : (phase t).Grounds deletion)
    (hconfirmed : (w.ledger deletion.credential_id).confirmed = true) :
    (w.ledger deletion.credential_id).targeted = true ∨
      (w.ledger deletion.credential_id).withdrawn = true := by
  have hdead : .dead deletion.credential_id ∉ (phase t).facts := by
    intro hmem
    have hdead : w.Dead deletion.credential_id := (h.fits t).facts _ hmem
    rw [hdead.2.1] at hconfirmed
    cases hconfirmed
  cases deletion with
  | rollback key expected => exact .inr ((h.fits t).facts _ hgrounds.1)
  | disconnected key pending request_epoch => exact absurd hgrounds.1 hdead
  | recovered id cancellations => exact absurd hgrounds hdead
  | requested id request_epoch => exact .inl ((h.fits t).facts _ hgrounds)

/-- A deletion that takes effect, with what it does to its entry. -/
theorem Custody.delete (h : Custody w phase) {deletion : Deletion}
    (hgrounds : (phase t).Grounds deletion)
    (hcleared : .cleared deletion.credential_id ∈ (phase t).facts)
    (hrecord : w.records deletion.credential_id ≠ none) :
    Custody (w.setRecord deletion.credential_id none) (Function.update phase t (phase t)) ∧
      Custody ((w.setRecord deletion.credential_id none).forget deletion)
        (Function.update phase t ((phase t).learn (.gone deletion.credential_id))) := by
  have hset : Custody (w.setRecord deletion.credential_id none)
      (Function.update phase t (phase t)) :=
    h.quiet (h.sound.delete ((h.fits t).facts _ hcleared) (h.disposed hgrounds)) Quiet.delete
      rfl rfl rfl rfl fun _ => .inl
  have hgone : (w.setRecord deletion.credential_id none).Gone deletion.credential_id :=
    ⟨(h.sound.regular _).recorded hrecord, Function.update_self ..⟩
  refine ⟨hset, ?_⟩
  rw [Function.update_eq_self] at hset
  have hfacts : ∀ fact ∈ .gone deletion.credential_id :: (phase t).facts,
      fact ∈ (phase t).facts ∨ fact.Holds (w.setRecord deletion.credential_id none) := by
    intro fact hfact
    rcases List.mem_cons.mp hfact with rfl | hfact
    · exact .inr hgone
    · exact .inl hfact
  cases deletion with
  | rollback key expected => exact hset.remove ((h.fits t).facts _ hgrounds.2) hgone hfacts
  | disconnected key pending request_epoch =>
    exact hset.remove ((h.fits t).facts _ hgrounds.2) hgone hfacts
  | recovered id cancellations => exact hset.learns hfacts
  | requested id request_epoch => exact hset.learns hfacts

/-- A credential that is withdrawn or dead has been drawn. -/
theorem Custody.drawn (h : Custody w phase) {id : CredentialId}
    (hid : .withdrawn id ∈ (phase t).facts ∨ .dead id ∈ (phase t).facts) :
    (w.ledger id).home ≠ none := by
  rcases hid with hwithdrawn | hdead
  · exact (h.sound.regular id).withdrawn ((h.fits t).facts _ hwithdrawn)
  · have hdead : w.Dead id := (h.fits t).facts _ hdead
    exact hdead.1

theorem Custody.commitDelete (h : Custody w phase) {deletion : Deletion}
    (hallows : (phase t).Allows (.commitDelete deletion)) :
    Custody (perform (.commitDelete deletion) o w).2 (Function.update phase t
      ((phase t).next (.commitDelete deletion) (perform (.commitDelete deletion) o w).1)) := by
  obtain ⟨hgrounds, hcleared⟩ := hallows
  have hfailed : (phase t).next (.commitDelete deletion) .failed = phase t := by
    cases deletion <;> rfl
  have haborted : (phase t).next (.commitDelete deletion) .aborted = phase t := by
    cases deletion <;> rfl
  by_cases hrecord : w.records deletion.credential_id = none
  · have hperform : perform (.commitDelete deletion) o w = (.notFound, w) := if_pos hrecord
    rw [hperform]
    cases deletion with
    | rollback key expected => exact h.learn ⟨h.drawn (.inl hgrounds.1), hrecord⟩
    | disconnected key pending request_epoch =>
      exact h.learn ⟨h.drawn (.inr hgrounds.1), hrecord⟩
    | recovered id cancellations => exact h.stay
    | requested id request_epoch => exact h.stay
  · by_cases hpermits : w.Permits deletion
    · obtain ⟨hset, hforget⟩ := h.delete hgrounds hcleared hrecord
      by_cases hsucceeds : o.succeeds = true
      · have hperform : perform (.commitDelete deletion) o w =
            (.ok, (w.setRecord deletion.credential_id none).forget deletion) := by
          simp only [perform, if_neg hrecord, if_neg (not_not.mpr hpermits), if_pos hsucceeds]
        rw [hperform]
        exact hforget
      · by_cases hdurable : o.durable = true
        · have hperform : perform (.commitDelete deletion) o w =
              (.failed, w.setRecord deletion.credential_id none) := by
            simp only [perform, if_neg hrecord, if_neg (not_not.mpr hpermits), if_neg hsucceeds,
              if_pos hdurable]
          rw [hperform, hfailed]
          exact hset
        · have hperform : perform (.commitDelete deletion) o w = (.failed, w) := by
            simp only [perform, if_neg hrecord, if_neg (not_not.mpr hpermits), if_neg hsucceeds,
              if_neg hdurable]
          rw [hperform, hfailed]
          exact h.stay
    · have hperform : perform (.commitDelete deletion) o w = (.aborted, w) := by
        simp only [perform, if_neg hrecord, if_pos hpermits]
      rw [hperform, haborted]
      exact h.stay

/-- The ids of recovered creations are dead while the vault is being unlocked. -/
theorem Sound.dead_of_pending (h : Sound w) {id : CredentialId}
    (hrecord : w.records id = some .pending)
    (hstate : w.state = .unlocking) : w.Dead id := by
  refine ⟨(h.regular id).recorded (by simp [hrecord]), ?_,
    fun entry _ _ => .inr fun hauthorizes => ?_⟩
  · by_contra hconfirmed
    exact ((h.regular id).confirmed (by simpa using hconfirmed)).2 hrecord
  · have hopen := hauthorizes.1
    rw [hstate] at hopen
    cases hopen

/-- The credential of a disconnected entry is dead: the entry is its only one. -/
theorem Sound.dead_of_disconnected (h : Sound w)
    {entry : PendingPasskeyCreationKey × PendingPasskeyCreation}
    (hmem : entry ∈ w.pending_passkey_creations) (hdisconnected : entry.2.disconnected = true) :
    w.Dead entry.2.credential_id := by
  have hhome := h.entries.home entry hmem
  refine ⟨by simp [hhome], ?_, fun entry' hmem' hid => .inl ?_⟩
  · by_contra hconfirmed
    have hconnected := (h.entries.confirmed entry hmem (by simpa using hconfirmed)).2
    rw [hdisconnected] at hconnected
    cases hconnected
  · have hhome' := h.entries.home entry' hmem'
    rw [hid, hhome] at hhome'
    rw [h.entries.keyed entry' hmem' entry hmem (Option.some.inj hhome').symm]
    exact hdisconnected

theorem Custody.pendingGet (h : Custody w phase) {key : PendingPasskeyCreationKey} :
    Custody w (Function.update phase t
      ((phase t).next (.pendingGet key) (w.pending_passkey_creations.get key))) := by
  cases hget : w.pending_passkey_creations.get key with
  | none => exact h.stay
  | some expected => exact h.learn (h.sound.entries.home _ (mem_of_get hget))

theorem Custody.pendingFindDisconnected (h : Custody w phase) :
    Custody w (Function.update phase t ((phase t).next .pendingFindDisconnected
      (w.pending_passkey_creations.find? fun entry => entry.2.disconnected))) := by
  cases hfind : w.pending_passkey_creations.find? fun entry => entry.2.disconnected with
  | none => exact h.stay
  | some entry =>
    have hmem := List.mem_of_find?_eq_some hfind
    have hdead := h.sound.dead_of_disconnected hmem (by simpa using List.find?_some hfind)
    refine h.learns fun fact hfact => ?_
    rcases List.mem_cons.mp hfact with rfl | hfact
    · exact .inr hdead
    · rcases List.mem_cons.mp hfact with rfl | hfact
      · exact .inr (h.sound.entries.home entry hmem)
      · exact .inl hfact

theorem Custody.pendingPasskeyCredentialIds (h : Custody w phase) {cancellations : ℕ} :
    Custody (perform (.pendingPasskeyCredentialIds cancellations) o w).2
      (Function.update phase t ((phase t).next (.pendingPasskeyCredentialIds cancellations)
        (perform (.pendingPasskeyCredentialIds cancellations) o w).1)) := by
  by_cases hcond : w.state = .unlocking ∧ w.cancellations = cancellations ∧ o.succeeds = true
  · have hperform : perform (.pendingPasskeyCredentialIds cancellations) o w =
        (some (o.candidates.filter fun id => w.records id = some .pending), w) := if_pos hcond
    rw [hperform]
    refine h.learns fun fact hfact => ?_
    rcases List.mem_append.mp hfact with hfact | hfact
    · obtain ⟨id, hid, rfl⟩ := List.mem_map.mp hfact
      have hrecord : w.records id = some .pending := by simpa using (List.mem_filter.mp hid).2
      exact .inr (h.sound.dead_of_pending hrecord hcond.1)
    · exact .inl hfact
  · have hperform : perform (.pendingPasskeyCredentialIds cancellations) o w = (none, w) :=
      if_neg hcond
    rw [hperform]
    exact h.stay

/-! ### Making and confirming -/

/-- An id that has not been drawn has no history but that of `DeletePasskey`. -/
structure Undrawn (ledger : Ledger) (record : Option PasskeyCreationState) (cache : Bool) :
    Prop where
  record : record = none
  cache : cache = false
  confirmed : ledger.confirmed = false
  withdrawn : ledger.withdrawn = false
  added : ledger.added = false
  deleted : ledger.deleted = false
  created : ledger.created = false

theorem Regular.undrawn {ledger : Ledger} {record : Option PasskeyCreationState} {cache : Bool}
    {entered : Prop} (h : Regular ledger record cache entered) (hhome : ledger.home = none) :
    Undrawn ledger record cache := by
  have hadded : ledger.added = false := by
    by_contra hne
    exact h.added (by simpa using hne) hhome
  have hconfirmed : ledger.confirmed = false := by
    by_contra hne
    exact (h.confirmed (by simpa using hne)).1 hhome
  refine ⟨?_, ?_, hconfirmed, ?_, hadded, ?_, ?_⟩
  · by_contra hne
    exact h.recorded hne hhome
  · by_contra hne
    have := h.cached (by simpa using hne)
    rw [hadded] at this
    cases this
  · by_contra hne
    exact h.withdrawn (by simpa using hne) hhome
  · by_contra hne
    exact (h.deleted (by simpa using hne)).1 hhome
  · by_contra hne
    have := (h.created (by simpa using hne)).1
    rw [hconfirmed] at this
    cases this

/-- An entry that belongs to its credential takes its place. -/
theorem Entries.insert (h : Entries w) {key : PendingPasskeyCreationKey}
    {creation : PendingPasskeyCreation}
    (hhome : (w.ledger creation.credential_id).home = some key)
    (hepoch : creation.unlock_epoch ≤ w.epoch)
    (hconfirmed : (w.ledger creation.credential_id).confirmed = creation.confirmed)
    (hdisconnected : creation.disconnected = false) :
    Entries (w.setPending (w.pending_passkey_creations.insert key creation)) where
  keyed a ha b hb hkey := by
    rcases mem_insert.mp ha with ⟨ha, hne⟩ | rfl <;> rcases mem_insert.mp hb with ⟨hb, hne'⟩ | rfl
    · exact h.keyed a ha b hb hkey
    · exact absurd hkey hne
    · exact absurd hkey.symm hne'
    · rfl
  home entry hentry := by
    rcases mem_insert.mp hentry with ⟨hmem, -⟩ | rfl
    · exact h.home entry hmem
    · exact hhome
  epoch entry hentry := by
    rcases mem_insert.mp hentry with ⟨hmem, -⟩ | rfl
    · exact h.epoch entry hmem
    · exact hepoch
  confirmed entry hentry hid := by
    rcases mem_insert.mp hentry with ⟨hmem, -⟩ | rfl
    · exact h.confirmed entry hmem hid
    · exact ⟨hconfirmed.symm.trans hid, hdisconnected⟩
  noted entry hentry hid := by
    rcases mem_insert.mp hentry with ⟨hmem, -⟩ | rfl
    · exact h.noted entry hmem hid
    · exact hconfirmed.trans hid

/-- A thread fits after a step that adds nothing to the cache and asks for no rollback. -/
theorem Phase.Fits.later {w' : World} {φ : Phase} (h : φ.Fits w) (hlater : Later w w')
    (hcache : w'.cache = w.cache) (hconnected : w'.connected = w.connected)
    (hrequested : w'.requested = w.requested)
    (hwithdrawn : ∀ id, (w'.ledger id).withdrawn = (w.ledger id).withdrawn)
    (hadded : ∀ id, (w'.ledger id).added = (w.ledger id).added)
    (hhome : ∀ id key, (w'.ledger id).home = some key → (w.ledger id).home = some key ∨
      (φ.making ≠ some key.connection_id ∧ (w.ledger id).added = false ∧
        (w.ledger id).withdrawn = false)) : φ.Fits w' where
  facts fact hfact := hlater.holds (h.facts fact hfact)
  connection c hc := by
    rw [hconnected]
    exact h.connection c hc
  credential id hid := by
    obtain ⟨hnot, key, hkey, hconnection⟩ := h.credential id hid
    rw [hwithdrawn]
    exact ⟨hnot, key, hlater.home id key hkey, hconnection⟩
  waiting id key hstage hid hconnection := by
    rw [hadded, hwithdrawn]
    rcases hhome id key hid with hwas | ⟨-, hnew⟩
    · exact h.waiting id key hstage hwas hconnection
    · exact hnew
  held id hid := by
    rw [hadded]
    exact h.held id hid
  entered id hid := by
    rw [hcache]
    exact (h.entered id hid).imp_right (Or.imp (hlater.targeted id) (hlater.dead id))
  acked id hid := hlater.confirmed id (h.acked id hid)
  making c hc := by
    obtain ⟨hfirst, hopen, hhomes⟩ := h.making c hc
    rw [hrequested, hconnected]
    refine ⟨hfirst, hopen, fun id key hid => ?_⟩
    rcases hhome id key hid with hwas | ⟨hother, -⟩
    · exact hhomes id key hwas
    · rintro rfl
      exact hother hc

theorem World.mark_flag {β : Type} {id : CredentialId} {present : Bool} {f : Ledger → Ledger}
    (flag : Ledger → β) (hf : flag (f (w.ledger id)) = flag (w.ledger id)) (id' : CredentialId) :
    flag ((w.mark id present f).ledger id') = flag (w.ledger id') :=
  World.mark_keeps (P := fun l => flag l = flag (w.ledger id')) (fun hid => hf.trans hid) id' rfl

/-- The vault with a record that has just been made. -/
def World.made (w : World) (id : CredentialId) (key : PendingPasskeyCreationKey) : World :=
  (w.setRecord id (some .pending)).note id fun ledger => { ledger with home := some key }

section

variable {id : CredentialId} {key : PendingPasskeyCreationKey} {pending : PendingPasskeyCreations}

theorem World.made_ledger :
    (w.made id key).ledger = (w.mark id (w.cache id) fun ledger =>
      { ledger with home := some key }).ledger := by
  rw [← World.note_eq_mark]
  rfl

theorem World.made_home_self : ((w.made id key).ledger id).home = some key := by
  rw [World.made_ledger, World.mark_ledger_self]

theorem World.made_ledger_of_ne {id' : CredentialId} (h : id' ≠ id) :
    (w.made id key).ledger id' = w.ledger id' := by
  rw [World.made_ledger, World.mark_ledger_of_ne h]

theorem World.made_flag {β : Type} (flag : Ledger → β)
    (hf : flag { w.ledger id with home := some key } = flag (w.ledger id)) (id' : CredentialId) :
    flag ((w.made id key).ledger id') = flag (w.ledger id') := by
  rw [World.made_ledger]
  exact World.mark_flag flag hf id'

/-- A record is made under an id that has not been drawn, with its entry or without. -/
theorem Custody.make (h : Custody w phase) {facts : List Fact}
    (hundrawn : (w.ledger id).home = none) (hmaking : (phase t).making = some key.connection_id)
    (hentries : Entries ((w.made id key).setPending pending))
    (hpending : ∀ entry ∈ pending, entry ∈ w.pending_passkey_creations ∨
      entry.2.credential_id = id)
    (hkept : ∀ entry ∈ w.pending_passkey_creations, entry ∈ pending)
    (hfacts : ∀ fact ∈ facts, fact ∈ (phase t).facts ∨ fact = .home id key) :
    Custody ((w.made id key).setPending pending)
      (Function.update phase t { phase t with making := none, facts := facts }) := by
  obtain ⟨hrequested, hconnected, hhomes⟩ := (h.fits t).making _ hmaking
  have hnew := (h.sound.regular id).undrawn hundrawn
  have hne : ∀ {id' : CredentialId}, (w.ledger id').home ≠ none → id' ≠ id := by
    rintro id' hhome rfl
    exact hhome hundrawn
  have hledger : ((w.made id key).setPending pending).ledger = (w.made id key).ledger := rfl
  have hrecords : ∀ id' ≠ id, ((w.made id key).setPending pending).records id' = w.records id' :=
    fun id' hid => Function.update_of_ne hid _ _
  have hentered : ∀ id', w.Entered id' → ((w.made id key).setPending pending).Entered id' :=
    fun id' ⟨entry, hmem, hid⟩ => ⟨entry, hkept entry hmem, hid⟩
  have hlater : Later w ((w.made id key).setPending pending) := {
    home := fun id' key' hid => by
      rw [hledger, World.made_ledger_of_ne (hne (by simp [hid]))]
      exact hid
    confirmed := fun id' hid => (World.made_flag Ledger.confirmed rfl id').trans hid
    withdrawn := fun id' hid => (World.made_flag Ledger.withdrawn rfl id').trans hid
    targeted := fun id' hid => (World.made_flag Ledger.targeted rfl id').trans hid
    created := fun id' hid => (World.made_flag Ledger.created rfl id').trans hid
    dead := fun id' hid => by
      have hid' := hne hid.1
      refine ⟨?_, ?_, fun entry hentry hcredential => ?_⟩
      · rw [hledger, World.made_ledger_of_ne hid']
        exact hid.1
      · rw [hledger, World.made_ledger_of_ne hid']
        exact hid.2.1
      · rcases hpending entry hentry with hold | hself
        · exact hid.2.2 entry hold hcredential
        · exact absurd (hcredential.symm.trans hself) hid'
    cleared := fun id' hid => by
      unfold World.Cleared
      rw [hledger, World.made_flag Ledger.overtaken rfl, World.made_flag Ledger.early rfl,
        World.made_flag Ledger.added rfl]
      exact hid
    gone := fun id' hid => by
      have hid' := hne hid.1
      refine ⟨?_, (hrecords id' hid').trans hid.2⟩
      rw [hledger, World.made_ledger_of_ne hid']
      exact hid.1 }
  have hhome : ∀ id' key', ((w.made id key).ledger id').home = some key' →
      (w.ledger id').home = some key' ∨ (id' = id ∧ key' = key) := by
    intro id' key' hid
    by_cases heq : id' = id
    · subst heq
      rw [World.made_home_self] at hid
      exact .inr ⟨rfl, (Option.some.inj hid).symm⟩
    · rw [World.made_ledger_of_ne heq] at hid
      exact .inl hid
  have hsound : Sound ((w.made id key).setPending pending) := {
    entries := hentries
    homes := {
      requested := fun id' key' hid => by
        rcases hhome id' key' hid with hwas | ⟨-, rfl⟩
        · exact h.sound.homes.requested id' key' hwas
        · exact ⟨hrequested, hconnected⟩
      unique := fun id₁ id₂ key₁ key₂ h₁ h₂ hsame => by
        rcases hhome id₁ key₁ h₁ with hwas₁ | ⟨rfl, rfl⟩ <;>
          rcases hhome id₂ key₂ h₂ with hwas₂ | ⟨rfl, rfl⟩
        · exact h.sound.homes.unique _ _ _ _ hwas₁ hwas₂ hsame
        · exact absurd hsame (hhomes _ _ hwas₁)
        · exact absurd hsame.symm (hhomes _ _ hwas₂)
        · rfl }
    regular := fun id' => by
      by_cases heq : id' = id
      · subst heq
        have hrecord : ((w.made id' key).setPending pending).records id' = some .pending :=
          Function.update_self ..
        have hself : ((w.made id' key).setPending pending).ledger id' =
            { w.ledger id' with home := some key } := by
          rw [hledger, World.made_ledger, World.mark_ledger_self]
        unfold World.Regular
        rw [hrecord, hself]
        exact { h.sound.regular id' with
          recorded := fun _ => by simp
          confirmed := fun hid => by simp [hnew.confirmed] at hid
          withdrawn := fun _ => by simp
          added := fun _ => by simp
          committed := by rintro ⟨⟩
          disposed := by rintro _ ⟨⟩
          gone := by rintro _ ⟨⟩
          deleted := fun hid => by simp [hnew.deleted] at hid }
      · exact (h.sound.regular id').congr (World.made_ledger_of_ne heq) (hrecords id' heq) rfl
          (hentered id')
    wired := { h.sound.wired with
      created := fun c id' hc => by
        obtain ⟨key', hkey', hconnection⟩ := h.sound.wired.created c id' hc
        exact ⟨key', hlater.home id' key' hkey', hconnection⟩
      confirmed := fun c id' hc => hlater.confirmed id' (h.sound.wired.confirmed c id' hc)
      rolled_back := fun c id' hc => hlater.gone id' (h.sound.wired.rolled_back c id' hc)
      withdrawn := fun c id' frame hc hframe =>
        hlater.withdrawn id' (h.sound.wired.withdrawn c id' frame hc hframe) }
    returned := fun r hr => (h.sound.returned r hr).later hlater }
  have hfits : ∀ φ : Phase, φ.Fits w → φ.making ≠ some key.connection_id →
      φ.Fits ((w.made id key).setPending pending) := by
    intro φ hφ hother
    refine hφ.later hlater rfl rfl rfl (World.made_flag Ledger.withdrawn rfl)
      (World.made_flag Ledger.added rfl) fun id' key' hid => ?_
    rcases hhome id' key' hid with hwas | ⟨rfl, rfl⟩
    · exact .inl hwas
    · exact .inr ⟨hother, hnew.added, hnew.withdrawn⟩
  refine h.of hsound (fun t' ht => ?_) ?_ (fun c => .inl) (by rintro _ ⟨⟩)
    (fun id' key' hid hkey => ?_) (fun id' hid => ?_) (fun id' hid => ?_)
  · exact hfits _ (h.fits t') fun hother => ht (h.making t' t _ hother hmaking)
  · have hidle : Phase.Fits { phase t with making := none } w :=
      { h.fits t with making := by rintro _ ⟨⟩ }
    refine { hfits _ hidle (by simp) with facts := fun fact hfact => ?_ }
    rcases hfacts fact hfact with hold | rfl
    · exact hlater.holds ((h.fits t).facts fact hold)
    · exact World.made_home_self
  · have hcreated : (w.ledger id').created = true :=
      (World.made_flag Ledger.created rfl id').symm.trans hid
    rcases hhome id' key' hkey with hwas | ⟨rfl, -⟩
    · exact ⟨h.created id' key' t hcreated hwas, fun t' _ => h.created id' key' t' hcreated hwas⟩
    · rw [hnew.created] at hcreated
      cases hcreated
  · rw [hledger, World.made_flag Ledger.leftover rfl, World.made_flag Ledger.created rfl]
    exact h.cached_split hid
  · rw [hledger, World.made_flag Ledger.targeted rfl] at hid
    rw [hledger, World.made_flag Ledger.deleted rfl, World.made_flag Ledger.undeleted rfl]
    exact h.targeted_split hid

end

theorem Custody.commitMake (h : Custody w phase) {key : PendingPasskeyCreationKey}
    {authenticated_process_id request_epoch : ℕ}
    (hallows : (phase t).Allows (.commitMake key authenticated_process_id request_epoch)) :
    Custody (perform (.commitMake key authenticated_process_id request_epoch) o w).2
      (Function.update phase t
        ((phase t).next (.commitMake key authenticated_process_id request_epoch)
          (perform (.commitMake key authenticated_process_id request_epoch) o w).1)) := by
  have hidle : Custody w (Function.update phase t { phase t with making := none }) := by
    refine h.of h.sound (fun t' _ => h.fits t') { h.fits t with making := by rintro _ ⟨⟩ }
      (fun c => .inl) (by rintro _ ⟨⟩) (fun id key hid hkey => ?_) (fun id => h.cached_split)
      (fun id => h.targeted_split)
    exact ⟨h.created id key t hid hkey, fun t' _ => h.created id key t' hid hkey⟩
  by_cases hcond : w.Authorizes request_epoch ∧ w.closed key.connection_id = false ∧
      (w.ledger o.credential_id).home = none
  · have hepoch := hcond.1.2
    have hundrawn := hcond.2.2
    -- The entries that there are belong to other credentials.
    have hentries : Entries (w.made o.credential_id key) := by
      have hne : ∀ entry ∈ w.pending_passkey_creations,
          entry.2.credential_id ≠ o.credential_id := by
        intro entry hmem heq
        have hhome := h.sound.entries.home entry hmem
        rw [heq, hundrawn] at hhome
        cases hhome
      exact { h.sound.entries with
        home := fun entry hmem => by
          rw [World.made_ledger_of_ne (hne entry hmem)]
          exact h.sound.entries.home entry hmem
        confirmed := fun entry hmem hid => h.sound.entries.confirmed entry hmem
          ((World.made_flag Ledger.confirmed rfl _).symm.trans hid)
        noted := fun entry hmem hid => (World.made_flag Ledger.confirmed rfl _).trans
          (h.sound.entries.noted entry hmem hid) }
    by_cases hsucceeds : o.succeeds = true
    · have hperform : perform (.commitMake key authenticated_process_id request_epoch) o w =
          ((.ok, o.credential_id), (w.made o.credential_id key).setPending
            (w.pending_passkey_creations.insert key
              ⟨o.credential_id, authenticated_process_id, request_epoch, false, false⟩)) := by
        simp only [perform, if_neg (not_not.mpr hcond), if_pos hsucceeds]
        rfl
      rw [hperform]
      have hunconfirmed := ((h.sound.regular o.credential_id).undrawn hundrawn).confirmed
      refine h.make hundrawn hallows (hentries.insert World.made_home_self hepoch.ge
        ((World.made_flag Ledger.confirmed rfl _).trans hunconfirmed) rfl) ?_ ?_ ?_
      · intro entry hmem
        rcases mem_insert.mp hmem with ⟨hold, -⟩ | rfl
        · exact .inl hold
        · exact .inr rfl
      · intro entry hmem
        refine mem_insert.mpr (.inl ⟨hmem, ?_⟩)
        rintro rfl
        exact ((h.fits t).making _ hallows).2.2 _ _ (h.sound.entries.home entry hmem) rfl
      · intro fact hfact
        exact (List.mem_cons.mp hfact).symm
    · by_cases hdurable : o.durable = true
      · have hperform : perform (.commitMake key authenticated_process_id request_epoch) o w =
            ((.failed, o.credential_id), w.made o.credential_id key) := by
          simp only [perform, if_neg (not_not.mpr hcond), if_neg hsucceeds, if_pos hdurable]
          rfl
        rw [hperform]
        exact h.make hundrawn hallows { hentries with } (fun _ => .inl) (fun _ hmem => hmem)
          fun _ => .inl
      · have hperform : perform (.commitMake key authenticated_process_id request_epoch) o w =
            ((.failed, o.credential_id), w) := by
          simp only [perform, if_neg (not_not.mpr hcond), if_neg hsucceeds, if_neg hdurable]
        rw [hperform]
        exact hidle
  · have hperform : perform (.commitMake key authenticated_process_id request_epoch) o w =
        ((.aborted, o.credential_id), w) := by
      simp only [perform, if_pos hcond]
    rw [hperform]
    exact hidle

/-- A record is confirmed, without a note of it: its entry is still there. -/
theorem Custody.confirmRecord (h : Custody w phase) {key : PendingPasskeyCreationKey}
    {expected : PendingPasskeyCreation} (hrecord : w.records expected.credential_id ≠ none)
    (hget : w.pending_passkey_creations.get key = some expected) :
    Custody (w.setRecord expected.credential_id (some .confirmed))
      (Function.update phase t (phase t)) := by
  have hgone : ∀ id, w.Gone id →
      (w.setRecord expected.credential_id (some .confirmed)).Gone id := by
    intro id hid
    have hne : id ≠ expected.credential_id := by
      rintro rfl
      exact hrecord hid.2
    exact ⟨hid.1, (Function.update_of_ne hne _ _).trans hid.2⟩
  have hregular := h.sound.regular expected.credential_id
  refine h.quiet ?_ ⟨rfl, rfl, fun _ hc => hc, fun _ hc => hc, fun _ hid => hid, hgone⟩
    rfl rfl rfl rfl fun _ => .inl
  exact {
    entries := { h.sound.entries with }
    homes := { h.sound.homes with }
    regular := fun id => by
      by_cases heq : id = expected.credential_id
      · subst heq
        have hself : (w.setRecord expected.credential_id (some .confirmed)).records
            expected.credential_id = some .confirmed := Function.update_self ..
        unfold World.Regular
        rw [hself]
        exact { hregular with
          recorded := fun _ => hregular.recorded hrecord
          confirmed := fun hid => ⟨(hregular.confirmed hid).1, by simp⟩
          committed := fun _ => .inr ⟨_, mem_of_get hget, rfl⟩
          disposed := by rintro _ ⟨⟩
          gone := by rintro _ ⟨⟩
          deleted := fun hid => absurd (hregular.deleted hid).2 hrecord }
      · exact (h.sound.regular id).congr rfl (Function.update_of_ne heq _ _) rfl fun hid => hid
    wired := { h.sound.wired with
      rolled_back := fun c id hc => hgone id (h.sound.wired.rolled_back c id hc) }
    returned := fun r hr => { h.sound.returned r hr with
      rolled_back := fun hback => by
        obtain ⟨id, hid, hgone'⟩ := (h.sound.returned r hr).rolled_back hback
        exact ⟨id, hid, hgone id hgone'⟩ } }

/-- The confirmation is noted. -/
def World.confirm (w : World) (key : PendingPasskeyCreationKey)
    (expected : PendingPasskeyCreation) : World :=
  (w.setPending (w.pending_passkey_creations.insert key { expected with confirmed := true })).note
    expected.credential_id fun ledger => { ledger with confirmed := true }

theorem World.confirm_ledger {key : PendingPasskeyCreationKey} {expected : PendingPasskeyCreation} :
    (w.confirm key expected).ledger =
        (w.mark expected.credential_id (w.cache expected.credential_id)
      fun ledger => { ledger with confirmed := true }).ledger := by
  rw [← World.note_eq_mark]
  rfl

/-- A confirmation is noted while its entry lets it, so that the credential is not dead. -/
theorem Custody.noteConfirmed (h : Custody w phase) {key : PendingPasskeyCreationKey}
    {expected : PendingPasskeyCreation}
    (hrecord : w.records expected.credential_id = some .confirmed)
    (hget : w.pending_passkey_creations.get key = some expected)
    (hauthorizes : w.Authorizes expected.unlock_epoch)
        (hdisconnected : expected.disconnected = false) :
    Custody (w.confirm key expected)
      (Function.update phase t ((phase t).learn (.confirmed expected.credential_id))) := by
  have hmem := mem_of_get hget
  have hhome := h.sound.entries.home _ hmem
  have hflag : ∀ {β : Type} (flag : Ledger → β),
      flag { w.ledger expected.credential_id with confirmed := true } =
        flag (w.ledger expected.credential_id) →
      ∀ id, flag ((w.confirm key expected).ledger id) = flag (w.ledger id) := by
    intro β flag hf id
    rw [World.confirm_ledger]
    exact World.mark_flag flag hf id
  have hself : ((w.confirm key expected).ledger expected.credential_id) =
      { w.ledger expected.credential_id with confirmed := true } := by
    rw [World.confirm_ledger, World.mark_ledger_self]
  have hother : ∀ id ≠ expected.credential_id,
      (w.confirm key expected).ledger id = w.ledger id := by
    intro id hid
    rw [World.confirm_ledger, World.mark_ledger_of_ne hid]
  have hentered : ∀ id, w.Entered id → (w.confirm key expected).Entered id := by
    rintro id ⟨entry, hentry, rfl⟩
    by_cases hkey : entry.1 = key
    · refine ⟨(key, { expected with confirmed := true }), mem_insert.mpr (.inr rfl), ?_⟩
      exact (h.sound.entry_eq hhome hentry hkey).symm
    · exact ⟨entry, mem_insert.mpr (.inl ⟨hentry, hkey⟩), rfl⟩
  have hlater : Later w (w.confirm key expected) := {
    home := fun id key' hid => (hflag Ledger.home rfl id).trans hid
    confirmed := fun id hid => by
      by_cases heq : id = expected.credential_id
      · rw [heq, hself]
      · rw [hother id heq]
        exact hid
    withdrawn := fun id hid => (hflag Ledger.withdrawn rfl id).trans hid
    targeted := fun id hid => (hflag Ledger.targeted rfl id).trans hid
    created := fun id hid => (hflag Ledger.created rfl id).trans hid
    dead := fun id hid => by
      have hne : id ≠ expected.credential_id := by
        rintro rfl
        rcases hid.2.2 _ hmem rfl with hgone | hbarred
        · rw [hdisconnected] at hgone
          cases hgone
        · exact hbarred hauthorizes
      refine ⟨?_, ?_, fun entry hentry hcredential => ?_⟩
      · rw [hother id hne]
        exact hid.1
      · rw [hother id hne]
        exact hid.2.1
      · rcases mem_insert.mp hentry with ⟨hold, -⟩ | rfl
        · exact hid.2.2 entry hold hcredential
        · exact absurd hcredential.symm hne
    cleared := fun id hid => by
      unfold World.Cleared
      rw [hflag Ledger.overtaken rfl, hflag Ledger.early rfl, hflag Ledger.added rfl]
      exact hid
    gone := fun id hid => by
      refine ⟨?_, hid.2⟩
      rw [hflag Ledger.home rfl]
      exact hid.1 }
  have hregular := h.sound.regular expected.credential_id
  have hsound : Sound (w.confirm key expected) := {
    entries := by
      constructor
      · intro a ha b hb hkey
        rcases mem_insert.mp ha with ⟨ha, hne⟩ | rfl <;>
          rcases mem_insert.mp hb with ⟨hb, hne'⟩ | rfl
        · exact h.sound.entries.keyed a ha b hb hkey
        · exact absurd hkey hne
        · exact absurd hkey.symm hne'
        · rfl
      · intro entry hentry
        rw [hflag Ledger.home rfl]
        rcases mem_insert.mp hentry with ⟨hold, -⟩ | rfl
        · exact h.sound.entries.home entry hold
        · exact hhome
      · intro entry hentry
        rcases mem_insert.mp hentry with ⟨hold, -⟩ | rfl
        · exact h.sound.entries.epoch entry hold
        · exact h.sound.entries.epoch (key, expected) hmem
      · intro entry hentry hid
        rcases mem_insert.mp hentry with ⟨hold, hkey⟩ | rfl
        · have hne : entry.2.credential_id ≠ expected.credential_id := by
            intro heq
            have hhome' := h.sound.entries.home entry hold
            rw [heq, hhome] at hhome'
            exact hkey (Option.some.inj hhome').symm
          rw [hother _ hne] at hid
          exact h.sound.entries.confirmed entry hold hid
        · exact ⟨rfl, hdisconnected⟩
      · intro entry hentry hid
        rcases mem_insert.mp hentry with ⟨hold, -⟩ | rfl
        · exact hlater.confirmed _ (h.sound.entries.noted entry hold hid)
        · show ((w.confirm key expected).ledger expected.credential_id).confirmed = true
          rw [hself]
    homes := {
      requested := fun id key' hid => h.sound.homes.requested id key'
        ((hflag Ledger.home rfl id).symm.trans hid)
      unique := fun id₁ id₂ key₁ key₂ h₁ h₂ => h.sound.homes.unique id₁ id₂ key₁ key₂
        ((hflag Ledger.home rfl id₁).symm.trans h₁) ((hflag Ledger.home rfl id₂).symm.trans h₂) }
    regular := fun id => by
      by_cases heq : id = expected.credential_id
      · subst heq
        have hsame : (w.confirm key expected).records expected.credential_id = some .confirmed :=
          hrecord
        unfold World.Regular
        rw [hself, hsame]
        exact { hregular with
          recorded := fun _ => hregular.recorded (by simp [hrecord])
          confirmed := fun _ => ⟨hregular.recorded (by simp [hrecord]), by simp⟩
          committed := fun _ => .inl rfl
          disposed := by rintro _ ⟨⟩
          gone := by rintro _ ⟨⟩
          deleted := fun hid => by
            have hnone := (hregular.deleted hid).2
            rw [hrecord] at hnone
            cases hnone
          created := fun hid => ⟨rfl, (hregular.created hid).2⟩ }
      · exact (h.sound.regular id).congr (hother id heq) rfl rfl (hentered id)
    wired := { h.sound.wired with
      created := fun c id hc => by
        obtain ⟨key', hkey', hconnection⟩ := h.sound.wired.created c id hc
        exact ⟨key', hlater.home id key' hkey', hconnection⟩
      confirmed := fun c id hc => hlater.confirmed id (h.sound.wired.confirmed c id hc)
      rolled_back := fun c id hc => hlater.gone id (h.sound.wired.rolled_back c id hc)
      withdrawn := fun c id frame hc hframe =>
        hlater.withdrawn id (h.sound.wired.withdrawn c id frame hc hframe) }
    returned := fun r hr => (h.sound.returned r hr).later hlater }
  have hfits : ∀ t', (phase t').Fits (w.confirm key expected) := fun t' =>
    (h.fits t').later hlater rfl rfl rfl (hflag Ledger.withdrawn rfl) (hflag Ledger.added rfl)
      fun id key' hid => .inl ((hflag Ledger.home rfl id).symm.trans hid)
  refine h.of hsound (fun t' _ => hfits t') ?_ (fun c => .inl) (fun c => .inl)
    (fun id key' hid hkey => ?_) (fun id hid => ?_) (fun id hid => ?_)
  · refine { hfits t with facts := fun fact hfact => ?_ }
    rcases List.mem_cons.mp hfact with rfl | hfact
    · show ((w.confirm key expected).ledger expected.credential_id).confirmed = true
      rw [hself]
    · exact (hfits t).facts fact hfact
  · have hcreated : (w.ledger id).created = true := (hflag Ledger.created rfl id).symm.trans hid
    have hkey' : (w.ledger id).home = some key' := (hflag Ledger.home rfl id).symm.trans hkey
    exact ⟨h.created id key' t hcreated hkey', fun t' _ => h.created id key' t' hcreated hkey'⟩
  · rw [hflag Ledger.leftover rfl, hflag Ledger.created rfl]
    exact h.cached_split hid
  · rw [hflag Ledger.targeted rfl] at hid
    rw [hflag Ledger.deleted rfl, hflag Ledger.undeleted rfl]
    exact h.targeted_split hid

theorem Custody.commitConfirm (h : Custody w phase) {key : PendingPasskeyCreationKey}
    {expected : PendingPasskeyCreation}
    (hallows : (phase t).Allows (.commitConfirm key expected)) :
    Custody (perform (.commitConfirm key expected) o w).2
      (Function.update phase t ((phase t).next (.commitConfirm key expected)
        (perform (.commitConfirm key expected) o w).1)) := by
  by_cases hrecord : w.records expected.credential_id = none
  · have hperform : perform (.commitConfirm key expected) o w = (.notFound, w) := if_pos hrecord
    rw [hperform]
    exact h.stay
  · by_cases hcond : w.Authorizes expected.unlock_epoch ∧ w.closed key.connection_id = false ∧
        w.pending_passkey_creations.get key = some expected
    · have hget := hcond.2.2
      have hconfirmed := h.confirmRecord (t := t) hrecord hget
      by_cases hsucceeds : o.succeeds = true
      · have hperform : perform (.commitConfirm key expected) o w =
            (.ok, (w.setRecord expected.credential_id (some .confirmed)).confirm key expected) := by
          simp only [perform, if_neg hrecord, if_neg (not_not.mpr hcond), if_pos hsucceeds]
          rfl
        rw [hperform]
        rw [Function.update_eq_self] at hconfirmed
        exact hconfirmed.noteConfirmed (Function.update_self ..) hget hcond.1 hallows
      · by_cases hdurable : o.durable = true
        · have hperform : perform (.commitConfirm key expected) o w =
              (.failed, w.setRecord expected.credential_id (some .confirmed)) := by
            simp only [perform, if_neg hrecord, if_neg (not_not.mpr hcond), if_neg hsucceeds,
              if_pos hdurable]
          rw [hperform]
          exact hconfirmed
        · have hperform : perform (.commitConfirm key expected) o w = (.failed, w) := by
            simp only [perform, if_neg hrecord, if_neg (not_not.mpr hcond), if_neg hsucceeds,
              if_neg hdurable]
          rw [hperform]
          exact h.stay
    · have hperform : perform (.commitConfirm key expected) o w = (.aborted, w) := by
        simp only [perform, if_neg hrecord, if_pos hcond]
      rw [hperform]
      exact h.stay

/-! ## All steps -/

/-- A change of the lifecycle or of the gate. -/
theorem Custody.lifecycle (h : Custody w phase) {state : AgentState} {epoch cancellations : ℕ}
    (hepoch : w.epoch ≤ epoch)
    (hclosed : state = .unlocked → (w.state = .unlocked ∧ w.epoch = epoch) ∨ w.epoch < epoch) :
    Custody { w with state := state, epoch := epoch, cancellations := cancellations }
      (Function.update phase t (phase t)) :=
  h.quiet (h.sound.lifecycle hepoch) (Quiet.lifecycle h.sound.entries hclosed) rfl rfl rfl rfl
    fun _ => .inl

theorem Custody.gate (h : Custody w phase) {gate : Gate} {operating : Bool}
    {active_transaction : Option TransactionId} {active_cancelled cancel_answered : Bool} :
    Custody { w with
        operating := operating
        active_transaction := active_transaction
        active_cancelled := active_cancelled
        cancel_answered := cancel_answered }
      (Function.update phase t { phase t with gate := gate }) :=
  h.quiet h.sound.gate Quiet.gate rfl rfl rfl rfl fun _ => .inl

/-- A thread without a connection has nothing in the cache. -/
theorem Custody.entered_of_connection (h : Custody w phase) (hnone : (phase t).connection = none) :
    (phase t).stage.entered = none := by
  by_contra hne
  obtain ⟨id, hid⟩ := Option.ne_none_iff_exists'.mp hne
  obtain ⟨-, key, -, hconnection⟩ := (h.fits t).credential id (credential_of_entered hid)
  rw [hnone] at hconnection
  cases hconnection

/-- Every action that the discipline allows keeps custody. -/
theorem Custody.perform (h : Custody w phase) {a : Action} (hallows : (phase t).Allows a) :
    Custody (perform a o w).2
      (Function.update phase t ((phase t).next a (perform a o w).1)) := by
  cases a with
  | loadState => exact h.stay
  | loadEpoch => exact h.stay
  | loadCancellations => exact h.stay
  | check => exact h.stay
  | isActiveCancelled => exact h.stay
  | lock => exact h.lifecycle (Nat.le_succ _) (by rintro ⟨⟩)
  | setLocked => exact h.lifecycle le_rfl (by rintro ⟨⟩)
  | publishFailure => exact h.lifecycle (Nat.le_succ _) (by rintro ⟨⟩)
  | beginUnlock =>
    by_cases hcond : w.state = .locked ∧ o.succeeds = true
    · rw [show Provider.perform .beginUnlock o w = (true, { w with state := .unlocking }) from
        if_pos hcond]
      exact h.lifecycle le_rfl (by rintro ⟨⟩)
    · rw [show Provider.perform .beginUnlock o w = (false, w) from if_neg hcond]
      exact h.stay
  | publishUnlock cancellations =>
    by_cases hcond : w.state = .unlocking ∧ w.cancellations = cancellations ∧ o.succeeds = true
    · rw [show Provider.perform (.publishUnlock cancellations) o w =
        (true, { w with state := .unlocked, epoch := w.epoch + 1 }) from if_pos hcond]
      exact h.lifecycle (Nat.le_succ _) fun _ => .inr (Nat.lt_succ_self _)
    · rw [show Provider.perform (.publishUnlock cancellations) o w = (false, w) from if_neg hcond]
      exact h.stay
  | connect =>
    by_cases hcond : w.connected o.connection_id = false ∧ o.succeeds = true
    · rw [show Provider.perform .connect o w = (some (o.connection_id, w.epoch), { w with
        connected := Function.update w.connected o.connection_id true }) from if_pos hcond]
      exact h.connect hcond.1 (h.entered_of_connection hallows)
    · rw [show Provider.perform .connect o w = (none, w) from if_neg hcond]
      exact h.stay
  | send c frame => exact h.send hallows
  | takeRequest c => exact h.takeRequest
  | reply c request reply => exact h.reply hallows
  | receive c request => exact h.receive hallows
  | closeConnection c =>
    exact h.quiet h.sound.closeConnection Quiet.closeConnection rfl rfl rfl rfl fun _ => .inl
  | pendingGet key => exact h.pendingGet
  | pendingFindDisconnected => exact h.pendingFindDisconnected
  | pendingRemove key =>
    obtain ⟨id, hgone, hhome⟩ := hallows
    exact h.remove ((h.fits t).facts _ hhome) ((h.fits t).facts _ hgone) fun _ => .inl
  | pendingPasskeyCredentialIds cancellations => exact h.pendingPasskeyCredentialIds
  | commitMake key authenticated_process_id request_epoch => exact h.commitMake hallows
  | commitConfirm key expected => exact h.commitConfirm hallows
  | commitDelete deletion => exact h.commitDelete hallows
  | addCredentials id =>
    by_cases hcond : o.succeeds = true
    · rw [show Provider.perform (.addCredentials id) o w =
        (true, w.mark id true fun ledger => { ledger with added := true }) from if_pos hcond]
      exact h.enter hallows
    · rw [show Provider.perform (.addCredentials id) o w = (false, w) from if_neg hcond]
      exact h.stay
  | removeCredentials id =>
    by_cases hcond : o.succeeds = true
    · rw [show Provider.perform (.removeCredentials id) o w = (true, w.setCache id false) from
        if_pos hcond, World.setCache_eq_mark]
      exact h.abandon (w.ledger id).leftover hallows (by rintro ⟨⟩)
    · rw [show Provider.perform (.removeCredentials id) o w = (false, w.note id fun ledger =>
        { ledger with leftover := ledger.leftover || w.cache id }) from if_neg hcond,
        World.note_eq_mark]
      exact h.abandon ((w.ledger id).leftover || w.cache id) hallows
        fun hcache => ⟨hcache, by simp [hcache]⟩
  | removeCachedCredential id =>
    by_cases hcond : o.succeeds = true
    · rw [show Provider.perform (.removeCachedCredential id) o w = (true, w.mark id false
        fun ledger => { ledger with overtaken := ledger.overtaken || !ledger.added }) from
        if_pos hcond]
      exact h.clean (hallows.imp ((h.fits t).facts _) ((h.fits t).facts _))
    · rw [show Provider.perform (.removeCachedCredential id) o w = (false, w) from if_neg hcond]
      exact h.stay
  | removeCachedPasskey id =>
    by_cases hcond : o.succeeds = true
    · rw [show Provider.perform (.removeCachedPasskey id) o w = (true, w.mark id false
        fun ledger => { ledger with targeted := true, early := ledger.early || !ledger.added })
        from if_pos hcond]
      exact h.target hallows
    · rw [show Provider.perform (.removeCachedPasskey id) o w = (false, w) from if_neg hcond]
      exact h.stay
  | enterOperation =>
    by_cases hcond : w.operating = true
    · rw [show Provider.perform .enterOperation o w = (false, w) from if_pos hcond]
      exact h.stay
    · rw [show Provider.perform .enterOperation o w = (true, { w with operating := true }) from
        if_neg hcond]
      exact h.gate
  | leaveOperation => exact h.gate
  | beginTransaction transaction_id => exact h.gate
  | complete =>
    by_cases hcond : w.active_transaction = none ∨ w.active_cancelled = true
    · rw [show Provider.perform .complete o w = (false, w) from if_pos hcond]
      exact h.stay
    · rw [show Provider.perform .complete o w = (true, { w with
        active_transaction := none, active_cancelled := false }) from if_neg hcond]
      exact h.gate
  | endTransaction => exact h.gate
  | cancelOperation transaction_id =>
    by_cases hcond : w.active_transaction = some transaction_id
    · rw [show Provider.perform (.cancelOperation transaction_id) o w = (true, { w with
        active_cancelled := true, cancel_answered := true }) from if_pos hcond]
      exact h.gate
    · rw [show Provider.perform (.cancelOperation transaction_id) o w = (false, w) from
        if_neg hcond]
      exact h.stay
  | returned outcome => exact h.returned hallows
  | reportDeletion id succeeded =>
    rw [show Provider.perform (.reportDeletion id succeeded) o w = ((), w.note id fun ledger =>
      if succeeded then { ledger with deleted := true } else { ledger with undeleted := true })
      from rfl, World.note_eq_mark]
    exact h.report hallows.1 fun hid => (h.fits t).facts _ (hallows.2 hid)

end

end Librarian.Provider
