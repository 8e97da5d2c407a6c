import Librarian.Agent.Disclosure
import Librarian.Agent.Filling
import Librarian.Agent.Unlocking
import Librarian.Core.VaultRun

/-!
# When a credential is handed to the browser

The two requests of a browser, followed from their admission to their answers. The first offers an
account and leaves a lease; the second redeems the lease, reads the account again, and discloses it
if under the commit gate the generation of the accounts is still that of the lease and the lease
has not expired. The other operations offer and redeem nothing.
-/

namespace Librarian.Agent

open Conc Librarian.Core Librarian.Protocol

variable {P : Primitives} {α β : Type}

/-! ## Glances -/

/-- Reads that decide whether a request goes on. -/
def Action.Glance : Action P → Prop
  | .loadState | .loadEpoch | .loadActive _ | .isCancelled _ | .now | .ask _ => True
  | _ => False

/-- Nothing is lost between two phases of a thread, and its section goes on. -/
structure Stays (φ φ' : Option Seen × Filling P) : Prop where
  request : φ'.2.request = φ.2.request
  lease : φ'.2.lease = φ.2.lease
  found : φ'.2.found = φ.2.found
  vault : φ'.2.vault = φ.2.vault
  section_eq : φ'.1.isSome = φ.1.isSome

theorem Stays.refl (φ : Option Seen × Filling P) : Stays φ φ := ⟨rfl, rfl, rfl, rfl, rfl⟩

theorem Stays.trans {φ₁ φ₂ φ₃ : Option Seen × Filling P} (h : Stays φ₁ φ₂) (h' : Stays φ₂ φ₃) :
    Stays φ₁ φ₃ :=
  ⟨h'.request.trans h.request, h'.lease.trans h.lease, h'.found.trans h.found,
    h'.vault.trans h.vault, h'.section_eq.trans h.section_eq⟩

section

variable {H : Finset Mutex} {φ : Option Seen × Filling P} {context : RequestContext}
  {R : α → Prop} {R' : β → Prop}

/-- An action that says nothing about a browser's request. -/
theorem stays_next {a : Action P} (hnext : ∀ (ψ : Filling P) r, (ψ.next a r).request = ψ.request ∧
      (ψ.next a r).lease = ψ.lease ∧ (ψ.next a r).found = ψ.found ∧ (ψ.next a r).vault = ψ.vault)
    (r : a.Result) : Stays φ ((filling P).next φ a r) := by
  obtain ⟨hrequest, hlease, hfound, hvault⟩ := hnext φ.2 r
  exact ⟨hrequest, hlease, hfound, hvault, Option.isSome_map⟩

theorem Action.Glance.stays {a : Action P} (h : a.Glance) (r : a.Result) :
    Stays φ ((filling P).next φ a r) := by
  cases a with
  | loadState | loadEpoch | loadActive | isCancelled | now | ask =>
    exact stays_next (fun _ _ => ⟨rfl, rfl, rfl, rfl⟩) r
  | _ => exact h.elim

theorem Action.Glance.guard {a : Action P} (h : a.Glance) : a.guard = ∅ := by
  cases a with
  | loadState | loadEpoch | loadActive | isCancelled | now | ask => rfl
  | _ => exact h.elim

theorem Action.Glance.allows {a : Action P} (h : a.Glance) {seen : Option Seen} {ψ : Filling P} :
    ψ.allows seen a := by
  cases a with
  | loadState | loadEpoch | loadActive | isCancelled | now | ask => trivial
  | _ => exact h.elim

/-- A part of the code only looks, and ends with a result that satisfies `R`. -/
def Glances (p : Code P α) (R : α → Prop) : Prop :=
  ∀ φ H, wp (filling P) p (fun a φ' H' => Stays φ φ' ∧ H' = H ∧ R a) φ H

theorem glances_ret {a : α} (h : R a) : Glances (.ret a : Code P α) R :=
  fun φ _ => ⟨Stays.refl φ, rfl, h⟩

/-- A part that only looks, and then the rest. -/
theorem Glances.followed {p : Code P α} {f : α → Code P β}
    {Q : β → Option Seen × Filling P → Finset Mutex → Prop} (hp : Glances p R)
    (hf : ∀ a φ', R a → Stays φ φ' → wp (filling P) (f a) Q φ' H) :
    wp (filling P) (p.bind f) Q φ H := by
  refine wp.seq (hp φ H) fun a φ' H' hφ' => ?_
  obtain ⟨hstays, rfl, hresult⟩ := hφ'
  exact hf a φ' hresult hstays

theorem glances_call {a : Action P} {k : a.Result → Code P α} (ha : a.Glance)
    (hk : ∀ r, Glances (k r) R) : Glances (.call a k) R := by
  refine fun φ H => ⟨⟨ha.guard ▸ Finset.empty_subset H, ha.allows⟩, fun r => ?_⟩
  refine wp_mono (hk r _ H) fun _ _ _ hφ' => ?_
  exact ⟨(ha.stays r).trans hφ'.1, hφ'.2⟩

theorem Glances.seq {p : Code P α} {f : α → Code P β} (hp : Glances p R)
    (hf : ∀ a, R a → Glances (f a) R') : Glances (p.bind f) R' := by
  refine fun φ H => hp.followed fun a φ' hresult hstays => ?_
  exact wp_mono (hf a hresult φ' H) fun _ _ _ hφ' => ⟨hstays.trans hφ'.1, hφ'.2⟩

theorem glances_ite {c : Prop} [Decidable c] {p q : Code P α} (hp : c → Glances p R)
    (hq : ¬c → Glances q R) : Glances (if c then p else q) R :=
  fun φ H => (wp_ite (M := machine P)).mpr ⟨fun h => hp h φ H, fun h => hq h φ H⟩

/-! ### Checks -/

/-- An outcome is a failure. -/
def ExecutionOutcome.Fails (outcome : ExecutionOutcome) : Prop := outcome.error.isSome = true

/-- The result of an operation is no success. -/
def Unsuccessful (outcome : Outcome) : Prop := ∀ result, outcome = .ok result → result.Fails

theorem unsuccessful_ok {outcome : ExecutionOutcome} (h : outcome.Fails) :
    Unsuccessful (.ok outcome) := by
  rintro result ⟨⟩
  exact h

theorem unsuccessful_error {e : DispatchError} : Unsuccessful (.error e) := by
  rintro result ⟨⟩

theorem mapAccountError_fails (error : AccountError) : (mapAccountError error).Fails := by
  cases error <;> rfl

theorem pastDeadline_glances {deadline : ℕ} :
    Glances (pastDeadline deadline : Code P Bool) fun _ => True :=
  glances_call trivial fun _ => glances_ret trivial

theorem notUnlockedAt_glances {unlock_epoch : ℕ} :
    Glances (notUnlockedAt unlock_epoch : Code P Bool) fun _ => True := by
  refine glances_call trivial fun state => glances_ite (fun _ => glances_ret trivial) fun _ => ?_
  exact glances_call trivial fun epoch => glances_ret trivial

theorem preSecretOperation_glances :
    Glances (preSecretOperation context : Code P _) fun outcome => ∀ failure ∈ outcome,
      failure.Fails := by
  have hleave {outcome : ExecutionOutcome} (h : outcome.Fails) :
      Glances (.ret (some outcome) : Code P _) fun outcome => ∀ failure ∈ outcome, failure.Fails :=
    glances_ret fun failure hmem => Option.some.inj hmem ▸ h
  refine glances_call trivial fun active => glances_ite (fun _ => hleave rfl) fun _ => ?_
  refine glances_call trivial fun cancelled => glances_ite (fun _ => hleave rfl) fun _ => ?_
  refine pastDeadline_glances.seq fun late _ => glances_ite (fun _ => hleave rfl) fun _ => ?_
  refine notUnlockedAt_glances.seq fun outdated _ => glances_ite (fun _ => hleave rfl) fun _ => ?_
  exact glances_ret fun failure hmem => by cases hmem

/-- The check after the core drops the session when the agent has been locked meanwhile. -/
theorem wp_postSecretOperation_filling (hvault : .vault ∈ H) :
    wp (filling P) (postSecretOperation context) (fun outcome φ' H' => Stays φ φ' ∧ H' = H ∧
      ∀ failure ∈ outcome, failure.Fails) φ H := by
  have hlocked : Glances (lockedMeanwhile context.unlock_epoch : Code P Bool) fun _ => True :=
    glances_call trivial fun active => glances_ite (fun _ => glances_ret trivial) fun _ =>
      notUnlockedAt_glances
  have hleave {outcome : ExecutionOutcome} (h : outcome.Fails) :
      Glances (.ret (some outcome) : Code P _) fun outcome => ∀ failure ∈ outcome, failure.Fails :=
    glances_ret fun failure hmem => Option.some.inj hmem ▸ h
  refine hlocked.followed fun locked φ₁ _ h₁ => (wp_ite (M := machine P)).mpr
    ⟨fun _ => ?_, fun _ => ?_⟩
  · have hdropped : Stays φ₁ ((filling P).next φ₁ (.vaultLock : Action P) ()) :=
      stays_next (fun _ _ => ⟨rfl, rfl, rfl, rfl⟩) _
    refine ⟨⟨by simpa [Action.guard] using hvault, trivial⟩, fun _ => ?_⟩
    refine ⟨⟨Finset.empty_subset _, trivial⟩, fun _ => ⟨h₁.trans (hdropped.trans ?_), rfl, ?_⟩⟩
    · exact stays_next (fun _ _ => ⟨rfl, rfl, rfl, rfl⟩) _
    · exact fun failure hmem => Option.some.inj hmem ▸ rfl
  · have hrest : Glances (do
        if ← act (.isCancelled context.key) then return some ExecutionOutcome.cancelled
        if ← pastDeadline context.deadline then return some ExecutionOutcome.deadline
        return none : Code P _) fun outcome => ∀ failure ∈ outcome, failure.Fails := by
      refine glances_call trivial fun cancelled => glances_ite (fun _ => hleave rfl) fun _ => ?_
      refine pastDeadline_glances.seq fun late _ => glances_ite (fun _ => hleave rfl) fun _ => ?_
      exact glances_ret fun failure hmem => by cases hmem
    refine wp_mono (hrest φ₁ H) fun _ _ _ hφ' => ?_
    exact ⟨h₁.trans hφ'.1, hφ'.2⟩

/-! ### Failures -/

/-- A part that offers and answers nothing leaves the thread's request as it is. -/
theorem KeepsLoosely.serves {K : Finset Kind} {p : Code P α} (h : KeepsLoosely K p H)
    (hlease : .lease ∉ K) (hcompletion : .completion ∉ K) (hadmission : .admission ∉ K) :
    wp (filling P) p (fun _ φ' H' => φ'.2.request = φ.2.request ∧ H' = H) φ H := by
  refine wp_of_guards (M := machine P) (P := fun φ' : Option Seen × Filling P =>
    φ'.2.request = φ.2.request) (R := fun H' => H' = H) h rfl ?_ ?_ ?_
  · intro a φ' H' hφ' hwithin
    have hne {kind : Kind} (hkind : kind ∉ insert Kind.plain K) : a.kind ≠ kind := by
      rintro rfl
      exact hkind hwithin.2
    refine ⟨⟨hwithin.1, Filling.allows_of_kind (hne (by simp [hlease]))
      (hne (by simp [hcompletion]))⟩, fun r => Eq.trans ?_ hφ'⟩
    have hbegin : a.kind ≠ .admission := hne (by simp [hadmission])
    cases a with
    | beginRequest => exact absurd rfl hbegin
    | _ => rfl
  · intro φ' H' m hφ' _
    refine ⟨trivial, Eq.trans ?_ hφ'⟩
    cases m <;> rfl
  · intro φ' m hφ'
    refine ⟨trivial, Eq.trans ?_ hφ'⟩
    cases m <;> rfl

/-- The end of an operation that was no success. -/
def FailsIn (φ : Option Seen × Filling P) (H : Finset Mutex) (outcome : Outcome)
    (φ' : Option Seen × Filling P) (H' : Finset Mutex) : Prop :=
  φ'.2.request = φ.2.request ∧ H' = H ∧ Unsuccessful outcome

/-- The release of the vault at the end of an operation. -/
theorem vault_erased (hfree : .vault ∉ H) : (insert Mutex.vault H).erase .vault = H :=
  Finset.erase_insert hfree

theorem wp_publishFailure (hH : Below H .commitGate) :
    wp (filling P) publishFailure (FailsIn φ H) φ H := by
  refine (wp_withLock (M := machine P)).mpr ⟨trivial, fun hfree => ?_⟩
  refine ⟨⟨Finset.empty_subset _, trivial⟩, fun _ => ?_⟩
  dsimp only [Prog.ret_bind]
  have hcancellations : Below (insert .commitGate H) .cancellations := by
    simpa [Mutex.rank] using hH.mono (by simp [Mutex.rank])
  have hadvance := (advanceEpoch_keeps (P := P) (H := insert .commitGate H)
    (Finset.mem_insert_self _ _) hcancellations).loosely
  refine wp.seq (hadvance.serves (by simp) (by simp) (by simp)) fun result φ' H' hφ' => ?_
  obtain ⟨hrequest, rfl⟩ := hφ'
  cases result with
  | error e =>
    exact ⟨Finset.mem_insert_self _ _, trivial, hrequest, Finset.erase_insert hfree,
      unsuccessful_error⟩
  | ok u =>
    exact ⟨Finset.mem_insert_self _ _, trivial, hrequest, Finset.erase_insert hfree,
      unsuccessful_ok rfl⟩

theorem wp_accountErrorAfterCore {error : AccountError} (hH : Below H .vault) :
    wp (filling P) (accountErrorAfterCore error) (FailsIn φ H) φ (insert .vault H) := by
  have hvault : Mutex.vault ∈ insert Mutex.vault H := Finset.mem_insert_self _ _
  refine (wp_ite (M := machine P)).mpr ⟨fun _ => ?_, fun _ => ?_⟩
  · exact ⟨hvault, trivial, rfl, vault_erased hH.notMem,
      unsuccessful_ok (mapAccountError_fails error)⟩
  · refine ⟨⟨by simp [Action.guard], trivial⟩, fun _ => ⟨hvault, trivial, ?_⟩⟩
    rw [vault_erased hH.notMem]
    exact wp_publishFailure (hH.mono (by simp [Mutex.rank]))

theorem wp_authenticatedReadErrorAfterCore {error : AccountError} (hH : Below H .vault) :
    wp (filling P) (authenticatedReadErrorAfterCore context error) (FailsIn φ H) φ
      (insert .vault H) := by
  have hvault : Mutex.vault ∈ insert Mutex.vault H := Finset.mem_insert_self _ _
  refine (wp_ite (M := machine P)).mpr ⟨fun _ => wp_accountErrorAfterCore hH, fun _ => ?_⟩
  refine wp.seq (wp_postSecretOperation_filling hvault) fun outcome φ' H' hφ' => ?_
  obtain ⟨hstays, rfl, hfails⟩ := hφ'
  refine ⟨hvault, trivial, hstays.request, vault_erased hH.notMem, unsuccessful_ok ?_⟩
  cases outcome with
  | none => exact mapAccountError_fails error
  | some failure => exact hfails failure rfl

theorem wp_abortAfterCore (hvault : .vault ∈ H) :
    wp (filling P) (abortAfterCore context) (FailsIn φ H) φ H := by
  refine wp.seq (wp_postSecretOperation_filling hvault) fun outcome φ' H' hφ' => ?_
  obtain ⟨hstays, rfl, hfails⟩ := hφ'
  cases outcome with
  | none => exact ⟨hstays.request, rfl, unsuccessful_error⟩
  | some failure => exact ⟨hstays.request, rfl, unsuccessful_ok (hfails failure rfl)⟩

end

/-! ## The two requests -/

section

variable {H : Finset Mutex} {φ : Option Seen × Filling P} {context : RequestContext}
  {permit : RequestPermit} {envelope : RequestEnvelope} {browser : BrowserContext}
  {selection : BrowserSelection} {lease : BrowserLease} {origin : BrowserOrigin P}
  {account : WebsiteAccount}

/-- The thread serves a request. -/
structure Answers (context : RequestContext) (permit : RequestPermit) (envelope : RequestEnvelope)
    (φ : Option Seen × Filling P) : Prop where
  request : φ.2.request = some (context.key, permit, envelope)
  epoch : context.unlock_epoch = permit.unlock_epoch

theorem Answers.congr {φ' : Option Seen × Filling P} (h : Answers context permit envelope φ)
    (hrequest : φ'.2.request = φ.2.request) : Answers context permit envelope φ' :=
  ⟨hrequest.trans h.request, h.epoch⟩

theorem Filling.Redeems.congr {ψ ψ' : Filling P} {connection_id : ConnectionId} {epoch : ℕ}
    (h : ψ.Redeems connection_id epoch browser selection lease origin account)
    (hlease : ψ'.lease = ψ.lease) (hfound : ψ'.found = ψ.found) :
    ψ'.Redeems connection_id epoch browser selection lease origin account :=
  ⟨h.context_eq, h.selection_eq, h.epoch_eq, hlease.trans h.taken, h.parsed, hfound.trans h.read,
    h.id_eq, h.revision_eq⟩

/-- What a success of a request with a selection rests on. -/
def Filling.Earns (ψ : Filling P) (key : RequestKey) (permit : RequestPermit)
    (browser : BrowserContext) (selection : BrowserSelection) (outcome : ExecutionOutcome) : Prop :=
  outcome.committed = false ∧ ∃ lease origin account deadline,
    ψ.Redeems key.connection_id permit.unlock_epoch browser selection lease origin account ∧
    outcome.body = .browserCredential account.username account.password ∧
    outcome.browser_generation = some lease.accounts_generation ∧
    outcome.browser_deadline = some deadline ∧ deadline ≤ lease.expires

theorem Filling.Earns.congr {ψ ψ' : Filling P} {key : RequestKey} {outcome : ExecutionOutcome}
    (h : ψ.Earns key permit browser selection outcome) (hlease : ψ'.lease = ψ.lease)
    (hfound : ψ'.found = ψ.found) : ψ'.Earns key permit browser selection outcome := by
  obtain ⟨hcommitted, lease, origin, account, deadline, hredeems, hrest⟩ := h
  exact ⟨hcommitted, lease, origin, account, deadline, hredeems.congr hlease hfound, hrest⟩

/-- The end of a browser's request: if it had a selection, a success has earned its credential. -/
def FillEnd (φ : Option Seen × Filling P) (H : Finset Mutex) (key : RequestKey)
    (permit : RequestPermit) (browser : BrowserContext) (selection : Option BrowserSelection)
    (outcome : Outcome) (φ' : Option Seen × Filling P) (H' : Finset Mutex) : Prop :=
  φ'.2.request = φ.2.request ∧ H' = H ∧ ∀ result, outcome = .ok result → result.error = none →
    ∀ selected ∈ selection, φ'.2.Earns key permit browser selected result

theorem FailsIn.fillEnd {key : RequestKey} {selected : Option BrowserSelection} {outcome : Outcome}
    {φ' : Option Seen × Filling P} {H' : Finset Mutex} (h : FailsIn φ H outcome φ' H') :
    FillEnd φ H key permit browser selected outcome φ' H' := by
  obtain ⟨hrequest, hH, hfails⟩ := h
  refine ⟨hrequest, hH, fun result heq hnone => ?_⟩
  have hsome : result.error.isSome = true := hfails result heq
  rw [hnone] at hsome
  cases hsome

/-- An end that starts from a later phase of the same request. -/
theorem FillEnd.trans {key : RequestKey} {selected : Option BrowserSelection} {outcome : Outcome}
    {φ₁ φ' : Option Seen × Filling P} {H' : Finset Mutex} (hrequest : φ₁.2.request = φ.2.request)
    (h : FillEnd φ₁ H key permit browser selected outcome φ' H') :
    FillEnd φ H key permit browser selected outcome φ' H' :=
  ⟨h.1.trans hrequest, h.2⟩

/-- An offer leaves a lease for the account that was read. -/
theorem wp_offerSelection {generation : ℕ} {found : Option WebsiteAccount}
    (hanswers : Answers context permit envelope φ)
    (hdecoded : envelope.decoded = .ok (.exactOriginMatches browser))
    (hmax : generation ≠ u64Max) (hvault : φ.2.vault = some (some generation))
    (hparsed : BrowserOrigin.parse P browser.top_origin = some origin)
    (hfound : φ.2.found = some (origin, found, generation)) :
    wp (filling P) (offerSelection context browser generation found)
      (fun _ φ' H' => φ'.2.request = φ.2.request ∧ H' = H) φ H := by
  cases found with
  | none => exact ⟨rfl, rfl⟩
  | some account =>
  refine ⟨⟨Finset.empty_subset _, trivial⟩, fun token => ?_⟩
  cases token with
  | none => exact ⟨rfl, rfl⟩
  | some token =>
  dsimp only [Prog.ret_bind]
  cases hselection : BrowserSelection.new token account.id account.revision with
  | none => exact ⟨rfl, rfl⟩
  | some selection =>
  refine wp.seq (Q := fun _ φ' (H' : Finset Mutex) => φ'.2.request = φ.2.request ∧ H' = H) ?_
    fun issued φ' H' hφ' => ?_
  · refine (wp_withLock (M := machine P)).mpr ⟨trivial, fun hfree => ?_⟩
    refine ⟨⟨by simp [Action.guard], ?_⟩, fun issued => ?_⟩
    · exact ⟨context.key, permit, envelope, origin, account, token, hanswers.request, rfl,
        hdecoded, hanswers.epoch.symm, hmax, hvault, hparsed, hfound, hselection⟩
    · exact ⟨Finset.mem_insert_self _ _, trivial, rfl, Finset.erase_insert hfree⟩
  · exact (wp_ite (M := machine P)).mpr ⟨fun _ => hφ', fun _ => hφ'⟩

/-- The request from the acquisition of the vault on: without a lease it serves a request without a
selection, with one it has taken the lease for the selection. -/
theorem wp_browserRead {required : Option BrowserLease}
    {selected : Option BrowserSelection} (hH : Below H .vault)
    (hanswers : Answers context permit envelope φ)
    (hparsed : BrowserOrigin.parse P browser.top_origin = some origin)
    (hnone : required = none →
      selected = none ∧ envelope.decoded = .ok (.exactOriginMatches browser))
    (hsome : ∀ lease ∈ required, lease.context = browser ∧ selected = some lease.selection ∧
      lease.epoch = permit.unlock_epoch ∧ φ.2.lease = some (context.key.connection_id, lease) ∧
      context.deadline ≤ lease.expires) :
    wp (filling P) (browserRead context browser required origin)
      (FillEnd φ H context.key permit browser selected) φ H := by
  have hvault : Mutex.vault ∈ insert Mutex.vault H := Finset.mem_insert_self _ _
  have herased := vault_erased hH.notMem
  -- An end with a failure, after the vault has been released.
  have hfailed {φ' : Option Seen × Filling P} {failure : ExecutionOutcome}
      (hrequest : φ'.2.request = φ.2.request) (h : failure.Fails) :
      wp (filling P) (do
        Prog.unlock (M := machine P) .vault
        return Except.ok failure : Code P Outcome)
        (FillEnd φ H context.key permit browser selected) φ' (insert .vault H) :=
    ⟨hvault, trivial, FailsIn.fillEnd ⟨hrequest, herased, unsuccessful_ok h⟩⟩
  refine ⟨trivial, fun _ => ?_⟩
  dsimp only [Prog.ret_bind]
  refine preSecretOperation_glances.followed fun outcome φ₁ hfails h₁ => ?_
  have hrequest₁ : φ₁.2.request = φ.2.request := h₁.request
  have hlease₁ : φ₁.2.lease = φ.2.lease := h₁.lease
  have hvault₁ : φ₁.2.vault = some none := h₁.vault
  cases outcome with
  | some failure => exact hfailed hrequest₁ (hfails failure rfl)
  | none =>
  refine ⟨⟨Finset.empty_subset _, trivial⟩, fun generation => ?_⟩
  refine (wp_ite (M := machine P)).mpr ⟨fun _ => hfailed hrequest₁ rfl, fun hcurrent => ?_⟩
  obtain ⟨hmax, hgeneration⟩ := not_or.mp hcurrent
  refine ⟨⟨by simp [Action.guard], trivial⟩, fun result => ?_⟩
  cases result with
  | error error =>
    have hread (error : AccountError) (φ₂ : Option Seen × Filling P)
        (hrequest₂ : φ₂.2.request = φ.2.request) :
        wp (filling P) (authenticatedReadErrorAfterCore context error)
          (FillEnd φ H context.key permit browser selected) φ₂ (insert .vault H) :=
      wp_mono (wp_authenticatedReadErrorAfterCore hH) fun _ _ _ h => h.fillEnd.trans hrequest₂
    cases error with
    | aborted =>
      dsimp only [Prog.ret_bind]
      refine wp.seq (wp_abortAfterCore hvault) fun outcome φ₂ H₂ hφ₂ => ?_
      obtain ⟨hrequest₂, rfl, hfails₂⟩ := hφ₂
      exact ⟨hvault, trivial, FailsIn.fillEnd ⟨hrequest₂.trans hrequest₁, herased, hfails₂⟩⟩
    | _ => exact hread _ _ hrequest₁
  | ok found =>
  dsimp only [Prog.ret_bind]
  refine wp.seq (wp_postSecretOperation_filling hvault) fun outcome φ₂ H₂ hφ₂ => ?_
  obtain ⟨h₂, rfl, hfails₂⟩ := hφ₂
  have hrequest₂ : φ₂.2.request = φ.2.request := h₂.request.trans hrequest₁
  have hlease₂ : φ₂.2.lease = φ.2.lease := h₂.lease.trans hlease₁
  have hknown : φ₁.2.vault.map (fun _ => some generation) = some (some generation) := by
    rw [hvault₁]
    rfl
  have hvault₂ : φ₂.2.vault = some (some generation) := h₂.vault.trans hknown
  have hfound₂ : φ₂.2.found = some (origin, found, generation) := by
    refine h₂.found.trans ?_
    show (φ₁.2.vault.map fun _ => some generation).join.map _ = _
    rw [hknown]
    rfl
  cases outcome with
  | some failure => exact hfailed hrequest₂ (hfails₂ failure rfl)
  | none =>
  cases required with
  | none =>
    obtain ⟨rfl, hdecoded⟩ := hnone rfl
    refine wp.seq (wp_offerSelection (hanswers.congr hrequest₂) hdecoded hmax hvault₂ hparsed
      hfound₂) fun outcome φ₃ H₃ hφ₃ => ?_
    obtain ⟨hrequest₃, rfl⟩ := hφ₃
    exact ⟨hvault, trivial, hrequest₃.trans hrequest₂, herased, fun _ _ _ _ hmem => by cases hmem⟩
  | some lease =>
    obtain ⟨hcontext, rfl, hepoch, htaken, hdeadline⟩ := hsome lease rfl
    have hcurrent : lease.accounts_generation = generation :=
      not_not.mp fun hne => hgeneration ⟨lease, rfl, hne⟩
    refine ⟨hvault, trivial, hrequest₂, herased, fun result hresult herror selected hselected => ?_⟩
    obtain rfl : lease.selection = selected := Option.some.inj hselected
    unfold boundToGeneration discloseCredential at hresult
    cases found with
    | none =>
      cases hresult
      cases herror
    | some account =>
      dsimp only at hresult
      split_ifs at hresult with hmismatch
      · cases hresult
        cases herror
      · obtain rfl := Except.ok.inj hresult
        obtain ⟨hid, hrevision⟩ := not_or.mp hmismatch
        refine ⟨rfl, lease, origin, account, context.deadline, ⟨hcontext, rfl, hepoch, ?_, hparsed,
          ?_, not_not.mp hid, not_not.mp hrevision⟩, rfl, ?_, rfl, hdeadline⟩
        · exact hlease₂.trans htaken
        · rw [hcurrent]
          exact hfound₂
        · exact congrArg some hcurrent.symm

/-- A browser's request that comes with its lease, or without one. -/
theorem wp_browserFillReady {required : Option BrowserLease} {selected : Option BrowserSelection}
    (hanswers : Answers context permit envelope φ)
    (hnone : required = none →
      selected = none ∧ envelope.decoded = .ok (.exactOriginMatches browser))
    (hsome : ∀ lease ∈ required, lease.context = browser ∧ selected = some lease.selection ∧
      lease.epoch = permit.unlock_epoch ∧ φ.2.lease = some (context.key.connection_id, lease) ∧
      context.deadline ≤ lease.expires)
    (hparsed : BrowserOrigin.parse P browser.top_origin = some origin) :
    wp (filling P) (checkingFirst context (browserRead context browser required origin))
      (FillEnd φ ∅ context.key permit browser selected) φ ∅ := by
  refine preSecretOperation_glances.followed fun outcome φ₁ hfails h₁ => ?_
  cases outcome with
  | some failure =>
    exact FailsIn.fillEnd ⟨h₁.request, rfl, unsuccessful_ok (hfails failure rfl)⟩
  | none =>
  have hread := wp_browserRead (H := ∅) (φ := φ₁) (by simp) (hanswers.congr h₁.request) hparsed hnone
    fun lease hlease => by
      obtain ⟨hcontext, hselected, hepoch, htaken, hdeadline⟩ := hsome lease hlease
      exact ⟨hcontext, hselected, hepoch, h₁.lease.trans htaken, hdeadline⟩
  exact wp_mono hread fun _ _ _ h => h.trans h₁.request

theorem wp_browserFill {selected : Option BrowserSelection}
    (hanswers : Answers context permit envelope φ)
    (hnone : selected = none → envelope.decoded = .ok (.exactOriginMatches browser)) :
    wp (filling P) (browserFill context browser selected)
      (FillEnd φ ∅ context.key permit browser selected) φ ∅ := by
  have hfailed {φ' : Option Seen × Filling P} {failure : ExecutionOutcome}
      (hrequest : φ'.2.request = φ.2.request) (h : failure.Fails) :
      FillEnd φ ∅ context.key permit browser selected (.ok failure) φ' ∅ :=
    FailsIn.fillEnd ⟨hrequest, rfl, unsuccessful_ok h⟩
  -- The claim on the slot of the connection.
  refine wp.seq (Q := fun claim φ' (H' : Finset Mutex) => φ'.2.request = φ.2.request ∧ H' = ∅ ∧
    ((∃ failure : ExecutionOutcome, claim = .rejected failure ∧ failure.Fails) ∨
      ∃ required, claim = .ready required ∧ (required = none → selected = none) ∧
        ∀ lease ∈ required, lease.context = browser ∧ selected = some lease.selection ∧
          lease.epoch = permit.unlock_epoch ∧
          φ'.2.lease = some (context.key.connection_id, lease))) ?_ fun claim φ₁ H₁ hφ₁ => ?_
  · cases selected with
    | none =>
      refine (wp_bind (M := machine P)).mpr ((wp_withLock (M := machine P)).mpr
        ⟨trivial, fun _ => ⟨⟨by simp [Action.guard], trivial⟩, fun claim => ?_⟩⟩)
      refine ⟨Finset.mem_insert_self _ _, trivial, ?_⟩
      cases claim with
      | occupied => exact ⟨rfl, Finset.erase_insert (by simp), .inl ⟨_, rfl, rfl⟩⟩
      | full => exact ⟨rfl, Finset.erase_insert (by simp), .inl ⟨_, rfl, rfl⟩⟩
      | claimed =>
        exact ⟨rfl, Finset.erase_insert (by simp), .inr ⟨none, rfl, fun _ => rfl, by simp⟩⟩
    | some selection =>
      refine (wp_bind (M := machine P)).mpr ((wp_withLock (M := machine P)).mpr
        ⟨trivial, fun _ => ⟨⟨by simp [Action.guard], trivial⟩, fun taken => ?_⟩⟩)
      refine ⟨Finset.mem_insert_self _ _, trivial, ?_⟩
      cases taken with
      | none => exact ⟨rfl, Finset.erase_insert (by simp), .inl ⟨_, rfl, rfl⟩⟩
      | some lease =>
        refine (wp_ite (M := machine P)).mpr ⟨fun _ => ?_, fun hmatches => ?_⟩
        · exact ⟨rfl, Finset.erase_insert (by simp), .inl ⟨_, rfl, rfl⟩⟩
        · simp only [not_or, not_not] at hmatches
          obtain ⟨hcontext, hselection, hepoch⟩ := hmatches
          refine ⟨rfl, Finset.erase_insert (by simp), .inr ⟨some lease, rfl, by simp, ?_⟩⟩
          rintro _ ⟨⟩
          exact ⟨BrowserContext.matches_iff.mp hcontext,
            congrArg some (BrowserSelection.matches_iff.mp hselection).symm,
            hepoch.trans hanswers.epoch, rfl⟩
  · obtain ⟨hrequest, rfl, ⟨failure, rfl, hfails⟩ | ⟨required, rfl, hrequired, hlease⟩⟩ := hφ₁
    · exact hfailed hrequest hfails
    · dsimp only
      cases hparsed : BrowserOrigin.parse P browser.top_origin with
      | none => exact hfailed hrequest rfl
      | some origin =>
      cases BrowserOrigin.parse P browser.frame_origin with
      | none => exact hfailed hrequest rfl
      | some frame_origin =>
      refine (wp_ite (M := machine P)).mpr ⟨fun _ => hfailed hrequest rfl, fun _ => ?_⟩
      have hanswers₁ : Answers { context with
          deadline := required.elim context.deadline fun lease =>
            min context.deadline lease.expires } permit envelope φ₁ :=
        ⟨hrequest.trans hanswers.request, hanswers.epoch⟩
      refine wp_mono (wp_browserFillReady hanswers₁ ?_ ?_ hparsed) fun _ _ _ h => h.trans hrequest
      · exact fun hempty => ⟨hrequired hempty, hnone (hrequired hempty)⟩
      · rintro lease hmem
        obtain ⟨hcontext, hselected, hepoch, htaken⟩ := hlease lease hmem
        obtain rfl := Option.mem_def.mp hmem
        exact ⟨hcontext, hselected, hepoch, htaken, min_le_right _ _⟩

end

/-! ## Requests as a whole -/

section

variable {H : Finset Mutex} {φ : Option Seen × Filling P} {context : RequestContext}
  {permit : RequestPermit} {envelope : RequestEnvelope} {key : RequestKey}

/-- What the operations that have nothing to do with a browser consist of. -/
@[simp]
def unleasedKinds : Finset Kind := {.secret, .write, .creation, .lifecycle}

/-- The operations other than the browser's leave the slots alone. -/
theorem executeOperation_unleased {rounds : ℕ} {request : OperationRequest}
    (hoffer : ∀ browser, request ≠ .exactOriginMatches browser)
    (hfill : ∀ browser selection, request ≠ .getSelectedCredential browser selection) :
    KeepsLoosely unleasedKinds (executeOperation rounds context request : Code P _) ∅ := by
  cases request with
  | status => rfl
  | exactOriginMatches browser => exact absurd rfl (hoffer browser)
  | getSelectedCredential browser selection => exact absurd rfl (hfill browser selection)
  | createVault password => exact createVault_keeps.mono (by decide)
  | unlockMasterPassword password => exact unlockVault_keeps.mono (by decide)
  | lock => exact lockVault_keeps.mono (by decide)
  | listAccountSummaries offset limit =>
    exact (listAccounts_keeps (by simp)).loosely.mono (by decide)
  | getAccount id => exact (getAccount_keeps (by simp)).loosely.mono (by decide)
  | addAccount fields => exact addAccount_keeps.loosely.mono (by decide)
  | updateAccount id fields => exact updateAccount_keeps.loosely.mono (by decide)
  | deleteAccount id => exact deleteAccount_keeps.loosely.mono (by decide)
  | enrollWindowsHello parent_window => exact enrollWindowsHello_keeps.loosely.mono (by simp)
  | unlockWindowsHello parent_window => exact unlockWindowsHello_keeps.mono (by decide)
  | removeWindowsHello => exact removeWindowsHello_keeps.mono (by simp)
  | makePasskey proof => exact makePasskey_keeps.loosely.mono (by decide)
  | getPasskeyAssertion proof id => exact getPasskeyAssertion_keeps.loosely.mono (by decide)
  | deletePasskey id => exact deletePasskey_keeps.loosely.mono (by decide)
  | listPasskeysForAssertion proof =>
    exact (listPasskeysForAssertion_keeps (by simp)).loosely.mono (by decide)
  | listPasskeys => exact (listPasskeys_keeps (by simp)).loosely.mono (by decide)
  | confirmPasskeyCreation proof id =>
    exact confirmPasskeyCreation_keeps.loosely.mono (by decide)
  | rollbackPasskeyCreation proof id =>
    exact rollbackPasskeyCreation_keeps.loosely.mono (by decide)

/-- A success has earned what it carries, if it answers a request with a selection. -/
def Earned (key : RequestKey) (permit : RequestPermit) (envelope : RequestEnvelope)
    (outcome : ExecutionOutcome) (ψ : Filling P) : Prop :=
  outcome.error = none → ψ.request = some (key, permit, envelope) ∧
    ∃ request, envelope.decoded = .ok request ∧
      ∀ browser selection, request = .getSelectedCredential browser selection →
        ψ.Earns key permit browser selection outcome

theorem earned_of_fails {outcome : ExecutionOutcome} {ψ : Filling P} (h : outcome.Fails) :
    Earned key permit envelope outcome ψ := by
  intro hnone
  have hsome : outcome.error.isSome = true := h
  rw [hnone] at hsome
  cases hsome

theorem Earned.congr {outcome : ExecutionOutcome} {ψ ψ' : Filling P}
    (h : Earned key permit envelope outcome ψ) (hrequest : ψ'.request = ψ.request)
    (hlease : ψ'.lease = ψ.lease) (hfound : ψ'.found = ψ.found) :
    Earned key permit envelope outcome ψ' := by
  intro hnone
  obtain ⟨hbegun, request, hdecoded, hearns⟩ := h hnone
  exact ⟨hrequest.trans hbegun, request, hdecoded, fun browser selection heq =>
    (hearns browser selection heq).congr hlease hfound⟩

/-- The end of the execution of a request. -/
def ExecutionEnd (key : RequestKey) (permit : RequestPermit) (envelope : RequestEnvelope)
    (outcome : Outcome) (φ' : Option Seen × Filling P) (H' : Finset Mutex) : Prop :=
  H' = ∅ ∧ ∀ result, outcome = .ok result → Earned key permit envelope result φ'.2

theorem executionEnd_of_fails {φ' : Option Seen × Filling P} {outcome : Outcome}
    (h : Unsuccessful outcome) : ExecutionEnd key permit envelope outcome φ' ∅ :=
  ⟨rfl, fun result heq => earned_of_fails (h result heq)⟩

theorem wp_executeOperation_filling {rounds : ℕ} {request : OperationRequest}
    (hanswers : Answers context permit envelope φ) (hdecoded : envelope.decoded = .ok request) :
    wp (filling P) (executeOperation rounds context request)
      (ExecutionEnd context.key permit envelope) φ ∅ := by
  by_cases hfill : ∃ browser selection, request = .getSelectedCredential browser selection
  · obtain ⟨browser, selection, rfl⟩ := hfill
    have hends : wp (filling P) (browserFill context browser (some selection))
        (FillEnd φ ∅ context.key permit browser (some selection)) φ ∅ :=
      wp_browserFill hanswers (by simp)
    refine wp_mono hends fun outcome φ' H' hφ' => ?_
    obtain ⟨hrequest, rfl, hearns⟩ := hφ'
    refine ⟨rfl, fun result heq hnone => ⟨hrequest.trans hanswers.request, _, hdecoded, ?_⟩⟩
    rintro _ _ ⟨⟩
    exact hearns result heq hnone selection rfl
  · -- Nothing has to be earned for the other operations.
    have hother {φ' : Option Seen × Filling P} (outcome : Outcome)
        (hrequest : φ'.2.request = φ.2.request) :
        ExecutionEnd context.key permit envelope outcome φ' ∅ :=
      ⟨rfl, fun _ _ _ => ⟨hrequest.trans hanswers.request, request, hdecoded,
        fun browser selection heq => absurd ⟨browser, selection, heq⟩ hfill⟩⟩
    by_cases hoffer : ∃ browser, request = .exactOriginMatches browser
    · obtain ⟨browser, rfl⟩ := hoffer
      have hends : wp (filling P) (browserFill context browser none)
          (FillEnd φ ∅ context.key permit browser none) φ ∅ :=
        wp_browserFill hanswers fun _ => hdecoded
      refine wp_mono hends fun outcome φ' H' hφ' => ?_
      obtain ⟨hrequest, rfl, -⟩ := hφ'
      exact hother outcome hrequest
    · have hkeeps : KeepsLoosely unleasedKinds
          (executeOperation rounds context request : Code P _) ∅ :=
        executeOperation_unleased (fun browser heq => hoffer ⟨browser, heq⟩)
          fun browser selection heq => hfill ⟨browser, selection, heq⟩
      refine wp_mono (hkeeps.serves (by simp) (by simp) (by simp)) fun outcome φ' H' hφ' => ?_
      obtain ⟨hrequest, rfl⟩ := hφ'
      exact hother outcome hrequest

theorem wp_executeEnvelope_filling {rounds : ℕ} (hanswers : Answers context permit envelope φ) :
    wp (filling P) (executeEnvelope rounds context envelope)
      (ExecutionEnd context.key permit envelope) φ ∅ := by
  unfold executeEnvelope
  cases hdecoded : envelope.decoded with
  | error error =>
    refine executionEnd_of_fails (unsuccessful_ok ?_)
    cases error <;> rfl
  | ok request =>
  dsimp only [executeDecoded]
  cases hbinding : passkeyBindingFailure request context with
  | some rejection =>
    -- Only requests of a passkey provider are bound in this way.
    refine ⟨rfl, fun result _ hnone => ⟨hanswers.request, request, hdecoded, ?_⟩⟩
    rintro browser selection rfl
    cases hbinding
  | none =>
  refine ⟨⟨Finset.empty_subset _, trivial⟩, fun cancelled => (wp_ite (M := machine P)).mpr
    ⟨fun _ => executionEnd_of_fails (unsuccessful_ok rfl), fun _ => ?_⟩⟩
  refine pastDeadline_glances.followed fun late φ₂ _ h₂ => (wp_ite (M := machine P)).mpr
    ⟨fun _ => executionEnd_of_fails (unsuccessful_ok rfl), fun _ => ?_⟩
  exact wp_executeOperation_filling (hanswers.congr h₂.request) hdecoded

/-- A request for a credential has no idempotency key, so that it is never answered from the
cache. -/
theorem wp_executeAdmitted_filling {hmac : List UInt8 → Bytes 32} {rounds : ℕ}
    (hanswers : Answers context permit envelope φ) :
    wp (filling P) (executeAdmitted hmac rounds context permit envelope)
      (fun outcome φ' H' => H' = ∅ ∧ (permit.operation = .getSelectedCredential →
        ∀ result, outcome = .ok result → Earned context.key permit envelope result φ'.2)) φ ∅ := by
  refine (wp_ite (M := machine P)).mpr ⟨fun hkey => ?_, fun _ => ?_⟩
  · have hfree {outcome : Outcome} {φ' : Option Seen × Filling P} :
        (∅ : Finset Mutex) = ∅ ∧ (permit.operation = .getSelectedCredential →
          ∀ result, outcome = .ok result → Earned context.key permit envelope result φ'.2) := by
      refine ⟨rfl, fun hoperation => ?_⟩
      rw [hoperation] at hkey
      cases hkey
    have hlock {a : Action P} (hguard : a.guard = {.idempotency}) (hkind : a.kind = .plain)
        {φ' : Option Seen × Filling P} :
        wp (filling P) (Prog.withLock (M := machine P) .idempotency (act a))
          (fun _ φ'' H' => φ''.2.request = φ'.2.request ∧ H' = ∅) φ' ∅ :=
      (idempotency_keeps hguard hkind (by simp)).loosely.serves (by simp) (by simp) (by simp)
    cases envelope.idempotency_key with
    | none => exact hfree
    | some key =>
    refine wp.seq (hlock rfl rfl) fun admission φ₁ H₁ hφ₁ => ?_
    obtain ⟨hrequest₁, rfl⟩ := hφ₁
    cases admission with
    | conflict => exact hfree
    | busy => exact hfree
    | replay cached => exact hfree
    | reserved =>
    refine wp.seq (wp_executeEnvelope_filling (hanswers.congr hrequest₁))
      fun outcome φ₂ H₂ hφ₂ => ?_
    obtain ⟨rfl, -⟩ := hφ₂
    cases outcome with
    | error e =>
      refine wp.seq (hlock rfl rfl) fun _ φ₃ H₃ hφ₃ => ?_
      obtain ⟨-, rfl⟩ := hφ₃
      exact hfree
    | ok outcome =>
    refine wp.seq (hlock rfl rfl) fun completed φ₃ H₃ hφ₃ => ?_
    obtain ⟨-, rfl⟩ := hφ₃
    cases completed with
    | ok u => exact hfree
    | error e =>
      refine wp.seq (hlock rfl rfl) fun _ φ₄ H₄ hφ₄ => ?_
      obtain ⟨-, rfl⟩ := hφ₄
      exact hfree
  · exact wp_mono (wp_executeEnvelope_filling hanswers) fun _ _ _ hφ' => ⟨hφ'.1, fun _ => hφ'.2⟩

/-! ### Admission and completion -/

/-- An admitted request is answered by the thread that has begun it. -/
theorem wp_admitRequest_filling {connection : Connection} {header : FrameHeader} :
    wp (filling P) (admitRequest connection header envelope) (fun admission φ' H' =>
      H' = admission.held ∧ ∀ context permit, admission = .admitted context permit →
        Answers context permit envelope φ') φ ∅ := by
  refine ⟨⟨Finset.empty_subset _, trivial⟩, fun started => ?_⟩
  refine ⟨⟨Finset.empty_subset _, trivial⟩, fun current_unlock_epoch => ?_⟩
  refine ⟨⟨Finset.empty_subset _, trivial⟩, fun result => ⟨trivial, fun _ => ?_⟩⟩
  have hrejected {admission : RequestAdmission} {φ' : Option Seen × Filling P}
      {H' : Finset Mutex} (hheld : H' = admission.held)
      (hne : ∀ context permit, admission ≠ .admitted context permit) :
      H' = admission.held ∧ ∀ context permit, admission = .admitted context permit →
        Answers context permit envelope φ' :=
    ⟨hheld, fun context permit h => absurd h (hne context permit)⟩
  have hbusy {deadline : ℕ} {φ' : Option Seen × Filling P} :
      wp (filling P) (refuseBusy deadline) (fun admission φ' H' => H' = admission.held ∧
        ∀ context permit, admission = .admitted context permit →
          Answers context permit envelope φ') φ' {.commitGate} := by
    refine pastDeadline_glances.followed fun late φ'' _ _ => ?_
    cases late <;> exact hrejected rfl (by simp)
  cases result with
  | error error =>
    cases error with
    | connection e =>
      exact ⟨Finset.mem_singleton_self _, trivial, hrejected gate_released (by simp)⟩
    | unauthorized => exact hrejected rfl (by simp)
    | busy timeout => exact hbusy
    | staleEpoch => exact hrejected rfl (by simp)
    | missingIdempotencyKey => exact hrejected rfl (by simp)
  | ok permit =>
  refine wp_mono (wp_registration (I := fun φ' : Option Seen × Filling P => φ'.2.request =
    some (⟨connection.connection_id, permit.request_id⟩, permit, envelope)) rfl
    (fun a φ' H' hφ' hguard hregisters => ?_) (fun φ' H' m hφ' => ⟨trivial, Eq.trans ?_ hφ'⟩)
    fun φ' m hφ' => ⟨trivial, Eq.trans ?_ hφ'⟩) fun admission φ' H' hφ' => ?_
  · cases a with
    | now | acquireGlobal | releaseGlobal | register | connectionFinish | connectionIsCancelled
    | cancelFlag => exact ⟨⟨hguard, trivial⟩, fun _ => hφ'⟩
    | _ => exact hregisters.elim
  · cases m <;> rfl
  · cases m <;> rfl
  · obtain ⟨hrequest, hheld, hadmitted⟩ := hφ'
    refine ⟨hheld, fun context permit' heq => ?_⟩
    obtain ⟨rfl, rfl⟩ := hadmitted context permit' heq
    exact ⟨hrequest, rfl⟩

theorem recheckOutcome_glances {completion : RequestCompletion} {outcome : ExecutionOutcome} :
    Glances (recheckOutcome context permit completion outcome : Code P _) fun result =>
      result = outcome ∨ result.Fails := by
  have hloads : Glances (do
      if ← act (.loadActive .lock) then return false
      return !(← notUnlockedAt permit.unlock_epoch) : Code P Bool) fun _ => True :=
    glances_call trivial fun _ => glances_ite (fun _ => glances_ret trivial) fun _ =>
      notUnlockedAt_glances.seq fun _ _ => glances_ret trivial
  have hstate : Glances (do
      if ← act (.loadActive .lock) then return false
      return decide ((← act .loadState) = .unlocked) : Code P Bool) fun _ => True :=
    glances_call trivial fun _ => glances_ite (fun _ => glances_ret trivial) fun _ =>
      glances_call trivial fun _ => glances_ret trivial
  have hauthorized : Glances (outcomeIsStillAuthorized permit outcome : Code P Bool)
      fun _ => True := by
    unfold outcomeIsStillAuthorized
    cases permit.operation <;> first
      | exact hloads
      | exact hstate
      | exact glances_ret trivial
  refine glances_ite (fun _ => glances_ret (.inr rfl)) fun _ => ?_
  refine glances_ite (fun _ => ?_) fun _ => glances_ret (.inl rfl)
  refine glances_call trivial fun cancelled => glances_ite (fun _ => glances_ret (.inr rfl))
    fun _ => ?_
  refine pastDeadline_glances.seq fun late _ => glances_ite (fun _ => glances_ret (.inr rfl))
    fun _ => ?_
  exact hauthorized.seq fun authorized _ => glances_ite (fun _ => glances_ret (.inl rfl))
    fun _ => glances_ret (.inr rfl)

theorem recheckUncommitted_glances {completion : RequestCompletion} {outcome : ExecutionOutcome} :
    Glances (recheckUncommitted context permit completion outcome : Code P _) fun result =>
      result = outcome ∨ result.Fails :=
  glances_ite (fun _ => glances_ret (.inl rfl)) fun _ => recheckOutcome_glances

/-- What a success with a generation and a deadline has been checked against. -/
def CheckedAgainst (outcome : ExecutionOutcome) (φ' : Option Seen × Filling P) : Prop :=
  (∀ deadline ∈ outcome.browser_deadline, ∃ time, φ'.2.time = some time ∧ time < deadline) ∧
    ∀ generation ∈ outcome.browser_generation, ∃ known, φ'.1 = some known ∧
      known.generation = some generation

/-- The browser's checks read the time, and then the generation of the accounts. -/
theorem wp_recheckBrowser_filling {outcome : ExecutionOutcome} (hseen : φ.1.isSome = true) :
    wp (filling P) (recheckBrowser outcome) (fun result φ' H' => φ'.2.request = φ.2.request ∧
      φ'.2.lease = φ.2.lease ∧ φ'.2.found = φ.2.found ∧ H' = H ∧
        (result.Fails ∨ result = outcome ∧ CheckedAgainst outcome φ')) φ H := by
  refine wp.seq (Q := fun result φ' (H' : Finset Mutex) => Stays φ φ' ∧ H' = H ∧
    (result.Fails ∨ result = outcome ∧
      ∀ deadline ∈ outcome.browser_deadline, ∃ time, φ'.2.time = some time ∧ time < deadline)) ?_
    fun result φ₁ H₁ hφ₁ => ?_
  · unfold recheckBrowserDeadline
    cases hdeadline : outcome.browser_deadline with
    | none => exact ⟨Stays.refl φ, rfl, .inr ⟨rfl, by simp⟩⟩
    | some deadline =>
      refine ⟨⟨Finset.empty_subset _, trivial⟩, fun now => ?_⟩
      have hstays : Stays φ ((filling P).next φ (.now : Action P) now) :=
        Action.Glance.stays (a := .now) trivial now
      refine (wp_ite (M := machine P)).mpr ⟨fun _ => ⟨hstays, rfl, .inl rfl⟩, fun hlate => ?_⟩
      refine ⟨hstays, rfl, .inr ⟨rfl, ?_⟩⟩
      rintro _ ⟨⟩
      have hbefore : ¬now ≥ deadline := by simpa using hlate
      exact ⟨now, rfl, not_le.mp hbefore⟩
  · obtain ⟨hstays, rfl, hresult⟩ := hφ₁
    dsimp only
    cases hgeneration : result.browser_generation with
    | none =>
      refine ⟨hstays.request, hstays.lease, hstays.found, rfl, ?_⟩
      obtain hfails | ⟨rfl, htime⟩ := hresult
      · exact .inl hfails
      · exact .inr ⟨rfl, htime, by simp [hgeneration]⟩
    | some generation =>
      refine ⟨⟨Finset.empty_subset _, trivial⟩, fun current => ?_⟩
      refine (wp_ite (M := machine P)).mpr ⟨fun _ => ?_, fun hcurrent => ?_⟩
      · exact ⟨hstays.request, hstays.lease, hstays.found, rfl, .inl rfl⟩
      · refine ⟨hstays.request, hstays.lease, hstays.found, rfl, ?_⟩
        obtain hfails | ⟨rfl, htime⟩ := hresult
        · exact .inl hfails
        · refine .inr ⟨rfl, htime, ?_⟩
          rw [hgeneration]
          rintro _ ⟨⟩
          obtain ⟨-, hsame⟩ := not_or.mp hcurrent
          obtain rfl : generation = current := not_not.mp hsame
          obtain ⟨known, hknown⟩ := Option.isSome_iff_exists.mp (hstays.section_eq.trans hseen)
          exact ⟨_, congrArg (Option.map fun seen =>
            Seen.after seen (.loadAccountsGeneration : Action P) generation) hknown, rfl⟩

/-- A success for a request with a selection is still due when it is written. -/
def Due (key : RequestKey) (permit : RequestPermit) (outcome : ExecutionOutcome)
    (φ : Option Seen × Filling P) : Prop :=
  permit.operation = .getSelectedCredential → outcome.error = none →
    φ.2.Fills φ.1 key permit outcome.committed outcome.body

theorem due_of_fails {outcome : ExecutionOutcome} (h : outcome.Fails) :
    Due key permit outcome φ := by
  intro _ hnone
  have hsome : outcome.error.isSome = true := h
  rw [hnone] at hsome
  cases hsome

/-- What has been earned is due after the browser's checks. -/
theorem Earned.due {outcome : ExecutionOutcome}
    (h : permit.operation = .getSelectedCredential → Earned key permit envelope outcome φ.2)
    (hchecked : CheckedAgainst outcome φ) : Due key permit outcome φ := by
  intro hoperation hnone
  obtain ⟨hrequest, request, hdecoded, hearns⟩ := h hoperation hnone
  refine ⟨envelope, request, hrequest, hdecoded, fun browser selection heq => ?_⟩
  obtain ⟨hcommitted, lease, origin, account, deadline, hredeems, hbody, hgeneration, hdeadline,
    hexpires⟩ := hearns browser selection heq
  obtain ⟨time, htime, hbefore⟩ := hchecked.1 deadline hdeadline
  obtain ⟨known, hknown, hcurrent⟩ := hchecked.2 _ hgeneration
  exact ⟨hcommitted, lease, origin, account, known, time, hredeems, hbody, hknown, hcurrent, htime,
    hbefore.trans_le hexpires⟩

/-- An action that teaches nothing leaves the phase as it is. -/
theorem filling_next {a : Action P} (hseen : ∀ (seen : Seen) r, seen.after a r = seen)
    (hnext : ∀ (ψ : Filling P) r, ψ.next a r = ψ) (r : a.Result) :
    (filling P).next φ a r = φ := by
  obtain ⟨seen, ψ⟩ := φ
  refine Prod.ext ?_ (hnext ψ r)
  cases seen with
  | none => rfl
  | some seen => exact congrArg some (hseen seen r)

theorem wp_respond_filling {outcome : ExecutionOutcome} (hkey : context.key = key)
    (hgate : .commitGate ∈ H) (h : Due key permit outcome φ) :
    wp (filling P) (respond context permit outcome) (fun _ _ H' => H' = H) φ H := by
  subst hkey
  -- The lease of a failed request is consumed, and a status is read anew.
  refine wp.seq (Q := fun _ φ' (H' : Finset Mutex) => Due context.key permit outcome φ' ∧ H' = H)
    ?_ fun _ φ₁ H₁ hφ₁ => ?_
  · refine (wp_ite (M := machine P)).mpr ⟨fun hfailed => ?_, fun _ => ⟨h, rfl⟩⟩
    refine (wp_withLock (M := machine P)).mpr ⟨trivial, fun hfree => ?_⟩
    refine ⟨⟨by simp [Action.guard], trivial⟩, fun _ => ?_⟩
    exact ⟨Finset.mem_insert_self _ _, trivial, due_of_fails hfailed.1, Finset.erase_insert hfree⟩
  obtain ⟨hdue₁, rfl⟩ := hφ₁
  refine wp.seq (Q := fun outcome φ' (H' : Finset Mutex) => Due context.key permit outcome φ' ∧
    H' = H₁) ?_ fun outcome φ₂ H₂ hφ₂ => ?_
  · refine (wp_ite (M := machine P)).mpr ⟨fun hstatus => ?_, fun _ => ⟨hdue₁, rfl⟩⟩
    refine ⟨⟨Finset.empty_subset _, trivial⟩, fun state => ⟨⟨Finset.empty_subset _, trivial⟩,
      fun epoch => ⟨fun hoperation => ?_, rfl⟩⟩⟩
    obtain ⟨-, hop | hop⟩ := hstatus <;> rw [hop] at hoperation <;> cases hoperation
  obtain ⟨hdue₂, rfl⟩ := hφ₂
  have hask {k : Bool → Code P Bool}
      (hk : ∀ fits, wp (filling P) (k fits) (fun _ _ H' => H' = H₂) φ₂ H₂) :
      wp (filling P) (.call (.ask Oracle.succeeds : Action P) k) (fun _ _ H' => H' = H₂) φ₂ H₂ := by
    refine ⟨⟨Finset.empty_subset _, trivial⟩, fun fits => ?_⟩
    rw [filling_next (fun _ _ => rfl) (fun _ _ => rfl)]
    exact hk fits
  refine hask fun fits => (wp_ite (M := machine P)).mpr ⟨fun _ => ?_, fun _ => ?_⟩
  · refine ⟨⟨by simpa [Action.guard] using hgate, ?_⟩, fun _ => rfl⟩
    unfold ExecutionOutcome.intoResponse
    split
    · trivial
    · next hnone => exact fun hoperation => hdue₂ hoperation hnone
  · refine hask fun fits => (wp_ite (M := machine P)).mpr ⟨fun _ => ?_, fun _ => rfl⟩
    exact ⟨⟨by simpa [Action.guard] using hgate, trivial⟩, fun _ => rfl⟩

theorem wp_dropContext_filling {Q : Unit → Option Seen × Filling P → Finset Mutex → Prop}
    (hQ : ∀ φ', Q () φ' H) : wp (filling P) (dropContext key) Q φ H := by
  refine ⟨⟨Finset.empty_subset _, trivial⟩, fun _ => ?_⟩
  refine (wp_withLock (M := machine P)).mpr ⟨trivial, fun hfree => ?_⟩
  refine ⟨⟨by simp [Action.guard], trivial⟩, fun _ => ⟨Finset.mem_insert_self _ _, trivial, ?_⟩⟩
  rw [Finset.erase_insert hfree]
  exact hQ _

theorem wp_endLockTransition_filling {held : Bool}
    {Q : Unit → Option Seen × Filling P → Finset Mutex → Prop} (hQ : ∀ φ', Q () φ' H) :
    wp (filling P) (endLockTransition held) Q φ H := by
  refine (wp_ite (M := machine P)).mpr ⟨fun _ => ?_, fun _ => hQ φ⟩
  exact ⟨⟨Finset.empty_subset _, trivial⟩, fun _ => hQ _⟩

theorem wp_finishDispatch_filling {outcome : ExecutionOutcome}
    (h : permit.operation = .getSelectedCredential →
      Earned context.key permit envelope outcome φ.2) :
    wp (filling P) (finishDispatch context permit outcome) (fun _ _ H' => H' = ∅) φ ∅ := by
  refine ⟨trivial, fun _ => ⟨⟨by simp [Action.guard], trivial⟩, fun completed => ?_⟩⟩
  have hend {φ' : Option Seen × Filling P} : wp (filling P) (do
      endLockTransition outcome.holds_lock_transition
      dropContext context.key) (fun _ _ H' => H' = ∅) φ' ∅ :=
    (wp_bind (M := machine P)).mpr (wp_endLockTransition_filling fun _ =>
      wp_dropContext_filling fun _ => rfl)
  cases completed with
  | error e =>
    refine ⟨Finset.mem_insert_self _ _, trivial, ?_⟩
    dsimp only [Prog.ret_bind]
    exact hend
  | ok completion =>
  dsimp only [Prog.ret_bind]
  refine recheckUncommitted_glances.followed fun outcome₁ φ₁ hresult₁ h₁ => ?_
  have hseen₁ : φ₁.1.isSome = true := h₁.section_eq
  have hearned₁ : outcome₁.Fails ∨ (permit.operation = .getSelectedCredential →
      Earned context.key permit envelope outcome₁ φ₁.2) := by
    obtain rfl | hfails := hresult₁
    · exact .inr fun hoperation => (h hoperation).congr h₁.request h₁.lease h₁.found
    · exact .inl hfails
  refine wp.seq (wp_recheckBrowser_filling hseen₁) fun outcome₂ φ₂ H₂ hφ₂ => ?_
  obtain ⟨hrequest₂, hlease₂, hfound₂, rfl, hresult₂⟩ := hφ₂
  have hdue : Due context.key permit outcome₂ φ₂ := by
    obtain hfails | ⟨rfl, hchecked⟩ := hresult₂
    · exact due_of_fails hfails
    · obtain hfails | hearned := hearned₁
      · exact due_of_fails hfails
      · exact Earned.due (fun hoperation => (hearned hoperation).congr hrequest₂ hlease₂ hfound₂)
          hchecked
  refine wp.seq (wp_respond_filling rfl (Finset.mem_insert_self _ _) hdue)
    fun written φ₃ H₃ hφ₃ => ?_
  subst hφ₃
  refine (wp_ite (M := machine P)).mpr ⟨fun _ => ?_, fun _ => ?_⟩
  · refine (wp_bind (M := machine P)).mpr (wp_dropContext_filling fun _ => ?_)
    exact ⟨Finset.mem_insert_self _ _, trivial, wp_endLockTransition_filling fun _ => gate_released⟩
  · refine ⟨Finset.mem_insert_self _ _, trivial, ?_⟩
    dsimp only [Prog.ret_bind]
    exact hend

/-! ### All programs -/

/-- Every program of the agent keeps to the discipline. -/
theorem wp_program_filling {hmac : List UInt8 → Bytes 32} {p : Code P Unit}
    (h : Program P hmac p) :
    wp (filling P) p (fun _ _ H' => True ∧ H' = ∅) (none, {}) ∅ := by
  have hends {K : Finset Kind} {q : Code P Unit} (hq : KeepsLoosely K q ∅) (hlease : .lease ∉ K)
      (hcompletion : .completion ∉ K) (hadmission : .admission ∉ K) :
      wp (filling P) q (fun _ _ H' => True ∧ H' = ∅) (none, {}) ∅ :=
    wp_mono (hq.serves hlease hcompletion hadmission) fun _ _ _ hφ' => ⟨trivial, hφ'.2⟩
  cases h with
  | accept connection => exact hends accept_keeps.loosely (by simp) (by simp) (by simp)
  | applyCancel connection header =>
    exact hends applyCancel_keeps.loosely (by simp) (by simp) (by simp)
  | disconnect rounds connection_id =>
    exact hends disconnect_keeps.loosely (by simp) (by simp) (by simp)
  | shutdown => exact hends shutdown_keeps (by simp) (by simp) (by simp)
  | dispatch rounds connection header envelope =>
    refine ⟨⟨Finset.empty_subset _, trivial⟩, fun ready =>
      (wp_ite (M := machine P)).mpr ⟨fun _ => ⟨trivial, rfl⟩, fun _ => ?_⟩⟩
    refine wp.seq wp_admitRequest_filling fun admission φ₁ H₁ hφ₁ => ?_
    obtain ⟨rfl, hadmitted⟩ := hφ₁
    cases admission with
    | fatal => exact ⟨trivial, rfl⟩
    | rejected response =>
      refine ⟨⟨by simp [Action.guard, RequestAdmission.held], trivial⟩, fun _ => ?_⟩
      exact ⟨Finset.mem_singleton_self _, trivial, trivial, gate_released⟩
    | admitted context permit =>
      refine wp.seq (wp_executeAdmitted_filling (hadmitted context permit rfl))
        fun outcome φ₂ H₂ hφ₂ => ?_
      obtain ⟨rfl, hearned⟩ := hφ₂
      cases outcome with
      | error e => exact wp_dropContext_filling fun _ => ⟨trivial, rfl⟩
      | ok outcome =>
        refine wp_mono (wp_finishDispatch_filling fun hoperation => hearned hoperation outcome rfl)
          fun _ _ _ hH => ⟨trivial, hH⟩

end

/-! ## Every fill -/

/-- The connection of a browser's native host. -/
def browserConnection : Connection :=
  { desktopConnection with
    role := .nativeHost
    granted_features := [featureBrowserFill]
    connection_id := Bytes.replicate 16 2 }

/-- A document of the origin for which the sample vault has an account. -/
def sampleDocument : BrowserContext where
  request_id := Bytes.replicate 16 3
  tab_id := 1
  document_id := Bytes.replicate 16 4
  top_origin := "https://example.com"
  frame_origin := "https://example.com"
  accepted := by decide
  bounded := by decide

/-- The sample account as it is offered. -/
def sampleSelection : BrowserSelection where
  token := Bytes.replicate 16 9
  record_id := Bytes.replicate 16 1
  revision := 1
  accepted := by decide

/-- The outside with one account in the vault. -/
def fillingOracle : Oracle :=
  { favourableOracle with
    stored := some ((sampleRun.map StoredVault.snapshot).getD ⟨[], [], []⟩)
    random := some (Bytes.replicate 16 9) }

/-- The browser's native host sends a request. -/
def browse (request_id : ℕ) (operation : OperationRequest) : Move (machine exampleComPrimitives) :=
  .spawn (dispatch sampleHmac 0 browserConnection
    ⟨.request, browserConnection.version, 0, browserConnection.connection_id, request_id⟩
    (desktopRequest operation 2 none))

/-- The desktop has unlocked the vault, and the browser asks for an account and then for its
credential, which is about to be written. -/
def filled : List (Move (machine exampleComPrimitives)) :=
  .spawn (accept desktopConnection) :: steps 0 5 fillingOracle ++
    send 1 sampleUnlock :: steps 1 65 fillingOracle ++
    .spawn (accept browserConnection) :: steps 2 5 fillingOracle ++
    browse 1 (.exactOriginMatches sampleDocument) :: steps 3 55 fillingOracle ++
    browse 2 (.getSelectedCredential sampleDocument sampleSelection) :: steps 4 46 fillingOracle

theorem allowed_filled : Allowed filled := by
  have hspawn {q : Prog (machine exampleComPrimitives) Unit} (hq : Program _ sampleHmac q)
      (t n : ℕ) : Allowed (.spawn q :: steps t n fillingOracle) := by
    intro p hmem
    rcases List.mem_cons.mp hmem with hspawn | hmem
    · cases hspawn
      exact hq
    · exact allowed_steps _ _ _ p hmem
  exact ((((hspawn (.accept _) 0 5).append ((allowed_steps _ _ _).send _ _)).append
    (hspawn (.accept _) 2 5)).append (hspawn (.dispatch _ _ _ _) 3 55)).append
      (hspawn (.dispatch _ _ _ _) 4 46)

/-- The last event hands a selected credential to the transport. -/
def endsFilling : History (machine P) → Bool
  | .action _ (.writeResponse _ permit _ (.success _)) _ _ :: _ =>
    decide (permit.operation = .getSelectedCredential)
  | _ => false

theorem exists_of_endsFilling {history : History (machine P)} (h : endsFilling history = true) :
    ∃ t key permit committed body s before,
      history = .action t (.writeResponse key permit committed (.success body)) () s :: before ∧
        permit.operation = .getSelectedCredential := by
  unfold endsFilling at h
  split at h
  · next t key permit committed body _ s before =>
    exact ⟨t, key, permit, committed, body, s, before, rfl, of_decide_eq_true h⟩
  · cases h

end Librarian.Agent
