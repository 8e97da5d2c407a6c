import Librarian.Agent.Committing
import Librarian.Agent.Waiting

/-!
# When a change is made durable

The mutations of the requests, the rollback of the creations that a client has left behind and the
cleanup of an unlock all end in the same commit. Each of them reads the epoch first and the state
after it, and then both the Lock's flag and the epoch, or the state again, in the section of the
commit.
-/

namespace Librarian.Agent

open Conc Librarian.Core Librarian.Protocol

variable {P : Primitives} {α β : Type}

section

variable {H : Finset Mutex} {φ : Option Seen × Committing} {context : RequestContext}

/-- A part of the code that only adds to what the thread knows. -/
def Adds (p : Code P α) (φ : Option Seen × Committing) (H : Finset Mutex) : Prop :=
  wp (committing P) p (fun _ φ' H' => φ.2.Extends φ'.2 ∧ H' = H) φ H

/-- A part that makes nothing durable, for whatever it ends with. -/
theorem wp_adding {K : Finset Kind} {L : Finset Mutex → Mutex → Prop} {p : Code P α}
    {R : Finset Mutex → Prop} {φ₀ : Committing} (hwrite : .write ∉ K) (hadmission : .admission ∉ K)
    (h : wp (M := machine P) (guards (within K) L) p (fun _ _ H' => R H') () H)
    (hφ : φ₀.Extends φ.2) :
    wp (committing P) p (fun _ φ' H' => φ₀.Extends φ'.2 ∧ R H') φ H := by
  refine wp_of_guards (M := machine P) (P := fun φ' : Option Seen × Committing =>
    φ₀.Extends φ'.2) h hφ ?_ ?_ ?_
  · intro a φ' H hφ hwithin
    have hkind : a.kind ∈ insert Kind.plain K := hwithin.2
    have hne {kind : Kind} (hkind' : kind ∉ insert Kind.plain K) : a.kind ≠ kind := by
      rintro rfl
      exact hkind' hkind
    refine ⟨⟨hwithin.1, Committing.allows_of_kind (hne (by simp [hwrite]))⟩, fun r => ?_⟩
    exact hφ.trans (φ'.2.extends_next (hne (by simp [hadmission])) r)
  · intro φ' H m hφ _
    exact ⟨trivial, hφ.trans (φ'.2.extends_acquire m)⟩
  · intro φ' m hφ
    exact ⟨trivial, hφ⟩

theorem Keeps.adds {K : Finset Kind} {p : Code P α} (h : Keeps K p H) (hwrite : .write ∉ K)
    (hadmission : .admission ∉ K) : Adds p φ H :=
  wp_adding hwrite hadmission h (Committing.Extends.refl _)

theorem KeepsLoosely.adds {K : Finset Kind} {p : Code P α} (h : KeepsLoosely K p H)
    (hwrite : .write ∉ K) (hadmission : .admission ∉ K) : Adds p φ H :=
  wp_adding hwrite hadmission h (Committing.Extends.refl _)

/-- A part that only adds to what the thread knows, and then the rest. -/
theorem Adds.seq {p : Code P α} {f : α → Code P β}
    {Q : β → Option Seen × Committing → Finset Mutex → Prop} (hp : Adds p φ H)
    (hf : ∀ a φ', φ.2.Extends φ'.2 → wp (committing P) (f a) Q φ' H) :
    wp (committing P) (p.bind f) Q φ H := by
  refine wp.seq hp fun a φ' H' hφ' => ?_
  obtain ⟨hextends, rfl⟩ := hφ'
  exact hf a φ' hextends

/-- What follows the end of a part adds to what was known before it. -/
theorem Adds.trans {p : Code P α} {φ₀ : Option Seen × Committing} (hp : Adds p φ H)
    (h : φ₀.2.Extends φ.2) :
    wp (committing P) p (fun _ φ' H' => φ₀.2.Extends φ'.2 ∧ H' = H) φ H :=
  wp_mono hp fun _ _ _ hφ' => ⟨h.trans hφ'.1, hφ'.2⟩

/-- The thread serves a request. -/
def Serving (context : RequestContext) (φ : Option Seen × Committing) : Prop :=
  φ.2.request = some (context.key, context.unlock_epoch)

/-- The thread serves a request whose unlock epoch has been reached. -/
structure Reached (context : RequestContext) (φ : Option Seen × Committing) : Prop where
  serving : Serving context φ
  reached : context.unlock_epoch ∈ φ.2.reached

/-- The agent has been open at the unlock epoch of the request, if the epoch is still the same. -/
structure Vouches (context : RequestContext) (φ : Option Seen × Committing) : Prop where
  reached : Reached context φ
  vouched : context.unlock_epoch ∈ φ.2.vouched

theorem Serving.extends {φ' : Option Seen × Committing} (h : Serving context φ)
    (hφ : φ.2.Extends φ'.2) : Serving context φ' :=
  hφ.request.trans h

theorem Reached.extends {φ' : Option Seen × Committing} (h : Reached context φ)
    (hφ : φ.2.Extends φ'.2) : Reached context φ' :=
  ⟨h.serving.extends hφ, hφ.reached h.reached⟩

theorem Vouches.extends {φ' : Option Seen × Committing} (h : Vouches context φ)
    (hφ : φ.2.Extends φ'.2) : Vouches context φ' :=
  ⟨h.reached.extends hφ, hφ.vouched h.vouched⟩

/-- One action that needs no mutex, is no commit and begins no request. -/
theorem wp_adds {a : Action P} {k : a.Result → Code P α}
    {Q : α → Option Seen × Committing → Finset Mutex → Prop} (hguard : a.guard = ∅)
    (hkind : a.kind = .plain)
    (hk : ∀ r φ', φ'.1 = φ.1.map (fun seen => seen.after a r) → φ'.2 = φ.2.next a r →
      φ.2.Extends φ'.2 → wp (committing P) (k r) Q φ' H) :
    wp (committing P) (.call a k) Q φ H := by
  have hwrite : a.kind ≠ .write := by simp [hkind]
  have hadmission : a.kind ≠ .admission := by simp [hkind]
  refine ⟨⟨hguard ▸ Finset.empty_subset H, Committing.allows_of_kind hwrite⟩, fun r => ?_⟩
  exact hk r _ rfl rfl (φ.2.extends_next hadmission r)

/-- The epoch is read after the state: if it had been reached before, the thread vouches for it. -/
theorem wp_notUnlockedAt {unlock_epoch : ℕ} :
    wp (committing P) (notUnlockedAt unlock_epoch) (fun outdated φ' H' => φ.2.Extends φ'.2 ∧ H' = H ∧
      (outdated = false → unlock_epoch ∈ φ'.2.reached ∧
        (unlock_epoch ∈ φ.2.reached → unlock_epoch ∈ φ'.2.vouched))) φ H := by
  refine wp_adds rfl rfl fun state φ₁ _ hφ₁ h₁ => (wp_ite (M := machine P)).mpr
    ⟨fun _ => ⟨h₁, rfl, fun h => by cases h⟩, fun hstate => ?_⟩
  obtain rfl : state = .unlocked := not_not.mp hstate
  refine wp_adds rfl rfl fun epoch φ₂ _ hφ₂ h₂ => ⟨h₁.trans h₂, rfl, fun h => ?_⟩
  have hepoch : epoch = unlock_epoch := not_not.mp (of_decide_eq_false h)
  subst hepoch
  refine ⟨?_, fun hold => h₂.vouched ?_⟩
  · rw [hφ₂]
    exact Set.mem_insert _ _
  · rw [hφ₁]
    exact .inr hold

/-- The check of a request: the second one vouches for the epoch that the first one has read. -/
theorem wp_preSecretOperation (hserving : Serving context φ) :
    wp (committing P) (preSecretOperation context) (fun outcome φ' H' => φ.2.Extends φ'.2 ∧ H' = H ∧
      (outcome = none → Reached context φ' ∧ (Reached context φ → Vouches context φ'))) φ H := by
  have hleave {φ' : Option Seen × Committing} (h : φ.2.Extends φ'.2) (outcome : ExecutionOutcome) :
      φ.2.Extends φ'.2 ∧ H = H ∧ (some outcome = none →
        Reached context φ' ∧ (Reached context φ → Vouches context φ')) :=
    ⟨h, rfl, fun hnone => by cases hnone⟩
  refine wp_adds rfl rfl fun active φ₁ _ _ h₁ =>
    (wp_ite (M := machine P)).mpr ⟨fun _ => hleave h₁ _, fun _ => ?_⟩
  refine wp_adds rfl rfl fun cancelled φ₂ _ _ h₂ =>
    (wp_ite (M := machine P)).mpr ⟨fun _ => hleave (h₁.trans h₂) _, fun _ => ?_⟩
  refine wp_adds rfl rfl fun now φ₃ _ _ h₃ =>
    (wp_ite (M := machine P)).mpr ⟨fun _ => hleave (h₁.trans (h₂.trans h₃)) _, fun _ => ?_⟩
  have hbefore := h₁.trans (h₂.trans h₃)
  refine wp.seq wp_notUnlockedAt fun outdated φ₄ H₄ hφ₄ => ?_
  obtain ⟨h₄, rfl, hcurrent⟩ := hφ₄
  have hafter := hbefore.trans h₄
  cases outdated with
  | true => exact hleave hafter _
  | false =>
  obtain ⟨hreached, hvouched⟩ := hcurrent rfl
  have hreached' : Reached context φ₄ := ⟨hserving.extends hafter, hreached⟩
  exact ⟨hafter, rfl, fun _ => ⟨hreached', fun hold =>
    ⟨hreached', hvouched (hbefore.reached hold.reached)⟩⟩⟩

/-! ### The checks before a commit -/

/-- Whatever the check reads in the section, the commit is permitted when it has passed. -/
def Clears (origin : Origin) (check : Code P Bool) (φ : Option Seen × Committing)
    (H : Finset Mutex) : Prop :=
  wp (committing P) check (fun passed φ' H' => φ.2.Extends φ'.2 ∧ H' = H ∧ (passed = true →
    ∃ known, φ'.1 = some known ∧ known.lockClear = true ∧ φ'.2.Permits known origin)) φ H

/-- A check that fails leaves what is known as it was. -/
theorem clears_failed {origin : Origin} {φ₀ : Option Seen × Committing} (h : φ₀.2.Extends φ.2) :
    φ₀.2.Extends φ.2 ∧ H = H ∧ (false = true →
      ∃ known, φ.1 = some known ∧ known.lockClear = true ∧ φ.2.Permits known origin) :=
  ⟨h, rfl, fun hfalse => by cases hfalse⟩

/-- The four conditions of a request's commit. -/
theorem stillAuthorized_clears {seen : Seen} (hvouches : Vouches context φ)
    (hseen : φ.1 = some seen) :
    Clears (.request context.key context.unlock_epoch) (stillAuthorized context : Code P Bool)
      φ H := by
  refine wp_adds rfl rfl fun epoch φ₁ hseen₁ _ h₁ => (wp_ite (M := machine P)).mpr
    ⟨fun _ => clears_failed h₁, fun hepoch => ?_⟩
  refine wp_adds rfl rfl fun active φ₂ hseen₂ _ h₂ => (wp_ite (M := machine P)).mpr
    ⟨fun _ => clears_failed (h₁.trans h₂), fun hactive => ?_⟩
  refine wp_adds rfl rfl fun cancelled φ₃ hseen₃ _ h₃ => (wp_ite (M := machine P)).mpr
    ⟨fun _ => clears_failed (h₁.trans (h₂.trans h₃)), fun hcancelled => ?_⟩
  refine wp_adds rfl rfl fun now φ₄ hseen₄ _ h₄ => ?_
  have hafter := h₁.trans (h₂.trans (h₃.trans h₄))
  obtain rfl : epoch = context.unlock_epoch := not_not.mp hepoch
  obtain rfl : active = false := Bool.eq_false_of_not_eq_true hactive
  obtain rfl : cancelled = false := Bool.eq_false_of_not_eq_true hcancelled
  have hknown : φ₄.1 = some { seen with
      epoch := some context.unlock_epoch, lockClear := true, uncancelled := some context.key } := by
    rw [hseen₄, hseen₃, hseen₂, hseen₁, hseen]
    rfl
  have hvouches' := hvouches.extends hafter
  exact ⟨hafter, rfl, fun _ =>
    ⟨_, hknown, rfl, hvouches'.reached.serving, hvouches'.vouched, rfl, rfl⟩⟩

/-- A look at the registry of pending creations teaches nothing about the section. -/
theorem wp_getPending {key : PendingPasskeyCreationKey} :
    wp (committing P) (getPending key) (fun _ φ' H' => φ'.1 = φ.1 ∧ φ.2.Extends φ'.2 ∧ H' = H)
      φ H := by
  refine (wp_withLock (M := machine P)).mpr ⟨trivial, fun hfree => ?_⟩
  refine ⟨⟨by simp [Action.guard], trivial⟩, fun current => ?_⟩
  refine ⟨Finset.mem_insert_self _ _, trivial, ?_, Committing.Extends.refl _,
    Finset.erase_insert hfree⟩
  show (φ.1.map fun seen => Seen.after seen (.pendingGet key : Action P) current) = φ.1
  cases φ.1 with
  | none => rfl
  | some seen => rfl

theorem confirmAuthorized_clears {seen : Seen} {key : PendingPasskeyCreationKey}
    {expected : PendingPasskeyCreation} (hvouches : Vouches context φ) (hseen : φ.1 = some seen) :
    Clears (.request context.key context.unlock_epoch)
      (confirmAuthorized context key expected : Code P Bool) φ H := by
  refine wp.seq wp_getPending fun current φ₁ H₁ hφ₁ => ?_
  obtain ⟨hseen₁, h₁, rfl⟩ := hφ₁
  refine wp.seq (stillAuthorized_clears (hvouches.extends h₁) (hseen₁.trans hseen))
    fun authorized φ₂ H₂ hφ₂ => ?_
  obtain ⟨h₂, rfl, hcleared⟩ := hφ₂
  cases authorized with
  | false => exact clears_failed (h₁.trans h₂)
  | true => exact ⟨h₁.trans h₂, rfl, fun _ => hcleared rfl⟩

theorem rollbackAuthorized_clears {seen : Seen} {unlock_epoch : ℕ}
    {key : PendingPasskeyCreationKey} {pending : PendingPasskeyCreation}
    (hvouched : unlock_epoch ∈ φ.2.vouched) (hseen : φ.1 = some seen) :
    Clears .disconnectedCreation (rollbackAuthorized unlock_epoch key pending : Code P Bool)
      φ H := by
  refine wp.seq wp_getPending fun current φ₁ H₁ hφ₁ => ?_
  obtain ⟨hseen₁, h₁, rfl⟩ := hφ₁
  refine wp_adds rfl rfl fun epoch φ₂ hseen₂ _ h₂ => (wp_ite (M := machine P)).mpr
    ⟨fun _ => clears_failed (h₁.trans h₂), fun hepoch => ?_⟩
  refine wp_adds rfl rfl fun active φ₃ hseen₃ _ h₃ => (wp_ite (M := machine P)).mpr
    ⟨fun _ => clears_failed (h₁.trans (h₂.trans h₃)), fun hactive => ?_⟩
  have hafter := h₁.trans (h₂.trans h₃)
  obtain rfl : epoch = unlock_epoch := not_not.mp hepoch
  obtain rfl : active = false := Bool.eq_false_of_not_eq_true hactive
  have hknown : φ₃.1 = some { seen with epoch := some epoch, lockClear := true } := by
    rw [hseen₃, hseen₂, hseen₁, hseen]
    rfl
  exact ⟨hafter, rfl, fun _ => ⟨_, hknown, rfl, epoch, hafter.vouched hvouched, rfl⟩⟩

/-- The check of an unlock's cleanup reads the state in the section of the commit. -/
theorem cleanupShouldAbort_clears {seen : Seen} (hseen : φ.1 = some seen) :
    Clears .recoveredCreation (do return !(← cleanupShouldAbort context) : Code P Bool) φ H := by
  have hcheck : wp (committing P) (cleanupShouldAbort context) (fun aborted φ' H' =>
      φ.2.Extends φ'.2 ∧ H' = H ∧ (aborted = false → φ'.2.opening = true ∧
        ∃ known, φ'.1 = some known ∧ known.lockClear = true)) φ H := by
    have hleave {φ' : Option Seen × Committing} (h : φ.2.Extends φ'.2) : φ.2.Extends φ'.2 ∧ H = H ∧
        (true = false → φ'.2.opening = true ∧
          ∃ known, φ'.1 = some known ∧ known.lockClear = true) :=
      ⟨h, rfl, fun htrue => by cases htrue⟩
    refine wp_adds rfl rfl fun active φ₁ hseen₁ _ h₁ => ?_
    cases active with
    | true => exact hleave h₁
    | false =>
    refine wp_adds rfl rfl fun state φ₂ hseen₂ hφ₂ h₂ => ?_
    by_cases hstate : state = .unlocking
    · subst hstate
      refine wp_adds rfl rfl fun cancelled φ₃ hseen₃ hφ₃ h₃ => ?_
      cases cancelled with
      | true => exact hleave (h₁.trans (h₂.trans h₃))
      | false =>
      refine wp_adds rfl rfl fun now φ₄ hseen₄ hφ₄ h₄ => ?_
      have hknown : φ₄.1 = some { seen with lockClear := true, uncancelled := some context.key } := by
        rw [hseen₄, hseen₃, hseen₂, hseen₁, hseen]
        rfl
      refine ⟨h₁.trans (h₂.trans (h₃.trans h₄)), rfl, fun _ => ⟨?_, _, hknown, rfl⟩⟩
      rw [hφ₄, hφ₃, hφ₂]
      rfl
    · cases state <;> first
        | exact absurd rfl hstate
        | exact hleave (h₁.trans h₂)
  refine wp.seq hcheck fun aborted φ' H' hφ' => ?_
  obtain ⟨hextends, rfl, hpassed⟩ := hφ'
  cases aborted with
  | true => exact clears_failed hextends
  | false =>
    obtain ⟨hopening, known, hknown, hclear⟩ := hpassed rfl
    exact ⟨hextends, rfl, fun _ => ⟨known, hknown, hclear, hopening⟩⟩

/-! ### Mutations -/

theorem wp_persistMutation {origin : Origin} {permit : OperationPermit}
    {prepared : PreparedRecordMutation} {check : Code P Bool} (hvault : .vault ∈ H)
    (hcheck : ∀ φ', φ.2.Extends φ'.2 → φ'.1 = some {} →
      Clears origin check φ' (insert .commitGate H)) :
    wp (committing P) (persistMutation origin permit prepared check)
      (fun result φ' H' => φ.2.Extends φ'.2 ∧ H' = afterMutation H result) φ H := by
  have hlock {φ' : Option Seen × Committing} {H' : Finset Mutex} (hH' : .vault ∈ H')
      {k : Unit → Code P (Except AccountError RecordId)}
      {Q : Except AccountError RecordId → Option Seen × Committing → Finset Mutex → Prop}
      (hk : ∀ φ'', φ'.2.Extends φ''.2 → wp (committing P) (k ()) Q φ'' H') :
      wp (committing P) (.call (.vaultLock : Action P) k) Q φ' H' :=
    ⟨⟨by simpa [Action.guard] using hH', trivial⟩, fun _ => hk _ (Committing.Extends.refl _)⟩
  refine ⟨⟨by simpa [Action.guard] using hvault, trivial⟩, fun authorized => ?_⟩
  cases authorized with
  | false => exact ⟨Committing.Extends.refl _, rfl⟩
  | true =>
  refine wp_adds rfl rfl fun staged φ₁ _ _ h₁ => ?_
  cases staged with
  | false => exact hlock hvault fun φ₂ h₂ => ⟨h₁.trans h₂, rfl⟩
  | true =>
  refine ⟨trivial, fun hfree => ?_⟩
  rw [Prog.ret_bind]
  refine wp.seq (hcheck (some {}, φ₁.2.acquire .commitGate)
    (h₁.trans (φ₁.2.extends_acquire .commitGate)) rfl)
    fun passed φ₂ H₂ hφ₂ => ?_
  obtain ⟨h₂, rfl, hcleared⟩ := hφ₂
  have hbefore := h₁.trans ((φ₁.2.extends_acquire .commitGate).trans h₂)
  cases passed with
  | false => exact ⟨Finset.mem_insert_self _ _, trivial, hbefore, Finset.erase_insert hfree⟩
  | true =>
  obtain ⟨known, hknown, hclear, hpermits⟩ := hcleared rfl
  refine ⟨⟨by simp [Action.guard, Finset.insert_subset_iff, hvault],
    known, hknown, hclear, hpermits⟩, fun committed => ?_⟩
  cases committed with
  | false =>
    exact hlock (Finset.mem_insert_of_mem hvault) fun φ₃ h₃ =>
      ⟨Finset.mem_insert_self _ _, trivial, hbefore.trans h₃, Finset.erase_insert hfree⟩
  | true =>
  refine ⟨⟨by simp [Action.guard, Finset.insert_subset_iff, hvault], trivial⟩, fun applied => ?_⟩
  cases applied with
  | error error => exact ⟨Finset.mem_insert_self _ _, trivial, hbefore, Finset.erase_insert hfree⟩
  | ok id => exact ⟨hbefore, rfl⟩

/-- The rule for a mutation: its check is made in the section of its commit. -/
theorem wp_mutateVault {origin : Origin} {change : Change P α} {should_cancel : Code P Bool}
    {check : Code P Bool} (hvault : .vault ∈ H) (hcancel : Keeps ∅ should_cancel H)
    (hcheck : ∀ φ', φ.2.Extends φ'.2 → φ'.1 = some {} →
      Clears origin check φ' (insert .commitGate H)) :
    wp (committing P) (mutateVault origin change should_cancel check)
      (fun result φ' H' => φ.2.Extends φ'.2 ∧ H' = afterMutation H result) φ H := by
  refine ⟨⟨by simpa [Action.guard] using hvault, trivial⟩, fun result => ?_⟩
  cases result with
  | error error => exact ⟨Committing.Extends.refl _, rfl⟩
  | ok value =>
  obtain ⟨permit, prepared, value⟩ := value
  have hagain : Keeps ∅ (cancelledAgain change should_cancel) H := by
    unfold cancelledAgain
    split_ifs
    · exact hcancel
    · rfl
  simp only [Prog.ret_bind]
  refine Adds.seq (hagain.adds (by simp) (by simp)) fun cancelled φ₁ h₁ => ?_
  cases cancelled with
  | true => exact ⟨h₁, rfl⟩
  | false =>
  refine wp.seq (wp_persistMutation hvault fun φ' h hseen => hcheck φ' (h₁.trans h) hseen)
    fun result φ₂ H₂ hφ₂ => ?_
  obtain ⟨h₂, rfl⟩ := hφ₂
  cases result <;> exact ⟨h₁.trans h₂, rfl⟩

/-- The rule for the mutations of a request. -/
theorem wp_writeVault {change : Change P α} {check : Code P Bool}
    {finish : α → RecordId → Code P Outcome} {K : Finset Kind} (hH : Below H .vault)
    (hreached : Reached context φ) (hwrite : .write ∉ K) (hadmission : .admission ∉ K)
    (hcheck : ∀ φ' H', Vouches context φ' → φ'.1 = some {} →
      Clears (.request context.key context.unlock_epoch) check φ' H')
    (hfinish : ∀ value id, Keeps K (finish value id) (insert .commitGate (insert .vault H))) :
    Adds (writeVault context change check finish) φ H := by
  refine ⟨trivial, fun hfree => ?_⟩
  rw [Prog.ret_bind]
  have hvault := φ.2.extends_acquire .vault
  refine wp.seq (wp_preSecretOperation (hreached.serving.extends hvault))
    fun outcome φ₁ H₁ hφ₁ => ?_
  obtain ⟨h₁, rfl, hpassed⟩ := hφ₁
  have hbefore := hvault.trans h₁
  cases outcome with
  | some outcome => exact ⟨Finset.mem_insert_self _ _, trivial, hbefore, Finset.erase_insert hfree⟩
  | none =>
  have hvouches : Vouches context φ₁ := (hpassed rfl).2 (hreached.extends hvault)
  refine wp.seq (wp_mutateVault (Finset.mem_insert_self _ _) secretOperationShouldAbort_keeps
    fun φ' h hseen => hcheck φ' _ (hvouches.extends h) hseen) fun result φ₂ H₂ hφ₂ => ?_
  obtain ⟨h₂, rfl⟩ := hφ₂
  have hmutated := hbefore.trans h₂
  cases result with
  | error error => exact wp_adding (by simp) (by simp) (mutationFailed_keeps hH) hmutated
  | ok value =>
    refine Adds.seq ((hfinish value.1 value.2).adds hwrite hadmission) fun _ φ₃ h₃ => ?_
    obtain ⟨hv, -, hg, -, hgone⟩ := released_both hH
    exact ⟨hv, trivial, hg, trivial, hmutated.trans h₃, hgone⟩

/-- The check with which an operation begins reaches the epoch of its request. -/
theorem wp_checkingFirst {body : Code P Outcome} (hserving : Serving context φ)
    (hbody : ∀ φ', φ.2.Extends φ'.2 → Reached context φ' → Adds body φ' H) :
    Adds (checkingFirst context body) φ H := by
  refine wp.seq (wp_preSecretOperation hserving) fun outcome φ₁ H₁ hφ₁ => ?_
  obtain ⟨h₁, rfl, hpassed⟩ := hφ₁
  cases outcome with
  | some outcome => exact ⟨h₁, rfl⟩
  | none => exact (hbody φ₁ h₁ (hpassed rfl).1).trans h₁

theorem Adds.withFlag {flag : Flag} {body : Code P Outcome} (hflag : flag ≠ .lock)
    (hbody : ∀ φ', φ.2.Extends φ'.2 → Adds body φ' H) : Adds (withFlag flag body) φ H := by
  have haccess : (Action.acquireActive flag : Action P).guard = ∅ ∧
      (Action.acquireActive flag : Action P).kind = .plain ∧
      (Action.storeActive flag false : Action P).guard = ∅ ∧
      (Action.storeActive flag false : Action P).kind = .plain := by
    cases flag <;> first | exact absurd rfl hflag | exact ⟨rfl, rfl, rfl, rfl⟩
  obtain ⟨hguard, hkind, hguard', hkind'⟩ := haccess
  refine wp_adds hguard hkind fun taken φ₁ _ _ h₁ => ?_
  cases taken with
  | false => exact ⟨h₁, rfl⟩
  | true =>
  simp only [Prog.ret_bind]
  refine Adds.seq (hbody φ₁ h₁) fun outcome φ₂ h₂ => ?_
  refine wp_adds hguard' hkind' fun _ φ₃ _ _ h₃ => ?_
  exact ⟨h₁.trans (h₂.trans h₃), rfl⟩

theorem Adds.withLock {m : Mutex} {p : Code P α}
    (hp : ∀ φ', φ.2.Extends φ'.2 → Adds p φ' (insert m H)) :
    Adds (Prog.withLock (M := machine P) m p) φ H := by
  refine (wp_withLock (M := machine P)).mpr ⟨trivial, fun hfree => ?_⟩
  have hacquire : φ.2.Extends ((committing P).acquire φ m).2 := φ.2.extends_acquire m
  refine wp_mono (hp _ hacquire) fun _ φ' H' h => ?_
  obtain ⟨hextends, rfl⟩ := h
  exact ⟨Finset.mem_insert_self _ _, trivial, hacquire.trans hextends, Finset.erase_insert hfree⟩

/-! ### The operations of a request -/

theorem writeAccount_adds {change : Change P Unit} {body : RecordId → Body}
    (hreached : Reached context φ) : Adds (writeAccount context change body) φ ∅ :=
  wp_writeVault (K := {.secret}) (by simp) hreached (by simp) (by simp)
    (fun _ _ hvouches hseen => stillAuthorized_clears hvouches hseen) fun _ _ =>
      ⟨within_of {.vault, .commitGate} .secret rfl rfl (by simp)
        (by simp [Finset.insert_subset_iff]), fun _ => rfl⟩

/-- The mutations that take no more than the vault's answer. -/
theorem writeVault_adds {change : Change P α} {respond : α → RecordId → Outcome}
    (hreached : Reached context φ) :
    Adds (writeVault context change (stillAuthorized context) fun value id =>
      return respond value id) φ ∅ :=
  wp_writeVault (K := ∅) (by simp) hreached (by simp) (by simp)
    (fun _ _ hvouches hseen => stillAuthorized_clears hvouches hseen) fun _ _ => rfl

theorem addAccount_adds {fields : AccountFields} (hserving : Serving context φ) :
    Adds (addAccount context fields : Code P _) φ ∅ := by
  refine Adds.withFlag (by simp) fun φ₁ h₁ => ?_
  refine wp_checkingFirst (hserving.extends h₁) fun φ₂ h₂ hreached => ?_
  cases accountInput P fields with
  | none => exact ⟨Committing.Extends.refl _, rfl⟩
  | some input => exact writeAccount_adds hreached

theorem updateAccount_adds {id : RecordId} {fields : AccountFields}
    (hserving : Serving context φ) : Adds (updateAccount context id fields : Code P _) φ ∅ := by
  refine Adds.withFlag (by simp) fun φ₁ h₁ => ?_
  refine wp_checkingFirst (hserving.extends h₁) fun φ₂ h₂ hreached => ?_
  cases accountInput P fields with
  | none => exact ⟨Committing.Extends.refl _, rfl⟩
  | some input => exact writeAccount_adds hreached

theorem deleteAccount_adds {id : RecordId} (hserving : Serving context φ) :
    Adds (deleteAccount context id : Code P _) φ ∅ :=
  Adds.withFlag (by simp) fun _ h₁ => wp_checkingFirst (hserving.extends h₁)
    fun _ _ hreached => writeAccount_adds hreached

theorem deletePasskey_adds {credential_id : Bytes 32} (hserving : Serving context φ) :
    Adds (deletePasskey context credential_id : Code P _) φ ∅ :=
  Adds.withFlag (by simp) fun _ h₁ => wp_checkingFirst (hserving.extends h₁)
    fun _ _ hreached => writeVault_adds hreached

theorem getPasskeyAssertion_adds {credential_id : Bytes 32} (hserving : Serving context φ) :
    Adds (getPasskeyAssertion context credential_id : Code P _) φ ∅ := by
  refine wp_checkingFirst hserving fun φ₁ h₁ _ => wp_adds rfl rfl fun verified φ₂ _ _ h₂ => ?_
  cases verified with
  | error error => exact ⟨h₂, rfl⟩
  | ok verified =>
    have hmutation : Adds (withFlag .mutation <| checkingFirst context <|
        writeVault context
          (.signPasskeyAssertion verified.rp_id credential_id verified.client_data_hash)
          (stillAuthorized context) fun assertion _ =>
            return .ok (ExecutionOutcome.success (.passkeyAssertion assertion)).commitPoint :
        Code P _) φ₂ ∅ :=
      Adds.withFlag (by simp) fun _ h₃ =>
        wp_checkingFirst (hserving.extends (h₁.trans (h₂.trans h₃)))
          fun _ _ hreached => writeVault_adds hreached
    exact hmutation.trans h₂

/-! ### The rollback of creations -/

theorem wp_rollbackOutdated {unlock_epoch : ℕ} (hreached : unlock_epoch ∈ φ.2.reached) :
    wp (committing P) (rollbackOutdated unlock_epoch) (fun outdated φ' H' => φ.2.Extends φ'.2 ∧
      H' = H ∧ (outdated = false → unlock_epoch ∈ φ'.2.vouched)) φ H := by
  refine wp_adds rfl rfl fun state φ₁ _ hφ₁ h₁ => (wp_ite (M := machine P)).mpr
    ⟨fun _ => ⟨h₁, rfl, fun h => by cases h⟩, fun hstate => ?_⟩
  obtain rfl : state = .unlocked := not_not.mp hstate
  have hvouched : unlock_epoch ∈ φ₁.2.vouched := by
    rw [hφ₁]
    exact .inr hreached
  refine wp_mono (rollbackShouldAbort_keeps.adds (by simp) (by simp)) fun outdated φ₂ H₂ h₂ => ?_
  exact ⟨h₁.trans h₂.1, h₂.2, fun _ => h₂.1.vouched hvouched⟩

theorem rollbackRound_adds {key : PendingPasskeyCreationKey} {pending : PendingPasskeyCreation}
    {unlock_epoch : ℕ} (hH : Below H .vault) (hreached : unlock_epoch ∈ φ.2.reached) :
    Adds (rollbackRound key pending unlock_epoch : Code P _) φ H := by
  have hpending : Below (insert .vault H) .pendingPasskeyCreations := by
    simpa [Mutex.rank] using hH.mono (by simp [Mutex.rank])
  have hpending' : Below (insert .commitGate (insert .vault H)) .pendingPasskeyCreations := by
    simpa [Mutex.rank] using hpending
  refine ⟨trivial, fun hfree => ?_⟩
  rw [Prog.ret_bind]
  have hvault := φ.2.extends_acquire .vault
  refine wp.seq (wp_rollbackOutdated (hvault.reached hreached)) fun outdated φ₁ H₁ hφ₁ => ?_
  obtain ⟨h₁, rfl, hvouched⟩ := hφ₁
  have hbefore := hvault.trans h₁
  have hleave {φ' : Option Seen × Committing} (h : φ.2.Extends φ'.2) (round : Round) :
      wp (committing P) (do Prog.unlock (M := machine P) .vault; return round)
        (fun _ φ' H' => φ.2.Extends φ'.2 ∧ H' = H) φ' (insert .vault H) :=
    ⟨Finset.mem_insert_self _ _, trivial, h, Finset.erase_insert hfree⟩
  cases outdated with
  | true => exact hleave hbefore _
  | false =>
  refine wp.seq (wp_mutateVault (Finset.mem_insert_self _ _) rollbackShouldAbort_keeps
    fun φ' h hseen => rollbackAuthorized_clears (h.vouched (hvouched rfl)) hseen)
    fun result φ₂ H₂ hφ₂ => ?_
  obtain ⟨h₂, rfl⟩ := hφ₂
  have hmutated := hbefore.trans h₂
  cases result with
  | ok value =>
    refine Adds.seq ((removePending_keeps hpending').adds (by simp) (by simp))
      fun removed φ₃ h₃ => ?_
    obtain ⟨hv, -, hg, -, hgone⟩ := released_both hH
    refine ⟨hv, trivial, hg, trivial, ?_⟩
    cases removed <;> exact ⟨hmutated.trans h₃, hgone⟩
  | error error =>
    cases error with
    | notFound =>
      refine Adds.seq ((removePending_keeps hpending).adds (by simp) (by simp))
        fun removed φ₃ h₃ => ?_
      refine ⟨Finset.mem_insert_self _ _, trivial, ?_⟩
      cases removed <;> exact ⟨hmutated.trans h₃, Finset.erase_insert hfree⟩
    | aborted => exact hleave hmutated _
    | locked => exact hleave hmutated _
    | conflict => exact hleave hmutated _
    | failed =>
      refine wp.seq (wp_adding (by simp) (by simp) (accountErrorAfterCore_keeps hH) hmutated)
        fun outcome φ₃ H₃ hφ₃ => ?_
      cases outcome <;> exact hφ₃

theorem rollbackLoop_adds {rounds : ℕ} (hH : Below H .vault) :
    Adds (rollbackLoop rounds : Code P _) φ H := by
  induction rounds generalizing φ with
  | zero => trivial
  | succ rounds ih =>
    have hpending : Below H .pendingPasskeyCreations := hH.mono (by simp [Mutex.rank])
    refine Adds.seq ((pending_keeps rfl rfl hpending).adds (by simp) (by simp))
      fun candidate φ₁ h₁ => ?_
    cases candidate with
    | none => exact ⟨h₁, rfl⟩
    | some candidate =>
    refine Adds.seq (notUnlocked_keeps.adds (by simp) (by simp)) fun stopped φ₂ h₂ => ?_
    cases stopped with
    | true => exact ⟨h₁.trans h₂, rfl⟩
    | false =>
    refine wp_adds rfl rfl fun removed φ₃ _ _ h₃ => (wp_ite (M := machine P)).mpr
      ⟨fun _ => ⟨h₁.trans (h₂.trans h₃), rfl⟩, fun _ => ?_⟩
    -- The epoch is read here, and the state under the vault mutex.
    refine wp_adds rfl rfl fun unlock_epoch φ₄ _ hφ₄ h₄ => ?_
    have hreached : unlock_epoch ∈ φ₄.2.reached := by
      rw [hφ₄]
      exact Set.mem_insert _ _
    have hbefore := h₁.trans (h₂.trans (h₃.trans h₄))
    rw [Prog.ret_bind]
    refine Adds.seq (rollbackRound_adds hH hreached) fun round φ₅ h₅ => ?_
    cases round with
    | again => exact ih.trans (hbefore.trans h₅)
    | done result => exact ⟨hbefore.trans h₅, rfl⟩

theorem rollbackDisconnectedPasskeyCreations_adds {rounds : ℕ} :
    Adds (rollbackDisconnectedPasskeyCreations rounds : Code P _) φ ∅ :=
  Adds.withLock fun _ _ => rollbackLoop_adds (by simp [Mutex.rank])

/-! ### Operations on pending creations -/

theorem makePasskey_adds {rounds : ℕ} {proof : PasskeyTransactionProof}
    (hserving : Serving context φ) : Adds (makePasskey rounds context proof : Code P _) φ ∅ := by
  refine wp_checkingFirst hserving fun φ₁ h₁ _ => ?_
  refine Adds.seq rollbackDisconnectedPasskeyCreations_adds fun result φ₂ h₂ => ?_
  cases result with
  | error e => exact ⟨h₂, rfl⟩
  | ok done =>
  cases done with
  | false => exact ⟨h₂, rfl⟩
  | true =>
  refine wp_adds rfl rfl fun verified φ₃ _ _ h₃ => ?_
  cases verified with
  | error error => exact ⟨h₂.trans h₃, rfl⟩
  | ok verified =>
  simp only [Prog.ret_bind]
  refine wp.seq wp_getPending fun existing φ₄ H₄ hφ₄ => ?_
  obtain ⟨-, h₄, rfl⟩ := hφ₄
  have hbefore := h₂.trans (h₃.trans h₄)
  refine (wp_ite (M := machine P)).mpr ⟨fun _ => ⟨hbefore, rfl⟩, fun _ => ?_⟩
  refine Adds.trans (Adds.withFlag (by simp) fun φ₅ h₅ => ?_) hbefore
  refine wp_checkingFirst (hserving.extends (h₁.trans (hbefore.trans h₅)))
    fun φ₆ _ hreached => ?_
  cases (PasskeyInput.new P verified.rp_id verified.user_handle verified.user_name
    verified.user_display_name).toOption with
  | none => exact ⟨Committing.Extends.refl _, rfl⟩
  | some input =>
  refine wp_writeVault (K := {.creation}) (by simp) hreached (by simp) (by simp)
    (fun _ _ hvouches hseen => stillAuthorized_clears hvouches hseen) fun credential _ => ?_
  refine (pending_keeps rfl rfl (by simp [Mutex.rank])).seq (by simp) fun previous => ?_
  cases previous <;> rfl

theorem withPending_adds {proof : PasskeyTransactionProof}
    {accepts : PendingPasskeyCreation → Bool}
    {body : PendingPasskeyCreationKey → PendingPasskeyCreation → Code P Outcome}
    (hserving : Serving context φ)
    (hbody : ∀ key expected φ', Serving context φ' → Adds (body key expected) φ' ∅) :
    Adds (withPending context proof accepts body) φ ∅ := by
  refine wp_checkingFirst hserving fun φ₁ h₁ _ => wp_adds rfl rfl fun verified φ₂ _ _ h₂ => ?_
  cases verified with
  | error error => exact ⟨h₂, rfl⟩
  | ok verified =>
  simp only [Prog.ret_bind]
  refine wp.seq wp_getPending fun expected φ₃ H₃ hφ₃ => ?_
  obtain ⟨-, h₃, rfl⟩ := hφ₃
  have hbefore := h₂.trans h₃
  cases expected with
  | none => exact ⟨hbefore, rfl⟩
  | some expected =>
    by_cases haccepts : accepts expected = true
    · simp only [haccepts, if_true]
      exact (hbody _ _ φ₃ (hserving.extends (h₁.trans hbefore))).trans hbefore
    · simp only [haccepts]
      exact ⟨hbefore, rfl⟩

theorem confirmPasskeyCreation_adds {proof : PasskeyTransactionProof} {credential_id : Bytes 32}
    (hserving : Serving context φ) :
    Adds (confirmPasskeyCreation context proof credential_id : Code P _) φ ∅ := by
  refine withPending_adds hserving fun key expected φ₁ hserving₁ => ?_
  refine Adds.withFlag (by simp) fun φ₂ h₂ => ?_
  refine wp_checkingFirst (hserving₁.extends h₂) fun φ₃ _ hreached => ?_
  refine wp_writeVault (K := {.creation}) (by simp) hreached (by simp) (by simp)
    (fun _ _ hvouches hseen => confirmAuthorized_clears hvouches hseen) fun _ _ => ?_
  have hregistry (a : Action P) (hguard : a.guard = {.pendingPasskeyCreations})
      (hkind : a.kind = .creation) : within {.creation}
        (insert .pendingPasskeyCreations (insert .commitGate (insert .vault ∅))) a :=
    within_of _ .creation hguard hkind (by simp) (by simp)
  refine Keeps.withLock (by simp [Mutex.rank]) ⟨hregistry _ rfl rfl, fun current => ?_⟩
  simp only [Prog.ret_bind]
  refine (wp_ite (M := machine P)).mpr ⟨fun _ => rfl, fun _ => ?_⟩
  exact ⟨hregistry _ rfl rfl, fun _ => rfl⟩

theorem rollbackVault_adds {credential_id : Bytes 32} {key : PendingPasskeyCreationKey}
    {expected : PendingPasskeyCreation} (hreached : Reached context φ) :
    Adds (rollbackVault context credential_id key expected : Code P _) φ ∅ := by
  have hempty : Below ∅ Mutex.vault := by simp
  refine ⟨trivial, fun hfree => ?_⟩
  rw [Prog.ret_bind]
  have hvault := φ.2.extends_acquire .vault
  refine wp.seq (wp_preSecretOperation (hreached.serving.extends hvault))
    fun outcome φ₁ H₁ hφ₁ => ?_
  obtain ⟨h₁, rfl, hpassed⟩ := hφ₁
  have hbefore := hvault.trans h₁
  cases outcome with
  | some outcome => exact ⟨Finset.mem_insert_self _ _, trivial, hbefore, Finset.erase_insert hfree⟩
  | none =>
  have hvouches : Vouches context φ₁ := (hpassed rfl).2 (hreached.extends hvault)
  refine wp.seq (wp_mutateVault (Finset.mem_insert_self _ _) secretOperationShouldAbort_keeps
    fun φ' h hseen => stillAuthorized_clears (hvouches.extends h) hseen)
    fun result φ₂ H₂ hφ₂ => ?_
  obtain ⟨h₂, rfl⟩ := hφ₂
  have hmutated := hbefore.trans h₂
  have hforget (H' : Finset Mutex) (hH' : Below H' .pendingPasskeyCreations) :
      Adds (forgetPending key expected : Code P _) φ₂ H' :=
    (forgetPending_keeps hH').adds (by simp) (by simp)
  cases result with
  | ok value =>
    refine Adds.seq (hforget _ (by simp [afterMutation, Mutex.rank])) fun _ φ₃ h₃ => ?_
    obtain ⟨hv, -, hg, -, hgone⟩ := released_both hempty
    exact ⟨hv, trivial, hg, trivial, hmutated.trans h₃, hgone⟩
  | error error =>
    have hfailed (error : AccountError) : wp (committing P) (mutationFailed context error)
        (fun _ φ' H' => φ.2.Extends φ'.2 ∧ H' = ∅) φ₂ (insert .vault ∅) :=
      wp_adding (by simp) (by simp) (mutationFailed_keeps hempty) hmutated
    cases error with
    | notFound =>
      refine Adds.seq (hforget _ (by simp [afterMutation, Mutex.rank])) fun _ φ₃ h₃ => ?_
      exact ⟨Finset.mem_insert_self _ _, trivial, hmutated.trans h₃, Finset.erase_insert hfree⟩
    | aborted => exact hfailed _
    | locked => exact hfailed _
    | conflict => exact hfailed _
    | failed => exact hfailed _

theorem rollbackPasskeyCreation_adds {proof : PasskeyTransactionProof} {credential_id : Bytes 32}
    (hserving : Serving context φ) :
    Adds (rollbackPasskeyCreation context proof credential_id : Code P _) φ ∅ := by
  refine withPending_adds hserving fun key expected φ₁ hserving₁ => ?_
  refine Adds.withFlag (by simp) fun φ₂ h₂ => ?_
  refine wp_checkingFirst (hserving₁.extends h₂) fun φ₃ h₃ _ => ?_
  refine wp_adds rfl rfl fun removed φ₄ _ _ h₄ => ?_
  cases removed with
  | error error => exact ⟨h₄, rfl⟩
  | ok removed =>
    have hagain : Adds (checkingFirst context (rollbackVault context credential_id key expected) :
        Code P _) φ₄ ∅ :=
      wp_checkingFirst (hserving₁.extends (h₂.trans (h₃.trans h₄)))
        fun _ _ hreached => rollbackVault_adds hreached
    exact hagain.trans h₄

/-! ### Unlocking -/

theorem cleanupOne_adds {credential_id : Bytes 32} (hH : Below H .vault) :
    Adds (cleanupOne context credential_id : Code P _) φ H := by
  refine ⟨trivial, fun hfree => ?_⟩
  rw [Prog.ret_bind]
  have hvault := φ.2.extends_acquire .vault
  refine wp.seq (wp_mutateVault (Finset.mem_insert_self _ _) cleanupShouldAbort_keeps
    fun φ' _ hseen => cleanupShouldAbort_clears hseen) fun result φ₁ H₁ hφ₁ => ?_
  obtain ⟨h₁, rfl⟩ := hφ₁
  have hmutated := hvault.trans h₁
  have hreport : wp (committing P) (do
      let outcome ← recoveredPasskeyCleanupOutcome context
      Prog.unlock (M := machine P) .vault
      return some outcome) (fun _ φ' H' => φ.2.Extends φ'.2 ∧ H' = H) φ₁ (insert .vault H) := by
    refine Adds.seq (recoveredPasskeyCleanupOutcome_keeps.adds (by simp) (by simp))
      fun outcome φ₂ h₂ => ?_
    exact ⟨Finset.mem_insert_self _ _, trivial, hmutated.trans h₂, Finset.erase_insert hfree⟩
  cases result with
  | ok value =>
    obtain ⟨hv, -, hg, -, hgone⟩ := released_both hH
    exact ⟨hv, trivial, hg, trivial, hmutated, hgone⟩
  | error error =>
    have hrelease (outcome : Option ExecutionOutcome) : wp (committing P)
        (do Prog.unlock (M := machine P) .vault; return outcome)
        (fun _ φ' H' => φ.2.Extends φ'.2 ∧ H' = H) φ₁ (insert .vault H) :=
      ⟨Finset.mem_insert_self _ _, trivial, hmutated, Finset.erase_insert hfree⟩
    cases error with
    | notFound => exact hrelease none
    | conflict => exact hrelease _
    | failed => exact hrelease _
    | aborted => exact hreport
    | locked => exact hreport

theorem cleanupLoop_adds {credential_ids : List (Bytes 32)} (hH : Below H .vault) :
    Adds (cleanupLoop context credential_ids : Code P _) φ H := by
  have hstop {φ' : Option Seen × Committing} : Adds (cleanupShouldAbort context : Code P _) φ' H :=
    cleanupShouldAbort_keeps.adds (by simp) (by simp)
  have hreport {φ' : Option Seen × Committing} : Adds
      (do return some (← recoveredPasskeyCleanupOutcome context) : Code P _) φ' H :=
    Adds.seq (recoveredPasskeyCleanupOutcome_keeps.adds (by simp) (by simp))
      fun _ _ h => ⟨h, rfl⟩
  induction credential_ids generalizing φ with
  | nil => exact ⟨Committing.Extends.refl _, rfl⟩
  | cons credential_id rest ih =>
    refine Adds.seq hstop fun stop φ₁ h₁ => ?_
    refine (wp_ite (M := machine P)).mpr ⟨fun _ => hreport.trans h₁, fun _ => ?_⟩
    refine wp_adds rfl rfl fun removed φ₂ _ _ h₂ => ?_
    have hbefore := h₁.trans h₂
    refine (wp_ite (M := machine P)).mpr ⟨fun _ => ih.trans hbefore, fun _ => ?_⟩
    refine Adds.seq hstop fun stop φ₃ h₃ => ?_
    have hchecked := hbefore.trans h₃
    refine (wp_ite (M := machine P)).mpr ⟨fun _ => hreport.trans hchecked, fun _ => ?_⟩
    refine Adds.seq (cleanupOne_adds hH) fun outcome φ₄ h₄ => ?_
    cases outcome with
    | some outcome => exact ⟨hchecked.trans h₄, rfl⟩
    | none => exact ih.trans (hchecked.trans h₄)

theorem cleanupRecoveredPasskeyCreations_adds (hH : Below H .vault) :
    Adds (cleanupRecoveredPasskeyCreations context : Code P _) φ H := by
  refine Adds.seq ((recoveredCredentialIds_keeps hH).adds (by simp) (by simp))
    fun recovered φ₁ h₁ => ?_
  cases recovered with
  | error outcome => exact ⟨h₁, rfl⟩
  | ok credential_ids => exact (cleanupLoop_adds hH).trans h₁

theorem unlockFailed_adds {outcome : ExecutionOutcome} (hH : Below H .vault) :
    Adds (unlockFailed outcome : Code P _) φ H :=
  (unlockFailed_keeps (.inl hH)).adds (by simp) (by simp)

theorem finishUnlock_adds {identified : Bool} {result : Except UnlockError (Bytes 16)}
    (hH : Below H .vault) :
    Adds (finishUnlock context identified result : Code P _) φ H := by
  have hrefused (outcome : ExecutionOutcome) : Adds (do
      act .setLockedUnlessShuttingDown
      return .ok outcome : Code P Outcome) φ H :=
    Keeps.adds (K := {.secret}) (wp_free .secret (by simp) rfl rfl fun _ => rfl) (by simp) (by simp)
  cases result with
  | error error => cases error <;> exact hrefused _
  | ok vault_id =>
  refine Adds.seq (cleanupRecoveredPasskeyCreations_adds hH) fun outcome φ₁ h₁ => ?_
  cases outcome with
  | some outcome => exact (unlockFailed_adds hH).trans h₁
  | none => exact ((publishAuthenticatedUnlock_keeps hH).adds (by simp) (by simp)).trans h₁

theorem unlockVault_adds {password : String} :
    Adds (Librarian.Agent.unlockVault context password : Code P _) φ ∅ := by
  refine Adds.seq (unlockRefused_keeps.adds (by simp) (by simp)) fun refused φ₁ h₁ => ?_
  cases refused with
  | some outcome => exact ⟨h₁, rfl⟩
  | none =>
  refine Adds.trans (Adds.withFlag (by simp) fun φ₂ _ => ?_) h₁
  cases MasterPassword.new password with
  | none => exact ⟨Committing.Extends.refl _, rfl⟩
  | some password =>
  refine Adds.seq ((beginUnlock_keeps (by simp)).adds (by simp) (by simp)) fun begun φ₃ h₃ => ?_
  cases begun with
  | some outcome => exact ⟨h₃, rfl⟩
  | none =>
  have hcore : Adds (Prog.withLock (M := machine P) .vault
      (unlockWithCore context.key (coreUnlock (P := P) password))) φ₃ ∅ :=
    (Keeps.withLock (by simp) (unlockWithCore_keeps (by simp))).adds (by simp) (by simp)
  refine Adds.seq hcore fun unlocked φ₄ h₄ => wp_adds rfl rfl fun cancelled φ₅ _ _ h₅ => ?_
  have hbefore := h₃.trans (h₄.trans h₅)
  refine (wp_ite (M := machine P)).mpr
    ⟨fun _ => (unlockFailed_adds (by simp)).trans hbefore, fun _ => ?_⟩
  refine Adds.seq (pastDeadline_keeps.adds (by simp) (by simp)) fun late φ₆ h₆ => ?_
  exact (wp_ite (M := machine P)).mpr
    ⟨fun _ => (unlockFailed_adds (by simp)).trans (hbefore.trans h₆),
      fun _ => (finishUnlock_adds (by simp)).trans (hbefore.trans h₆)⟩

theorem helloUnlockCore_adds {state : WindowsHelloLocalState} (hH : Below H .vault) :
    Adds (helloUnlockCore context state : Code P _) φ H := by
  refine ⟨trivial, fun hfree => ?_⟩
  have hvault := φ.2.extends_acquire .vault
  have hcore {φ' : Option Seen × Committing} : Adds
      (unlockWithCore context.key coreUnlockWithWindowsHello : Code P _) φ' (insert .vault H) :=
    (unlockWithCore_keeps (by simp)).adds (by simp) (by simp)
  dsimp only [Prog.ret_bind]
  split
  · refine Adds.seq hcore fun unlocked φ₁ h₁ => ?_
    refine ⟨Finset.mem_insert_self _ _, trivial, ?_⟩
    rw [Finset.erase_insert hfree, Prog.ret_bind]
    have hbefore := hvault.trans h₁
    refine Adds.seq (φ := φ₁) (windowsHelloTerminalAbort_keeps.adds (by simp) (by simp))
      fun outcome φ₂ h₂ => ?_
    cases outcome with
    | some outcome => exact (unlockFailed_adds hH).trans (hbefore.trans h₂)
    | none => exact (finishUnlock_adds hH).trans (hbefore.trans h₂)
  · refine Adds.seq ((helloUnlockFailed_keeps (K := {.secret}) (by simp)).adds (by simp) (by simp))
      fun outcome φ₁ h₁ => ?_
    exact ⟨Finset.mem_insert_self _ _, trivial, hvault.trans h₁, Finset.erase_insert hfree⟩

theorem helloUnlockCeremony_adds {state : WindowsHelloLocalState} {start_epoch : ℕ}
    (hH : Below H .vault) :
    Adds (helloUnlockCeremony context state start_epoch : Code P _) φ H := by
  have hfailed (outcome : ExecutionOutcome) {φ' : Option Seen × Committing} :
      Adds (helloUnlockFailed outcome : Code P _) φ' H :=
    (helloUnlockFailed_keeps (K := {.secret}) (by simp)).adds (by simp) (by simp)
  refine wp_adds rfl rfl fun evaluated φ₁ _ _ h₁ => ?_
  cases evaluated with
  | error error => exact (hfailed _).trans h₁
  | ok output =>
  simp only [Prog.ret_bind]
  refine Adds.seq (windowsHelloTerminalAbort_keeps.adds (by simp) (by simp))
    fun outcome φ₂ h₂ => ?_
  have hbefore := h₁.trans h₂
  cases outcome with
  | some outcome => exact (hfailed _).trans hbefore
  | none =>
  have houtdated : Keeps ∅ (ceremonyOutdated start_epoch : Code P _) H := by
    refine wp_plain rfl rfl fun epoch => wp_leave fun _ => ?_
    exact wp_plain rfl rfl fun state => rfl
  refine Adds.seq (houtdated.adds (by simp) (by simp)) fun outdated φ₃ h₃ => ?_
  exact (wp_ite (M := machine P)).mpr ⟨fun _ => (hfailed _).trans (hbefore.trans h₃),
    fun _ => (helloUnlockCore_adds hH).trans (hbefore.trans h₃)⟩

theorem unlockWindowsHello_adds : Adds (unlockWindowsHello context : Code P _) φ ∅ := by
  have hvault : Below (insert .windowsHelloGate ∅) .vault := by simp [Mutex.rank]
  refine wp_adds rfl rfl fun ready φ₁ _ _ h₁ => (wp_ite (M := machine P)).mpr
    ⟨fun _ => ⟨h₁, rfl⟩, fun _ => ?_⟩
  refine Adds.seq (unlockRefused_keeps.adds (by simp) (by simp)) fun refused φ₂ h₂ => ?_
  have hbefore := h₁.trans h₂
  cases refused with
  | some outcome => exact ⟨hbefore, rfl⟩
  | none =>
  refine Adds.trans (Adds.withFlag (by simp) fun φ₃ _ => Adds.withLock fun φ₄ _ => ?_) hbefore
  refine Adds.seq ((enrolledForUnlock_keeps (hvault.mono (by simp [Mutex.rank]))).adds (by simp)
    (by simp)) fun enrolled φ₅ h₅ => ?_
  cases enrolled with
  | error outcome => exact ⟨h₅, rfl⟩
  | ok state =>
  refine wp_adds rfl rfl fun challenged φ₆ _ _ h₆ => (wp_ite (M := machine P)).mpr
    ⟨fun _ => ⟨h₅.trans h₆, rfl⟩, fun _ => ?_⟩
  refine Adds.seq ((beginHelloUnlock_keeps (hvault.mono (by simp [Mutex.rank]))).adds (by simp)
    (by simp)) fun begun φ₇ h₇ => ?_
  have hbegun := h₅.trans (h₆.trans h₇)
  cases begun with
  | error outcome => exact ⟨hbegun, rfl⟩
  | ok start_epoch => exact (helloUnlockCeremony_adds hvault).trans hbegun

/-! ### Requests -/

/-- The execution of every operation. -/
theorem executeOperation_adds {rounds : ℕ} {request : OperationRequest}
    (hserving : Serving context φ) :
    Adds (executeOperation rounds context request : Code P _) φ ∅ := by
  have hharmless {p : Code P Outcome} (hp : KeepsLoosely {.secret, .lease, .lifecycle} p ∅) :
      Adds p φ ∅ := hp.adds (by simp) (by simp)
  cases request with
  | status => exact ⟨Committing.Extends.refl _, rfl⟩
  | exactOriginMatches browser => exact hharmless (browserFill_keeps.loosely.mono (by decide))
  | getSelectedCredential browser selection =>
    exact hharmless (browserFill_keeps.loosely.mono (by decide))
  | createVault password => exact hharmless (createVault_keeps.mono (by decide))
  | unlockMasterPassword password => exact unlockVault_adds
  | lock => exact hharmless (lockVault_keeps.mono (by decide))
  | listAccountSummaries offset limit =>
    exact hharmless ((listAccounts_keeps (by simp)).loosely.mono (by decide))
  | getAccount id => exact hharmless ((getAccount_keeps (by simp)).loosely.mono (by decide))
  | addAccount fields => exact addAccount_adds hserving
  | updateAccount id fields => exact updateAccount_adds hserving
  | deleteAccount id => exact deleteAccount_adds hserving
  | enrollWindowsHello parent_window =>
    exact hharmless (enrollWindowsHello_keeps.loosely.mono (by simp))
  | unlockWindowsHello parent_window => exact unlockWindowsHello_adds
  | removeWindowsHello => exact hharmless (removeWindowsHello_keeps.mono (by simp))
  | makePasskey proof => exact makePasskey_adds hserving
  | getPasskeyAssertion proof id => exact getPasskeyAssertion_adds hserving
  | deletePasskey id => exact deletePasskey_adds hserving
  | listPasskeysForAssertion proof =>
    exact hharmless ((listPasskeysForAssertion_keeps (by simp)).loosely.mono (by decide))
  | listPasskeys => exact hharmless ((listPasskeys_keeps (by simp)).loosely.mono (by decide))
  | confirmPasskeyCreation proof id => exact confirmPasskeyCreation_adds hserving
  | rollbackPasskeyCreation proof id => exact rollbackPasskeyCreation_adds hserving

theorem executeEnvelope_adds {rounds : ℕ} {envelope : RequestEnvelope}
    (hserving : Serving context φ) :
    Adds (executeEnvelope rounds context envelope : Code P _) φ ∅ := by
  unfold executeEnvelope
  cases envelope.decoded with
  | error error => exact ⟨Committing.Extends.refl _, rfl⟩
  | ok request =>
  dsimp only [executeDecoded]
  cases passkeyBindingFailure request context with
  | some rejection => exact ⟨Committing.Extends.refl _, rfl⟩
  | none =>
  refine wp_adds rfl rfl fun cancelled φ₁ _ _ h₁ => (wp_ite (M := machine P)).mpr
    ⟨fun _ => ⟨h₁, rfl⟩, fun _ => ?_⟩
  refine Adds.seq (pastDeadline_keeps.adds (by simp) (by simp)) fun late φ₂ h₂ => ?_
  have hbefore := h₁.trans h₂
  exact (wp_ite (M := machine P)).mpr ⟨fun _ => ⟨hbefore, rfl⟩,
    fun _ => (executeOperation_adds (hserving.extends hbefore)).trans hbefore⟩

theorem executeAdmitted_adds {hmac : List UInt8 → Bytes 32} {rounds : ℕ} {permit : RequestPermit}
    {envelope : RequestEnvelope} (hserving : Serving context φ) :
    Adds (executeAdmitted hmac rounds context permit envelope : Code P _) φ ∅ := by
  have hlock {a : Action P} (hguard : a.guard = {.idempotency}) (hkind : a.kind = .plain)
      {φ' : Option Seen × Committing} :
      Adds (Prog.withLock (M := machine P) .idempotency (act a)) φ' ∅ :=
    (idempotency_keeps hguard hkind (by simp)).adds (by simp) (by simp)
  refine (wp_ite (M := machine P)).mpr ⟨fun _ => ?_, fun _ => executeEnvelope_adds hserving⟩
  cases envelope.idempotency_key with
  | none => exact ⟨Committing.Extends.refl _, rfl⟩
  | some key =>
  refine Adds.seq (hlock rfl rfl) fun admission φ₁ h₁ => ?_
  cases admission with
  | conflict => exact ⟨h₁, rfl⟩
  | busy => exact ⟨h₁, rfl⟩
  | replay cached => exact ⟨h₁, rfl⟩
  | reserved =>
  refine Adds.seq (executeEnvelope_adds (hserving.extends h₁)) fun outcome φ₂ h₂ => ?_
  have hbefore := h₁.trans h₂
  cases outcome with
  | error e => exact Adds.seq (hlock rfl rfl) fun _ φ₃ h₃ => ⟨hbefore.trans h₃, rfl⟩
  | ok outcome =>
  refine Adds.seq (hlock rfl rfl) fun completed φ₃ h₃ => ?_
  cases completed with
  | ok u => exact ⟨hbefore.trans h₃, rfl⟩
  | error e => exact Adds.seq (hlock rfl rfl) fun _ φ₄ h₄ => ⟨hbefore.trans (h₃.trans h₄), rfl⟩

/-- The end of the admission: the thread serves the request that it has admitted. -/
def Admitted (admission : RequestAdmission) (φ : Option Seen × Committing) (H : Finset Mutex) :
    Prop :=
  H = admission.held ∧ ∀ context permit, admission = .admitted context permit → Serving context φ

/-- An action of the admission that leaves the request as it is. -/
theorem wp_admitting {a : Action P} {k : a.Result → Code P α}
    {Q : α → Option Seen × Committing → Finset Mutex → Prop} (hguard : a.guard ⊆ H)
    (hkind : a.kind ≠ .write) (hnext : ∀ (ψ : Committing) r, ψ.next a r = ψ)
    (hk : ∀ r φ', φ'.2 = φ.2 → wp (committing P) (k r) Q φ' H) :
    wp (committing P) (.call a k) Q φ H :=
  ⟨⟨hguard, Committing.allows_of_kind hkind⟩, fun r => hk r _ (hnext φ.2 r)⟩

theorem wp_refuseBusy_committing {deadline : ℕ} :
    wp (committing P) (refuseBusy deadline) Admitted φ {.commitGate} := by
  refine Adds.seq (pastDeadline_keeps.adds (by simp) (by simp)) fun late φ₁ _ => ?_
  cases late <;> exact ⟨rfl, fun _ _ h => by cases h⟩

theorem wp_registerRequest_committing {connection : Connection} {permit : RequestPermit}
    {deadline : ℕ} (hφ : φ.2.request =
      some (⟨connection.connection_id, permit.request_id⟩, permit.unlock_epoch)) :
    wp (committing P) (registerRequest connection permit deadline) Admitted φ {.commitGate} := by
  have hgate : Mutex.commitGate ∈ ({.commitGate} : Finset Mutex) := Finset.mem_singleton_self _
  have hfatal {φ' : Option Seen × Committing} : Admitted .fatal φ' ∅ :=
    ⟨rfl, fun _ _ h => by cases h⟩
  refine wp_admitting (by simp [Action.guard]) (by simp [Action.kind]) (fun _ _ => rfl)
    fun acquired φ₁ hφ₁ => (wp_ite (M := machine P)).mpr ⟨fun _ => ?_, fun _ => ?_⟩
  · refine wp_admitting (by simp [Action.guard]) (by simp [Action.kind]) (fun _ _ => rfl)
      fun completed φ₂ _ => ?_
    cases completed with
    | error e => exact ⟨hgate, trivial, gate_released ▸ hfatal⟩
    | ok completion => exact wp_refuseBusy_committing
  · refine wp.seq (Q := fun _ φ' (H' : Finset Mutex) =>
      φ'.2.request = φ.2.request ∧ H' = {.commitGate}) ?_ fun registered φ₂ H₂ hφ₂ => ?_
    · refine (wp_withLock (M := machine P)).mpr ⟨trivial, fun _ => ?_⟩
      refine wp_admitting (by simp [Action.guard, Finset.insert_subset_iff]) (by simp [Action.kind])
        (fun _ _ => rfl) fun r φ₂ hφ₂ => ⟨Finset.mem_insert_self _ _, trivial, ?_, by simp⟩
      show φ₂.2.request = φ.2.request
      rw [hφ₂, ← hφ₁]
      exact (φ₁.2.extends_acquire .cancellations).request
    obtain ⟨hφ₂, rfl⟩ := hφ₂
    refine (wp_ite (M := machine P)).mpr ⟨fun _ => ?_, fun _ => ?_⟩
    · refine wp_admitting (by simp [Action.guard]) (by simp [Action.kind]) (fun _ _ => rfl)
        fun _ φ₃ _ => ⟨hgate, trivial, gate_released ▸ hfatal⟩
    · have hserving (φ' : Option Seen × Committing) (h : φ'.2 = φ₂.2) : wp (committing P) (do
          Prog.unlock (M := machine P) .commitGate
          return RequestAdmission.admitted ⟨⟨connection.connection_id, permit.request_id⟩,
            permit.unlock_epoch, deadline, connection.authenticated_process_id⟩ permit)
          Admitted φ' {.commitGate} := by
        refine ⟨hgate, trivial, gate_released, fun context permit' hadmitted => ?_⟩
        obtain ⟨rfl, rfl⟩ := RequestAdmission.admitted.inj hadmitted
        show φ'.2.request = _
        rw [h, hφ₂, hφ]
      refine wp_admitting (by simp [Action.guard]) (by simp [Action.kind]) (fun _ _ => rfl)
        fun cancelled φ₃ hφ₃ => ?_
      cases cancelled with
      | false => exact hserving φ₃ hφ₃
      | true =>
        refine wp_admitting (by simp [Action.guard]) (by simp [Action.kind]) (fun _ _ => rfl)
          fun _ φ₄ hφ₄ => hserving φ₄ (hφ₄.trans hφ₃)

theorem wp_admitRequest_committing {connection : Connection} {header : FrameHeader}
    {envelope : RequestEnvelope} :
    wp (committing P) (admitRequest connection header envelope) Admitted φ ∅ := by
  refine wp_adds rfl rfl fun started φ₁ _ _ _ => ?_
  refine wp_adds rfl rfl fun current_unlock_epoch φ₂ _ _ _ => ?_
  refine ⟨⟨Finset.empty_subset _, trivial⟩, fun result => ⟨trivial, fun _ => ?_⟩⟩
  have hrejected {admission : RequestAdmission} {φ' : Option Seen × Committing}
      {H' : Finset Mutex} (hheld : H' = admission.held)
      (hne : ∀ context permit, admission ≠ .admitted context permit) :
      Admitted admission φ' H' :=
    ⟨hheld, fun context permit h => absurd h (hne context permit)⟩
  cases result with
  | ok permit =>
    refine wp_registerRequest_committing ?_
    show (Committing.acquire _ _).request = _
    rw [((Committing.extends_acquire _ _)).request]
    rfl
  | error error =>
    cases error with
    | connection e =>
      exact ⟨Finset.mem_singleton_self _, trivial, hrejected gate_released (by simp)⟩
    | unauthorized => exact hrejected rfl (by simp)
    | busy timeout => exact wp_refuseBusy_committing
    | staleEpoch => exact hrejected rfl (by simp)
    | missingIdempotencyKey => exact hrejected rfl (by simp)

/-! ### All programs -/

/-- What makes nothing durable is allowed. -/
theorem wp_harmless {K : Finset Kind} {p : Code P α} (h : KeepsLoosely K p H)
    (hwrite : .write ∉ K) : wp (committing P) p (fun _ _ H' => H' = H) φ H := by
  have hwp := wp_of_guards (M := machine P) (D := committing P) (φ := φ) (P := fun _ => True)
    (R := fun H' => H' = H) h trivial ?_ (fun _ _ _ _ _ => ⟨trivial, trivial⟩)
    (fun _ _ _ => ⟨trivial, trivial⟩)
  · exact wp_mono hwp fun _ _ _ h => h.2
  · intro a φ' H' _ hwithin
    have hkind : a.kind ≠ .write := by
      intro heq
      have hmem : a.kind ∈ insert Kind.plain K := hwithin.2
      rw [heq] at hmem
      exact hwrite ((Finset.mem_insert.mp hmem).resolve_left (by simp))
    exact ⟨⟨hwithin.1, Committing.allows_of_kind hkind⟩, fun _ => trivial⟩

theorem wp_dispatch_committing {hmac : List UInt8 → Bytes 32} {rounds : ℕ}
    {connection : Connection} {header : FrameHeader} {envelope : RequestEnvelope} :
    wp (committing P) (dispatch hmac rounds connection header envelope) (fun _ _ H' => H' = ∅)
      φ ∅ := by
  refine wp_adds rfl rfl fun ready φ₁ _ _ _ =>
    (wp_ite (M := machine P)).mpr ⟨fun _ => rfl, fun _ => ?_⟩
  refine wp.seq wp_admitRequest_committing fun admission φ₂ H₂ hφ₂ => ?_
  obtain ⟨rfl, hadmitted⟩ := hφ₂
  cases admission with
  | fatal => rfl
  | rejected response =>
    refine ⟨⟨by simp [Action.guard, RequestAdmission.held], trivial⟩, fun _ => ?_⟩
    exact ⟨Finset.mem_singleton_self _, trivial, gate_released⟩
  | admitted context permit =>
    refine Adds.seq (executeAdmitted_adds (hadmitted context permit rfl)) fun outcome φ₃ _ => ?_
    cases outcome with
    | error e => exact wp_harmless (dropContext_keeps (by simp)).loosely (by simp)
    | ok outcome => exact wp_harmless finishDispatch_keeps.loosely (by simp)

theorem wp_disconnect_committing {rounds : ℕ} {connection_id : ConnectionId} :
    wp (committing P) (disconnect rounds connection_id) (fun _ _ H' => H' = ∅) φ ∅ := by
  refine Adds.seq (closeConnection_keeps.adds (by simp) (by simp)) fun _ φ₁ _ => ?_
  refine Adds.seq rollbackDisconnectedPasskeyCreations_adds fun _ φ₂ _ => ?_
  exact ⟨⟨Finset.empty_subset _, trivial⟩, fun _ => rfl⟩

/-- Every program of the agent keeps to the discipline. -/
theorem wp_program_committing {hmac : List UInt8 → Bytes 32} {p : Code P Unit}
    (h : Program P hmac p) :
    wp (committing P) p (fun _ _ H' => True ∧ H' = ∅) (none, {}) ∅ := by
  have hends {q : Code P Unit}
      (hq : wp (committing P) q (fun _ _ H' => H' = ∅) (none, {}) ∅) :
      wp (committing P) q (fun _ _ H' => True ∧ H' = ∅) (none, {}) ∅ :=
    wp_mono hq fun _ _ _ h => ⟨trivial, h⟩
  cases h with
  | accept connection => exact hends (wp_harmless accept_keeps.loosely (by simp))
  | dispatch rounds connection header envelope => exact hends wp_dispatch_committing
  | applyCancel connection header =>
    exact hends (wp_harmless applyCancel_keeps.loosely (by simp))
  | disconnect rounds connection_id => exact hends wp_disconnect_committing
  | shutdown => exact hends (wp_harmless shutdown_keeps (by simp))

end

/-! ## Every commit -/

/-- Lock wins over durability. Whenever the agent makes a change of the vault durable, no Lock is in
progress, and the agent has not been closed since it was last opened: no gate section of a Lock, of a
failure of the core or of the shutdown has advanced the epoch since then. A change that a request
asked for is made by the thread that has begun the request, at the epoch that the request was begun
with, and before any cancellation of the request. -/
theorem commit_authorized {hmac : List UInt8 → Bytes 32} {vault_exists : Bool}
    {history : History (machine P)} {c : Config (machine P)} {t : ℕ} {origin : Origin}
    {prepared : PreparedRecordMutation} {result : Bool} {s : Shared}
    (hrun : AgentRun P hmac vault_exists
      (.action t (.commit origin prepared) result s :: history) c) :
    s.active .lock = false ∧ ¬Closed history ∧
      ∀ key epoch, origin = .request key epoch →
        s.epoch = epoch ∧ s.cancelled key = false ∧ Begun history t key epoch := by
  obtain ⟨phase, holder, hbooks, -, hallows⟩ := Run.allowed (committing_invariant vault_exists)
    (by exact trivial) (fun p hp => wp_program_committing hp) hrun (always_true history)
  obtain ⟨known, hknown, hclear, hpermits⟩ := hallows
  obtain ⟨hgate, hholds⟩ := hbooks.informed t known hknown
  refine ⟨hholds.lockClear hclear, ?_, ?_⟩
  · cases origin with
    | request key epoch =>
      obtain ⟨-, hvouched, hepoch, -⟩ := hpermits
      exact (hbooks.vouched t epoch hvouched).2 (hholds.epoch epoch hepoch)
    | disconnectedCreation =>
      obtain ⟨epoch, hvouched, hepoch⟩ := hpermits
      exact (hbooks.vouched t epoch hvouched).2 (hholds.epoch epoch hepoch)
    | recoveredCreation => exact hbooks.opening t hpermits hgate
  · rintro key epoch rfl
    obtain ⟨hrequest, -, hepoch, huncancelled⟩ := hpermits
    exact ⟨hholds.epoch epoch hepoch, hholds.uncancelled key huncancelled,
      hbooks.begun t key epoch hrequest⟩

/-- The desktop has unlocked the vault and adds an account, which has just been made durable. -/
def adding : List (Move (machine exampleComPrimitives)) :=
  unlockedOnce ++
    send 2 (desktopRequest (.addAccount sampleFields) 2 (some (Bytes.replicate 16 2))) ::
      steps 2 37 writingOracle

/-- The last event makes a change of a request durable. -/
def endsCommitting : History (machine P) → Bool
  | .action _ (.commit (.request _ _) _) _ _ :: _ => true
  | _ => false

theorem exists_of_endsCommitting {history : History (machine P)}
    (h : endsCommitting history = true) : ∃ t key epoch prepared result s before,
      history = .action t (.commit (.request key epoch) prepared) result s :: before := by
  unfold endsCommitting at h
  split at h
  · next t key epoch prepared result s before => exact ⟨t, key, epoch, prepared, result, s, before, rfl⟩
  · cases h

/-- The desktop's new account is made durable. -/
theorem commit_authorized_sample : ∃ t key epoch prepared result s history c,
    AgentRun exampleComPrimitives sampleHmac true
      (.action t (.commit (.request key epoch) prepared) result s :: history) c ∧
      s.active .lock = false ∧ ¬Closed history ∧
      ∀ key' epoch', Origin.request key epoch = .request key' epoch' →
        s.epoch = epoch' ∧ s.cancelled key' = false ∧ Begun history t key' epoch' := by
  have hends : ((exec [] (Config.init (Shared.start true)) adding).map
      fun result => endsCommitting result.1) = some true := by decide +kernel
  obtain ⟨⟨history, c⟩, hexec, hhistory⟩ := Option.map_eq_some_iff.mp hends
  obtain ⟨t, key, epoch, prepared, result, s, before, rfl⟩ := exists_of_endsCommitting hhistory
  have hrun : AgentRun exampleComPrimitives sampleHmac true _ c :=
    Run.of_exec .init (allowed_unlockedOnce.append ((allowed_steps _ _ _).send _ _)) hexec
  exact ⟨t, key, epoch, prepared, result, s, before, c, hrun, commit_authorized hrun⟩

end Librarian.Agent
