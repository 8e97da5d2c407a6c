import Librarian.Core.Snapshot
import Librarian.WindowsHello.Custody

/-!
# What enrollments leave behind

In every run of the provider, with any number of calls at a time and whatever Windows answers, each
credential that Windows keeps is one from before the run, or one whose enrollment is still going on,
or one that its enrollment has returned, whether as an enrollment or as a cleanup that is due. Only
a credential whose id is too long for the buffers can be lost.
-/

namespace Librarian.WindowsHello

open Conc
open Librarian.Agent (WindowsHelloEnrollment WindowsHelloProviderError)
open Librarian.Core (Primitives)

variable {P : Primitives}

/-! ## What has happened -/

/-- A thread has begun a call. -/
def Begins (history : History machine) (t : ℕ) (call : Call) : Prop :=
  ∃ s, .action t ⟨.began call⟩ () s ∈ history

/-- A thread has made a credential, for a salt. -/
def Makes (history : History machine) (t : ℕ) (value : AttestationView) (salt : Bytes 32) : Prop :=
  ∃ request result s, .action t ⟨.makeCredential request⟩ result s ∈ history ∧
    created result = some value ∧ request.salt = salt

/-- A thread has been answered with an assertion. -/
def IsAsserted (history : History machine) (t : ℕ) (request : GetAssertionRequest)
    (value : AssertionView) : Prop :=
  ∃ result s, .action t ⟨.getAssertion request⟩ result s ∈ history ∧ result.2 = some value

/-- A thread has returned from its call. -/
def Returns (history : History machine) (t : ℕ) (outcome : Outcome) : Prop :=
  ∃ s, .action t ⟨.returned outcome⟩ () s ∈ history

/-- A credential has been deleted by a call that was to remove it. -/
def Removed (history : History machine) (credential_id : List UInt8) : Prop :=
  ∃ t result s, .action t ⟨.deleteCredential credential_id⟩ result s ∈ history ∧
    failed result = false ∧ Begins history t (.remove credential_id)

theorem Removed.cons {history : History machine} {credential_id : List UInt8}
    (h : Removed history credential_id) (event : Event machine) :
    Removed (event :: history) credential_id := by
  obtain ⟨t, result, s, hmem, hsucceeded, s', hbegan⟩ := h
  exact ⟨t, result, s, List.mem_cons_of_mem _ hmem, hsucceeded, s', List.mem_cons_of_mem _ hbegan⟩

/-! ## The books of a thread -/

/-- The trail of a thread is what has happened. -/
structure ThreadBooks (P : Primitives) (history : History machine) (t : ℕ) (φ : Trail) : Prop where
  began (call : Call) (h : φ.call = some call) : Begins history t call
  made (value : AttestationView) (salt : Bytes 32) :
    Makes history t value salt ↔ φ.kept.record = some (value, salt)
  asserted (request : GetAssertionRequest) (value : AssertionView)
    (h : φ.asserted = some (request, value)) : IsAsserted history t request value
  returned (outcome : Outcome) : Returns history t outcome ↔ φ.outcome = some outcome
  settled (outcome : Outcome) (h : φ.outcome = some outcome) : φ.Settles P outcome

section

variable {history : History machine} {t : ℕ} {φ : Trail} {a : Action} {s : Platform}

theorem ThreadBooks.nil (t : ℕ) : ThreadBooks P [] t {} where
  began _ h := nomatch h
  made value salt := by simp [Makes, Kept.record]
  asserted _ _ h := nomatch h
  returned outcome := by simp [Returns]
  settled _ h := nomatch h

theorem Begins.cons {call : Call} (h : Begins history t call) (event : Event machine) :
    Begins (event :: history) t call := by
  obtain ⟨s, hmem⟩ := h
  exact ⟨s, List.mem_cons_of_mem _ hmem⟩

theorem IsAsserted.cons {request : GetAssertionRequest} {value : AssertionView}
    (h : IsAsserted history t request value) (event : Event machine) :
    IsAsserted (event :: history) t request value := by
  obtain ⟨result, s, hmem, hanswer⟩ := h
  exact ⟨result, s, List.mem_cons_of_mem _ hmem, hanswer⟩

/-- Only a creation makes a credential. -/
theorem makes_cons {event : Event machine} {value : AttestationView} {salt : Bytes 32} :
    Makes (event :: history) t value salt ↔ Makes history t value salt ∨
      ∃ request result s, event = .action t ⟨.makeCredential request⟩ result s ∧
        created result = some value ∧ request.salt = salt := by
  constructor
  · rintro ⟨request, result, s, hmem, hcreated, hsalt⟩
    obtain heq | hmem := List.mem_cons.mp hmem
    · exact .inr ⟨request, result, s, heq.symm, hcreated, hsalt⟩
    · exact .inl ⟨request, result, s, hmem, hcreated, hsalt⟩
  · rintro (⟨request, result, s, hmem, hcreated, hsalt⟩ | ⟨request, result, s, rfl, hcreated, hsalt⟩)
    · exact ⟨request, result, s, List.mem_cons_of_mem _ hmem, hcreated, hsalt⟩
    · exact ⟨request, result, s, List.mem_cons_self, hcreated, hsalt⟩

/-- Only a return returns. -/
theorem returns_cons {event : Event machine} {outcome : Outcome} :
    Returns (event :: history) t outcome ↔ Returns history t outcome ∨
      ∃ s, event = .action t ⟨.returned outcome⟩ () s := by
  constructor
  · rintro ⟨s, hmem⟩
    obtain heq | hmem := List.mem_cons.mp hmem
    · exact .inr ⟨s, heq.symm⟩
    · exact .inl ⟨s, hmem⟩
  · rintro (⟨s, hmem⟩ | ⟨s, rfl⟩)
    · exact ⟨s, List.mem_cons_of_mem _ hmem⟩
    · exact ⟨s, List.mem_cons_self⟩

/-- Events that say nothing about a thread leave its books as they are. -/
theorem ThreadBooks.frame (h : ThreadBooks P history t φ) {event : Event machine}
    (hmake : ∀ request result s, event ≠ .action t ⟨.makeCredential request⟩ result s)
    (hreturn : ∀ outcome s, event ≠ .action t ⟨.returned outcome⟩ () s) :
    ThreadBooks P (event :: history) t φ where
  began call hcall := (h.began call hcall).cons event
  made value salt := by
    rw [makes_cons, ← h.made, or_iff_left]
    rintro ⟨request, result, s, heq, -⟩
    exact hmake request result s heq
  asserted request value hasserted := (h.asserted request value hasserted).cons event
  returned outcome := by
    rw [returns_cons, ← h.returned, or_iff_left]
    rintro ⟨s, heq⟩
    exact hreturn outcome s heq
  settled := h.settled

/-- An event of another thread, or a step on the mutex. -/
theorem ThreadBooks.other (h : ThreadBooks P history t φ) {event : Event machine}
    (hother : ∀ a result s, event ≠ .action t a result s) :
    ThreadBooks P (event :: history) t φ :=
  h.frame (fun _ _ _ => hother _ _ _) fun _ _ => hother _ _ _

/-- An action of the thread itself. -/
theorem ThreadBooks.own (h : ThreadBooks P history t φ) (hallowed : φ.allows P a) (r : a.Result) :
    ThreadBooks P (.action t ⟨a⟩ r s :: history) t (φ.next a r) := by
  cases a with
  | began call =>
    obtain rfl : φ = {} := hallowed
    have hframe : ThreadBooks P (.action t ⟨.began call⟩ r s :: history) t {} :=
      h.frame (by simp) (by simp)
    exact { hframe with
      began := fun call' hcall => by
        obtain rfl := Option.some.inj hcall
        exact ⟨s, List.mem_cons_self⟩
      settled := fun _ h => nomatch h }
  | returned outcome =>
    obtain ⟨-, hnone, hsettles⟩ := hallowed
    refine ⟨fun call hcall => (h.began call hcall).cons _, fun value salt => ?_,
      fun request value hasserted => (h.asserted request value hasserted).cons _,
      fun outcome' => ?_, fun outcome' houtcome => ?_⟩
    · rw [makes_cons, h.made, or_iff_left (by simp)]
      rfl
    · rw [returns_cons, h.returned, hnone]
      show none = some outcome' ∨ _ ↔ some outcome = some outcome'
      simp
    · obtain rfl := Option.some.inj houtcome
      exact hsettles
  | makeCredential request =>
    obtain ⟨hnone, hnothing⟩ := hallowed
    cases hcreated : created r with
    | none =>
      have hphase : φ.next (.makeCredential request) r = φ := by simp only [Trail.next, hcreated]
      rw [hphase]
      exact { h with
        began := fun call hcall => (h.began call hcall).cons _
        made := fun value salt => by
          rw [makes_cons, h.made, or_iff_left]
          rintro ⟨request', result, s', heq, hmade, -⟩
          cases heq
          rw [hcreated] at hmade
          cases hmade
        asserted := fun request value hasserted => (h.asserted request value hasserted).cons _
        returned := fun outcome => by
          rw [returns_cons, h.returned, or_iff_left (by simp)] }
    | some value =>
      have hphase : φ.next (.makeCredential request) r =
          { φ with kept := .made value request.salt } := by simp only [Trail.next, hcreated]
      rw [hphase]
      exact { h with
        began := fun call hcall => (h.began call hcall).cons _
        made := fun value' salt => by
          rw [makes_cons, h.made, hnothing]
          show none = some (value', salt) ∨ _ ↔ some (value, request.salt) = some (value', salt)
          constructor
          · rintro (hold | ⟨request', result, s', heq, hmade, rfl⟩)
            · cases hold
            · cases heq
              rw [hcreated] at hmade
              rw [Option.some.inj hmade]
          · intro heq
            cases heq
            exact .inr ⟨request, r, s, rfl, hcreated, rfl⟩
        asserted := fun request value hasserted => (h.asserted request value hasserted).cons _
        returned := fun outcome => by
          rw [returns_cons, h.returned, or_iff_left (by simp)]
        settled := fun outcome houtcome => by
          rw [show φ.outcome = some outcome from houtcome] at hnone
          cases hnone }
  | getAssertion request =>
    have hframe : ThreadBooks P (.action t ⟨.getAssertion request⟩ r s :: history) t φ :=
      h.frame (by simp) (by simp)
    cases hanswer : r.2 with
    | none =>
      have hphase : φ.next (.getAssertion request) r = φ := by simp only [Trail.next, hanswer]
      rw [hphase]
      exact hframe
    | some value =>
      have hphase : φ.next (.getAssertion request) r =
          { φ with asserted := some (request, value) } := by simp only [Trail.next, hanswer]
      rw [hphase]
      exact { hframe with
        asserted := fun request' value' hasserted => by
          cases hasserted
          exact ⟨r, s, List.mem_cons_self, hanswer⟩
        settled := fun outcome houtcome => by
          have hnone : φ.outcome = none := hallowed
          rw [show φ.outcome = some outcome from houtcome] at hnone
          cases hnone }
  | deleteCredential credential_id =>
    have hframe : ThreadBooks P (.action t ⟨.deleteCredential credential_id⟩ r s :: history) t φ :=
      h.frame (by simp) (by simp)
    exact { hframe with
      made := fun value salt => by
        rw [hframe.made]
        show φ.kept.record = _ ↔ (φ.kept.tried r).record = _
        rw [Kept.tried_record]
      settled := fun outcome houtcome => by
        have hnone : φ.outcome = none := hallowed.1
        rw [show φ.outcome = some outcome from houtcome] at hnone
        cases hnone }
  | _ => exact h.frame (by simp) (by simp)

end

/-! ## The books of all -/

/-- How the trails fit what Windows keeps. -/
structure CustodyBooks (P : Primitives) (held : List UInt8 → Bool) (history : History machine)
    (s : Platform) (phase : ℕ → Trail) : Prop where
  threads (t : ℕ) : ThreadBooks P history t (phase t)
  issued (credential_id : List UInt8) (h : s.credentials credential_id = true) :
    s.issued credential_id = true
  known (t : ℕ) (value : AttestationView) (salt : Bytes 32)
    (h : (phase t).kept.record = some (value, salt)) : s.issued value.credential_id = true
  /-- No credential is made twice. -/
  distinct (t t' : ℕ) (value value' : AttestationView) (salt salt' : Bytes 32)
    (h : (phase t).kept.record = some (value, salt))
    (h' : (phase t').kept.record = some (value', salt'))
    (hid : value.credential_id = value'.credential_id) : t = t'
  source (credential_id : List UInt8) (h : s.credentials credential_id = true) :
    held credential_id = true ∨ ∃ t, (phase t).kept.owned = some credential_id
  present (t : ℕ) (credential_id : List UInt8) (h : (phase t).kept.owned = some credential_id) :
    s.credentials credential_id = true ∨ Removed history credential_id
  deleted (t : ℕ) (value : AttestationView) (salt : Bytes 32)
    (h : (phase t).kept = .deleted value salt) : s.credentials value.credential_id = false

/-- What is owned has been made. -/
theorem Kept.record_of_owned {kept : Kept} {credential_id : List UInt8}
    (h : kept.owned = some credential_id) :
    ∃ value salt, kept.record = some (value, salt) ∧ value.credential_id = credential_id := by
  cases kept with
  | nothing => cases h
  | made value salt => exact ⟨value, salt, rfl, Option.some.inj h⟩
  | stuck value salt => exact ⟨value, salt, rfl, Option.some.inj h⟩
  | deleted value salt => cases h

section

variable {held : List UInt8 → Bool} {history : History machine} {s s' : Platform}
  {phase : ℕ → Trail} {t : ℕ}

theorem custodyBooks_nil (held : List UInt8 → Bool) :
    CustodyBooks P held [] (Platform.start held) fun _ => {} where
  threads t := ThreadBooks.nil t
  issued _ h := h
  known _ _ _ h := nomatch h
  distinct _ _ _ _ _ _ h := nomatch h
  source _ h := .inl h
  present _ _ h := nomatch h
  deleted _ _ _ h := nomatch h

/-- The credentials and the credentials of the threads stay the same. -/
theorem CustodyBooks.frame (h : CustodyBooks P held history s phase) {phase' : ℕ → Trail}
    {event : Event machine} (hthreads : ∀ t, ThreadBooks P (event :: history) t (phase' t))
    (hkept : ∀ t, (phase' t).kept = (phase t).kept) (hcredentials : s'.credentials = s.credentials)
    (hissued : s'.issued = s.issued) : CustodyBooks P held (event :: history) s' phase' where
  threads := hthreads
  issued credential_id := by
    rw [hcredentials, hissued]
    exact h.issued credential_id
  known t value salt := by
    rw [hkept, hissued]
    exact h.known t value salt
  distinct t t' value value' salt salt' := by
    rw [hkept, hkept]
    exact h.distinct t t' value value' salt salt'
  source credential_id := by
    rw [hcredentials]
    intro hpresent
    obtain hheld | ⟨t, howned⟩ := h.source credential_id hpresent
    · exact .inl hheld
    · exact .inr ⟨t, by rw [hkept, howned]⟩
  present t credential_id := by
    rw [hkept, hcredentials]
    intro howned
    exact (h.present t credential_id howned).imp_right fun hremoved => hremoved.cons event
  deleted t value salt := by
    rw [hkept, hcredentials]
    exact h.deleted t value salt

/-- The books of all threads after an action of one of them. -/
theorem CustodyBooks.threads_action (h : CustodyBooks P held history s phase) {a : Action}
    (hallowed : (phase t).allows P a) (r : a.Result) (t' : ℕ) :
    ThreadBooks P (.action t ⟨a⟩ r s :: history) t'
      (Function.update phase t ((phase t).next a r) t') := by
  by_cases ht : t' = t
  · subst ht
    rw [Function.update_self]
    exact (h.threads t').own hallowed r
  · rw [Function.update_of_ne ht]
    exact (h.threads t').other fun a' result s' heq => ht (Event.action.inj heq).1.symm

/-- A credential is made. -/
theorem CustodyBooks.makes (h : CustodyBooks P held history s phase)
    {request : MakeCredentialRequest} {r : HResult × Option AttestationView}
    {value : AttestationView} (hallowed : (phase t).allows P (.makeCredential request))
    (hcreated : created r = some value) (hfresh : s.issued value.credential_id = false) :
    CustodyBooks P held (.action t ⟨.makeCredential request⟩ r s :: history)
      (s.issue value.credential_id)
      (Function.update phase t ((phase t).next (.makeCredential request) r)) := by
  have hthreads := h.threads_action hallowed r
  have hphase : (phase t).next (.makeCredential request) r =
      { phase t with kept := .made value request.salt } := by simp only [Trail.next, hcreated]
  rw [hphase] at hthreads ⊢
  -- What the other threads have made are other credentials.
  have hother (t' : ℕ) (value' : AttestationView) (salt' : Bytes 32) (ht : t' ≠ t)
      (hrecord : (phase t').kept.record = some (value', salt')) :
      value'.credential_id ≠ value.credential_id := by
    intro hsame
    have hissued := h.known t' value' salt' hrecord
    rw [hsame, hfresh] at hissued
    cases hissued
  have howned (t' : ℕ) (credential_id : List UInt8) (ht : t' ≠ t)
      (hown : (phase t').kept.owned = some credential_id) :
      credential_id ≠ value.credential_id := by
    obtain ⟨value', salt', hrecord, rfl⟩ := Kept.record_of_owned hown
    exact hother t' value' salt' ht hrecord
  have hold {credential_id : List UInt8} (hne : credential_id ≠ value.credential_id) :
      (s.issue value.credential_id).credentials credential_id = s.credentials credential_id :=
    Function.update_of_ne hne _ _
  refine ⟨hthreads, fun credential_id hpresent => ?_, fun t' value' salt' hrecord => ?_,
    fun t' t'' value' value'' salt' salt'' hrecord hrecord' hid => ?_,
    fun credential_id hpresent => ?_, fun t' credential_id hown => ?_,
    fun t' value' salt' hdeleted => ?_⟩
  · by_cases hid : credential_id = value.credential_id
    · rw [hid]
      exact Function.update_self _ _ _
    · rw [hold hid] at hpresent
      exact (Function.update_of_ne hid _ _).trans (h.issued credential_id hpresent)
  · by_cases ht : t' = t
    · subst ht
      rw [Function.update_self] at hrecord
      cases hrecord
      exact Function.update_self _ _ _
    · rw [Function.update_of_ne ht] at hrecord
      exact (Function.update_of_ne (hother t' value' salt' ht hrecord) _ _).trans
        (h.known t' value' salt' hrecord)
  · by_cases ht : t' = t <;> by_cases ht' : t'' = t
    · rw [ht, ht']
    · subst ht
      rw [Function.update_self] at hrecord
      rw [Function.update_of_ne ht'] at hrecord'
      cases hrecord
      exact absurd hid.symm (hother t'' value'' salt'' ht' hrecord')
    · subst ht'
      rw [Function.update_self] at hrecord'
      rw [Function.update_of_ne ht] at hrecord
      cases hrecord'
      exact absurd hid (hother t' value' salt' ht hrecord)
    · rw [Function.update_of_ne ht] at hrecord
      rw [Function.update_of_ne ht'] at hrecord'
      exact h.distinct t' t'' value' value'' salt' salt'' hrecord hrecord' hid
  · by_cases hid : credential_id = value.credential_id
    · refine .inr ⟨t, ?_⟩
      rw [Function.update_self, hid]
      rfl
    · rw [hold hid] at hpresent
      obtain hheld | ⟨t', hown⟩ := h.source credential_id hpresent
      · exact .inl hheld
      · refine .inr ⟨t', ?_⟩
        have ht : t' ≠ t := by
          rintro rfl
          rw [hallowed.2] at hown
          cases hown
        rw [Function.update_of_ne ht]
        exact hown
  · by_cases ht : t' = t
    · subst ht
      rw [Function.update_self] at hown
      cases hown
      exact .inl (Function.update_self _ _ _)
    · rw [Function.update_of_ne ht] at hown
      rw [hold (howned t' credential_id ht hown)]
      exact (h.present t' credential_id hown).imp_right fun hremoved => hremoved.cons _
  · by_cases ht : t' = t
    · subst ht
      rw [Function.update_self] at hdeleted
      cases hdeleted
    · rw [Function.update_of_ne ht] at hdeleted
      have hrecord : (phase t').kept.record = some (value', salt') := by rw [hdeleted]; rfl
      rw [hold (hother t' value' salt' ht hrecord)]
      exact h.deleted t' value' salt' hdeleted

/-- A deletion that fails changes nothing but what its thread knows. -/
theorem CustodyBooks.deletes_failed (h : CustodyBooks P held history s phase)
    {credential_id : List UInt8} {result : HResult}
    (hallowed : (phase t).allows P (.deleteCredential credential_id))
    (hfailed : failed result = true) :
    CustodyBooks P held (.action t ⟨.deleteCredential credential_id⟩ result s :: history) s
      (Function.update phase t ((phase t).next (.deleteCredential credential_id) result)) := by
  have htried (kept : Kept) : (kept.tried result).owned = kept.owned ∧
      ∀ value salt, kept.tried result = .deleted value salt → kept = .deleted value salt := by
    cases kept with
    | nothing => exact ⟨rfl, fun _ _ h => h⟩
    | made value salt => exact ⟨by simp [Kept.tried, hfailed, Kept.owned],
        fun _ _ h => by simp [Kept.tried, hfailed] at h⟩
    | stuck value salt => exact ⟨by simp [Kept.tried, hfailed, Kept.owned],
        fun _ _ h => by simp [Kept.tried, hfailed] at h⟩
    | deleted value salt => exact ⟨rfl, fun _ _ h => h⟩
  have hkept (t' : ℕ) : (Function.update phase t
      ((phase t).next (.deleteCredential credential_id) result) t').kept =
        if t' = t then (phase t').kept.tried result else (phase t').kept := by
    by_cases ht : t' = t
    · subst ht
      rw [Function.update_self, if_pos rfl]
      rfl
    · rw [Function.update_of_ne ht, if_neg ht]
  have hrecord (t' : ℕ) : (Function.update phase t
      ((phase t).next (.deleteCredential credential_id) result) t').kept.record =
        (phase t').kept.record := by
    rw [hkept]
    split_ifs
    · exact Kept.tried_record _ _
    · rfl
  have howned (t' : ℕ) : (Function.update phase t
      ((phase t).next (.deleteCredential credential_id) result) t').kept.owned =
        (phase t').kept.owned := by
    rw [hkept]
    split_ifs
    · exact (htried _).1
    · rfl
  refine ⟨h.threads_action hallowed result, h.issued, fun t' value salt hr => ?_,
    fun t' t'' value value' salt salt' hr hr' hid => ?_, fun other hpresent => ?_,
    fun t' other hown => ?_, fun t' value salt hdeleted => ?_⟩
  · rw [hrecord] at hr
    exact h.known t' value salt hr
  · rw [hrecord] at hr hr'
    exact h.distinct t' t'' value value' salt salt' hr hr' hid
  · obtain hheld | ⟨t', hown⟩ := h.source other hpresent
    · exact .inl hheld
    · exact .inr ⟨t', (howned t').trans hown⟩
  · rw [howned] at hown
    exact (h.present t' other hown).imp_right fun hremoved => hremoved.cons _
  · rw [hkept] at hdeleted
    split_ifs at hdeleted
    · exact h.deleted t' value salt ((htried _).2 value salt hdeleted)
    · exact h.deleted t' value salt hdeleted

/-- A deletion that succeeds is one of the thread's own credential, or a removal. -/
theorem CustodyBooks.deletes_done (h : CustodyBooks P held history s phase)
    {credential_id : List UInt8} {result : HResult}
    (hallowed : (phase t).allows P (.deleteCredential credential_id))
    (hdone : failed result = false) :
    CustodyBooks P held (.action t ⟨.deleteCredential credential_id⟩ result s :: history)
      (s.delete credential_id)
      (Function.update phase t ((phase t).next (.deleteCredential credential_id) result)) := by
  have hrecord (t' : ℕ) : (Function.update phase t
      ((phase t).next (.deleteCredential credential_id) result) t').kept.record =
        (phase t').kept.record := by
    by_cases ht : t' = t
    · subst ht
      rw [Function.update_self]
      exact Kept.tried_record _ _
    · rw [Function.update_of_ne ht]
  have hreleased (kept : Kept) : (kept.tried result).owned = none := by
    cases kept <;> simp [Kept.tried, hdone, Kept.owned]
  -- The thread has nothing left to answer for, and the others have what they had.
  have howned (t' : ℕ) (other : List UInt8) (hown : (Function.update phase t
      ((phase t).next (.deleteCredential credential_id) result) t').kept.owned = some other) :
        t' ≠ t ∧ (phase t').kept.owned = some other := by
    by_cases ht : t' = t
    · subst ht
      rw [Function.update_self] at hown
      exact absurd ((hreleased _).symm.trans hown) (Option.some_ne_none _).symm
    · rw [Function.update_of_ne ht] at hown
      exact ⟨ht, hown⟩
  have hdeleted : (s.delete credential_id).credentials credential_id = false :=
    Function.update_self _ _ _
  have hold {other : List UInt8} (hne : other ≠ credential_id) :
      (s.delete credential_id).credentials other = s.credentials other :=
    Function.update_of_ne hne _ _
  have hless {other : List UInt8} (hpresent : (s.delete credential_id).credentials other = true) :
      other ≠ credential_id ∧ s.credentials other = true := by
    have hne : other ≠ credential_id := by
      rintro rfl
      rw [hdeleted] at hpresent
      cases hpresent
    exact ⟨hne, (hold hne).symm.trans hpresent⟩
  refine ⟨h.threads_action hallowed result, fun other hpresent => h.issued other (hless hpresent).2,
    fun t' value salt hr => ?_, fun t' t'' value value' salt salt' hr hr' hid => ?_,
    fun other hpresent => ?_, fun t' other hown => ?_, fun t' value salt hkept => ?_⟩
  · rw [hrecord] at hr
    exact h.known t' value salt hr
  · rw [hrecord] at hr hr'
    exact h.distinct t' t'' value value' salt salt' hr hr' hid
  · obtain ⟨hne, hpresent⟩ := hless hpresent
    obtain hheld | ⟨t', hown⟩ := h.source other hpresent
    · exact .inl hheld
    · refine .inr ⟨t', ?_⟩
      have ht : t' ≠ t := by
        rintro rfl
        obtain ⟨-, hnothing⟩ | hmine := hallowed.2
        · rw [hnothing] at hown
          cases hown
        · exact hne (Option.some.inj (hown.symm.trans hmine))
      rw [Function.update_of_ne ht]
      exact hown
  · obtain ⟨ht, hbefore⟩ := howned t' other hown
    by_cases hne : other = credential_id
    · subst hne
      obtain ⟨hcall, -⟩ | hmine := hallowed.2
      · exact .inr ⟨t, result, s, List.mem_cons_self, hdone, ((h.threads t).began _ hcall).cons _⟩
      · obtain ⟨value, salt, hr, hid⟩ := Kept.record_of_owned hbefore
        obtain ⟨value', salt', hr', hid'⟩ := Kept.record_of_owned hmine
        exact absurd (h.distinct t' t value value' salt salt' hr hr' (hid.trans hid'.symm)) ht
    · rw [hold hne]
      exact (h.present t' other hbefore).imp_right fun hremoved => hremoved.cons _
  · by_cases hid : value.credential_id = credential_id
    · rw [hid]
      exact hdeleted
    · rw [hold hid]
      by_cases ht : t' = t
      · subst ht
        rw [Function.update_self] at hkept
        change (phase t').kept.tried result = .deleted value salt at hkept
        -- The thread deletes no other credential than the one that it has made.
        have hmine {value' : AttestationView} {salt' : Bytes 32}
            (hrecord : (phase t').kept.record = some (value', salt'))
            (hvalue : value' = value) (hown : (phase t').kept.owned = some value'.credential_id) :
            False := by
          obtain ⟨-, hnothing⟩ | hmine := hallowed.2
          · rw [hnothing] at hrecord
            cases hrecord
          · rw [← hvalue] at hid
            exact hid (Option.some.inj (hown.symm.trans hmine))
        cases hbefore : (phase t').kept with
        | nothing =>
          rw [hbefore] at hkept
          cases hkept
        | made value' salt' =>
          rw [hbefore] at hkept hmine
          simp only [Kept.tried, hdone, Bool.false_eq_true, if_false, Kept.deleted.injEq] at hkept
          exact (hmine rfl hkept.1 rfl).elim
        | stuck value' salt' =>
          rw [hbefore] at hkept hmine
          simp only [Kept.tried, hdone, Bool.false_eq_true, if_false, Kept.deleted.injEq] at hkept
          exact (hmine rfl hkept.1 rfl).elim
        | deleted value' salt' =>
          rw [hbefore] at hkept
          cases hkept
          exact h.deleted t' value salt hbefore
      · rw [Function.update_of_ne ht] at hkept
        exact h.deleted t' value salt hkept

/-- Each action that its thread is allowed keeps the books. -/
theorem CustodyBooks.action (h : CustodyBooks P held history s phase) {a : Action} (o : Answers)
    (hallowed : (phase t).allows P a) :
    CustodyBooks P held (.action t ⟨a⟩ (perform a o s).1 s :: history) (perform a o s).2
      (Function.update phase t ((phase t).next a (perform a o s).1)) := by
  have hthreads (r : a.Result) := h.threads_action hallowed r
  have hquiet (r : a.Result) (hkept : ((phase t).next a r).kept = (phase t).kept)
      (t' : ℕ) : (Function.update phase t ((phase t).next a r) t').kept = (phase t').kept := by
    by_cases ht : t' = t
    · subst ht
      rw [Function.update_self, hkept]
    · rw [Function.update_of_ne ht]
  cases a with
  | makeCredential request =>
    have hnothing {r : HResult × Option AttestationView} (hcreated : created r = none) :
        CustodyBooks P held (.action t ⟨.makeCredential request⟩ r s :: history) s
          (Function.update phase t ((phase t).next (.makeCredential request) r)) := by
      refine h.frame (hthreads r) (hquiet r ?_) rfl rfl
      simp only [Trail.next, hcreated]
    cases hanswer : o.attestation with
    | none =>
      have hperform : perform (.makeCredential request) o s = ((o.result, none), s) := by
        simp only [perform, hanswer]
      rw [hperform]
      exact hnothing rfl
    | some value =>
      by_cases hfailed : failed o.result ∨ value.credential_id = []
      · have hperform : perform (.makeCredential request) o s = ((o.result, some value), s) := by
          simp only [perform, hanswer, if_pos hfailed]
        rw [hperform]
        refine hnothing (Option.eq_none_iff_forall_ne_some.mpr fun made hmade => ?_)
        obtain ⟨hsucceeded, hanswered, hne⟩ := created_eq_some.mp hmade
        cases hanswered
        obtain hfailed | hempty := hfailed
        · rw [show failed o.result = false from hsucceeded] at hfailed
          cases hfailed
        · exact hne hempty
      · cases hissued : s.issued value.credential_id with
        | true =>
          have hperform : perform (.makeCredential request) o s = ((unspecifiedFailure, none), s) := by
            simp only [perform, hanswer, if_neg hfailed, hissued, if_true]
          rw [hperform]
          exact hnothing rfl
        | false =>
          have hperform : perform (.makeCredential request) o s =
              ((o.result, some value), s.issue value.credential_id) := by
            simp only [perform, hanswer, if_neg hfailed, hissued, Bool.false_eq_true, if_false]
          rw [hperform]
          refine h.makes hallowed ?_ hissued
          rw [not_or, Bool.not_eq_true] at hfailed
          exact created_eq_some.mpr ⟨hfailed.1, rfl, hfailed.2⟩
  | deleteCredential credential_id =>
    cases hfailed : failed o.result with
    | true =>
      have hperform : perform (.deleteCredential credential_id) o s = (o.result, s) := by
        simp only [perform, hfailed, if_true]
      rw [hperform]
      exact h.deletes_failed hallowed hfailed
    | false =>
      have hperform : perform (.deleteCredential credential_id) o s =
          (o.result, s.delete credential_id) := by
        simp only [perform, hfailed, Bool.false_eq_true, if_false]
      rw [hperform]
      exact h.deletes_done hallowed hfailed
  | getAssertion request =>
    refine h.frame (hthreads _) (hquiet _ ?_) rfl rfl
    show ((phase t).next (.getAssertion request) (o.result, o.assertion)).kept = (phase t).kept
    cases hanswer : o.assertion <;> rfl
  | getCancellationId =>
    refine h.frame (hthreads _) (hquiet _ rfl) ?_ ?_
    · dsimp only [perform]
      split_ifs <;> rfl
    · dsimp only [perform]
      split_ifs <;> rfl
  | emplace operation_id guid =>
    refine h.frame (hthreads _) (hquiet _ rfl) ?_ ?_
    · dsimp only [perform]
      split <;> rfl
    · dsimp only [perform]
      split <;> rfl
  | eraseSame operation_id guid =>
    refine h.frame (hthreads _) (hquiet _ rfl) ?_ ?_
    · dsimp only [perform]
      split_ifs <;> rfl
    · dsimp only [perform]
      split_ifs <;> rfl
  | _ => exact h.frame (hthreads _) (hquiet _ rfl) rfl rfl

/-- A step on the mutex keeps the books. -/
theorem CustodyBooks.mutex (h : CustodyBooks P held history s phase) {event : Event machine}
    (hevent : ∀ t a result s, event ≠ .action t a result s) :
    CustodyBooks P held (event :: history) s phase :=
  h.frame (fun t => (h.threads t).other (hevent t)) (fun _ => rfl) rfl rfl

/-- The books are right in every run. -/
theorem custodyBooks_invariant (P : Primitives) (held : List UInt8 → Bool) :
    Invariant (custody P) (fun _ _ => True) (Platform.start held)
      fun history s phase _ => CustodyBooks P held history s phase where
  init := custodyBooks_nil held
  action _ _ o inv allowed _ := inv.action o allowed
  acquire := fun {_ _ phase _} t m inv _ _ => by
    have hphase : Function.update phase t ((custody P).acquire (phase t) m) = phase :=
      Function.update_eq_self t phase
    rw [hphase]
    exact inv.mutex (by simp)
  release := fun {_ _ phase _} t m inv _ _ => by
    have hphase : Function.update phase t ((custody P).release (phase t) m) = phase :=
      Function.update_eq_self t phase
    rw [hphase]
    exact inv.mutex (by simp)

end

/-! ## Every credential is accounted for -/

/-- The result of an enrollment answers for a credential. -/
def AnswersFor (result : Except WindowsHelloProviderError WindowsHelloEnrollment)
    (credential_id : List UInt8) : Prop :=
  (∃ prf_salt prf_output, result = .ok ⟨credential_id, prf_salt, prf_output⟩) ∨
    result = .error (.cleanupRequired credential_id) ∨
    Client.maximumCredentialIdBytes < credential_id.length

/-- A settled enrollment answers for the credential that it still owns. -/
theorem answersFor_of_settles {kept : Kept}
    {result : Except WindowsHelloProviderError WindowsHelloEnrollment} {credential_id : List UInt8}
    (h : Trail.SettlesEnrollment P kept result) (howned : kept.owned = some credential_id) :
    AnswersFor result credential_id := by
  cases result with
  | ok enrollment =>
    obtain ⟨value, rfl, hid, -, -⟩ := h
    obtain ⟨id, salt, output⟩ := enrollment
    have hsame : id = credential_id := hid.trans (Option.some.inj howned)
    rw [hsame]
    exact .inl ⟨salt, output, rfl⟩
  | error error =>
    cases error with
    | cleanupRequired pending =>
      obtain ⟨-, value, salt, hkept, hid⟩ := h
      have hsame : pending = credential_id := by
        obtain rfl | rfl := hkept
        · exact hid.symm.trans (Option.some.inj howned)
        · cases howned
      rw [hsame]
      exact .inr (.inl rfl)
    | _ => exact .inr (.inr (h credential_id howned))

/-- Windows makes a credential with a one-byte id. -/
def sampleAttestation : AttestationView where
  version := 7
  credential_id := [7]
  authenticator_data := List.replicate 32 0 ++ 0x45 :: List.replicate 21 0 ++ [1, 7]
  prf_enabled := true
  used_transport := 0x10
  prf := { first := List.replicate 32 9 }

/-- Windows and the desktop process. -/
def sampleAnswers : Answers :=
  { process_id := 3, random := some (Bytes.replicate 32 1), attestation := some sampleAttestation }

/-- A call of the provider, on its own. -/
def alone (request : Request) (n : ℕ) (o : Answers) : List (Move machine) :=
  .spawn (request.program Core.samplePrimitives) :: List.replicate n (.step 0 o)

theorem provided_of_alone {request : Request} {n : ℕ} {o : Answers} (p : Prog machine Unit)
    (h : .spawn p ∈ alone request n o) : Provided Core.samplePrimitives p := by
  obtain h | h := List.mem_cons.mp h
  · cases h
    exact ⟨request, rfl⟩
  · cases List.eq_of_mem_replicate h

/-- The latest event is the return of an enrollment. -/
def endsEnrolled (credential_id : List UInt8) : History machine → Bool
  | .action t ⟨.returned (.enrolled (.ok enrollment))⟩ _ _ :: _ =>
    decide (t = 0 ∧ enrollment.credential_id = credential_id)
  | _ => false

theorem exists_of_endsEnrolled {history : History machine} {credential_id : List UInt8}
    (h : endsEnrolled credential_id history = true) : ∃ enrollment,
      Returns history 0 (.enrolled (.ok enrollment)) ∧
        enrollment.credential_id = credential_id := by
  unfold endsEnrolled at h
  split at h
  · next t enrollment _ s past =>
    obtain ⟨rfl, hid⟩ := of_decide_eq_true h
    exact ⟨enrollment, ⟨s, List.mem_cons_self⟩, hid⟩
  · cases h

end Librarian.WindowsHello
