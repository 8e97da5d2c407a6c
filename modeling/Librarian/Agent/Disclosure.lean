import Librarian.Agent.GateSections
import Librarian.Agent.Unlocking
import Librarian.Protocol.Accounting

/-!
# What a response discloses

`finish_dispatch` decides under the commit gate whether the outcome of a request may still be
disclosed. Between its admission and that section the request is in flight on its connection, where a
cancel frame or the close of the connection marks it, whether its registration exists by then or not;
`Connection::finish` reads the mark at the start of the section. The ids of a connection increase, so
that no other request is in flight under the same id.
-/

namespace Librarian.Agent

open Conc Librarian.Core Librarian.Protocol

variable {P : Primitives}

/-! ## Requests in flight -/

/-- An event admits a request. -/
def Admits (key : RequestKey) (permit : RequestPermit) : Event (machine P) → Prop
  | .action _ (.beginRequest connection _ _ _) (.ok permit') _ =>
    connection.connection_id = key.connection_id ∧ permit' = permit ∧
      permit.request_id = key.request_id
  | _ => False

/-- An event is an accepted cancel frame for a request, or closes its connection. -/
def Withdraws (key : RequestKey) : Event (machine P) → Prop
  | .action _ (.connectionCancel connection header) (.ok ()) _ =>
    connection.connection_id = key.connection_id ∧ header.request_id = key.request_id
  | .action _ (.connectionClose connection_id) _ _ => connection_id = key.connection_id
  | _ => False

/-- A request was admitted, and has not been withdrawn since. -/
def Standing (history : History (machine P)) (key : RequestKey) (permit : RequestPermit) : Prop :=
  ∃ later admission earlier, history = later ++ admission :: earlier ∧
    Admits key permit admission ∧ ∀ event ∈ later, ¬Withdraws key event

theorem Standing.cons {history : History (machine P)} {key : RequestKey} {permit : RequestPermit}
    (h : Standing history key permit) {event : Event (machine P)} (hevent : ¬Withdraws key event) :
    Standing (event :: history) key permit := by
  obtain ⟨later, admission, earlier, rfl, hadmits, hlater⟩ := h
  refine ⟨event :: later, admission, earlier, rfl, hadmits, fun event' hmem => ?_⟩
  obtain rfl | htail := List.mem_cons.mp hmem
  · exact hevent
  · exact hlater event' htail

/-- The connection that an action works on. -/
def Action.connectionId : Action P → Option ConnectionId
  | .connect connection | .beginRequest connection _ _ _ | .connectionCancel connection _ =>
    some connection.connection_id
  | .connectionFinish key => some key.connection_id
  | .connectionClose connection_id => some connection_id
  | _ => none

/-- An action on another connection, or on none, leaves a connection alone. -/
theorem perform_lookup {a : Action P} {connection_id : ConnectionId}
    (h : a.connectionId ≠ some connection_id) (o : Oracle) (s : Shared) :
    (perform a o s).2.connections.lookup connection_id = s.connections.lookup connection_id := by
  cases a with
  | connect connection =>
    dsimp only [perform]
    split
    · rfl
    · exact AList.lookup_insert_ne fun heq => h (congrArg some heq.symm)
  | beginRequest connection header envelope current_unlock_epoch =>
    dsimp only [perform, Shared.onConnection]
    split
    · rfl
    · exact AList.lookup_insert_ne fun heq => h (congrArg some heq.symm)
  | connectionCancel connection header =>
    dsimp only [perform, Shared.onConnection]
    split
    · rfl
    · exact AList.lookup_insert_ne fun heq => h (congrArg some heq.symm)
  | connectionFinish key =>
    dsimp only [perform, Shared.onConnection]
    split
    · rfl
    · exact AList.lookup_insert_ne fun heq => h (congrArg some heq.symm)
  | connectionClose connection_id' =>
    dsimp only [perform, Shared.onConnection]
    split
    · rfl
    · exact AList.lookup_insert_ne fun heq => h (congrArg some heq.symm)
  | _ => first
    | rfl
    | (dsimp only [perform]; split <;> rfl)
    | (dsimp only [perform]; split_ifs <;> rfl)

/-- A request is in flight on a connection, and marked there if it is `marked`. -/
def Pending (id : ℕ) (marked : Prop) (state : ConnectionState) : Prop :=
  id ∈ state.in_flight ∧ id ≠ 0 ∧ id ≤ state.last_request_id ∧ (marked → id ∈ state.cancelled)

/-- A request is in flight on its connection. -/
def InFlight (s : Shared) (key : RequestKey) (marked : Prop) : Prop :=
  ∃ state, s.connections.lookup key.connection_id = some state ∧
    Pending key.request_id marked state

section

variable {id : ℕ} {marked : Prop} {state : ConnectionState}

theorem Pending.mono {marked' : Prop} (h : Pending id marked state) (hmarked : marked' → marked) :
    Pending id marked' state :=
  ⟨h.1, h.2.1, h.2.2.1, fun hm => h.2.2.2 (hmarked hm)⟩

theorem Pending.fail (h : Pending id marked state) : Pending id marked state.fail := h

/-- An id that the connection issues is greater than those in flight. -/
theorem Pending.issue (h : Pending id marked state) {request_id : ℕ}
    (horder : state.last_request_id ≠ 0 → state.last_request_id < request_id) :
    id < request_id ∧ Pending id marked (state.issue request_id) := by
  obtain ⟨hflight, hpositive, hlast, hmark⟩ := h
  have hlt : id < request_id := by
    have := horder (by omega)
    omega
  exact ⟨hlt, hflight, hpositive, hlt.le, hmark⟩

theorem Pending.beginRequest (h : Pending id marked state) (connection : Connection)
    (header : FrameHeader) (envelope : RequestEnvelope) (current_unlock_epoch : ℕ) :
    Pending id marked
      (state.beginRequest connection header envelope current_unlock_epoch).2 := by
  obtain ⟨e, hdone⟩ | ⟨⟨-, -, horder⟩, hdone⟩ :=
    ConnectionState.beginRequest_cases connection header state envelope current_unlock_epoch
  · rw [hdone]
    exact h.fail
  · obtain ⟨hlt, hissued⟩ := h.issue horder
    obtain ⟨e, -, hdone⟩ | ⟨permit, -, -, hdone⟩ := hdone
    · rw [hdone]
      exact hissued
    · rw [hdone]
      obtain ⟨hflight, hpositive, hlast, hmark⟩ := hissued
      exact ⟨Finset.mem_insert_of_mem hflight, hpositive, hlast,
        fun hm => Finset.mem_erase.mpr ⟨hlt.ne, hmark hm⟩⟩

/-- An accepted cancel frame marks its request. -/
theorem Pending.cancel (h : Pending id marked state) (connection : Connection)
    (header : FrameHeader) :
    Pending id (marked ∨ (state.cancel connection header).1 = .ok () ∧ header.request_id = id)
      (state.cancel connection header).2 := by
  obtain ⟨hflight, hpositive, hlast, hmark⟩ := h
  obtain ⟨e, hdone⟩ | ⟨-, -, hdone⟩ := ConnectionState.cancel_cases connection header state
  · rw [hdone]
    refine ⟨hflight, hpositive, hlast, ?_⟩
    rintro (hm | ⟨hok, -⟩)
    · exact hmark hm
    · cases hok
  · rw [hdone]
    refine ⟨hflight, hpositive, hlast, ?_⟩
    dsimp only [ConnectionState.markCancelled]
    rintro (hm | ⟨-, rfl⟩)
    · split_ifs
      · exact Finset.mem_insert_of_mem (hmark hm)
      · exact hmark hm
    · rw [if_pos hflight]
      exact Finset.mem_insert_self _ _

/-- The completion of another request. -/
theorem Pending.finish (h : Pending id marked state) {request_id : ℕ} (hne : request_id ≠ id) :
    Pending id marked (state.finish request_id).2 := by
  obtain ⟨hflight, hpositive, hlast, hmark⟩ := h
  unfold ConnectionState.finish
  by_cases hfinished : request_id ∉ state.in_flight
  · rw [if_pos hfinished]
    exact ⟨hflight, hpositive, hlast, hmark⟩
  · rw [if_neg hfinished]
    exact ⟨Finset.mem_erase.mpr ⟨hne.symm, hflight⟩, hpositive, hlast,
      fun hm => Finset.mem_erase.mpr ⟨hne.symm, hmark hm⟩⟩

/-- The close of the connection marks every request in flight. -/
theorem Pending.close (h : Pending id marked state) : Pending id True state.close :=
  ⟨h.1, h.2.1, h.2.2.1, fun _ => h.1⟩

end

theorem InFlight.mono {s : Shared} {key : RequestKey} {marked marked' : Prop}
    (h : InFlight s key marked) (hmarked : marked' → marked) : InFlight s key marked' := by
  obtain ⟨state, hstate, hpending⟩ := h
  exact ⟨state, hstate, hpending.mono hmarked⟩

/-- An operation of its connection that keeps a request in flight. -/
theorem InFlight.onConnection {α : Type} {s : Shared} {key : RequestKey} {marked : Prop}
    {connection_id : ConnectionId} {state : ConnectionState} (absent : α)
    (f : ConnectionState → α × ConnectionState) (hid : connection_id = key.connection_id)
    (hstate : s.connections.lookup key.connection_id = some state)
    (hpending : Pending key.request_id marked (f state).2) :
    InFlight (s.onConnection connection_id absent f).2 key marked := by
  subst hid
  rw [Shared.onConnection, hstate]
  exact ⟨_, AList.lookup_insert _, hpending⟩

/-- What withdraws a request works on its connection. -/
theorem Withdraws.connectionId {key : RequestKey} {t : ℕ} {a : Action P} {result : a.Result}
    {s : Shared} (h : Withdraws key (.action t a result s)) :
    a.connectionId = some key.connection_id := by
  cases a with
  | connectionCancel connection header =>
    cases result with
    | error e => exact h.elim
    | ok u => exact congrArg some h.1
  | connectionClose connection_id => exact congrArg some h
  | _ => exact h.elim

/-- A request stays in flight until it is completed, and is marked when it is withdrawn. -/
theorem InFlight.perform {s : Shared} {key : RequestKey} {marked : Prop} {a : Action P}
    (h : InFlight s key marked) (hfinish : a ≠ .connectionFinish key) (t : ℕ) (o : Oracle) :
    InFlight (Agent.perform a o s).2 key
      (marked ∨ Withdraws key (.action t a (Agent.perform a o s).1 s)) := by
  obtain ⟨state, hstate, hpending⟩ := h
  by_cases hid : a.connectionId = some key.connection_id
  · cases a with
    | connect connection =>
      have hid : connection.connection_id = key.connection_id := Option.some.inj hid
      have hsame : Agent.perform (P := P) (.connect connection) o s = ((), s) :=
        if_pos (by rw [hid, hstate]; rfl)
      rw [hsame]
      exact ⟨state, hstate, hpending.mono (Or.rec id False.elim)⟩
    | beginRequest connection header envelope current_unlock_epoch =>
      refine InFlight.onConnection _ _ (Option.some.inj hid) hstate ?_
      exact (hpending.beginRequest connection header envelope current_unlock_epoch).mono
        (Or.rec id False.elim)
    | connectionCancel connection header =>
      have hid : connection.connection_id = key.connection_id := Option.some.inj hid
      refine InFlight.onConnection _ _ hid hstate ((hpending.cancel connection header).mono ?_)
      rintro (hm | hwithdraws)
      · exact .inl hm
      · right
        have hresult : (Agent.perform (P := P) (.connectionCancel connection header) o s).1 =
            (state.cancel connection header).1 := by
          show (s.onConnection connection.connection_id _ _).1 = _
          rw [Shared.onConnection, hid, hstate]
        rw [hresult] at hwithdraws
        cases hcancel : (state.cancel connection header).1 with
        | error e =>
          rw [hcancel] at hwithdraws
          exact hwithdraws.elim
        | ok u =>
          rw [hcancel] at hwithdraws
          exact ⟨rfl, hwithdraws.2⟩
    | connectionFinish key' =>
      have hid : key'.connection_id = key.connection_id := Option.some.inj hid
      have hne : key'.request_id ≠ key.request_id := by
        intro heq
        apply hfinish
        obtain ⟨connection_id, request_id⟩ := key'
        cases hid
        cases heq
        rfl
      exact InFlight.onConnection _ _ hid hstate ((hpending.finish hne).mono (Or.rec id False.elim))
    | connectionClose connection_id =>
      refine InFlight.onConnection _ _ (Option.some.inj hid) hstate ?_
      exact hpending.close.mono fun _ => trivial
    | _ => cases hid
  · refine ⟨state, (perform_lookup hid o s).trans hstate, hpending.mono ?_⟩
    rintro (hm | hwithdraws)
    · exact hm
    · exact absurd hwithdraws.connectionId hid

/-! ## The discipline -/

/-- The response carries data, or says of what was asked for that it is not there. -/
def Response.Discloses : Response → Prop
  | .success _ => True
  | .failure error _ => error = .notFound

/-- Where a thread stands with its request. -/
inductive Disclosing
  | idle
  | admitted (key : RequestKey) (permit : RequestPermit)
  /-- The request was completed in the present section, where the state was read as `Unlocked` or
  was not. -/
  | completed (key : RequestKey) (permit : RequestPermit) (unlocked : Bool)
  | over

namespace Disclosing

/-- The phase after an action. -/
def next : Disclosing → (a : Action P) → a.Result → Disclosing := fun φ a r =>
  match a, r, φ with
  | .beginRequest connection _ _ _, .ok permit, .idle =>
    .admitted ⟨connection.connection_id, permit.request_id⟩ permit
  | .connectionFinish _, .ok .active, .admitted key permit => .completed key permit false
  | .connectionFinish _, _, _ => .over
  | .loadState, state, .completed key permit unlocked =>
    .completed key permit (unlocked || state = .unlocked)
  | _, _, φ => φ

/-- The phase after a release. -/
def release : Disclosing → Mutex → Disclosing := fun φ m =>
  match m, φ with
  | .commitGate, .completed _ _ _ => .over
  | _, φ => φ

/-- What a phase allows. A thread completes its own request only, and answers it by what it has read
in the section of the completion. -/
def allows (seen : Option Seen) (φ : Disclosing) : Action P → Prop
  | .beginRequest _ _ _ _ | .connectionCancel _ _ | .connectionClose _ => φ = .idle
  | .connectionFinish key => ∃ permit, φ = .admitted key permit
  | .writeResponse key permit committed response =>
    response.Discloses → permit.operation.requiresUnlockedEpoch = true → committed = false →
      φ = .completed key permit true ∧
        ∃ known, seen = some known ∧ known.lockClear = true ∧
          known.epoch = some permit.unlock_epoch
  | _ => True

theorem allows_of_kind {seen : Option Seen} {φ : Disclosing} {a : Action P}
    (hadmission : a.kind ≠ .admission) (hcompletion : a.kind ≠ .completion)
    (hcancellation : φ = .idle ∨ a.kind ≠ .cancellation) : φ.allows seen a := by
  cases a <;> first
    | trivial
    | exact absurd rfl hadmission
    | exact absurd rfl hcompletion
    | exact hcancellation.resolve_right fun h => h rfl

theorem next_admitted {key : RequestKey} {permit : RequestPermit} {a : Action P}
    (h : a.kind ≠ .completion) (r : a.Result) : (admitted key permit).next a r =
      .admitted key permit := by
  cases a <;> first
    | rfl
    | exact absurd rfl h
    | (dsimp only [next]; split <;> first | rfl | contradiction)

theorem next_idle {a : Action P} (hadmission : a.kind ≠ .admission)
    (hcompletion : a.kind ≠ .completion) (r : a.Result) : idle.next a r = .idle := by
  cases a <;> first
    | rfl
    | exact absurd rfl hadmission
    | exact absurd rfl hcompletion

/-- A thread whose request is in flight has admitted it just now or before. -/
theorem of_next_admitted {φ : Disclosing} {a : Action P} {r : a.Result} {key : RequestKey}
    {permit : RequestPermit}
    (hbegin : ∀ connection header envelope epoch, a ≠ .beginRequest connection header envelope epoch)
    (h : φ.next a r = .admitted key permit) :
    φ = .admitted key permit ∧ ∀ key', a ≠ .connectionFinish key' := by
  cases a with
  | beginRequest => exact absurd rfl (hbegin _ _ _ _)
  | connectionFinish key' =>
    unfold next at h
    split at h <;> simp_all
  | loadState =>
    unfold next at h
    split at h <;> simp_all
  | _ => exact ⟨h, fun key' heq => by cases heq⟩

/-- A thread whose request is completed has completed it just now or before, and has read the state
as `Unlocked` just now or before. -/
theorem of_next_completed {φ : Disclosing} {a : Action P} {r : a.Result} {key : RequestKey}
    {permit : RequestPermit} {unlocked : Bool} (hfinish : ∀ key', a ≠ .connectionFinish key')
    (hload : a ≠ .loadState) (h : φ.next a r = .completed key permit unlocked) :
    φ = .completed key permit unlocked := by
  cases a with
  | connectionFinish key' => exact absurd rfl (hfinish key')
  | loadState => exact absurd rfl hload
  | beginRequest =>
    unfold next at h
    split at h <;> simp_all
  | _ => exact h

end Disclosing

/-- The discipline of what responses disclose. -/
def disclosing (P : Primitives) : Discipline (machine P) (Option Seen × Disclosing) :=
  knowing .idle Disclosing.next Disclosing.release Disclosing.allows

section

variable {α : Type} {H : Finset Mutex} {φ : Option Seen × Disclosing} {key : RequestKey}
  {permit : RequestPermit}

/-- The execution of a request leaves its admission alone. -/
theorem wp_executing {p : Code P α} (h : KeepsLoosely executionKinds p H)
    (hφ : φ.2 = .admitted key permit) :
    wp (disclosing P) p (fun _ φ H' => φ.2 = .admitted key permit ∧ H' = H) φ H := by
  refine wp_of_guards (M := machine P) (P := fun φ : Option Seen × Disclosing =>
    φ.2 = .admitted key permit) (R := fun H' => H' = H) h hφ ?_ ?_ ?_
  · intro a φ H hφ hwithin
    have hkind : a.kind ∈ insert Kind.plain executionKinds := hwithin.2
    have hcompletion : a.kind ≠ .completion := by
      intro heq
      rw [heq] at hkind
      simp at hkind
    refine ⟨⟨hwithin.1, Disclosing.allows_of_kind ?_ hcompletion (.inr ?_)⟩, fun r => ?_⟩
    · intro heq
      rw [heq] at hkind
      simp at hkind
    · intro heq
      rw [heq] at hkind
      simp at hkind
    · show φ.2.next a r = _
      rw [hφ]
      exact Disclosing.next_admitted hcompletion r
  · intro φ H m hφ _
    exact ⟨trivial, hφ⟩
  · intro φ m hφ
    refine ⟨trivial, ?_⟩
    show φ.2.release m = _
    rw [hφ]
    cases m <;> rfl

/-- What is no request stays out of the books. -/
theorem wp_entry {p : Code P α} (h : KeepsLoosely entryKinds p H) (hφ : φ.2 = .idle) :
    wp (disclosing P) p (fun _ φ H' => φ.2 = .idle ∧ H' = H) φ H := by
  refine wp_of_guards (M := machine P) (P := fun φ : Option Seen × Disclosing =>
    φ.2 = .idle) (R := fun H' => H' = H) h hφ ?_ ?_ ?_
  · intro a φ H hφ hwithin
    have hkind : a.kind ∈ insert Kind.plain entryKinds := hwithin.2
    have hadmission : a.kind ≠ .admission := by
      intro heq
      rw [heq] at hkind
      simp at hkind
    have hcompletion : a.kind ≠ .completion := by
      intro heq
      rw [heq] at hkind
      simp at hkind
    refine ⟨⟨hwithin.1, Disclosing.allows_of_kind hadmission hcompletion (.inl hφ)⟩, fun r => ?_⟩
    show φ.2.next a r = _
    rw [hφ]
    exact Disclosing.next_idle hadmission hcompletion r
  · intro φ H m hφ _
    exact ⟨trivial, hφ⟩
  · intro φ m hφ
    refine ⟨trivial, ?_⟩
    show φ.2.release m = _
    rw [hφ]
    cases m <;> rfl

/-- An action that teaches nothing leaves the phase as it is. -/
theorem disclosing_next {a : Action P} (hseen : ∀ (seen : Seen) r, seen.after a r = seen)
    (hnext : ∀ (ψ : Disclosing) r, ψ.next a r = ψ) (r : a.Result) :
    (disclosing P).next φ a r = φ := by
  obtain ⟨seen, ψ⟩ := φ
  refine Prod.ext ?_ (hnext ψ r)
  cases seen with
  | none => rfl
  | some seen => exact congrArg some (hseen seen r)

/-- One such action, and then the rest. -/
theorem wp_mute {a : Action P} {k : a.Result → Code P α}
    {Q : α → Option Seen × Disclosing → Finset Mutex → Prop} (hguard : a.guard ⊆ H)
    (hallows : ∀ seen (ψ : Disclosing), ψ.allows seen a)
    (hseen : ∀ (seen : Seen) r, seen.after a r = seen)
    (hnext : ∀ (ψ : Disclosing) r, ψ.next a r = ψ)
    (hk : ∀ r, wp (disclosing P) (k r) Q φ H) : wp (disclosing P) (.call a k) Q φ H := by
  refine ⟨⟨hguard, hallows φ.1 φ.2⟩, fun r => ?_⟩
  rw [disclosing_next hseen hnext]
  exact hk r

theorem wp_pastDeadline {deadline : ℕ} {Q : Bool → Option Seen × Disclosing → Finset Mutex → Prop}
    (hQ : ∀ late, Q late φ H) : wp (disclosing P) (pastDeadline deadline) Q φ H :=
  wp_mute (Finset.empty_subset _) (fun _ _ => trivial) (fun _ _ => rfl) (fun _ _ => rfl)
    fun _ => hQ _

/-! ### Admission -/

/-- The end of the admission: an admitted request is in flight under its key, and after a rejection
the gate is still held. -/
def AdmissionEnd (admission : RequestAdmission) (φ : Option Seen × Disclosing)
    (H : Finset Mutex) : Prop :=
  match admission with
  | .admitted context permit => φ.2 = .admitted context.key permit ∧ H = ∅
  | .rejected _ => H = {.commitGate}
  | .fatal => H = ∅

theorem wp_refuseBusy {deadline : ℕ} :
    wp (disclosing P) (refuseBusy deadline) AdmissionEnd φ {.commitGate} := by
  refine wp.seq (wp_pastDeadline (Q := fun _ _ H => H = {.commitGate}) fun _ => rfl)
    fun late φ' H' hH => ?_
  subst hH
  cases late <;> rfl

theorem wp_carryOverCancellation {Q : Unit → Option Seen × Disclosing → Finset Mutex → Prop}
    (hgate : .commitGate ∈ H) (hQ : ∀ φ', φ'.2 = φ.2 → Q () φ' H) :
    wp (disclosing P) (carryOverCancellation key) Q φ H := by
  refine wp_mute (Finset.empty_subset _) (fun _ _ => trivial) (fun _ _ => rfl) (fun _ _ => rfl)
    fun cancelled => (wp_ite (M := machine P)).mpr ⟨fun _ => ?_, fun _ => hQ φ rfl⟩
  exact ⟨⟨by simpa [Action.guard] using hgate, trivial⟩, fun _ => hQ _ rfl⟩

theorem wp_registerRequest {connection : Connection} {deadline : ℕ}
    (hφ : φ.2 = .admitted ⟨connection.connection_id, permit.request_id⟩ permit) :
    wp (disclosing P) (registerRequest connection permit deadline) AdmissionEnd φ
      {.commitGate} := by
  have hgone : ({.commitGate} : Finset Mutex).erase .commitGate = ∅ := by simp
  refine wp_mute (Finset.empty_subset _) (fun _ _ => trivial) (fun _ _ => rfl) (fun _ _ => rfl)
    fun acquired => (wp_ite (M := machine P)).mpr ⟨fun _ => ?_, fun _ => ?_⟩
  · refine ⟨⟨by simp [Action.guard], permit, hφ⟩, fun completed => ?_⟩
    cases completed with
    | error e => exact ⟨Finset.mem_singleton_self _, trivial, hgone⟩
    | ok completion => exact wp_refuseBusy
  · refine wp.seq (Q := fun _ φ' (H' : Finset Mutex) => φ'.2 = φ.2 ∧ H' = {.commitGate}) ?_ ?_
    · refine (wp_withLock (M := machine P)).mpr ⟨trivial, fun _ => ⟨⟨?_, trivial⟩, fun _ => ?_⟩⟩
      · simp [Action.guard, Finset.insert_subset_iff]
      · exact ⟨by simp, trivial, rfl, by simp⟩
    · rintro registered φ' H' ⟨hφ', rfl⟩
      refine (wp_ite (M := machine P)).mpr ⟨fun _ => ?_, fun _ => ?_⟩
      · refine wp_mute (Finset.empty_subset _) (fun _ _ => trivial) (fun _ _ => rfl)
          (fun _ _ => rfl) fun _ => ?_
        exact ⟨Finset.mem_singleton_self _, trivial, hgone⟩
      · refine (wp_bind (M := machine P)).mpr (wp_carryOverCancellation
          (Finset.mem_singleton_self _) fun φ'' hφ'' => ?_)
        refine ⟨Finset.mem_singleton_self _, trivial, ?_, hgone⟩
        show φ''.2.release .commitGate = _
        rw [hφ'', hφ', hφ]
        rfl

theorem wp_admitRequest {connection : Connection} {header : FrameHeader}
    {envelope : RequestEnvelope} (hφ : φ.2 = .idle) :
    wp (disclosing P) (admitRequest connection header envelope) AdmissionEnd φ ∅ := by
  refine wp_mute (Finset.empty_subset _) (fun _ _ => trivial) (fun _ _ => rfl) (fun _ _ => rfl)
    fun started => ?_
  refine ⟨⟨Finset.empty_subset _, trivial⟩, fun current_unlock_epoch => ?_⟩
  refine ⟨⟨Finset.empty_subset _, hφ⟩, fun result => ⟨trivial, fun _ => ?_⟩⟩
  have hgone : ({.commitGate} : Finset Mutex).erase .commitGate = ∅ := by simp
  cases result with
  | ok permit =>
    refine wp_registerRequest ?_
    show Disclosing.next φ.2 (.beginRequest connection header envelope current_unlock_epoch : Action P)
      (.ok permit) = _
    rw [hφ]
    rfl
  | error error =>
    cases error with
    | connection e => exact ⟨Finset.mem_singleton_self _, trivial, hgone⟩
    | unauthorized => rfl
    | busy timeout => exact wp_refuseBusy
    | staleEpoch => rfl
    | missingIdempotencyKey => rfl

/-! ### Completion -/

/-- An outcome may be disclosed by what has been read. -/
def Cleared (key : RequestKey) (permit : RequestPermit) (outcome : ExecutionOutcome)
    (φ : Option Seen × Disclosing) : Prop :=
  outcome.error = none ∨ outcome.error = some .notFound →
    permit.operation.requiresUnlockedEpoch = true → outcome.committed = false →
      φ.2 = .completed key permit true ∧
        ∃ known, φ.1 = some known ∧ known.lockClear = true ∧
          known.epoch = some permit.unlock_epoch

/-- What is read after the outcome has been cleared leaves it cleared. -/
theorem Cleared.next {outcome : ExecutionOutcome} (h : Cleared key permit outcome φ) (a : Action P)
    (hseen : ∀ (seen : Seen) r,
      (seen.after a r).epoch = seen.epoch ∧ (seen.after a r).lockClear = seen.lockClear)
    (hnext : ∀ (ψ : Disclosing) r, ψ.next a r = ψ) (r : a.Result) :
    Cleared key permit outcome ((disclosing P).next φ a r) := by
  intro herror hoperation hcommitted
  obtain ⟨hφ, known, hknown, hclear, hepoch⟩ := h herror hoperation hcommitted
  refine ⟨(hnext φ.2 r).trans hφ, known.after a r, ?_, ?_, ?_⟩
  · exact congrArg (Option.map fun seen => Seen.after seen a r) hknown
  · exact (hseen known r).2.trans hclear
  · exact (hseen known r).1.trans hepoch

/-- Plain actions are always allowed. -/
theorem wp_plainly {p : Code P α} (h : Keeps ∅ p H) :
    wp (disclosing P) p (fun _ _ H' => H' = H) φ H := by
  have hwp := wp_of_guards (M := machine P) (D := disclosing P) (φ := φ) (P := fun _ => True)
    (R := fun H' => H' = H) h trivial ?_ (fun _ _ _ _ _ => ⟨trivial, trivial⟩)
    (fun _ _ _ => ⟨trivial, trivial⟩)
  · exact wp_mono hwp fun _ _ _ h => h.2
  · intro a φ H _ hwithin
    have hkind : a.kind = .plain := by simpa using hwithin.2
    refine ⟨⟨hwithin.1, Disclosing.allows_of_kind ?_ ?_ (.inr ?_)⟩, fun _ => trivial⟩ <;>
      simp [hkind]

/-- The operations that need an unlocked vault are authorized by the three reads. -/
theorem outcomeIsStillAuthorized_eq {outcome : ExecutionOutcome}
    (h : permit.operation.requiresUnlockedEpoch = true) :
    (outcomeIsStillAuthorized permit outcome : Code P Bool) = (do
      if ← act (.loadActive .lock) then return false
      return !(← notUnlockedAt permit.unlock_epoch)) := by
  unfold outcomeIsStillAuthorized
  revert h
  cases permit.operation <;> intro h <;> first | rfl | cases h

/-- What the section has read clears the request. -/
def Vouched (key : RequestKey) (permit : RequestPermit) (φ : Option Seen × Disclosing) : Prop :=
  φ.2 = .completed key permit true ∧
    ∃ known, φ.1 = some known ∧ known.lockClear = true ∧ known.epoch = some permit.unlock_epoch

theorem wp_outcomeIsStillAuthorized {outcome : ExecutionOutcome} {seen : Seen} {unlocked : Bool}
    (h : permit.operation.requiresUnlockedEpoch = true) :
    wp (disclosing P) (outcomeIsStillAuthorized permit outcome)
      (fun authorized φ H' => (authorized = true → Vouched key permit φ) ∧ H' = H)
      (some seen, .completed key permit unlocked) H := by
  rw [outcomeIsStillAuthorized_eq h]
  refine ⟨⟨Finset.empty_subset _, trivial⟩, fun active => ?_⟩
  cases active with
  | true => exact ⟨by simp, rfl⟩
  | false =>
  refine ⟨⟨Finset.empty_subset _, trivial⟩, fun state => ?_⟩
  cases state with
  | unlocked =>
    refine ⟨⟨Finset.empty_subset _, trivial⟩, fun epoch => ⟨fun hauthorized => ?_, rfl⟩⟩
    have hepoch : epoch = permit.unlock_epoch := by simpa using hauthorized
    subst hepoch
    exact ⟨by simp [disclosing, knowing, Disclosing.next], _, rfl, rfl, rfl⟩
  | _ => exact ⟨by simp, rfl⟩

/-- An outcome that carries nothing is always cleared. -/
theorem cleared_of_error {outcome : ExecutionOutcome} {error : PublicErrorCode}
    (h : outcome.error = some error) (hne : error ≠ .notFound) : Cleared key permit outcome φ := by
  rintro (hnone | hnotFound)
  · simp [h] at hnone
  · exact absurd (Option.some.inj (h.symm.trans hnotFound)) hne

theorem wp_recheckOutcome {context : RequestContext} {completion : RequestCompletion}
    {outcome : ExecutionOutcome} {seen : Seen}
    (hφ : completion = .active → φ = (some seen, .completed key permit false)) :
    wp (disclosing P) (recheckOutcome context permit completion outcome)
      (fun outcome φ H' => Cleared key permit outcome φ ∧ H' = H) φ H := by
  cases completion with
  | cancelled => exact ⟨cleared_of_error rfl (by decide), rfl⟩
  | active =>
  obtain rfl := hφ rfl
  unfold recheckOutcome
  rw [if_neg (by simp)]
  refine (wp_ite (M := machine P)).mpr ⟨fun hdiscloses => ?_, fun hnothing => ?_⟩
  · refine ⟨⟨Finset.empty_subset _, trivial⟩, fun cancelled => ?_⟩
    refine (wp_ite (M := machine P)).mpr ⟨fun _ => ⟨cleared_of_error rfl (by decide), rfl⟩,
      fun _ => ?_⟩
    refine (wp_bind (M := machine P)).mpr (wp_pastDeadline fun late => ?_)
    refine (wp_ite (M := machine P)).mpr ⟨fun _ => ⟨cleared_of_error rfl (by decide), rfl⟩,
      fun _ => ?_⟩
    by_cases hoperation : permit.operation.requiresUnlockedEpoch = true
    · refine wp.seq (wp_outcomeIsStillAuthorized hoperation) ?_
      rintro authorized φ' H' ⟨hvouched, rfl⟩
      refine (wp_ite (M := machine P)).mpr ⟨fun hauthorized => ⟨fun _ _ _ => ?_, rfl⟩,
        fun _ => ⟨cleared_of_error rfl (by decide), rfl⟩⟩
      -- A replayed creation needs no unlocked vault.
      obtain hauthorized | ⟨-, hcreate⟩ := hauthorized
      · exact hvouched hauthorized
      · rw [hcreate] at hoperation
        cases hoperation
    · refine wp.seq (wp_plainly outcomeIsStillAuthorized_keeps) fun authorized φ' H' hH => ?_
      subst hH
      refine (wp_ite (M := machine P)).mpr ⟨fun _ => ⟨fun _ hop => absurd hop hoperation, rfl⟩,
        fun _ => ⟨cleared_of_error rfl (by decide), rfl⟩⟩
  · exact ⟨fun hdiscloses => absurd hdiscloses hnothing, rfl⟩

theorem wp_recheckUncommitted {context : RequestContext} {completion : RequestCompletion}
    {outcome : ExecutionOutcome} {seen : Seen}
    (hφ : completion = .active → φ = (some seen, .completed key permit false)) :
    wp (disclosing P) (recheckUncommitted context permit completion outcome)
      (fun outcome φ H' => Cleared key permit outcome φ ∧ H' = H) φ H := by
  refine (wp_ite (M := machine P)).mpr ⟨fun hcommitted => ⟨fun _ _ hnot => ?_, rfl⟩,
    fun _ => wp_recheckOutcome hφ⟩
  rw [hcommitted] at hnot
  cases hnot

theorem wp_recheckBrowser {outcome : ExecutionOutcome} (h : Cleared key permit outcome φ) :
    wp (disclosing P) (recheckBrowser outcome)
      (fun outcome φ H' => Cleared key permit outcome φ ∧ H' = H) φ H := by
  refine wp.seq (Q := fun outcome φ (H' : Finset Mutex) => Cleared key permit outcome φ ∧ H' = H)
    ?_ ?_
  · unfold recheckBrowserDeadline
    cases outcome.browser_deadline with
    | none => exact ⟨h, rfl⟩
    | some deadline =>
      refine (wp_bind (M := machine P)).mpr (wp_pastDeadline fun late => ?_)
      exact (wp_ite (M := machine P)).mpr ⟨fun _ => ⟨cleared_of_error rfl (by decide), rfl⟩,
        fun _ => ⟨h, rfl⟩⟩
  · rintro outcome φ' H' ⟨hcleared, rfl⟩
    dsimp only
    cases outcome.browser_generation with
    | none => exact ⟨hcleared, rfl⟩
    | some generation =>
      refine ⟨⟨Finset.empty_subset _, trivial⟩, fun current => ?_⟩
      exact (wp_ite (M := machine P)).mpr ⟨fun _ => ⟨cleared_of_error rfl (by decide), rfl⟩,
        fun _ => ⟨hcleared.next .loadAccountsGeneration (fun _ _ => ⟨rfl, rfl⟩) (fun _ _ => rfl) _,
          rfl⟩⟩

theorem wp_consumeFailedLease {context : RequestContext} {outcome : ExecutionOutcome}
    {Q : Unit → Option Seen × Disclosing → Finset Mutex → Prop} (hQ : Q () φ H) :
    wp (disclosing P) (consumeFailedLease context permit outcome) Q φ H := by
  refine (wp_ite (M := machine P)).mpr ⟨fun _ => ?_, fun _ => hQ⟩
  refine (wp_withLock (M := machine P)).mpr ⟨trivial, fun hfree => ?_⟩
  refine wp_mute (by simp [Action.guard]) (fun _ _ => trivial) (fun _ _ => rfl) (fun _ _ => rfl)
    fun _ => ⟨Finset.mem_insert_self _ _, trivial, ?_⟩
  rw [Finset.erase_insert hfree]
  exact hQ

/-- The status of the agent is read anew for outcomes that need no unlocked vault. -/
theorem wp_refreshStatus {outcome : ExecutionOutcome} (h : Cleared key permit outcome φ) :
    wp (disclosing P) (refreshStatus permit outcome)
      (fun outcome φ H' => Cleared key permit outcome φ ∧ H' = H) φ H := by
  refine (wp_ite (M := machine P)).mpr ⟨fun hstatus => ?_, fun _ => ⟨h, rfl⟩⟩
  refine ⟨⟨Finset.empty_subset _, trivial⟩, fun state => ⟨⟨Finset.empty_subset _, trivial⟩,
    fun epoch => ⟨fun _ hoperation => ?_, rfl⟩⟩⟩
  obtain ⟨-, hop | hop⟩ := hstatus <;> rw [hop] at hoperation <;> cases hoperation

theorem intoResponse_discloses {outcome : ExecutionOutcome}
    (h : outcome.intoResponse.Discloses) : outcome.error = none ∨ outcome.error = some .notFound := by
  unfold ExecutionOutcome.intoResponse at h
  split at h
  · next error herror => exact .inr (by rw [herror]; exact congrArg some h)
  · next hnone => exact .inl hnone

theorem wp_respond {context : RequestContext} {outcome : ExecutionOutcome}
    (hkey : context.key = key) (hgate : .commitGate ∈ H) (h : Cleared key permit outcome φ) :
    wp (disclosing P) (respond context permit outcome) (fun _ _ H' => H' = H) φ H := by
  subst hkey
  refine (wp_bind (M := machine P)).mpr (wp_consumeFailedLease ?_)
  refine wp.seq (wp_refreshStatus h) ?_
  rintro outcome φ' H' ⟨hcleared, rfl⟩
  refine wp_mute (Finset.empty_subset _) (fun _ _ => trivial) (fun _ _ => rfl) (fun _ _ => rfl)
    fun fits => (wp_ite (M := machine P)).mpr ⟨fun _ => ?_, fun _ => ?_⟩
  · refine ⟨⟨by simpa [Action.guard] using hgate, fun hdiscloses => ?_⟩, fun _ => rfl⟩
    exact hcleared (intoResponse_discloses hdiscloses)
  · refine wp_mute (Finset.empty_subset _) (fun _ _ => trivial) (fun _ _ => rfl) (fun _ _ => rfl)
      fun fits => (wp_ite (M := machine P)).mpr ⟨fun _ => ?_, fun _ => rfl⟩
    refine ⟨⟨by simpa [Action.guard] using hgate, fun hdiscloses => ?_⟩, fun _ => rfl⟩
    cases hdiscloses

theorem wp_endLockTransition {held : Bool}
    {Q : Unit → Option Seen × Disclosing → Finset Mutex → Prop} (hQ : ∀ φ, Q () φ H) :
    wp (disclosing P) (endLockTransition held) Q φ H := by
  refine (wp_ite (M := machine P)).mpr ⟨fun _ => ?_, fun _ => hQ φ⟩
  exact ⟨⟨Finset.empty_subset _, trivial⟩, fun _ => hQ _⟩

theorem wp_dropContext {Q : Unit → Option Seen × Disclosing → Finset Mutex → Prop}
    (hQ : ∀ φ, Q () φ H) : wp (disclosing P) (dropContext key) Q φ H := by
  refine ⟨⟨Finset.empty_subset _, trivial⟩, fun _ => ?_⟩
  refine (wp_withLock (M := machine P)).mpr ⟨trivial, fun hfree =>
    ⟨⟨by simp [Action.guard], trivial⟩, fun _ => ⟨Finset.mem_insert_self _ _, trivial, ?_⟩⟩⟩
  rw [Finset.erase_insert hfree]
  exact hQ _

theorem wp_finishDispatch {context : RequestContext} {outcome : ExecutionOutcome}
    (hφ : φ.2 = .admitted context.key permit) :
    wp (disclosing P) (finishDispatch context permit outcome) (fun _ _ H' => H' = ∅) φ ∅ := by
  have hgone : ({.commitGate} : Finset Mutex).erase .commitGate = ∅ := by simp
  refine ⟨trivial, fun _ => ⟨⟨by simp [Action.guard], permit, hφ⟩, fun completed => ?_⟩⟩
  cases completed with
  | error e =>
    refine ⟨Finset.mem_insert_self _ _, trivial, ?_⟩
    rw [Prog.ret_bind]
    refine (wp_bind (M := machine P)).mpr (wp_endLockTransition fun _ => wp_dropContext fun _ => ?_)
    exact hgone
  | ok completion =>
  have hcompleted : completion = .active → (disclosing P).next ((disclosing P).acquire φ .commitGate)
      (.connectionFinish context.key) (.ok completion) =
        (some {}, .completed context.key permit false) := by
    rintro rfl
    obtain ⟨seen, ψ⟩ := φ
    obtain rfl : ψ = .admitted context.key permit := hφ
    rfl
  simp only [Prog.ret_bind]
  refine wp.seq (wp_recheckUncommitted hcompleted) ?_
  rintro outcome₁ φ₁ H₁ ⟨hcleared₁, rfl⟩
  refine wp.seq (wp_recheckBrowser hcleared₁) ?_
  rintro outcome₂ φ₂ H₂ ⟨hcleared₂, rfl⟩
  refine wp.seq (wp_respond rfl (Finset.mem_insert_self _ _) hcleared₂) ?_
  rintro written φ₃ H₃ rfl
  refine (wp_ite (M := machine P)).mpr ⟨fun _ => ?_, fun _ => ?_⟩
  · refine (wp_bind (M := machine P)).mpr (wp_dropContext fun _ => ?_)
    exact ⟨Finset.mem_insert_self _ _, trivial, wp_endLockTransition fun _ => hgone⟩
  · refine ⟨Finset.mem_insert_self _ _, trivial, ?_⟩
    rw [Prog.ret_bind]
    exact (wp_bind (M := machine P)).mpr (wp_endLockTransition fun _ => wp_dropContext fun _ =>
      hgone)

/-- Every program of the agent keeps to the discipline. -/
theorem wp_program {hmac : List UInt8 → Bytes 32} {p : Code P Unit} (h : Program P hmac p) :
    wp (disclosing P) p (fun _ _ H => True ∧ H = ∅) (disclosing P).start ∅ := by
  have hentry {p : Code P Unit} (h : KeepsLoosely entryKinds p ∅) :
      wp (disclosing P) p (fun _ _ H => True ∧ H = ∅) (disclosing P).start ∅ :=
    wp_mono (wp_entry h rfl) fun _ _ _ h => ⟨trivial, h.2⟩
  cases h with
  | accept connection => exact hentry (accept_keeps.loosely.mono (by simp))
  | applyCancel connection header => exact hentry (applyCancel_keeps.loosely.mono (by simp))
  | disconnect rounds connection_id => exact hentry disconnect_keeps.loosely
  | shutdown => exact hentry (shutdown_keeps.mono (by decide))
  | dispatch rounds connection header envelope =>
    refine wp_mute (Finset.empty_subset _) (fun _ _ => trivial) (fun _ _ => rfl) (fun _ _ => rfl)
      fun ready => (wp_ite (M := machine P)).mpr ⟨fun _ => ⟨trivial, rfl⟩, fun _ => ?_⟩
    refine wp.seq (wp_admitRequest rfl) fun admission φ H hadmission => ?_
    cases admission with
    | fatal => exact ⟨trivial, hadmission⟩
    | rejected response =>
      obtain rfl : H = {.commitGate} := hadmission
      refine ⟨⟨by simp [Action.guard], trivial⟩, fun _ => ?_⟩
      exact ⟨Finset.mem_singleton_self _, trivial, trivial, by simp⟩
    | admitted context permit =>
      obtain ⟨hφ, rfl⟩ := hadmission
      refine wp.seq (wp_executing (executeAdmitted_keeps (.inl (by simp)) fun request _ =>
        executeOperation_keeps) hφ) ?_
      rintro outcome φ' H' ⟨hφ', rfl⟩
      cases outcome with
      | error e => exact wp_dropContext fun _ => ⟨trivial, rfl⟩
      | ok outcome => exact wp_mono (wp_finishDispatch hφ') fun _ _ _ h => ⟨trivial, h⟩

end

/-! ## The invariant -/

/-- How the books of the threads fit the history and the shared state. -/
structure DisclosureBooks (history : History (machine P)) (s : Shared)
    (phase : ℕ → Option Seen × Disclosing) (holder : Mutex → Option ℕ) : Prop where
  informed : Informed s phase holder
  in_flight (t : ℕ) (key : RequestKey) (permit : RequestPermit)
    (h : (phase t).2 = .admitted key permit) : InFlight s key (¬Standing history key permit)
  unique (t t' : ℕ) (key : RequestKey) (permit permit' : RequestPermit)
    (h : (phase t).2 = .admitted key permit) (h' : (phase t').2 = .admitted key permit') : t = t'
  standing (t : ℕ) (key : RequestKey) (permit : RequestPermit) (unlocked : Bool)
    (h : (phase t).2 = .completed key permit unlocked) : holder .commitGate = some t ∧
      Standing history key permit ∧ ∃ events, IsSection t history events ∧
        (unlocked = true → ∃ before, .action t .loadState .unlocked before ∈ events)
  /-- Whoever holds the gate is in a section. -/
  section_of (t : ℕ) (h : holder .commitGate = some t) : ∃ events, IsSection t history events

section

variable {history : History (machine P)} {s : Shared} {phase : ℕ → Option Seen × Disclosing}
  {holder : Mutex → Option ℕ} {t : ℕ} {a : Action P}

/-- What withdraws a request happens under the gate. -/
theorem Withdraws.guard {key : RequestKey} {result : a.Result}
    (h : Withdraws key (.action t a result s)) : .commitGate ∈ a.guard := by
  cases a with
  | connectionCancel connection header => simp [Action.guard]
  | connectionClose connection_id => simp [Action.guard]
  | _ => exact h.elim

/-- A thread with a request of its own does not withdraw requests. -/
theorem Withdraws.idle {key : RequestKey} {result : a.Result} {seen : Option Seen}
    {φ : Disclosing} (h : Withdraws key (.action t a result s)) (hallows : φ.allows seen a) :
    φ = .idle := by
  cases a with
  | connectionCancel connection header => exact hallows
  | connectionClose connection_id => exact hallows
  | _ => exact h.elim

/-- The requests of the threads stay in flight, but for the one that is completed. -/
theorem DisclosureBooks.keeps_in_flight (h : DisclosureBooks history s phase holder)
    (hallows : (phase t).2.allows (phase t).1 a) (o : Oracle) {t' : ℕ} {key : RequestKey}
    {permit : RequestPermit} (hφ : (phase t').2 = .admitted key permit)
    (hfinish : t' = t → ∀ key', a ≠ .connectionFinish key') :
    InFlight (perform a o s).2 key
      (¬Standing (.action t a (perform a o s).1 s :: history) key permit) := by
  have hother : a ≠ .connectionFinish key := by
    intro heq
    by_cases ht : t' = t
    · exact hfinish ht key heq
    · subst heq
      obtain ⟨permit', hφ'⟩ := hallows
      exact ht (h.unique t' t key permit permit' hφ hφ')
  have hflight := (h.in_flight t' key permit hφ).perform hother t o
  refine hflight.mono fun hmarked => ?_
  by_contra hneither
  obtain ⟨hstanding, hwithdraws⟩ := not_or.mp hneither
  exact hmarked ((not_not.mp hstanding).cons hwithdraws)

/-- A request that is admitted is in flight, under a key that no other thread has. -/
theorem DisclosureBooks.begins (h : DisclosureBooks history s phase holder)
    (connection : Connection) (header : FrameHeader) (envelope : RequestEnvelope)
    (current_unlock_epoch : ℕ) (o : Oracle) {permit : RequestPermit}
    (hresult : (perform (P := P) (.beginRequest connection header envelope current_unlock_epoch)
      o s).1 = .ok permit) :
    InFlight (perform (P := P) (.beginRequest connection header envelope current_unlock_epoch)
      o s).2 ⟨connection.connection_id, permit.request_id⟩ False ∧
    ∀ t' permit', (phase t').2 ≠ .admitted ⟨connection.connection_id, permit.request_id⟩ permit' := by
  cases hstate : s.connections.lookup connection.connection_id with
  | none => simp [perform, Shared.onConnection, hstate] at hresult
  | some state =>
  have hdone : (state.beginRequest connection header envelope current_unlock_epoch).1 =
      .ok permit := by
    rw [← hresult]
    simp [perform, Shared.onConnection, hstate]
  obtain ⟨e, hcase⟩ | ⟨⟨-, hfirst, horder⟩, ⟨e, -, hcase⟩ | ⟨permit', hid, -, hcase⟩⟩ :=
    ConnectionState.beginRequest_cases connection header state envelope current_unlock_epoch
  · rw [hcase] at hdone
    cases hdone
  · rw [hcase] at hdone
    cases hdone
  · rw [hcase] at hdone
    obtain rfl : permit' = permit := Except.ok.inj hdone
    constructor
    · refine InFlight.onConnection _ _ rfl hstate ?_
      rw [hcase, hid]
      have hpositive : header.request_id ≠ 0 := by
        by_cases hlast : state.last_request_id = 0
        · rw [hfirst hlast]
          exact one_ne_zero
        · exact (Nat.zero_le _).trans_lt (horder hlast) |>.ne'
      exact ⟨Finset.mem_insert_self _ _, hpositive, le_rfl, False.elim⟩
    · intro t' permit'' hφ
      obtain ⟨state', hstate', -, hpositive, hlast, -⟩ := h.in_flight t' _ _ hφ
      obtain rfl : state = state' := Option.some.inj (hstate.symm.trans hstate')
      have hlt := horder (by dsimp only at hpositive hlast; omega)
      dsimp only at hlast
      omega

/-- What the gate's holder has completed. -/
theorem DisclosureBooks.finishes (h : DisclosureBooks history s phase holder) {key' : RequestKey}
    (o : Oracle) {key : RequestKey} {permit : RequestPermit}
    {unlocked : Bool} (hallows : ∃ permit, (phase t).2 = .admitted key' permit)
    (hφ : (phase t).2.next (.connectionFinish key' : Action P)
      (perform (P := P) (.connectionFinish key') o s).1 = .completed key permit unlocked) :
    unlocked = false ∧ Standing history key permit := by
  obtain ⟨permit', hadmitted⟩ := hallows
  obtain ⟨state, hstate, hflight, -, -, hmarked⟩ := h.in_flight t key' permit' hadmitted
  have hresult : (perform (P := P) (.connectionFinish key') o s).1 =
      (state.finish key'.request_id).1 := by
    show (s.onConnection key'.connection_id _ _).1 = _
    rw [Shared.onConnection, hstate]
  rw [hresult, hadmitted] at hφ
  unfold ConnectionState.finish at hφ
  rw [if_neg (not_not.mpr hflight)] at hφ
  by_cases hcancelled : key'.request_id ∈ state.cancelled
  · rw [if_pos hcancelled] at hφ
    cases hφ
  · rw [if_neg hcancelled] at hφ
    obtain ⟨rfl, rfl, rfl⟩ : key' = key ∧ permit' = permit ∧ false = unlocked := by
      simpa [Disclosing.next] using hφ
    exact ⟨rfl, by_contra fun hnot => hcancelled (hmarked hnot)⟩

theorem DisclosureBooks.action (h : DisclosureBooks history s phase holder)
    (hguard : a.guard ⊆ heldBy holder t) (hallows : (phase t).2.allows (phase t).1 a)
    (o : Oracle) :
    DisclosureBooks (.action t a (perform a o s).1 s :: history) (perform a o s).2
      (Function.update phase t ((disclosing P).next (phase t) a (perform a o s).1)) holder := by
  have hgate (hmem : .commitGate ∈ a.guard) : holder .commitGate = some t :=
    mem_heldBy.mp (hguard hmem)
  -- The phase of the thread itself, and the phases of the others.
  have hself : (Function.update phase t ((disclosing P).next (phase t) a (perform a o s).1) t).2 =
      (phase t).2.next a (perform a o s).1 := by
    rw [Function.update_self]
    rfl
  have hother {t' : ℕ} (ht : t' ≠ t) : Function.update phase t
      ((disclosing P).next (phase t) a (perform a o s).1) t' = phase t' :=
    Function.update_of_ne ht _ _
  -- A thread's admitted request was admitted before, or is admitted by this step.
  have hadmitted {t' : ℕ} {key : RequestKey} {permit : RequestPermit}
      (hφ : (Function.update phase t ((disclosing P).next (phase t) a (perform a o s).1) t').2 =
        .admitted key permit) :
      ((phase t').2 = .admitted key permit ∧ (t' = t → ∀ key', a ≠ .connectionFinish key')) ∨
      t' = t ∧ InFlight (perform a o s).2 key
          (¬Standing (.action t a (perform a o s).1 s :: history) key permit) ∧
        ∀ t' permit', (phase t').2 ≠ .admitted key permit' := by
    by_cases ht : t' = t
    · subst ht
      rw [hself] at hφ
      by_cases hbegin : ∃ connection header envelope epoch,
          a = .beginRequest connection header envelope epoch
      · obtain ⟨connection, header, envelope, epoch, rfl⟩ := hbegin
        right
        have hidle : (phase t').2 = .idle := hallows
        rw [hidle] at hφ
        cases hresult : (perform (P := P) (.beginRequest connection header envelope epoch) o s).1 with
        | error e =>
          rw [hresult] at hφ
          cases hφ
        | ok permit' =>
          rw [hresult] at hφ
          cases hφ
          obtain ⟨hflight, hfresh⟩ := h.begins connection header envelope epoch o hresult
          refine ⟨rfl, hflight.mono fun hnot => ?_, hfresh⟩
          exact hnot ⟨[], _, history, rfl, ⟨rfl, rfl, rfl⟩, by simp⟩
      · left
        obtain ⟨hbefore, hfinish⟩ := Disclosing.of_next_admitted
          (fun connection header envelope epoch heq => hbegin ⟨_, _, _, _, heq⟩) hφ
        exact ⟨hbefore, fun _ => hfinish⟩
    · rw [hother ht] at hφ
      exact .inl ⟨hφ, fun heq => absurd heq ht⟩
  refine ⟨h.informed.action hguard o _, fun t' key permit hφ => ?_,
    fun t₁ t₂ key permit₁ permit₂ h₁ h₂ => ?_, fun t' key permit unlocked hφ => ?_, fun t' ht' => ?_⟩
  · obtain ⟨hbefore, hfinish⟩ | ⟨-, hnew, -⟩ := hadmitted hφ
    · exact h.keeps_in_flight hallows o hbefore hfinish
    · exact hnew
  · obtain ⟨hbefore₁, -⟩ | ⟨ht₁, -, hfresh₁⟩ := hadmitted h₁
    · obtain ⟨hbefore₂, -⟩ | ⟨ht₂, -, hfresh₂⟩ := hadmitted h₂
      · exact h.unique t₁ t₂ key permit₁ permit₂ hbefore₁ hbefore₂
      · exact absurd hbefore₁ (hfresh₂ t₁ permit₁)
    · obtain ⟨hbefore₂, -⟩ | ⟨ht₂, -, -⟩ := hadmitted h₂
      · exact absurd hbefore₂ (hfresh₁ t₂ permit₂)
      · rw [ht₁, ht₂]
  · by_cases ht : t' = t
    · subst ht
      rw [hself] at hφ
      by_cases hfinish : ∃ key', a = .connectionFinish key'
      · obtain ⟨key', rfl⟩ := hfinish
        have hholds := hgate (by simp [Action.guard])
        obtain ⟨rfl, hstanding⟩ := h.finishes o hallows hφ
        obtain ⟨events, hsection⟩ := h.section_of t' hholds
        exact ⟨hholds, hstanding.cons fun hwithdraws => hwithdraws, _, hsection.cons (by simp),
          fun hunlocked => by cases hunlocked⟩
      -- The request was completed before, and the state may be read now.
      obtain ⟨before, hbefore, hread⟩ : ∃ unlocked', (phase t').2 = .completed key permit unlocked' ∧
          (unlocked = true → unlocked' = true ∨
            (.action t' .loadState .unlocked s : Event (machine P)) =
              .action t' a (perform a o s).1 s) := by
        by_cases hload : a = .loadState
        · subst hload
          cases hψ : (phase t').2 with
          | completed key' permit' unlocked' =>
            rw [hψ] at hφ
            obtain ⟨rfl, rfl, rfl⟩ := Disclosing.completed.inj hφ
            refine ⟨unlocked', rfl, fun hunlocked => ?_⟩
            obtain hbefore | hnow := Bool.or_eq_true_iff.mp hunlocked
            · exact .inl hbefore
            · right
              have hstate : s.state = .unlocked := of_decide_eq_true hnow
              show (.action t' .loadState .unlocked s : Event (machine P)) =
                .action t' .loadState s.state s
              rw [hstate]
          | _ =>
            rw [hψ] at hφ
            cases hφ
        · exact ⟨unlocked, Disclosing.of_next_completed (fun key' heq => hfinish ⟨key', heq⟩) hload
            hφ, .inl⟩
      obtain ⟨hholds, hstanding, events, hsection, hevents⟩ := h.standing t' key permit before hbefore
      refine ⟨hholds, hstanding.cons fun hwithdraws => ?_, _, hsection.cons (by simp), fun hu => ?_⟩
      · have hidle := hwithdraws.idle hallows
        rw [hbefore] at hidle
        cases hidle
      · obtain hu | hnow := hread hu
        · obtain ⟨s', hmem⟩ := hevents hu
          exact ⟨s', List.mem_cons_of_mem _ hmem⟩
        · exact ⟨s, hnow ▸ List.mem_cons_self⟩
    · rw [hother ht] at hφ
      obtain ⟨hholds, hstanding, events, hsection, hread⟩ := h.standing t' key permit unlocked hφ
      refine ⟨hholds, hstanding.cons fun hwithdraws => ?_, _, hsection.cons (by simp), fun hu => ?_⟩
      · have := hgate hwithdraws.guard
        rw [hholds] at this
        exact ht (Option.some.inj this)
      · obtain ⟨before, hmem⟩ := hread hu
        exact ⟨before, List.mem_cons_of_mem _ hmem⟩
  · obtain ⟨events, hsection⟩ := h.section_of t' ht'
    exact ⟨_, hsection.cons (by simp)⟩

/-- A step on a mutex withdraws nothing. -/
theorem DisclosureBooks.in_flight_cons (h : DisclosureBooks history s phase holder)
    {event : Event (machine P)} {key : RequestKey} {permit : RequestPermit}
    (hevent : ¬Withdraws key event) {t' : ℕ} (hφ : (phase t').2 = .admitted key permit) :
    InFlight s key (¬Standing (event :: history) key permit) :=
  (h.in_flight t' key permit hφ).mono fun hnot hstanding => hnot (hstanding.cons hevent)

theorem DisclosureBooks.acquire (h : DisclosureBooks history s phase holder) {m : Mutex}
    (hfree : holder m = none) :
    DisclosureBooks (.acquire t m :: history) s
      (Function.update phase t ((disclosing P).acquire (phase t) m))
      (Function.update holder m (some t)) := by
  have hphase (t' : ℕ) :
      (Function.update phase t ((disclosing P).acquire (phase t) m) t').2 = (phase t').2 := by
    by_cases ht : t' = t
    · subst ht
      rw [Function.update_self]
      rfl
    · rw [Function.update_of_ne ht]
  have hkept {t' : ℕ} (hheld : holder .commitGate = some t') : m ≠ .commitGate := by
    rintro rfl
    rw [hheld] at hfree
    cases hfree
  refine ⟨h.informed.acquire hfree _, fun t' key permit hφ => ?_,
    fun t₁ t₂ key permit₁ permit₂ h₁ h₂ => ?_, fun t' key permit unlocked hφ => ?_, fun t' ht' => ?_⟩
  · rw [hphase] at hφ
    exact h.in_flight_cons (fun hw => hw) hφ
  · rw [hphase] at h₁ h₂
    exact h.unique t₁ t₂ key permit₁ permit₂ h₁ h₂
  · rw [hphase] at hφ
    obtain ⟨hholds, hstanding, events, hsection, hread⟩ := h.standing t' key permit unlocked hφ
    refine ⟨?_, hstanding.cons fun hw => hw, _, hsection.cons (by simp), fun hu => ?_⟩
    · rw [Function.update_of_ne (hkept hholds).symm, hholds]
    · obtain ⟨before, hmem⟩ := hread hu
      exact ⟨before, List.mem_cons_of_mem _ hmem⟩
  · by_cases hm : m = .commitGate
    · subst hm
      rw [Function.update_self] at ht'
      obtain rfl := Option.some.inj ht'
      exact ⟨[], ⟨history, rfl⟩, by simp⟩
    · rw [Function.update_of_ne (Ne.symm hm)] at ht'
      obtain ⟨events, hsection⟩ := h.section_of t' ht'
      exact ⟨_, hsection.cons (by simp)⟩

theorem DisclosureBooks.release (h : DisclosureBooks history s phase holder) {m : Mutex}
    (hholds : holder m = some t) :
    DisclosureBooks (.release t m :: history) s
      (Function.update phase t ((disclosing P).release (phase t) m))
      (Function.update holder m none) := by
  have hadmitted {t' : ℕ} {key : RequestKey} {permit : RequestPermit}
      (hφ : (Function.update phase t ((disclosing P).release (phase t) m) t').2 =
        .admitted key permit) : (phase t').2 = .admitted key permit := by
    by_cases ht : t' = t
    · subst ht
      rw [Function.update_self] at hφ
      have hφ : (phase t').2.release m = .admitted key permit := hφ
      cases m with
      | commitGate =>
        cases hψ : (phase t').2 with
        | completed =>
          rw [hψ] at hφ
          cases hφ
        | _ =>
          rw [hψ] at hφ
          exact hφ
      | _ => exact hφ
    · rwa [Function.update_of_ne ht] at hφ
  -- A completed request belongs to the section that goes on.
  have hcompleted {t' : ℕ} {key : RequestKey} {permit : RequestPermit} {unlocked : Bool}
      (hφ : (Function.update phase t ((disclosing P).release (phase t) m) t').2 =
        .completed key permit unlocked) :
      m ≠ .commitGate ∧ (phase t').2 = .completed key permit unlocked := by
    by_cases ht : t' = t
    · subst ht
      rw [Function.update_self] at hφ
      have hφ : (phase t').2.release m = .completed key permit unlocked := hφ
      cases m with
      | commitGate =>
        cases hψ : (phase t').2 <;> rw [hψ] at hφ <;> cases hφ
      | _ => exact ⟨by simp, hφ⟩
    · rw [Function.update_of_ne ht] at hφ
      refine ⟨?_, hφ⟩
      rintro rfl
      rw [(h.standing t' key permit unlocked hφ).1] at hholds
      exact ht (Option.some.inj hholds)
  refine ⟨h.informed.release hholds _, fun t' key permit hφ => ?_,
    fun t₁ t₂ key permit₁ permit₂ h₁ h₂ => ?_, fun t' key permit unlocked hφ => ?_, fun t' ht' => ?_⟩
  · exact h.in_flight_cons (fun hw => hw) (hadmitted hφ)
  · exact h.unique t₁ t₂ key permit₁ permit₂ (hadmitted h₁) (hadmitted h₂)
  · obtain ⟨hm, hbefore⟩ := hcompleted hφ
    obtain ⟨hgate, hstanding, events, hsection, hread⟩ :=
      h.standing t' key permit unlocked hbefore
    refine ⟨?_, hstanding.cons fun hw => hw, _, hsection.cons (by simp [hm]), fun hu => ?_⟩
    · rw [Function.update_of_ne hm.symm, hgate]
    · obtain ⟨before, hmem⟩ := hread hu
      exact ⟨before, List.mem_cons_of_mem _ hmem⟩
  · have hm : m ≠ .commitGate := by
      rintro rfl
      rw [Function.update_self] at ht'
      cases ht'
    rw [Function.update_of_ne hm.symm] at ht'
    obtain ⟨events, hsection⟩ := h.section_of t' ht'
    exact ⟨_, hsection.cons (by simp [hm])⟩

end

/-- The books are kept in every run. -/
theorem disclosing_invariant (vault_exists : Bool) :
    Invariant (disclosing P) (fun _ _ => True) (Shared.start vault_exists) DisclosureBooks where
  init := ⟨fun _ _ h => (by cases h), fun _ _ _ h => (by cases h), fun _ _ _ _ _ h => (by cases h),
    fun _ _ _ _ h => (by cases h), fun _ h => (by cases h)⟩
  action _ _ o inv allowed _ := inv.action allowed.1 allowed.2 o
  acquire _ _ inv _ free := inv.acquire free
  release _ _ inv _ holds := inv.release holds

/-- Lock, cancellation and disconnect win over disclosure: an answer that carries data of an unlocked
vault, or says of a record that it is not there, is handed to the transport in a section under the
commit gate in which the state was read as `Unlocked`, at a moment when no Lock is in progress and
the epoch is still the one that the request was admitted with. The request was admitted on its
connection, and since then neither a cancel frame for it was accepted nor its connection closed. -/
theorem disclosure_authorized {hmac : List UInt8 → Bytes 32} {vault_exists : Bool}
    {history : History (machine P)} {c : Config (machine P)} {t : ℕ} {key : RequestKey}
    {permit : RequestPermit} {committed : Bool} {response : Response} {s : Shared}
    (hrun : AgentRun P hmac vault_exists
      (.action t (.writeResponse key permit committed response) () s :: history) c)
    (hdiscloses : response.Discloses) (hoperation : permit.operation.requiresUnlockedEpoch = true)
    (hcommitted : committed = false) :
    s.active .lock = false ∧ s.epoch = permit.unlock_epoch ∧
      (∃ events before, IsSection t history events ∧
        .action t .loadState .unlocked before ∈ events) ∧
      Standing history key permit := by
  obtain ⟨phase, holder, hbooks, -, hallows⟩ := Run.allowed (disclosing_invariant vault_exists)
    (by exact trivial) (fun p hp => wp_program hp) hrun (always_true history)
  obtain ⟨hφ, known, hknown, hclear, hepoch⟩ := hallows hdiscloses hoperation hcommitted
  obtain ⟨-, hholds⟩ := hbooks.informed t known hknown
  obtain ⟨-, hstanding, events, hsection, hread⟩ := hbooks.standing t key permit true hφ
  obtain ⟨before, hmem⟩ := hread rfl
  exact ⟨hholds.lockClear hclear, hholds.epoch _ hepoch, ⟨events, before, hsection, hmem⟩,
    hstanding⟩

/-- The desktop has unlocked the vault and lists its accounts; the response is about to be looked
at. -/
def listed : List (Move (machine exampleComPrimitives)) :=
  unlockedOnce ++
    send 2 (desktopRequest (.listAccountSummaries 0 10) 2 none) :: steps 2 40 favourableOracle

/-- The last event is a thread's success, for an operation that requires an unlock epoch. -/
def endsDisclosing : History (machine P) → Bool
  | .action _ (.writeResponse _ permit committed (.success _)) _ _ :: _ =>
    !committed && permit.operation.requiresUnlockedEpoch
  | _ => false

theorem exists_of_endsDisclosing {history : History (machine P)}
    (h : endsDisclosing history = true) : ∃ t key permit body s before,
      history = .action t (.writeResponse key permit false (.success body)) () s :: before ∧
        permit.operation.requiresUnlockedEpoch = true := by
  unfold endsDisclosing at h
  split at h
  · next t key permit committed body _ s before =>
    rw [Bool.and_eq_true, Bool.not_eq_true'] at h
    obtain ⟨rfl, hoperation⟩ := h
    exact ⟨t, key, permit, body, s, before, rfl, hoperation⟩
  · cases h

/-- The list of the accounts is disclosed to the desktop. -/
theorem disclosure_authorized_sample : ∃ t key permit body s history c,
    AgentRun exampleComPrimitives sampleHmac true
      (.action t (.writeResponse key permit false (.success body)) () s :: history) c ∧
      s.active .lock = false ∧ s.epoch = permit.unlock_epoch ∧
      (∃ events before, IsSection t history events ∧
        .action t .loadState .unlocked before ∈ events) ∧
      Standing history key permit := by
  have hends : ((exec [] (Config.init (Shared.start true)) listed).map
      fun result => endsDisclosing result.1) = some true := by decide +kernel
  obtain ⟨⟨history, c⟩, hexec, hhistory⟩ := Option.map_eq_some_iff.mp hends
  obtain ⟨t, key, permit, body, s, before, rfl, hoperation⟩ := exists_of_endsDisclosing hhistory
  have hrun : AgentRun exampleComPrimitives sampleHmac true _ c :=
    Run.of_exec .init (allowed_unlockedOnce.append ((allowed_steps _ _ _).send _ _)) hexec
  exact ⟨t, key, permit, body, s, before, c, hrun,
    disclosure_authorized hrun trivial hoperation rfl⟩
end Librarian.Agent
