import Librarian.WindowsHello.Enrollments

/-!
# Which ceremony a cancellation reaches

The map from operation ids to cancellation ids has an entry for each ceremony that goes on, and no
other. `cancel` looks an id up under the mutex and hands it to Windows afterwards, when the entry may
be gone and another ceremony may have the operation id; but the cancellation id has been drawn for one
ceremony only.
-/

namespace Librarian.WindowsHello

open Conc
open Librarian.Agent (WindowsHelloEnrollment)
open Librarian.Core (Primitives)

variable {P : Primitives}

/-! ## Registrations -/

/-- A thread has entered a cancellation id into the map. -/
def Registers (history : History machine) (t : ℕ) (operation_id : OperationId) (guid : Guid) :
    Prop :=
  ∃ s, .action t ⟨.emplace operation_id guid⟩ true s ∈ history

/-- A thread takes its entry out again. -/
def Erases (t : ℕ) : Event machine → Prop
  | .action t' ⟨.eraseSame _ _⟩ _ _ => t' = t
  | _ => False

/-- A thread has entered a cancellation id and has not taken it out. -/
def Live (history : History machine) (t : ℕ) (operation_id : OperationId) (guid : Guid) : Prop :=
  ∃ later s earlier, history = later ++ .action t ⟨.emplace operation_id guid⟩ true s :: earlier ∧
    ∀ event ∈ later, ¬Erases t event

/-- What a thread knows of its entry, or of the entry that it has looked up. -/
structure Entry where
  call : Option Call := none
  guid : Option Guid := none
  registered : Bool := false
  found : Option Guid := none

namespace Entry

/-- The operation id of the ceremony. -/
def operation (φ : Entry) : Option OperationId := φ.call.bind Call.ceremony

def next (φ : Entry) : (a : Action) → a.Result → Entry
  | .began call, _ => { φ with call := some call }
  | .getCancellationId, result => if failed result.1 then φ else { φ with guid := some result.2 }
  | .emplace _ _, inserted => { φ with registered := inserted }
  | .eraseSame _ _, _ => { φ with registered := false }
  | .find _, result => { φ with found := result }
  | _, _ => φ

/-- A ceremony may run. -/
def Runs (φ : Entry) (cancellation_id : Guid) : Prop :=
  ∃ operation_id, φ.registered = true ∧ φ.operation = some operation_id ∧
    φ.guid = some cancellation_id

def allows (φ : Entry) (H : Finset machine.Mutex) : Action → Prop
  | .began _ => φ = {}
  | .getCancellationId => φ.guid = none ∧ φ.registered = false
  | .emplace operation_id guid => .cancellation ∈ H ∧ φ.operation = some operation_id ∧
      φ.guid = some guid ∧ φ.registered = false
  | .eraseSame operation_id guid => .cancellation ∈ H ∧ φ.operation = some operation_id ∧
      φ.guid = some guid ∧ φ.registered = true
  | .find operation_id => .cancellation ∈ H ∧ φ.call = some (.cancel operation_id)
  | .makeCredential request => φ.Runs request.cancellation_id
  | .getAssertion request => φ.Runs request.cancellation_id
  | .cancelCurrentOperation cancellation_id => φ.found = some cancellation_id
  | _ => True

end Entry

/-- The discipline of the map. -/
def registering : Discipline machine Entry where
  start := {}
  next φ a r := φ.next a.down r
  release φ _ := φ
  allows φ H a := φ.allows H a.down
  locks _ _ _ := True
  releases _ _ := True

/-! ## The programs keep to it -/

section

variable {α : Type} {φ : Entry} {call : Call} {operation_id : OperationId} {guid : Guid}

/-- The entry of a call that has drawn nothing. -/
def blank (call : Call) : Entry := { call := some call }

/-- The entry of a ceremony that has drawn its cancellation id. -/
def drawnFor (call : Call) (guid : Guid) (registered : Bool) : Entry :=
  { call := some call, guid := some guid, registered := registered }

/-- A ceremony that has ended has no entry. -/
def Unregistered {α : Type} (_ : α) (φ : Entry) (H : Finset machine.Mutex) : Prop :=
  H = ∅ ∧ φ.registered = false

/-- Calls that the map does not see. -/
def OffMap : Action → Prop
  | .isWindow _ | .windowProcessId _ | .apiVersionNumber | .platformAuthenticatorAvailable
  | .randomBytes | .hashes | .deleteCredential _ | .returned _ => True
  | _ => False

theorem next_of_offMap {a : Action} (h : OffMap a) (r : a.Result) : φ.next a r = φ := by
  cases a <;> first | exact h.elim | rfl

theorem allows_of_offMap {a : Action} (h : OffMap a) (H : Finset machine.Mutex) :
    φ.allows H a := by
  cases a <;> first | exact h.elim | trivial

/-- A part that the map does not see. -/
abbrev OffMapOnly {α : Type} (p : Prog machine α) : Prop :=
  Guarded (M := machine) (fun _ a => OffMap a.down) (fun _ _ => False) p ∅

/-- Such a part leaves the entry of its thread as it is. -/
theorem OffMapOnly.keeps {p : Prog machine α} (hp : OffMapOnly p) :
    wp registering p (fun _ φ' H => φ' = φ ∧ H = ∅) φ ∅ := by
  refine wp_of_guards (P := fun φ' => φ' = φ) (R := fun H => H = ∅) hp rfl ?_ ?_ ?_
  · intro a φ' H hphase hoff
    subst hphase
    exact ⟨allows_of_offMap hoff H, fun r => next_of_offMap hoff r⟩
  · exact fun _ _ _ _ hfalse => hfalse.elim
  · exact fun φ' _ hphase => ⟨trivial, hphase⟩

theorem OffMapOnly.followed {β : Type} {p : Prog machine α} {f : α → Prog machine β}
    {Q : β → Entry → Finset machine.Mutex → Prop} (hp : OffMapOnly p)
    (hf : ∀ a, wp registering (f a) Q φ ∅) : wp registering (p.bind f) Q φ ∅ := by
  refine wp.seq hp.keeps fun a φ' H h => ?_
  obtain ⟨rfl, rfl⟩ := h
  exact hf a

/-- Such a part at the end of a call. -/
theorem OffMapOnly.last {p : Prog machine α} (hp : OffMapOnly p) (hφ : φ.registered = false) :
    wp registering p Unregistered φ ∅ :=
  wp_mono (M := machine) hp.keeps fun _ _ _ h => ⟨h.2, h.1 ▸ hφ⟩

/-- One action of the kind. -/
theorem offMap_call {a : Action} {f : a.Result → Prog machine α} (ha : OffMap a)
    (hf : ∀ r, OffMapOnly (f r)) : OffMapOnly ((act a).bind f) :=
  ⟨ha, hf⟩

theorem offMap_bind {β : Type} {p : Prog machine α} {f : α → Prog machine β} (hp : OffMapOnly p)
    (hf : ∀ a, OffMapOnly (f a)) : OffMapOnly (p.bind f) :=
  Guarded.seq hp hf

theorem offMap_discardCredential (credential_id : List UInt8) (error : Error) :
    OffMapOnly (Client.discardCredential credential_id error) := by
  refine offMap_call trivial fun removed => ?_
  split_ifs
  · exact offMap_call trivial fun _ => rfl
  · rfl

theorem offMap_acceptCredential (salt : Bytes 32) (value : AttestationView) :
    OffMapOnly (Client.acceptCredential P salt value) := by
  have hdiscard (error : Error) :
      OffMapOnly ((Client.discardCredential value.credential_id error).bind fun thrown =>
        (pure (.error thrown) : Prog machine (Except Client.Thrown WindowsHelloEnrollment))) :=
    offMap_bind (offMap_discardCredential _ _) fun _ => rfl
  unfold Client.acceptCredential
  split_ifs
  · exact hdiscard _
  · refine offMap_call trivial fun hashes => ?_
    split_ifs
    · cases Client.validatedOutput (validateAttestation value (Client.relyingPartyHash P)) with
      | ok output => rfl
      | error error => exact hdiscard error
    · exact hdiscard _

theorem offMap_remove (credential_id : List UInt8) : OffMapOnly (Client.remove credential_id) := by
  unfold Client.remove
  split_ifs
  · rfl
  · exact offMap_call trivial fun _ => rfl

theorem offMap_enrollFailed (result : Client.EnrollmentResult) :
    OffMapOnly (Bridge.enrollFailed result) := by
  unfold Bridge.enrollFailed
  split_ifs
  · rfl
  · cases result.enrollment with
    | none => rfl
    | some enrollment =>
      dsimp only
      split_ifs
      · rfl
      · refine offMap_bind (offMap_remove _) fun removed => ?_
        split_ifs
        · rfl
        · rfl

theorem offMap_enrollReturned (result : Client.EnrollmentResult) :
    OffMapOnly (Bridge.enrollReturned result) := by
  unfold Bridge.enrollReturned
  split_ifs
  · exact offMap_enrollFailed result
  · cases result.enrollment with
    | none => rfl
    | some enrollment =>
      dsimp only
      split_ifs
      · rfl
      · exact offMap_bind (offMap_remove _) fun removed => rfl
      · rfl

theorem offMap_parentWindow (window : ℕ) (process_id : UInt32) :
    OffMapOnly (Crate.parentWindow window process_id) := by
  unfold Crate.parentWindow
  split_ifs
  · rfl
  · refine offMap_call trivial fun exists_window => ?_
    split_ifs
    · refine offMap_call trivial fun actual_process_id => ?_
      cases actual_process_id with
      | none => rfl
      | some actual_process_id =>
        dsimp only
        split_ifs
        · rfl
        · rfl
    · rfl

/-! ### Ceremonies -/

/-- A ceremony is registered while it runs, and not when it is over. -/
theorem wp_registered_entry {β : Type} {ceremony : Guid → Prog machine (Except Client.Thrown β)}
    (hcall : call.ceremony = some operation_id)
    (hceremony : ∀ guid, wp registering (ceremony guid)
      (fun _ φ H => H = ∅ ∧ φ = drawnFor call guid true) (drawnFor call guid true) ∅) :
    wp registering (Client.registered operation_id ceremony) Unregistered (blank call) ∅ := by
  refine (wp_bind (M := machine)).mpr ⟨⟨rfl, rfl⟩, fun drawn => ?_⟩
  dsimp only [Prog.ret_bind]
  change wp registering _ _ ((blank call).next .getCancellationId drawn) ∅
  by_cases hfailed : failed drawn.1 = true
  · rw [if_pos hfailed]
    have hphase : (blank call).next .getCancellationId drawn = blank call := if_pos hfailed
    rw [hphase]
    exact ⟨rfl, rfl⟩
  · rw [if_neg hfailed]
    have hphase : (blank call).next .getCancellationId drawn = drawnFor call drawn.2 false :=
      if_neg hfailed
    rw [hphase]
    refine (wp_bind (M := machine)).mpr ((wp_withLock (M := machine)).mpr ⟨trivial, fun _ => ?_⟩)
    refine ⟨⟨Finset.mem_insert_self _ _, hcall, rfl, rfl⟩, fun inserted => ?_⟩
    refine ⟨Finset.mem_insert_self _ _, trivial, ?_⟩
    cases inserted with
    | false => exact ⟨rfl, rfl⟩
    | true =>
      refine wp.seq (M := machine) (hceremony drawn.2) fun result φ H hresult => ?_
      obtain ⟨rfl, rfl⟩ := hresult
      refine (wp_bind (M := machine)).mpr ((wp_withLock (M := machine)).mpr ⟨trivial, fun _ => ?_⟩)
      refine ⟨⟨Finset.mem_insert_self _ _, hcall, rfl, rfl⟩, fun _ => ?_⟩
      exact ⟨Finset.mem_insert_self _ _, trivial, rfl, rfl⟩

theorem wp_client_enroll_entry (parent : ℕ) :
    wp registering (Client.enroll P parent operation_id) Unregistered
      (blank (.enroll operation_id)) ∅ := by
  unfold Client.enroll
  split_ifs
  · exact ⟨rfl, rfl⟩
  refine ⟨trivial, fun version => ?_⟩
  dsimp only [Prog.ret_bind]
  split_ifs
  · exact ⟨rfl, rfl⟩
  refine ⟨trivial, fun available => ?_⟩
  dsimp only [Prog.ret_bind]
  split_ifs
  · exact ⟨rfl, rfl⟩
  · refine ⟨trivial, fun user_identifier => ?_⟩
    cases user_identifier with
    | none => exact ⟨rfl, rfl⟩
    | some user_identifier =>
    refine ⟨trivial, fun salt => ?_⟩
    cases salt with
    | none => exact ⟨rfl, rfl⟩
    | some salt =>
    refine ⟨trivial, fun random => ?_⟩
    cases random with
    | none => exact ⟨rfl, rfl⟩
    | some random =>
    refine wp_registered_entry rfl fun guid => ⟨⟨operation_id, rfl, rfl, rfl⟩, fun made => ?_⟩
    dsimp only [Prog.ret_bind]
    split_ifs
    · exact ⟨rfl, rfl⟩
    · cases made.2 with
      | none => exact ⟨rfl, rfl⟩
      | some value =>
        dsimp only
        split_ifs
        · exact ⟨rfl, rfl⟩
        · exact wp_mono (M := machine) (offMap_acceptCredential salt value).keeps
            fun _ _ _ h => ⟨h.2, h.1⟩
  · exact ⟨rfl, rfl⟩

theorem wp_client_evaluate_entry (parent : ℕ) (credential_id : List UInt8) (salt : Bytes 32) :
    wp registering (Client.evaluate P parent credential_id salt operation_id) Unregistered
      (blank (.evaluate operation_id credential_id salt)) ∅ := by
  unfold Client.evaluate
  split_ifs
  · exact ⟨rfl, rfl⟩
  refine ⟨trivial, fun version => ?_⟩
  dsimp only [Prog.ret_bind]
  split_ifs
  · exact ⟨rfl, rfl⟩
  refine ⟨trivial, fun random => ?_⟩
  cases random with
  | none => exact ⟨rfl, rfl⟩
  | some random =>
  refine wp_registered_entry rfl fun guid => ⟨⟨operation_id, rfl, rfl, rfl⟩, fun asserted => ?_⟩
  dsimp only [Prog.ret_bind]
  split_ifs
  · exact ⟨rfl, rfl⟩
  · cases asserted.2 with
    | none => exact ⟨rfl, rfl⟩
    | some value =>
      refine ⟨trivial, fun hashes => ?_⟩
      dsimp only [Prog.ret_bind]
      split_ifs
      · cases Client.validatedOutput
          (validateAssertion value credential_id (Client.relyingPartyHash P)) with
        | ok output => exact ⟨rfl, rfl⟩
        | error error => exact ⟨rfl, rfl⟩
      · exact ⟨rfl, rfl⟩

/-! ### Whole calls -/

theorem wp_enroll_entry (window : ℕ) (process_id : UInt32) :
    wp registering (Provider.enroll P window process_id operation_id) Unregistered
      (blank (.enroll operation_id)) ∅ := by
  refine (offMap_parentWindow window process_id).followed fun result => ?_
  cases result with
  | error error => exact ⟨rfl, rfl⟩
  | ok parent =>
    dsimp only
    split_ifs
    · refine (wp_bind (M := machine)).mpr ((wp_bind (M := machine)).mpr ?_)
      unfold Bridge.enroll
      split_ifs
      · exact ⟨rfl, rfl⟩
      refine wp.seq (M := machine) (wp_client_enroll_entry parent) fun thrown φ H h => ?_
      obtain ⟨rfl, hφ⟩ := h
      exact wp_mono (M := machine) ((offMap_enrollReturned _).last hφ) fun _ _ _ h => h
    · exact ⟨rfl, rfl⟩

theorem wp_evaluate_entry (window : ℕ) (process_id : UInt32) (credential_id : List UInt8)
    (salt : Bytes 32) :
    wp registering (Provider.evaluate P window process_id operation_id credential_id salt)
      Unregistered (blank (.evaluate operation_id credential_id salt)) ∅ := by
  refine (offMap_parentWindow window process_id).followed fun result => ?_
  cases result with
  | error error => exact ⟨rfl, rfl⟩
  | ok parent =>
    dsimp only
    split_ifs
    · refine (wp_bind (M := machine)).mpr ?_
      unfold Crate.evaluate
      split_ifs
      · exact ⟨rfl, rfl⟩
      refine (wp_bind (M := machine)).mpr ?_
      unfold Bridge.evaluate
      split_ifs
      · exact ⟨rfl, rfl⟩
      refine wp.seq (M := machine) (wp_client_evaluate_entry parent credential_id salt)
        fun thrown φ H h => ?_
      obtain ⟨rfl, hφ⟩ := h
      generalize Client.evaluationResult thrown = result
      obtain ⟨error, output⟩ := result
      cases error <;> cases output <;> exact ⟨rfl, hφ⟩
    · exact ⟨rfl, rfl⟩

theorem wp_cancel_entry :
    wp registering (Provider.cancel operation_id) Unregistered (blank (.cancel operation_id)) ∅ := by
  unfold Provider.cancel
  split_ifs
  · refine (wp_bind (M := machine)).mpr ((wp_bind (M := machine)).mpr ?_)
    unfold Bridge.cancel
    split_ifs
    refine (wp_bind (M := machine)).mpr ?_
    unfold Client.cancel
    split_ifs
    refine (wp_bind (M := machine)).mpr ((wp_withLock (M := machine)).mpr ⟨trivial, fun _ => ?_⟩)
    refine ⟨⟨Finset.mem_insert_self _ _, rfl⟩, fun entry => ?_⟩
    refine ⟨Finset.mem_insert_self _ _, trivial, ?_⟩
    cases entry with
    | none => exact ⟨rfl, rfl⟩
    | some guid => exact ⟨rfl, fun _ => ⟨rfl, rfl⟩⟩
  · exact ⟨rfl, rfl⟩

theorem wp_remove_entry (credential_id : List UInt8) :
    wp registering (Provider.remove credential_id) Unregistered (blank (.remove credential_id)) ∅ := by
  refine OffMapOnly.last ?_ rfl
  refine offMap_bind ?_ fun _ => rfl
  unfold Crate.remove
  split_ifs
  · rfl
  · refine offMap_bind ?_ fun _ => rfl
    unfold Bridge.remove
    split_ifs
    exact offMap_bind (offMap_remove _) fun _ => rfl

/-- A call of the provider keeps to the discipline of the map, and ends without an entry. -/
theorem wp_program_entry (request : Request) :
    wp registering (request.program P) (fun _ φ H => φ.registered = false ∧ H = ∅)
      registering.start ∅ := by
  refine ⟨rfl, fun _ => ?_⟩
  change wp registering ((request.run P).bind _) _ (blank request.call) ∅
  have hreturns (outcome : Outcome) (φ : Entry) (H : Finset machine.Mutex) (hH : H = ∅)
      (hφ : φ.registered = false) :
      wp registering (act (.returned outcome)) (fun _ φ H => φ.registered = false ∧ H = ∅) φ H :=
    ⟨trivial, fun _ => ⟨hφ, hH⟩⟩
  refine (wp_bind (M := machine)).mpr ?_
  cases request with
  | enroll window process_id operation_id =>
    refine (wp_bind (M := machine)).mpr ?_
    exact wp_mono (M := machine) (wp_enroll_entry window process_id)
      fun _ φ H h => hreturns _ φ H h.1 h.2
  | evaluate window process_id operation_id credential_id salt =>
    refine (wp_bind (M := machine)).mpr ?_
    exact wp_mono (M := machine) (wp_evaluate_entry window process_id credential_id salt)
      fun _ φ H h => hreturns _ φ H h.1 h.2
  | cancel operation_id =>
    refine (wp_bind (M := machine)).mpr ?_
    exact wp_mono (M := machine) wp_cancel_entry fun _ φ H h => hreturns _ φ H h.1 h.2
  | remove credential_id =>
    refine (wp_bind (M := machine)).mpr ?_
    exact wp_mono (M := machine) (wp_remove_entry credential_id)
      fun _ φ H h => hreturns _ φ H h.1 h.2

end

/-! ## The books of a thread -/

/-- A thread has looked an operation id up and found a cancellation id. -/
def Finds (history : History machine) (t : ℕ) (operation_id : OperationId) (guid : Guid) : Prop :=
  ∃ s, .action t ⟨.find operation_id⟩ (some guid) s ∈ history

/-- What a thread knows of its entry is what has happened. -/
structure EntryBooks (history : History machine) (t : ℕ) (φ : Entry) : Prop where
  began (call : Call) (h : φ.call = some call) : Begins history t call
  registers (operation_id : OperationId) (guid : Guid) (h : Registers history t operation_id guid) :
    φ.operation = some operation_id ∧ φ.guid = some guid
  live (operation_id : OperationId) (guid : Guid) : Live history t operation_id guid ↔
    φ.registered = true ∧ φ.operation = some operation_id ∧ φ.guid = some guid

section

variable {history : History machine} {t : ℕ} {φ : Entry} {event : Event machine} {s : Platform}
  {operation_id : OperationId} {guid : Guid}

/-- Only an insertion registers. -/
theorem registers_cons : Registers (event :: history) t operation_id guid ↔
    Registers history t operation_id guid ∨
      ∃ s, event = .action t ⟨.emplace operation_id guid⟩ true s := by
  constructor
  · rintro ⟨s, hmem⟩
    obtain heq | hmem := List.mem_cons.mp hmem
    · exact .inr ⟨s, heq.symm⟩
    · exact .inl ⟨s, hmem⟩
  · rintro (⟨s, hmem⟩ | ⟨s, rfl⟩)
    · exact ⟨s, List.mem_cons_of_mem _ hmem⟩
    · exact ⟨s, List.mem_cons_self⟩

theorem Registers.cons (h : Registers history t operation_id guid) (event : Event machine) :
    Registers (event :: history) t operation_id guid :=
  registers_cons.mpr (.inl h)

theorem Finds.cons (h : Finds history t operation_id guid) (event : Event machine) :
    Finds (event :: history) t operation_id guid := by
  obtain ⟨s, hmem⟩ := h
  exact ⟨s, List.mem_cons_of_mem _ hmem⟩

/-- What is registered is new, or old and not taken out. -/
theorem live_cons : Live (event :: history) t operation_id guid ↔
    (∃ s, event = .action t ⟨.emplace operation_id guid⟩ true s) ∨
      Live history t operation_id guid ∧ ¬Erases t event := by
  constructor
  · rintro ⟨later, s, earlier, heq, hkept⟩
    cases later with
    | nil => exact .inl ⟨s, (List.cons.inj heq).1⟩
    | cons latest later =>
      obtain ⟨rfl, hhistory⟩ := List.cons.inj heq
      have hlater (event : Event machine) (hmem : event ∈ later) : ¬Erases t event :=
        hkept event (List.mem_cons_of_mem _ hmem)
      exact .inr ⟨⟨later, s, earlier, hhistory, hlater⟩, hkept _ List.mem_cons_self⟩
  · rintro (⟨s, rfl⟩ | ⟨⟨later, s, earlier, rfl, hkept⟩, hevent⟩)
    · exact ⟨[], s, history, rfl, fun _ hmem => absurd hmem List.not_mem_nil⟩
    · refine ⟨event :: later, s, earlier, rfl, fun other hmem => ?_⟩
      obtain rfl | hmem := List.mem_cons.mp hmem
      · exact hevent
      · exact hkept other hmem

theorem Live.registers (h : Live history t operation_id guid) :
    Registers history t operation_id guid := by
  obtain ⟨later, s, earlier, rfl, -⟩ := h
  exact ⟨s, List.mem_append_right _ List.mem_cons_self⟩

theorem EntryBooks.nil (t : ℕ) : EntryBooks [] t {} where
  began _ h := nomatch h
  registers operation_id guid := by simp [Registers]
  live operation_id guid := by simp [Live]

/-- Events that neither register nor take out leave the books of a thread as they are. -/
theorem EntryBooks.frame (h : EntryBooks history t φ)
    (hinsert : ∀ operation_id guid s, event ≠ .action t ⟨.emplace operation_id guid⟩ true s)
    (herase : ¬Erases t event) : EntryBooks (event :: history) t φ where
  began call hcall := (h.began call hcall).cons event
  registers operation_id guid := by
    rw [registers_cons]
    rintro (hold | ⟨s, heq⟩)
    · exact h.registers operation_id guid hold
    · exact absurd heq (hinsert _ _ _)
  live operation_id guid := by
    rw [live_cons, ← h.live operation_id guid]
    constructor
    · rintro (⟨s, heq⟩ | ⟨hlive, -⟩)
      · exact absurd heq (hinsert _ _ _)
      · exact hlive
    · exact fun hlive => .inr ⟨hlive, herase⟩

/-- An event of another thread, or a step on the mutex. -/
theorem EntryBooks.other (h : EntryBooks history t φ)
    (hother : ∀ a result s, event ≠ .action t a result s) : EntryBooks (event :: history) t φ := by
  refine h.frame (fun _ _ _ => hother _ _ _) fun herases => ?_
  unfold Erases at herases
  split at herases
  · subst herases
    exact hother _ _ _ rfl
  · exact herases

/-- A thread that has no cancellation id has not registered. -/
theorem EntryBooks.not_registers (h : EntryBooks history t φ) (hguid : φ.guid = none) :
    ¬Registers history t operation_id guid := fun hregisters =>
  absurd (hguid.symm.trans (h.registers _ _ hregisters).2) (Option.some_ne_none _).symm

/-- An action of the thread itself. -/
theorem EntryBooks.own (h : EntryBooks history t φ) {a : Action} {H : Finset machine.Mutex}
    (hallowed : φ.allows H a) (r : a.Result) :
    EntryBooks (.action t ⟨a⟩ r s :: history) t (φ.next a r) := by
  cases a with
  | began call =>
    obtain rfl : φ = {} := hallowed
    have hframe : EntryBooks (.action t ⟨.began call⟩ r s :: history) t {} :=
      h.frame (by simp) fun herases => herases
    exact {
      began := fun call' hcall => by
        obtain rfl := Option.some.inj hcall
        exact ⟨s, List.mem_cons_self⟩
      registers := fun _ _ hregisters => absurd hregisters (hframe.not_registers rfl)
      live := fun operation_id guid => by
        rw [hframe.live]
        exact ⟨fun hlive => (Bool.false_ne_true hlive.1).elim,
          fun hlive => (Bool.false_ne_true hlive.1).elim⟩ }
  | getCancellationId =>
    obtain ⟨hguid, hregistered⟩ := hallowed
    have hframe : EntryBooks (.action t ⟨.getCancellationId⟩ r s :: history) t φ :=
      h.frame (by simp) fun herases => herases
    by_cases hfailed : failed r.1 = true
    · have hphase : φ.next .getCancellationId r = φ := if_pos hfailed
      rw [hphase]
      exact hframe
    · have hphase : φ.next .getCancellationId r = { φ with guid := some r.2 } := if_neg hfailed
      rw [hphase]
      exact {
        began := hframe.began
        registers := fun _ _ hregisters => absurd hregisters (hframe.not_registers hguid)
        live := fun operation_id guid => by
          rw [hframe.live, hregistered]
          simp }
  | emplace operation_id guid =>
    obtain ⟨-, hoperation, hguid, hregistered⟩ := hallowed
    change EntryBooks _ t { φ with registered := r }
    cases r with
    | false =>
      have hphase : ({ φ with registered := false } : Entry) = φ := by rw [← hregistered]
      rw [hphase]
      exact h.frame (by simp) fun herases => herases
    | true =>
      exact {
        began := fun call hcall => (h.began call hcall).cons _
        registers := fun operation_id' guid' => by
          rw [registers_cons]
          rintro (hold | ⟨s', heq⟩)
          · exact h.registers operation_id' guid' hold
          · cases heq
            exact ⟨hoperation, hguid⟩
        live := fun operation_id' guid' => by
          rw [live_cons, h.live, hregistered]
          constructor
          · rintro (⟨s', heq⟩ | ⟨⟨hfalse, -⟩, -⟩)
            · cases heq
              exact ⟨rfl, hoperation, hguid⟩
            · cases hfalse
          · rintro ⟨-, hoperation', hguid'⟩
            obtain rfl := Option.some.inj (hoperation.symm.trans hoperation')
            obtain rfl := Option.some.inj (hguid.symm.trans hguid')
            exact .inl ⟨s, rfl⟩ }
  | eraseSame operation_id guid =>
    exact {
      began := fun call hcall => (h.began call hcall).cons _
      registers := fun operation_id' guid' => by
        rw [registers_cons, or_iff_left (by simp)]
        exact h.registers operation_id' guid'
      live := fun operation_id' guid' => by
        rw [live_cons]
        constructor
        · rintro (⟨s', heq⟩ | ⟨-, hkept⟩)
          · cases heq
          · exact absurd rfl hkept
        · rintro ⟨hfalse, -⟩
          cases hfalse }
  | find operation_id =>
    have hframe : EntryBooks (.action t ⟨.find operation_id⟩ r s :: history) t φ :=
      h.frame (by simp) fun herases => herases
    exact { began := hframe.began, registers := hframe.registers, live := hframe.live }
  | _ => exact h.frame (by simp) fun herases => herases

end

/-! ## The books of all -/

/-- What is right about each event. A ceremony runs while it is registered. What a lookup finds is
the ceremony that is registered, if there is one. And a cancellation that reaches Windows has been
looked up for its operation, and no other ceremony has ever been registered with its id. -/
def Ruled : Event machine → History machine → Prop
  | .action t ⟨.makeCredential request⟩ _ _, past => ∃ call operation_id,
      Begins past t call ∧ call.ceremony = some operation_id ∧
      Live past t operation_id request.cancellation_id
  | .action t ⟨.getAssertion request⟩ _ _, past => ∃ call operation_id,
      Begins past t call ∧ call.ceremony = some operation_id ∧
      Live past t operation_id request.cancellation_id
  | .action _ ⟨.find operation_id⟩ result _, past =>
      ∀ guid, result = some guid ↔ ∃ t, Live past t operation_id guid
  | .action t ⟨.cancelCurrentOperation cancellation_id⟩ _ _, past => ∃ operation_id t',
      Begins past t (.cancel operation_id) ∧ Finds past t operation_id cancellation_id ∧
      Registers past t' operation_id cancellation_id ∧
      ∀ t'' operation_id', Registers past t'' operation_id' cancellation_id →
        t'' = t' ∧ operation_id' = operation_id
  | _, _ => True

/-- How the entries fit the map. -/
structure MapBooks (history : History machine) (s : Platform) (phase : ℕ → Entry) : Prop where
  threads (t : ℕ) : EntryBooks history t (phase t)
  drawn (t : ℕ) (guid : Guid) (h : (phase t).guid = some guid) : s.drawn guid = true
  /-- No cancellation id is drawn twice. -/
  distinct (t t' : ℕ) (guid : Guid) (h : (phase t).guid = some guid)
    (h' : (phase t').guid = some guid) : t = t'
  exactly (operation_id : OperationId) (guid : Guid) :
    s.cancellation_ids operation_id = some guid ↔ ∃ t, (phase t).registered = true ∧
      (phase t).operation = some operation_id ∧ (phase t).guid = some guid
  found (t : ℕ) (guid : Guid) (h : (phase t).found = some guid) : ∃ operation_id t',
    (phase t).call = some (.cancel operation_id) ∧ Finds history t operation_id guid ∧
    Registers history t' operation_id guid
  ruled : Always Ruled history

section

variable {history : History machine} {s s' : Platform} {phase phase' : ℕ → Entry} {t t' : ℕ}
  {event : Event machine} {operation_id : OperationId} {guid : Guid}

theorem mapBooks_nil (held : List UInt8 → Bool) :
    MapBooks [] (Platform.start held) fun _ => {} where
  threads t := EntryBooks.nil t
  drawn _ _ h := nomatch h
  distinct _ _ _ h := nomatch h
  exactly operation_id guid := by simp [Platform.start]
  found _ _ h := nomatch h
  ruled := trivial

/-- The map holds the ceremonies that are registered. -/
theorem MapBooks.map_eq (h : MapBooks history s phase) :
    s.cancellation_ids operation_id = some guid ↔ ∃ t, Live history t operation_id guid := by
  rw [h.exactly]
  exact exists_congr fun t => ((h.threads t).live operation_id guid).symm

/-- One ceremony is registered for an operation, and one with a cancellation id. -/
theorem MapBooks.registers_unique (h : MapBooks history s phase) {operation_id' : OperationId}
    (hregisters : Registers history t operation_id guid)
    (hregisters' : Registers history t' operation_id' guid) :
    t = t' ∧ operation_id = operation_id' := by
  obtain ⟨hoperation, hguid⟩ := (h.threads t).registers _ _ hregisters
  obtain ⟨hoperation', hguid'⟩ := (h.threads t').registers _ _ hregisters'
  obtain rfl := h.distinct t t' guid hguid hguid'
  exact ⟨rfl, Option.some.inj (hoperation.symm.trans hoperation')⟩

theorem MapBooks.live_unique (h : MapBooks history s phase) {guid' : Guid}
    (hlive : Live history t operation_id guid) (hlive' : Live history t' operation_id guid') :
    t = t' := by
  have hmap : s.cancellation_ids operation_id = some guid := h.map_eq.mpr ⟨t, hlive⟩
  have hmap' : s.cancellation_ids operation_id = some guid' := h.map_eq.mpr ⟨t', hlive'⟩
  obtain rfl := Option.some.inj (hmap.symm.trans hmap')
  exact (h.registers_unique hlive.registers hlive'.registers).1

/-- The books of all threads after an action of one of them. -/
theorem MapBooks.threads_action (h : MapBooks history s phase) {a : Action}
    {H : Finset machine.Mutex} (hallowed : (phase t).allows H a) (r : a.Result) (t' : ℕ) :
    EntryBooks (.action t ⟨a⟩ r s :: history) t'
      (Function.update phase t ((phase t).next a r) t') := by
  by_cases ht : t' = t
  · subst ht
    rw [Function.update_self]
    exact (h.threads t').own hallowed r
  · rw [Function.update_of_ne ht]
    exact (h.threads t').other fun a' result s' heq => ht (Event.action.inj heq).1.symm

/-- What has been found stays found. -/
theorem MapBooks.found_cons (h : MapBooks history s phase) (event : Event machine)
    (hfound : (phase t).found = some guid) : ∃ operation_id t',
      (phase t).call = some (.cancel operation_id) ∧
      Finds (event :: history) t operation_id guid ∧
      Registers (event :: history) t' operation_id guid := by
  obtain ⟨operation_id, t', hcall, hfinds, hregisters⟩ := h.found t guid hfound
  exact ⟨operation_id, t', hcall, hfinds.cons event, hregisters.cons event⟩

/-- The map and what the threads know of it stay the same. -/
theorem MapBooks.frame (h : MapBooks history s phase)
    (hthreads : ∀ t, EntryBooks (event :: history) t (phase' t))
    (hguid : ∀ t, (phase' t).guid = (phase t).guid)
    (hregistered : ∀ t, (phase' t).registered = (phase t).registered)
    (hoperation : ∀ t, (phase' t).guid ≠ none → (phase' t).operation = (phase t).operation)
    (hfound : ∀ t guid, (phase' t).found = some guid →
      (phase' t).call = (phase t).call ∧ (phase t).found = some guid)
    (hdrawn : s'.drawn = s.drawn) (hmap : s'.cancellation_ids = s.cancellation_ids)
    (hruled : Ruled event history) : MapBooks (event :: history) s' phase' where
  threads := hthreads
  drawn t guid := by
    rw [hguid, hdrawn]
    exact h.drawn t guid
  distinct t t' guid := by
    rw [hguid, hguid]
    exact h.distinct t t' guid
  exactly operation_id guid := by
    rw [hmap, h.exactly]
    refine exists_congr fun t => ?_
    rw [hregistered, ← hguid]
    by_cases hnone : (phase' t).guid = none
    · simp [hnone]
    · rw [hoperation t hnone]
  found t guid hguid := by
    obtain ⟨hcall, hfound⟩ := hfound t guid hguid
    rw [hcall]
    exact h.found_cons event hfound
  ruled := ⟨hruled, h.ruled⟩

/-- An action that the entry of its thread does not see. -/
theorem MapBooks.quiet (h : MapBooks history s phase) {a : Action} {r : a.Result}
    {H : Finset machine.Mutex} (hallowed : (phase t).allows H a)
    (hphase : (phase t).next a r = phase t) (hdrawn : s'.drawn = s.drawn)
    (hmap : s'.cancellation_ids = s.cancellation_ids)
    (hruled : Ruled (.action t ⟨a⟩ r s) history) :
    MapBooks (.action t ⟨a⟩ r s :: history) s'
      (Function.update phase t ((phase t).next a r)) := by
  have hthreads := h.threads_action hallowed r
  rw [hphase, Function.update_eq_self] at hthreads ⊢
  exact h.frame hthreads (fun _ => rfl) (fun _ => rfl) (fun _ _ => rfl)
    (fun _ _ hfound => ⟨rfl, hfound⟩) hdrawn hmap hruled

/-- A call begins. -/
theorem MapBooks.begins (h : MapBooks history s phase) {call : Call}
    (hblank : phase t = {}) : MapBooks (.action t ⟨.began call⟩ () s :: history) s
      (Function.update phase t { phase t with call := some call }) := by
  have hallowed : (phase t).allows ∅ (.began call) := hblank
  have hkept {β : Type} (f : Entry → β) (t' : ℕ) (hf : f { phase t with call := some call } =
      f (phase t)) : f (Function.update phase t { phase t with call := some call } t') =
        f (phase t') := by
    by_cases ht : t' = t
    · rw [ht, Function.update_self, hf]
    · rw [Function.update_of_ne ht]
  refine h.frame (h.threads_action hallowed ()) (fun t' => hkept Entry.guid t' rfl)
    (fun t' => hkept Entry.registered t' rfl) (fun t' hguid => ?_) (fun t' guid hfound => ?_)
    rfl rfl trivial
  · by_cases ht : t' = t
    · subst ht
      rw [hkept Entry.guid t' rfl, hblank] at hguid
      exact absurd rfl hguid
    · rw [Function.update_of_ne ht]
  · rw [hkept Entry.found t' rfl] at hfound
    by_cases ht : t' = t
    · subst ht
      rw [hblank] at hfound
      cases hfound
    · rw [Function.update_of_ne ht]
      exact ⟨rfl, hfound⟩

/-- A cancellation id is drawn. -/
theorem MapBooks.draws (h : MapBooks history s phase) {r : HResult × Guid}
    {H : Finset machine.Mutex} (hallowed : (phase t).allows H .getCancellationId)
    (hsucceeded : failed r.1 = false) (hfresh : s.drawn r.2 = false) :
    MapBooks (.action t ⟨.getCancellationId⟩ r s :: history) (s.draw r.2)
      (Function.update phase t ((phase t).next .getCancellationId r)) := by
  have hthreads := h.threads_action hallowed r
  have hphase : (phase t).next .getCancellationId r = { phase t with guid := some r.2 } :=
    if_neg (by rw [hsucceeded]; exact Bool.false_ne_true)
  rw [hphase] at hthreads ⊢
  obtain ⟨hguid, hregistered⟩ := hallowed
  have hother {t' : ℕ} {guid : Guid} (hknown : (phase t').guid = some guid) : guid ≠ r.2 := by
    rintro rfl
    rw [h.drawn t' _ hknown] at hfresh
    cases hfresh
  refine ⟨hthreads, fun t' guid hknown => ?_, fun t' t'' guid hknown hknown' => ?_,
    fun operation_id guid => ?_, fun t' guid hfound => ?_, trivial, h.ruled⟩
  · by_cases ht : t' = t
    · subst ht
      rw [Function.update_self] at hknown
      obtain rfl := Option.some.inj hknown
      exact Function.update_self _ _ _
    · rw [Function.update_of_ne ht] at hknown
      exact (Function.update_of_ne (hother hknown) _ _).trans (h.drawn t' guid hknown)
  · by_cases ht : t' = t <;> by_cases ht' : t'' = t
    · rw [ht, ht']
    · subst ht
      rw [Function.update_self] at hknown
      rw [Function.update_of_ne ht'] at hknown'
      exact absurd (Option.some.inj hknown).symm (hother hknown')
    · subst ht'
      rw [Function.update_self] at hknown'
      rw [Function.update_of_ne ht] at hknown
      exact absurd (Option.some.inj hknown').symm (hother hknown)
    · rw [Function.update_of_ne ht] at hknown
      rw [Function.update_of_ne ht'] at hknown'
      exact h.distinct t' t'' guid hknown hknown'
  · show s.cancellation_ids operation_id = some guid ↔ _
    rw [h.exactly]
    refine exists_congr fun t' => ?_
    by_cases ht : t' = t
    · rw [ht, Function.update_self, hregistered]
      simp
    · rw [Function.update_of_ne ht]
  · by_cases ht : t' = t
    · rw [ht, Function.update_self] at hfound ⊢
      exact h.found_cons _ hfound
    · rw [Function.update_of_ne ht] at hfound ⊢
      exact h.found_cons _ hfound

/-- An entry is put into the map, where there is none. -/
theorem MapBooks.inserts (h : MapBooks history s phase) {H : Finset machine.Mutex}
    (hallowed : (phase t).allows H (.emplace operation_id guid))
    (hfree : s.cancellation_ids operation_id = none) :
    MapBooks (.action t ⟨.emplace operation_id guid⟩ true s :: history)
      (s.register operation_id (some guid))
      (Function.update phase t { phase t with registered := true }) := by
  have hthreads := h.threads_action hallowed true
  obtain ⟨-, hoperation, hguid, hregistered⟩ := hallowed
  have hkept {β : Type} (f : Entry → β) (t' : ℕ) (hf : f { phase t with registered := true } =
      f (phase t)) : f (Function.update phase t { phase t with registered := true } t') =
        f (phase t') := by
    by_cases ht : t' = t
    · rw [ht, Function.update_self, hf]
    · rw [Function.update_of_ne ht]
  refine ⟨hthreads, fun t' guid' hknown => ?_, fun t' t'' guid' hknown hknown' => ?_,
    fun operation_id' guid' => ?_, fun t' guid' hfound => ?_, trivial, h.ruled⟩
  · rw [hkept Entry.guid t' rfl] at hknown
    exact h.drawn t' guid' hknown
  · rw [hkept Entry.guid t' rfl] at hknown
    rw [hkept Entry.guid t'' rfl] at hknown'
    exact h.distinct t' t'' guid' hknown hknown'
  · by_cases hsame : operation_id' = operation_id
    · subst hsame
      have hentry : (s.register operation_id' (some guid)).cancellation_ids operation_id' =
          some guid := Function.update_self _ _ _
      rw [hentry]
      constructor
      · intro heq
        obtain rfl := Option.some.inj heq
        exact ⟨t, by rw [Function.update_self]; exact ⟨rfl, hoperation, hguid⟩⟩
      · rintro ⟨t', hin, hop, hid⟩
        by_cases ht : t' = t
        · rw [hkept Entry.guid t' rfl, ht, hguid] at hid
          exact hid
        · -- No other ceremony is registered for the operation.
          rw [Function.update_of_ne ht] at hin hop hid
          rw [(h.exactly _ _).mpr ⟨t', hin, hop, hid⟩] at hfree
          cases hfree
    · have hentry : (s.register operation_id (some guid)).cancellation_ids operation_id' =
          s.cancellation_ids operation_id' := Function.update_of_ne hsame _ _
      rw [hentry, h.exactly]
      refine exists_congr fun t' => ?_
      by_cases ht : t' = t
      · rw [ht, Function.update_self]
        have hne : ¬(phase t).operation = some operation_id' := by
          rw [hoperation, Option.some.injEq]
          exact fun heq => hsame heq.symm
        exact ⟨fun hlive => absurd hlive.2.1 hne, fun hlive => absurd hlive.2.1 hne⟩
      · rw [Function.update_of_ne ht]
  · rw [hkept Entry.found t' rfl] at hfound
    rw [hkept Entry.call t' rfl]
    exact h.found_cons _ hfound

/-- An entry is taken out of the map. -/
theorem MapBooks.erases (h : MapBooks history s phase) {H : Finset machine.Mutex}
    (hallowed : (phase t).allows H (.eraseSame operation_id guid)) :
    MapBooks (.action t ⟨.eraseSame operation_id guid⟩ () s :: history)
      (s.register operation_id none)
      (Function.update phase t { phase t with registered := false }) := by
  have hthreads := h.threads_action hallowed ()
  obtain ⟨-, hoperation, hguid, hregistered⟩ := hallowed
  have hkept {β : Type} (f : Entry → β) (t' : ℕ) (hf : f { phase t with registered := false } =
      f (phase t)) : f (Function.update phase t { phase t with registered := false } t') =
        f (phase t') := by
    by_cases ht : t' = t
    · rw [ht, Function.update_self, hf]
    · rw [Function.update_of_ne ht]
  refine ⟨hthreads, fun t' guid' hknown => ?_, fun t' t'' guid' hknown hknown' => ?_,
    fun operation_id' guid' => ?_, fun t' guid' hfound => ?_, trivial, h.ruled⟩
  · rw [hkept Entry.guid t' rfl] at hknown
    exact h.drawn t' guid' hknown
  · rw [hkept Entry.guid t' rfl] at hknown
    rw [hkept Entry.guid t'' rfl] at hknown'
    exact h.distinct t' t'' guid' hknown hknown'
  · by_cases hsame : operation_id' = operation_id
    · subst hsame
      have hentry : (s.register operation_id' none).cancellation_ids operation_id' = none :=
        Function.update_self _ _ _
      rw [hentry]
      constructor
      · intro heq
        cases heq
      · rintro ⟨t', hin, hop, hid⟩
        by_cases ht : t' = t
        · rw [ht, Function.update_self] at hin
          cases hin
        · -- The operation is registered once, so that this is its thread.
          rw [Function.update_of_ne ht] at hin hop hid
          have hlive := ((h.threads t').live _ _).mpr ⟨hin, hop, hid⟩
          have hmine := ((h.threads t).live _ _).mpr ⟨hregistered, hoperation, hguid⟩
          exact absurd (h.live_unique hlive hmine) ht
    · have hentry : (s.register operation_id none).cancellation_ids operation_id' =
          s.cancellation_ids operation_id' := Function.update_of_ne hsame _ _
      rw [hentry, h.exactly]
      refine exists_congr fun t' => ?_
      by_cases ht : t' = t
      · rw [ht, Function.update_self]
        have hne : ¬(phase t).operation = some operation_id' := by
          rw [hoperation, Option.some.injEq]
          exact fun heq => hsame heq.symm
        exact ⟨fun hlive => absurd hlive.2.1 hne, fun hlive => absurd hlive.2.1 hne⟩
      · rw [Function.update_of_ne ht]
  · rw [hkept Entry.found t' rfl] at hfound
    rw [hkept Entry.call t' rfl]
    exact h.found_cons _ hfound

/-- An operation is looked up. -/
theorem MapBooks.looks (h : MapBooks history s phase) {H : Finset machine.Mutex}
    (hallowed : (phase t).allows H (.find operation_id)) :
    MapBooks (.action t ⟨.find operation_id⟩ (s.cancellation_ids operation_id) s :: history) s
      (Function.update phase t
        { phase t with found := s.cancellation_ids operation_id }) := by
  have hthreads := h.threads_action hallowed (s.cancellation_ids operation_id)
  have hkept {β : Type} (f : Entry → β) (t' : ℕ)
      (hf : f { phase t with found := s.cancellation_ids operation_id } = f (phase t)) :
      f (Function.update phase t { phase t with found := s.cancellation_ids operation_id } t') =
        f (phase t') := by
    by_cases ht : t' = t
    · rw [ht, Function.update_self, hf]
    · rw [Function.update_of_ne ht]
  refine ⟨hthreads, fun t' guid hknown => ?_, fun t' t'' guid hknown hknown' => ?_,
    fun operation_id' guid => ?_, fun t' guid hfound => ?_, fun guid => h.map_eq, h.ruled⟩
  · rw [hkept Entry.guid t' rfl] at hknown
    exact h.drawn t' guid hknown
  · rw [hkept Entry.guid t' rfl] at hknown
    rw [hkept Entry.guid t'' rfl] at hknown'
    exact h.distinct t' t'' guid hknown hknown'
  · rw [h.exactly]
    refine exists_congr fun t' => ?_
    rw [hkept Entry.registered t' rfl, hkept Entry.operation t' rfl, hkept Entry.guid t' rfl]
  · rw [hkept Entry.call t' rfl]
    by_cases ht : t' = t
    · subst ht
      rw [Function.update_self] at hfound
      have hentry : s.cancellation_ids operation_id = some guid := hfound
      obtain ⟨owner, hlive⟩ := h.map_eq.mp hentry
      rw [hentry]
      exact ⟨operation_id, owner, hallowed.2, ⟨s, List.mem_cons_self⟩, hlive.registers.cons _⟩
    · rw [Function.update_of_ne ht] at hfound
      exact h.found_cons _ hfound

/-- Each action that its thread is allowed keeps the books. -/
theorem MapBooks.action (h : MapBooks history s phase) {a : Action} (o : Answers)
    {H : Finset machine.Mutex} (hallowed : (phase t).allows H a) :
    MapBooks (.action t ⟨a⟩ (perform a o s).1 s :: history) (perform a o s).2
      (Function.update phase t ((phase t).next a (perform a o s).1)) := by
  have hceremony {cancellation_id : Guid} (hruns : (phase t).Runs cancellation_id) :
      ∃ call operation_id, Begins history t call ∧ call.ceremony = some operation_id ∧
        Live history t operation_id cancellation_id := by
    obtain ⟨operation_id, hregistered, hoperation, hguid⟩ := hruns
    obtain ⟨call, hcall, hceremony⟩ := Option.bind_eq_some_iff.mp hoperation
    exact ⟨call, operation_id, (h.threads t).began call hcall, hceremony,
      ((h.threads t).live _ _).mpr ⟨hregistered, hoperation, hguid⟩⟩
  cases a with
  | began call => exact h.begins hallowed
  | getCancellationId =>
    cases hfailed : failed o.result with
    | true =>
      have hperform : perform .getCancellationId o s = ((o.result, o.guid), s) := by
        simp only [perform, hfailed, if_true]
      rw [hperform]
      exact h.quiet hallowed (if_pos hfailed) rfl rfl trivial
    | false =>
      cases hdrawn : s.drawn o.guid with
      | true =>
        have hperform : perform .getCancellationId o s = ((unspecifiedFailure, o.guid), s) := by
          simp only [perform, hfailed, hdrawn, Bool.false_eq_true, if_false, if_true]
        rw [hperform]
        have hunspecified : failed unspecifiedFailure = true := by decide
        have hphase : (phase t).next .getCancellationId (unspecifiedFailure, o.guid) = phase t := by
          simp only [Entry.next, hunspecified, if_true]
        exact h.quiet hallowed hphase rfl rfl trivial
      | false =>
        have hperform : perform .getCancellationId o s =
            ((o.result, o.guid), s.draw o.guid) := by
          simp only [perform, hfailed, hdrawn, Bool.false_eq_true, if_false]
        rw [hperform]
        exact h.draws hallowed hfailed hdrawn
  | emplace operation_id guid =>
    cases hentry : s.cancellation_ids operation_id with
    | none =>
      have hperform : perform (.emplace operation_id guid) o s =
          (true, s.register operation_id (some guid)) := by simp only [perform, hentry]
      rw [hperform]
      exact h.inserts hallowed hentry
    | some other =>
      have hperform : perform (.emplace operation_id guid) o s = (false, s) := by
        simp only [perform, hentry]
      rw [hperform]
      have hphase : (phase t).next (.emplace operation_id guid) false = phase t := by
        show ({ phase t with registered := false } : Entry) = phase t
        rw [← hallowed.2.2.2]
      exact h.quiet hallowed hphase rfl rfl trivial
  | eraseSame operation_id guid =>
    obtain ⟨-, hoperation, hguid, hregistered⟩ := id hallowed
    -- The entry of a ceremony is in the map until it takes it out.
    have hentry : s.cancellation_ids operation_id = some guid :=
      (h.exactly _ _).mpr ⟨t, hregistered, hoperation, hguid⟩
    have hperform : perform (.eraseSame operation_id guid) o s =
        ((), s.register operation_id none) := by simp only [perform, hentry, if_true]
    rw [hperform]
    exact h.erases hallowed
  | find operation_id => exact h.looks hallowed
  | makeCredential request =>
    have hkept : (perform (.makeCredential request) o s).2.drawn = s.drawn ∧
        (perform (.makeCredential request) o s).2.cancellation_ids = s.cancellation_ids := by
      unfold perform
      dsimp only
      split
      · exact ⟨rfl, rfl⟩
      · split_ifs
        · exact ⟨rfl, rfl⟩
        · exact ⟨rfl, rfl⟩
        · exact ⟨rfl, rfl⟩
    exact h.quiet hallowed rfl hkept.1 hkept.2 (hceremony hallowed)
  | getAssertion request => exact h.quiet hallowed rfl rfl rfl (hceremony hallowed)
  | deleteCredential credential_id =>
    have hkept : (perform (.deleteCredential credential_id) o s).2.drawn = s.drawn ∧
        (perform (.deleteCredential credential_id) o s).2.cancellation_ids =
          s.cancellation_ids := by
      unfold perform
      dsimp only
      split_ifs
      · exact ⟨rfl, rfl⟩
      · exact ⟨rfl, rfl⟩
    exact h.quiet hallowed rfl hkept.1 hkept.2 trivial
  | cancelCurrentOperation cancellation_id =>
    refine h.quiet hallowed rfl rfl rfl ?_
    obtain ⟨operation_id, t', hcall, hfinds, hregisters⟩ := h.found t cancellation_id hallowed
    refine ⟨operation_id, t', (h.threads t).began _ hcall, hfinds, hregisters,
      fun t'' operation_id' hregisters' => ?_⟩
    exact h.registers_unique hregisters' hregisters
  | _ => exact h.quiet hallowed rfl rfl rfl trivial

/-- A step on the mutex keeps the books. -/
theorem MapBooks.mutex (h : MapBooks history s phase)
    (hevent : ∀ t a result s, event ≠ .action t a result s) (hruled : Ruled event history) :
    MapBooks (event :: history) s phase :=
  h.frame (fun t => (h.threads t).other (hevent t)) (fun _ => rfl) (fun _ => rfl) (fun _ _ => rfl)
    (fun _ _ hfound => ⟨rfl, hfound⟩) rfl rfl hruled

/-- The books are right in every run. -/
theorem mapBooks_invariant (held : List UInt8 → Bool) :
    Invariant registering (fun _ _ => True) (Platform.start held)
      fun history s phase _ => MapBooks history s phase where
  init := mapBooks_nil held
  action _ _ o inv allowed _ := inv.action o allowed
  acquire := fun {_ _ phase _} t m inv _ _ => by
    have hphase : Function.update phase t (registering.acquire (phase t) m) = phase :=
      Function.update_eq_self t phase
    rw [hphase]
    exact inv.mutex (by simp) trivial
  release := fun {_ _ phase _} t m inv _ _ => by
    have hphase : Function.update phase t (registering.release (phase t) m) = phase :=
      Function.update_eq_self t phase
    rw [hphase]
    exact inv.mutex (by simp) trivial

end

/-! ## Cancellations reach the ceremony that they are for -/

/-- In every run of the provider: a ceremony runs while it is registered, there is at most one at a
time for an operation, the map holds these and no others, so that it is empty when all calls have
ended, and what a cancellation hands to Windows is the id of a ceremony for its own operation, which
no other ceremony has ever had. -/
theorem cancellations_exact {held : List UInt8 → Bool} {history : History machine}
    {c : Config machine} (hrun : Run (Provided P) (Platform.start held) history c) :
    Always Ruled history ∧
    (∀ operation_id guid, c.shared.cancellation_ids operation_id = some guid ↔
      ∃ t, Live history t operation_id guid) ∧
    (∀ t t' operation_id guid guid', Live history t operation_id guid →
      Live history t' operation_id guid' → t = t') ∧
    ((∀ t, c.Idle t) → ∀ operation_id, c.shared.cancellation_ids operation_id = none) := by
  obtain ⟨phase, hbooks, hchecked⟩ :
      ∃ phase, MapBooks history c.shared phase ∧
        Checked registering (fun φ => φ.registered = false) phase c :=
    Run.invariant (mapBooks_invariant held) rfl
      (fun p ⟨request, hp⟩ => hp ▸ wp_program_entry request) hrun (always_true history)
  refine ⟨hbooks.ruled, fun operation_id guid => hbooks.map_eq,
    fun t t' operation_id guid guid' hlive hlive' => hbooks.live_unique hlive hlive',
    fun hidle operation_id => ?_⟩
  refine Option.eq_none_iff_forall_ne_some.mpr fun guid hentry => ?_
  obtain ⟨t, hregistered, -⟩ := (hbooks.exactly operation_id guid).mp hentry
  have hdone := hchecked.wp t
  rw [show c.threads t = .ret () from hidle t] at hdone
  exact Bool.false_ne_true (hdone.1.symm.trans hregistered)

/-! ## A sample cancellation -/

/-- The operation of the sample calls. -/
def sampleOperation : OperationId := Bytes.replicate 16 5

/-- An enrollment, and its cancellation before Windows has answered. -/
def cancelledEnrollment : List (Move machine) :=
  alone (.enroll 1 3 sampleOperation) 12 sampleAnswers ++
    .spawn ((Request.cancel sampleOperation).program Core.samplePrimitives) ::
      List.replicate 5 (.step 1 sampleAnswers)

theorem provided_of_cancelledEnrollment (p : Prog machine Unit)
    (h : .spawn p ∈ cancelledEnrollment) : Provided Core.samplePrimitives p := by
  obtain h | h := List.mem_append.mp h
  · exact provided_of_alone p h
  obtain h | h := List.mem_cons.mp h
  · cases h
    exact ⟨_, rfl⟩
  · cases List.eq_of_mem_replicate h

/-- The latest event is a cancellation of the second thread. -/
def endsCancelling : History machine → Bool
  | .action t ⟨.cancelCurrentOperation _⟩ _ _ :: _ => decide (t = 1)
  | _ => false

theorem exists_of_endsCancelling {history : History machine} (h : endsCancelling history = true) :
    ∃ cancellation_id result s past,
      history = .action 1 ⟨.cancelCurrentOperation cancellation_id⟩ result s :: past := by
  unfold endsCancelling at h
  split at h
  · next t cancellation_id result s past =>
    obtain rfl := of_decide_eq_true h
    exact ⟨cancellation_id, result, s, past, rfl⟩
  · cases h

/-- The cancellation is for an enrollment with this operation. -/
theorem cancellations_exact_sample : ∃ history c cancellation_id result s past,
    Run (Provided Core.samplePrimitives) (Platform.start fun _ => false) history c ∧
    history = .action 1 ⟨.cancelCurrentOperation cancellation_id⟩ result s :: past ∧
    ∃ operation_id t, Begins past 1 (.cancel operation_id) ∧
      Registers past t operation_id cancellation_id := by
  have hends : ((exec [] (Config.init (Platform.start fun _ => false)) cancelledEnrollment).map
      fun result => endsCancelling result.1) = some true := by decide +kernel
  obtain ⟨⟨history, c⟩, hexec, hhistory⟩ := Option.map_eq_some_iff.mp hends
  have hrun : Run (Provided Core.samplePrimitives) (Platform.start fun _ => false) history c :=
    Run.of_exec .init provided_of_cancelledEnrollment hexec
  obtain ⟨cancellation_id, result, s, past, rfl⟩ := exists_of_endsCancelling hhistory
  obtain ⟨⟨operation_id, t, hbegins, -, hregisters, -⟩, -⟩ := (cancellations_exact hrun).1
  exact ⟨_, c, cancellation_id, result, s, past, hrun, rfl, operation_id, t, hbegins, hregisters⟩

end Librarian.WindowsHello
