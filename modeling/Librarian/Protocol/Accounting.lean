import Librarian.Protocol.Connection

/-!
# Request accounting over whole runs of a connection

The reader and the workers of a connection call `begin_request`, `cancel`, `finish` and `close` in
any order; each call runs under the connection's mutex, so a run is a sequence of calls. What has
been admitted, accepted or completed is read off the trace of the calls and their replies, and one
invariant ties the trace to the state.
-/

namespace Librarian.Protocol

/-- A call on a connection. -/
inductive Call
  | beginRequest (header : FrameHeader) (request : RequestEnvelope) (current_unlock_epoch : ℕ)
  | cancel (header : FrameHeader)
  | finish (permit : RequestPermit)
  | close

/-- What a call returns. -/
inductive Reply
  | begun (result : Except BeginRequestError RequestPermit)
  | cancelled (result : Except ConnectionError Unit)
  | finished (result : Except ConnectionError RequestCompletion)
  | closed

/-- The calls of a run with their replies, the latest first. -/
abbrev Trace : Type := List (Call × Reply)

namespace ConnectionState

/-- One call. -/
def serve (connection : Connection) (state : ConnectionState) : Call → Reply × ConnectionState
  | .beginRequest header request current_unlock_epoch =>
    let done := beginRequest connection header request current_unlock_epoch state
    (.begun done.1, done.2)
  | .cancel header =>
    let done := cancel connection header state
    (.cancelled done.1, done.2)
  | .finish permit =>
    let done := finish permit.request_id state
    (.finished done.1, done.2)
  | .close => (.closed, state.close)

end ConnectionState

/-- A run of a connection from its handshake. -/
inductive Serves (connection : Connection) : Trace → ConnectionState → Prop
  | new : Serves connection [] .new
  | call {trace : Trace} {state : ConnectionState} (run : Serves connection trace state)
      (call : Call) :
      Serves connection ((call, (state.serve connection call).1) :: trace)
        (state.serve connection call).2

/-! ## What a trace says -/

/-- The id that a call has issued: every call of `begin_request` that is no connection error does. -/
def issuedId : Call × Reply → Option ℕ
  | (.beginRequest _ _ _, .begun (.error (.connection _))) => none
  | (.beginRequest header _ _, .begun _) => some header.request_id
  | _ => none

/-- The id of an admitted request. -/
def admittedId : Call × Reply → Option ℕ
  | (_, .begun (.ok permit)) => some permit.request_id
  | _ => none

/-- The id of a request that a call has completed. -/
def finishedId : Call × Reply → Option ℕ
  | (.finish permit, .finished (.ok _)) => some permit.request_id
  | _ => none

/-- The ids that a run has issued, the latest first. -/
def issuedIds (trace : Trace) : List ℕ := trace.filterMap issuedId

/-- The ids of the admitted requests, the latest first. -/
def admittedIds (trace : Trace) : List ℕ := trace.filterMap admittedId

/-- The ids of the completed requests, the latest first. -/
def finishedIds (trace : Trace) : List ℕ := trace.filterMap finishedId

/-- Whether a call is an accepted cancellation of a request, or closes the connection. -/
def interrupts (request_id : ℕ) : Call × Reply → Bool
  | (.cancel header, .cancelled (.ok ())) => header.request_id = request_id
  | (.close, _) => true
  | _ => false

/-- The calls since the admission of a request. -/
def sinceAdmission (request_id : ℕ) (trace : Trace) : Trace :=
  trace.takeWhile fun entry => admittedId entry ≠ some request_id

/-- A request has been cancelled, or the connection closed, since its admission. -/
def Interrupted (request_id : ℕ) (trace : Trace) : Prop :=
  ∃ entry ∈ sinceAdmission request_id trace, interrupts request_id entry

/-- Whether a call has closed the connection, or has found it closed. -/
def closes : Call × Reply → Bool
  | (_, .begun (.error (.connection _))) => true
  | (_, .cancelled (.error _)) => true
  | (_, .finished (.error _)) => true
  | (.close, _) => true
  | _ => false

/-! ## What each call does -/

namespace ConnectionState

variable (connection : Connection) (header : FrameHeader) (state : ConnectionState)

/-- The state after an id has been issued. -/
def issue (request_id : ℕ) : ConnectionState :=
  { state with
    last_request_id := request_id
    issued_request_ids := insert request_id state.issued_request_ids }

variable {state} in
theorem fail_of_closed (h : state.closed = true) : state.fail = state := by
  cases state
  simp_all [fail]

/-- A header is accepted, or the connection is closed. -/
theorem validateCommonHeader_cases (expected_kind : MessageKind) :
    (∃ e, validateCommonHeader connection header expected_kind state = (.error e, state.fail)) ∨
      state.closed = false ∧
        validateCommonHeader connection header expected_kind state = (.ok (), state) := by
  unfold validateCommonHeader
  by_cases hclosed : state.closed = true
  · exact .inl ⟨_, by rw [if_pos hclosed, fail_of_closed hclosed]⟩
  · rw [if_neg hclosed]
    split_ifs with hkind hbinding
    · exact .inl ⟨_, rfl⟩
    · exact .inl ⟨_, rfl⟩
    · exact .inr ⟨by simpa using hclosed, rfl⟩

theorem validateRequestHeader_cases :
    (∃ e, validateRequestHeader connection header state = (.error e, state.fail)) ∨
      state.closed = false ∧ validateRequestHeader connection header state = (.ok (), state) := by
  unfold validateRequestHeader
  obtain ⟨e, he⟩ | ⟨hopen, hok⟩ := validateCommonHeader_cases connection header state .request
  · exact .inl ⟨e, by rw [he]⟩
  · rw [hok]
    dsimp only
    split_ifs
    · exact .inl ⟨_, rfl⟩
    · exact .inr ⟨hopen, rfl⟩

/-- An id is issued when it is the first or greater than all before, or the connection is closed. -/
theorem recordRequestId_cases (request_id : ℕ) :
    (∃ e, recordRequestId request_id state = (.error e, state.fail)) ∨
      ((state.last_request_id = 0 → request_id = 1) ∧
        (state.last_request_id ≠ 0 → state.last_request_id < request_id)) ∧
        recordRequestId request_id state = (.ok (), state.issue request_id) := by
  unfold recordRequestId
  split_ifs with horder hlimit
  · exact .inl ⟨_, rfl⟩
  · exact .inl ⟨_, rfl⟩
  · refine .inr ⟨?_, rfl⟩
    push Not at horder
    exact horder

/-- The three ways in which `begin_request` ends: the connection is closed, the id is issued and the
request refused, or the request is admitted. -/
theorem beginRequest_cases (request : RequestEnvelope) (current_unlock_epoch : ℕ) :
    let done := beginRequest connection header request current_unlock_epoch state
    (∃ e, done = (.error (.connection e), state.fail)) ∨
      (state.closed = false ∧ (state.last_request_id = 0 → header.request_id = 1) ∧
        (state.last_request_id ≠ 0 → state.last_request_id < header.request_id)) ∧
      ((∃ e, (∀ c, e ≠ .connection c) ∧ done = (.error e, state.issue header.request_id)) ∨
        ∃ permit, permit.request_id = header.request_id ∧
          state.in_flight.card < connection.maximum_in_flight ∧
          done = (.ok permit, (state.issue header.request_id).insertInFlight header.request_id)) := by
  intro done
  obtain ⟨e, he⟩ | ⟨hopen, hheader⟩ := validateRequestHeader_cases connection header state
  · refine .inl ⟨e, ?_⟩
    simp only [done, beginRequest, he]
  · obtain ⟨e, he⟩ | ⟨horder, hrecord⟩ := recordRequestId_cases state header.request_id
    · refine .inl ⟨e, ?_⟩
      simp only [done, beginRequest, hheader, he]
    · refine .inr ⟨⟨hopen, horder⟩, ?_⟩
      simp only [done, beginRequest, hheader, hrecord]
      split_ifs with hrole hfeature hkey hepoch hbusy
      · exact .inl ⟨_, by simp, rfl⟩
      · exact .inl ⟨_, by simp, rfl⟩
      · exact .inl ⟨_, by simp, rfl⟩
      · exact .inl ⟨_, by simp, rfl⟩
      · exact .inr ⟨_, rfl, not_le.mp hbusy, rfl⟩
      · exact .inl ⟨_, by simp, rfl⟩

/-- A cancel frame closes the connection, or marks the request that it names. -/
theorem cancel_cases :
    (∃ e, cancel connection header state = (.error e, state.fail)) ∨
      state.closed = false ∧ header.request_id ∈ state.issued_request_ids ∧
        cancel connection header state = (.ok (), state.markCancelled header.request_id) := by
  unfold cancel
  obtain ⟨e, he⟩ | ⟨hopen, hok⟩ := validateCommonHeader_cases connection header state .cancel
  · exact .inl ⟨e, by rw [he]⟩
  · rw [hok]
    dsimp only
    by_cases hissued : header.request_id ∈ state.issued_request_ids
    · exact .inr ⟨hopen, hissued, if_neg (not_not.mpr hissued)⟩
    · exact .inl ⟨_, if_pos hissued⟩

end ConnectionState

/-! ## The invariant -/

/-- How the trace of a run and the state of its connection fit together. -/
structure Accounting (connection : Connection) (trace : Trace) (state : ConnectionState) :
    Prop where
  issued : (issuedIds trace).toFinset = state.issued_request_ids
  decreasing : (issuedIds trace).Pairwise (· > ·)
  first : ∀ id ∈ (issuedIds trace).getLast?, id = 1
  last : (issuedIds trace).head?.getD 0 = state.last_request_id
  positive : ∀ id ∈ issuedIds trace, id ≠ 0
  admitted : (admittedIds trace).Sublist (issuedIds trace)
  finished : (finishedIds trace).Nodup
  completed : finishedIds trace ⊆ admittedIds trace
  in_flight : ∀ id, id ∈ state.in_flight ↔ id ∈ admittedIds trace ∧ id ∉ finishedIds trace
  bounded : state.in_flight.card ≤ connection.maximum_in_flight
  cancelled : ∀ id ∈ state.in_flight, id ∈ state.cancelled ↔ Interrupted id trace
  closed : (∃ entry ∈ trace, closes entry) → state.closed = true

variable {connection : Connection} {trace : Trace} {state : ConnectionState}
  {entry : Call × Reply} {id : ℕ}

theorem issuedIds_none (h : issuedId entry = none) :
    issuedIds (entry :: trace) = issuedIds trace :=
  List.filterMap_cons_none h

theorem issuedIds_some (h : issuedId entry = some id) :
    issuedIds (entry :: trace) = id :: issuedIds trace :=
  List.filterMap_cons_some h

theorem admittedIds_none (h : admittedId entry = none) :
    admittedIds (entry :: trace) = admittedIds trace :=
  List.filterMap_cons_none h

theorem admittedIds_some (h : admittedId entry = some id) :
    admittedIds (entry :: trace) = id :: admittedIds trace :=
  List.filterMap_cons_some h

theorem finishedIds_none (h : finishedId entry = none) :
    finishedIds (entry :: trace) = finishedIds trace :=
  List.filterMap_cons_none h

theorem finishedIds_some (h : finishedId entry = some id) :
    finishedIds (entry :: trace) = id :: finishedIds trace :=
  List.filterMap_cons_some h

theorem interrupted_cons :
    Interrupted id (entry :: trace) ↔
      admittedId entry ≠ some id ∧ (interrupts id entry = true ∨ Interrupted id trace) := by
  by_cases h : admittedId entry = some id
  · simp [Interrupted, sinceAdmission, h]
  · simp [Interrupted, sinceAdmission, h]

theorem Accounting.new : Accounting connection [] .new where
  issued := rfl
  decreasing := List.Pairwise.nil
  first := by simp [issuedIds]
  last := rfl
  positive := by simp [issuedIds]
  admitted := List.Sublist.refl _
  finished := List.nodup_nil
  completed := List.Subset.refl _
  in_flight := by simp [ConnectionState.new, admittedIds]
  bounded := by simp [ConnectionState.new]
  cancelled := by simp [ConnectionState.new]
  closed := by simp

/-- A call that issues, admits and completes nothing, and leaves the requests in flight as they
are. -/
theorem Accounting.quiet (h : Accounting connection trace state) {state' : ConnectionState}
    (hissued : issuedId entry = none) (hadmitted : admittedId entry = none)
    (hfinished : finishedId entry = none) (hids : state'.issued_request_ids = state.issued_request_ids)
    (hlast : state'.last_request_id = state.last_request_id)
    (hflight : state'.in_flight = state.in_flight)
    (hcancelled : ∀ id ∈ state.in_flight,
      id ∈ state'.cancelled ↔ interrupts id entry = true ∨ id ∈ state.cancelled)
    (hclosed : closes entry = true ∨ state.closed = true → state'.closed = true) :
    Accounting connection (entry :: trace) state' where
  issued := by rw [issuedIds_none hissued, hids, h.issued]
  decreasing := by rw [issuedIds_none hissued]; exact h.decreasing
  first := by rw [issuedIds_none hissued]; exact h.first
  last := by rw [issuedIds_none hissued, hlast, h.last]
  positive := by rw [issuedIds_none hissued]; exact h.positive
  admitted := by rw [issuedIds_none hissued, admittedIds_none hadmitted]; exact h.admitted
  finished := by rw [finishedIds_none hfinished]; exact h.finished
  completed := by rw [finishedIds_none hfinished, admittedIds_none hadmitted]; exact h.completed
  in_flight := by
    rw [finishedIds_none hfinished, admittedIds_none hadmitted, hflight]
    exact h.in_flight
  bounded := by rw [hflight]; exact h.bounded
  cancelled := by
    intro id hid
    rw [hflight] at hid
    rw [interrupted_cons, hadmitted, hcancelled id hid, h.cancelled id hid]
    simp
  closed := by
    rintro ⟨entry', hmem, hcloses⟩
    apply hclosed
    obtain rfl | hmem := List.mem_cons.mp hmem
    · exact .inl hcloses
    · exact .inr (h.closed ⟨entry', hmem, hcloses⟩)

/-- An id that the connection issues is new. -/
theorem Accounting.notMem_issued (h : Accounting connection trace state)
    (horder : state.last_request_id ≠ 0 → state.last_request_id < id) :
    ∀ earlier ∈ issuedIds trace, earlier < id := by
  intro earlier hmem
  -- The latest id is the greatest one.
  obtain ⟨latest, rest, heq⟩ : ∃ latest rest, issuedIds trace = latest :: rest :=
    List.exists_cons_of_ne_nil (List.ne_nil_of_mem hmem)
  have hlast : latest = state.last_request_id := by
    rw [← h.last, heq]
    rfl
  have hpositive : latest ≠ 0 := h.positive latest (by simp [heq])
  have hlt : latest < id := by
    rw [hlast] at hpositive ⊢
    exact horder hpositive
  have hdecreasing := h.decreasing
  rw [heq, List.pairwise_cons] at hdecreasing
  rw [heq, List.mem_cons] at hmem
  obtain rfl | hmem := hmem
  · exact hlt
  · exact (hdecreasing.1 earlier hmem).trans hlt

/-- The lists of ids after an id has been issued. -/
theorem Accounting.issued_cons (h : Accounting connection trace state)
    (hfirst : state.last_request_id = 0 → id = 1)
    (horder : state.last_request_id ≠ 0 → state.last_request_id < id) :
    (id :: issuedIds trace).Pairwise (· > ·) ∧
      (∀ first ∈ (id :: issuedIds trace).getLast?, first = 1) ∧ id ≠ 0 := by
  refine ⟨List.pairwise_cons.mpr ⟨h.notMem_issued horder, h.decreasing⟩, ?_, ?_⟩
  · cases heq : issuedIds trace with
    | nil =>
      have hlast := h.last
      rw [heq] at hlast
      simpa using hfirst hlast.symm
    | cons latest rest =>
      have := h.first
      rw [heq] at this
      simpa [List.getLast?_cons_cons] using this
  · by_cases hlast : state.last_request_id = 0
    · rw [hfirst hlast]
      norm_num
    · exact (Nat.zero_le _).trans_lt (horder hlast) |>.ne'

/-- A request that is refused after its id has been issued. -/
theorem Accounting.refused (h : Accounting connection trace state)
    (hfirst : state.last_request_id = 0 → id = 1)
    (horder : state.last_request_id ≠ 0 → state.last_request_id < id)
    (hissued : issuedId entry = some id) (hadmitted : admittedId entry = none)
    (hfinished : finishedId entry = none) (hinterrupts : ∀ id, interrupts id entry = false)
    (hcloses : closes entry = false) :
    Accounting connection (entry :: trace) (state.issue id) := by
  obtain ⟨hpairwise, hlast, hpositive⟩ := h.issued_cons hfirst horder
  constructor
  case issued =>
    rw [issuedIds_some hissued, List.toFinset_cons, h.issued]
    rfl
  case decreasing => rwa [issuedIds_some hissued]
  case first => rwa [issuedIds_some hissued]
  case last =>
    rw [issuedIds_some hissued]
    rfl
  case positive =>
    rw [issuedIds_some hissued, List.forall_mem_cons]
    exact ⟨hpositive, h.positive⟩
  case admitted =>
    rw [issuedIds_some hissued, admittedIds_none hadmitted]
    exact h.admitted.cons id
  case finished =>
    rw [finishedIds_none hfinished]
    exact h.finished
  case completed =>
    rw [finishedIds_none hfinished, admittedIds_none hadmitted]
    exact h.completed
  case in_flight =>
    rw [finishedIds_none hfinished, admittedIds_none hadmitted]
    exact h.in_flight
  case bounded => exact h.bounded
  case cancelled =>
    intro other hother
    rw [interrupted_cons, hadmitted, hinterrupts, and_iff_right (by simp),
      or_iff_right Bool.false_ne_true]
    exact h.cancelled other hother
  case closed =>
    rw [List.exists_mem_cons_iff, hcloses, or_iff_right Bool.false_ne_true]
    exact h.closed

/-- A request that is admitted. -/
theorem Accounting.begun (h : Accounting connection trace state)
    (hfirst : state.last_request_id = 0 → id = 1)
    (horder : state.last_request_id ≠ 0 → state.last_request_id < id)
    (hbound : state.in_flight.card < connection.maximum_in_flight)
    (hissued : issuedId entry = some id) (hadmitted : admittedId entry = some id)
    (hfinished : finishedId entry = none) (hinterrupts : ∀ id, interrupts id entry = false)
    (hcloses : closes entry = false) :
    Accounting connection (entry :: trace) ((state.issue id).insertInFlight id) := by
  obtain ⟨hpairwise, hlast, hpositive⟩ := h.issued_cons hfirst horder
  -- The id is new, so it was neither admitted nor completed before.
  have hnew : id ∉ admittedIds trace := fun hmem =>
    lt_irrefl id (h.notMem_issued horder id (h.admitted.subset hmem))
  have hunfinished : id ∉ finishedIds trace := fun hmem => hnew (h.completed hmem)
  constructor
  case issued =>
    rw [issuedIds_some hissued, List.toFinset_cons, h.issued]
    rfl
  case decreasing => rwa [issuedIds_some hissued]
  case first => rwa [issuedIds_some hissued]
  case last =>
    rw [issuedIds_some hissued]
    rfl
  case positive =>
    rw [issuedIds_some hissued, List.forall_mem_cons]
    exact ⟨hpositive, h.positive⟩
  case admitted =>
    rw [issuedIds_some hissued, admittedIds_some hadmitted]
    exact h.admitted.cons_cons id
  case finished =>
    rw [finishedIds_none hfinished]
    exact h.finished
  case completed =>
    rw [finishedIds_none hfinished, admittedIds_some hadmitted]
    exact List.subset_cons_of_subset id h.completed
  case in_flight =>
    intro other
    rw [finishedIds_none hfinished, admittedIds_some hadmitted]
    simp only [ConnectionState.insertInFlight, ConnectionState.issue, Finset.mem_insert,
      List.mem_cons, h.in_flight other]
    by_cases hother : other = id
    · simp [hother, hunfinished]
    · simp [hother]
  case bounded => exact (Finset.card_insert_le _ _).trans hbound
  case cancelled =>
    intro other hother
    rw [interrupted_cons, hadmitted, hinterrupts]
    simp only [ConnectionState.insertInFlight, ConnectionState.issue, Finset.mem_erase,
      Finset.mem_insert] at hother ⊢
    by_cases heq : other = id
    · simp [heq]
    · have hflight : other ∈ state.in_flight := hother.resolve_left heq
      simpa [heq, Ne.symm heq] using h.cancelled other hflight
  case closed =>
    rw [List.exists_mem_cons_iff, hcloses, or_iff_right Bool.false_ne_true]
    exact h.closed

/-- A request that is completed. -/
theorem Accounting.done (h : Accounting connection trace state) (hflight : id ∈ state.in_flight)
    {state' : ConnectionState} (hfinish : state' = (ConnectionState.finish id state).2)
    (hissued : issuedId entry = none) (hadmitted : admittedId entry = none)
    (hfinished : finishedId entry = some id) (hinterrupts : ∀ id, interrupts id entry = false)
    (hcloses : closes entry = false) : Accounting connection (entry :: trace) state' := by
  obtain ⟨hmem, hunfinished⟩ := (h.in_flight id).mp hflight
  subst hfinish
  rw [ConnectionState.finish, if_neg (not_not.mpr hflight)]
  constructor
  case issued =>
    rw [issuedIds_none hissued]
    exact h.issued
  case decreasing => rw [issuedIds_none hissued]; exact h.decreasing
  case first => rw [issuedIds_none hissued]; exact h.first
  case last =>
    rw [issuedIds_none hissued]
    exact h.last
  case positive => rw [issuedIds_none hissued]; exact h.positive
  case admitted =>
    rw [issuedIds_none hissued, admittedIds_none hadmitted]
    exact h.admitted
  case finished =>
    rw [finishedIds_some hfinished]
    exact List.nodup_cons.mpr ⟨hunfinished, h.finished⟩
  case completed =>
    rw [finishedIds_some hfinished, admittedIds_none hadmitted]
    exact List.cons_subset.mpr ⟨hmem, h.completed⟩
  case in_flight =>
    intro other
    rw [finishedIds_some hfinished, admittedIds_none hadmitted, Finset.mem_erase, h.in_flight other,
      List.mem_cons, not_or]
    tauto
  case bounded => exact (Finset.card_erase_le).trans h.bounded
  case cancelled =>
    intro other hother
    obtain ⟨hne, hother⟩ := Finset.mem_erase.mp hother
    rw [interrupted_cons, hadmitted, hinterrupts, Finset.mem_erase]
    simpa [hne] using h.cancelled other hother
  case closed =>
    rw [List.exists_mem_cons_iff, hcloses, or_iff_right Bool.false_ne_true]
    exact h.closed

/-- Every call keeps the books. -/
theorem Accounting.serve (h : Accounting connection trace state) (call : Call) :
    Accounting connection ((call, (state.serve connection call).1) :: trace)
      (state.serve connection call).2 := by
  -- A call that fails closes the connection and does nothing else.
  have hfail : ∀ entry : Call × Reply, issuedId entry = none → admittedId entry = none →
      finishedId entry = none → (∀ id, interrupts id entry = false) →
      Accounting connection (entry :: trace) state.fail := by
    intro entry hissued hadmitted hfinished hinterrupts
    exact h.quiet hissued hadmitted hfinished rfl rfl rfl
      (fun id _ => by rw [hinterrupts id]; simp [ConnectionState.fail]) (fun _ => rfl)
  cases call with
  | beginRequest header request current_unlock_epoch =>
    obtain ⟨e, he⟩ | ⟨⟨-, hfirst, horder⟩, hissue⟩ :=
      state.beginRequest_cases connection header request current_unlock_epoch
    · simp only [ConnectionState.serve, he]
      exact hfail _ rfl rfl rfl fun _ => rfl
    · obtain ⟨e, hne, he⟩ | ⟨permit, hpermit, hbound, hok⟩ := hissue
      · simp only [ConnectionState.serve, he]
        cases e with
        | connection c => exact absurd rfl (hne c)
        | unauthorized => exact h.refused hfirst horder rfl rfl rfl (fun _ => rfl) rfl
        | busy timeout => exact h.refused hfirst horder rfl rfl rfl (fun _ => rfl) rfl
        | staleEpoch => exact h.refused hfirst horder rfl rfl rfl (fun _ => rfl) rfl
        | missingIdempotencyKey => exact h.refused hfirst horder rfl rfl rfl (fun _ => rfl) rfl
      · simp only [ConnectionState.serve, hok]
        exact h.begun hfirst horder hbound rfl (congrArg some hpermit) rfl (fun _ => rfl) rfl
  | cancel header =>
    obtain ⟨e, he⟩ | ⟨hopen, -, hok⟩ := state.cancel_cases connection header
    · simp only [ConnectionState.serve, he]
      exact hfail _ rfl rfl rfl fun _ => rfl
    · simp only [ConnectionState.serve, hok]
      refine h.quiet rfl rfl rfl rfl rfl rfl (fun id hid => ?_) (fun hclosed => ?_)
      · by_cases heq : header.request_id = id
        · subst heq
          simp [ConnectionState.markCancelled, interrupts, hid]
        · simp only [ConnectionState.markCancelled, interrupts, heq, decide_false,
            Bool.false_eq_true, false_or]
          split_ifs
          · simp [Ne.symm heq]
          · rfl
      · exact hclosed.resolve_left (by simp [closes])
  | finish permit =>
    by_cases hflight : permit.request_id ∈ state.in_flight
    · refine h.done hflight rfl rfl rfl ?_ (fun _ => rfl) ?_
      · simp [finishedId, ConnectionState.serve, ConnectionState.finish, hflight]
      · simp [closes, ConnectionState.serve, ConnectionState.finish, hflight]
    · simp only [ConnectionState.serve, ConnectionState.finish, if_pos hflight]
      exact hfail _ rfl rfl rfl fun _ => rfl
  | close =>
    exact h.quiet rfl rfl rfl rfl rfl rfl
      (fun id hid => by simp [ConnectionState.serve, ConnectionState.close, interrupts, hid])
      (fun _ => rfl)

/-- The books are kept over every run. -/
theorem Serves.accounting (h : Serves connection trace state) :
    Accounting connection trace state := by
  induction h with
  | new => exact Accounting.new
  | call run call ih => exact ih.serve call

/-- Request accounting, at every moment of every run of a connection: the ids are issued and admitted
in increasing order from one on; what is in flight was issued, and is bounded; a request is
completed once, and its completion tells whether it was interrupted; a cancellation of what is not
in flight changes nothing; and a closed connection stays closed. -/
theorem connection_accounting (h : Serves connection trace state) :
    (issuedIds trace).Pairwise (· > ·) ∧ (∀ id ∈ (issuedIds trace).getLast?, id = 1) ∧
    (admittedIds trace).Pairwise (· > ·) ∧ admittedIds trace ⊆ issuedIds trace ∧
    (∀ id ∈ state.in_flight, id ∈ issuedIds trace) ∧
    state.in_flight.card ≤ connection.maximum_in_flight ∧
    (finishedIds trace).Nodup ∧
    (∀ permit : RequestPermit, permit.request_id ∈ finishedIds trace →
      state.serve connection (.finish permit) =
        (.finished (.error .invalidFrame), state.fail)) ∧
    (∀ (permit : RequestPermit) (completion : RequestCompletion),
      (state.serve connection (.finish permit)).1 = .finished (.ok completion) →
        (completion = .cancelled ↔ Interrupted permit.request_id trace)) ∧
    (∀ header : FrameHeader, header.request_id ∈ issuedIds trace →
      header.request_id ∉ admittedIds trace ∨ header.request_id ∈ finishedIds trace →
      ∀ state', state.serve connection (.cancel header) = (.cancelled (.ok ()), state') →
        state' = state) ∧
    ((∃ entry ∈ trace, closes entry) → state.closed = true ∧
      ∀ header request current_unlock_epoch permit,
        (state.serve connection (.beginRequest header request current_unlock_epoch)).1 ≠
          .begun (.ok permit)) := by
  have hinv := h.accounting
  have hissued : ∀ id ∈ state.in_flight, id ∈ issuedIds trace := fun id hid =>
    hinv.admitted.subset ((hinv.in_flight id).mp hid).1
  refine ⟨hinv.decreasing, hinv.first, hinv.decreasing.sublist hinv.admitted, hinv.admitted.subset,
    hissued, hinv.bounded, hinv.finished, ?_, ?_, ?_, ?_⟩
  · intro permit hmem
    have hflight : permit.request_id ∉ state.in_flight := fun hid =>
      ((hinv.in_flight _).mp hid).2 hmem
    simp [ConnectionState.serve, ConnectionState.finish, hflight]
  · intro permit completion hreply
    by_cases hflight : permit.request_id ∈ state.in_flight
    · rw [← hinv.cancelled _ hflight]
      simp only [ConnectionState.serve, ConnectionState.finish, if_neg (not_not.mpr hflight),
        Reply.finished.injEq, Except.ok.injEq] at hreply
      rw [← hreply]
      split_ifs with hcancelled
      · simp [hcancelled]
      · simp [hcancelled]
    · simp [ConnectionState.serve, ConnectionState.finish, hflight] at hreply
  · intro header hmem hover state' hreply
    have hflight : header.request_id ∉ state.in_flight := fun hid => by
      obtain ⟨hadmitted, hunfinished⟩ := (hinv.in_flight _).mp hid
      exact hover.elim (fun h => h hadmitted) fun h => hunfinished h
    obtain ⟨e, he⟩ | ⟨-, -, hok⟩ := state.cancel_cases connection header
    · simp [ConnectionState.serve, he] at hreply
    · simp only [ConnectionState.serve, hok, Prod.mk.injEq, true_and] at hreply
      rw [← hreply]
      simp [ConnectionState.markCancelled, hflight]
  · intro hcloses
    have hclosed := hinv.closed hcloses
    refine ⟨hclosed, fun header request current_unlock_epoch permit hreply => ?_⟩
    obtain ⟨e, he⟩ | ⟨⟨hopen, -⟩, -⟩ :=
      state.beginRequest_cases connection header request current_unlock_epoch
    · simp [ConnectionState.serve, he] at hreply
    · simp [hclosed] at hopen

/-! ## A first request that is refused -/

/-- A connection of the desktop application. -/
def desktopConnection : Connection where
  role := .desktop
  version := ⟨1, 3⟩
  authenticated_process_id := 7
  granted_features := []
  connection_id := Bytes.replicate 16 1
  maximum_payload_bytes := 65536
  maximum_in_flight := 4

/-- A call of `begin_request` on that connection, with an empty body. -/
def desktopRequest (request_id : ℕ) (operation : OperationCode) : Call :=
  .beginRequest ⟨.request, ⟨1, 3⟩, 0, Bytes.replicate 16 1, request_id⟩
    { operation := operation
      unlock_epoch := 1
      timeout_ms := 1000
      idempotency_key := none
      body := []
      decoded := .error .invalid
      decoded_operation := by simp } 1

/-- The state after the desktop application has asked for a passkey and then for the status. -/
theorem desktop_run : ∃ trace state, Serves desktopConnection trace state ∧
    admittedIds trace = [2] ∧ state.in_flight = {2} := by
  refine ⟨_, _, (Serves.new.call (desktopRequest 1 .makePasskey)).call (desktopRequest 2 .status),
    ?_, ?_⟩
  · decide +kernel
  · decide +kernel

/-- Refused requests use up their ids too, so the first admitted id need not be one. -/
theorem first_admitted_may_exceed_one :
    ¬ ∀ (connection : Connection) (trace : Trace) (state : ConnectionState),
      Serves connection trace state → ∀ id ∈ (admittedIds trace).getLast?, id = 1 := by
  intro hall
  obtain ⟨trace, state, hrun, hadmitted, -⟩ := desktop_run
  have hone := hall _ trace state hrun 2 (by simp [hadmitted])
  norm_num at hone

/-- The accounting of that run: the request in flight was issued. -/
theorem connection_accounting_sample : ∃ trace state, Serves desktopConnection trace state ∧
    2 ∈ state.in_flight ∧ 2 ∈ issuedIds trace := by
  obtain ⟨trace, state, hrun, -, hflight⟩ := desktop_run
  obtain ⟨-, -, -, -, hissued, -⟩ := connection_accounting hrun
  have hmem : 2 ∈ state.in_flight := by simp [hflight]
  exact ⟨trace, state, hrun, hmem, hissued 2 hmem⟩

end Librarian.Protocol
