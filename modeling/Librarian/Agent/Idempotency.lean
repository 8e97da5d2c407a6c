import Mathlib.Data.Finset.Card
import Mathlib.Data.Finset.Insert
import Mathlib.Data.List.AList
import Mathlib.Logic.Relation
import Librarian.Agent.Outcome

/-!
# Idempotent execution

`execute_idempotent` takes the `idempotency` mutex twice, once to reserve the key or to find a
cached outcome, and once to complete the reservation; the operation runs in between. A reservation
that is dropped without completion takes the mutex a last time. The sections of any number of calls
interleave with those of `initialize_idempotency_vault` and `bind_authenticated_idempotency_vault`;
`step` is one such section.

The invariant ties the three collections to each other and to the calls that are under way. What
happens to a cached outcome is then a statement about single steps: it stays as it is, unless it is
the oldest one and makes room, or the cache is cleared for another vault.
-/

namespace Librarian.Agent

open Librarian.Protocol

/-- `MAX_IDEMPOTENCY_RESULTS`. -/
def maxIdempotencyResults : ℕ := 1024

/-- An idempotency key. -/
abbrev IdempotencyKey : Type := Bytes 16

/-- The part of an outcome that a replay returns, with the fingerprint of the request. -/
structure CachedOutcome where
  request_fingerprint : Bytes 32
  error : Option PublicErrorCode
  retry : RetryCategory
  body : Body
  deriving DecidableEq

/-- What the `idempotency` mutex protects. -/
structure IdempotencyState where
  authenticated_vault_id : Option (Bytes 16)
  cached : AList fun _ : IdempotencyKey => CachedOutcome
  insertion_order : List IdempotencyKey
  in_flight : Finset IdempotencyKey

/-- `IdempotencyState::new`. -/
def IdempotencyState.new : IdempotencyState where
  authenticated_vault_id := none
  cached := ∅
  insertion_order := []
  in_flight := ∅

/-- Failures that end the connection. -/
inductive DispatchError
  | connection
  | internal
  deriving DecidableEq, Repr

/-! ## The critical sections -/

/-- The replay that `execute_idempotent` makes of a cached outcome. -/
def CachedOutcome.replay (cached : CachedOutcome) : ExecutionOutcome where
  error := cached.error
  retry := cached.retry
  body := cached.body
  replayed := true
  holds_lock_transition := false
  committed := false
  browser_generation := none
  browser_deadline := none

/-- What the first section of `execute_idempotent` decides. -/
inductive Admission
  | conflict
  | replay (cached : CachedOutcome)
  | busy
  | reserved
  deriving DecidableEq

/-- The loop that makes room for a reservation: the oldest outcomes are dropped while there are too
many, and the request is refused when none is left to drop. -/
def makeRoom (in_flight : ℕ) (cached : AList fun _ : IdempotencyKey => CachedOutcome) :
    List IdempotencyKey →
      (AList fun _ : IdempotencyKey => CachedOutcome) × List IdempotencyKey × Bool
  | [] =>
    (cached, [], decide (cached.keys.length + in_flight < maxIdempotencyResults))
  | oldest :: rest =>
    if cached.keys.length + in_flight < maxIdempotencyResults then (cached, oldest :: rest, true)
    else makeRoom in_flight (cached.erase oldest) rest

/-- The first section of `execute_idempotent`. -/
def IdempotencyState.reserve (state : IdempotencyState) (key : IdempotencyKey)
    (request_fingerprint : Bytes 32) : Admission × IdempotencyState :=
  match state.cached.lookup key with
  | some cached =>
    if cached.request_fingerprint ≠ request_fingerprint then (.conflict, state)
    else (.replay cached, state)
  | none =>
    if key ∈ state.in_flight then (.busy, state)
    else
      match makeRoom state.in_flight.card state.cached state.insertion_order with
      | (cached, insertion_order, room) =>
        let state := { state with cached := cached, insertion_order := insertion_order }
        if room then (.reserved, { state with in_flight := insert key state.in_flight })
        else (.busy, state)

/-- `IdempotencyReservation::complete`. When it fails, the reservation is still active. -/
def IdempotencyState.complete (state : IdempotencyState) (key : IdempotencyKey)
    (cached : Option CachedOutcome) : Except DispatchError Unit × IdempotencyState :=
  if key ∉ state.in_flight then (.error .internal, state)
  else
    let state := { state with in_flight := state.in_flight.erase key }
    match cached with
    | none => (.ok (), state)
    | some outcome =>
      let state' := { state with cached := state.cached.insert key outcome }
      if (state.cached.lookup key).isSome then (.error .internal, state')
      else (.ok (), { state' with insertion_order := state.insertion_order ++ [key] })

/-- The drop of an active `IdempotencyReservation`. -/
def IdempotencyState.release (state : IdempotencyState) (key : IdempotencyKey) :
    IdempotencyState :=
  { state with in_flight := state.in_flight.erase key }

/-- `initialize_idempotency_vault`. -/
def IdempotencyState.initializeIdempotencyVault (state : IdempotencyState) (vault_id : Bytes 16) :
    Except DispatchError Unit × IdempotencyState :=
  match state.authenticated_vault_id with
  | some current => if current ≠ vault_id then (.error .internal, state) else (.ok (), state)
  | none =>
    (.ok (), { state with
      cached := ∅, insertion_order := [], authenticated_vault_id := some vault_id })

/-- `bind_authenticated_idempotency_vault`. -/
def IdempotencyState.bindAuthenticatedIdempotencyVault (state : IdempotencyState) (vault_id : Bytes 16) :
    Except DispatchError Unit × IdempotencyState :=
  if state.authenticated_vault_id = some vault_id then (.ok (), state)
  else if state.in_flight ≠ ∅ then (.error .internal, state)
  else
    (.ok (), { state with
      cached := ∅, insertion_order := [], authenticated_vault_id := some vault_id })

/-- The outcome of an execution, as it is cached. -/
def ExecutionOutcome.toCached (outcome : ExecutionOutcome) (request_fingerprint : Bytes 32) :
    Option CachedOutcome :=
  if outcome.shouldCache then some ⟨request_fingerprint, outcome.error, outcome.retry, outcome.body⟩
  else none

/-! ## Interleaved calls -/

/-- Where a call of `execute_idempotent` is. -/
inductive Call
  | idle
  | replaying (cached : CachedOutcome)
  | executing (key : IdempotencyKey) (request_fingerprint : Bytes 32)
  /-- The execution has returned an error or is unwinding, and the reservation will be dropped. -/
  | releasing (key : IdempotencyKey)

/-- The key that a call has reserved. -/
def Call.reserves : Call → Option IdempotencyKey
  | executing key _ => some key
  | releasing key => some key
  | _ => none

/-- The shared state and the calls, with the history of the keys whose outcomes were cached. -/
structure IdempotencySystem where
  state : IdempotencyState
  calls : ℕ → Call
  completed : List IdempotencyKey

/-- What happens next. -/
inductive IdempotencyLabel
  | call (t : ℕ) (key : IdempotencyKey) (request_fingerprint : Bytes 32)
  | reply (t : ℕ) (validate_replay : Except DispatchError (Option ExecutionOutcome))
  | finish (t : ℕ) (outcome : ExecutionOutcome)
  | fail (t : ℕ)
  | drop (t : ℕ)
  | initializeVault (vault_id : Bytes 16)
  | bindVault (vault_id : Bytes 16)

namespace IdempotencySystem

/-- Nothing has happened yet. -/
def initial : IdempotencySystem := ⟨.new, fun _ => .idle, []⟩

/-- Moves one call on. -/
def setCall (σ : IdempotencySystem) (t : ℕ) (call : Call) : IdempotencySystem :=
  { σ with calls := Function.update σ.calls t call }

/-- One section, with the result that it returns to a caller, if it returns. -/
def step (σ : IdempotencySystem) :
    IdempotencyLabel → Option (IdempotencySystem × Option (Except DispatchError ExecutionOutcome))
  | .call t key request_fingerprint =>
    match σ.calls t with
    | .idle =>
      match σ.state.reserve key request_fingerprint with
      | (.conflict, state) => some ({ σ with state := state }, some (.ok .conflict))
      | (.busy, state) => some ({ σ with state := state }, some (.ok .busy))
      | (.replay cached, state) =>
        some ({ σ with state := state }.setCall t (.replaying cached), none)
      | (.reserved, state) =>
        some ({ σ with state := state }.setCall t (.executing key request_fingerprint), none)
    | _ => none
  | .reply t validate_replay =>
    match σ.calls t with
    | .replaying cached =>
      some (σ.setCall t .idle, some (validate_replay.map fun rejection =>
        rejection.getD cached.replay))
    | _ => none
  | .finish t outcome =>
    match σ.calls t with
    | .executing key request_fingerprint =>
      match σ.state.complete key (outcome.toCached request_fingerprint) with
      | (.ok (), state) =>
        some ({ σ with
          state := state
          completed := if outcome.shouldCache then σ.completed ++ [key] else σ.completed }.setCall t
            .idle, some (.ok outcome))
      | (.error _, state) => some ({ σ with state := state }.setCall t (.releasing key), none)
    | _ => none
  | .fail t =>
    match σ.calls t with
    | .executing key _ => some (σ.setCall t (.releasing key), none)
    | _ => none
  | .drop t =>
    match σ.calls t with
    | .releasing key =>
      some ({ σ with state := σ.state.release key }.setCall t .idle, some (.error .internal))
    | _ => none
  | .initializeVault vault_id =>
    some ({ σ with state := (σ.state.initializeIdempotencyVault vault_id).2 }, none)
  | .bindVault vault_id =>
    some ({ σ with state := (σ.state.bindAuthenticatedIdempotencyVault vault_id).2 }, none)

/-- One system follows another. -/
def Step (σ σ' : IdempotencySystem) : Prop := ∃ label result, σ.step label = some (σ', result)

/-- The systems that a run can reach. -/
def Reachable : IdempotencySystem → Prop := Relation.ReflTransGen Step initial

end IdempotencySystem

/-! ## What the sections do -/

/-- What holds of the three collections between the sections. -/
structure IdempotencyState.Consistent (state : IdempotencyState) : Prop where
  disjoint : ∀ key ∈ state.in_flight, key ∉ state.cached
  order_nodup : state.insertion_order.Nodup
  order_mem : ∀ key, key ∈ state.insertion_order ↔ key ∈ state.cached
  capacity : state.cached.keys.length + state.in_flight.card ≤ maxIdempotencyResults

theorem length_keys_erase {cached : AList fun _ : IdempotencyKey => CachedOutcome}
    {key : IdempotencyKey} (h : key ∈ cached) :
    (cached.erase key).keys.length + 1 = cached.keys.length := by
  have hpos : 0 < cached.keys.length := List.length_pos_of_mem (AList.mem_keys.mp h)
  have hlength := @List.length_erase_of_mem IdempotencyKey instBEqOfDecidableEq _ key cached.keys
    (AList.mem_keys.mp h)
  rw [AList.keys_erase, hlength]
  omega

/-- Room is made in one of two ways: there is some already, or the oldest outcome is dropped. When
there is none, nothing changes. -/
theorem makeRoom_cases {n : ℕ} {cached : AList fun _ : IdempotencyKey => CachedOutcome}
    {order : List IdempotencyKey} (hmem : ∀ key ∈ order, key ∈ cached)
    (hcapacity : cached.keys.length + n ≤ maxIdempotencyResults) :
    (cached.keys.length + n < maxIdempotencyResults ∧
      makeRoom n cached order = (cached, order, true)) ∨
    (makeRoom n cached order = (cached, order, false)) ∨
    ∃ oldest rest, order = oldest :: rest ∧
      cached.keys.length + n = maxIdempotencyResults ∧
      makeRoom n cached order = (cached.erase oldest, rest, true) := by
  by_cases hroom : cached.keys.length + n < maxIdempotencyResults
  · refine .inl ⟨hroom, ?_⟩
    cases order with
    | nil => rw [makeRoom, decide_eq_true hroom]
    | cons oldest rest => rw [makeRoom, if_pos hroom]
  · refine .inr ?_
    cases order with
    | nil =>
      left
      rw [makeRoom, decide_eq_false hroom]
    | cons oldest rest =>
      -- One outcome less is enough, because there were never more than the maximum.
      have hlength := length_keys_erase (hmem oldest List.mem_cons_self)
      have hroom' : (cached.erase oldest).keys.length + n < maxIdempotencyResults := by omega
      refine .inr ⟨oldest, rest, rfl, by omega, ?_⟩
      rw [makeRoom, if_neg hroom]
      cases rest with
      | nil => rw [makeRoom, decide_eq_true hroom']
      | cons next rest => rw [makeRoom, if_pos hroom']

/-- What the first section of a call does. -/
inductive Reserves (state : IdempotencyState) (key : IdempotencyKey) (fingerprint : Bytes 32) :
    Admission → IdempotencyState → Prop
  | conflict (cached : CachedOutcome) (found : state.cached.lookup key = some cached)
      (differs : cached.request_fingerprint ≠ fingerprint) :
      Reserves state key fingerprint .conflict state
  | replay (cached : CachedOutcome) (found : state.cached.lookup key = some cached)
      (same : cached.request_fingerprint = fingerprint) :
      Reserves state key fingerprint (.replay cached) state
  | busy (absent : key ∉ state.cached) : Reserves state key fingerprint .busy state
  | room (absent : key ∉ state.cached) (free : key ∉ state.in_flight)
      (space : state.cached.keys.length + state.in_flight.card < maxIdempotencyResults) :
      Reserves state key fingerprint .reserved
        { state with in_flight := insert key state.in_flight }
  | evict (oldest : IdempotencyKey) (rest : List IdempotencyKey) (absent : key ∉ state.cached)
      (free : key ∉ state.in_flight) (order : state.insertion_order = oldest :: rest)
      (full : state.cached.keys.length + state.in_flight.card = maxIdempotencyResults) :
      Reserves state key fingerprint .reserved
        { state with
          cached := state.cached.erase oldest
          insertion_order := rest
          in_flight := insert key state.in_flight }

theorem IdempotencyState.reserve_spec {state : IdempotencyState} (h : state.Consistent)
    (key : IdempotencyKey) (fingerprint : Bytes 32) :
    Reserves state key fingerprint (state.reserve key fingerprint).1
      (state.reserve key fingerprint).2 := by
  unfold IdempotencyState.reserve
  cases hfound : state.cached.lookup key with
  | some cached =>
    dsimp only
    split_ifs with hsame
    · exact .conflict cached hfound hsame
    · exact .replay cached hfound (not_not.mp hsame)
  | none =>
    dsimp only
    have habsent : key ∉ state.cached := AList.lookup_eq_none.mp hfound
    by_cases hflight : key ∈ state.in_flight
    · rw [if_pos hflight]
      exact .busy habsent
    · rw [if_neg hflight]
      have hmem : ∀ key ∈ state.insertion_order, key ∈ state.cached :=
        fun key hkey => (h.order_mem key).mp hkey
      rcases makeRoom_cases hmem h.capacity with
        ⟨hspace, hroom⟩ | hnone | ⟨oldest, rest, horder, hfull, hroom⟩
      · rw [hroom]
        exact .room habsent hflight hspace
      · rw [hnone]
        exact .busy habsent
      · rw [hroom]
        exact .evict oldest rest habsent hflight horder hfull

/-- The first section keeps the collections consistent. -/
theorem Reserves.consistent {state state' : IdempotencyState} {key : IdempotencyKey}
    {fingerprint : Bytes 32} {admission : Admission} (h : state.Consistent)
    (hreserve : Reserves state key fingerprint admission state') : state'.Consistent := by
  cases hreserve with
  | conflict | replay | busy => exact h
  | room habsent hfree hspace =>
    refine ⟨?_, h.order_nodup, h.order_mem, ?_⟩
    · intro other hother
      rcases Finset.mem_insert.mp hother with rfl | hother
      · exact habsent
      · exact h.disjoint other hother
    · show state.cached.keys.length + (insert key state.in_flight).card ≤ maxIdempotencyResults
      rw [Finset.card_insert_of_notMem hfree]
      omega
  | evict oldest rest habsent hfree horder hfull =>
    have hnodup := h.order_nodup
    rw [horder, List.nodup_cons] at hnodup
    have holdest : oldest ∈ state.cached := (h.order_mem oldest).mp (by simp [horder])
    refine ⟨?_, hnodup.2, ?_, ?_⟩
    · intro other hother hcached
      rw [AList.mem_erase] at hcached
      rcases Finset.mem_insert.mp hother with rfl | hother
      · exact habsent hcached.2
      · exact h.disjoint other hother hcached.2
    · intro other
      have hother := h.order_mem other
      rw [horder, List.mem_cons] at hother
      rw [AList.mem_erase, ← hother]
      constructor
      · intro hrest
        exact ⟨fun heq => hnodup.1 (heq ▸ hrest), .inr hrest⟩
      · rintro ⟨hne, rfl | hrest⟩
        · exact absurd rfl hne
        · exact hrest
    · have hlength := length_keys_erase holdest
      show (state.cached.erase oldest).keys.length + (insert key state.in_flight).card ≤
        maxIdempotencyResults
      rw [Finset.card_insert_of_notMem hfree]
      omega

/-- A reserved key completes: the reservation goes, and a cacheable outcome becomes the newest. -/
theorem IdempotencyState.complete_eq {state : IdempotencyState} (h : state.Consistent)
    {key : IdempotencyKey} (hkey : key ∈ state.in_flight) (cached : Option CachedOutcome) :
    state.complete key cached = (.ok (), match cached with
      | none => { state with in_flight := state.in_flight.erase key }
      | some outcome =>
        { state with
          in_flight := state.in_flight.erase key
          cached := state.cached.insert key outcome
          insertion_order := state.insertion_order ++ [key] }) := by
  have habsent : state.cached.lookup key = none := AList.lookup_eq_none.mpr (h.disjoint key hkey)
  unfold IdempotencyState.complete
  rw [if_neg (not_not.mpr hkey)]
  cases cached with
  | none => rfl
  | some outcome =>
    dsimp only
    rw [habsent]
    rfl

theorem IdempotencyState.Consistent.release {state : IdempotencyState} (h : state.Consistent)
    (key : IdempotencyKey) : (state.release key).Consistent where
  disjoint := fun other hother => h.disjoint other (Finset.mem_of_mem_erase hother)
  order_nodup := h.order_nodup
  order_mem := h.order_mem
  capacity := by
    have hcard : (state.in_flight.erase key).card ≤ state.in_flight.card := Finset.card_erase_le
    have hcapacity := h.capacity
    unfold IdempotencyState.release
    show state.cached.keys.length + (state.in_flight.erase key).card ≤ maxIdempotencyResults
    omega

theorem IdempotencyState.Consistent.cache {state : IdempotencyState} (h : state.Consistent)
    {key : IdempotencyKey} (hkey : key ∈ state.in_flight) (outcome : CachedOutcome) :
    IdempotencyState.Consistent { state with
      in_flight := state.in_flight.erase key
      cached := state.cached.insert key outcome
      insertion_order := state.insertion_order ++ [key] } where
  disjoint := by
    intro other hother hcached
    rw [Finset.mem_erase] at hother
    rcases (AList.mem_insert _).mp hcached with rfl | hcached
    · exact hother.1 rfl
    · exact h.disjoint other hother.2 hcached
  order_nodup := by
    refine List.Nodup.append h.order_nodup (List.nodup_singleton key) ?_
    rw [List.disjoint_singleton]
    exact fun hmem => h.disjoint key hkey ((h.order_mem key).mp hmem)
  order_mem := by
    intro other
    rw [List.mem_append, List.mem_singleton, AList.mem_insert, h.order_mem other, or_comm]
  capacity := by
    have hcapacity := h.capacity
    have hpos : 0 < state.in_flight.card := Finset.card_pos.mpr ⟨key, hkey⟩
    have hentries := congrArg List.length (AList.entries_insert_of_notMem (b := outcome)
      (h.disjoint key hkey))
    have hkeys : ∀ cached : AList fun _ : IdempotencyKey => CachedOutcome,
        cached.keys.length = cached.entries.length := fun cached => List.length_map _
    show (state.cached.insert key outcome).keys.length + (state.in_flight.erase key).card ≤
      maxIdempotencyResults
    rw [hkeys, hentries, List.length_cons, ← hkeys, Finset.card_erase_of_mem hkey]
    omega

/-- Clearing the cache leaves the reservations. -/
theorem IdempotencyState.Consistent.clear {state : IdempotencyState} (h : state.Consistent)
    (vault_id : Option (Bytes 16)) :
    IdempotencyState.Consistent { state with
      cached := ∅, insertion_order := [], authenticated_vault_id := vault_id } where
  disjoint := fun _ _ => AList.notMem_empty _
  order_nodup := List.nodup_nil
  order_mem := by simp
  capacity := by
    have hcapacity := h.capacity
    show (∅ : AList fun _ : IdempotencyKey => CachedOutcome).keys.length +
      state.in_flight.card ≤ maxIdempotencyResults
    rw [AList.keys_empty, List.length_nil]
    omega

/-! ## The invariant -/

/-- The reserved keys are those of the calls under way, one call for each. -/
structure Owns (calls : ℕ → Call) (in_flight : Finset IdempotencyKey) : Prop where
  reserved : ∀ t key, (calls t).reserves = some key → key ∈ in_flight
  unique : ∀ t t' key, (calls t).reserves = some key → (calls t').reserves = some key → t = t'
  owned : ∀ key ∈ in_flight, ∃ t, (calls t).reserves = some key

namespace Owns

variable {calls : ℕ → Call} {in_flight : Finset IdempotencyKey} (h : Owns calls in_flight)
  {t : ℕ} {call : Call} {key : IdempotencyKey}
include h

/-- A call that moves on with the same reservation. -/
theorem keep (hcall : call.reserves = (calls t).reserves) :
    Owns (Function.update calls t call) in_flight := by
  have hsame : ∀ u, (Function.update calls t call u).reserves = (calls u).reserves := by
    intro u
    by_cases hu : u = t
    · rw [hu, Function.update_self, hcall]
    · rw [Function.update_of_ne hu]
  refine ⟨?_, ?_, ?_⟩
  · intro u key hu
    exact h.reserved u key (hsame u ▸ hu)
  · intro u u' key hu hu'
    exact h.unique u u' key (hsame u ▸ hu) (hsame u' ▸ hu')
  · intro key hkey
    obtain ⟨u, hu⟩ := h.owned key hkey
    exact ⟨u, (hsame u).trans hu⟩

/-- A call that takes a free key. -/
theorem take (hfree : key ∉ in_flight) (hnone : (calls t).reserves = none)
    (hcall : call.reserves = some key) :
    Owns (Function.update calls t call) (insert key in_flight) := by
  -- The key is new, so no other call has it.
  have hother : ∀ u, u ≠ t → (Function.update calls t call u).reserves = (calls u).reserves :=
    fun u hu => by rw [Function.update_of_ne hu]
  have hself : (Function.update calls t call t).reserves = some key := by
    rw [Function.update_self, hcall]
  have hnew : ∀ u, (Function.update calls t call u).reserves = some key → u = t := by
    intro u hu
    by_contra hne
    rw [hother u hne] at hu
    exact hfree (h.reserved u key hu)
  refine ⟨?_, ?_, ?_⟩
  · intro u other hu
    by_cases hne : u = t
    · rw [hne, hself, Option.some.injEq] at hu
      exact hu ▸ Finset.mem_insert_self _ _
    · rw [hother u hne] at hu
      exact Finset.mem_insert_of_mem (h.reserved u other hu)
  · intro u u' other hu hu'
    by_cases hkey : other = key
    · rw [hnew u (hkey ▸ hu), hnew u' (hkey ▸ hu')]
    · have hne : ∀ v, (Function.update calls t call v).reserves = some other → v ≠ t := by
        rintro v hv rfl
        rw [hself, Option.some.injEq] at hv
        exact hkey hv.symm
      rw [hother u (hne u hu)] at hu
      rw [hother u' (hne u' hu')] at hu'
      exact h.unique u u' other hu hu'
  · intro other hmem
    rcases Finset.mem_insert.mp hmem with rfl | hmem
    · exact ⟨t, hself⟩
    · obtain ⟨u, hu⟩ := h.owned other hmem
      have hne : u ≠ t := by
        rintro rfl
        rw [hnone] at hu
        cases hu
      exact ⟨u, (hother u hne).trans hu⟩

/-- A call that gives its key back. -/
theorem give (hsome : (calls t).reserves = some key) (hcall : call.reserves = none) :
    Owns (Function.update calls t call) (in_flight.erase key) := by
  have hother : ∀ u, u ≠ t → (Function.update calls t call u).reserves = (calls u).reserves :=
    fun u hu => by rw [Function.update_of_ne hu]
  have hne : ∀ u other, (Function.update calls t call u).reserves = some other → u ≠ t := by
    rintro u other hu rfl
    rw [Function.update_self, hcall] at hu
    cases hu
  refine ⟨?_, ?_, ?_⟩
  · intro u other hu
    have hut := hne u other hu
    rw [hother u hut] at hu
    refine Finset.mem_erase.mpr ⟨?_, h.reserved u other hu⟩
    rintro rfl
    exact hut (h.unique u t other hu hsome)
  · intro u u' other hu hu'
    have hut := hne u other hu
    have hut' := hne u' other hu'
    rw [hother u hut] at hu
    rw [hother u' hut'] at hu'
    exact h.unique u u' other hu hu'
  · intro other hmem
    rw [Finset.mem_erase] at hmem
    obtain ⟨u, hu⟩ := h.owned other hmem.2
    have hut : u ≠ t := by
      rintro rfl
      rw [hsome, Option.some.injEq] at hu
      exact hmem.1 hu.symm
    exact ⟨u, (hother u hut).trans hu⟩

end Owns

namespace IdempotencySystem

/-- What holds of every reachable system. -/
structure Inv (σ : IdempotencySystem) : Prop where
  consistent : σ.state.Consistent
  history : σ.state.insertion_order <:+ σ.completed
  owns : Owns σ.calls σ.state.in_flight

theorem inv_initial : Inv initial where
  consistent := ⟨by simp [initial, IdempotencyState.new], List.nodup_nil,
    by simp [initial, IdempotencyState.new], by simp [initial, IdempotencyState.new]⟩
  history := List.suffix_rfl
  owns := ⟨by simp [initial, Call.reserves], by simp [initial, Call.reserves],
    by simp [initial, IdempotencyState.new]⟩

/-- The first section of a call keeps the invariant. -/
theorem Inv.call {σ : IdempotencySystem} (h : Inv σ) {t : ℕ} {key : IdempotencyKey}
    {fingerprint : Bytes 32} (hidle : σ.calls t = .idle) {admission : Admission}
    {state : IdempotencyState} (hreserve : Reserves σ.state key fingerprint admission state)
    {call : Call} (hcall : call.reserves = if admission = .reserved then some key else none) :
    Inv ({ σ with state := state }.setCall t call) := by
  have hnone : (σ.calls t).reserves = none := by rw [hidle]; rfl
  refine ⟨hreserve.consistent h.consistent, ?_, ?_⟩
  · cases hreserve with
    | conflict | replay | busy | room => exact h.history
    | evict oldest rest _ _ horder =>
      have hhistory := h.history
      rw [horder] at hhistory
      exact (List.suffix_cons oldest rest).trans hhistory
  · cases hreserve with
    | conflict | replay | busy =>
      exact h.owns.keep (by rw [hcall, hnone]; rfl)
    | room _ hfree => exact h.owns.take hfree hnone (by rw [hcall]; rfl)
    | evict _ _ _ hfree => exact h.owns.take hfree hnone (by rw [hcall]; rfl)

/-- A call that returns at once leaves its thread idle. -/
theorem setCall_idle (σ : IdempotencySystem) {t : ℕ} (h : σ.calls t = .idle) :
    σ.setCall t .idle = σ := by
  unfold setCall
  rw [← h, Function.update_eq_self]

/-- A section keeps the invariant. -/
theorem Inv.step {σ σ' : IdempotencySystem} (h : Inv σ) (hstep : Step σ σ') : Inv σ' := by
  obtain ⟨label, result, hstep⟩ := hstep
  cases label with
  | call t key fingerprint =>
    simp only [IdempotencySystem.step] at hstep
    split at hstep
    · rename_i hidle
      have hreserve := σ.state.reserve_spec h.consistent key fingerprint
      split at hstep
      all_goals
        rename_i state heq
        rw [heq] at hreserve
        simp only [Option.some.injEq, Prod.mk.injEq] at hstep
        obtain ⟨rfl, -⟩ := hstep
      · rw [← setCall_idle { σ with state := state } hidle]
        exact h.call hidle hreserve rfl
      · rw [← setCall_idle { σ with state := state } hidle]
        exact h.call hidle hreserve rfl
      · exact h.call hidle hreserve rfl
      · exact h.call hidle hreserve rfl
    · cases hstep
  | reply t validate =>
    simp only [IdempotencySystem.step] at hstep
    split at hstep
    · rename_i cached heq
      simp only [Option.some.injEq, Prod.mk.injEq] at hstep
      obtain ⟨rfl, -⟩ := hstep
      exact ⟨h.consistent, h.history, h.owns.keep (by rw [heq]; rfl)⟩
    · cases hstep
  | finish t outcome =>
    simp only [IdempotencySystem.step] at hstep
    split at hstep
    · rename_i key fingerprint heq
      have hreserves : (σ.calls t).reserves = some key := by rw [heq]; rfl
      have hkey := h.owns.reserved t key hreserves
      rw [IdempotencyState.complete_eq h.consistent hkey] at hstep
      simp only [Option.some.injEq, Prod.mk.injEq] at hstep
      obtain ⟨rfl, -⟩ := hstep
      unfold ExecutionOutcome.toCached
      by_cases hcache : outcome.shouldCache
      · simp only [hcache, if_true]
        refine ⟨h.consistent.cache hkey _, ?_, h.owns.give hreserves rfl⟩
        obtain ⟨earlier, hearlier⟩ := h.history
        exact ⟨earlier, by rw [← hearlier, List.append_assoc]; rfl⟩
      · simp only [hcache, if_false, Bool.false_eq_true]
        exact ⟨h.consistent.release key, h.history, h.owns.give hreserves rfl⟩
    · cases hstep
  | fail t =>
    simp only [IdempotencySystem.step] at hstep
    split at hstep
    · rename_i key fingerprint heq
      simp only [Option.some.injEq, Prod.mk.injEq] at hstep
      obtain ⟨rfl, -⟩ := hstep
      exact ⟨h.consistent, h.history, h.owns.keep (by rw [heq]; rfl)⟩
    · cases hstep
  | drop t =>
    simp only [IdempotencySystem.step] at hstep
    split at hstep
    · rename_i key heq
      simp only [Option.some.injEq, Prod.mk.injEq] at hstep
      obtain ⟨rfl, -⟩ := hstep
      have hreserves : (σ.calls t).reserves = some key := by rw [heq]; rfl
      exact ⟨h.consistent.release key, h.history, h.owns.give hreserves rfl⟩
    · cases hstep
  | initializeVault vault_id =>
    simp only [IdempotencySystem.step, Option.some.injEq, Prod.mk.injEq] at hstep
    obtain ⟨rfl, -⟩ := hstep
    unfold IdempotencyState.initializeIdempotencyVault
    split
    · split_ifs <;> exact h
    · exact ⟨h.consistent.clear _, List.nil_suffix, h.owns⟩
  | bindVault vault_id =>
    simp only [IdempotencySystem.step, Option.some.injEq, Prod.mk.injEq] at hstep
    obtain ⟨rfl, -⟩ := hstep
    unfold IdempotencyState.bindAuthenticatedIdempotencyVault
    split_ifs
    · exact h
    · exact h
    · exact ⟨h.consistent.clear _, List.nil_suffix, h.owns⟩

theorem Reachable.inv {σ : IdempotencySystem} (h : Reachable σ) : Inv σ := by
  induction h with
  | refl => exact inv_initial
  | tail _ hstep ih => exact ih.step hstep

/-! ## At most once -/

/-- The step drops the outcome of the key to make room: another key is to be reserved, the cache is
full, and the outcome is the oldest. -/
def Evicts (σ : IdempotencySystem) (key : IdempotencyKey) : IdempotencyLabel → Prop
  | .call _ other _ => other ∉ σ.state.cached ∧ other ∉ σ.state.in_flight ∧
    σ.state.cached.keys.length + σ.state.in_flight.card = maxIdempotencyResults ∧
    σ.state.insertion_order.head? = some key
  | _ => False

/-- The step clears the cache for a vault that it was not bound to. -/
def Clears (σ : IdempotencySystem) : IdempotencyLabel → Prop
  | .initializeVault _ => σ.state.authenticated_vault_id = none
  | .bindVault vault_id =>
    σ.state.authenticated_vault_id ≠ some vault_id ∧ σ.state.in_flight = ∅
  | _ => False

/-- A step that neither evicts the key nor clears the cache. -/
def Keeps (key : IdempotencyKey) (σ σ' : IdempotencySystem) : Prop :=
  ∃ label result, σ.step label = some (σ', result) ∧ ¬σ.Evicts key label ∧ ¬σ.Clears label

/-- A cached outcome stays as it is through every step that does not evict it or clear the
cache. -/
theorem Inv.lookup_of_keeps {σ σ' : IdempotencySystem} (h : Inv σ) {key : IdempotencyKey}
    (hkeeps : Keeps key σ σ') {cached : CachedOutcome}
    (hcached : σ.state.cached.lookup key = some cached) :
    σ'.state.cached.lookup key = some cached := by
  obtain ⟨label, result, hstep, hevicts, hclears⟩ := hkeeps
  have hmem : key ∈ σ.state.cached := AList.lookup_isSome.mp (by rw [hcached]; rfl)
  cases label with
  | call t other fingerprint =>
    simp only [IdempotencySystem.step] at hstep
    split at hstep
    · have hreserve := σ.state.reserve_spec h.consistent other fingerprint
      have hstate : σ'.state = (σ.state.reserve other fingerprint).2 := by
        split at hstep
        all_goals
          rename_i state heq
          simp only [Option.some.injEq, Prod.mk.injEq] at hstep
          simp [← hstep.1, heq, setCall]
      rw [← hstate] at hreserve
      generalize (σ.state.reserve other fingerprint).1 = admission at hreserve
      generalize σ'.state = state at hreserve
      cases hreserve with
      | conflict | replay | busy | room => exact hcached
      | evict oldest rest habsent hfree horder hfull =>
        -- The oldest outcome goes, and it is not the key's.
        have hne : key ≠ oldest := by
          rintro rfl
          exact hevicts ⟨habsent, hfree, hfull, by rw [horder]; rfl⟩
        exact (AList.lookup_erase_ne hne).trans hcached
    · cases hstep
  | reply t validate =>
    simp only [IdempotencySystem.step] at hstep
    split at hstep
    · simp only [Option.some.injEq, Prod.mk.injEq] at hstep
      exact hstep.1 ▸ hcached
    · cases hstep
  | finish t outcome =>
    simp only [IdempotencySystem.step] at hstep
    split at hstep
    · rename_i other fingerprint heq
      have hother : other ∈ σ.state.in_flight := h.owns.reserved t other (by rw [heq]; rfl)
      have hne : key ≠ other := fun heq => h.consistent.disjoint other hother (heq ▸ hmem)
      rw [IdempotencyState.complete_eq h.consistent hother] at hstep
      simp only [Option.some.injEq, Prod.mk.injEq] at hstep
      rw [← hstep.1]
      cases outcome.toCached fingerprint with
      | none => exact hcached
      | some value => exact (AList.lookup_insert_ne hne).trans hcached
    · cases hstep
  | fail t =>
    simp only [IdempotencySystem.step] at hstep
    split at hstep
    · simp only [Option.some.injEq, Prod.mk.injEq] at hstep
      exact hstep.1 ▸ hcached
    · cases hstep
  | drop t =>
    simp only [IdempotencySystem.step] at hstep
    split at hstep
    · simp only [Option.some.injEq, Prod.mk.injEq] at hstep
      exact hstep.1 ▸ hcached
    · cases hstep
  | initializeVault vault_id =>
    simp only [IdempotencySystem.step, Option.some.injEq, Prod.mk.injEq] at hstep
    rw [← hstep.1]
    unfold IdempotencyState.initializeIdempotencyVault
    split
    · split_ifs <;> exact hcached
    · rename_i hnone
      exact absurd hnone hclears
  | bindVault vault_id =>
    simp only [IdempotencySystem.step, Option.some.injEq, Prod.mk.injEq] at hstep
    rw [← hstep.1]
    unfold IdempotencyState.bindAuthenticatedIdempotencyVault
    split_ifs with hsame hflight
    · exact hcached
    · exact hcached
    · exact absurd ⟨hsame, not_not.mp hflight⟩ hclears

/-- A key that has completed with a cacheable outcome is cached with it. -/
theorem Inv.lookup_of_finish {σ σ' : IdempotencySystem} (h : Inv σ) {t : ℕ} {key : IdempotencyKey}
    {fingerprint : Bytes 32} (hcall : σ.calls t = .executing key fingerprint)
    {outcome : ExecutionOutcome} (hcache : outcome.shouldCache)
    {result : Option (Except DispatchError ExecutionOutcome)}
    (hstep : σ.step (.finish t outcome) = some (σ', result)) :
    σ'.state.cached.lookup key =
        some ⟨fingerprint, outcome.error, outcome.retry, outcome.body⟩ ∧
      result = some (.ok outcome) := by
  have hkey : key ∈ σ.state.in_flight := h.owns.reserved t key (by rw [hcall]; rfl)
  simp only [IdempotencySystem.step, hcall, IdempotencyState.complete_eq h.consistent hkey,
    ExecutionOutcome.toCached, hcache, if_true, Option.some.injEq, Prod.mk.injEq] at hstep
  obtain ⟨rfl, rfl⟩ := hstep
  exact ⟨AList.lookup_insert _, rfl⟩

/-- A request whose key is cached runs nothing: it is refused when its fingerprint differs, and will
be answered with the cached outcome otherwise. -/
theorem step_call_of_cached {σ : IdempotencySystem} {t : ℕ} {key : IdempotencyKey}
    {fingerprint : Bytes 32} {cached : CachedOutcome} (hidle : σ.calls t = .idle)
    (hcached : σ.state.cached.lookup key = some cached) :
    σ.step (.call t key fingerprint) =
      if cached.request_fingerprint = fingerprint then
        some (σ.setCall t (.replaying cached), none)
      else some (σ, some (.ok .conflict)) := by
  simp only [IdempotencySystem.step, hidle, IdempotencyState.reserve, hcached]
  by_cases hsame : cached.request_fingerprint = fingerprint
  · simp [hsame]
  · simp [hsame]

end IdempotencySystem

open IdempotencySystem in
/-- Idempotent requests execute at most once. In every system that a run reaches:

* the collections are disjoint, the order lists the cached keys once each and in the order of their
  completion, and there are at most `MAX_IDEMPOTENCY_RESULTS` of them with the reservations;
* two calls that execute, or that have yet to drop their reservation, have different keys;
* when an execution returns a cacheable outcome, then until its key is evicted as the oldest or the
  cache is cleared for another vault, every request with the key runs no execution: it receives
  `Conflict` when its fingerprint differs, and otherwise the same error, retry and body, unless the
  replay check rejects it;
* a call whose execution has failed drops its reservation. -/
theorem execute_idempotent_at_most_once {σ : IdempotencySystem} (h : Reachable σ) :
    ((∀ key ∈ σ.state.in_flight, key ∉ σ.state.cached) ∧ σ.state.insertion_order.Nodup ∧
      (∀ key, key ∈ σ.state.insertion_order ↔ key ∈ σ.state.cached) ∧
      σ.state.insertion_order <:+ σ.completed ∧
      σ.state.cached.keys.length + σ.state.in_flight.card ≤ maxIdempotencyResults) ∧
    (∀ t t' key, (σ.calls t).reserves = some key → (σ.calls t').reserves = some key → t = t') ∧
    (∀ t key fingerprint outcome σ₁ result, σ.calls t = .executing key fingerprint →
      outcome.shouldCache → σ.step (.finish t outcome) = some (σ₁, result) →
        result = some (.ok outcome) ∧
        ∀ σ₂, Relation.ReflTransGen (Keeps key) σ₁ σ₂ →
          ∀ t' fingerprint', σ₂.calls t' = .idle →
            if fingerprint = fingerprint' then
              ∃ cached : CachedOutcome, cached.error = outcome.error ∧
                cached.retry = outcome.retry ∧ cached.body = outcome.body ∧
                σ₂.step (.call t' key fingerprint') =
                  some (σ₂.setCall t' (.replaying cached), none) ∧
                ∀ σ₃ : IdempotencySystem, σ₃.calls t' = .replaying cached →
                  ∀ validate_replay, σ₃.step (.reply t' validate_replay) =
                    some (σ₃.setCall t' .idle, some (validate_replay.map fun rejection =>
                      rejection.getD cached.replay))
            else σ₂.step (.call t' key fingerprint') = some (σ₂, some (.ok .conflict))) ∧
    (∀ t key fingerprint, σ.calls t = .executing key fingerprint →
      σ.step (.fail t) = some (σ.setCall t (.releasing key), none)) ∧
    (∀ t key, σ.calls t = .releasing key → ∃ σ', σ.step (.drop t) =
      some (σ', some (.error .internal)) ∧ key ∉ σ'.state.in_flight ∧ σ'.calls t = .idle) := by
  have hinv := h.inv
  refine ⟨⟨hinv.consistent.disjoint, hinv.consistent.order_nodup, hinv.consistent.order_mem,
    hinv.history, hinv.consistent.capacity⟩, hinv.owns.unique, ?_, ?_, ?_⟩
  · intro t key fingerprint outcome σ₁ result hcall hcache hstep
    obtain ⟨hlookup, hresult⟩ := hinv.lookup_of_finish hcall hcache hstep
    refine ⟨hresult, ?_⟩
    intro σ₂ hkept
    -- The outcome stays cached along the kept steps, which also keep the invariant.
    have hlast : Inv σ₂ ∧ σ₂.state.cached.lookup key =
        some ⟨fingerprint, outcome.error, outcome.retry, outcome.body⟩ := by
      induction hkept with
      | refl => exact ⟨hinv.step ⟨_, _, hstep⟩, hlookup⟩
      | tail _ hkeeps ih =>
        obtain ⟨hinv', hlookup'⟩ := ih
        obtain ⟨label, result', hlabel, -⟩ := id hkeeps
        exact ⟨hinv'.step ⟨label, result', hlabel⟩, hinv'.lookup_of_keeps hkeeps hlookup'⟩
    intro t' fingerprint' hidle
    rw [step_call_of_cached hidle hlast.2]
    split_ifs with hsame
    · refine ⟨_, rfl, rfl, rfl, rfl, ?_⟩
      intro σ₃ hreplaying validate_replay
      simp only [IdempotencySystem.step, hreplaying]
    · rfl
  · intro t key fingerprint hcall
    simp only [IdempotencySystem.step, hcall]
  · intro t key hcall
    refine ⟨{ σ with state := σ.state.release key }.setCall t .idle, ?_, ?_, ?_⟩
    · simp only [IdempotencySystem.step, hcall]
    · exact Finset.notMem_erase key _
    · exact Function.update_self _ _ _

open IdempotencySystem in
/-- A second request with the key of a completed one, and another body, is refused. -/
theorem execute_idempotent_at_most_once_sample :
    ∃ σ σ₁ : IdempotencySystem, Reachable σ ∧
      σ.calls 0 = .executing (Bytes.replicate 16 1) (Bytes.replicate 32 1) ∧
      σ.step (.finish 0 (.success .empty)) = some (σ₁, some (.ok (.success .empty))) ∧
      σ₁.step (.call 1 (Bytes.replicate 16 1) (Bytes.replicate 32 2)) =
        some (σ₁, some (.ok .conflict)) := by
  have hreach : Reachable ({ initial with
      state := { IdempotencyState.new with in_flight := {Bytes.replicate 16 1} } }.setCall 0
        (.executing (Bytes.replicate 16 1) (Bytes.replicate 32 1))) :=
    .single ⟨.call 0 (Bytes.replicate 16 1) (Bytes.replicate 32 1), none, rfl⟩
  obtain ⟨-, -, hcached, -⟩ := execute_idempotent_at_most_once hreach
  obtain ⟨-, hrequest⟩ := hcached 0 _ _ (.success .empty) _ _ rfl rfl rfl
  have hconflict := hrequest _ .refl 1 (Bytes.replicate 32 2) rfl
  rw [if_neg (by decide)] at hconflict
  exact ⟨_, _, hreach, rfl, rfl, hconflict⟩

end Librarian.Agent
