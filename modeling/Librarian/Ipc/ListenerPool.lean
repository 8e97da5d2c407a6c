import Librarian.Lib.Runs
import Librarian.Protocol.Connection

/-!
# The listener pool

`ListenerPool` of the Windows transport: the agent keeps a fixed number of pipe instances listening,
hands one out with each connection it accepts, and takes it back when the connection is over. What
the kernel answers, and what the clock shows, is part of a call here.

Every instance is listening or handed out, whatever clients do, until one is lost
(`World.run_accounted`). Then the pool is cleared, and should stay so; but it takes back the
connections that were handed out before (`recycle_revives`). As long as none of them is taken back,
nothing is accepted any more (`listenerPool_accounting`).
-/

namespace Librarian.Ipc

open Protocol

/-- `TransportError`, as far as the pool returns it. -/
inductive TransportError
  | accessDenied
  | peerExited
  | timeout
  | resourceLimit
  | listenerLost
  | unavailable
  | internal
  deriving DecidableEq, Repr

/-- `PeerAuthorizationError`. -/
inductive PeerAuthorizationError
  | invalidPolicySet
  | noMatchingPolicy
  | ambiguousRole
  | processExited
  | wrongUser
  | wrongLogon
  | wrongSession
  | elevated
  | appContainer
  | wrongIntegrity
  | missingPackageIdentity
  | wrongPackage
  | wrongApplication
  | wrongImage
  deriving DecidableEq, Repr

/-- `map_peer_error`. -/
def mapPeerError : PeerAuthorizationError → TransportError
  | .invalidPolicySet => .internal
  | .processExited => .peerExited
  | _ => .accessDenied

/-- `ComponentRole`. -/
inductive ComponentRole
  | agent
  | desktop
  | nativeHost
  | passkeyProvider
  deriving DecidableEq, Repr

/-- The role of a client's component. -/
def ComponentRole.ofClient : ClientRole → ComponentRole
  | .desktop => .desktop
  | .nativeHost => .nativeHost
  | .passkeyProvider => .passkeyProvider

/-! ## The throttle -/

/-- An instant, in nanoseconds since the origin of the clock. -/
abbrev Instant : Type := ℕ

/-- The last instant. -/
def instantMax : Instant := 2 ^ 64 * 10 ^ 9 - 1

/-- `Instant::checked_add`, of a duration in nanoseconds. -/
def checkedAdd (now : Instant) (duration : ℕ) : Option Instant :=
  if now + duration ≤ instantMax then some (now + duration) else none

/-- `Instant::checked_duration_since`. -/
def checkedDurationSince (later earlier : Instant) : Option ℕ :=
  if earlier ≤ later then some (later - earlier) else none

/-- `AUTHENTICATION_BACKOFF_BASE`. -/
def authenticationBackoffBase : ℕ := 25 * 10 ^ 6

/-- `AUTHENTICATION_BACKOFF_MAXIMUM`. -/
def authenticationBackoffMaximum : ℕ := 10 ^ 9

structure AuthenticationThrottle where
  consecutiveFailures : ℕ := 0
  resumeAt : Option Instant := none
  deriving DecidableEq, Repr

namespace AuthenticationThrottle

def remainingDelay (now : Instant) (throttle : AuthenticationThrottle) : ℕ :=
  (throttle.resumeAt.bind fun resumeAt => checkedDurationSince resumeAt now).getD 0

/-- `wait_until_allowed`. The sleeps are left out. -/
def waitUntilAllowed (deadline now : Instant) (throttle : AuthenticationThrottle) :
    Except TransportError Unit :=
  if throttle.remainingDelay now = 0 then .ok ()
  else
    match checkedDurationSince deadline now with
    | none => .error .timeout
    | some remaining =>
      if throttle.remainingDelay now > remaining then .error .timeout else .ok ()

/-- How many failures `record_failure` counts. -/
def failures (throttle : AuthenticationThrottle) : ℕ :=
  min (throttle.consecutiveFailures + 1) (2 ^ 32 - 1)

def recordFailure (now : Instant) (throttle : AuthenticationThrottle) : AuthenticationThrottle where
  consecutiveFailures := throttle.failures
  resumeAt := checkedAdd now (min (authenticationBackoffBase * 2 ^ min (throttle.failures - 1) 31)
    authenticationBackoffMaximum)

def recordSuccess (_ : AuthenticationThrottle) : AuthenticationThrottle := {}

end AuthenticationThrottle

/-! ## The pool -/

/-- A handle of a pipe instance. -/
abbrev Handle : Type := ℕ

structure PipeConnection where
  pipe : Handle
  serverSide : Bool
  componentRole : ComponentRole
  deriving DecidableEq, Repr

/-- `lost` says that the pool has been cleared, which the code does not keep. -/
structure ListenerPool where
  listeners : List Handle
  authenticationThrottle : AuthenticationThrottle := {}
  lost : Bool := false
  deriving DecidableEq, Repr

/-- What an `accept` meets: the time that the caller allows, the readings of the clock in their
order, and the answers. -/
structure Accept where
  timeout : ℕ
  started : Instant
  throttled : Instant
  resumed : Instant
  /-- `accept_listener_pool`. -/
  selected : Except TransportError ℕ
  /-- `observe_pipe_peer`. -/
  peer : Except TransportError Unit
  /-- `authorize_client_role`. -/
  role : Except PeerAuthorizationError ClientRole
  alive : Bool
  /-- `DisconnectNamedPipe`. -/
  disconnects : Bool
  failed : Instant

/-- The deadline and the throttle. -/
def Accept.admitted (a : Accept) (throttle : AuthenticationThrottle) :
    Except TransportError Unit := do
  let deadline ← (checkedAdd a.started a.timeout).elim (.error .timeout) .ok
  throttle.waitUntilAllowed deadline a.throttled
  let _ ← (checkedDurationSince deadline a.resumed).elim (.error .timeout) .ok
  return ()

/-- `Vec::swap_remove`, within the bounds. -/
def swapRemove {α : Type} (list : List α) (index : ℕ) : Option (α × List α) :=
  match list[index]?, list.getLast? with
  | some removed, some last => some (removed, (list.set index last).dropLast)
  | _, _ => none

namespace ListenerPool

/-- `create`, with the answers of `CreateNamedPipeW`. -/
def create (created : ℕ → Option Handle) : Except TransportError ListenerPool :=
  match (List.range maxConnections).mapM created with
  | some listeners => .ok { listeners }
  | none => .error .listenerLost

def availableListeners (pool : ListenerPool) : ℕ := pool.listeners.length

/-- `listeners.clear`. -/
def clear (pool : ListenerPool) : ListenerPool := { pool with listeners := [], lost := true }

/-- The disconnected instance listens again, or the pool is cleared. -/
def recycleRejected (pipe : Handle) (disconnects : Bool) (pool : ListenerPool) :
    ListenerPool × Except TransportError Unit :=
  if disconnects then ({ pool with listeners := pool.listeners ++ [pipe] }, .ok ())
  else (pool.clear, .error .listenerLost)

/-- A client is turned away with an error, and the throttle hears of it. -/
def reject (pipe : Handle) (disconnects : Bool)
    (throttle : AuthenticationThrottle → AuthenticationThrottle) (error : TransportError)
    (pool : ListenerPool) : ListenerPool × Except TransportError PipeConnection :=
  match pool.recycleRejected pipe disconnects with
  | (pool, .error lost) => (pool, .error lost)
  | (pool, .ok ()) =>
    ({ pool with authenticationThrottle := throttle pool.authenticationThrottle }, .error error)

/-- The second half of `accept`, with the instance that has been taken out. -/
def authenticate (a : Accept) (pipe : Handle) (pool : ListenerPool) :
    ListenerPool × Except TransportError PipeConnection :=
  match a.peer with
  | .error error => pool.reject pipe a.disconnects (.recordFailure a.failed) error
  | .ok () =>
    match a.role.mapError mapPeerError with
    | .error error => pool.reject pipe a.disconnects (.recordFailure a.failed) error
    | .ok role =>
      if ¬a.alive then pool.reject pipe a.disconnects id .peerExited
      else
        ({ pool with authenticationThrottle := pool.authenticationThrottle.recordSuccess },
          .ok ⟨pipe, true, .ofClient role⟩)

def accept (a : Accept) (pool : ListenerPool) :
    ListenerPool × Except TransportError PipeConnection :=
  if pool.listeners.isEmpty then (pool, .error .resourceLimit)
  else
    match a.admitted pool.authenticationThrottle with
    | .error error => (pool, .error error)
    | .ok () =>
      match a.selected with
      | .error .timeout => (pool, .error .timeout)
      | .error _ => (pool.clear, .error .listenerLost)
      | .ok selected =>
        match swapRemove pool.listeners selected with
        | none => (pool.clear, .error .listenerLost)
        | some (pipe, listeners) => { pool with listeners }.authenticate a pipe

def recycle (connection : PipeConnection) (disconnects : Bool) (pool : ListenerPool) :
    ListenerPool × Except TransportError Unit :=
  if ¬connection.serverSide ∨ pool.listeners.length ≥ maxConnections then
    (pool, .error .listenerLost)
  else pool.recycleRejected connection.pipe disconnects

end ListenerPool

/-! ## Runs -/

/-- A pool and the connections that have been handed out and not been taken back. -/
structure World where
  pool : ListenerPool
  handedOut : List PipeConnection := []
  deriving DecidableEq, Repr

/-- The calls. A connection of the client's side may be given to `recycle` as well. -/
inductive Call
  | accept (a : Accept)
  | recycle (connection : PipeConnection) (disconnects : Bool)

namespace World

/-- The connection that an `accept` returns is handed out. -/
def handOut (handedOut : List PipeConnection) :
    ListenerPool × Except TransportError PipeConnection → World
  | (pool, .ok connection) => ⟨pool, connection :: handedOut⟩
  | (pool, .error _) => ⟨pool, handedOut⟩

def step (w : World) : Call → World
  | .accept a => handOut w.handedOut (w.pool.accept a)
  | .recycle connection disconnects =>
    ⟨(w.pool.recycle connection disconnects).1, w.handedOut.erase connection⟩

/-- A connection of the server's side has been handed out and not been taken back before. -/
def Owned (w : World) : Call → Prop
  | .accept _ => True
  | .recycle connection _ => connection.serverSide → connection ∈ w.handedOut

/-- Nothing is disconnected for a pool that has been cleared. -/
def Closed (w : World) : Call → Prop
  | .accept _ => True
  | .recycle connection disconnects => w.pool.lost → connection.serverSide → disconnects = false

end World

/-! ## What a call can do -/

/-- The last element takes the place of the one that is removed. -/
theorem swapRemove_perm {α : Type} {list rest : List α} {index : ℕ} {removed : α}
    (h : swapRemove list index = some (removed, rest)) : list.Perm (removed :: rest) := by
  unfold swapRemove at h
  split at h
  · rename_i removed' last hindex hlast
    obtain ⟨rfl, rfl⟩ := Prod.mk.inj (Option.some.inj h)
    obtain ⟨hlt, rfl⟩ := List.getElem?_eq_some_iff.mp hindex
    obtain ⟨front, rfl⟩ := List.getLast?_eq_some_iff.mp hlast
    rcases Nat.lt_or_ge index front.length with hfront | hend
    · rw [List.set_append_left _ _ hfront, List.dropLast_concat, List.getElem_append_left hfront,
        List.set_eq_take_append_cons_drop, if_pos hfront]
      have hsplit : front = front.take index ++ front[index] :: front.drop (index + 1) := by
        rw [List.getElem_cons_drop, List.take_append_drop]
      calc (front ++ [last]).Perm (last :: front) := List.perm_append_singleton last front
        _ = last :: (front.take index ++ front[index] :: front.drop (index + 1)) := by rw [← hsplit]
        _ |>.Perm (last :: front[index] :: (front.take index ++ front.drop (index + 1))) :=
          List.perm_middle.cons last
        _ |>.Perm (front[index] :: last :: (front.take index ++ front.drop (index + 1))) :=
          .swap _ _ _
        _ |>.Perm (front[index] :: (front.take index ++ last :: front.drop (index + 1))) :=
          List.perm_middle.symm.cons _
    · obtain rfl : index = front.length := by
        rw [List.length_append, List.length_singleton] at hlt
        omega
      simp [List.perm_append_singleton]
  · cases h

/-- What `accept` can do. -/
inductive Accepts (pool : ListenerPool) :
    ListenerPool × Except TransportError PipeConnection → Prop
  /-- An instance is lost. -/
  | lost (error : TransportError) (throttle : AuthenticationThrottle) :
      Accepts pool (⟨[], throttle, true⟩, .error error)
  /-- No connection, and the same instances. -/
  | kept (error : TransportError) (throttle : AuthenticationThrottle) (listeners : List Handle)
      (hperm : pool.listeners.Perm listeners) :
      Accepts pool (⟨listeners, throttle, pool.lost⟩, .error error)
  /-- A connection with an instance that was listening. -/
  | handed (connection : PipeConnection) (throttle : AuthenticationThrottle)
      (listeners : List Handle) (hserver : connection.serverSide)
      (hperm : pool.listeners.Perm (connection.pipe :: listeners)) :
      Accepts pool (⟨listeners, throttle, pool.lost⟩, .ok connection)

theorem accepts_reject {pool : ListenerPool} {pipe : Handle} {listeners : List Handle}
    (hperm : pool.listeners.Perm (pipe :: listeners)) (disconnects : Bool)
    (throttle : AuthenticationThrottle → AuthenticationThrottle) (error : TransportError) :
    Accepts pool ({ pool with listeners }.reject pipe disconnects throttle error) := by
  unfold ListenerPool.reject ListenerPool.recycleRejected
  cases disconnects with
  | false => exact .lost _ _
  | true => exact .kept error _ _ (hperm.trans (List.perm_append_singleton pipe listeners).symm)

theorem accepts_authenticate {pool : ListenerPool} {pipe : Handle} {listeners : List Handle}
    (hperm : pool.listeners.Perm (pipe :: listeners)) (a : Accept) :
    Accepts pool ({ pool with listeners }.authenticate a pipe) := by
  unfold ListenerPool.authenticate
  split
  · exact accepts_reject hperm _ _ _
  split
  · exact accepts_reject hperm _ _ _
  split
  · exact accepts_reject hperm _ _ _
  · exact .handed _ _ _ rfl hperm

theorem accepts_accept (a : Accept) (pool : ListenerPool) : Accepts pool (pool.accept a) := by
  have hsame (error : TransportError) : Accepts pool (pool, .error error) :=
    .kept error pool.authenticationThrottle pool.listeners (List.Perm.refl _)
  unfold ListenerPool.accept
  split_ifs
  · exact hsame .resourceLimit
  split
  · exact hsame _
  split
  · exact hsame .timeout
  · exact .lost _ _
  split
  · exact .lost _ _
  · rename_i pipe listeners hremove
    exact accepts_authenticate (swapRemove_perm hremove) a

/-! ## Accounting -/

namespace World

/-- The instances that listen or are handed out. -/
def instances (w : World) : List Handle := w.pool.listeners ++ w.handedOut.map PipeConnection.pipe

/-- Until one is lost, the instances are those that the pool was created with. -/
structure Accounted (created : List Handle) (w : World) : Prop where
  perm : w.pool.lost = false → w.instances.Perm created
  serverSide : ∀ connection ∈ w.handedOut, connection.serverSide

variable {created : List Handle} {w : World}

theorem Accounted.accept (h : Accounted created w)
    {result : ListenerPool × Except TransportError PipeConnection} (hresult : Accepts w.pool result) :
    Accounted created (handOut w.handedOut result) := by
  cases hresult with
  | lost error throttle => exact ⟨fun hlost => Bool.noConfusion hlost, h.serverSide⟩
  | kept error throttle listeners hperm =>
    refine ⟨fun hlost => ?_, h.serverSide⟩
    exact (hperm.symm.append_right _).trans (h.perm hlost)
  | handed connection throttle listeners hserver hperm =>
    refine ⟨fun hlost => ?_, List.forall_mem_cons.mpr ⟨hserver, h.serverSide⟩⟩
    have hmoved : (listeners ++ connection.pipe :: w.handedOut.map PipeConnection.pipe).Perm
        (connection.pipe :: listeners ++ w.handedOut.map PipeConnection.pipe) := List.perm_middle
    exact hmoved.trans ((hperm.symm.append_right _).trans (h.perm hlost))

/-- As long as connections are handed out, an instance is missing. -/
theorem Accounted.listeners_lt (h : Accounted created w) {connection : PipeConnection}
    (hmem : connection ∈ w.handedOut) (hlost : w.pool.lost = false) :
    w.pool.listeners.length < created.length := by
  have hlength := (h.perm hlost).length_eq
  rw [instances, List.length_append, List.length_map] at hlength
  have hpos := List.length_pos_of_mem hmem
  omega

theorem lost_of_recycle {pool : ListenerPool} {connection : PipeConnection} {disconnects : Bool}
    (h : (pool.recycle connection disconnects).1.lost = false) : pool.lost = false := by
  unfold ListenerPool.recycle ListenerPool.recycleRejected at h
  split_ifs at h
  · exact h
  · exact h
  · cases h

theorem Accounted.recycle (h : Accounted created w) (hcreated : created.length ≤ maxConnections)
    {connection : PipeConnection} (hmem : connection ∈ w.handedOut) (disconnects : Bool) :
    Accounted created (w.step (.recycle connection disconnects)) := by
  refine ⟨fun hlost => ?_, fun c hc => h.serverSide c (List.mem_of_mem_erase hc)⟩
  have hbefore : w.pool.lost = false := lost_of_recycle hlost
  have hfits : ¬(¬connection.serverSide ∨ w.pool.listeners.length ≥ maxConnections) := by
    have hlt := h.listeners_lt hmem hbefore
    have hserver := h.serverSide connection hmem
    simp only [hserver, not_true_eq_false, false_or]
    omega
  -- The instance goes from the connections to the listeners.
  have hmoved : (w.pool.listeners ++ [connection.pipe] ++
      (w.handedOut.erase connection).map PipeConnection.pipe).Perm w.instances := by
    rw [List.append_assoc]
    exact (((List.perm_cons_erase hmem).map PipeConnection.pipe).symm).append_left _
  have hserved : w.pool.recycle connection disconnects =
      w.pool.recycleRejected connection.pipe disconnects := if_neg hfits
  have hstep : w.step (.recycle connection disconnects) =
      ⟨(w.pool.recycleRejected connection.pipe disconnects).1, w.handedOut.erase connection⟩ := by
    rw [← hserved]
    rfl
  rw [hstep] at hlost ⊢
  cases disconnects with
  | false => cases hlost
  | true => exact hmoved.trans (h.perm hbefore)

theorem Accounted.step (h : Accounted created w) (hcreated : created.length ≤ maxConnections)
    (call : Call) (howned : Owned w call) : Accounted created (w.step call) := by
  cases call with
  | accept a => exact h.accept (accepts_accept a w.pool)
  | recycle connection disconnects =>
    cases hserver : connection.serverSide with
    | true => exact h.recycle hcreated (howned hserver) disconnects
    | false =>
      have hother : connection ∉ w.handedOut := fun hmem => by
        have hserver' := h.serverSide connection hmem
        rw [hserver] at hserver'
        cases hserver'
      have hsame : w.step (.recycle connection disconnects) = w := by
        simp only [World.step, ListenerPool.recycle, hserver, List.erase_of_not_mem hother,
          Bool.false_eq_true, not_false_eq_true, true_or, if_true]
      rw [hsame]
      exact h

theorem mapM_length {α β : Type} {f : α → Option β} {list : List α} {result : List β}
    (h : list.mapM f = some result) : result.length = list.length := by
  induction list generalizing result with
  | nil =>
    rw [List.mapM_nil] at h
    obtain rfl := Option.some.inj h
    rfl
  | cons a list ih =>
    rw [List.mapM_cons] at h
    obtain ⟨b, -, hrest⟩ := Option.bind_eq_some_iff.mp h
    obtain ⟨rest, hlist, heq⟩ := Option.bind_eq_some_iff.mp hrest
    obtain rfl := Option.some.inj heq
    rw [List.length_cons, List.length_cons, ih hlist]

/-- A new pool has all its instances. -/
theorem create_length {created : ℕ → Option Handle} {pool : ListenerPool}
    (h : ListenerPool.create created = .ok pool) :
    pool.lost = false ∧ pool.listeners.length = maxConnections := by
  unfold ListenerPool.create at h
  split at h
  · rename_i listeners hlisteners
    obtain rfl := Except.ok.inj h
    exact ⟨rfl, (mapM_length hlisteners).trans List.length_range⟩
  · cases h

theorem run_accounted {pool : ListenerPool} {calls : List Call}
    (hpool : pool.listeners.length ≤ maxConnections)
    (howned : Runs.Along step Owned ⟨pool, []⟩ calls) :
    Accounted pool.listeners (calls.foldl step ⟨pool, []⟩) := by
  have hstart : Accounted pool.listeners ⟨pool, []⟩ := by
    refine ⟨fun _ => ?_, fun _ hmem => absurd hmem List.not_mem_nil⟩
    rw [instances, List.map_nil, List.append_nil]
  exact howned.invariant hstart fun w call h howned => h.step hpool call howned

/-! ## After a loss -/

/-- A pool that has been cleared has no listeners. -/
def Emptied (w : World) : Prop := w.pool.lost → w.pool.listeners = []

theorem Emptied.accept (h : Emptied w)
    {result : ListenerPool × Except TransportError PipeConnection} (hresult : Accepts w.pool result) :
    Emptied (handOut w.handedOut result) := by
  cases hresult with
  | lost error throttle => exact fun _ => rfl
  | kept error throttle listeners hperm =>
    intro hlost
    have hnone : [] = w.pool.listeners := (h hlost).symm
    rw [← hnone] at hperm
    exact hperm.nil_eq.symm
  | handed connection throttle listeners hserver hperm =>
    intro hlost
    rw [h hlost] at hperm
    exact absurd hperm (List.not_perm_nil_cons _ _)

theorem Emptied.step (h : Emptied w) (call : Call) (hclosed : Closed w call) :
    Emptied (w.step call) := by
  cases call with
  | accept a => exact h.accept (accepts_accept a w.pool)
  | recycle connection disconnects =>
    have hcleared : (w.pool.recycle connection disconnects).1.lost →
        (w.pool.recycle connection disconnects).1.listeners = [] := by
      unfold ListenerPool.recycle ListenerPool.recycleRejected
      split
      · exact h
      rename_i hserved
      split
      · rename_i hdisconnects
        intro hlost
        have hserver : connection.serverSide := not_not.mp (not_or.mp hserved).1
        rw [hclosed hlost hserver] at hdisconnects
        cases hdisconnects
      · exact fun _ => rfl
    exact hcleared

end World

/-- A pool of listeners accounts for its instances until one is lost: the available ones and those
that are handed out are `MAX_CONNECTIONS` together. Once one is lost, and as long as no connection
is disconnected for the pool any more, it accepts nothing. -/
theorem listenerPool_accounting (created : ℕ → Option Handle) {pool : ListenerPool}
    (hcreate : ListenerPool.create created = .ok pool) (calls : List Call)
    (howned : Runs.Along World.step World.Owned ⟨pool, []⟩ calls) {w : World}
    (hw : calls.foldl World.step ⟨pool, []⟩ = w) :
    (w.pool.lost = false → w.pool.availableListeners + w.handedOut.length = maxConnections) ∧
      (Runs.Along World.step World.Closed ⟨pool, []⟩ calls → w.pool.lost →
        ∀ a, w.pool.accept a = (w.pool, .error .resourceLimit)) := by
  obtain ⟨hfresh, hlength⟩ := World.create_length hcreate
  refine ⟨fun hlost => ?_, fun hclosed hlost a => ?_⟩
  · have haccounted := World.run_accounted hlength.le howned
    rw [hw] at haccounted
    have hcount := (haccounted.perm hlost).length_eq
    rw [World.instances, List.length_append, List.length_map, hlength] at hcount
    exact hcount
  · have hstart : World.Emptied ⟨pool, []⟩ := fun hlost => by
      rw [hfresh] at hlost
      cases hlost
    have hemptied : World.Emptied w :=
      hw ▸ hclosed.invariant hstart fun w call h hclosed => h.step call hclosed
    have hnone : w.pool.listeners = [] := hemptied hlost
    unfold ListenerPool.accept
    rw [hnone]
    rfl

/-- A client of the desktop's, at once. -/
def desktopClient : Accept where
  timeout := 1000
  started := 0
  throttled := 0
  resumed := 0
  selected := .ok 0
  peer := .ok ()
  role := .ok .desktop
  alive := true
  disconnects := true
  failed := 0

/-- A client is served, another one turns out to have exited, and the first one's instance cannot be
disconnected. -/
def losingRun : List Call :=
  [.accept desktopClient, .accept { desktopClient with alive := false },
    .recycle ⟨0, true, .desktop⟩ false]

theorem listenerPool_accounting_losing :
    let w := losingRun.foldl World.step ⟨⟨List.range 8, {}, false⟩, []⟩
    w.pool.accept desktopClient = (w.pool, .error .resourceLimit) := by
  have howned : Runs.Along World.step World.Owned ⟨⟨List.range 8, {}, false⟩, []⟩ losingRun := by
    refine ⟨trivial, trivial, fun _ => ?_, trivial⟩
    decide
  have hclosed : Runs.Along World.step World.Closed ⟨⟨List.range 8, {}, false⟩, []⟩ losingRun :=
    ⟨trivial, trivial, fun _ _ => rfl, trivial⟩
  exact (listenerPool_accounting some rfl losingRun howned rfl).2 hclosed rfl
    desktopClient

/-- A client is served, the next accept loses an instance, and the first connection is taken
back. -/
def revivingRun : List Call :=
  [.accept desktopClient, .accept { desktopClient with selected := .error .listenerLost },
    .recycle ⟨0, true, .desktop⟩ true]

/-- The pool has been cleared, and it accepts a connection again. -/
theorem recycle_revives :
    ListenerPool.create some = .ok ⟨List.range 8, {}, false⟩ ∧
      Runs.Along World.step World.Owned ⟨⟨List.range 8, {}, false⟩, []⟩ revivingRun ∧
      (revivingRun.foldl World.step ⟨⟨List.range 8, {}, false⟩, []⟩).pool.lost ∧
      ((revivingRun.foldl World.step ⟨⟨List.range 8, {}, false⟩, []⟩).pool.accept desktopClient).2 =
        .ok ⟨0, true, .desktop⟩ := by
  refine ⟨rfl, ⟨trivial, trivial, fun _ => ?_, trivial⟩, ?_, ?_⟩
  all_goals decide

end Librarian.Ipc
