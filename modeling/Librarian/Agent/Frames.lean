import Librarian.Agent.Runtime

/-!
# What the actions leave alone

The kinds of the actions, and for each part of the shared state which actions change it, and under
which mutex.
-/

namespace Librarian.Agent

open Librarian.Core Librarian.Protocol

/-- What an action is about. -/
inductive Kind
  /-- It reads, or it changes what no other request depends on. -/
  | plain
  /-- It works on the session, or it may end the authorization of requests. -/
  | secret
  /-- It makes a change of the vault durable. -/
  | write
  | lease
  /-- It reads or changes the registry of pending passkey creations. -/
  | creation
  /-- It changes the published state or stores a session. -/
  | lifecycle
  | admission
  | completion
  | cancellation
  deriving DecidableEq, Repr

/-- The kinds of the actions. -/
def Action.kind {P : Primitives} : Action P → Kind
  | .storeState _ | .compareExchangeState _ _ | .acquireActive .lock | .storeActive .lock _
  | .vaultStoreSession _ _ _ | .vaultInstall _ => .lifecycle
  | .setLockedUnlessShuttingDown | .incrementEpoch | .cancelAll | .vaultLock | .vaultRead _
  | .vaultPrepare _ | .vaultCommitRecordMutation _ _ | .accountsChanged => .secret
  | .commit _ _ => .write
  | .leaseTake _ | .leaseClaim _ | .leaseIssue _ _ => .lease
  | .pendingFindDisconnected | .pendingGet _ | .pendingInsert _ _ | .pendingRemove _ => .creation
  | .beginRequest _ _ _ _ | .acquireGlobal | .register _ | .cancelFlag _
  | .connectionIsCancelled _ => .admission
  | .connectionFinish _ | .releaseGlobal | .deregister _ | .leaseConsume _ | .writeResponse _ _ _ _
  | .writeRejection _ _ => .completion
  | .connect _ | .cancelRequest _ | .cancelConnection _ | .connectionCancel _ _
  | .connectionClose _ | .leaseRemove _ | .pendingDisconnect _ | .returned _ => .cancellation
  | _ => .plain

variable {P : Primitives}

/-- The epoch changes under the commit gate only. -/
theorem perform_epoch {a : Action P} (h : .commitGate ∉ a.guard) (o : Oracle) (s : Shared) :
    (perform a o s).2.epoch = s.epoch := by
  cases a <;> first
    | rfl
    | (dsimp only [perform, Shared.onConnection]; split <;> rfl)
    | (dsimp only [perform]; split_ifs <;> rfl)
    | (refine absurd ?_ h; simp [Action.guard])

/-- The Lock's flag is set under the commit gate only. -/
theorem perform_lockActive {a : Action P} (h : .commitGate ∉ a.guard) (o : Oracle) (s : Shared)
    (hlock : s.active .lock = false) : (perform a o s).2.active .lock = false := by
  cases a with
  | acquireActive flag =>
    have hflag : flag ≠ .lock := by
      rintro rfl
      simp [Action.guard] at h
    dsimp only [perform]
    split
    · exact hlock
    · exact (Function.update_of_ne hflag.symm _ _).trans hlock
  | storeActive flag active =>
    by_cases hflag : flag = .lock
    · subst hflag
      cases active with
      | false => simp [perform]
      | true => simp [Action.guard] at h
    · exact (Function.update_of_ne (Ne.symm hflag) _ _).trans hlock
  | _ => first
    | exact hlock
    | (dsimp only [perform, Shared.onConnection]; split <;> exact hlock)
    | (dsimp only [perform]; split_ifs <;> exact hlock)

/-- A request is cancelled under the commit gate only. -/
theorem perform_cancelled {a : Action P} (h : .commitGate ∉ a.guard) (o : Oracle) (s : Shared) :
    (perform a o s).2.cancelled = s.cancelled := by
  cases a <;> first
    | rfl
    | (dsimp only [perform, Shared.onConnection]; split <;> rfl)
    | (dsimp only [perform]; split_ifs <;> rfl)
    | (refine absurd ?_ h; simp [Action.guard])

/-- The generation of the accounts changes under the commit gate only. -/
theorem perform_accountsGeneration {a : Action P} (h : .commitGate ∉ a.guard) (o : Oracle)
    (s : Shared) : (perform a o s).2.accounts_generation = s.accounts_generation := by
  cases a <;> first
    | rfl
    | (dsimp only [perform, Shared.onConnection]; split <;> rfl)
    | (dsimp only [perform]; split_ifs <;> rfl)
    | (refine absurd ?_ h; simp [Action.guard])

/-- Only what is about admission, completion or cancellation changes a connection. -/
theorem perform_connections {a : Action P}
    (h : a.kind ≠ .admission ∧ a.kind ≠ .completion ∧ a.kind ≠ .cancellation) (o : Oracle)
    (s : Shared) : (perform a o s).2.connections = s.connections := by
  cases a <;> first
    | rfl
    | (dsimp only [perform]; split <;> rfl)
    | (dsimp only [perform]; split_ifs <;> rfl)
    | exact absurd rfl h.1
    | exact absurd rfl h.2.1
    | exact absurd rfl h.2.2

end Librarian.Agent
