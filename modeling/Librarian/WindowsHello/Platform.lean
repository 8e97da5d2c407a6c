import Librarian.Agent.WindowsHello
import Librarian.Lib.Conc.Program
import Librarian.WindowsHello.Validation

/-!
# Windows, as the client of Windows Hello sees it

What `client.cpp` calls and what it shares. Windows keeps the credentials and draws the ids by which
a ceremony can be cancelled; the client keeps a map from its own operation ids to these, under a
mutex. Whether a call succeeds and what it answers is up to Windows, but a call that fails changes
nothing, and an id that has been given out is not given out again.
-/

namespace Librarian.WindowsHello

open Conc
open Librarian.Agent (WindowsHelloEnrollment WindowsHelloProviderError)

/-- The agent's name of a ceremony. -/
abbrev OperationId : Type := Bytes 16

/-- Windows' name of a ceremony. -/
abbrev Guid : Type := Bytes 16

abbrev HResult : Type := UInt32

/-- `FAILED`. -/
def failed (result : HResult) : Bool := decide (0x80000000 ≤ result)

/-- `E_FAIL`. -/
def unspecifiedFailure : HResult := 0x80004005

/-- What a creation is asked with. The names of the relying party and of the user, the algorithm and
the options are the same for all. -/
structure MakeCredentialRequest where
  parent : ℕ
  user_identifier : Bytes 32
  client_data : List UInt8
  salt : Bytes 32
  cancellation_id : Guid
  deriving DecidableEq

/-- What an assertion is asked with. -/
structure GetAssertionRequest where
  parent : ℕ
  client_data : List UInt8
  credential_id : List UInt8
  salt : Bytes 32
  cancellation_id : Guid
  deriving DecidableEq

/-- The calls of the provider, with the operation or the credential that they are for. -/
inductive Call
  | enroll (operation_id : OperationId)
  | evaluate (operation_id : OperationId) (credential_id : List UInt8) (prf_salt : Bytes 32)
  | cancel (operation_id : OperationId)
  | remove (credential_id : List UInt8)
  deriving DecidableEq

/-- The operation id of a ceremony. -/
def Call.ceremony : Call → Option OperationId
  | enroll operation_id | evaluate operation_id _ _ => some operation_id
  | cancel _ | remove _ => none

/-- What the calls return. -/
inductive Outcome
  | enrolled (result : Except WindowsHelloProviderError WindowsHelloEnrollment)
  | evaluated (result : Except WindowsHelloProviderError (Bytes 32))
  | cancelled
  | removed (result : Except WindowsHelloProviderError Unit)

/-- What Windows keeps, and the map of the client. -/
structure Platform where
  credentials : List UInt8 → Bool
  /-- The ids that credentials have or have had. -/
  issued : List UInt8 → Bool
  /-- The cancellation ids that have been drawn. -/
  drawn : Guid → Bool
  cancellation_ids : OperationId → Option Guid

/-- Some credentials exist, and no ceremony has begun. -/
def Platform.start (held : List UInt8 → Bool) : Platform :=
  ⟨held, held, fun _ => false, fun _ => none⟩

/-- What Windows answers. -/
structure Answers where
  result : HResult := 0
  version : UInt32 := 8
  holds : Bool := true
  process_id : UInt32 := 0
  random : Option (Bytes 32) := none
  guid : Guid := Bytes.replicate 16 0
  attestation : Option AttestationView := none
  assertion : Option AssertionView := none

/-- The mutex of the map. -/
inductive Mutex
  | cancellation
  deriving DecidableEq

instance : Fintype Mutex := ⟨{.cancellation}, fun | .cancellation => Finset.mem_singleton_self _⟩

/-- The atomic actions. -/
inductive Action
  /-- A call begins. -/
  | began (call : Call)
  /-- What a call returns is settled. -/
  | returned (outcome : Outcome)
  /-- `IsWindow`. -/
  | isWindow (window : ℕ)
  /-- `GetWindowThreadProcessId`. -/
  | windowProcessId (window : ℕ)
  /-- `WebAuthNGetApiVersionNumber`. -/
  | apiVersionNumber
  /-- `WebAuthNIsUserVerifyingPlatformAuthenticatorAvailable`. -/
  | platformAuthenticatorAvailable
  /-- `BCryptGenRandom`, of 32 bytes. -/
  | randomBytes
  /-- The hash of the relying party can be computed. -/
  | hashes
  /-- `WebAuthNGetCancellationId`. -/
  | getCancellationId
  | emplace (operation_id : OperationId) (guid : Guid)
  | find (operation_id : OperationId)
  /-- Erases an entry that has this cancellation id. -/
  | eraseSame (operation_id : OperationId) (guid : Guid)
  /-- `WebAuthNAuthenticatorMakeCredential`. -/
  | makeCredential (request : MakeCredentialRequest)
  /-- `WebAuthNAuthenticatorGetAssertion`. -/
  | getAssertion (request : GetAssertionRequest)
  /-- `WebAuthNDeletePlatformCredential`. -/
  | deleteCredential (credential_id : List UInt8)
  /-- `WebAuthNCancelCurrentOperation`. -/
  | cancelCurrentOperation (cancellation_id : Guid)

/-- The results of the actions. -/
abbrev Action.Result : Action → Type
  | .isWindow _ | .hashes | .emplace _ _ => Bool
  | .windowProcessId _ => Option UInt32
  | .apiVersionNumber => UInt32
  | .platformAuthenticatorAvailable => HResult × Bool
  | .randomBytes => Option (Bytes 32)
  | .getCancellationId => HResult × Guid
  | .find _ => Option Guid
  | .makeCredential _ => HResult × Option AttestationView
  | .getAssertion _ => HResult × Option AssertionView
  | .deleteCredential _ | .cancelCurrentOperation _ => HResult
  | _ => Unit

namespace Platform

/-- A credential is made. -/
def issue (p : Platform) (credential_id : List UInt8) : Platform :=
  { p with
    credentials := Function.update p.credentials credential_id true
    issued := Function.update p.issued credential_id true }

/-- A credential is deleted. -/
def delete (p : Platform) (credential_id : List UInt8) : Platform :=
  { p with credentials := Function.update p.credentials credential_id false }

/-- A cancellation id is drawn. -/
def draw (p : Platform) (guid : Guid) : Platform :=
  { p with drawn := Function.update p.drawn guid true }

/-- An entry of the map is set. -/
def register (p : Platform) (operation_id : OperationId) (entry : Option Guid) : Platform :=
  { p with cancellation_ids := Function.update p.cancellation_ids operation_id entry }

end Platform

/-- What each action does. -/
def perform (action : Action) (o : Answers) (p : Platform) : action.Result × Platform :=
  match action with
  | .began _ | .returned _ => ((), p)
  | .isWindow _ | .hashes => (o.holds, p)
  | .windowProcessId _ => (if o.holds then some o.process_id else none, p)
  | .apiVersionNumber => (o.version, p)
  | .platformAuthenticatorAvailable => ((o.result, o.holds), p)
  | .randomBytes => (o.random, p)
  | .getCancellationId =>
    if failed o.result then ((o.result, o.guid), p)
    else if p.drawn o.guid then ((unspecifiedFailure, o.guid), p)
    else ((o.result, o.guid), p.draw o.guid)
  | .emplace operation_id guid =>
    match p.cancellation_ids operation_id with
    | some _ => (false, p)
    | none => (true, p.register operation_id (some guid))
  | .find operation_id => (p.cancellation_ids operation_id, p)
  | .eraseSame operation_id guid =>
    ((), if p.cancellation_ids operation_id = some guid then p.register operation_id none else p)
  | .makeCredential _ =>
    match o.attestation with
    | none => ((o.result, none), p)
    | some value =>
      -- What has no id is nothing that could be deleted, or used.
      if failed o.result ∨ value.credential_id = [] then ((o.result, some value), p)
      else if p.issued value.credential_id then ((unspecifiedFailure, none), p)
      else ((o.result, some value), p.issue value.credential_id)
  | .getAssertion _ => ((o.result, o.assertion), p)
  | .deleteCredential credential_id =>
    (o.result, if failed o.result then p else p.delete credential_id)
  | .cancelCurrentOperation _ => (o.result, p)

/-- The client and Windows. -/
abbrev machine : Machine where
  State := Platform
  Oracle := Answers
  Mutex := Mutex
  Action := ULift Action
  Result a := a.down.Result
  perform a := perform a.down

/-- One action. -/
abbrev act (a : Action) : Prog machine a.Result := Prog.act (M := machine) ⟨a⟩

/-- Runs a part while it holds the mutex of the map. -/
abbrev withCancellationLock {α : Type} (p : Prog machine α) : Prog machine α :=
  .withLock (M := machine) Mutex.cancellation p

end Librarian.WindowsHello
