import Librarian.Core.Mutations
import Librarian.Protocol.Browser

/-!
# Outcomes of a request

What an operation hands to `finish_dispatch`. A response's body is modelled by what has been encoded
into it.
-/

namespace Librarian.Agent

open Librarian.Protocol Librarian.Core

/-- What the body of a response carries. -/
inductive Body
  | empty
  | status (state : AgentState) (unlock_epoch : ℕ)
  | accountId (id : RecordId)
  | account (account : WebsiteAccount)
  | accountSummaries (accounts : List WebsiteAccount) (next_offset : Option UInt32)
  | browserSelection (selection : Option BrowserSelection)
  | browserCredential (username password : String)
  | passkeyCredential (credential : PasskeyCredential)
  | passkeyAssertion (assertion : PasskeyAssertion)
  | passkeySummaries (passkeys : List PasskeySummary)
  deriving DecidableEq

/-- The result of executing one operation. -/
structure ExecutionOutcome where
  error : Option PublicErrorCode
  retry : RetryCategory
  body : Body
  replayed : Bool
  holds_lock_transition : Bool
  committed : Bool
  browser_generation : Option ℕ
  browser_deadline : Option ℕ
  deriving DecidableEq

namespace ExecutionOutcome

/-- `ExecutionOutcome::success`. -/
def success (body : Body) : ExecutionOutcome where
  error := none
  retry := .never
  body := body
  replayed := false
  holds_lock_transition := false
  committed := false
  browser_generation := none
  browser_deadline := none

/-- `ExecutionOutcome::failure`. -/
def failure (error : PublicErrorCode) (retry : RetryCategory) : ExecutionOutcome where
  error := some error
  retry := retry
  body := .empty
  replayed := false
  holds_lock_transition := false
  committed := false
  browser_generation := none
  browser_deadline := none

/-- `commit_point`: the outcome reports a durable change. -/
def commitPoint (outcome : ExecutionOutcome) : ExecutionOutcome := { outcome with committed := true }

/-- `hold_lock_transition`: the Lock's flag is released after the response. -/
def holdLockTransition (outcome : ExecutionOutcome) : ExecutionOutcome :=
  { outcome with holds_lock_transition := true }

def invalid : ExecutionOutcome := failure .invalidRequest .never
def locked : ExecutionOutcome := failure .locked .afterUnlock
def busy : ExecutionOutcome := failure .busy .backoff
def cancelled : ExecutionOutcome := failure .cancelled .never
def deadline : ExecutionOutcome := failure .deadlineExceeded .never
def failed : ExecutionOutcome := failure .operationFailed .never
def retryableFailure : ExecutionOutcome := failure .operationFailed .backoff
def conflict : ExecutionOutcome := failure .conflict .never
def notFound : ExecutionOutcome := failure .notFound .never

/-- `should_cache`. -/
def shouldCache (outcome : ExecutionOutcome) : Bool :=
  match outcome.error with
  | none => true
  | some .invalidRequest | some .notFound | some .conflict => true
  | some .operationFailed => outcome.retry = .never
  | some _ => false

end ExecutionOutcome

end Librarian.Agent
