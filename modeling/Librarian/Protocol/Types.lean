import Mathlib.Data.Prod.Lex
import Librarian.Lib.Bytes

/-!
# The protocol's enumerations

Limits on what a message may hold, protocol versions, the agent's states, the operations that a client may request, and the public
errors.
-/

namespace Librarian.Protocol

/-- `MAX_IN_FLIGHT_GLOBAL`. -/
def maxInFlightGlobal : ℕ := 32

/-- `MAX_CONNECTIONS`. -/
def maxConnections : ℕ := 8

/-- `MAX_PAYLOAD_BYTES`. -/
def maxPayloadBytes : ℕ := 65536

/-- `MAX_LIST_PAGE_SIZE`. -/
def maxListPageSize : ℕ := 100

/-- `MAX_MASTER_PASSWORD_BYTES`. -/
def maxMasterPasswordBytes : ℕ := 1024

/-- `MAX_SERVICE_NAME_BYTES`. -/
def maxServiceNameBytes : ℕ := 256

/-- `MAX_ORIGIN_BYTES`. -/
def maxOriginBytes : ℕ := 2048

/-- `MAX_USERNAME_BYTES`. -/
def maxUsernameBytes : ℕ := 1024

/-- `MAX_PASSWORD_BYTES`. -/
def maxPasswordBytes : ℕ := 16 * 1024

/-- `MAX_PASSKEY_ENCODED_REQUEST_BYTES`. -/
def maxPasskeyEncodedRequestBytes : ℕ := 48 * 1024

/-- `MAX_PASSKEY_SIGNATURE_BYTES`. -/
def maxPasskeySignatureBytes : ℕ := 2 * 1024

/-- `CTAP2_CBOR_REQUEST_TYPE`. -/
def ctap2CborRequestType : UInt8 := 1

/-- Bounded protocol-payload failure categories. -/
inductive ProtocolError
  | tooLarge
  | malformed
  | nonCanonical
  | unsupported
  | invariantViolation
  deriving DecidableEq, Repr

/-- A negotiated protocol version. -/
structure Version where
  major : UInt16
  minor : UInt16
  deriving DecidableEq, Repr

namespace Version

/-- A version as a pair of numbers, ordered lexicographically. -/
def sortKey (version : Version) : ℕ ×ₗ ℕ := toLex (version.major.toNat, version.minor.toNat)

theorem sortKey_injective : Function.Injective sortKey := by
  intro v w h
  have hpair : (v.major.toNat, v.minor.toNat) = (w.major.toNat, w.minor.toNat) := toLex.injective h
  rw [Prod.mk.injEq] at hpair
  obtain ⟨hmajor, hminor⟩ := hpair
  cases v
  cases w
  rw [Version.mk.injEq]
  exact ⟨UInt16.toNat_inj.mp hmajor, UInt16.toNat_inj.mp hminor⟩

/-- The derived order of the source: the major number first. -/
instance instLinearOrder : LinearOrder Version := LinearOrder.lift' sortKey sortKey_injective

end Version

/-- The agent's published state. -/
inductive AgentState
  | starting
  | noVault
  | locked
  | unlocking
  | unlocked
  | updating
  | shuttingDown
  deriving DecidableEq, Repr

/-- The closed set of operations. -/
inductive OperationCode
  | status
  | createVault
  | unlockMasterPassword
  | lock
  | listAccountSummaries
  | getAccount
  | addAccount
  | updateAccount
  | deleteAccount
  | enrollWindowsHello
  | removeWindowsHello
  | unlockWindowsHello
  | exactOriginMatches
  | getSelectedCredential
  | captureCredential
  | updateCredential
  | makePasskey
  | getPasskeyAssertion
  | deletePasskey
  | listPasskeysForAssertion
  | listPasskeys
  | rollbackPasskeyCreation
  | confirmPasskeyCreation
  deriving DecidableEq, Repr

/-- `requires_idempotency_key`. -/
def OperationCode.requiresIdempotencyKey : OperationCode → Bool
  | createVault | addAccount | updateAccount | deleteAccount | enrollWindowsHello
  | removeWindowsHello | captureCredential | updateCredential | makePasskey | getPasskeyAssertion
  | deletePasskey | rollbackPasskeyCreation | confirmPasskeyCreation => true
  | _ => false

/-- `requires_unlocked_epoch`. -/
def OperationCode.requiresUnlockedEpoch : OperationCode → Bool
  | listAccountSummaries | getAccount | addAccount | updateAccount | deleteAccount
  | enrollWindowsHello | removeWindowsHello | exactOriginMatches | getSelectedCredential
  | captureCredential | updateCredential | makePasskey | getPasskeyAssertion | deletePasskey
  | listPasskeysForAssertion | listPasskeys | rollbackPasskeyCreation
  | confirmPasskeyCreation => true
  | _ => false

/-- The errors that a response may name. -/
inductive PublicErrorCode
  | invalidRequest
  | unauthorizedOperation
  | locked
  | notFound
  | conflict
  | busy
  | cancelled
  | deadlineExceeded
  | agentUnavailable
  | incompatible
  | operationFailed
  deriving DecidableEq, Repr

/-- When a client may try again. -/
inductive RetryCategory
  | never
  | reconnect
  | afterUnlock
  | backoff
  deriving DecidableEq, Repr

end Librarian.Protocol
