import Mathlib.Data.Finset.Card
import Librarian.Protocol.Browser

/-!
# Requests and the state of a connection

The server side of one authenticated connection: which request ids it has issued, which requests are
in flight, and which of these have been cancelled. Each operation runs under the connection's own
mutex, so it is one function on the state.
-/

namespace Librarian.Protocol

/-- Role derived from authenticated process and package identity. -/
inductive ClientRole
  | desktop
  | nativeHost
  | passkeyProvider
  deriving DecidableEq, Repr

/-- `FEATURE_WINDOWS_HELLO`. -/
def featureWindowsHello : UInt16 := 1

/-- `FEATURE_PASSKEY_PROVIDER`. -/
def featurePasskeyProvider : UInt16 := 2

/-- `FEATURE_BROWSER_FILL`. -/
def featureBrowserFill : UInt16 := 3

namespace OperationCode

/-- The code on the wire, which the idempotency fingerprint covers. -/
def code : OperationCode → ℕ
  | status => 1
  | createVault => 2
  | unlockMasterPassword => 3
  | lock => 4
  | listAccountSummaries => 5
  | getAccount => 6
  | addAccount => 7
  | updateAccount => 8
  | deleteAccount => 9
  | enrollWindowsHello => 10
  | removeWindowsHello => 11
  | unlockWindowsHello => 12
  | exactOriginMatches => 20
  | getSelectedCredential => 21
  | captureCredential => 22
  | updateCredential => 23
  | makePasskey => 30
  | getPasskeyAssertion => 31
  | deletePasskey => 32
  | listPasskeysForAssertion => 33
  | listPasskeys => 34
  | rollbackPasskeyCreation => 35
  | confirmPasskeyCreation => 36

/-- `is_authorized_for`. -/
def isAuthorizedFor (operation : OperationCode) : ClientRole → Bool
  | .desktop =>
    operation ∈ [status, createVault, unlockMasterPassword, lock, listAccountSummaries, getAccount,
      addAccount, updateAccount, deleteAccount, enrollWindowsHello, removeWindowsHello,
      unlockWindowsHello, deletePasskey, listPasskeys]
  | .nativeHost =>
    operation ∈ [status, exactOriginMatches, getSelectedCredential, captureCredential,
      updateCredential]
  | .passkeyProvider =>
    operation ∈ [status, makePasskey, getPasskeyAssertion, listPasskeysForAssertion,
      rollbackPasskeyCreation, confirmPasskeyCreation]

/-- `required_feature`. -/
def requiredFeature : OperationCode → Option UInt16
  | exactOriginMatches | getSelectedCredential => some featureBrowserFill
  | enrollWindowsHello | removeWindowsHello | unlockWindowsHello => some featureWindowsHello
  | makePasskey | getPasskeyAssertion | deletePasskey | listPasskeysForAssertion | listPasskeys
  | rollbackPasskeyCreation | confirmPasskeyCreation => some featurePasskeyProvider
  | _ => none

/-- `effective_timeout`, in milliseconds. -/
def effectiveTimeout (operation : OperationCode) (requested : ℕ) : ℕ :=
  min requested <|
    match operation with
    | createVault | unlockMasterPassword | lock => 30000
    | makePasskey | getPasskeyAssertion | deletePasskey | rollbackPasskeyCreation
    | confirmPasskeyCreation | listPasskeysForAssertion | enrollWindowsHello | unlockWindowsHello
    | removeWindowsHello => 120000
    | _ => 5000

end OperationCode

/-! ## Requests -/

/-- Validated secret-bearing website-account fields. -/
structure AccountFields where
  service_name : String
  permitted_origin : String
  username : String
  password : String
  bounded : ¬(service_name.utf8ByteSize > maxServiceNameBytes ∨
    permitted_origin.utf8ByteSize > maxOriginBytes ∨ username.utf8ByteSize > maxUsernameBytes ∨
    password.utf8ByteSize > maxPasswordBytes)
  deriving DecidableEq

/-- `AccountFields::new`. -/
def AccountFields.new (service_name permitted_origin username password : String) :
    Except ProtocolError AccountFields :=
  if h : service_name.utf8ByteSize > maxServiceNameBytes ∨
      permitted_origin.utf8ByteSize > maxOriginBytes ∨ username.utf8ByteSize > maxUsernameBytes ∨
      password.utf8ByteSize > maxPasswordBytes then .error .tooLarge
  else .ok ⟨service_name, permitted_origin, username, password, h⟩

/-- A request that Windows has signed. -/
structure PasskeyRequestProof where
  transaction_id : Bytes 16
  request_type : UInt8
  request_signature : List UInt8
  encoded_request : List UInt8
  accepted : ¬(transaction_id.isZero ∨ request_type ≠ ctap2CborRequestType ∨
    request_signature = [] ∨ encoded_request = [])
  bounded : ¬(request_signature.length > maxPasskeySignatureBytes ∨
    encoded_request.length > maxPasskeyEncodedRequestBytes)
  deriving DecidableEq

/-- `PasskeyRequestProof::new`. -/
def PasskeyRequestProof.new (transaction_id : Bytes 16) (request_type : UInt8)
    (request_signature encoded_request : List UInt8) : Except ProtocolError PasskeyRequestProof :=
  if h : transaction_id.isZero ∨ request_type ≠ ctap2CborRequestType ∨ request_signature = [] ∨
      encoded_request = [] then .error .invariantViolation
  else if h' : request_signature.length > maxPasskeySignatureBytes ∨
      encoded_request.length > maxPasskeyEncodedRequestBytes then .error .tooLarge
  else .ok ⟨transaction_id, request_type, request_signature, encoded_request, h, h'⟩

/-- A signed request with the proof of a user verification. -/
structure PasskeyTransactionProof where
  request : PasskeyRequestProof
  agent_challenge : Bytes 16
  user_verification_signature : List UInt8
  accepted : ¬(agent_challenge.isZero ∨ user_verification_signature = [])
  bounded : ¬user_verification_signature.length > maxPasskeySignatureBytes
  deriving DecidableEq

/-- `PasskeyTransactionProof::new`. -/
def PasskeyTransactionProof.new (transaction_id : Bytes 16) (request_type : UInt8)
    (request_signature encoded_request : List UInt8) (agent_challenge : Bytes 16)
    (user_verification_signature : List UInt8) : Except ProtocolError PasskeyTransactionProof :=
  if h : agent_challenge.isZero ∨ user_verification_signature = [] then .error .invariantViolation
  else if h' : user_verification_signature.length > maxPasskeySignatureBytes then .error .tooLarge
  else do
    let request ← PasskeyRequestProof.new transaction_id request_type request_signature
      encoded_request
    return ⟨request, agent_challenge, user_verification_signature, h, h'⟩

/-- A decoded request. -/
inductive OperationRequest
  | status
  | exactOriginMatches (context : BrowserContext)
  | getSelectedCredential (context : BrowserContext) (selection : BrowserSelection)
  | createVault (master_password : String)
  | unlockMasterPassword (master_password : String)
  | lock
  | listAccountSummaries (offset : UInt32) (limit : UInt16)
  | getAccount (id : Bytes 16)
  | addAccount (fields : AccountFields)
  | updateAccount (id : Bytes 16) (fields : AccountFields)
  | deleteAccount (id : Bytes 16)
  | enrollWindowsHello (parent_window : UInt64)
  | unlockWindowsHello (parent_window : UInt64)
  | removeWindowsHello
  | makePasskey (proof : PasskeyTransactionProof)
  | getPasskeyAssertion (proof : PasskeyTransactionProof) (credential_id : Bytes 32)
  | deletePasskey (credential_id : Bytes 32)
  | listPasskeysForAssertion (proof : PasskeyRequestProof)
  | listPasskeys
  | confirmPasskeyCreation (proof : PasskeyTransactionProof) (credential_id : Bytes 32)
  | rollbackPasskeyCreation (proof : PasskeyTransactionProof) (credential_id : Bytes 32)
  deriving DecidableEq

/-- `OperationRequest::operation`. -/
def OperationRequest.operation : OperationRequest → OperationCode
  | status => .status
  | exactOriginMatches _ => .exactOriginMatches
  | getSelectedCredential _ _ => .getSelectedCredential
  | createVault _ => .createVault
  | unlockMasterPassword _ => .unlockMasterPassword
  | lock => .lock
  | listAccountSummaries _ _ => .listAccountSummaries
  | getAccount _ => .getAccount
  | addAccount _ => .addAccount
  | updateAccount _ _ => .updateAccount
  | deleteAccount _ => .deleteAccount
  | enrollWindowsHello _ => .enrollWindowsHello
  | unlockWindowsHello _ => .unlockWindowsHello
  | removeWindowsHello => .removeWindowsHello
  | makePasskey _ => .makePasskey
  | getPasskeyAssertion _ _ => .getPasskeyAssertion
  | deletePasskey _ => .deletePasskey
  | listPasskeysForAssertion _ => .listPasskeysForAssertion
  | listPasskeys => .listPasskeys
  | confirmPasskeyCreation _ _ => .confirmPasskeyCreation
  | rollbackPasskeyCreation _ _ => .rollbackPasskeyCreation

/-- `passkey_proof`. -/
def OperationRequest.passkeyProof : OperationRequest → Option PasskeyTransactionProof
  | makePasskey proof | getPasskeyAssertion proof _ | confirmPasskeyCreation proof _
  | rollbackPasskeyCreation proof _ => some proof
  | _ => none

/-- Why a body is no request: an operation that this version lacks, or a malformed body. -/
inductive DecodeError
  | unsupported
  | invalid
  deriving DecidableEq, Repr

/-- A request envelope. The decoder of its body is not modelled; what it makes of the body is part of
the envelope, and is a request for the envelope's operation. -/
structure RequestEnvelope where
  operation : OperationCode
  unlock_epoch : ℕ
  timeout_ms : ℕ
  idempotency_key : Option (Bytes 16)
  body : List UInt8
  decoded : Except DecodeError OperationRequest
  decoded_operation : ∀ request, decoded = .ok request → request.operation = operation

/-- The kinds of frames. -/
inductive MessageKind
  | clientHello
  | serverHello
  | request
  | response
  | cancel
  | event
  deriving DecidableEq, Repr

/-- The header of a frame. -/
structure FrameHeader where
  kind : MessageKind
  version : Version
  payload_length : ℕ
  connection_id : Bytes 16
  request_id : ℕ
  deriving DecidableEq

/-! ## Connections -/

/-- `MAX_REQUESTS_PER_CONNECTION`. -/
def maxRequestsPerConnection : ℕ := 65536

/-- Handshake or connection-fatal validation failures. -/
inductive ConnectionError
  | invalidLimit
  | identityClaimMismatch
  | buildMismatch
  | incompatibleVersion
  | unsupportedFeature
  | invalidRandomValue
  | invalidFrame
  | wrongDirection
  | connectionClosed
  | requestLimit
  | invalidCancel
  deriving DecidableEq, Repr

/-- Why a request is not admitted. -/
inductive BeginRequestError
  | connection (error : ConnectionError)
  | unauthorized
  | busy (effective_timeout_ms : ℕ)
  | staleEpoch
  | missingIdempotencyKey
  deriving DecidableEq, Repr

/-- How a request stood when it was completed. -/
inductive RequestCompletion
  | active
  | cancelled
  deriving DecidableEq, Repr

/-- One admitted request. -/
structure RequestPermit where
  request_id : ℕ
  operation : OperationCode
  unlock_epoch : ℕ
  effective_timeout_ms : ℕ
  deriving DecidableEq

/-- What the handshake has fixed of a connection. -/
structure Connection where
  role : ClientRole
  version : Version
  authenticated_process_id : ℕ
  granted_features : List UInt16
  connection_id : Bytes 16
  maximum_payload_bytes : ℕ
  maximum_in_flight : ℕ
  deriving DecidableEq

/-- What the connection's mutex protects. The map from the ids in flight to their states is given by
its keys and by those keys that are cancelled. -/
structure ConnectionState where
  last_request_id : ℕ
  issued_request_ids : Finset ℕ
  in_flight : Finset ℕ
  cancelled : Finset ℕ
  cancelled_subset : cancelled ⊆ in_flight
  closed : Bool

namespace ConnectionState

/-- The state after the handshake. -/
def new : ConnectionState where
  last_request_id := 0
  issued_request_ids := ∅
  in_flight := ∅
  cancelled := ∅
  cancelled_subset := Finset.Subset.refl _
  closed := false

/-- The connection after a fatal error. -/
def fail (state : ConnectionState) : ConnectionState := { state with closed := true }

variable (connection : Connection) (header : FrameHeader)

/-- `validate_common_header`. -/
def validateCommonHeader (expected_kind : MessageKind) (state : ConnectionState) :
    Except ConnectionError Unit × ConnectionState :=
  if state.closed then (.error .connectionClosed, state)
  else if header.kind ≠ expected_kind then (.error .wrongDirection, state.fail)
  else if header.version ≠ connection.version ∨
      header.connection_id ≠ connection.connection_id then (.error .invalidFrame, state.fail)
  else (.ok (), state)

/-- `validate_request_header`. -/
def validateRequestHeader (state : ConnectionState) :
    Except ConnectionError Unit × ConnectionState :=
  match validateCommonHeader connection header .request state with
  | (.error e, state) => (.error e, state)
  | (.ok (), state) =>
    if header.payload_length > connection.maximum_payload_bytes then
      (.error .invalidFrame, state.fail)
    else (.ok (), state)

/-- `record_request_id`: ids start at one and increase. -/
def recordRequestId (request_id : ℕ) (state : ConnectionState) :
    Except ConnectionError Unit × ConnectionState :=
  if state.last_request_id = 0 ∧ request_id ≠ 1 ∨
      state.last_request_id ≠ 0 ∧ request_id ≤ state.last_request_id then
    (.error .invalidFrame, state.fail)
  else if state.issued_request_ids.card ≥ maxRequestsPerConnection then
    (.error .requestLimit, state.fail)
  else
    (.ok (), { state with
      last_request_id := request_id
      issued_request_ids := insert request_id state.issued_request_ids })

/-- A request enters the map of requests in flight. -/
def insertInFlight (request_id : ℕ) (state : ConnectionState) : ConnectionState :=
  { state with
    in_flight := insert request_id state.in_flight
    cancelled := state.cancelled.erase request_id
    cancelled_subset := (Finset.erase_subset _ _).trans
      (state.cancelled_subset.trans (Finset.subset_insert _ _)) }

/-- `begin_request`. -/
def beginRequest (request : RequestEnvelope) (current_unlock_epoch : ℕ) (state : ConnectionState) :
    Except BeginRequestError RequestPermit × ConnectionState :=
  match validateRequestHeader connection header state with
  | (.error e, state) => (.error (.connection e), state)
  | (.ok (), state) =>
    match recordRequestId header.request_id state with
    | (.error e, state) => (.error (.connection e), state)
    | (.ok (), state) =>
      let effective_timeout_ms := request.operation.effectiveTimeout request.timeout_ms
      if ¬request.operation.isAuthorizedFor connection.role then (.error .unauthorized, state)
      else if ∃ feature ∈ request.operation.requiredFeature,
          feature ∉ connection.granted_features then (.error .unauthorized, state)
      else if request.operation.requiresIdempotencyKey ∧ request.idempotency_key = none then
        (.error .missingIdempotencyKey, state)
      else if request.operation.requiresUnlockedEpoch ∧
          request.unlock_epoch ≠ current_unlock_epoch then (.error .staleEpoch, state)
      else if state.in_flight.card ≥ connection.maximum_in_flight then
        (.error (.busy effective_timeout_ms), state)
      else
        (.ok ⟨header.request_id, request.operation, request.unlock_epoch, effective_timeout_ms⟩,
          state.insertInFlight header.request_id)

/-- A request in flight becomes cancelled. -/
def markCancelled (request_id : ℕ) (state : ConnectionState) : ConnectionState :=
  { state with
    cancelled := if request_id ∈ state.in_flight then insert request_id state.cancelled
      else state.cancelled
    cancelled_subset := by
      split_ifs with h
      · exact Finset.insert_subset h state.cancelled_subset
      · exact state.cancelled_subset }

/-- `Connection::cancel`. -/
def cancel (state : ConnectionState) : Except ConnectionError Unit × ConnectionState :=
  match validateCommonHeader connection header .cancel state with
  | (.error e, state) => (.error e, state)
  | (.ok (), state) =>
    if header.request_id ∉ state.issued_request_ids then (.error .invalidCancel, state.fail)
    else (.ok (), state.markCancelled header.request_id)

/-- `is_cancelled`. -/
def isCancelled (request_id : ℕ) (state : ConnectionState) : Bool := request_id ∈ state.cancelled

/-- `Connection::finish`. -/
def finish (request_id : ℕ) (state : ConnectionState) :
    Except ConnectionError RequestCompletion × ConnectionState :=
  if request_id ∉ state.in_flight then (.error .invalidFrame, state.fail)
  else
    (.ok (if request_id ∈ state.cancelled then .cancelled else .active),
      { state with
        in_flight := state.in_flight.erase request_id
        cancelled := state.cancelled.erase request_id
        cancelled_subset := Finset.erase_subset_erase _ state.cancelled_subset })

/-- `Connection::close`. -/
def close (state : ConnectionState) : ConnectionState :=
  { state with
    cancelled := state.in_flight
    cancelled_subset := Finset.Subset.refl _
    closed := true }

end ConnectionState

end Librarian.Protocol
