import Librarian.Core.Primitives
import Librarian.WindowsHello.Platform

/-!
# The provider of Windows Hello

From the bottom up: `client.cpp`, which calls Windows; `bridge.cpp`, which turns results into numbers
and buffers; the crate that reads these back; and the provider of the agent. What C++ throws is an
error here, and what its destructors do is written out where they run.
-/

namespace Librarian.WindowsHello

open Conc
open Librarian.Agent (WindowsHelloEnrollment WindowsHelloProviderError)
open Librarian.Core (Primitives)

/-! ## The client -/

namespace Client

/-- `maximum_credential_id_bytes`. -/
def maximumCredentialIdBytes : ℕ := 1024

/-- `WEBAUTHN_API_VERSION_8`. -/
def requiredApiVersion : UInt32 := 8

/-- What `enroll` and `evaluate` throw. -/
inductive Thrown
  | failure (error : Error)
  | credentialCleanupFailure (credential_id : List UInt8)
  deriving DecidableEq

/-- `is_cancellation`: `NTE_USER_CANCELLED` or `ERROR_CANCELLED`. -/
def isCancellation (result : HResult) : Bool :=
  decide (result = 0x80090036 ∨ result = 0x800704C7)

/-- The error of `require_hresult`. -/
def hresultError (result : HResult) : Error :=
  if isCancellation result then .cancelled else .platformFailure

/-- `valid_operation`. -/
def validOperation (operation_id : OperationId) : Bool := operation_id.val.any (· ≠ 0)

/-- `digits`. -/
def hexDigit (value : UInt8) : Char := "0123456789abcdef".toList.getD value.toNat '0'

/-- The text of `random_challenge`. -/
def challenge (bytes : Bytes 32) : String :=
  String.ofList (bytes.val.flatMap fun (value : UInt8) =>
    [hexDigit (value >>> 4), hexDigit (value &&& 0x0F)])

/-- The client data of a ceremony, `kind` being `create` or `get`. -/
def clientData (kind : String) (random : Bytes 32) : List UInt8 :=
  Utf8.encode ("\x7b\"type\":\"webauthn." ++ kind ++ "\",\"challenge\":\"" ++ challenge random ++
    "\",\"origin\":\"https://librarian.local\",\"crossOrigin\":false\x7d")

/-- `relying_party_hash`. -/
def relyingPartyHash (P : Primitives) : Bytes 32 := P.sha256 (Utf8.encode "librarian.local")

/-- The constructor of `cancellation_registration`. -/
def beginRegistration (operation_id : OperationId) : Prog machine (Except Error Guid) := do
  let drawn ← act .getCancellationId
  if failed drawn.1 then pure (.error (hresultError drawn.1))
  else do
    let inserted ← withCancellationLock (act (.emplace operation_id drawn.2))
    if inserted then pure (.ok drawn.2)
    -- The destructor of what has not been constructed does not run.
    else pure (.error .invalidArgument)

/-- The destructor of `cancellation_registration`. -/
def endRegistration (operation_id : OperationId) (guid : Guid) : Prog machine Unit :=
  withCancellationLock (act (.eraseSame operation_id guid))

/-- A ceremony while its registration is there. -/
def registered {α : Type} (operation_id : OperationId)
    (ceremony : Guid → Prog machine (Except Thrown α)) : Prog machine (Except Thrown α) := do
  match ← beginRegistration operation_id with
  | .error error => pure (.error (.failure error))
  | .ok guid => do
    let result ← ceremony guid
    endRegistration operation_id guid
    pure result

/-- `validated_output`. -/
def validatedOutput (result : ValidationResult) : Except Error (Bytes 32) :=
  match result.error, result.output with
  | .none, some output => .ok output
  | .none, none => .error .invalidResponse
  | error, _ => .error error

/-- The handler of `enroll`, with the destructor of `created_credential`, which tries once more to
delete a credential that it still owns. -/
def discardCredential (credential_id : List UInt8) (error : Error) : Prog machine Thrown := do
  let removed ← act (.deleteCredential credential_id)
  if failed removed then do
    let _ ← act (.deleteCredential credential_id)
    pure (.credentialCleanupFailure credential_id)
  else pure (.failure error)

/-- `enroll` from where the credential has been made. -/
def acceptCredential (P : Primitives) (salt : Bytes 32) (value : AttestationView) :
    Prog machine (Except Thrown WindowsHelloEnrollment) := do
  if value.credential_id.length > maximumCredentialIdBytes then do
    let thrown ← discardCredential value.credential_id .invalidResponse
    pure (.error thrown)
  else if ← act .hashes then
    match validatedOutput (validateAttestation value (relyingPartyHash P)) with
    | .ok output => pure (.ok ⟨value.credential_id, salt, output⟩)
    | .error error => do
      let thrown ← discardCredential value.credential_id error
      pure (.error thrown)
  else do
    let thrown ← discardCredential value.credential_id .platformFailure
    pure (.error thrown)

/-- The ceremony of `enroll`. -/
def makeCredential (P : Primitives) (request : MakeCredentialRequest) :
    Prog machine (Except Thrown WindowsHelloEnrollment) := do
  let made ← act (.makeCredential request)
  if failed made.1 then pure (.error (.failure (hresultError made.1)))
  else
    match made.2 with
    | none => pure (.error (.failure .invalidResponse))
    | some value =>
      if value.credential_id = [] then pure (.error (.failure .invalidResponse))
      else acceptCredential P request.salt value

/-- `enroll` from where the authenticator is known to be there. -/
def enrollAvailable (P : Primitives) (parent : ℕ) (operation_id : OperationId) :
    Prog machine (Except Thrown WindowsHelloEnrollment) := do
  match ← act .randomBytes with
  | none => pure (.error (.failure .platformFailure))
  | some user_identifier => do
    match ← act .randomBytes with
    | none => pure (.error (.failure .platformFailure))
    | some salt => do
      match ← act .randomBytes with
      | none => pure (.error (.failure .platformFailure))
      | some random =>
        registered operation_id fun guid =>
          makeCredential P ⟨parent, user_identifier, clientData "create" random, salt, guid⟩

/-- `enroll`. -/
def enroll (P : Primitives) (parent : ℕ) (operation_id : OperationId) :
    Prog machine (Except Thrown WindowsHelloEnrollment) := do
  if parent = 0 ∨ ¬validOperation operation_id then pure (.error (.failure .invalidArgument))
  else do
    let version ← act .apiVersionNumber
    if version < requiredApiVersion then pure (.error (.failure .unsupported))
    else do
      let available ← act .platformAuthenticatorAvailable
      if failed available.1 then pure (.error (.failure (hresultError available.1)))
      else if ¬available.2 then pure (.error (.failure .unavailable))
      else enrollAvailable P parent operation_id

/-- The ceremony of `evaluate`. -/
def getAssertion (P : Primitives) (request : GetAssertionRequest) :
    Prog machine (Except Thrown (Bytes 32)) := do
  let asserted ← act (.getAssertion request)
  if failed asserted.1 then pure (.error (.failure (hresultError asserted.1)))
  else
    match asserted.2 with
    | none => pure (.error (.failure .invalidResponse))
    | some value => do
      if ← act .hashes then
        match validatedOutput (validateAssertion value request.credential_id
            (relyingPartyHash P)) with
        | .ok output => pure (.ok output)
        | .error error => pure (.error (.failure error))
      else pure (.error (.failure .platformFailure))

/-- `evaluate`. -/
def evaluate (P : Primitives) (parent : ℕ) (credential_id : List UInt8) (salt : Bytes 32)
    (operation_id : OperationId) : Prog machine (Except Thrown (Bytes 32)) := do
  if parent = 0 ∨ credential_id = [] ∨ credential_id.length > maximumCredentialIdBytes ∨
      ¬validOperation operation_id then pure (.error (.failure .invalidArgument))
  else do
    let version ← act .apiVersionNumber
    if version < requiredApiVersion then pure (.error (.failure .unsupported))
    else do
      match ← act .randomBytes with
      | none => pure (.error (.failure .platformFailure))
      | some random =>
        registered operation_id fun guid =>
          getAssertion P ⟨parent, clientData "get" random, credential_id, salt, guid⟩

/-- `EnrollmentResult`. -/
structure EnrollmentResult where
  error : Error := .platformFailure
  enrollment : Option WindowsHelloEnrollment := none
  pending_removal_credential_id : List UInt8 := []

/-- `EvaluationResult`. -/
structure EvaluationResult where
  error : Error := .platformFailure
  output : Option (Bytes 32) := none

/-- What `Enroll` makes of what `enroll` returns or throws. -/
def enrollmentResult : Except Thrown WindowsHelloEnrollment → EnrollmentResult
  | .ok enrollment => { error := .none, enrollment := some enrollment }
  | .error (.credentialCleanupFailure credential_id) =>
    { error := .credentialRemovalFailed, pending_removal_credential_id := credential_id }
  | .error (.failure error) => { error := error }

/-- What `Evaluate` makes of what `evaluate` returns or throws: nothing in it makes a credential, and
so nothing in it fails to clean one up. -/
def evaluationResult : Except Thrown (Bytes 32) → EvaluationResult
  | .ok output => { error := .none, output := some output }
  | .error (.failure error) => { error := error }
  | .error (.credentialCleanupFailure _) => {}

/-- `Cancel`. -/
def cancel (operation_id : OperationId) : Prog machine Error := do
  if ¬validOperation operation_id then pure .invalidArgument
  else
    match ← withCancellationLock (act (.find operation_id)) with
    | none => pure .platformFailure
    | some cancellation_id => do
      let result ← act (.cancelCurrentOperation cancellation_id)
      pure (if ¬failed result then .none else hresultError result)

/-- `Remove`. A credential that Windows does not know is removed. -/
def remove (credential_id : List UInt8) : Prog machine Error := do
  if credential_id = [] ∨ credential_id.length > maximumCredentialIdBytes then
    pure .invalidArgument
  else do
    let result ← act (.deleteCredential credential_id)
    -- `NTE_NOT_FOUND`
    pure (if ¬failed result ∨ result = 0x80090011 then .none
      else if isCancellation result then .cancelled else .credentialRemovalFailed)

end Client

/-! ## The bridge -/

namespace Bridge

open Client

/-- `status`, with the numbers of `librarian_windows_hello_status`. -/
def status : Error → UInt32
  | .none => 0
  | .invalidArgument => 1
  | .unavailable => 2
  | .unsupported => 3
  | .cancelled => 4
  | .invalidResponse => 5
  | .platformFailure => 6
  | .credentialRemovalFailed => 7

/-- The buffers that the callers of `librarian_windows_hello_enroll` give it, and its result. The
callers give buffers of the sizes that it asks for. -/
structure EnrollOutput where
  status : UInt32
  credential_id : List UInt8 := List.replicate maximumCredentialIdBytes 0
  credential_id_bytes : UInt32 := 0
  salt : Bytes 32 := Bytes.replicate 32 0
  prf_output : Bytes 32 := Bytes.replicate 32 0

/-- `publish_credential_id` into an empty buffer, with the status when it succeeds. -/
def publishCredentialId (value : List UInt8) (status : UInt32) : EnrollOutput :=
  if value = [] ∨ value.length > maximumCredentialIdBytes then
    { status := Bridge.status .invalidResponse }
  else
    { status := status
      credential_id := value ++ List.replicate (maximumCredentialIdBytes - value.length) 0
      credential_id_bytes := value.length.toUInt32 }

/-- `librarian_windows_hello_enroll` after a failure of `Enroll`. -/
def enrollFailed (result : EnrollmentResult) : Prog machine EnrollOutput := do
  if result.error = .credentialRemovalFailed then
    pure (publishCredentialId result.pending_removal_credential_id
      (status .credentialRemovalFailed))
  else
    match result.enrollment with
    | none => pure { status := status result.error }
    | some enrollment => do
      if enrollment.credential_id = [] then pure { status := status result.error }
      else do
        let removed ← remove enrollment.credential_id
        if removed ≠ .none then
          pure (publishCredentialId enrollment.credential_id (status .credentialRemovalFailed))
        else pure { status := status result.error }

/-- `librarian_windows_hello_enroll` after `Enroll`. -/
def enrollReturned (result : EnrollmentResult) : Prog machine EnrollOutput := do
  if result.error ≠ .none then enrollFailed result
  else
    match result.enrollment with
    | none => pure { status := status .invalidResponse }
    | some enrollment => do
      if enrollment.credential_id = [] then pure { status := status .invalidResponse }
      else if enrollment.credential_id.length > maximumCredentialIdBytes then do
        let removed ← remove enrollment.credential_id
        let error : Error := if removed = .none then .invalidResponse else .credentialRemovalFailed
        pure { status := status error }
      else
        let output := publishCredentialId enrollment.credential_id (status .none)
        pure { output with salt := enrollment.prf_salt, prf_output := enrollment.prf_output }

/-- `librarian_windows_hello_enroll`. -/
def enroll (P : Primitives) (parent_window : ℕ) (operation_id : OperationId) :
    Prog machine EnrollOutput := do
  if parent_window = 0 ∨ ¬validOperation operation_id then
    pure { status := status .invalidArgument }
  else do
    let result ← Client.enroll P parent_window operation_id
    enrollReturned (enrollmentResult result)

/-- `librarian_windows_hello_evaluate`: the status and the buffer of the output. -/
def evaluate (P : Primitives) (parent_window : ℕ) (operation_id : OperationId)
    (credential_id : List UInt8) (salt : Bytes 32) : Prog machine (UInt32 × Bytes 32) := do
  if parent_window = 0 ∨ ¬validOperation operation_id ∨ credential_id = [] ∨
      credential_id.length > maximumCredentialIdBytes then
    pure (status .invalidArgument, Bytes.replicate 32 0)
  else do
    let thrown ← Client.evaluate P parent_window credential_id salt operation_id
    let result := evaluationResult thrown
    match result.error, result.output with
    | .none, some output => pure (status .none, output)
    | .none, none => pure (status .invalidResponse, Bytes.replicate 32 0)
    | error, _ => pure (status error, Bytes.replicate 32 0)

/-- `librarian_windows_hello_cancel`. -/
def cancel (operation_id : OperationId) : Prog machine UInt32 := do
  if ¬validOperation operation_id then pure (status .invalidArgument)
  else do
    let error ← Client.cancel operation_id
    pure (status error)

/-- `librarian_windows_hello_remove`. -/
def remove (credential_id : List UInt8) : Prog machine UInt32 := do
  if credential_id = [] ∨ credential_id.length > maximumCredentialIdBytes then
    pure (status .invalidArgument)
  else do
    let error ← Client.remove credential_id
    pure (status error)

end Bridge

/-! ## The crate of the bridge -/

namespace Crate

open Client

/-- `BridgeError`. -/
inductive BridgeError
  | invalidArgument
  | unavailable
  | unsupported
  | cancelled
  | invalidResponse
  | platformFailure
  | credentialRemovalFailed
  deriving DecidableEq, Repr

/-- `EnrollmentError`. -/
inductive EnrollmentError
  | bridge (error : BridgeError)
  | credentialRemovalFailed (credential_id : List UInt8)
  deriving DecidableEq

/-- `map_status`, `none` being success. -/
def mapStatus (status : UInt32) : Except BridgeError Unit :=
  if status = 5 then .error .invalidResponse
  else if status = 0 then .ok ()
  else if status = 1 then .error .invalidArgument
  else if status = 2 then .error .unavailable
  else if status = 3 then .error .unsupported
  else if status = 4 then .error .cancelled
  else if status = 6 then .error .platformFailure
  else if status = 7 then .error .credentialRemovalFailed
  else .error .invalidResponse

/-- `finish_enrollment`. -/
def finishEnrollment (output : Bridge.EnrollOutput) :
    Except EnrollmentError WindowsHelloEnrollment :=
  let length := output.credential_id_bytes.toNat
  if output.status = 7 then
    if length = 0 ∨ length > output.credential_id.length then
      .error (.bridge .invalidResponse)
    else .error (.credentialRemovalFailed (output.credential_id.take length))
  else
    match mapStatus output.status with
    | .error error => .error (.bridge error)
    | .ok () =>
      if length = 0 ∨ length > output.credential_id.length then
        .error (.bridge .invalidResponse)
      else .ok ⟨output.credential_id.take length, output.salt, output.prf_output⟩

/-- `enroll`. -/
def enroll (P : Primitives) (parent : ℕ) (operation_id : OperationId) :
    Prog machine (Except EnrollmentError WindowsHelloEnrollment) := do
  let output ← Bridge.enroll P parent operation_id
  pure (finishEnrollment output)

/-- `evaluate`. -/
def evaluate (P : Primitives) (parent : ℕ) (operation_id : OperationId)
    (credential_id : List UInt8) (salt : Bytes 32) : Prog machine (Except BridgeError (Bytes 32)) :=
  if credential_id = [] ∨ credential_id.length > maximumCredentialIdBytes then
    pure (.error .invalidArgument)
  else do
    let output ← Bridge.evaluate P parent operation_id credential_id salt
    pure ((mapStatus output.1).map fun _ => output.2)

/-- `cancel`. -/
def cancel (operation_id : OperationId) : Prog machine (Except BridgeError Unit) := do
  let status ← Bridge.cancel operation_id
  pure (mapStatus status)

/-- `remove`. -/
def remove (credential_id : List UInt8) : Prog machine (Except BridgeError Unit) :=
  if credential_id = [] ∨ credential_id.length > maximumCredentialIdBytes then
    pure (.error .invalidArgument)
  else do
    let status ← Bridge.remove credential_id
    pure (mapStatus status)

/-- `ParentWindow::for_authenticated_process`. -/
def parentWindow (value : ℕ) (authenticated_process_id : UInt32) :
    Prog machine (Except BridgeError ℕ) := do
  if value = 0 then pure (.error .invalidArgument)
  else if ¬(← act (.isWindow value)) then pure (.error .invalidArgument)
  else
    match ← act (.windowProcessId value) with
    | none => pure (.error .invalidArgument)
    | some actual_process_id =>
      if actual_process_id = 0 ∨ actual_process_id ≠ authenticated_process_id then
        pure (.error .invalidArgument)
      else pure (.ok value)

end Crate

/-! ## The provider of the agent -/

namespace Provider

open Client Crate

/-- `map_bridge_error`. -/
def mapBridgeError : BridgeError → WindowsHelloProviderError
  | .invalidArgument => .invalidRequest
  | .unavailable | .unsupported => .unavailable
  | .cancelled => .cancelled
  | .credentialRemovalFailed => .removalFailed
  | .invalidResponse | .platformFailure => .failed

/-- The error of an enrollment. -/
def mapEnrollmentError : EnrollmentError → WindowsHelloProviderError
  | .bridge error => mapBridgeError error
  | .credentialRemovalFailed credential_id => .cleanupRequired credential_id

/-- `enroll`, with its parameters checked by `platform_parent` and `platform_operation`. -/
def enroll (P : Primitives) (parent_window : ℕ) (authenticated_process_id : UInt32)
    (operation_id : OperationId) :
    Prog machine (Except WindowsHelloProviderError WindowsHelloEnrollment) := do
  match ← parentWindow parent_window authenticated_process_id with
  | .error error => pure (.error (mapBridgeError error))
  | .ok parent =>
    if ¬validOperation operation_id then pure (.error (mapBridgeError .invalidArgument))
    else do
      let result ← Crate.enroll P parent operation_id
      pure (result.mapErr mapEnrollmentError)

/-- `evaluate`. -/
def evaluate (P : Primitives) (parent_window : ℕ) (authenticated_process_id : UInt32)
    (operation_id : OperationId) (credential_id : List UInt8) (prf_salt : Bytes 32) :
    Prog machine (Except WindowsHelloProviderError (Bytes 32)) := do
  match ← parentWindow parent_window authenticated_process_id with
  | .error error => pure (.error (mapBridgeError error))
  | .ok parent =>
    if ¬validOperation operation_id then pure (.error (mapBridgeError .invalidArgument))
    else do
      let result ← Crate.evaluate P parent operation_id credential_id prf_salt
      pure (result.mapErr mapBridgeError)

/-- `cancel`. -/
def cancel (operation_id : OperationId) : Prog machine Unit :=
  if ¬validOperation operation_id then pure ()
  else do
    let _ ← Crate.cancel operation_id
    pure ()

/-- `remove`. -/
def remove (credential_id : List UInt8) :
    Prog machine (Except WindowsHelloProviderError Unit) := do
  let result ← Crate.remove credential_id
  pure (result.mapErr mapBridgeError)

end Provider

/-! ## Whole calls -/

/-- A call of the provider, with its window where it has one. -/
inductive Request
  | enroll (parent_window : ℕ) (authenticated_process_id : UInt32) (operation_id : OperationId)
  | evaluate (parent_window : ℕ) (authenticated_process_id : UInt32) (operation_id : OperationId)
      (credential_id : List UInt8) (prf_salt : Bytes 32)
  | cancel (operation_id : OperationId)
  | remove (credential_id : List UInt8)
  deriving DecidableEq

def Request.call : Request → Call
  | enroll _ _ operation_id => .enroll operation_id
  | evaluate _ _ operation_id credential_id prf_salt =>
    .evaluate operation_id credential_id prf_salt
  | cancel operation_id => .cancel operation_id
  | remove credential_id => .remove credential_id

/-- The call, up to what it returns. -/
def Request.run (P : Primitives) : Request → Prog machine Outcome
  | enroll parent_window authenticated_process_id operation_id => do
    let result ← Provider.enroll P parent_window authenticated_process_id operation_id
    pure (.enrolled result)
  | evaluate parent_window authenticated_process_id operation_id credential_id prf_salt => do
    let result ← Provider.evaluate P parent_window authenticated_process_id operation_id
      credential_id prf_salt
    pure (.evaluated result)
  | cancel operation_id => do
    Provider.cancel operation_id
    pure .cancelled
  | remove credential_id => do
    let result ← Provider.remove credential_id
    pure (.removed result)

/-- What a thread runs. -/
def Request.program (P : Primitives) (request : Request) : Prog machine Unit := do
  act (.began request.call)
  let outcome ← request.run P
  act (.returned outcome)

/-- The programs of the provider. -/
def Provided (P : Primitives) (p : Prog machine Unit) : Prop := ∃ request, p = Request.program P request

end Librarian.WindowsHello
