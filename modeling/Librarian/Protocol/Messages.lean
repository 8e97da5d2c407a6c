import Librarian.Protocol.Responses

/-!
# The codecs of messages

`ClientHello`, `ServerHello`, `EndpointDescriptor`, the envelopes of requests and responses, and
`AgentEvent`. Every decoder reads the fields, validates them as the constructor does, and compares
with the encoding of what it has read. A decoder is therefore canonical when its parser reads back
what the encoder writes; here that is proved for each message, from one `_reads` lemma that follows
the sequence of its fields.
-/

namespace Librarian.Protocol

open Cursor (Reads)

/-! ## Codes -/

/-- `ClientRole as u8`. -/
def ClientRole.code : ClientRole → UInt8
  | desktop => 1
  | nativeHost => 2
  | passkeyProvider => 3

/-- `ClientRole::from_u64`. -/
def ClientRole.fromU64 : ℕ → Option ClientRole
  | 1 => some desktop
  | 2 => some nativeHost
  | 3 => some passkeyProvider
  | _ => none

theorem ClientRole.fromU64_code (role : ClientRole) : fromU64 role.code.toNat = some role := by
  cases role <;> rfl

/-- `AgentState as u8`. -/
def AgentState.code : AgentState → UInt8
  | starting => 1
  | noVault => 2
  | locked => 3
  | unlocking => 4
  | unlocked => 5
  | updating => 6
  | shuttingDown => 7

/-- `AgentState::from_u64`. -/
def AgentState.fromU64 : ℕ → Option AgentState
  | 1 => some starting
  | 2 => some noVault
  | 3 => some locked
  | 4 => some unlocking
  | 5 => some unlocked
  | 6 => some updating
  | 7 => some shuttingDown
  | _ => none

theorem AgentState.fromU64_code (state : AgentState) : fromU64 state.code.toNat = some state := by
  cases state <;> rfl

/-- `encode_status`. -/
def encodeStatus (state : AgentState) (unlock_epoch : UInt64) : Except EncodeFault (List UInt8) :=
  writeItems maxPayloadBytes [] [Cbor.array 2, encodeU8 state.code, encodeU64 unlock_epoch] >>=
    checkedResponseBody

/-- `OperationCode::from_u64`. -/
def OperationCode.fromU64 : ℕ → Option OperationCode
  | 1 => some status
  | 2 => some createVault
  | 3 => some unlockMasterPassword
  | 4 => some lock
  | 5 => some listAccountSummaries
  | 6 => some getAccount
  | 7 => some addAccount
  | 8 => some updateAccount
  | 9 => some deleteAccount
  | 10 => some enrollWindowsHello
  | 11 => some removeWindowsHello
  | 12 => some unlockWindowsHello
  | 20 => some exactOriginMatches
  | 21 => some getSelectedCredential
  | 22 => some captureCredential
  | 23 => some updateCredential
  | 30 => some makePasskey
  | 31 => some getPasskeyAssertion
  | 32 => some deletePasskey
  | 33 => some listPasskeysForAssertion
  | 34 => some listPasskeys
  | 35 => some rollbackPasskeyCreation
  | 36 => some confirmPasskeyCreation
  | _ => none

theorem OperationCode.fromU64_code (operation : OperationCode) :
    fromU64 (UInt16.ofNat operation.code).toNat = some operation := by
  cases operation <;> rfl

/-- `PublicErrorCode as u8`. -/
def PublicErrorCode.code : PublicErrorCode → UInt8
  | invalidRequest => 1
  | unauthorizedOperation => 2
  | locked => 3
  | notFound => 4
  | conflict => 5
  | busy => 6
  | cancelled => 7
  | deadlineExceeded => 8
  | agentUnavailable => 9
  | incompatible => 10
  | operationFailed => 11

/-- `PublicErrorCode::from_u64`. -/
def PublicErrorCode.fromU64 : ℕ → Option PublicErrorCode
  | 1 => some invalidRequest
  | 2 => some unauthorizedOperation
  | 3 => some locked
  | 4 => some notFound
  | 5 => some conflict
  | 6 => some busy
  | 7 => some cancelled
  | 8 => some deadlineExceeded
  | 9 => some agentUnavailable
  | 10 => some incompatible
  | 11 => some operationFailed
  | _ => none

theorem PublicErrorCode.fromU64_code (error : PublicErrorCode) :
    error.code ≠ 0 ∧ fromU64 error.code.toNat = some error := by
  cases error <;> exact ⟨by decide, rfl⟩

/-- `RetryCategory as u8`. -/
def RetryCategory.code : RetryCategory → UInt8
  | never => 1
  | reconnect => 2
  | afterUnlock => 3
  | backoff => 4

/-- `RetryCategory::from_u64`. -/
def RetryCategory.fromU64 : ℕ → Option RetryCategory
  | 1 => some never
  | 2 => some reconnect
  | 3 => some afterUnlock
  | 4 => some backoff
  | _ => none

theorem RetryCategory.fromU64_code (retry : RetryCategory) :
    fromU64 retry.code.toNat = some retry := by
  cases retry <;> rfl

/-! ## Sizes -/

theorem encodeU8_length_le (value : UInt8) : (encodeU8 value).length ≤ 2 := by
  have hbound := value.toNat_lt
  exact Cbor.head_length_le_two (by omega)

theorem encodeU16_length_le (value : UInt16) : (encodeU16 value).length ≤ 3 := by
  have hbound := value.toNat_lt
  exact Cbor.head_length_le_three (by omega)

theorem encodeU32_length_le (value : UInt32) : (encodeU32 value).length ≤ 5 := by
  have hbound := value.toNat_lt
  exact Cbor.head_length_le_five (by omega)

theorem encodeU64_length_le (value : UInt64) : (encodeU64 value).length ≤ 9 :=
  Cbor.head_length_le _ _

/-- A byte array of fixed length. -/
theorem fixedBytes_length_le {n : ℕ} (value : Bytes n) : (Cbor.bytes value.val).length ≤ 9 + n := by
  have hhead := Cbor.head_length_le 2 value.val.length
  have hlength := value.property
  rw [Cbor.bytes_length]
  omega

/-! ## Features -/

/-- The list of features in a handshake message. -/
def encodeFeatures (features : List UInt16) : List UInt8 :=
  Cbor.array features.length ++ features.flatMap encodeU16

/-- The loop that reads them. -/
def decodeFeatureList : ℕ → Decoder (List UInt16)
  | 0 => pure []
  | count + 1 => do
    let feature ← decodeU16
    let features ← decodeFeatureList count
    return feature :: features

/-- A bounded count of features, and the features. -/
def decodeFeatures : Decoder (List UInt16) := do
  let feature_count ← decodeArrayLength maxFeatures
  decodeFeatureList feature_count

theorem decodeFeatureList_reads (features : List UInt16) :
    Reads (decodeFeatureList features.length) (features.flatMap encodeU16) features := by
  induction features with
  | nil => exact Reads.pure []
  | cons feature features ih =>
    exact (decodeU16_reads feature).bind (ih.bind_last (Reads.pure (feature :: features)))

theorem decodeFeatures_reads {features : List UInt16} (h : features.length ≤ maxFeatures) :
    Reads decodeFeatures (encodeFeatures features) features :=
  (decodeArrayLength_reads h (by decide)).bind (decodeFeatureList_reads features)

theorem encodeFeatures_length_le {features : List UInt16} (h : features.length ≤ maxFeatures) :
    (encodeFeatures features).length ≤ 57 := by
  have hhead := Cbor.head_length_le 4 features.length
  have hitems : (features.flatMap encodeU16).length ≤ features.length * 3 :=
    length_flatMap_le fun feature _ => encodeU16_length_le feature
  unfold maxFeatures at h
  unfold encodeFeatures Cbor.array
  rw [List.length_append]
  omega

/-! ## Handshake messages -/

namespace ClientHello

/-- `ClientHello::encode`, on the fields. -/
def encodeFields (hello : ClientHelloFields) : List UInt8 :=
  Cbor.array 8 ++ (Cbor.bytes hello.client_nonce.val ++ (encodeU16 hello.minimum.major ++
    (encodeU16 hello.maximum.major ++ (encodeU16 hello.minimum.minor ++
    (encodeU16 hello.maximum.minor ++ (encodeU8 hello.claimed_role.code ++
    (Cbor.bytes hello.component_build_id.val ++ encodeFeatures hello.required_features)))))))

/-- `ClientHello::encode`. -/
def encode (hello : ClientHello) : List UInt8 := encodeFields hello.toClientHelloFields

/-- The reads of `ClientHello::decode`. -/
def decodeFrom : Decoder ClientHelloFields := do
  expectArray 8
  let client_nonce ← decodeFixedBytes 32
  let minimum_major ← decodeU16
  let maximum_major ← decodeU16
  let minimum_minor ← decodeU16
  let maximum_minor ← decodeU16
  let claimed_role ← decodeCode ClientRole.fromU64 (← decodeU8).toNat
  let component_build_id ← decodeFixedBytes 32
  let features ← decodeFeatures
  return ⟨client_nonce, ⟨minimum_major, minimum_minor⟩, ⟨maximum_major, maximum_minor⟩, claimed_role,
    component_build_id, features⟩

/-- `ClientHello::decode`. -/
def decode (bytes : List UInt8) : Except ProtocolError ClientHello :=
  Codec.checked .nonCanonical (infallible encode)
    (parseWithin maxPayloadBytes decodeFrom ClientHello.new) bytes

theorem decodeFrom_reads {hello : ClientHelloFields}
    (h : hello.required_features.length ≤ maxFeatures) :
    Reads decodeFrom (encodeFields hello) hello := by
  refine (expectArray_reads (by norm_num)).bind ?_
  refine (decodeFixedBytes_reads (by norm_num) _).bind ?_
  refine (decodeU16_reads _).bind ((decodeU16_reads _).bind ?_)
  refine (decodeU16_reads _).bind ((decodeU16_reads _).bind ?_)
  refine (decodeU8_reads _).bind ((decodeCode_reads (ClientRole.fromU64_code _)).bind_first ?_)
  refine (decodeFixedBytes_reads (by norm_num) _).bind ?_
  exact (decodeFeatures_reads h).bind_last (Reads.pure hello)

theorem features_length_le (hello : ClientHello) : hello.required_features.length ≤ maxFeatures := by
  have hvalid := hello.validated
  simp only [ClientHelloFields.invalid, decide_eq_false_iff_not, not_or, not_lt] at hvalid
  exact hvalid.2.2.2.2.2.1

theorem encode_length_le (hello : ClientHello) : hello.encode.length ≤ maxPayloadBytes := by
  have hfeatures := encodeFeatures_length_le hello.features_length_le
  have harray := Cbor.head_length_le 4 8
  have hnonce := fixedBytes_length_le hello.client_nonce
  have hbuild := fixedBytes_length_le hello.component_build_id
  have hminimum := encodeU16_length_le hello.minimum.major
  have hmaximum := encodeU16_length_le hello.maximum.major
  have hminor := encodeU16_length_le hello.minimum.minor
  have hminor' := encodeU16_length_le hello.maximum.minor
  have hrole := encodeU8_length_le hello.claimed_role.code
  unfold encode encodeFields maxPayloadBytes Cbor.array
  simp only [List.length_append]
  omega

/-- `ClientHello` has one encoding per value. -/
theorem canonical : Codec.Canonical (infallible encode) decode := by
  refine Codec.Canonical.of_checked fun hello bytes hencode => ?_
  cases hencode
  exact parseWithin_eq_ok hello.encode_length_le (decodeFrom_reads hello.features_length_le)
    (dif_pos hello.validated)

end ClientHello

namespace ServerHello

/-- `ServerHello::encode`, on the fields. -/
def encodeFields (hello : ServerHelloFields) : List UInt8 :=
  Cbor.array 9 ++ (Cbor.bytes hello.server_nonce.val ++ (encodeU16 hello.selected_version.major ++
    (encodeU16 hello.selected_version.minor ++ (encodeU8 hello.derived_role.code ++
    (encodeFeatures hello.granted_features ++ (encodeU32 hello.maximum_payload_bytes ++
    (encodeU8 hello.maximum_in_flight ++ (encodeU8 hello.agent_state.code ++
    encodeU64 hello.unlock_epoch))))))))

/-- `ServerHello::encode`. -/
def encode (hello : ServerHello) : List UInt8 := encodeFields hello.toServerHelloFields

/-- The reads of `ServerHello::decode`. -/
def decodeFrom : Decoder ServerHelloFields := do
  expectArray 9
  let server_nonce ← decodeFixedBytes 32
  let major ← decodeU16
  let minor ← decodeU16
  let role ← decodeCode ClientRole.fromU64 (← decodeU8).toNat
  let features ← decodeFeatures
  let maximum_payload_bytes ← decodeU32
  let maximum_in_flight ← decodeU8
  let agent_state ← decodeCode AgentState.fromU64 (← decodeU8).toNat
  let unlock_epoch ← decodeU64
  return ⟨server_nonce, ⟨major, minor⟩, role, features, maximum_payload_bytes, maximum_in_flight,
    agent_state, unlock_epoch⟩

/-- `ServerHello::decode`. -/
def decode (bytes : List UInt8) : Except ProtocolError ServerHello :=
  Codec.checked .nonCanonical (infallible encode)
    (parseWithin maxPayloadBytes decodeFrom ServerHello.new) bytes

theorem decodeFrom_reads {hello : ServerHelloFields}
    (h : hello.granted_features.length ≤ maxFeatures) :
    Reads decodeFrom (encodeFields hello) hello := by
  refine (expectArray_reads (by norm_num)).bind ?_
  refine (decodeFixedBytes_reads (by norm_num) _).bind ?_
  refine (decodeU16_reads _).bind ((decodeU16_reads _).bind ?_)
  refine (decodeU8_reads _).bind ((decodeCode_reads (ClientRole.fromU64_code _)).bind_first ?_)
  refine (decodeFeatures_reads h).bind ?_
  refine (decodeU32_reads _).bind ((decodeU8_reads _).bind ?_)
  refine (decodeU8_reads _).bind ((decodeCode_reads (AgentState.fromU64_code _)).bind_first ?_)
  exact (decodeU64_reads _).bind_last (Reads.pure hello)

theorem features_length_le (hello : ServerHello) : hello.granted_features.length ≤ maxFeatures := by
  have hvalid := hello.validated
  simp only [ServerHelloFields.invalid, decide_eq_false_iff_not, not_or, not_lt] at hvalid
  exact hvalid.2.2.1

theorem encode_length_le (hello : ServerHello) : hello.encode.length ≤ maxPayloadBytes := by
  have hfeatures := encodeFeatures_length_le hello.features_length_le
  have harray := Cbor.head_length_le 4 9
  have hnonce := fixedBytes_length_le hello.server_nonce
  have hmajor := encodeU16_length_le hello.selected_version.major
  have hminor := encodeU16_length_le hello.selected_version.minor
  have hrole := encodeU8_length_le hello.derived_role.code
  have hpayload := encodeU32_length_le hello.maximum_payload_bytes
  have hflight := encodeU8_length_le hello.maximum_in_flight
  have hstate := encodeU8_length_le hello.agent_state.code
  have hepoch := encodeU64_length_le hello.unlock_epoch
  unfold encode encodeFields maxPayloadBytes Cbor.array
  simp only [List.length_append]
  omega

/-- `ServerHello` has one encoding per value. -/
theorem canonical : Codec.Canonical (infallible encode) decode := by
  refine Codec.Canonical.of_checked fun hello bytes hencode => ?_
  cases hencode
  exact parseWithin_eq_ok hello.encode_length_le (decodeFrom_reads hello.features_length_le)
    (dif_pos hello.validated)

end ServerHello

/-! ## The endpoint descriptor -/

/-- `MAX_PIPE_NAME_BYTES`. -/
def maxPipeNameBytes : ℕ := 512

/-- `MAX_PACKAGE_NAME_BYTES`. -/
def maxPackageNameBytes : ℕ := 256

/-- `MAX_ENDPOINT_DESCRIPTOR_BYTES`. -/
def maxEndpointDescriptorBytes : ℕ := 4096

/-- `ENDPOINT_SCHEMA`. -/
def endpointSchema : UInt8 := 1

/-- The fields of a discovery record, before validation. -/
structure EndpointFields where
  pipe_name : String
  agent_process_id : UInt32
  agent_process_creation_time : UInt64
  package_full_name : String
  minimum_major : UInt16
  maximum_major : UInt16
  startup_nonce : Bytes 32
  deriving DecidableEq

namespace EndpointFields

/-- The check of `EndpointDescriptor::new`. -/
def invalid (endpoint : EndpointFields) : Bool :=
  endpoint.pipe_name = "" ∨ endpoint.pipe_name.utf8ByteSize > maxPipeNameBytes ∨
    endpoint.package_full_name = "" ∨
    endpoint.package_full_name.utf8ByteSize > maxPackageNameBytes ∨
    endpoint.agent_process_id = 0 ∨ endpoint.agent_process_creation_time = 0 ∨
    endpoint.minimum_major = 0 ∨ endpoint.minimum_major > endpoint.maximum_major ∨
    endpoint.startup_nonce.isZero

/-- `EndpointDescriptor::encode`, on the fields. -/
def encode (endpoint : EndpointFields) : List UInt8 :=
  Cbor.array 8 ++ (encodeU8 endpointSchema ++ (Cbor.text endpoint.pipe_name ++
    (encodeU32 endpoint.agent_process_id ++ (encodeU64 endpoint.agent_process_creation_time ++
    (Cbor.text endpoint.package_full_name ++ (encodeU16 endpoint.minimum_major ++
    (encodeU16 endpoint.maximum_major ++ Cbor.bytes endpoint.startup_nonce.val)))))))

end EndpointFields

/-- Non-secret discovery record. It is never an authorization credential. -/
structure EndpointDescriptor extends EndpointFields where
  /-- The constructor has validated the fields. -/
  validated : toEndpointFields.invalid = false
  bounded : ¬toEndpointFields.encode.length > maxEndpointDescriptorBytes
  deriving DecidableEq

namespace EndpointDescriptor

/-- `EndpointDescriptor::new`. -/
def new (endpoint : EndpointFields) : Except ProtocolError EndpointDescriptor :=
  if h : endpoint.invalid = false then
    if h' : endpoint.encode.length > maxEndpointDescriptorBytes then .error .tooLarge
    else .ok ⟨endpoint, h, h'⟩
  else .error .invariantViolation

/-- `EndpointDescriptor::encode`. -/
def encode (endpoint : EndpointDescriptor) : List UInt8 := endpoint.toEndpointFields.encode

/-- The reads of `EndpointDescriptor::decode`. -/
def decodeFrom : Decoder EndpointFields := do
  expectArray 8
  if (← decodeU8) ≠ endpointSchema then throw .unsupported
  let pipe_name ← decodeBoundedText maxPipeNameBytes
  let process_id ← decodeU32
  let creation_time ← decodeU64
  let package ← decodeBoundedText maxPackageNameBytes
  let minimum ← decodeU16
  let maximum ← decodeU16
  let nonce ← decodeFixedBytes 32
  return ⟨pipe_name, process_id, creation_time, package, minimum, maximum, nonce⟩

/-- `EndpointDescriptor::decode`. -/
def decode (bytes : List UInt8) : Except ProtocolError EndpointDescriptor :=
  Codec.checked .nonCanonical (infallible encode)
    (parseWithin maxEndpointDescriptorBytes decodeFrom new) bytes

theorem decodeFrom_reads {endpoint : EndpointFields}
    (hpipe : endpoint.pipe_name.utf8ByteSize ≤ maxPipeNameBytes)
    (hpackage : endpoint.package_full_name.utf8ByteSize ≤ maxPackageNameBytes) :
    Reads decodeFrom endpoint.encode endpoint := by
  refine (expectArray_reads (by norm_num)).bind ((decodeU8_reads _).bind ?_)
  rw [if_neg (not_not.mpr rfl)]
  refine (decodeBoundedText_reads (by decide) hpipe).bind ?_
  refine (decodeU32_reads _).bind ((decodeU64_reads _).bind ?_)
  refine (decodeBoundedText_reads (by decide) hpackage).bind ?_
  refine (decodeU16_reads _).bind ((decodeU16_reads _).bind ?_)
  exact (decodeFixedBytes_reads (by norm_num) _).bind_last (Reads.pure endpoint)

/-- `EndpointDescriptor` has one encoding per value. -/
theorem canonical : Codec.Canonical (infallible encode) decode := by
  refine Codec.Canonical.of_checked fun endpoint bytes hencode => ?_
  cases hencode
  have hvalid := endpoint.validated
  simp only [EndpointFields.invalid, decide_eq_false_iff_not, not_or, not_lt] at hvalid
  have hread := decodeFrom_reads hvalid.2.1 hvalid.2.2.2.1
  refine parseWithin_eq_ok (not_lt.mp endpoint.bounded) hread ?_
  rw [new, dif_pos endpoint.validated, dif_neg endpoint.bounded]

end EndpointDescriptor

/-! ## Envelopes -/

/-- `MAX_REQUEST_BODY_BYTES`. -/
def maxRequestBodyBytes : ℕ := maxPayloadBytes - 128

/-- What an envelope's encoder does after it has written: the payload is bounded. -/
def checkedPayload (bytes : List UInt8) : Except EncodeFault (List UInt8) :=
  if bytes.length > maxPayloadBytes then .error (.returned .tooLarge) else .ok bytes

/-- The bytes of an envelope that was encoded. -/
theorem eq_of_checkedPayload {items : List (List UInt8)} {bytes : List UInt8}
    (h : (writeItems maxPayloadBytes [] items >>= checkedPayload) = .ok bytes) :
    bytes = items.flatten ∧ bytes.length ≤ maxPayloadBytes := by
  obtain ⟨written, hwritten, hchecked⟩ := Except.bind_eq_ok.mp h
  obtain ⟨hsize, hsame⟩ := Except.ite_error_eq_ok.mp hchecked
  cases hsame
  exact ⟨eq_of_writeItems hwritten, not_lt.mp hsize⟩

namespace Wire

/-- The fields of a request, before validation. -/
structure RequestFields where
  operation : OperationCode
  unlock_epoch : UInt64
  timeout_ms : UInt32
  idempotency_key : Option (Bytes 16)
  body : List UInt8
  deriving DecidableEq

/-- The check of `RequestEnvelope::new`. -/
def RequestFields.invalid (request : RequestFields) : Bool :=
  request.timeout_ms = 0 ∨ request.body.length > maxRequestBodyBytes ∨
    request.idempotency_key.isSome ∧ ¬request.operation.requiresIdempotencyKey

/-- A request envelope as it is on the wire. -/
structure RequestEnvelope extends RequestFields where
  /-- The constructor has validated the fields. -/
  validated : toRequestFields.invalid = false
  deriving DecidableEq

namespace RequestEnvelope

/-- `RequestEnvelope::new`. -/
def new (request : RequestFields) : Except ProtocolError RequestEnvelope :=
  if h : request.invalid = false then .ok ⟨request, h⟩ else .error .invariantViolation

/-- An idempotency key, or null. -/
def encodeKey : Option (Bytes 16) → List UInt8
  | some key => Cbor.bytes key.val
  | none => Cbor.null

/-- What `RequestEnvelope::encode` writes. -/
def items (request : RequestFields) : List (List UInt8) :=
  [Cbor.array 5, encodeU16 (UInt16.ofNat request.operation.code), encodeU64 request.unlock_epoch,
    encodeU32 request.timeout_ms, encodeKey request.idempotency_key, Cbor.bytes request.body]

/-- `RequestEnvelope::encode`. -/
def encode (request : RequestEnvelope) : Except EncodeFault (List UInt8) :=
  writeItems maxPayloadBytes [] (items request.toRequestFields) >>= checkedPayload

/-- The first reads of `RequestEnvelope::decode`, which are all of `peek_operation`. -/
def decodeOperation : Decoder OperationCode := do
  expectArray 5
  decodeCode OperationCode.fromU64 (← decodeU16).toNat

/-- The reads of `RequestEnvelope::decode`. -/
def decodeFrom : Decoder RequestFields := do
  let operation ← decodeOperation
  let unlock_epoch ← decodeU64
  let timeout_ms ← decodeU32
  let idempotency_key ← decodeOptionalFixedBytes 16
  let body ← decodeBoundedBytes maxRequestBodyBytes
  return ⟨operation, unlock_epoch, timeout_ms, idempotency_key, body⟩

/-- `RequestEnvelope::decode`, up to the comparison with the encoding. -/
def parse : List UInt8 → Except ProtocolError RequestEnvelope :=
  parseWithin maxPayloadBytes decodeFrom new

/-- `RequestEnvelope::decode`. -/
def decode (bytes : List UInt8) : Except EncodeFault RequestEnvelope :=
  Codec.checked (.returned .nonCanonical) encode (fun bytes => (parse bytes).mapErr .returned) bytes

/-- `RequestEnvelope::peek_operation`. What follows the operation is not looked at. -/
def peekOperation (bytes : List UInt8) : Except ProtocolError OperationCode := do
  if bytes.length > maxPayloadBytes then throw .tooLarge
  let (operation, _) ← decodeOperation bytes
  return operation

theorem decodeKey_reads (key : Option (Bytes 16)) :
    Reads (decodeOptionalFixedBytes 16) (encodeKey key) key := by
  intro rest
  cases key with
  | none => rfl
  | some key =>
    have hread := ((decodeFixedBytes_reads (by norm_num) key).map some) rest
    -- A byte string starts with a byte of its own major type, which is not that of null.
    have hhead : Cbor.head 2 key.val.length = [0x50] := by
      rw [key.property]
      rfl
    show decodeOptionalFixedBytes 16 (Cbor.bytes key.val ++ rest) = _
    unfold Cbor.bytes at hread ⊢
    rw [hhead] at hread ⊢
    exact hread

theorem decodeOperation_reads (operation : OperationCode) :
    Reads decodeOperation (Cbor.array 5 ++ encodeU16 (UInt16.ofNat operation.code)) operation := by
  refine (expectArray_reads (by norm_num)).bind ?_
  exact (decodeU16_reads _).bind_last (decodeCode_reads operation.fromU64_code)

theorem decodeFrom_reads {request : RequestFields}
    (h : request.body.length ≤ maxRequestBodyBytes) :
    Reads decodeFrom (items request).flatten request := by
  have hread : Reads decodeFrom _ request := (decodeOperation_reads request.operation).bind
    ((decodeU64_reads request.unlock_epoch).bind ((decodeU32_reads request.timeout_ms).bind
    ((decodeKey_reads request.idempotency_key).bind
    ((decodeBoundedBytes_reads (by decide) h).bind_last (Reads.pure request)))))
  simpa [items, List.append_assoc] using hread

/-- `RequestEnvelope` has one encoding per value that can be encoded. -/
theorem canonical : Codec.Canonical encode decode := by
  refine Codec.Canonical.of_checked fun request bytes hencode => ?_
  obtain ⟨rfl, hsize⟩ := eq_of_checkedPayload hencode
  have hvalid := request.validated
  simp only [RequestFields.invalid, decide_eq_false_iff_not, not_or, not_lt] at hvalid
  exact Except.mapErr_eq_ok.mpr
    (parseWithin_eq_ok hsize (decodeFrom_reads hvalid.2.1) (dif_pos request.validated))

/-- What is accepted has the operation that was peeked. -/
theorem peekOperation_of_decode {bytes : List UInt8} {request : RequestEnvelope}
    (h : decode bytes = .ok request) : peekOperation bytes = .ok request.operation := by
  obtain ⟨rfl, hsize⟩ := eq_of_checkedPayload (Codec.checked_eq_ok.mp h).2
  have hread := decodeOperation_reads request.operation
    (encodeU64 request.unlock_epoch ++ (encodeU32 request.timeout_ms ++
      (encodeKey request.idempotency_key ++ Cbor.bytes request.body)))
  unfold peekOperation
  rw [if_neg (not_lt.mpr hsize)]
  simp only [items, List.flatten_cons, List.flatten_nil, List.append_nil]
  rw [List.append_assoc] at hread
  rw [hread]
  rfl

end RequestEnvelope

end Wire

namespace ResponseEnvelope

/-- The code of an error, where zero is success. -/
def errorCode (error : Option PublicErrorCode) : UInt8 := error.elim 0 PublicErrorCode.code

/-- What `ResponseEnvelope::encode` writes. -/
def items (response : ResponseFields) : List (List UInt8) :=
  [Cbor.array 4, encodeU8 (errorCode response.error), encodeU8 response.retry.code,
    Cbor.bytes response.correlation_id.val, Cbor.bytes response.body]

/-- `ResponseEnvelope::encode`. -/
def encode (response : ResponseEnvelope) : Except EncodeFault (List UInt8) :=
  writeItems maxPayloadBytes [] (items response.toResponseFields) >>= checkedPayload

/-- The error that a code names. -/
def decodeError (raw_error : UInt8) : Decoder (Option PublicErrorCode) :=
  if raw_error = 0 then pure none
  else some <$> decodeCode PublicErrorCode.fromU64 raw_error.toNat

/-- The reads of `ResponseEnvelope::decode`. -/
def decodeFrom : Decoder ResponseFields := do
  expectArray 4
  let error ← decodeError (← decodeU8)
  let retry ← decodeCode RetryCategory.fromU64 (← decodeU8).toNat
  let correlation_id ← decodeFixedBytes 16
  let body ← decodeBoundedBytes maxResponseBodyBytes
  return ⟨error, retry, correlation_id, body⟩

/-- `ResponseEnvelope::decode`, up to the comparison with the encoding. -/
def parse : List UInt8 → Except ProtocolError ResponseEnvelope :=
  parseWithin maxPayloadBytes decodeFrom new

/-- `ResponseEnvelope::decode`. -/
def decode (bytes : List UInt8) : Except EncodeFault ResponseEnvelope :=
  Codec.checked (.returned .nonCanonical) encode (fun bytes => (parse bytes).mapErr .returned) bytes

theorem decodeError_reads (error : Option PublicErrorCode) :
    Reads (decodeError (errorCode error)) [] error := by
  cases error with
  | none => exact Reads.pure none
  | some error =>
    obtain ⟨hcode, hfrom⟩ := error.fromU64_code
    unfold decodeError errorCode Option.elim
    rw [if_neg hcode]
    exact (decodeCode_reads hfrom).map some

theorem decodeFrom_reads {response : ResponseFields}
    (h : response.body.length ≤ maxResponseBodyBytes) :
    Reads decodeFrom (items response).flatten response := by
  simp only [items, List.flatten_cons, List.flatten_nil, List.append_nil]
  refine (expectArray_reads (by norm_num)).bind ?_
  refine (decodeU8_reads _).bind ((decodeError_reads _).bind_first ?_)
  refine (decodeU8_reads _).bind ((decodeCode_reads (RetryCategory.fromU64_code _)).bind_first ?_)
  refine (decodeFixedBytes_reads (by norm_num) _).bind ?_
  exact (decodeBoundedBytes_reads (by decide) h).bind_last (Reads.pure response)

/-- `ResponseEnvelope` has one encoding per value that can be encoded. -/
theorem canonical : Codec.Canonical encode decode := by
  refine Codec.Canonical.of_checked fun response bytes hencode => ?_
  obtain ⟨rfl, hsize⟩ := eq_of_checkedPayload hencode
  have hvalid := response.validated
  simp only [ResponseFields.invalid, decide_eq_false_iff_not, not_or, not_lt] at hvalid
  exact Except.mapErr_eq_ok.mpr
    (parseWithin_eq_ok hsize (decodeFrom_reads hvalid.1) (dif_pos response.validated))

end ResponseEnvelope

/-! ## Events -/

/-- Bounded non-secret state transition sent by the agent. -/
structure AgentEvent where
  state : AgentState
  unlock_epoch : UInt64
  deriving DecidableEq

namespace AgentEvent

/-- `AgentEvent::encode`. -/
def encode (event : AgentEvent) : List UInt8 :=
  Cbor.array 2 ++ (encodeU8 event.state.code ++ encodeU64 event.unlock_epoch)

/-- The reads of `AgentEvent::decode`. -/
def decodeFrom : Decoder AgentEvent := do
  expectArray 2
  let state ← decodeCode AgentState.fromU64 (← decodeU8).toNat
  let unlock_epoch ← decodeU64
  return ⟨state, unlock_epoch⟩

/-- `AgentEvent::decode`. The payload is not bounded here. -/
def decode (bytes : List UInt8) : Except ProtocolError AgentEvent :=
  Codec.checked .nonCanonical (infallible encode) (Cursor.all .malformed decodeFrom) bytes

theorem decodeFrom_reads (event : AgentEvent) : Reads decodeFrom event.encode event := by
  refine (expectArray_reads (by norm_num)).bind ?_
  refine (decodeU8_reads _).bind ((decodeCode_reads (AgentState.fromU64_code _)).bind_first ?_)
  exact (decodeU64_reads _).bind_last (Reads.pure event)

/-- `AgentEvent` has one encoding per value. -/
theorem canonical : Codec.Canonical (infallible encode) decode := by
  refine Codec.Canonical.of_checked fun event bytes hencode => ?_
  cases hencode
  exact event.decodeFrom_reads.all_eq

end AgentEvent

end Librarian.Protocol
