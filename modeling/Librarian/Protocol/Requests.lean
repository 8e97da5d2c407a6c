import Librarian.Protocol.Messages

/-!
# The codecs of request bodies

`OperationRequest`, with its accounts, proofs and browser contexts, and the two bodies of browser
responses. The shape of a body depends on the operation, which the envelope carries, so a body is
decoded with an operation code, and two operations may share an encoding.
-/

namespace Librarian.Protocol

open Cursor (Reads Yields)

/-! ## Browser values -/

namespace BrowserContext

/-- `BrowserContext::encode_into`. The frame of a context is always the top frame. -/
def items (context : BrowserContext) : List (List UInt8) :=
  [Cbor.array 6, Cbor.bytes context.request_id.val, encodeU32 context.tab_id, encodeU32 0,
    Cbor.bytes context.document_id.val, Cbor.text context.top_origin,
    Cbor.text context.frame_origin]

/-- `BrowserContext::decode_from`. -/
def decodeFrom : Decoder BrowserContext := do
  expectArray 6
  let request_id ← decodeFixedBytes 16
  let tab_id ← decodeU32
  let frame_id ← decodeU32
  let document_id ← decodeFixedBytes 16
  let top_origin ← decodeBoundedText 2048
  let frame_origin ← decodeBoundedText 2048
  liftM (BrowserContext.new request_id tab_id frame_id document_id top_origin frame_origin)

/-- A context passes the checks of its constructor. -/
theorem new_eq_ok (context : BrowserContext) :
    BrowserContext.new context.request_id context.tab_id 0 context.document_id context.top_origin
      context.frame_origin = .ok context := by
  rw [BrowserContext.new, dif_neg context.accepted, if_neg (not_not.mpr rfl),
    dif_neg context.bounded]

theorem decodeFrom_reads (context : BrowserContext) :
    Reads decodeFrom context.items.flatten context := by
  obtain ⟨htop, hframe⟩ := not_or.mp context.bounded
  simp only [items, List.flatten_cons, List.flatten_nil, List.append_nil]
  refine (expectArray_reads (by norm_num)).bind ?_
  refine (decodeFixedBytes_reads (by norm_num) _).bind ?_
  refine (decodeU32_reads _).bind ((decodeU32_reads _).bind ?_)
  refine (decodeFixedBytes_reads (by norm_num) _).bind ?_
  refine (decodeBoundedText_reads (by norm_num) (not_lt.mp htop)).bind ?_
  refine (decodeBoundedText_reads (by norm_num) (not_lt.mp hframe)).bind_last ?_
  exact Reads.lift context.new_eq_ok

end BrowserContext

namespace BrowserSelection

/-- `BrowserSelection::encode_into`. -/
def items (selection : BrowserSelection) : List (List UInt8) :=
  [Cbor.array 3, Cbor.bytes selection.token.val, Cbor.bytes selection.record_id.val,
    encodeU64 selection.revision]

/-- The fields of a selection, and the checks of its constructor. -/
def decodeFields : Decoder BrowserSelection := do
  let token ← decodeFixedBytes 16
  let record_id ← decodeFixedBytes 16
  let revision ← decodeU64
  liftM ((BrowserSelection.new token record_id revision).okOr ProtocolError.invariantViolation)

/-- `BrowserSelection::decode_from`. -/
def decodeFrom : Decoder BrowserSelection := do
  expectArray 3
  decodeFields

/-- What `BrowserSelection::encode_optional` writes. -/
def optionalItems : Option BrowserSelection → List (List UInt8)
  | some selection => selection.items
  | none => [Cbor.array 0]

/-- `BrowserSelection::encode_optional`. -/
def encodeOptional (selection : Option BrowserSelection) : Except EncodeFault (List UInt8) :=
  writeItems 64 [] (optionalItems selection)

/-- The reads of `BrowserSelection::decode_optional`. -/
def decodeOptionalFrom : Decoder (Option BrowserSelection) := do
  let count ← decodeArrayLength 3
  if count = 0 then return none
  else if count = 3 then some <$> decodeFields
  else throw .malformed

/-- `BrowserSelection::decode_optional`. -/
def decodeOptional (bytes : List UInt8) : Except EncodeFault (Option BrowserSelection) :=
  Codec.checked (.returned .nonCanonical) encodeOptional
    (fun bytes => (parseWithin 64 decodeOptionalFrom .ok bytes).mapErr .returned) bytes

theorem decodeFields_reads (selection : BrowserSelection) :
    Reads decodeFields (Cbor.bytes selection.token.val ++ (Cbor.bytes selection.record_id.val ++
      encodeU64 selection.revision)) selection := by
  refine (decodeFixedBytes_reads (by norm_num) _).bind ?_
  refine (decodeFixedBytes_reads (by norm_num) _).bind ?_
  refine (decodeU64_reads _).bind_last (Reads.lift ?_)
  rw [BrowserSelection.new, dif_neg selection.accepted]
  rfl

theorem decodeFrom_reads (selection : BrowserSelection) :
    Reads decodeFrom selection.items.flatten selection := by
  simp only [items, List.flatten_cons, List.flatten_nil, List.append_nil]
  exact (expectArray_reads (by norm_num)).bind selection.decodeFields_reads

theorem decodeOptionalFrom_reads (selection : Option BrowserSelection) :
    Reads decodeOptionalFrom (optionalItems selection).flatten selection := by
  cases selection with
  | none =>
    simp only [optionalItems, List.flatten_cons, List.flatten_nil, List.append_nil]
    exact (decodeArrayLength_reads (by norm_num) (by norm_num)).bind_last (Reads.pure none)
  | some selection =>
    simp only [optionalItems, items, List.flatten_cons, List.flatten_nil, List.append_nil]
    exact (decodeArrayLength_reads (by norm_num) (by norm_num)).bind
      (selection.decodeFields_reads.map some)

/-- A selection takes less than its writer's capacity. -/
theorem optionalItems_length_le (selection : Option BrowserSelection) :
    (optionalItems selection).flatten.length ≤ 64 := by
  cases selection with
  | none => decide
  | some selection =>
    have harray : (Cbor.head 4 3).length = 1 := Cbor.head_length_eq_one (by norm_num)
    have htoken := fixedBytes_length_le selection.token
    have hrecord := fixedBytes_length_le selection.record_id
    have hrevision := encodeU64_length_le selection.revision
    simp only [optionalItems, items, List.flatten_cons, List.flatten_nil, List.append_nil,
      List.length_append, Cbor.array]
    omega

/-- An optional `BrowserSelection` has one encoding per value. -/
theorem canonical : Codec.Canonical encodeOptional decodeOptional := by
  refine Codec.Canonical.of_checked fun selection bytes hencode => ?_
  obtain rfl := eq_of_writeItems hencode
  exact Except.mapErr_eq_ok.mpr (parseWithin_eq_ok (optionalItems_length_le selection)
    (decodeOptionalFrom_reads selection) rfl)

end BrowserSelection

/-- Only the username and password of one selected account. -/
structure BrowserCredential where
  username : String
  password : String
  bounded : ¬(username.utf8ByteSize > 1024 ∨ password.utf8ByteSize > 16384)
  deriving DecidableEq

namespace BrowserCredential

/-- `BrowserCredential::new`. -/
def new (username password : String) : Except ProtocolError BrowserCredential :=
  if h : username.utf8ByteSize > 1024 ∨ password.utf8ByteSize > 16384 then .error .tooLarge
  else .ok ⟨username, password, h⟩

/-- What `BrowserCredential::encode` writes. -/
def items (credential : BrowserCredential) : List (List UInt8) :=
  [Cbor.array 2, Cbor.text credential.username, Cbor.text credential.password]

/-- `BrowserCredential::encode`. -/
def encode (credential : BrowserCredential) : Except EncodeFault (List UInt8) :=
  writeItems 17500 [] credential.items

/-- The reads of `BrowserCredential::decode`. The bounds of the two reads are those of the
constructor, which the source does not call here. -/
def decodeFrom : Decoder BrowserCredential := do
  expectArray 2
  let username ← decodeBoundedText 1024
  let password ← decodeBoundedText 16384
  liftM (new username password)

/-- `BrowserCredential::decode`. -/
def decode (bytes : List UInt8) : Except EncodeFault BrowserCredential :=
  Codec.checked (.returned .nonCanonical) encode
    (fun bytes => (parseWithin 17500 decodeFrom .ok bytes).mapErr .returned) bytes

theorem decodeFrom_reads (credential : BrowserCredential) :
    Reads decodeFrom credential.items.flatten credential := by
  obtain ⟨husername, hpassword⟩ := not_or.mp credential.bounded
  simp only [items, List.flatten_cons, List.flatten_nil, List.append_nil]
  refine (expectArray_reads (by norm_num)).bind ?_
  refine (decodeBoundedText_reads (by norm_num) (not_lt.mp husername)).bind ?_
  refine (decodeBoundedText_reads (by norm_num) (not_lt.mp hpassword)).bind_last ?_
  exact Reads.lift (dif_neg credential.bounded)

theorem items_length_le (credential : BrowserCredential) :
    credential.items.flatten.length ≤ 17500 := by
  obtain ⟨husername, hpassword⟩ := not_or.mp credential.bounded
  have harray := Cbor.head_length_le 4 2
  have husername' := Cbor.head_length_le 3 credential.username.utf8ByteSize
  have hpassword' := Cbor.head_length_le 3 credential.password.utf8ByteSize
  simp only [items, List.flatten_cons, List.flatten_nil, List.append_nil, List.length_append,
    Cbor.array, Cbor.text_length]
  omega

/-- `BrowserCredential` has one encoding per value. -/
theorem canonical : Codec.Canonical encode decode := by
  refine Codec.Canonical.of_checked fun credential bytes hencode => ?_
  obtain rfl := eq_of_writeItems hencode
  exact Except.mapErr_eq_ok.mpr
    (parseWithin_eq_ok credential.items_length_le credential.decodeFrom_reads rfl)

end BrowserCredential

/-! ## Accounts and proofs -/

namespace AccountFields

/-- `encode_account_fields`. -/
def items (fields : AccountFields) : List (List UInt8) :=
  [Cbor.text fields.service_name, Cbor.text fields.permitted_origin, Cbor.text fields.username,
    Cbor.text fields.password]

/-- `decode_account_fields`. The bounds of the four reads are those of the constructor, which the
source does not call here. -/
def decodeFrom : Decoder AccountFields := do
  let service_name ← decodeBoundedText maxServiceNameBytes
  let permitted_origin ← decodeBoundedText maxOriginBytes
  let username ← decodeBoundedText maxUsernameBytes
  let password ← decodeBoundedText maxPasswordBytes
  liftM (AccountFields.new service_name permitted_origin username password)

theorem decodeFrom_reads (fields : AccountFields) :
    Reads decodeFrom fields.items.flatten fields := by
  have hbounded := fields.bounded
  simp only [not_or, not_lt] at hbounded
  obtain ⟨hservice, horigin, husername, hpassword⟩ := hbounded
  simp only [items, List.flatten_cons, List.flatten_nil, List.append_nil]
  refine (decodeBoundedText_reads (by decide) hservice).bind ?_
  refine (decodeBoundedText_reads (by decide) horigin).bind ?_
  refine (decodeBoundedText_reads (by decide) husername).bind ?_
  refine (decodeBoundedText_reads (by decide) hpassword).bind_last ?_
  exact Reads.lift (dif_neg fields.bounded)

end AccountFields

namespace PasskeyRequestProof

/-- `encode_passkey_request_proof`. -/
def items (proof : PasskeyRequestProof) : List (List UInt8) :=
  [Cbor.bytes proof.transaction_id.val, encodeU8 proof.request_type,
    Cbor.bytes proof.request_signature, Cbor.bytes proof.encoded_request]

/-- `decode_passkey_request_proof`. -/
def decodeFrom : Decoder PasskeyRequestProof := do
  let transaction_id ← decodeFixedBytes 16
  let request_type ← decodeU8
  let request_signature ← decodeBoundedBytes maxPasskeySignatureBytes
  let encoded_request ← decodeBoundedBytes maxPasskeyEncodedRequestBytes
  liftM (PasskeyRequestProof.new transaction_id request_type request_signature encoded_request)

/-- A proof passes the checks of its constructor. -/
theorem new_eq_ok (proof : PasskeyRequestProof) :
    PasskeyRequestProof.new proof.transaction_id proof.request_type proof.request_signature
      proof.encoded_request = .ok proof := by
  rw [PasskeyRequestProof.new, dif_neg proof.accepted, dif_neg proof.bounded]

theorem decodeFrom_reads (proof : PasskeyRequestProof) :
    Reads decodeFrom proof.items.flatten proof := by
  obtain ⟨hsignature, hrequest⟩ := not_or.mp proof.bounded
  simp only [items, List.flatten_cons, List.flatten_nil, List.append_nil]
  refine (decodeFixedBytes_reads (by norm_num) _).bind ((decodeU8_reads _).bind ?_)
  refine (decodeBoundedBytes_reads (by decide) (not_lt.mp hsignature)).bind ?_
  refine (decodeBoundedBytes_reads (by decide) (not_lt.mp hrequest)).bind_last ?_
  exact Reads.lift proof.new_eq_ok

end PasskeyRequestProof

namespace PasskeyTransactionProof

/-- `encode_passkey_proof`. -/
def items (proof : PasskeyTransactionProof) : List (List UInt8) :=
  proof.request.items ++
    [Cbor.bytes proof.agent_challenge.val, Cbor.bytes proof.user_verification_signature]

/-- `decode_passkey_proof`. The request is validated when it is read, and again with the whole. -/
def decodeFrom : Decoder PasskeyTransactionProof := do
  let request ← PasskeyRequestProof.decodeFrom
  let agent_challenge ← decodeFixedBytes 16
  let user_verification_signature ← decodeBoundedBytes maxPasskeySignatureBytes
  liftM (PasskeyTransactionProof.new request.transaction_id request.request_type
    request.request_signature request.encoded_request agent_challenge user_verification_signature)

theorem decodeFrom_reads (proof : PasskeyTransactionProof) :
    Reads decodeFrom proof.items.flatten proof := by
  simp only [items, List.flatten_append, List.flatten_cons, List.flatten_nil, List.append_nil]
  refine proof.request.decodeFrom_reads.bind ?_
  refine (decodeFixedBytes_reads (by norm_num) _).bind ?_
  refine (decodeBoundedBytes_reads (by decide) (not_lt.mp proof.bounded)).bind_last ?_
  apply Reads.lift
  rw [PasskeyTransactionProof.new, dif_neg proof.accepted, dif_neg proof.bounded,
    proof.request.new_eq_ok]
  rfl

end PasskeyTransactionProof

/-! ## Operation requests -/

namespace OperationRequest

/-- `master_password`. -/
def masterPassword : OperationRequest → Option String
  | createVault master_password | unlockMasterPassword master_password => some master_password
  | _ => none

/-- `list_window`. -/
def listWindow : OperationRequest → Option (UInt32 × UInt16)
  | listAccountSummaries offset limit => some (offset, limit)
  | _ => none

/-- `parent_window`. -/
def parentWindow : OperationRequest → Option UInt64
  | enrollWindowsHello parent_window | unlockWindowsHello parent_window => some parent_window
  | _ => none

/-- `limit == 0 || limit > MAX_LIST_PAGE_SIZE`. -/
def badLimit (limit : UInt16) : Bool := limit = 0 ∨ limit.toNat > maxListPageSize

/-- What `OperationRequest::encode` writes. -/
def items : OperationRequest → List (List UInt8)
  | exactOriginMatches context => Cbor.array 1 :: context.items
  | getSelectedCredential context selection => Cbor.array 2 :: (context.items ++ selection.items)
  | status | lock | removeWindowsHello | listPasskeys => [Cbor.array 0]
  | createVault master_password | unlockMasterPassword master_password =>
    [Cbor.array 1, Cbor.text master_password]
  | listAccountSummaries offset limit => [Cbor.array 2, encodeU32 offset, encodeU16 limit]
  | getAccount id | deleteAccount id => [Cbor.array 1, Cbor.bytes id.val]
  | addAccount fields => Cbor.array 4 :: fields.items
  | updateAccount id fields => Cbor.array 5 :: Cbor.bytes id.val :: fields.items
  | enrollWindowsHello parent_window | unlockWindowsHello parent_window =>
    [Cbor.array 1, encodeU64 parent_window]
  | makePasskey proof => Cbor.array 6 :: proof.items
  | getPasskeyAssertion proof credential_id | confirmPasskeyCreation proof credential_id
  | rollbackPasskeyCreation proof credential_id =>
    Cbor.array 7 :: (proof.items ++ [Cbor.bytes credential_id.val])
  | deletePasskey credential_id => [Cbor.array 1, Cbor.bytes credential_id.val]
  | listPasskeysForAssertion proof => Cbor.array 4 :: proof.items

/-- `OperationRequest::encode`. -/
def encode (request : OperationRequest) : Except EncodeFault (List UInt8) := do
  if request.masterPassword.any fun password => password.utf8ByteSize > maxMasterPasswordBytes then
    throw (.returned .tooLarge)
  if request.listWindow.any fun window => badLimit window.2 then
    throw (.returned .invariantViolation)
  if request.parentWindow = some 0 then throw (.returned .invariantViolation)
  let bytes ← writeItems maxPayloadBytes [] request.items
  -- `checked_request_body`
  if bytes.length > maxRequestBodyBytes then throw (.returned .tooLarge)
  return bytes

/-- `decode_parent_window`. -/
def decodeParentWindow : Decoder UInt64 := do
  expectArray 1
  let parent_window ← decodeU64
  if parent_window = 0 then throw .invariantViolation
  return parent_window

/-- `decode_browser_request`. -/
def decodeBrowserRequest (operation : OperationCode) : Decoder OperationRequest :=
  if operation = .exactOriginMatches then do
    expectArray 1
    return exactOriginMatches (← BrowserContext.decodeFrom)
  else do
    expectArray 2
    let context ← BrowserContext.decodeFrom
    return getSelectedCredential context (← BrowserSelection.decodeFrom)

/-- A proof with a credential, of the three operations that carry both. -/
def decodeProofAndCredential
    (request : PasskeyTransactionProof → Bytes 32 → OperationRequest) :
    Decoder OperationRequest := do
  expectArray 7
  let proof ← PasskeyTransactionProof.decodeFrom
  return request proof (← decodeFixedBytes 32)

/-- `decode_passkey_request`. -/
def decodePasskeyRequest : OperationCode → Decoder OperationRequest
  | .makePasskey => do
    expectArray 6
    return makePasskey (← PasskeyTransactionProof.decodeFrom)
  | .getPasskeyAssertion => decodeProofAndCredential getPasskeyAssertion
  | .deletePasskey => do
    expectArray 1
    return deletePasskey (← decodeFixedBytes 32)
  | .listPasskeysForAssertion => do
    expectArray 4
    return listPasskeysForAssertion (← PasskeyRequestProof.decodeFrom)
  | .rollbackPasskeyCreation => decodeProofAndCredential rollbackPasskeyCreation
  | .confirmPasskeyCreation => decodeProofAndCredential confirmPasskeyCreation
  | _ => throw .unsupported

/-- An empty body. -/
def decodeEmpty (request : OperationRequest) : Decoder OperationRequest := do
  expectArray 0
  return request

/-- The reads of `OperationRequest::decode`. -/
def decodeFrom : OperationCode → Decoder OperationRequest
  | .status => decodeEmpty status
  | .createVault => do
    expectArray 1
    return createVault (← decodeBoundedText maxMasterPasswordBytes)
  | .unlockMasterPassword => do
    expectArray 1
    return unlockMasterPassword (← decodeBoundedText maxMasterPasswordBytes)
  | .lock => decodeEmpty lock
  | .listAccountSummaries => do
    expectArray 2
    let offset ← decodeU32
    let limit ← decodeU16
    if badLimit limit then throw .invariantViolation
    return listAccountSummaries offset limit
  | .getAccount => do
    expectArray 1
    return getAccount (← decodeFixedBytes 16)
  | .addAccount => do
    expectArray 4
    return addAccount (← AccountFields.decodeFrom)
  | .updateAccount => do
    expectArray 5
    let id ← decodeFixedBytes 16
    return updateAccount id (← AccountFields.decodeFrom)
  | .deleteAccount => do
    expectArray 1
    return deleteAccount (← decodeFixedBytes 16)
  | .enrollWindowsHello => do return enrollWindowsHello (← decodeParentWindow)
  | .unlockWindowsHello => do return unlockWindowsHello (← decodeParentWindow)
  | .removeWindowsHello => decodeEmpty removeWindowsHello
  | .listPasskeys => decodeEmpty listPasskeys
  | .makePasskey => decodePasskeyRequest .makePasskey
  | .getPasskeyAssertion => decodePasskeyRequest .getPasskeyAssertion
  | .deletePasskey => decodePasskeyRequest .deletePasskey
  | .listPasskeysForAssertion => decodePasskeyRequest .listPasskeysForAssertion
  | .confirmPasskeyCreation => decodePasskeyRequest .confirmPasskeyCreation
  | .rollbackPasskeyCreation => decodePasskeyRequest .rollbackPasskeyCreation
  | .exactOriginMatches => decodeBrowserRequest .exactOriginMatches
  | .getSelectedCredential => decodeBrowserRequest .getSelectedCredential
  | .captureCredential | .updateCredential => throw .unsupported

/-- `OperationRequest::decode`, up to the comparison with the encoding. -/
def parse (operation : OperationCode) : List UInt8 → Except ProtocolError OperationRequest :=
  parseWithin maxPayloadBytes (decodeFrom operation) .ok

/-- `OperationRequest::decode`. -/
def decode (operation : OperationCode) (bytes : List UInt8) : Except EncodeFault OperationRequest :=
  Codec.checked (.returned .nonCanonical) encode
    (fun bytes => (parse operation bytes).mapErr .returned) bytes

/-- What the encoder requires of a request, besides its size. -/
structure Encodable (request : OperationRequest) : Prop where
  password : ∀ password, request.masterPassword = some password →
    password.utf8ByteSize ≤ maxMasterPasswordBytes
  limit : ∀ window, request.listWindow = some window → badLimit window.2 = false
  window : request.parentWindow ≠ some 0

/-- A request that is encoded meets the requirements, and its bytes are those of its items. -/
theorem of_encode {request : OperationRequest} {bytes : List UInt8}
    (h : request.encode = .ok bytes) :
    request.Encodable ∧ bytes = request.items.flatten ∧ bytes.length ≤ maxPayloadBytes := by
  unfold encode at h
  simp only [Except.throw_eq, Except.error_bind, Except.bind_eq_ok, Except.ite_error_eq_ok,
    Except.pure_eq] at h
  obtain ⟨hpassword, hlimit, hwindow, written, hwritten, hsize, hsame⟩ := h
  cases hsame
  have hle : bytes.length ≤ maxPayloadBytes := (not_lt.mp hsize).trans (Nat.sub_le _ _)
  refine ⟨⟨?_, ?_, hwindow⟩, eq_of_writeItems hwritten, hle⟩
  · intro password heq
    rw [heq] at hpassword
    simpa using hpassword
  · intro window heq
    rw [heq] at hlimit
    simpa using hlimit

theorem decodeParentWindow_reads {parent_window : UInt64} (h : parent_window ≠ 0) :
    Reads decodeParentWindow (Cbor.array 1 ++ encodeU64 parent_window) parent_window := by
  refine (expectArray_reads (by norm_num)).bind ((decodeU64_reads _).bind_last ?_)
  rw [if_neg h]
  exact Reads.pure parent_window

theorem decodeProofAndCredential_reads
    (request : PasskeyTransactionProof → Bytes 32 → OperationRequest)
    (proof : PasskeyTransactionProof) (credential_id : Bytes 32) :
    Reads (decodeProofAndCredential request)
      (Cbor.array 7 ++ (proof.items.flatten ++ Cbor.bytes credential_id.val))
      (request proof credential_id) := by
  refine (expectArray_reads (by norm_num)).bind (proof.decodeFrom_reads.bind ?_)
  exact (decodeFixedBytes_reads (by norm_num) _).bind_last (Reads.pure _)

/-- Every body is read back with its own operation code. -/
theorem decodeFrom_reads {request : OperationRequest} (h : request.Encodable) :
    Reads (decodeFrom request.operation) request.items.flatten request := by
  have hempty (request : OperationRequest) :
      Reads (decodeEmpty request) (Cbor.array 0) request :=
    (expectArray_reads (by norm_num)).bind_last (Reads.pure request)
  cases request with
  | status | lock | removeWindowsHello | listPasskeys => exact hempty _
  | exactOriginMatches context =>
    exact (expectArray_reads (by norm_num)).bind (context.decodeFrom_reads.bind_last (Reads.pure _))
  | getSelectedCredential context selection =>
    simp only [items, List.flatten_cons, List.flatten_append]
    exact (expectArray_reads (by norm_num)).bind (context.decodeFrom_reads.bind
      (selection.decodeFrom_reads.bind_last (Reads.pure _)))
  | createVault master_password | unlockMasterPassword master_password =>
    simp only [items, List.flatten_cons, List.flatten_nil, List.append_nil]
    exact (expectArray_reads (by norm_num)).bind ((decodeBoundedText_reads (by decide)
      (h.password _ rfl)).bind_last (Reads.pure _))
  | listAccountSummaries offset limit =>
    simp only [items, List.flatten_cons, List.flatten_nil, List.append_nil]
    refine (expectArray_reads (by norm_num)).bind ((decodeU32_reads _).bind ?_)
    refine (decodeU16_reads _).bind_last ?_
    rw [h.limit _ rfl]
    exact Reads.pure _
  | getAccount id | deleteAccount id | deletePasskey id =>
    simp only [items, List.flatten_cons, List.flatten_nil, List.append_nil]
    exact (expectArray_reads (by norm_num)).bind
      ((decodeFixedBytes_reads (by norm_num) _).bind_last (Reads.pure _))
  | addAccount fields =>
    exact (expectArray_reads (by norm_num)).bind (fields.decodeFrom_reads.bind_last (Reads.pure _))
  | updateAccount id fields =>
    exact (expectArray_reads (by norm_num)).bind ((decodeFixedBytes_reads (by norm_num) _).bind
      (fields.decodeFrom_reads.bind_last (Reads.pure _)))
  | enrollWindowsHello parent_window | unlockWindowsHello parent_window =>
    simp only [items, List.flatten_cons, List.flatten_nil, List.append_nil]
    have hwindow : parent_window ≠ 0 := fun heq => h.window (congrArg some heq)
    exact (decodeParentWindow_reads hwindow).bind_last (Reads.pure _)
  | makePasskey proof =>
    exact (expectArray_reads (by norm_num)).bind (proof.decodeFrom_reads.bind_last (Reads.pure _))
  | listPasskeysForAssertion proof =>
    exact (expectArray_reads (by norm_num)).bind (proof.decodeFrom_reads.bind_last (Reads.pure _))
  | getPasskeyAssertion proof credential_id | confirmPasskeyCreation proof credential_id
  | rollbackPasskeyCreation proof credential_id =>
    simp only [items, List.flatten_cons, List.flatten_append, List.flatten_nil, List.append_nil]
    exact decodeProofAndCredential_reads _ proof credential_id

/-- What is decoded with an operation code is a request for that operation. -/
theorem decodeFrom_yields (operation : OperationCode) :
    Yields (decodeFrom operation) fun request => request.operation = operation := by
  have hproof (request : PasskeyTransactionProof → Bytes 32 → OperationRequest)
      {operation : OperationCode} (h : ∀ proof id, (request proof id).operation = operation) :
      Yields (decodeProofAndCredential request) fun request => request.operation = operation :=
    .bind fun _ => .bind fun _ => .bind fun _ => .pure (h _ _)
  cases operation with
  | status | lock | removeWindowsHello | listPasskeys => exact .bind fun _ => .pure rfl
  | createVault | unlockMasterPassword | getAccount | addAccount | deleteAccount | makePasskey
  | deletePasskey | listPasskeysForAssertion | exactOriginMatches =>
    exact .bind fun _ => .bind fun _ => .pure rfl
  | enrollWindowsHello | unlockWindowsHello => exact .bind fun _ => .pure rfl
  | updateAccount | getSelectedCredential =>
    exact .bind fun _ => .bind fun _ => .bind fun _ => .pure rfl
  | listAccountSummaries =>
    exact .bind fun _ => .bind fun _ => .bind fun _ => .ite (.throw _) (.pure rfl)
  | getPasskeyAssertion | confirmPasskeyCreation | rollbackPasskeyCreation =>
    exact hproof _ fun _ _ => rfl
  | captureCredential | updateCredential => exact .throw _

/-- A body is read back when it is decoded with its own operation code. -/
theorem decode_encode {request : OperationRequest} {bytes : List UInt8}
    (h : request.encode = .ok bytes) : decode request.operation bytes = .ok request := by
  obtain ⟨hencodable, rfl, hsize⟩ := of_encode h
  have hparse : parse request.operation request.items.flatten = .ok request :=
    parseWithin_eq_ok hsize (decodeFrom_reads hencodable) rfl
  exact Codec.checked_eq_ok.mpr ⟨Except.mapErr_eq_ok.mpr hparse, h⟩

/-- A body that is accepted is the encoding of what it decodes to. -/
theorem encode_decode {operation : OperationCode} {bytes : List UInt8} {request : OperationRequest}
    (h : decode operation bytes = .ok request) : request.encode = .ok bytes :=
  (Codec.checked_eq_ok.mp h).2

/-- A body decodes to a request for the operation that it was decoded with. -/
theorem operation_of_decode {operation : OperationCode} {bytes : List UInt8}
    {request : OperationRequest} (h : decode operation bytes = .ok request) :
    request.operation = operation := by
  have hparse := Except.mapErr_eq_ok.mp (Codec.checked_eq_ok.mp h).1
  simp only [parse, parseWithin, Cursor.all, Except.throw_eq, Except.pure_eq, Except.error_bind,
    Except.bind_eq_ok, Except.ite_error_eq_ok, Except.ok.injEq] at hparse
  obtain ⟨-, request', ⟨⟨request'', rest⟩, hread, -, rfl⟩, rfl⟩ := hparse
  exact decodeFrom_yields operation _ _ _ hread

end OperationRequest

/-- `map_operation_decode_error`: an operation without a schema is told from a malformed body. -/
def DecodeError.ofFault : EncodeFault → DecodeError
  | .returned .unsupported => .unsupported
  | _ => .invalid

/-- The envelope that a connection and the agent work with: what its body decodes to is part of
it. -/
def Wire.RequestEnvelope.view (request : Wire.RequestEnvelope) : Protocol.RequestEnvelope where
  operation := request.operation
  unlock_epoch := request.unlock_epoch.toNat
  timeout_ms := request.timeout_ms.toNat
  idempotency_key := request.idempotency_key
  body := request.body
  decoded := (OperationRequest.decode request.operation request.body).mapErr DecodeError.ofFault
  decoded_operation := by
    intro decoded h
    exact OperationRequest.operation_of_decode (Except.mapErr_eq_ok.mp h)

end Librarian.Protocol
