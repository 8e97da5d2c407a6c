import Librarian.Protocol.Requests
import Librarian.Protocol.Responses

/-!
# The capacity of the protocol's writers

Every encoder of the protocol writes into a `SecretWriter` of fixed capacity and aborts when it is
exceeded. None of them does: the checks that an encoder makes beforehand, and those of the
constructors, bound what it writes. The envelopes always fit the largest payload, and the length that
a response announces is the one it has.
-/

namespace Librarian.Protocol

/-- The encoder ends with bytes or with an error that it returns. -/
def Returns {α : Type} (result : Except EncodeFault α) : Prop := result ≠ .error .panicked

theorem Returns.of_ok {α : Type} {result : Except EncodeFault α} {a : α} (h : result = .ok a) :
    Returns result := by
  rw [h]
  exact fun heq => by cases heq

theorem Returns.bind {α β : Type} {x : Except EncodeFault α} {f : α → Except EncodeFault β}
    (hx : Returns x) (hf : ∀ a, x = .ok a → Returns (f a)) : Returns (x >>= f) := by
  cases x with
  | ok a => exact hf a rfl
  | error e => exact fun heq => hx (by cases heq; rfl)

theorem returns_checkedResponseBody (bytes : List UInt8) : Returns (checkedResponseBody bytes) := by
  unfold checkedResponseBody
  split_ifs
  · exact fun heq => by cases heq
  · exact .of_ok rfl

/-- Items within the capacity of an empty writer are written. -/
theorem writeItems_of_length_le {capacity : ℕ} {items : List (List UInt8)}
    (h : items.flatten.length ≤ capacity) : writeItems capacity [] items = .ok items.flatten :=
  writeItems_eq_ok (by simpa using h)

/-! ## Heads -/

/-- `encoded_byte_string_len` is the length of a byte string. -/
theorem encodedByteStringLen_eq (bytes : List UInt8) :
    ResponseEnvelope.encodedByteStringLen bytes.length = (Cbor.bytes bytes).length := by
  rw [Cbor.bytes_length, ResponseEnvelope.encodedByteStringLen]
  congr 1
  unfold Cbor.head
  split_ifs <;> simp <;> omega

theorem encodeU8_length_eq_one {value : UInt8} (h : value.toNat ≤ 0x17) :
    (encodeU8 value).length = 1 :=
  Cbor.head_length_eq_one h

theorem bytes16_length (value : Bytes 16) : (Cbor.bytes value.val).length = 17 := by
  rw [Cbor.bytes_length, value.property]
  rfl

theorem bytes32_length (value : Bytes 32) : (Cbor.bytes value.val).length = 34 := by
  rw [Cbor.bytes_length, value.property]
  rfl

/-! ## Envelopes -/

namespace Wire.RequestEnvelope

/-- Every request envelope is encoded within the largest payload. -/
theorem encode_eq_ok (request : Wire.RequestEnvelope) :
    ∃ bytes, request.encode = .ok bytes ∧ bytes.length ≤ maxPayloadBytes := by
  have hvalid := request.validated
  simp only [Wire.RequestFields.invalid, decide_eq_false_iff_not, not_or, not_lt] at hvalid
  have hbody := hvalid.2.1
  unfold maxRequestBodyBytes maxPayloadBytes at hbody
  have harray : (Cbor.array 5).length = 1 := Cbor.head_length_eq_one (by norm_num)
  have hoperation := encodeU16_length_le (UInt16.ofNat request.operation.code)
  have hepoch := encodeU64_length_le request.unlock_epoch
  have htimeout := encodeU32_length_le request.timeout_ms
  have hkey : (encodeKey request.idempotency_key).length ≤ 17 := by
    cases request.idempotency_key with
    | none => exact Nat.le_of_ble_eq_true rfl
    | some key => exact (bytes16_length key).le
  have hhead := Cbor.head_length_le 2 request.body.length
  have hfits : (items request.toRequestFields).flatten.length ≤ maxPayloadBytes := by
    simp only [items, List.flatten_cons, List.flatten_nil, List.append_nil, List.length_append,
      Cbor.bytes_length, maxPayloadBytes]
    omega
  have hwritten := writeItems_of_length_le hfits
  refine ⟨(items request.toRequestFields).flatten, ?_, hfits⟩
  rw [encode, hwritten, Except.ok_bind, checkedPayload, if_neg (not_lt.mpr hfits)]

end Wire.RequestEnvelope

namespace ResponseEnvelope

/-- What a response writes is as long as `encoded_len` says. -/
theorem items_length (response : ResponseFields) :
    (items response).flatten.length = 20 + encodedByteStringLen response.body.length := by
  have harray : (Cbor.array 4).length = 1 := Cbor.head_length_eq_one (by norm_num)
  have herror : (encodeU8 (errorCode response.error)).length = 1 := by
    apply encodeU8_length_eq_one
    cases response.error with
    | none => decide
    | some error => cases error <;> decide
  have hretry : (encodeU8 response.retry.code).length = 1 := by
    apply encodeU8_length_eq_one
    cases response.retry <;> decide
  simp only [items, List.flatten_cons, List.flatten_nil, List.append_nil, List.length_append,
    harray, herror, hretry, bytes16_length, encodedByteStringLen_eq]
  omega

/-- Every response is encoded within the largest payload, in the length that it announces. -/
theorem encode_eq_ok (response : ResponseEnvelope) :
    ∃ bytes, response.encode = .ok bytes ∧ bytes.length = response.encodedLen ∧
      bytes.length ≤ maxPayloadBytes := by
  have hlength : (items response.toResponseFields).flatten.length = response.encodedLen :=
    items_length _
  have hfits := hlength.le.trans response.encodedLen_le
  have hwritten := writeItems_of_length_le hfits
  refine ⟨(items response.toResponseFields).flatten, ?_, hlength, hfits⟩
  rw [encode, hwritten, Except.ok_bind, checkedPayload, if_neg (not_lt.mpr hfits)]

/-- A failure fits the smallest limit that a connection can have. -/
theorem failure_fits (limits : ConnectionLimits) {error : PublicErrorCode} {retry : RetryCategory}
    {correlation_id : Bytes 16} {response : ResponseEnvelope}
    (h : failure error retry correlation_id = .ok response) : limits.responseFits response := by
  unfold failure new at h
  split_ifs at h
  cases h
  have hlimit := limits.payload_bounded.1
  exact decide_eq_true hlimit

end ResponseEnvelope

/-! ## Browser values -/

theorem BrowserSelection.encodeOptional_eq_ok (selection : Option BrowserSelection) :
    ∃ bytes, encodeOptional selection = .ok bytes :=
  ⟨_, writeItems_of_length_le (optionalItems_length_le selection)⟩

theorem BrowserCredential.encode_eq_ok (credential : BrowserCredential) :
    ∃ bytes, credential.encode = .ok bytes :=
  ⟨_, writeItems_of_length_le credential.items_length_le⟩

/-! ## Request bodies -/

namespace OperationRequest

theorem context_length_le (context : BrowserContext) :
    context.items.flatten.length ≤ 5000 := by
  have hbounded := context.bounded
  rw [not_or, not_lt, not_lt] at hbounded
  obtain ⟨htop, hframe⟩ := hbounded
  have harray : (Cbor.array 6).length = 1 := Cbor.head_length_eq_one (by norm_num)
  have htab := encodeU32_length_le context.tab_id
  have hzero := encodeU32_length_le 0
  have hhead := Cbor.head_length_le 3 context.top_origin.utf8ByteSize
  have hhead' := Cbor.head_length_le 3 context.frame_origin.utf8ByteSize
  simp only [BrowserContext.items, List.flatten_cons, List.flatten_nil, List.append_nil,
    List.length_append, bytes16_length, Cbor.text_length]
  omega

theorem selection_length_le (selection : BrowserSelection) :
    selection.items.flatten.length ≤ 64 :=
  BrowserSelection.optionalItems_length_le (some selection)

theorem fields_length_le (fields : AccountFields) : fields.items.flatten.length ≤ 20000 := by
  have hbounded := fields.bounded
  simp only [not_or, not_lt, maxServiceNameBytes, maxOriginBytes, maxUsernameBytes,
    maxPasswordBytes] at hbounded
  obtain ⟨hservice, horigin, husername, hpassword⟩ := hbounded
  have h1 := Cbor.head_length_le 3 fields.service_name.utf8ByteSize
  have h2 := Cbor.head_length_le 3 fields.permitted_origin.utf8ByteSize
  have h3 := Cbor.head_length_le 3 fields.username.utf8ByteSize
  have h4 := Cbor.head_length_le 3 fields.password.utf8ByteSize
  simp only [AccountFields.items, List.flatten_cons, List.flatten_nil, List.append_nil,
    List.length_append, Cbor.text_length]
  omega

theorem proof_length_le (proof : PasskeyRequestProof) :
    proof.items.flatten.length ≤ 51300 := by
  have hbounded := proof.bounded
  simp only [not_or, not_lt, maxPasskeySignatureBytes, maxPasskeyEncodedRequestBytes] at hbounded
  obtain ⟨hsignature, hrequest⟩ := hbounded
  have htype := encodeU8_length_le proof.request_type
  have h1 := Cbor.head_length_le 2 proof.request_signature.length
  have h2 := Cbor.head_length_le 2 proof.encoded_request.length
  simp only [PasskeyRequestProof.items, List.flatten_cons, List.flatten_nil, List.append_nil,
    List.length_append, bytes16_length, Cbor.bytes_length proof.request_signature,
    Cbor.bytes_length proof.encoded_request]
  omega

theorem transaction_length_le (proof : PasskeyTransactionProof) :
    proof.items.flatten.length ≤ 53400 := by
  have hbounded := proof.bounded
  rw [not_lt] at hbounded
  unfold maxPasskeySignatureBytes at hbounded
  have hproof := proof_length_le proof.request
  have hhead := Cbor.head_length_le 2 proof.user_verification_signature.length
  simp only [PasskeyTransactionProof.items, List.flatten_append, List.flatten_cons,
    List.flatten_nil, List.append_nil, List.length_append, bytes16_length,
    Cbor.bytes_length proof.user_verification_signature]
  omega

/-- With a master password within its limit, a body fits the writer. -/
theorem items_length_le (request : OperationRequest)
    (hpassword : ∀ password, request.masterPassword = some password →
      password.utf8ByteSize ≤ maxMasterPasswordBytes) :
    request.items.flatten.length ≤ maxPayloadBytes := by
  have harray (n : ℕ) : (Cbor.array n).length ≤ 9 := Cbor.head_length_le 4 n
  unfold maxPayloadBytes
  cases request with
  | status | lock | removeWindowsHello | listPasskeys => decide
  | exactOriginMatches context =>
    have hcontext := context_length_le context
    simp only [items, List.flatten_cons, List.length_append]
    linarith [harray 1]
  | getSelectedCredential context selection =>
    have hcontext := context_length_le context
    have hselection := selection_length_le selection
    simp only [items, List.flatten_cons, List.flatten_append, List.length_append]
    linarith [harray 2]
  | createVault password | unlockMasterPassword password =>
    have hbound := hpassword password rfl
    have hhead := Cbor.head_length_le 3 password.utf8ByteSize
    unfold maxMasterPasswordBytes at hbound
    simp only [items, List.flatten_cons, List.flatten_nil, List.append_nil, List.length_append,
      Cbor.text_length]
    linarith [harray 1]
  | listAccountSummaries offset limit =>
    have hoffset := encodeU32_length_le offset
    have hlimit := encodeU16_length_le limit
    simp only [items, List.flatten_cons, List.flatten_nil, List.append_nil, List.length_append]
    linarith [harray 2]
  | getAccount id | deleteAccount id =>
    simp only [items, List.flatten_cons, List.flatten_nil, List.append_nil, List.length_append,
      bytes16_length]
    linarith [harray 1]
  | addAccount fields =>
    have hfields := fields_length_le fields
    simp only [items, List.flatten_cons, List.length_append]
    linarith [harray 4]
  | updateAccount id fields =>
    have hfields := fields_length_le fields
    simp only [items, List.flatten_cons, List.length_append, bytes16_length]
    linarith [harray 5]
  | enrollWindowsHello parent_window | unlockWindowsHello parent_window =>
    have hwindow := encodeU64_length_le parent_window
    simp only [items, List.flatten_cons, List.flatten_nil, List.append_nil, List.length_append]
    linarith [harray 1]
  | makePasskey proof =>
    have hproof := transaction_length_le proof
    simp only [items, List.flatten_cons, List.length_append]
    linarith [harray 6]
  | listPasskeysForAssertion proof =>
    have hproof := proof_length_le proof
    simp only [items, List.flatten_cons, List.length_append]
    linarith [harray 4]
  | deletePasskey credential_id =>
    simp only [items, List.flatten_cons, List.flatten_nil, List.append_nil, List.length_append,
      bytes32_length]
    linarith [harray 1]
  | getPasskeyAssertion proof credential_id | confirmPasskeyCreation proof credential_id
  | rollbackPasskeyCreation proof credential_id =>
    have hproof := transaction_length_le proof
    simp only [items, List.flatten_cons, List.flatten_append, List.flatten_nil, List.append_nil,
      List.length_append, bytes32_length]
    linarith [harray 7]

/-- The encoder of requests does not abort. -/
theorem returns_encode (request : OperationRequest) : Returns request.encode := by
  intro h
  simp only [encode, Except.throw_eq, Except.error_bind, Except.pure_eq,
    Except.ite_error_eq_error, Except.bind_eq_error, reduceCtorEq, and_false, false_or,
    or_false] at h
  obtain ⟨hpassword, -, -, hwritten⟩ := h
  have hfits := request.items_length_le fun password hsome => by
    rw [hsome] at hpassword
    simpa using hpassword
  rw [writeItems_of_length_le hfits] at hwritten
  simp at hwritten

end OperationRequest

/-! ## Accounts -/

namespace AccountView

/-- What `encode_account` writes. -/
def items (account : AccountView) : List (List UInt8) :=
  [Cbor.array 8, Cbor.bytes account.id.val, encodeU64 account.revision,
    encodeU64 account.created_at_ms, encodeU64 account.modified_at_ms,
    Cbor.text account.service_name, Cbor.text account.permitted_origin,
    Cbor.text account.username, Cbor.text account.password]

/-- All fields of a view are within their limits, its password too. -/
def FullyBounded (account : AccountView) : Prop :=
  account.Bounded ∧ account.password.utf8ByteSize ≤ maxPasswordBytes

theorem validateViewFields_eq (account : AccountView) : validateViewFields account true =
    if account.service_name.utf8ByteSize > maxServiceNameBytes ∨
        account.permitted_origin.utf8ByteSize > maxOriginBytes ∨
        account.username.utf8ByteSize > maxUsernameBytes ∨
        account.password.utf8ByteSize > maxPasswordBytes then
      .error (.returned .tooLarge)
    else .ok () := by
  simp [Protocol.validateViewFields]

/-- An account with bounded fields fits the body of a response. -/
theorem items_length_le {account : AccountView} (h : account.FullyBounded) :
    account.items.flatten.length ≤ maxResponseBodyBytes := by
  obtain ⟨⟨hservice, horigin, husername⟩, hpassword⟩ := h
  unfold maxServiceNameBytes at hservice
  unfold maxOriginBytes at horigin
  unfold maxUsernameBytes at husername
  unfold maxPasswordBytes at hpassword
  have harray : (Cbor.array 8).length = 1 := Cbor.head_length_eq_one (by norm_num)
  have hrevision := encodeU64_length_le account.revision
  have hcreated := encodeU64_length_le account.created_at_ms
  have hmodified := encodeU64_length_le account.modified_at_ms
  have h1 := Cbor.head_length_le 3 account.service_name.utf8ByteSize
  have h2 := Cbor.head_length_le 3 account.permitted_origin.utf8ByteSize
  have h3 := Cbor.head_length_le 3 account.username.utf8ByteSize
  have h4 := Cbor.head_length_le 3 account.password.utf8ByteSize
  simp only [items, List.flatten_cons, List.flatten_nil, List.append_nil, List.length_append,
    bytes16_length, Cbor.text_length, maxResponseBodyBytes, maxPayloadBytes]
  omega

end AccountView

/-- `encode_account`. -/
def encodeAccount (account : AccountView) : Except EncodeFault (List UInt8) := do
  validateViewFields account true
  let written ← writeItems maxPayloadBytes [] account.items
  checkedResponseBody written

/-- An account is encoded when its fields are within their limits, and refused otherwise. -/
theorem encodeAccount_cases (account : AccountView) :
    (account.FullyBounded → encodeAccount account = .ok account.items.flatten) ∧
      (¬ account.FullyBounded → encodeAccount account = .error (.returned .tooLarge)) := by
  constructor
  · intro h
    have hbody := account.items_length_le h
    have hmax : maxResponseBodyBytes + 96 = maxPayloadBytes := rfl
    have hvalid : validateViewFields account true = .ok () := by
      obtain ⟨⟨hservice, horigin, husername⟩, hpassword⟩ := h
      rw [account.validateViewFields_eq, if_neg (by omega)]
    have hwritten : writeItems maxPayloadBytes [] account.items = .ok account.items.flatten :=
      writeItems_of_length_le (by omega)
    rw [encodeAccount, hvalid, Except.ok_bind, hwritten, Except.ok_bind, checkedResponseBody,
      if_neg (not_lt.mpr hbody)]
  · intro h
    have hinvalid : validateViewFields account true = .error (.returned .tooLarge) := by
      rw [account.validateViewFields_eq, if_pos]
      by_contra hall
      simp only [not_or, not_lt] at hall
      exact h ⟨⟨hall.1, hall.2.1, hall.2.2.1⟩, hall.2.2.2⟩
    rw [encodeAccount, hinvalid, Except.error_bind]

/-- The estimate of a listing stops at `TooLarge` only. -/
theorem foldlM_estimateSummary_error {accounts : List AccountView} {maximum_encoded : ℕ}
    {fault : EncodeFault} (h : accounts.foldlM estimateSummary maximum_encoded = .error fault) :
    fault = .returned .tooLarge := by
  induction accounts generalizing maximum_encoded with
  | nil => cases h
  | cons account accounts ih =>
    rw [List.foldlM_cons, Except.bind_eq_error] at h
    rcases h with hstep | ⟨next, -, hrest⟩
    · simp only [estimateSummary, validateViewFields, Except.throw_eq, Except.error_bind,
        Except.pure_eq, Except.bind_eq_error, Except.ite_error_eq_error, reduceCtorEq, and_false,
        or_false] at hstep
      rcases hstep with ⟨-, hfault⟩ | ⟨-, -, -, hfault⟩ <;> exact hfault.symm
    · exact ih hrest

/-- The accounts that make a page: at most 100, with bounded fields, and with an estimate within the
body of a response. -/
def PageFits (accounts : List AccountView) : Prop :=
  accounts.length ≤ maxListPageSize ∧ (∀ account ∈ accounts, account.Bounded) ∧
    summariesBound accounts ≤ maxResponseBodyBytes

/-- A page is encoded when it fits, and refused otherwise. -/
theorem encodeAccountSummaries_cases (accounts : List AccountView) (next_offset : Option UInt32) :
    (PageFits accounts → encodeAccountSummaries accounts next_offset =
      .ok (accountSummariesBody accounts next_offset)) ∧
      (¬ PageFits accounts →
        encodeAccountSummaries accounts next_offset = .error (.returned .tooLarge)) := by
  constructor
  · rintro ⟨hlength, hbounded, hfits⟩
    rw [encodeAccountSummaries_eq hbounded hlength, if_pos hfits]
  · intro h
    by_cases hlength : accounts.length ≤ maxListPageSize
    · by_cases hbounded : ∀ account ∈ accounts, account.Bounded
      · rw [encodeAccountSummaries_eq hbounded hlength, if_neg fun hfits => h ⟨hlength, hbounded, hfits⟩]
      · have hestimate : accounts.foldlM estimateSummary 8 = .error (.returned .tooLarge) := by
          cases hresult : accounts.foldlM estimateSummary 8 with
          | ok result => exact absurd (bounded_of_foldlM_estimateSummary hresult) hbounded
          | error fault => rw [foldlM_estimateSummary_error hresult]
        unfold encodeAccountSummaries
        rw [if_neg (not_lt.mpr hlength)]
        dsimp only
        rw [hestimate, Except.error_bind]
    · unfold encodeAccountSummaries
      rw [if_pos (not_le.mp hlength), Except.throw_eq, Except.error_bind]

/-! ## Passkeys -/

/-- The loop of a passkey listing does not abort: the entries before an invalid one fit. -/
theorem returns_foldlM_writePasskey {α : Type} {invalid : α → Bool}
    {items : α → List (List UInt8)}
    (hitems : ∀ passkey, invalid passkey = false →
      (items passkey).flatten.length ≤ passkeyEntryBound)
    {passkeys : List α} {written : List UInt8}
    (h : written.length + passkeys.length * passkeyEntryBound ≤ maxPayloadBytes) :
    Returns (passkeys.foldlM (writePasskey invalid items) written) := by
  induction passkeys generalizing written with
  | nil => exact .of_ok rfl
  | cons passkey passkeys ih =>
    rw [List.length_cons, Nat.add_mul, Nat.one_mul] at h
    rw [List.foldlM_cons]
    cases hinvalid : invalid passkey with
    | true =>
      have hstep : writePasskey invalid items written passkey =
          .error (.returned .invariantViolation) := by
        simp [writePasskey, hinvalid]
      rw [hstep, Except.error_bind]
      exact fun heq => by cases heq
    | false =>
      have hentry := hitems passkey hinvalid
      have hwritten : writeItems maxPayloadBytes written (items passkey) =
          .ok (written ++ (items passkey).flatten) :=
        writeItems_eq_ok (by omega)
      have hstep : writePasskey invalid items written passkey =
          .ok (written ++ (items passkey).flatten) := by
        simp [writePasskey, hinvalid, hwritten]
      rw [hstep, Except.ok_bind]
      exact ih (by rw [List.length_append]; omega)

/-- A passkey listing does not abort. -/
theorem returns_encodePasskeyListing {α : Type} {invalid : α → Bool}
    {items : α → List (List UInt8)}
    (hitems : ∀ passkey, invalid passkey = false →
      (items passkey).flatten.length ≤ passkeyEntryBound) (passkeys : List α) :
    Returns (encodePasskeyListing invalid items passkeys) := by
  by_cases hlength : passkeys.length > maxPasskeyCredentials
  · rw [encodePasskeyListing, if_pos hlength, Except.throw_eq, Except.error_bind]
    exact fun heq => by cases heq
  · have hlimit : maxPasskeyCredentials * passkeyEntryBound + 9 ≤ maxPayloadBytes := by decide
    have hentries := Nat.mul_le_mul_right passkeyEntryBound (not_lt.mp hlength)
    have hhead : (Cbor.array passkeys.length).length ≤ 9 := Cbor.head_length_le 4 _
    have hwritten : writeItems maxPayloadBytes [] [Cbor.array passkeys.length] =
        .ok (Cbor.array passkeys.length) := by
      rw [writeItems_of_length_le (by rw [List.flatten_singleton]; omega), List.flatten_singleton]
    rw [encodePasskeyListing, if_neg hlength]
    dsimp only
    rw [hwritten, Except.ok_bind]
    exact .bind (returns_foldlM_writePasskey hitems (by omega)) fun written _ =>
      returns_checkedResponseBody written

/-! ## All of it -/

/-- No encoder of the protocol aborts: envelopes, selections and credentials are encoded, a request
body, an account, a page of accounts or a listing of passkeys is encoded or refused with an error.
The envelopes fit the largest payload, a response is as long as it announces, and a failure fits
every limit of a connection. -/
theorem encoders_return :
    (∀ request : Wire.RequestEnvelope, ∃ bytes, request.encode = .ok bytes ∧
      bytes.length ≤ maxPayloadBytes) ∧
    (∀ response : ResponseEnvelope, ∃ bytes, response.encode = .ok bytes ∧
      bytes.length = response.encodedLen ∧ bytes.length ≤ maxPayloadBytes) ∧
    (∀ request : OperationRequest, request.encode ≠ .error .panicked) ∧
    (∀ selection : Option BrowserSelection,
      ∃ bytes, BrowserSelection.encodeOptional selection = .ok bytes) ∧
    (∀ credential : BrowserCredential, ∃ bytes, credential.encode = .ok bytes) ∧
    (∀ account : AccountView,
      (account.FullyBounded → encodeAccount account = .ok account.items.flatten) ∧
      (¬ account.FullyBounded → encodeAccount account = .error (.returned .tooLarge))) ∧
    (∀ (accounts : List AccountView) (next_offset : Option UInt32),
      (PageFits accounts → encodeAccountSummaries accounts next_offset =
        .ok (accountSummariesBody accounts next_offset)) ∧
      (¬ PageFits accounts →
        encodeAccountSummaries accounts next_offset = .error (.returned .tooLarge))) ∧
    (∀ passkeys, encodePasskeySummaries passkeys ≠ .error .panicked) ∧
    (∀ passkeys, encodePasskeyManagementSummaries passkeys ≠ .error .panicked) ∧
    ∀ (limits : ConnectionLimits) (error : PublicErrorCode) (retry : RetryCategory)
      (correlation_id : Bytes 16) (response : ResponseEnvelope),
      ResponseEnvelope.failure error retry correlation_id = .ok response →
        limits.responseFits response = true := by
  refine ⟨Wire.RequestEnvelope.encode_eq_ok, ResponseEnvelope.encode_eq_ok,
    OperationRequest.returns_encode, BrowserSelection.encodeOptional_eq_ok,
    BrowserCredential.encode_eq_ok, encodeAccount_cases, encodeAccountSummaries_cases, ?_, ?_, ?_⟩
  · exact returns_encodePasskeyListing PasskeySummaryView.items_length_le
  · exact returns_encodePasskeyListing PasskeyManagementSummaryView.items_length_le
  · exact fun limits _ _ _ _ h => ResponseEnvelope.failure_fits limits h

end Librarian.Protocol
