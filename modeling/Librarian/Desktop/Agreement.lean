import Librarian.Desktop.Bodies

/-!
# The two implementations of the protocol agree

The client writes the requests that the agent's library writes and accepts the responses that it
accepts, byte for byte. Of the bodies of responses the client keeps what it shows: it reads all of
the body and drops what it has no use for.
-/

namespace Librarian.Desktop

open Librarian.Protocol Cursor

/-! ## Requests -/

theorem maximumPayloadBytes_eq : maximumPayloadBytes = maxPayloadBytes := rfl

theorem take_eq_ok {buffer : List UInt8} (h : buffer.length ≤ maxPayloadBytes) :
    take buffer = .ok buffer :=
  if_neg (not_lt.mpr h)

theorem unsignedValue_u32 (value : UInt32) : unsignedValue value.toUInt64 = encodeU32 value := by
  rw [unsignedValue_eq, UInt32.toNat_toUInt64, encodeU32]

theorem unsignedValue_u16 (value : UInt16) : unsignedValue value.toUInt64 = encodeU16 value := by
  rw [unsignedValue_eq, UInt16.toNat_toUInt64, encodeU16]

theorem unsignedValue_u64 (value : UInt64) : unsignedValue value = encodeU64 value :=
  unsignedValue_eq value

/-- A text whose encoding fits a payload. -/
theorem text_utf8_eq {value : String} (h : value.utf8ByteSize ≤ maxPayloadBytes) :
    text (utf8 value) = Cbor.text value := by
  unfold maxPayloadBytes at h
  exact text_eq (by omega)

theorem bytes_fixed_eq {n : ℕ} (hn : n < 2 ^ 64) (value : Bytes n) :
    bytes value.val = Cbor.bytes value.val :=
  bytes_eq (by rwa [value.property])

/-- The operations and their codes are the same. -/
theorem DesktopRequest.operation_eq {request : DesktopRequest} {operation : OperationRequest}
    (h : request.toOperationRequest = .ok operation) :
    request.operation.code = UInt16.ofNat operation.operation.code ∧
      requiresIdempotency request.operation = operation.operation.requiresIdempotencyKey := by
  cases request with
  | saveAccount account =>
    obtain ⟨fields, -, rfl⟩ := Except.map_eq_ok.mp h
    exact ⟨rfl, rfl⟩
  | _ =>
    cases h
    exact ⟨rfl, rfl⟩

/-- The client writes the body that the agent's library writes. -/
theorem DesktopRequest.body_eq {request : DesktopRequest} {operation : OperationRequest}
    (h : request.toOperationRequest = .ok operation) {bytes : List UInt8}
    (hencode : operation.encode = .ok bytes) : request.body = .ok bytes := by
  obtain ⟨hencodable, rfl, hsize⟩ := OperationRequest.of_encode hencode
  have hempty : emptyBody = .ok (Cbor.array 0) := rfl
  cases request with
  | getStatus | removeWindowsHello | lock | listPasskeys =>
    cases h
    exact hempty
  | createVault master_password | unlock master_password =>
    cases h
    have hpassword := hencodable.password _ rfl
    simp only [OperationRequest.items, List.flatten_cons, List.flatten_nil, List.append_nil] at hsize ⊢
    change passwordBody master_password = _
    unfold passwordBody
    rw [array_eq, text_utf8_eq (hpassword.trans (by decide))]
    exact take_eq_ok hsize
  | unlockWindowsHello parent_window | enrollWindowsHello parent_window =>
    cases h
    have hwindow : parent_window ≠ 0 := fun heq => hencodable.window (congrArg some heq)
    simp only [OperationRequest.items, List.flatten_cons, List.flatten_nil, List.append_nil] at hsize ⊢
    change parentWindowBody parent_window = _
    unfold parentWindowBody
    rw [if_neg hwindow, array_eq, unsignedValue_u64]
    exact take_eq_ok hsize
  | listAccounts offset =>
    cases h
    simp only [OperationRequest.items, List.flatten_cons, List.flatten_nil, List.append_nil] at hsize ⊢
    change listBody offset = _
    unfold listBody
    rw [array_eq, unsignedValue_u32, List.append_assoc]
    exact take_eq_ok hsize
  | deletePasskey credential_id =>
    cases h
    simp only [OperationRequest.items, List.flatten_cons, List.flatten_nil, List.append_nil] at hsize ⊢
    change deletePasskeyBody credential_id = _
    unfold deletePasskeyBody
    rw [array_eq, bytes_fixed_eq (by norm_num)]
    exact take_eq_ok hsize
  | saveAccount account =>
    obtain ⟨fields, hfields, rfl⟩ := Except.map_eq_ok.mp h
    unfold AccountFields.new at hfields
    split_ifs at hfields with hbounded
    cases hfields
    simp only [not_or, not_lt] at hbounded
    obtain ⟨hservice, horigin, husername, hpassword⟩ := hbounded
    simp only [OperationRequest.items, AccountFields.items, List.flatten_cons, List.flatten_nil,
      List.append_nil] at hsize ⊢
    change accountBody account = _
    unfold accountBody
    rw [array_eq, text_utf8_eq (hservice.trans (by decide)), text_utf8_eq (horigin.trans (by decide)),
      text_utf8_eq (husername.trans (by decide)), text_utf8_eq (hpassword.trans (by decide)),
      List.append_assoc, List.append_assoc, List.append_assoc]
    exact take_eq_ok hsize

/-- The client writes the envelope that the agent's library writes. -/
theorem requestEnvelope_eq {operation : Operation} {envelope : Wire.RequestEnvelope}
    {key : Bytes 16} {payload : List UInt8}
    (hcode : operation.code = UInt16.ofNat envelope.operation.code)
    (hidempotency : requiresIdempotency operation = envelope.operation.requiresIdempotencyKey)
    (hkey : envelope.idempotency_key =
      if envelope.operation.requiresIdempotencyKey then some key else none)
    (hnonzero : key.isZero = false) (hencode : envelope.encode = .ok payload) :
    requestEnvelope operation envelope.unlock_epoch envelope.timeout_ms (some key) envelope.body =
      .ok payload := by
  obtain ⟨rfl, hsize⟩ := eq_of_checkedPayload hencode
  have hwritten : writeKey operation (some key) =
      .ok (Wire.RequestEnvelope.encodeKey envelope.idempotency_key) := by
    unfold writeKey randomBytes
    rw [hidempotency, hkey]
    cases envelope.operation.requiresIdempotencyKey with
    | true =>
      simp only [hnonzero, if_true, Bool.false_eq_true, if_false, Except.map]
      rw [bytes_fixed_eq (by norm_num)]
      rfl
    | false => rfl
  have hvalid := envelope.validated
  simp only [Wire.RequestFields.invalid, decide_eq_false_iff_not, not_or, not_lt] at hvalid
  have hbody : envelope.body.length < 2 ^ 64 := hvalid.2.1.trans_lt (by decide)
  simp only [Wire.RequestEnvelope.items, List.flatten_cons, List.flatten_nil, List.append_nil]
    at hsize ⊢
  unfold requestEnvelope
  rw [hwritten, Except.ok_bind, array_eq, unsignedValue_u16, hcode, unsignedValue_u64,
    unsignedValue_u32, bytes_eq hbody]
  simp only [List.append_assoc]
  exact take_eq_ok hsize

/-! ## Responses -/

/-- The error and the retry category of a response, as the client numbers them. -/
def DecodedResponse.ofResponse (response : ResponseEnvelope) : DecodedResponse where
  error := ResponseEnvelope.errorCode response.error
  retry := response.retry.code
  body := response.body

/-- Every code up to eleven is that of a success or of an error. -/
theorem exists_error {code : UInt64} (h : ¬code > 11) :
    ∃ error, ResponseEnvelope.errorCode error = code.toUInt8 ∧ (code ≠ 0 ↔ error.isSome = true) ∧
      code.toNat = (ResponseEnvelope.errorCode error).toNat := by
  have hall : ∀ n : Fin 12, ∃ error, ResponseEnvelope.errorCode error = UInt8.ofNat n.val ∧
      (n.val ≠ 0 ↔ error.isSome = true) := by
    intro n
    refine ⟨PublicErrorCode.fromU64 n.val, ?_⟩
    revert n
    decide
  have hlt : code.toNat < 12 := by
    rw [gt_iff_lt, UInt64.lt_iff_toNat_lt, not_lt] at h
    exact Nat.lt_succ_of_le h
  obtain ⟨error, herror, hsome⟩ := hall ⟨code.toNat, hlt⟩
  refine ⟨error, by rw [herror, low_byte_eq], ?_, ?_⟩
  · rw [← hsome, ne_eq, ne_eq, ← UInt64.toNat_inj]
    rfl
  · rw [herror, UInt8.toNat_ofNat']
    exact (Nat.mod_eq_of_lt (by omega)).symm

/-- Every retry code from one to four is that of a category. -/
theorem exists_retry {code : UInt64} (hzero : code ≠ 0) (hfour : ¬code > 4) :
    ∃ retry : RetryCategory, retry.code = code.toUInt8 ∧ (code ≠ 1 ↔ retry ≠ .never) ∧
      code.toNat = retry.code.toNat := by
  have hall : ∀ n : Fin 5, n.val ≠ 0 →
      ∃ retry ∈ [RetryCategory.never, .reconnect, .afterUnlock, .backoff],
        retry.code = UInt8.ofNat n.val ∧ (n.val ≠ 1 ↔ retry ≠ .never) := by decide
  have hlt : code.toNat < 5 := by
    rw [gt_iff_lt, UInt64.lt_iff_toNat_lt, not_lt] at hfour
    exact Nat.lt_succ_of_le hfour
  obtain ⟨retry, -, hcode, hnever⟩ := hall ⟨code.toNat, hlt⟩ fun h => hzero (UInt64.toNat_inj.mp h)
  refine ⟨retry, by rw [hcode, low_byte_eq], ?_, ?_⟩
  · rw [← hnever, ne_eq, ne_eq, ← UInt64.toNat_inj]
    rfl
  · rw [hcode, UInt8.toNat_ofNat']
    exact (Nat.mod_eq_of_lt (by omega)).symm

/-- The codes of errors. -/
theorem errorCode_spec (error : Option PublicErrorCode) :
    ¬(ResponseEnvelope.errorCode error).toUInt64 > 11 ∧
      ((ResponseEnvelope.errorCode error).toUInt64 ≠ 0 ↔ error.isSome = true) := by
  cases error with
  | none => decide
  | some error => cases error <;> decide

/-- The codes of retry categories. -/
theorem retryCode_spec (retry : RetryCategory) :
    retry.code.toUInt64 ≠ 0 ∧ ¬retry.code.toUInt64 > 4 ∧
      (retry.code.toUInt64 ≠ 1 ↔ retry ≠ .never) := by
  cases retry <;> decide

/-- What `decode_response` accepts. -/
theorem decodeResponse_iff {payload : List UInt8} {decoded : DecodedResponse} :
    decodeResponse payload = .ok decoded ↔ ∃ error retry correlation body,
      payload = Cbor.array 4 ++ (Cbor.unsigned (UInt64.toNat error) ++
        (Cbor.unsigned (UInt64.toNat retry) ++ (Cbor.bytes correlation ++ Cbor.bytes body))) ∧
      correlation.length ≤ 16 ∧ body.length ≤ maxResponseBodyBytes ∧
      ¬(error > 11 ∨ retry = 0 ∨ retry > 4 ∨ correlation.length ≠ 16 ∨
        nonzero correlation = false ∨ error ≠ 0 ∧ body ≠ [] ∨ error = 0 ∧ retry ≠ 1) ∧
      decoded = ⟨error.toUInt8, retry.toUInt8, body⟩ := by
  unfold decodeResponse
  rw [run_eq_ok]
  simp only [decodeResponseFrom, Cursor.bind_eq_ok, Cursor.check_eq_ok, readArray_eq_ok,
    readUnsigned_eq_ok, finish_eq_ok, Cursor.pure_eq_ok,
    readBytes_eq_ok (by norm_num : 16 < 2 ^ 64),
    readBytes_eq_ok (by decide : maximumPayloadBytes - 96 < 2 ^ 64)]
  constructor
  · rintro ⟨rest, count, -, rfl, hcount, error, -, rfl, retry, -, rfl, correlation, -,
      ⟨hcorrelation, rfl⟩, body, -, ⟨hbody, rfl⟩, -, -, ⟨rfl, rfl⟩, hchecked, hdecoded, -⟩
    obtain rfl := not_not.mp hcount
    refine ⟨error, retry, correlation, body, ?_, hcorrelation, hbody, hchecked, hdecoded.symm⟩
    rw [List.append_nil]
    rfl
  · rintro ⟨error, retry, correlation, body, rfl, hcorrelation, hbody, hchecked, rfl⟩
    refine ⟨[], 4, _, rfl, not_not.mpr rfl, error, _, rfl, retry, _, rfl, correlation, _,
      ⟨hcorrelation, rfl⟩, body, [], ⟨hbody, ?_⟩, (), [], ⟨rfl, rfl⟩, hchecked, rfl, rfl⟩
    rw [List.append_nil]

/-- Every response is encoded. -/
theorem response_encode (response : ResponseEnvelope) :
    response.encode = .ok (ResponseEnvelope.items response.toResponseFields).flatten := by
  have hvalid := response.validated
  simp only [ResponseFields.invalid, decide_eq_false_iff_not, not_or, not_lt] at hvalid
  have hbody := hvalid.1
  have harray := Cbor.head_length_le 4 4
  have herror := encodeU8_length_le (ResponseEnvelope.errorCode response.error)
  have hretry := encodeU8_length_le response.retry.code
  have hid := fixedBytes_length_le response.correlation_id
  have hhead := Cbor.head_length_le 2 response.body.length
  have hbytes := Cbor.bytes_length response.body
  have hsize : (ResponseEnvelope.items response.toResponseFields).flatten.length ≤
      maxPayloadBytes := by
    unfold maxResponseBodyBytes maxPayloadBytes at hbody
    unfold maxPayloadBytes ResponseEnvelope.items Cbor.array
    simp only [List.flatten_cons, List.flatten_nil, List.append_nil, List.length_append]
    omega
  unfold ResponseEnvelope.encode
  rw [writeItems_eq_ok (by simpa using hsize), Except.ok_bind, List.nil_append]
  exact if_neg (not_lt.mpr hsize)

/-- The client accepts exactly the responses that the agent's library accepts, with the same error,
retry category and body. -/
theorem decodeResponse_agrees {payload : List UInt8} {decoded : DecodedResponse} :
    decodeResponse payload = .ok decoded ↔ ∃ response, ResponseEnvelope.decode payload = .ok response ∧
      decoded = .ofResponse response := by
  rw [decodeResponse_iff]
  constructor
  · rintro ⟨error, retry, correlation, body, rfl, -, hbody, hchecked, rfl⟩
    simp only [not_or] at hchecked
    obtain ⟨heleven, hzero, hfour, hlength, hnonzero, hempty, hnever⟩ := hchecked
    obtain ⟨error', herror, hsome, herrorNat⟩ := exists_error heleven
    obtain ⟨retry', hretry, hretryNever, hretryNat⟩ := exists_retry hzero hfour
    obtain ⟨id, rfl⟩ : ∃ id : Bytes 16, id.val = correlation :=
      ⟨⟨correlation, not_not.mp hlength⟩, rfl⟩
    rw [nonzero_eq_false] at hnonzero
    have hvalid : (⟨error', retry', id, body⟩ : ResponseFields).invalid = false := by
      simp only [ResponseFields.invalid, decide_eq_false_iff_not, not_or, not_lt]
      refine ⟨hbody, ?_, ?_, hnonzero⟩
      · rw [← hsome]
        exact hempty
      · rintro ⟨hnone, hne⟩
        refine hnever ⟨?_, hretryNever.mpr hne⟩
        by_contra hsuccess
        rw [← Option.not_isSome, hsome.mp hsuccess] at hnone
        cases hnone
    refine ⟨⟨_, hvalid⟩, ?_, ?_⟩
    · apply ResponseEnvelope.canonical.decode_encode
      rw [response_encode]
      simp only [ResponseEnvelope.items, List.flatten_cons, List.flatten_nil, List.append_nil]
      rw [encodeU8, encodeU8, ← herrorNat, ← hretryNat]
    · rw [DecodedResponse.ofResponse, herror, hretry]
  · rintro ⟨response, hdecode, rfl⟩
    have hencode := ResponseEnvelope.canonical.encode_decode hdecode
    rw [response_encode, Except.ok.injEq] at hencode
    subst hencode
    have hvalid := response.validated
    simp only [ResponseFields.invalid, decide_eq_false_iff_not, not_or, not_lt] at hvalid
    obtain ⟨hbody, hempty, hnever, hnonzero⟩ := hvalid
    refine ⟨(ResponseEnvelope.errorCode response.error).toUInt64, response.retry.code.toUInt64,
      response.correlation_id.val, response.body, ?_, response.correlation_id.property.le, hbody, ?_,
      ?_⟩
    · simp only [ResponseEnvelope.items, List.flatten_cons, List.flatten_nil, List.append_nil]
      rw [UInt8.toNat_toUInt64, UInt8.toNat_toUInt64]
      rfl
    · obtain ⟨heleven, hsome⟩ := errorCode_spec response.error
      obtain ⟨hzero, hfour, hretry⟩ := retryCode_spec response.retry
      rw [nonzero_eq_false]
      simp only [not_or]
      refine ⟨heleven, hzero, hfour, not_not.mpr response.correlation_id.property, hnonzero, ?_, ?_⟩
      · rw [hsome]
        exact hempty
      · rintro ⟨hsuccess, hne⟩
        refine hnever ⟨?_, hretry.mp hne⟩
        rw [← Option.not_isSome]
        cases hcase : response.error.isSome with
        | false => rfl
        | true => exact absurd hsuccess (hsome.mpr hcase)
    · rw [DecodedResponse.ofResponse]
      simp

/-! ## Frames -/

theorem writeU16_eq (value : UInt16) : writeU16 value = BigEndian.encode 2 value.toNat := by
  have hhigh : (value >>> 8).toUInt8 = UInt8.ofNat (value.toNat / 256 ^ 1) := by
    apply UInt8.toNat_inj.mp
    rw [UInt16.toNat_toUInt8, UInt16.toNat_shiftRight, UInt8.toNat_ofNat']
    exact congrArg (· % 2 ^ 8) (Nat.shiftRight_eq_div_pow _ _)
  have hlow : value.toUInt8 = UInt8.ofNat (value.toNat / 256 ^ 0) := by
    apply UInt8.toNat_inj.mp
    rw [UInt16.toNat_toUInt8, UInt8.toNat_ofNat', pow_zero, Nat.div_one]
  rw [writeU16, hhigh, hlow]
  rfl

theorem writeU32_eq (value : UInt32) : writeU32 value = BigEndian.encode 4 value.toNat := by
  have hbyte (shift : UInt32) {k : ℕ} (hshift : shift.toNat % 32 = 8 * k) :
      (value >>> shift).toUInt8 = UInt8.ofNat (value.toNat / 256 ^ k) := by
    apply UInt8.toNat_inj.mp
    have hpow : (2 : ℕ) ^ (8 * k) = 256 ^ k := Nat.pow_mul 2 8 k
    rw [UInt32.toNat_toUInt8, UInt32.toNat_shiftRight, hshift, Nat.shiftRight_eq_div_pow, hpow,
      UInt8.toNat_ofNat']
  unfold writeU32
  simp only [List.map_cons, List.map_nil, BigEndian.encode]
  rw [hbyte 24 (k := 3) rfl, hbyte 16 (k := 2) rfl, hbyte 8 (k := 1) rfl, hbyte 0 (k := 0) rfl]

theorem writeU64_eq (value : UInt64) : writeU64 value = BigEndian.encode 8 value.toNat := by
  have hbyte (shift : UInt64) {k : ℕ} := shift_byte_eq value shift (k := k)
  unfold writeU64
  simp only [List.map_cons, List.map_nil, BigEndian.encode]
  rw [hbyte 56 (k := 7) rfl (by norm_num), hbyte 48 (k := 6) rfl (by norm_num),
    hbyte 40 (k := 5) rfl (by norm_num), hbyte 32 (k := 4) rfl (by norm_num),
    hbyte 24 (k := 3) rfl (by norm_num), hbyte 16 (k := 2) rfl (by norm_num),
    hbyte 8 (k := 1) rfl (by norm_num), hbyte 0 (k := 0) rfl (by norm_num)]

/-- The client writes the headers that the agent's library writes. -/
theorem frameHeader_agrees {kind : MessageKind} {version : Version} {payload : List UInt8}
    {connection_id : Bytes 16} {request_id : UInt64} {header : Wire.FrameHeader}
    (h : Wire.FrameHeader.new kind version payload.length connection_id request_id = .ok header) :
    frameHeader kind version.major version.minor connection_id request_id payload =
      .ok header.encode := by
  unfold Wire.FrameHeader.new at h
  split_ifs at h with hsize
  cases h
  have hsmall : ¬payload.length > maximumPayloadBytes := not_lt.mpr hsize
  unfold frameHeader
  rw [if_neg hsmall, writeU16_eq, writeU16_eq, writeU32_eq, writeU64_eq]
  simp only [List.append_assoc]
  rfl

/-- The loop over the bytes of a number computes the number. -/
theorem readNumber_eq (span : List UInt8) : readNumber span = BigEndian.decode span := by
  have hstep (value : ℕ) (byte : UInt8) : value <<< 8 ||| byte.toNat = value * 256 + byte.toNat := by
    rw [← Nat.shiftLeft_add_eq_or_of_lt (b := byte.toNat) (i := 8) byte.toNat_lt, Nat.shiftLeft_eq]
  unfold readNumber BigEndian.decode
  simp only [hstep]

/-- The fields that a header gives to the client. -/
def FrameFields.ofHeader (header : Wire.FrameHeader) : FrameFields where
  kind := header.kind
  major := header.version.major
  minor := header.version.minor
  payload_length := header.payload_length
  connection_id := header.connection_id
  request_id := header.request_id

/-- The fields that a kind of frame must have, which the client leaves to the callers of
`read_frame`. -/
def FrameFields.KindFieldsValid (fields : FrameFields) : Prop :=
  Wire.kindFieldsValid fields.kind ⟨fields.major, fields.minor⟩ fields.payload_length
    fields.connection_id fields.request_id = true

/-- A range, byte by byte. -/
theorem slice_eq_map (start : ℕ) {n : ℕ} {bytes : List UInt8} (h : start + n ≤ bytes.length) :
    slice start (start + n) bytes = (List.range n).map fun i => bytes.getD (start + i) 0 := by
  apply List.ext_getElem
  · rw [slice_length h, List.length_map, List.length_range, Nat.add_sub_cancel_left]
  · intro i hi hi'
    rw [List.length_map, List.length_range] at hi'
    simp only [slice, List.getElem_drop, List.getElem_take, List.getElem_map, List.getElem_range]
    exact List.getElem_eq_getD 0

/-- The client's checks of the first bytes are those of the agent's library. -/
theorem leading_bytes_iff {bytes : List UInt8} (h : bytes.length = 40) :
    ¬(bytes.getD 0 0 ≠ 0x4c ∨ bytes.getD 1 0 ≠ 0x42 ∨ bytes.getD 2 0 ≠ 0x49 ∨
        bytes.getD 3 0 ≠ 0x50 ∨ bytes.getD 4 0 ≠ 1 ∨ bytes.getD 6 0 ≠ 0 ∨ bytes.getD 7 0 ≠ 0 ∨
        bytes.getD 5 0 < 1 ∨ bytes.getD 5 0 > 6) ↔
      slice 0 4 bytes = magic ∧ bytes.getD 4 0 = headerVersion ∧ slice 6 8 bytes = [0, 0] ∧
        ∃ kind, MessageKind.fromU8 (bytes.getD 5 0) = some kind := by
  have hmagic : slice 0 4 bytes =
      [bytes.getD 0 0, bytes.getD 1 0, bytes.getD 2 0, bytes.getD 3 0] :=
    slice_eq_map 0 (by omega : 0 + 4 ≤ bytes.length)
  have hflags : slice 6 8 bytes = [bytes.getD 6 0, bytes.getD 7 0] :=
    slice_eq_map 6 (by omega : 6 + 2 ≤ bytes.length)
  have hkind : (∃ kind, MessageKind.fromU8 (bytes.getD 5 0) = some kind) ↔
      ¬bytes.getD 5 0 < 1 ∧ ¬bytes.getD 5 0 > 6 := by
    have hall : ∀ n : Fin 256, (MessageKind.fromU8 (UInt8.ofNat n.val)).isSome = true ↔
        ¬UInt8.ofNat n.val < 1 ∧ ¬UInt8.ofNat n.val > 6 := by decide +kernel
    have hbyte := hall ⟨(bytes.getD 5 0).toNat, (bytes.getD 5 0).toNat_lt⟩
    rw [UInt8.ofNat_toNat, Option.isSome_iff_exists] at hbyte
    exact hbyte
  rw [hkind, hmagic, hflags]
  simp only [magic, headerVersion, List.cons.injEq, and_true, not_or, not_not]
  tauto

/-- The client reads the headers that the agent's library reads, and those that lack the fields of
their kind. -/
theorem readFrameHeader_agrees {header : Bytes 40} {fields : FrameFields} :
    readFrameHeader header = .ok fields ∧ fields.KindFieldsValid ↔
      ∃ frame, Wire.FrameHeader.decode header.val = .ok frame ∧ fields = .ofHeader frame := by
  have hleading := leading_bytes_iff header.property
  have hlength : header.val.length = headerBytes := header.property
  have hmaximum : maximumPayloadBytes = maxPayloadBytes := rfl
  simp only [readFrameHeader, Wire.FrameHeader.decode, Except.throw_eq, Except.error_bind,
    Except.bind_eq_ok, Except.ite_error_eq_ok, Option.okOr_eq_ok, hleading, readNumber_eq,
    Except.pure_eq, Except.ok.injEq, not_or, not_not, hmaximum, not_lt]
  constructor
  · rintro ⟨⟨⟨hmagic, hversion, hflags, -⟩, kind, hkind, hsize, id, hid, rfl⟩, hvalid⟩
    let frame : Wire.FrameHeader := ⟨kind, ⟨_, _⟩, _, id, _, hsize, hvalid⟩
    exact ⟨frame, ⟨hlength, ⟨hmagic, hversion, hflags⟩, kind, hkind, id, hid, frame.new_eq_ok⟩, rfl⟩
  · rintro ⟨frame, ⟨-, ⟨hmagic, hversion, hflags⟩, kind, hkind, id, hid, hnew⟩, rfl⟩
    obtain ⟨rfl, hv, hp, rfl, hr⟩ := Wire.FrameHeader.of_new hnew
    refine ⟨⟨⟨hmagic, hversion, hflags, _, hkind⟩, _, hkind, ?_, _, hid, ?_⟩, frame.validated⟩
    · rw [← hp]
      exact frame.bounded
    · rw [FrameFields.ofHeader, hv, hp, hr]

/-! ## The languages -/

/-- The client writes the requests and the headers that the agent's library writes, and accepts the
responses that it accepts. Of the bodies of responses it recovers what it shows, and it reads the
headers that the library reads when they have the fields of their kind. -/
theorem desktop_codec_agrees :
    (∀ request operation body, DesktopRequest.toOperationRequest request = .ok operation →
      operation.encode = .ok body →
      request.body = .ok body ∧
      requiresIdempotency request.operation = operation.operation.requiresIdempotencyKey ∧
      ∀ (envelope : Wire.RequestEnvelope) (key : Bytes 16) (payload : List UInt8),
        envelope.operation = operation.operation → envelope.body = body →
        envelope.idempotency_key =
          (if operation.operation.requiresIdempotencyKey then some key else none) →
        key.isZero = false → envelope.encode = .ok payload →
        requestEnvelope request.operation envelope.unlock_epoch envelope.timeout_ms (some key) body =
          .ok payload) ∧
    (∀ payload decoded, decodeResponse payload = .ok decoded ↔
      ∃ response, ResponseEnvelope.decode payload = .ok response ∧ decoded = .ofResponse response) ∧
    (∀ state unlock_epoch body, encodeStatus state unlock_epoch = .ok body →
      decodeStatusBody body = clientResult state) ∧
    (∀ accounts next_offset body, encodeAccountSummaries accounts next_offset = .ok body →
      (∀ account ∈ accounts, account.id.isZero = false) →
      decodeAccountPage body = .ok ⟨next_offset, accounts.map .ofView⟩) ∧
    (∀ passkeys body, encodePasskeyManagementSummaries passkeys = .ok body →
      decodePasskeyList body = .ok (passkeys.map .ofView)) ∧
    Function.Injective hexText ∧ Function.Injective PasskeyEntry.ofView ∧
    (∀ kind version connection_id request_id (payload : List UInt8) header,
      Wire.FrameHeader.new kind version payload.length connection_id request_id = .ok header →
      frameHeader kind version.major version.minor connection_id request_id payload =
        .ok header.encode) ∧
    ∀ (header : Bytes 40) (fields : FrameFields),
      readFrameHeader header = .ok fields ∧ fields.KindFieldsValid ↔
        ∃ frame, Wire.FrameHeader.decode header.val = .ok frame ∧ fields = .ofHeader frame := by
  refine ⟨?_, fun _ _ => decodeResponse_agrees, fun _ _ _ => decodeStatusBody_agrees,
    fun _ _ _ => decodeAccountPage_agrees, fun _ _ => decodePasskeyList_agrees,
    hexText_injective, PasskeyEntry.ofView_injective, fun _ _ _ _ _ _ => frameHeader_agrees,
    fun _ _ => readFrameHeader_agrees⟩
  intro request operation body hrequest hencode
  obtain ⟨hcode, hidempotency⟩ := DesktopRequest.operation_eq hrequest
  refine ⟨DesktopRequest.body_eq hrequest hencode, hidempotency, ?_⟩
  intro envelope key payload hoperation hbody hkey hnonzero hpayload
  rw [← hoperation] at hcode hidempotency hkey
  rw [← hbody]
  exact requestEnvelope_eq hcode hidempotency hkey hnonzero hpayload

/-- A request to lock, at epoch seven: the two libraries write the same nine bytes. -/
theorem desktop_codec_agrees_lock :
    requestEnvelope .lock 7 1000 (some (.replicate 16 1)) [0x80] =
      .ok [0x85, 0x04, 0x07, 0x19, 0x03, 0xe8, 0xf6, 0x41, 0x80] := by
  have hlock := (desktop_codec_agrees.1 .lock .lock [0x80] rfl (by decide)).2.2
  exact hlock ⟨⟨.lock, 7, 1000, none, [0x80]⟩, by decide⟩ (.replicate 16 1) _ rfl rfl rfl
    (by decide) (by decide)

/-- An account with a record identifier of zeros. -/
def zeroAccount : AccountView :=
  ⟨.replicate 16 0, 1, 0, 0, "", "", "", ""⟩

/-- The header of a response to no request. -/
def requestlessHeader : Bytes 40 :=
  ⟨[0x4c, 0x42, 0x49, 0x50, 1, 4, 0, 0, 0, 1, 0, 0, 0, 0, 0, 0] ++ List.replicate 16 1 ++
    List.replicate 8 0, rfl⟩

/-- The client does not read the status of an agent that shuts down, nor an account whose identifier
is zero, and takes two statuses with different epochs for the same; it reads the header of a response
to no request, which the agent's library refuses. -/
theorem desktop_codec_loses_fields :
    (∃ body, encodeStatus .shuttingDown 0 = .ok body ∧
      decodeStatusBody body = .error .unavailable) ∧
    (∃ body body', encodeStatus .locked 0 = .ok body ∧ encodeStatus .locked 1 = .ok body' ∧
      decodeStatusBody body = .ok ⟨.none, .locked⟩ ∧ decodeStatusBody body' = .ok ⟨.none, .locked⟩) ∧
    (∃ body, encodeAccountSummaries [zeroAccount] none = .ok body ∧
      decodeAccountPage body = .error .invalid) ∧
    (∃ fields, readFrameHeader requestlessHeader = .ok fields) ∧
      Wire.FrameHeader.decode requestlessHeader.val = .error .invalidHeader := by
  refine ⟨⟨_, rfl, rfl⟩, ⟨_, _, rfl, rfl, rfl, rfl⟩, ⟨_, rfl, rfl⟩, ⟨_, rfl⟩, rfl⟩

end Librarian.Desktop
