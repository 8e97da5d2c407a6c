import Librarian.Format.Manifest

/-!
# Encrypted records

`RecordEnvelope` is the stored form of one encrypted record; `WebsiteAccountPlaintext` and
`PasskeyPlaintext` are the two families of plaintext inside it, told apart by `record_type`. The
plaintext types can only be built by their validating constructors, so their values carry the proof
that they are valid.
-/

namespace Librarian.Format

open Cursor (Reads)

def recordEnvelopeVersion : UInt32 := 1
def recordSchema : UInt32 := 1
def websiteAccountRecordType : UInt32 := 1
def passkeyRecordType : UInt32 := 2
def maxServiceNameBytes : ℕ := 256
def maxOriginBytes : ℕ := 2048
def maxUsernameBytes : ℕ := 1024
def maxPasswordBytes : ℕ := 16 * 1024
def maxPasskeyRpIdBytes : ℕ := 253
def maxPasskeyUserHandleBytes : ℕ := 64
def maxPasskeyUserNameBytes : ℕ := 256
def maxPasskeyUserDisplayNameBytes : ℕ := 256
def websiteAccountEncodingOverheadBytes : ℕ := 128
def passkeyEncodingOverheadBytes : ℕ := 192

/-- `RECORD_MAGIC`. -/
def recordMagic : String := "LBR-REC"

/-- Supported encrypted-record plaintext families. -/
inductive RecordType
  | websiteAccount
  | passkey
  deriving DecidableEq, Repr

/-- Durable publication state for one vault-backed passkey. -/
inductive PasskeyCreationState
  | pending
  | confirmed
  deriving DecidableEq, Repr

/-- `PasskeyCreationState::code`. -/
def PasskeyCreationState.code : PasskeyCreationState → UInt32
  | pending => 1
  | confirmed => 2

/-- `PasskeyCreationState::from_code`. -/
def PasskeyCreationState.fromCode (value : UInt32) : Except FormatError PasskeyCreationState :=
  if value = 1 then .ok pending
  else if value = 2 then .ok confirmed
  else .error .unsupported

/-- `chars().any(char::is_control)`: the control characters are those of category `Cc`. -/
def hasControl (text : String) : Bool :=
  text.toList.any fun c => c.toNat < 0x20 || (0x7f ≤ c.toNat && c.toNat ≤ 0x9f)

/-! ## The record envelope -/

/-- One bounded, encrypted record stored in `encrypted_records`. -/
structure RecordEnvelope where
  key_epoch : UInt32
  nonce : Bytes 24
  ciphertext : List UInt8
  deriving DecidableEq

/-- The bytes that `RecordEnvelope::encode` writes. -/
def encodeRecordEnvelopeInto (envelope : RecordEnvelope) : List UInt8 :=
  Cbor.array 4 ++ (encodeU32 recordEnvelopeVersion ++ (encodeU32 envelope.key_epoch ++
    (Cbor.bytes envelope.nonce.val ++ Cbor.bytes envelope.ciphertext)))

/-- `RecordEnvelope::encode`. -/
def RecordEnvelope.encode (envelope : RecordEnvelope) : Except FormatError (List UInt8) := do
  if envelope.key_epoch = 0 ∨ envelope.ciphertext.length < tagBytes then throw .invariantViolation
  let bytes := encodeRecordEnvelopeInto envelope
  if bytes.length > maxRecordEnvelopeBytes then throw .tooLarge
  return bytes

/-- `RecordEnvelope::new`. -/
def RecordEnvelope.new (key_epoch : UInt32) (nonce : Bytes 24) (ciphertext : List UInt8) :
    Except FormatError RecordEnvelope := do
  if key_epoch = 0 then throw .invariantViolation
  if ciphertext.length < tagBytes then throw .malformed
  let envelope : RecordEnvelope := ⟨key_epoch, nonce, ciphertext⟩
  let _ ← envelope.encode
  return envelope

/-- The reads of `RecordEnvelope::decode`. -/
def decodeRecordEnvelopeFrom : Decoder (UInt32 × Bytes 24 × List UInt8) := do
  expectArray 4
  expectU32 recordEnvelopeVersion
  let key_epoch ← decodeU32
  let nonce ← decodeFixedBytes 24
  let ciphertext ← decodeBoundedBytes maxRecordEnvelopeBytes
  return (key_epoch, nonce, ciphertext)

/-- `RecordEnvelope::decode`. -/
def RecordEnvelope.decode (bytes : List UInt8) : Except FormatError RecordEnvelope := do
  if bytes.length > maxRecordEnvelopeBytes then throw .tooLarge
  let (key_epoch, nonce, ciphertext) ← decodeAll decodeRecordEnvelopeFrom bytes
  let envelope ← RecordEnvelope.new key_epoch nonce ciphertext
  if (← envelope.encode) ≠ bytes then throw .nonCanonical
  return envelope

/-- `encode_record_aad`. -/
def encodeRecordAad (vault_id record_id : Bytes 16) (key_epoch : UInt32) : List UInt8 :=
  Cbor.array 6 ++ Cbor.text recordMagic ++ encodeU32 containerVersion ++
    encodeU32 recordEnvelopeVersion ++ Cbor.bytes vault_id.val ++ Cbor.bytes record_id.val ++
    encodeU32 key_epoch

/-! ## Website accounts -/

/-- The fields of a website-account plaintext, before validation. -/
structure WebsiteAccountFields where
  revision : UInt64
  created_at_ms : UInt64
  modified_at_ms : UInt64
  service_name : String
  permitted_origin : String
  username : String
  password : String
  deriving DecidableEq

/-- `validate_plaintext`. -/
def validatePlaintext (value : WebsiteAccountFields) : Except FormatError Unit := do
  if value.revision = 0 ∨ value.modified_at_ms < value.created_at_ms ∨ value.service_name = "" ∨
      value.permitted_origin = "" then
    throw .invariantViolation
  if value.service_name.utf8ByteSize > maxServiceNameBytes ∨
      value.permitted_origin.utf8ByteSize > maxOriginBytes ∨
      value.username.utf8ByteSize > maxUsernameBytes ∨
      value.password.utf8ByteSize > maxPasswordBytes then
    throw .tooLarge
  if hasControl value.service_name ∨ hasControl value.permitted_origin then
    throw .invariantViolation

/-- Canonical plaintext for the website-account record. -/
structure WebsiteAccountPlaintext extends WebsiteAccountFields where
  /-- The constructor has validated the fields. -/
  validated : validatePlaintext toWebsiteAccountFields = .ok ()
  deriving DecidableEq

/-- `WebsiteAccountPlaintext::new`. -/
def WebsiteAccountPlaintext.new (value : WebsiteAccountFields) :
    Except FormatError WebsiteAccountPlaintext :=
  match h : validatePlaintext value with
  | .ok () => .ok ⟨value, h⟩
  | .error e => .error e

/-- The bytes that `WebsiteAccountPlaintext::encode` writes. -/
def encodeWebsiteInto (value : WebsiteAccountFields) : List UInt8 :=
  Cbor.array 6 ++ (encodeU32 recordSchema ++ (encodeU32 websiteAccountRecordType ++
    (encodeU64 value.revision ++ (encodeU64 value.created_at_ms ++
      (encodeU64 value.modified_at_ms ++ (Cbor.array 4 ++ (Cbor.text value.service_name ++
        (Cbor.text value.permitted_origin ++ (Cbor.text value.username ++
          Cbor.text value.password)))))))))

/-- `WebsiteAccountPlaintext::encode`. The source writes into a buffer whose capacity is fixed
beforehand and would abort if it were exceeded; `encodeWebsiteInto_length_le` shows that it never
is. -/
def WebsiteAccountPlaintext.encode (value : WebsiteAccountPlaintext) :
    Except FormatError (List UInt8) := do
  validatePlaintext value.toWebsiteAccountFields
  let bytes := encodeWebsiteInto value.toWebsiteAccountFields
  if bytes.length + tagBytes > maxRecordEnvelopeBytes then throw .tooLarge
  return bytes

/-- The reads of `WebsiteAccountPlaintext::decode`. -/
def decodeWebsiteFrom : Decoder WebsiteAccountFields := do
  expectArray 6
  expectU32 recordSchema
  expectU32 websiteAccountRecordType
  let revision ← decodeU64
  let created_at_ms ← decodeU64
  let modified_at_ms ← decodeU64
  expectArray 4
  let service_name ← decodeBoundedText maxServiceNameBytes
  let permitted_origin ← decodeBoundedText maxOriginBytes
  let username ← decodeBoundedText maxUsernameBytes
  let password ← decodeBoundedText maxPasswordBytes
  return ⟨revision, created_at_ms, modified_at_ms, service_name, permitted_origin, username,
    password⟩

/-- `WebsiteAccountPlaintext::decode`. -/
def WebsiteAccountPlaintext.decode (bytes : List UInt8) :
    Except FormatError WebsiteAccountPlaintext := do
  if bytes.length + tagBytes > maxRecordEnvelopeBytes then throw .tooLarge
  let fields ← decodeAll decodeWebsiteFrom bytes
  let value ← WebsiteAccountPlaintext.new fields
  if (← value.encode) ≠ bytes then throw .nonCanonical
  return value

/-! ## Passkeys -/

/-- The fields of a passkey plaintext, before validation. -/
structure PasskeyFields where
  revision : UInt64
  created_at_ms : UInt64
  modified_at_ms : UInt64
  signature_counter : UInt32
  creation_state : PasskeyCreationState
  rp_id : String
  user_handle : List UInt8
  user_name : String
  user_display_name : String
  credential_id : Bytes 32
  private_key : Bytes 32
  deriving DecidableEq

/-- `validate_passkey_plaintext`. -/
def validatePasskeyPlaintext (value : PasskeyFields) : Except FormatError Unit := do
  if value.revision = 0 ∨ value.modified_at_ms < value.created_at_ms ∨ value.rp_id = "" ∨
      value.user_handle = [] ∨ value.user_name = "" ∨ value.user_display_name = "" ∨
      value.credential_id.isZero ∨ value.private_key.isZero then
    throw .invariantViolation
  if value.rp_id.utf8ByteSize > maxPasskeyRpIdBytes ∨
      value.user_handle.length > maxPasskeyUserHandleBytes ∨
      value.user_name.utf8ByteSize > maxPasskeyUserNameBytes ∨
      value.user_display_name.utf8ByteSize > maxPasskeyUserDisplayNameBytes then
    throw .tooLarge
  if hasControl value.rp_id ∨ hasControl value.user_name ∨ hasControl value.user_display_name then
    throw .invariantViolation

/-- Canonical plaintext for one discoverable ES256 passkey. -/
structure PasskeyPlaintext extends PasskeyFields where
  /-- The constructor has validated the fields. -/
  validated : validatePasskeyPlaintext toPasskeyFields = .ok ()
  deriving DecidableEq

/-- `PasskeyPlaintext::new`. -/
def PasskeyPlaintext.new (value : PasskeyFields) : Except FormatError PasskeyPlaintext :=
  match h : validatePasskeyPlaintext value with
  | .ok () => .ok ⟨value, h⟩
  | .error e => .error e

/-- The bytes that `PasskeyPlaintext::encode` writes. -/
def encodePasskeyInto (value : PasskeyFields) : List UInt8 :=
  Cbor.array 6 ++ (encodeU32 recordSchema ++ (encodeU32 passkeyRecordType ++
    (encodeU64 value.revision ++ (encodeU64 value.created_at_ms ++
      (encodeU64 value.modified_at_ms ++ (Cbor.array 8 ++ (encodeU32 value.signature_counter ++
        (encodeU32 value.creation_state.code ++ (Cbor.text value.rp_id ++
          (Cbor.bytes value.user_handle ++ (Cbor.text value.user_name ++
            (Cbor.text value.user_display_name ++ (Cbor.bytes value.credential_id.val ++
              Cbor.bytes value.private_key.val)))))))))))))

/-- `PasskeyPlaintext::encode`. The buffer's capacity is never exceeded, by
`encodePasskeyInto_length_le`. -/
def PasskeyPlaintext.encode (value : PasskeyPlaintext) : Except FormatError (List UInt8) := do
  validatePasskeyPlaintext value.toPasskeyFields
  let bytes := encodePasskeyInto value.toPasskeyFields
  if bytes.length + tagBytes > maxRecordEnvelopeBytes then throw .tooLarge
  return bytes

/-- The reads of `PasskeyPlaintext::decode`. -/
def decodePasskeyFrom : Decoder PasskeyFields := do
  expectArray 6
  expectU32 recordSchema
  expectU32 passkeyRecordType
  let revision ← decodeU64
  let created_at_ms ← decodeU64
  let modified_at_ms ← decodeU64
  expectArray 8
  let signature_counter ← decodeU32
  let creation_state ← PasskeyCreationState.fromCode (← decodeU32)
  let rp_id ← decodeBoundedText maxPasskeyRpIdBytes
  let user_handle ← decodeBoundedBytes maxPasskeyUserHandleBytes
  let user_name ← decodeBoundedText maxPasskeyUserNameBytes
  let user_display_name ← decodeBoundedText maxPasskeyUserDisplayNameBytes
  let credential_id ← decodeFixedBytes 32
  let private_key ← decodeFixedBytes 32
  return ⟨revision, created_at_ms, modified_at_ms, signature_counter, creation_state, rp_id,
    user_handle, user_name, user_display_name, credential_id, private_key⟩

/-- `PasskeyPlaintext::decode`. -/
def PasskeyPlaintext.decode (bytes : List UInt8) : Except FormatError PasskeyPlaintext := do
  if bytes.length + tagBytes > maxRecordEnvelopeBytes then throw .tooLarge
  let fields ← decodeAll decodePasskeyFrom bytes
  let value ← PasskeyPlaintext.new fields
  if (← value.encode) ≠ bytes then throw .nonCanonical
  return value

/-- The reads of `record_type`. -/
def decodeRecordType : Decoder RecordType := do
  expectArray 6
  expectU32 recordSchema
  let discriminator ← decodeU32
  if discriminator = websiteAccountRecordType then return .websiteAccount
  else if discriminator = passkeyRecordType then return .passkey
  else throw .unsupported

/-- `record_type`. It reads the prefix of a plaintext and leaves the rest. -/
def recordType (bytes : List UInt8) : Except FormatError RecordType := do
  if bytes.length + tagBytes > maxRecordEnvelopeBytes then throw .tooLarge
  let (kind, _) ← decodeRecordType bytes
  return kind

/-! ## What validation means -/

/-- The properties that `validate_plaintext` checks. -/
structure WebsiteAccountFields.Valid (value : WebsiteAccountFields) : Prop where
  revision : value.revision ≠ 0
  times : value.created_at_ms ≤ value.modified_at_ms
  service_name : value.service_name ≠ ""
  permitted_origin : value.permitted_origin ≠ ""
  service_name_size : value.service_name.utf8ByteSize ≤ maxServiceNameBytes
  permitted_origin_size : value.permitted_origin.utf8ByteSize ≤ maxOriginBytes
  username_size : value.username.utf8ByteSize ≤ maxUsernameBytes
  password_size : value.password.utf8ByteSize ≤ maxPasswordBytes
  service_name_control : hasControl value.service_name = false
  permitted_origin_control : hasControl value.permitted_origin = false

theorem validatePlaintext_eq_ok {value : WebsiteAccountFields} :
    validatePlaintext value = .ok () ↔ value.Valid := by
  simp only [validatePlaintext, Except.throw_eq, Except.error_bind, Except.pure_eq,
    Except.ite_error_eq_ok, not_or, not_lt, gt_iff_lt, Bool.not_eq_true, and_true]
  constructor
  · rintro ⟨⟨h1, h2, h3, h4⟩, ⟨h5, h6, h7, h8⟩, h9, h10⟩
    exact ⟨h1, UInt64.not_lt.mp h2, h3, h4, h5, h6, h7, h8, h9, h10⟩
  · intro h
    exact ⟨⟨h.revision, UInt64.not_lt.mpr h.times, h.service_name, h.permitted_origin⟩,
      ⟨h.service_name_size, h.permitted_origin_size, h.username_size, h.password_size⟩,
      h.service_name_control, h.permitted_origin_control⟩

/-- The properties that `validate_passkey_plaintext` checks. -/
structure PasskeyFields.Valid (value : PasskeyFields) : Prop where
  revision : value.revision ≠ 0
  times : value.created_at_ms ≤ value.modified_at_ms
  rp_id : value.rp_id ≠ ""
  user_handle : value.user_handle ≠ []
  user_name : value.user_name ≠ ""
  user_display_name : value.user_display_name ≠ ""
  credential_id : value.credential_id.isZero = false
  private_key : value.private_key.isZero = false
  rp_id_size : value.rp_id.utf8ByteSize ≤ maxPasskeyRpIdBytes
  user_handle_size : value.user_handle.length ≤ maxPasskeyUserHandleBytes
  user_name_size : value.user_name.utf8ByteSize ≤ maxPasskeyUserNameBytes
  user_display_name_size :
    value.user_display_name.utf8ByteSize ≤ maxPasskeyUserDisplayNameBytes
  rp_id_control : hasControl value.rp_id = false
  user_name_control : hasControl value.user_name = false
  user_display_name_control : hasControl value.user_display_name = false

theorem validatePasskeyPlaintext_eq_ok {value : PasskeyFields} :
    validatePasskeyPlaintext value = .ok () ↔ value.Valid := by
  simp only [validatePasskeyPlaintext, Except.throw_eq, Except.error_bind, Except.pure_eq,
    Except.ite_error_eq_ok, not_or, not_lt, gt_iff_lt, Bool.not_eq_true, and_true]
  constructor
  · rintro ⟨⟨h1, h2, h3, h4, h5, h6, h7, h8⟩, ⟨h9, h10, h11, h12⟩, h13, h14, h15⟩
    exact ⟨h1, UInt64.not_lt.mp h2, h3, h4, h5, h6, h7, h8, h9, h10, h11, h12, h13, h14, h15⟩
  · intro h
    exact ⟨⟨h.revision, UInt64.not_lt.mpr h.times, h.rp_id, h.user_handle, h.user_name,
      h.user_display_name, h.credential_id, h.private_key⟩,
      ⟨h.rp_id_size, h.user_handle_size, h.user_name_size, h.user_display_name_size⟩,
      h.rp_id_control, h.user_name_control, h.user_display_name_control⟩

namespace WebsiteAccountPlaintext

theorem valid (value : WebsiteAccountPlaintext) : value.toWebsiteAccountFields.Valid :=
  validatePlaintext_eq_ok.mp value.validated

/-- The constructor accepts exactly the valid fields and keeps them. -/
theorem new_eq_ok {fields : WebsiteAccountFields} {value : WebsiteAccountPlaintext} :
    WebsiteAccountPlaintext.new fields = .ok value ↔ value.toWebsiteAccountFields = fields := by
  unfold WebsiteAccountPlaintext.new
  split
  · rw [Except.ok.injEq]
    constructor
    · rintro rfl
      rfl
    · rintro rfl
      rfl
  · rename_i e herror
    constructor
    · intro h
      cases h
    · rintro rfl
      rw [value.validated] at herror
      cases herror

end WebsiteAccountPlaintext

namespace PasskeyPlaintext

theorem valid (value : PasskeyPlaintext) : value.toPasskeyFields.Valid :=
  validatePasskeyPlaintext_eq_ok.mp value.validated

/-- The constructor accepts exactly the valid fields and keeps them. -/
theorem new_eq_ok {fields : PasskeyFields} {value : PasskeyPlaintext} :
    PasskeyPlaintext.new fields = .ok value ↔ value.toPasskeyFields = fields := by
  unfold PasskeyPlaintext.new
  split
  · rw [Except.ok.injEq]
    constructor
    · rintro rfl
      rfl
    · rintro rfl
      rfl
  · rename_i e herror
    constructor
    · intro h
      cases h
    · rintro rfl
      rw [value.validated] at herror
      cases herror

end PasskeyPlaintext

/-! ## Sizes

The capacity of the secret buffer is the sum of the lengths of the fields and a fixed overhead, which
covers the heads of all items. With the bounds on the fields it also keeps every valid plaintext
within the limit of an envelope. -/

theorem encodeU32_length_le (value : UInt32) : (encodeU32 value).length ≤ 9 :=
  Cbor.head_length_le 0 _

theorem encodeU64_length_le (value : UInt64) : (encodeU64 value).length ≤ 9 :=
  Cbor.head_length_le 0 _

/-- The secret buffer of `WebsiteAccountPlaintext::encode` does not overflow. -/
theorem encodeWebsiteInto_length_le (value : WebsiteAccountFields) :
    (encodeWebsiteInto value).length ≤ value.service_name.utf8ByteSize +
      value.permitted_origin.utf8ByteSize + value.username.utf8ByteSize +
      value.password.utf8ByteSize + websiteAccountEncodingOverheadBytes := by
  have hschema := encodeU32_length_le recordSchema
  have hkind := encodeU32_length_le websiteAccountRecordType
  have hrevision := encodeU64_length_le value.revision
  have hcreated := encodeU64_length_le value.created_at_ms
  have hmodified := encodeU64_length_le value.modified_at_ms
  have houter : (Cbor.array 6).length ≤ 9 := Cbor.head_length_le 4 _
  have hinner : (Cbor.array 4).length ≤ 9 := Cbor.head_length_le 4 _
  have h1 := Cbor.head_length_le 3 value.service_name.utf8ByteSize
  have h2 := Cbor.head_length_le 3 value.permitted_origin.utf8ByteSize
  have h3 := Cbor.head_length_le 3 value.username.utf8ByteSize
  have h4 := Cbor.head_length_le 3 value.password.utf8ByteSize
  simp only [encodeWebsiteInto, List.length_append, Cbor.text_length,
    websiteAccountEncodingOverheadBytes]
  omega

/-- The part of a passkey plaintext in front of its first text takes at most nine heads. -/
theorem encodePasskeyInto_front_length_le (value : PasskeyFields) :
    (Cbor.array 6 ++ encodeU32 recordSchema ++ encodeU32 passkeyRecordType ++
      encodeU64 value.revision ++ encodeU64 value.created_at_ms ++
      encodeU64 value.modified_at_ms ++ Cbor.array 8 ++ encodeU32 value.signature_counter ++
      encodeU32 value.creation_state.code).length ≤ 81 := by
  have hschema := encodeU32_length_le recordSchema
  have hkind := encodeU32_length_le passkeyRecordType
  have hrevision := encodeU64_length_le value.revision
  have hcreated := encodeU64_length_le value.created_at_ms
  have hmodified := encodeU64_length_le value.modified_at_ms
  have houter : (Cbor.array 6).length ≤ 9 := Cbor.head_length_le 4 _
  have hinner : (Cbor.array 8).length ≤ 9 := Cbor.head_length_le 4 _
  have hcounter := encodeU32_length_le value.signature_counter
  have hstate := encodeU32_length_le value.creation_state.code
  simp only [List.length_append]
  linarith

/-- The secret buffer of `PasskeyPlaintext::encode` does not overflow. -/
theorem encodePasskeyInto_length_le (value : PasskeyFields) :
    (encodePasskeyInto value).length ≤ value.rp_id.utf8ByteSize + value.user_handle.length +
      value.user_name.utf8ByteSize + value.user_display_name.utf8ByteSize +
      passkeyEncodingOverheadBytes := by
  have hfront := encodePasskeyInto_front_length_le value
  have h1 := Cbor.head_length_le 3 value.rp_id.utf8ByteSize
  have h2 := Cbor.head_length_le 2 value.user_handle.length
  have h3 := Cbor.head_length_le 3 value.user_name.utf8ByteSize
  have h4 := Cbor.head_length_le 3 value.user_display_name.utf8ByteSize
  -- The two fixed arrays have heads of two bytes and 32 bytes each.
  have h5 : (Cbor.bytes value.credential_id.val).length = 34 := by
    rw [Cbor.bytes_length, value.credential_id.property]
    rfl
  have h6 : (Cbor.bytes value.private_key.val).length = 34 := by
    rw [Cbor.bytes_length, value.private_key.property]
    rfl
  simp only [List.length_append] at hfront
  simp only [encodePasskeyInto, List.length_append, Cbor.text_length, Cbor.bytes_length value.user_handle,
    h5, h6, passkeyEncodingOverheadBytes]
  linarith

/-- Every valid website account fits into an envelope. -/
theorem encodeWebsiteInto_fits {value : WebsiteAccountFields} (h : value.Valid) :
    (encodeWebsiteInto value).length + tagBytes ≤ maxRecordEnvelopeBytes := by
  have hcapacity := encodeWebsiteInto_length_le value
  have h1 := h.service_name_size
  have h2 := h.permitted_origin_size
  have h3 := h.username_size
  have h4 := h.password_size
  simp only [maxServiceNameBytes, maxOriginBytes, maxUsernameBytes, maxPasswordBytes,
    websiteAccountEncodingOverheadBytes, tagBytes, maxRecordEnvelopeBytes] at *
  linarith

/-- Every valid passkey fits into an envelope. -/
theorem encodePasskeyInto_fits {value : PasskeyFields} (h : value.Valid) :
    (encodePasskeyInto value).length + tagBytes ≤ maxRecordEnvelopeBytes := by
  have hcapacity := encodePasskeyInto_length_le value
  have h1 := h.rp_id_size
  have h2 := h.user_handle_size
  have h3 := h.user_name_size
  have h4 := h.user_display_name_size
  simp only [maxPasskeyRpIdBytes, maxPasskeyUserHandleBytes, maxPasskeyUserNameBytes,
    maxPasskeyUserDisplayNameBytes, passkeyEncodingOverheadBytes, tagBytes,
    maxRecordEnvelopeBytes] at *
  linarith

/-! ## Round trips -/

theorem decodeRecordEnvelopeFrom_reads {envelope : RecordEnvelope}
    (hlength : envelope.ciphertext.length ≤ maxRecordEnvelopeBytes) :
    Reads decodeRecordEnvelopeFrom (encodeRecordEnvelopeInto envelope)
      (envelope.key_epoch, envelope.nonce, envelope.ciphertext) := by
  refine (expectArray_reads (by norm_num)).bind ?_
  refine (expectU32_reads _).bind ?_
  refine (decodeU32_reads _).bind ?_
  refine (decodeFixedBytes_reads (by norm_num) _).bind ?_
  exact (decodeBoundedBytes_reads (by norm_num [maxRecordEnvelopeBytes]) hlength).bind_last
    (Reads.pure _)

/-- What a successful `RecordEnvelope::encode` says about the envelope and its bytes. -/
theorem RecordEnvelope.encode_eq_ok {envelope : RecordEnvelope} {bytes : List UInt8} :
    envelope.encode = .ok bytes ↔ (envelope.key_epoch ≠ 0 ∧
      tagBytes ≤ envelope.ciphertext.length) ∧
      (encodeRecordEnvelopeInto envelope).length ≤ maxRecordEnvelopeBytes ∧
      encodeRecordEnvelopeInto envelope = bytes := by
  simp [RecordEnvelope.encode]

/-- `RecordEnvelope::new` checks exactly that the envelope can be encoded. -/
theorem RecordEnvelope.new_eq_ok {key_epoch : UInt32} {nonce : Bytes 24}
    {ciphertext : List UInt8} {envelope : RecordEnvelope} :
    RecordEnvelope.new key_epoch nonce ciphertext = .ok envelope ↔
      envelope = ⟨key_epoch, nonce, ciphertext⟩ ∧ ∃ bytes, envelope.encode = .ok bytes := by
  simp only [RecordEnvelope.new, Except.throw_eq, Except.error_bind, Except.ite_error_eq_ok,
    Except.bind_eq_ok, Except.pure_eq, Except.ok.injEq, encode_eq_ok, not_lt]
  constructor
  · rintro ⟨hepoch, htag, bytes, hbytes, rfl⟩
    exact ⟨rfl, bytes, hbytes⟩
  · rintro ⟨rfl, bytes, hbytes⟩
    exact ⟨hbytes.1.1, hbytes.1.2, bytes, hbytes, rfl⟩

/-- A ciphertext is no longer than the envelope around it. -/
theorem RecordEnvelope.ciphertext_length_le (envelope : RecordEnvelope) :
    envelope.ciphertext.length ≤ (encodeRecordEnvelopeInto envelope).length := by
  simp only [encodeRecordEnvelopeInto, Cbor.bytes, List.length_append]
  omega

/-- An encoded record envelope is decoded. -/
theorem RecordEnvelope.decode_encode {envelope : RecordEnvelope} {bytes : List UInt8}
    (h : envelope.encode = .ok bytes) : RecordEnvelope.decode bytes = .ok envelope := by
  obtain ⟨-, hsize, rfl⟩ := encode_eq_ok.mp h
  have hread := decodeAll_eq (decodeRecordEnvelopeFrom_reads
    (envelope.ciphertext_length_le.trans hsize))
  have hnew : RecordEnvelope.new envelope.key_epoch envelope.nonce envelope.ciphertext =
      .ok envelope := new_eq_ok.mpr ⟨rfl, _, h⟩
  simp [RecordEnvelope.decode, hread, hnew, h, hsize]

/-- A decoded record envelope re-encodes to the bytes that it was decoded from. -/
theorem RecordEnvelope.encode_of_decode {envelope : RecordEnvelope} {bytes : List UInt8}
    (h : RecordEnvelope.decode bytes = .ok envelope) : envelope.encode = .ok bytes := by
  simp only [RecordEnvelope.decode, Except.throw_eq, Except.error_bind, Except.ite_error_eq_ok,
    Except.bind_eq_ok, Except.pure_eq, Except.ok.injEq, not_not] at h
  obtain ⟨-, _, -, _, -, bytes', hbytes, rfl, rfl⟩ := h
  exact hbytes

theorem decodeWebsiteFrom_reads {value : WebsiteAccountFields} (h : value.Valid) :
    Reads decodeWebsiteFrom (encodeWebsiteInto value) value := by
  refine (expectArray_reads (by norm_num)).bind ?_
  refine (expectU32_reads _).bind ?_
  refine (expectU32_reads _).bind ?_
  refine (decodeU64_reads _).bind ?_
  refine (decodeU64_reads _).bind ?_
  refine (decodeU64_reads _).bind ?_
  refine (expectArray_reads (by norm_num)).bind ?_
  refine (decodeBoundedText_reads (by norm_num [maxServiceNameBytes]) h.service_name_size).bind ?_
  refine (decodeBoundedText_reads (by norm_num [maxOriginBytes]) h.permitted_origin_size).bind ?_
  refine (decodeBoundedText_reads (by norm_num [maxUsernameBytes]) h.username_size).bind ?_
  exact (decodeBoundedText_reads (by norm_num [maxPasswordBytes]) h.password_size).bind_last
    (Reads.pure value)

/-- Every website account can be encoded. -/
@[simp]
theorem WebsiteAccountPlaintext.encode_eq (value : WebsiteAccountPlaintext) :
    value.encode = .ok (encodeWebsiteInto value.toWebsiteAccountFields) := by
  simp [WebsiteAccountPlaintext.encode, value.validated, encodeWebsiteInto_fits value.valid]

/-- An encoded website account is decoded. -/
theorem WebsiteAccountPlaintext.decode_encode (value : WebsiteAccountPlaintext) :
    WebsiteAccountPlaintext.decode (encodeWebsiteInto value.toWebsiteAccountFields) =
      .ok value := by
  have hread := decodeAll_eq (decodeWebsiteFrom_reads value.valid)
  have hnew : WebsiteAccountPlaintext.new value.toWebsiteAccountFields = .ok value :=
    new_eq_ok.mpr rfl
  simp [WebsiteAccountPlaintext.decode, hread, hnew, encodeWebsiteInto_fits value.valid]

theorem PasskeyCreationState.fromCode_code (state : PasskeyCreationState) :
    PasskeyCreationState.fromCode state.code = .ok state := by
  cases state <;> rfl

theorem decodePasskeyFrom_reads {value : PasskeyFields} (h : value.Valid) :
    Reads decodePasskeyFrom (encodePasskeyInto value) value := by
  refine (expectArray_reads (by norm_num)).bind ?_
  refine (expectU32_reads _).bind ?_
  refine (expectU32_reads _).bind ?_
  refine (decodeU64_reads _).bind ?_
  refine (decodeU64_reads _).bind ?_
  refine (decodeU64_reads _).bind ?_
  refine (expectArray_reads (by norm_num)).bind ?_
  refine (decodeU32_reads _).bind ?_
  refine (decodeU32_reads _).bind ?_
  rw [PasskeyCreationState.fromCode_code]
  refine (Reads.pure value.creation_state).bind ?_
  refine (decodeBoundedText_reads (by norm_num [maxPasskeyRpIdBytes]) h.rp_id_size).bind ?_
  refine (decodeBoundedBytes_reads (by norm_num [maxPasskeyUserHandleBytes])
    h.user_handle_size).bind ?_
  refine (decodeBoundedText_reads (by norm_num [maxPasskeyUserNameBytes])
    h.user_name_size).bind ?_
  refine (decodeBoundedText_reads (by norm_num [maxPasskeyUserDisplayNameBytes])
    h.user_display_name_size).bind ?_
  refine (decodeFixedBytes_reads (by norm_num) _).bind ?_
  exact (decodeFixedBytes_reads (by norm_num) _).bind_last (Reads.pure value)

/-- Every passkey can be encoded. -/
@[simp]
theorem PasskeyPlaintext.encode_eq (value : PasskeyPlaintext) :
    value.encode = .ok (encodePasskeyInto value.toPasskeyFields) := by
  simp [PasskeyPlaintext.encode, value.validated, encodePasskeyInto_fits value.valid]

/-- An encoded passkey is decoded. -/
theorem PasskeyPlaintext.decode_encode (value : PasskeyPlaintext) :
    PasskeyPlaintext.decode (encodePasskeyInto value.toPasskeyFields) = .ok value := by
  have hread := decodeAll_eq (decodePasskeyFrom_reads value.valid)
  have hnew : PasskeyPlaintext.new value.toPasskeyFields = .ok value := new_eq_ok.mpr rfl
  simp [PasskeyPlaintext.decode, hread, hnew, encodePasskeyInto_fits value.valid]

/-- A decoder that reads the front of an encoding leaves the rest of it. -/
theorem decodeRecordType_reads (discriminator : UInt32) (kind : RecordType)
    (h : (discriminator = websiteAccountRecordType ∧ kind = .websiteAccount) ∨
      (discriminator = passkeyRecordType ∧ kind = .passkey)) :
    Reads decodeRecordType (Cbor.array 6 ++ (encodeU32 recordSchema ++ encodeU32 discriminator))
      kind := by
  refine (expectArray_reads (by norm_num)).bind ?_
  refine (expectU32_reads _).bind ?_
  refine (decodeU32_reads _).bind_last ?_
  rcases h with ⟨rfl, rfl⟩ | ⟨rfl, rfl⟩
  · exact Reads.pure RecordType.websiteAccount
  · exact Reads.pure RecordType.passkey

/-- The discriminator of an encoded website account. -/
theorem recordType_encodeWebsiteInto {value : WebsiteAccountFields} (h : value.Valid) :
    recordType (encodeWebsiteInto value) = .ok .websiteAccount := by
  have hfits := encodeWebsiteInto_fits h
  have hread := decodeRecordType_reads websiteAccountRecordType .websiteAccount (by simp)
  rw [recordType, if_neg (not_lt.mpr hfits), encodeWebsiteInto]
  simp only [Reads, List.append_assoc] at hread ⊢
  rw [hread]
  rfl

/-- The discriminator of an encoded passkey. -/
theorem recordType_encodePasskeyInto {value : PasskeyFields} (h : value.Valid) :
    recordType (encodePasskeyInto value) = .ok .passkey := by
  have hfits := encodePasskeyInto_fits h
  have hread := decodeRecordType_reads passkeyRecordType .passkey (by simp)
  rw [recordType, if_neg (not_lt.mpr hfits), encodePasskeyInto]
  simp only [Reads, List.append_assoc] at hread ⊢
  rw [hread]
  rfl

/-- A decoded website account re-encodes to the bytes that it was decoded from. -/
theorem WebsiteAccountPlaintext.encode_of_decode {bytes : List UInt8}
    {value : WebsiteAccountPlaintext} (h : WebsiteAccountPlaintext.decode bytes = .ok value) :
    value.encode = .ok bytes := by
  simp only [WebsiteAccountPlaintext.decode, Except.throw_eq, Except.error_bind,
    Except.ite_error_eq_ok, Except.bind_eq_ok, Except.pure_eq, Except.ok.injEq, not_not] at h
  obtain ⟨-, _, -, _, -, bytes', hbytes, rfl, rfl⟩ := h
  exact hbytes

/-- A decoded passkey re-encodes to the bytes that it was decoded from. -/
theorem PasskeyPlaintext.encode_of_decode {bytes : List UInt8} {value : PasskeyPlaintext}
    (h : PasskeyPlaintext.decode bytes = .ok value) : value.encode = .ok bytes := by
  simp only [PasskeyPlaintext.decode, Except.throw_eq, Except.error_bind,
    Except.ite_error_eq_ok, Except.bind_eq_ok, Except.pure_eq, Except.ok.injEq, not_not] at h
  obtain ⟨-, _, -, _, -, bytes', hbytes, rfl, rfl⟩ := h
  exact hbytes

end Librarian.Format
