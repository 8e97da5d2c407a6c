import Librarian.Protocol.Responses

/-!
# The provider's response decoders

Windows takes a passkey from a structure with an array of a fixed size for each of its fields, and
the number of bytes that are used. The provider decodes a response of the agent, compares it with
its own encoding of what it has read, and copies the fields into such a structure. The sizes of the
arrays are constants of the provider, and the limits of the encoders are constants of the protocol:
`responses_understood` shows that they fit together.
-/

namespace Librarian.Provider

open Protocol hiding expectArray expectArray_reads
open Cursor

/-! ## Native structures -/

/-- `CREDENTIAL_ID_BYTES`. -/
def credentialIdBytes : ℕ := 32

/-- `USER_HANDLE_CAPACITY`. -/
def userHandleCapacity : ℕ := 64

/-- `USER_NAME_CAPACITY`. -/
def userNameCapacity : ℕ := 256

/-- `PUBLIC_KEY_BYTES`. -/
def publicKeyBytes : ℕ := 65

/-- `AUTHENTICATOR_DATA_BYTES`. -/
def authenticatorDataBytes : ℕ := 37

/-- `SIGNATURE_CAPACITY`. -/
def signatureCapacity : ℕ := 80

/-- `MAX_SUMMARIES`. -/
def maxSummaries : ℕ := 64

/-- `NativeSummary`. -/
structure NativeSummary where
  credential_id : Bytes credentialIdBytes
  user_handle : Bytes userHandleCapacity
  user_handle_bytes : UInt32
  user_name : Bytes userNameCapacity
  user_name_bytes : UInt32
  user_display_name : Bytes userNameCapacity
  user_display_name_bytes : UInt32

/-- `NativeCredential`. -/
structure NativeCredential where
  credential_id : Bytes credentialIdBytes
  user_handle : Bytes userHandleCapacity
  user_handle_bytes : UInt32
  public_key : Bytes publicKeyBytes

/-- `NativeAssertion`. -/
structure NativeAssertion where
  credential_id : Bytes credentialIdBytes
  user_handle : Bytes userHandleCapacity
  user_handle_bytes : UInt32
  authenticator_data : Bytes authenticatorDataBytes
  signature : Bytes signatureCapacity
  signature_bytes : UInt32

/-- How a callback ends early: with `CALLBACK_FAILED`, or with a panic. -/
inductive CallbackFault
  | failed
  | panicked
  deriving DecidableEq, Repr

/-- `map_err(|_| CALLBACK_FAILED)` on an encoder, whose panic passes through. -/
def CallbackFault.ofEncode : EncodeFault → CallbackFault
  | .returned _ => .failed
  | .panicked => .panicked

/-- `u32::try_from` on the length of a field. -/
def lengthU32 (field : List UInt8) : Except CallbackFault UInt32 :=
  if field.length ≥ 2 ^ 32 then .error .failed else .ok (UInt32.ofNat field.length)

/-- `copy_from_slice` into the start of an array of zeros. The slice of the array that is written
has the length of the field, and a length beyond the end of the array is a panic. -/
def copyFromSlice (n : ℕ) (field : List UInt8) : Except CallbackFault (Bytes n) :=
  (Bytes.ofList? n (field ++ List.replicate (n - field.length) 0)).okOr .panicked

/-- The array holds the field in its first `length` bytes. -/
def Holds {n : ℕ} (storage : Bytes n) (length : UInt32) (field : List UInt8) : Prop :=
  length.toNat ≤ n ∧ storage.val.take length.toNat = field

/-- A field that fits is copied, with its length. -/
theorem copied {n : ℕ} {field : List UInt8} (hn : n < 2 ^ 32) (h : field.length ≤ n) :
    ∃ length storage, lengthU32 field = .ok length ∧ copyFromSlice n field = .ok storage ∧
      Holds storage length field := by
  have hlength : (field ++ List.replicate (n - field.length) 0).length = n := by
    rw [List.length_append, List.length_replicate]
    omega
  have hsmall : (UInt32.ofNat field.length).toNat = field.length :=
    UInt32.toNat_ofNat_of_lt' (h.trans_lt hn)
  refine ⟨_, ⟨_, hlength⟩, if_neg (by omega), ?_, ?_⟩
  · rw [copyFromSlice, Bytes.ofList?, dif_pos hlength, Option.okOr_some]
  · rw [Holds, hsmall]
    exact ⟨h, List.take_left⟩

/-! ## Decoders -/

/-- `OwnedSummary`. -/
structure OwnedSummary where
  credential_id : Bytes credentialIdBytes
  user_handle : List UInt8
  user_name : String
  user_display_name : String
  deriving DecidableEq

/-- The view of an entry that `decode_summaries` encodes again. -/
def OwnedSummary.view (summary : OwnedSummary) : PasskeySummaryView :=
  ⟨summary.credential_id, summary.user_handle, summary.user_name, summary.user_display_name⟩

/-- `OwnedSummary::to_native`. -/
def OwnedSummary.toNative (summary : OwnedSummary) : Except CallbackFault NativeSummary := do
  if summary.user_handle.length > userHandleCapacity ∨
      summary.user_name.utf8ByteSize > userNameCapacity ∨
      summary.user_display_name.utf8ByteSize > userNameCapacity then
    throw .failed
  let user_handle_bytes ← lengthU32 summary.user_handle
  let user_name_bytes ← lengthU32 (Utf8.encode summary.user_name)
  let user_display_name_bytes ← lengthU32 (Utf8.encode summary.user_display_name)
  let user_handle ← copyFromSlice userHandleCapacity summary.user_handle
  let user_name ← copyFromSlice userNameCapacity (Utf8.encode summary.user_name)
  let user_display_name ← copyFromSlice userNameCapacity (Utf8.encode summary.user_display_name)
  return ⟨summary.credential_id, user_handle, user_handle_bytes, user_name, user_name_bytes,
    user_display_name, user_display_name_bytes⟩

/-- One round of the loop of `decode_summaries`. -/
def readSummary : Cursor CallbackFault OwnedSummary := do
  expectArray .failed 4
  let credential_id ← fixedBytes .failed credentialIdBytes
  let user_handle ← ofReader .failed Cbor.readBytes
  let user_name ← ofReader .failed Cbor.readText
  let user_display_name ← ofReader .failed Cbor.readText
  return ⟨credential_id, user_handle, user_name, user_display_name⟩

/-- The reads of `decode_summaries`. -/
def readSummaries : Cursor CallbackFault (List OwnedSummary) := do
  let count ← arrayLen .failed
  if count > maxSummaries then throw .failed
  many readSummary count

/-- `decode_summaries`. -/
def decodeSummaries : List UInt8 → Except CallbackFault (List OwnedSummary) :=
  Codec.checked .failed
    (fun summaries => (encodePasskeySummaries (summaries.map OwnedSummary.view)).mapErr
      CallbackFault.ofEncode)
    (Cursor.all .failed readSummaries)

/-- The reads of `decode_credential`. -/
def readCredential : Cursor CallbackFault PasskeyCredentialView := do
  expectArray .failed 3
  let credential_id ← fixedBytes .failed credentialIdBytes
  let user_handle ← ofReader .failed Cbor.readBytes
  let public_key ← fixedBytes .failed publicKeyBytes
  return ⟨credential_id, user_handle, public_key⟩

/-- The view of `decode_credential`, whose user handle is no longer than the array for it. -/
def parseCredential (bytes : List UInt8) : Except CallbackFault PasskeyCredentialView := do
  let view ← Cursor.all .failed readCredential bytes
  if view.user_handle.length > userHandleCapacity then throw .failed
  return view

/-- The end of `decode_credential`. -/
def nativeCredential (view : PasskeyCredentialView) : Except CallbackFault NativeCredential := do
  let user_handle_bytes ← lengthU32 view.user_handle
  let user_handle ← copyFromSlice userHandleCapacity view.user_handle
  return ⟨view.credential_id, user_handle, user_handle_bytes, view.public_key⟩

/-- `decode_credential`. -/
def decodeCredential (bytes : List UInt8) : Except CallbackFault NativeCredential := do
  let view ← Codec.checked .failed
    (fun view => (encodePasskeyCredential view).mapErr CallbackFault.ofEncode) parseCredential bytes
  nativeCredential view

/-- The reads of `decode_assertion`. -/
def readAssertion : Cursor CallbackFault PasskeyAssertionView := do
  expectArray .failed 4
  let credential_id ← fixedBytes .failed credentialIdBytes
  let user_handle ← ofReader .failed Cbor.readBytes
  let authenticator_data ← fixedBytes .failed authenticatorDataBytes
  let signature ← ofReader .failed Cbor.readBytes
  return ⟨credential_id, user_handle, authenticator_data, signature⟩

/-- The view of `decode_assertion`, whose fields are no longer than the arrays for them. -/
def parseAssertion (bytes : List UInt8) : Except CallbackFault PasskeyAssertionView := do
  let view ← Cursor.all .failed readAssertion bytes
  if view.user_handle.length > userHandleCapacity ∨
      view.signature_der.length > signatureCapacity then
    throw .failed
  return view

/-- The end of `decode_assertion`. -/
def nativeAssertion (view : PasskeyAssertionView) : Except CallbackFault NativeAssertion := do
  let user_handle_bytes ← lengthU32 view.user_handle
  let signature_bytes ← lengthU32 view.signature_der
  let user_handle ← copyFromSlice userHandleCapacity view.user_handle
  let signature ← copyFromSlice signatureCapacity view.signature_der
  return ⟨view.credential_id, user_handle, user_handle_bytes, view.authenticator_data, signature,
    signature_bytes⟩

/-- `decode_assertion`. -/
def decodeAssertion (bytes : List UInt8) : Except CallbackFault NativeAssertion := do
  let view ← Codec.checked .failed
    (fun view => (encodePasskeyAssertion view).mapErr CallbackFault.ofEncode) parseAssertion bytes
  nativeAssertion view

/-! ## What a native structure shows -/

/-- The structure has the fields of the entry. -/
structure NativeSummary.Shows (native : NativeSummary) (view : PasskeySummaryView) : Prop where
  credential_id : native.credential_id = view.credential_id
  user_handle : Holds native.user_handle native.user_handle_bytes view.user_handle
  user_name : Holds native.user_name native.user_name_bytes (Utf8.encode view.user_name)
  user_display_name : Holds native.user_display_name native.user_display_name_bytes
    (Utf8.encode view.user_display_name)

/-- The structure has the fields of the credential. -/
structure NativeCredential.Shows (native : NativeCredential) (view : PasskeyCredentialView) :
    Prop where
  credential_id : native.credential_id = view.credential_id
  user_handle : Holds native.user_handle native.user_handle_bytes view.user_handle
  public_key : native.public_key = view.public_key

/-- The structure has the fields of the assertion. -/
structure NativeAssertion.Shows (native : NativeAssertion) (view : PasskeyAssertionView) :
    Prop where
  credential_id : native.credential_id = view.credential_id
  user_handle : Holds native.user_handle native.user_handle_bytes view.user_handle
  authenticator_data : native.authenticator_data = view.authenticator_data
  signature : Holds native.signature native.signature_bytes view.signature_der

/-- An entry that the encoder accepts fits the structure. -/
theorem OwnedSummary.toNative_eq_ok {summary : OwnedSummary}
    (h : summary.view.invalid = false) :
    ∃ native, summary.toNative = .ok native ∧ native.Shows summary.view := by
  simp only [PasskeySummaryView.invalid, decide_eq_false_iff_not, not_or, not_lt] at h
  -- the limits of the protocol are the capacities here
  have hhandle : summary.user_handle.length ≤ userHandleCapacity := h.2.2.1
  have hname : summary.user_name.utf8ByteSize ≤ userNameCapacity := h.2.2.2.2.1
  have hdisplay : summary.user_display_name.utf8ByteSize ≤ userNameCapacity := h.2.2.2.2.2.2
  have hcapacity : ¬(summary.user_handle.length > userHandleCapacity ∨
      summary.user_name.utf8ByteSize > userNameCapacity ∨
      summary.user_display_name.utf8ByteSize > userNameCapacity) := by
    simpa only [not_or, not_lt] using ⟨hhandle, hname, hdisplay⟩
  rw [← Utf8.encode_length] at hname hdisplay
  obtain ⟨handleBytes, handle, hhandle₁, hhandle₂, hhandle⟩ := copied (by decide) hhandle
  obtain ⟨nameBytes, name, hname₁, hname₂, hname⟩ := copied (by decide) hname
  obtain ⟨displayBytes, display, hdisplay₁, hdisplay₂, hdisplay⟩ := copied (by decide) hdisplay
  refine ⟨⟨summary.credential_id, handle, handleBytes, name, nameBytes, display, displayBytes⟩, ?_,
    rfl, hhandle, hname, hdisplay⟩
  rw [toNative, if_neg hcapacity, hhandle₁, hname₁, hdisplay₁, hhandle₂, hname₂, hdisplay₂]
  rfl

/-- A credential that the encoder accepts fits the structure. -/
theorem nativeCredential_eq_ok {view : PasskeyCredentialView} (h : view.invalid = false) :
    ∃ native, nativeCredential view = .ok native ∧ native.Shows view := by
  simp only [PasskeyCredentialView.invalid, decide_eq_false_iff_not, not_or, not_lt] at h
  have hhandle : view.user_handle.length ≤ userHandleCapacity := h.2.2.1
  obtain ⟨handleBytes, handle, hhandle₁, hhandle₂, hhandle⟩ := copied (by decide) hhandle
  refine ⟨⟨view.credential_id, handle, handleBytes, view.public_key⟩, ?_, rfl, hhandle, rfl⟩
  rw [nativeCredential, hhandle₁, hhandle₂]
  rfl

/-- An assertion that the encoder accepts fits the structure. -/
theorem nativeAssertion_eq_ok {view : PasskeyAssertionView} (h : view.invalid = false) :
    ∃ native, nativeAssertion view = .ok native ∧ native.Shows view := by
  simp only [PasskeyAssertionView.invalid, decide_eq_false_iff_not, not_or, not_lt] at h
  have hhandle : view.user_handle.length ≤ userHandleCapacity := h.2.2.1
  have hsignature : view.signature_der.length ≤ signatureCapacity := h.2.2.2.2
  obtain ⟨handleBytes, handle, hhandle₁, hhandle₂, hhandle⟩ := copied (by decide) hhandle
  obtain ⟨signatureBytes, signature, hsignature₁, hsignature₂, hsignature⟩ :=
    copied (by decide) hsignature
  refine ⟨⟨view.credential_id, handle, handleBytes, view.authenticator_data, signature,
    signatureBytes⟩, ?_, rfl, hhandle, rfl, hsignature⟩
  rw [nativeAssertion, hhandle₁, hsignature₁, hhandle₂, hsignature₂]
  rfl

/-! ## Round trips -/

/-- The entry that the provider keeps of a view. -/
def OwnedSummary.ofView (view : PasskeySummaryView) : OwnedSummary :=
  ⟨view.credential_id, view.user_handle, view.user_name, view.user_display_name⟩

theorem OwnedSummary.map_view_ofView (views : List PasskeySummaryView) :
    (views.map OwnedSummary.ofView).map OwnedSummary.view = views := by
  rw [List.map_map]
  exact List.map_id views

theorem readSummary_reads {view : PasskeySummaryView} (h : view.invalid = false) :
    Reads readSummary view.items.flatten (.ofView view) := by
  simp only [PasskeySummaryView.invalid, decide_eq_false_iff_not, not_or, not_lt] at h
  obtain ⟨-, -, hhandle, -, hname, -, hdisplay⟩ := h
  unfold maxPasskeyUserHandleBytes at hhandle
  unfold maxPasskeyUserNameBytes at hname hdisplay
  simp only [PasskeySummaryView.items, List.flatten_cons, List.flatten_nil, List.append_nil]
  refine (expectArray_reads (by norm_num)).bind ?_
  refine (fixedBytes_reads (by decide) _).bind ?_
  refine (Reads.ofReader (Cbor.readBytes_bytes (by omega))).bind ?_
  refine (Reads.ofReader (Cbor.readText_text (by omega))).bind ?_
  exact (Reads.ofReader (Cbor.readText_text (by omega))).bind_last (Reads.pure _)

/-- A listing that the encoder accepts is read back. -/
theorem readSummaries_reads {views : List PasskeySummaryView} {body : List UInt8}
    (h : encodePasskeySummaries views = .ok body) :
    Reads readSummaries body (views.map .ofView) := by
  obtain ⟨hlength, hvalid, rfl⟩ := of_encodePasskeyListing h
  have hcount : views.length ≤ maxSummaries := hlength
  unfold maxPasskeyCredentials at hlength
  refine (arrayLen_reads (by omega)).bind ?_
  rw [if_neg (not_lt.mpr hcount)]
  exact Reads.many fun view hmem => readSummary_reads (hvalid view hmem)

theorem readCredential_reads {view : PasskeyCredentialView} (h : view.invalid = false) :
    Reads readCredential view.items.flatten view := by
  simp only [PasskeyCredentialView.invalid, decide_eq_false_iff_not, not_or, not_lt] at h
  obtain ⟨-, -, hhandle, -⟩ := h
  unfold maxPasskeyUserHandleBytes at hhandle
  simp only [PasskeyCredentialView.items, List.flatten_cons, List.flatten_nil, List.append_nil]
  refine (expectArray_reads (by norm_num)).bind ?_
  refine (fixedBytes_reads (by decide) _).bind ?_
  refine (Reads.ofReader (Cbor.readBytes_bytes (by omega))).bind ?_
  exact (fixedBytes_reads (by decide) view.public_key).bind_last (Reads.pure _)

theorem readAssertion_reads {view : PasskeyAssertionView} (h : view.invalid = false) :
    Reads readAssertion view.items.flatten view := by
  simp only [PasskeyAssertionView.invalid, decide_eq_false_iff_not, not_or, not_lt] at h
  obtain ⟨-, -, hhandle, -, hsignature⟩ := h
  unfold maxPasskeyUserHandleBytes at hhandle
  unfold maxPasskeyAssertionSignatureBytes at hsignature
  simp only [PasskeyAssertionView.items, List.flatten_cons, List.flatten_nil, List.append_nil]
  refine (expectArray_reads (by norm_num)).bind ?_
  refine (fixedBytes_reads (by decide) _).bind ?_
  refine (Reads.ofReader (Cbor.readBytes_bytes (by omega))).bind ?_
  refine (fixedBytes_reads (by decide) view.authenticator_data).bind ?_
  exact (Reads.ofReader (Cbor.readBytes_bytes (by omega))).bind_last (Reads.pure _)

/-! ## Acceptance -/

theorem decodeSummaries_eq_ok {body : List UInt8} {summaries : List OwnedSummary} :
    decodeSummaries body = .ok summaries ↔
      Cursor.all .failed readSummaries body = .ok summaries ∧
        encodePasskeySummaries (summaries.map OwnedSummary.view) = .ok body := by
  rw [decodeSummaries, Codec.checked_eq_ok, Except.mapErr_eq_ok]

theorem decodeCredential_eq_ok {body : List UInt8} {native : NativeCredential} :
    decodeCredential body = .ok native ↔ ∃ view, parseCredential body = .ok view ∧
      encodePasskeyCredential view = .ok body ∧ nativeCredential view = .ok native := by
  simp only [decodeCredential, Except.bind_eq_ok, Codec.checked_eq_ok, Except.mapErr_eq_ok,
    and_assoc]

theorem decodeAssertion_eq_ok {body : List UInt8} {native : NativeAssertion} :
    decodeAssertion body = .ok native ↔ ∃ view, parseAssertion body = .ok view ∧
      encodePasskeyAssertion view = .ok body ∧ nativeAssertion view = .ok native := by
  simp only [decodeAssertion, Except.bind_eq_ok, Codec.checked_eq_ok, Except.mapErr_eq_ok,
    and_assoc]

/-- The listings that the encoder makes are decoded to their entries, which all fit. -/
theorem decodeSummaries_encoded {views : List PasskeySummaryView} {body : List UInt8}
    (h : encodePasskeySummaries views = .ok body) :
    decodeSummaries body = .ok (views.map .ofView) := by
  rw [decodeSummaries_eq_ok, OwnedSummary.map_view_ofView]
  exact ⟨(readSummaries_reads h).all_eq, h⟩

/-- The credentials that the encoder makes are decoded to structures that show them. -/
theorem decodeCredential_encoded {view : PasskeyCredentialView} {body : List UInt8}
    (h : encodePasskeyCredential view = .ok body) :
    ∃ native, decodeCredential body = .ok native ∧ native.Shows view := by
  obtain ⟨hvalid, rfl⟩ := of_encodeItems h
  obtain ⟨native, hnative, hshows⟩ := nativeCredential_eq_ok hvalid
  have hread : Cursor.all .failed readCredential view.items.flatten = .ok view :=
    (readCredential_reads hvalid).all_eq
  have hparse : parseCredential view.items.flatten = .ok view := by
    simp only [PasskeyCredentialView.invalid, decide_eq_false_iff_not, not_or, not_lt] at hvalid
    have hhandle : ¬view.user_handle.length > userHandleCapacity := not_lt.mpr hvalid.2.2.1
    rw [parseCredential, hread, Except.ok_bind,
      if_neg hhandle]
    rfl
  exact ⟨native, decodeCredential_eq_ok.mpr ⟨view, hparse, h, hnative⟩, hshows⟩

/-- The assertions that the encoder makes are decoded to structures that show them. -/
theorem decodeAssertion_encoded {view : PasskeyAssertionView} {body : List UInt8}
    (h : encodePasskeyAssertion view = .ok body) :
    ∃ native, decodeAssertion body = .ok native ∧ native.Shows view := by
  obtain ⟨hvalid, rfl⟩ := of_encodeItems h
  obtain ⟨native, hnative, hshows⟩ := nativeAssertion_eq_ok hvalid
  have hread : Cursor.all .failed readAssertion view.items.flatten = .ok view :=
    (readAssertion_reads hvalid).all_eq
  have hparse : parseAssertion view.items.flatten = .ok view := by
    simp only [PasskeyAssertionView.invalid, decide_eq_false_iff_not, not_or, not_lt] at hvalid
    have hcapacity : ¬(view.user_handle.length > userHandleCapacity ∨
        view.signature_der.length > signatureCapacity) := by
      simpa only [not_or, not_lt] using ⟨hvalid.2.2.1, hvalid.2.2.2.2⟩
    rw [parseAssertion, hread, Except.ok_bind, if_neg hcapacity]
    rfl
  exact ⟨native, decodeAssertion_eq_ok.mpr ⟨view, hparse, h, hnative⟩, hshows⟩

/-- The entries of an accepted listing all fit the native structure. -/
theorem toNative_of_encoded {summaries : List OwnedSummary} {body : List UInt8}
    (h : encodePasskeySummaries (summaries.map OwnedSummary.view) = .ok body) :
    ∀ summary ∈ summaries, ∃ native : NativeSummary,
      summary.toNative = .ok native ∧ native.Shows summary.view := by
  intro summary hmem
  obtain ⟨-, hvalid, -⟩ := of_encodePasskeyListing h
  exact OwnedSummary.toNative_eq_ok (hvalid _ (List.mem_map_of_mem hmem))

/-- The provider understands every passkey response of the agent: each is decoded, and the native
structures show the fields that were encoded. It understands nothing else: whatever is decoded is
the encoding of the fields that the structures show. -/
theorem responses_understood :
    (∀ views body, encodePasskeySummaries views = .ok body →
      ∃ summaries, decodeSummaries body = .ok summaries ∧
        summaries.map OwnedSummary.view = views ∧
        ∀ summary ∈ summaries, ∃ native : NativeSummary,
          summary.toNative = .ok native ∧ native.Shows summary.view) ∧
    (∀ view body, encodePasskeyCredential view = .ok body →
      ∃ native, decodeCredential body = .ok native ∧ native.Shows view) ∧
    (∀ view body, encodePasskeyAssertion view = .ok body →
      ∃ native, decodeAssertion body = .ok native ∧ native.Shows view) ∧
    (∀ body summaries, decodeSummaries body = .ok summaries →
      encodePasskeySummaries (summaries.map OwnedSummary.view) = .ok body ∧
        ∀ summary ∈ summaries, ∃ native : NativeSummary,
          summary.toNative = .ok native ∧ native.Shows summary.view) ∧
    (∀ body native, decodeCredential body = .ok native →
      ∃ view, encodePasskeyCredential view = .ok body ∧ native.Shows view) ∧
    ∀ body native, decodeAssertion body = .ok native →
      ∃ view, encodePasskeyAssertion view = .ok body ∧ native.Shows view := by
  refine ⟨fun views body hencode => ?_, fun _ _ => decodeCredential_encoded,
    fun _ _ => decodeAssertion_encoded, fun body summaries hdecode => ?_,
    fun body native hdecode => ?_, fun body native hdecode => ?_⟩
  · have hdecode := decodeSummaries_encoded hencode
    exact ⟨_, hdecode, OwnedSummary.map_view_ofView views,
      toNative_of_encoded (decodeSummaries_eq_ok.mp hdecode).2⟩
  · obtain ⟨-, hencode⟩ := decodeSummaries_eq_ok.mp hdecode
    exact ⟨hencode, toNative_of_encoded hencode⟩
  · obtain ⟨view, -, hencode, hnative⟩ := decodeCredential_eq_ok.mp hdecode
    obtain ⟨native', hnative', hshows⟩ := nativeCredential_eq_ok (of_encodeItems hencode).1
    rw [hnative] at hnative'
    exact ⟨view, hencode, Except.ok.inj hnative' ▸ hshows⟩
  · obtain ⟨view, -, hencode, hnative⟩ := decodeAssertion_eq_ok.mp hdecode
    obtain ⟨native', hnative', hshows⟩ := nativeAssertion_eq_ok (of_encodeItems hencode).1
    rw [hnative] at hnative'
    exact ⟨view, hencode, Except.ok.inj hnative' ▸ hshows⟩

end Librarian.Provider
