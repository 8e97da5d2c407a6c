import Librarian.Core.Signing

/-!
# Which passkeys a request is about

An assertion is requested twice: for the passkeys that could sign it, and for the signature of one
of them. `agent_bridge.cpp` and the Rust around it read the signed request each time, once for its
list of allowed credentials and once for whether the selected one is allowed. Windows verifies the
signatures and decodes the request; its answers are part of `Windows` here.
-/

namespace Librarian.PasskeyAgent

open Librarian.Core

/-! ## Decoded requests -/

/-- A counted buffer, whose pointer may be null. -/
structure Blob where
  length : UInt32
  present : Bool
  deriving DecidableEq

/-- No bytes, and no pointer. -/
def Blob.absent (blob : Blob) : Bool := blob.length = 0 ∧ ¬blob.present

/-- `WEBAUTHN_CTAPCBOR_AUTHENTICATOR_OPTIONS`. -/
structure AuthenticatorOptions where
  /-- Whether `dwVersion` is the current one. -/
  current : Bool
  lUp : ℤ
  lUv : ℤ
  lRequireResidentKey : ℤ
  deriving DecidableEq

/-- A wide string, as far as its conversion goes: a null pointer, a string that is not well-formed,
or a text. -/
inductive WideText
  | null
  | illFormed
  | text (value : String)
  deriving DecidableEq

/-- A credential of a list. A null pointer is `none`. -/
structure ListedCredential where
  credentialType : Option String
  id : Option (List UInt8)
  deriving DecidableEq

/-- `WEBAUTHN_CREDENTIAL_LIST`: a count with a null pointer, or credentials, each behind a pointer
that may be null. -/
inductive CredentialList
  | null (count : ℕ)
  | entries (credentials : List (Option ListedCredential))
  deriving DecidableEq

/-- `WEBAUTHN_CTAPCBOR_GET_ASSERTION_REQUEST`. -/
structure AssertionRequest where
  /-- Whether `dwVersion` is the current one. -/
  current : Bool
  rpId : Option (List UInt8)
  wideRpId : WideText
  clientDataHash : Option (List UInt8)
  credentialList : CredentialList
  cborExtensionsMap : Blob
  authenticatorOptions : Option AuthenticatorOptions
  fEmptyPinAuth : Bool
  pinAuth : Blob
  hmacSaltExtension : Bool
  hmacSecretSaltValues : Blob
  dwPinProtocol : UInt32
  lCredBlobExt : ℤ
  lLargeBlobKeyExt : ℤ
  dwCredLargeBlobOperation : UInt32
  credLargeBlobCompressed : Blob
  dwCredLargeBlobOriginalSize : UInt32
  jsonExt : Blob
  deriving DecidableEq

/-! ## The bridge's checks -/

/-- `max_rp_id_bytes`. -/
def maxRpIdBytes : ℕ := 253

/-- `max_excluded_credentials`. -/
def maxExcludedCredentials : ℕ := 64

/-- `credential_id_bytes`. -/
def credentialIdBytes : ℕ := 32

/-- `cCredentials`. -/
def CredentialList.cCredentials : CredentialList → ℕ
  | null count => count
  | entries credentials => credentials.length

/-- A credential that `validate_credential_list` lets pass. -/
def validCredential : Option ListedCredential → Bool
  | some ⟨some credentialType, some id⟩ => credentialType = "public-key" ∧ id ≠ []
  | _ => false

/-- `validate_credential_list`. -/
def validateCredentialList (list : CredentialList) : Bool :=
  if list.cCredentials > maxExcludedCredentials then false
  else
    match list with
    | .null count => count = 0
    | .entries credentials => credentials.all validCredential

/-- `valid_options`. -/
def validOptions : Option AuthenticatorOptions → Bool
  | none => true
  | some options =>
    options.current ∧ (-1 ≤ options.lUp ∧ options.lUp ≤ 1) ∧
      (-1 ≤ options.lUv ∧ options.lUv ≤ 1) ∧
      (-1 ≤ options.lRequireResidentKey ∧ options.lRequireResidentKey ≤ 1)

/-- `no_unsupported_extensions`. -/
def noUnsupportedExtensions (request : AssertionRequest) : Bool :=
  request.cborExtensionsMap.absent ∧ validOptions request.authenticatorOptions ∧
    ¬request.fEmptyPinAuth ∧ request.pinAuth.absent ∧ ¬request.hmacSaltExtension ∧
    request.hmacSecretSaltValues.absent ∧ request.dwPinProtocol = 0 ∧ request.lCredBlobExt = 0 ∧
    request.lLargeBlobKeyExt = 0 ∧ request.dwCredLargeBlobOperation = 0 ∧
    request.credLargeBlobCompressed.absent ∧ request.dwCredLargeBlobOriginalSize = 0 ∧
    request.jsonExt.absent

/-- `valid_utf8`. -/
def validUtf8 (value : List UInt8) : Bool :=
  value ≠ [] ∧ 0 ∉ value ∧ (Utf8.decode value).isSome

/-- `wide_to_utf8`. -/
def wideToUtf8 (value : WideText) (maximum_bytes : ℕ) : Option (List UInt8) :=
  match value with
  | .text value =>
    if value = "" ∨ value.utf8ByteSize > maximum_bytes then none else some (Utf8.encode value)
  | _ => none

/-- `equal_rp_id`. -/
def equalRpId (raw : List UInt8) (wide : WideText) : Bool :=
  wideToUtf8 wide maxRpIdBytes = some raw

/-- The checks of a decoded request, which are the same for both purposes. They give the
relying-party identifier and the hash. -/
def checkRequest (request : AssertionRequest) : Option (List UInt8 × Bytes 32) :=
  match request.rpId, request.clientDataHash.bind (Bytes.ofList? 32) with
  | some rp, some clientDataHash =>
    if ¬request.current ∨ rp = [] ∨ rp.length > maxRpIdBytes ∨ clientDataHash.isZero ∨
        ¬validateCredentialList request.credentialList ∨ ¬noUnsupportedExtensions request then
      none
    else if ¬validUtf8 rp ∨ ¬equalRpId rp request.wideRpId then none
    else some (rp, clientDataHash)
  | _, _ => none

/-- The bytes of a listed credential whose id has the length of one of ours. -/
def usableBytes : Option ListedCredential → List UInt8
  | some ⟨_, some id⟩ => if id.length = credentialIdBytes then id else []
  | _ => []

/-- The credentials of a list. -/
def CredentialList.credentials : CredentialList → List (Option ListedCredential)
  | null _ => []
  | entries credentials => credentials

/-! ## The two verifications -/

/-- `VerificationError`. -/
inductive VerificationError
  | invalid
  | unavailable
  | failed
  deriving DecidableEq, Repr

/-- What Windows answers about a proof: whether its functions are there, whether the signatures of
the request and of the user's verification for a credential verify, and the decoded request. -/
structure Windows where
  complete : Bool
  verifiesRequest : Bool
  verifies : Bytes 32 → Bool
  decoded : Option AssertionRequest

/-- What `librarian_windows_passkey_verify_assertion_lookup` writes. -/
structure LookupOutput where
  rp_id : List UInt8
  allowed_credential_ids : List UInt8
  allowed_credential_ids_count : ℕ
  allow_list_present : Bool

/-- `librarian_windows_passkey_verify_assertion_lookup`, with the capacities of its buffers. -/
def nativeLookup (windows : Windows) (rp_id_capacity allowed_capacity : ℕ) :
    Except VerificationError LookupOutput := do
  if ¬windows.complete then throw .unavailable
  if ¬windows.verifiesRequest then throw .invalid
  let request ← windows.decoded.okOr .invalid
  let (rp, _) ← (checkRequest request).okOr .invalid
  if rp.length > rp_id_capacity then throw .invalid
  if (request.credentialList.credentials.flatMap usableBytes).length > allowed_capacity then
    throw .invalid
  return {
    rp_id := rp
    allowed_credential_ids := request.credentialList.credentials.flatMap usableBytes
    allowed_credential_ids_count :=
      (request.credentialList.credentials.flatMap usableBytes).length / credentialIdBytes
    allow_list_present := request.credentialList.cCredentials ≠ 0 }

/-- `librarian_windows_passkey_verify_assertion`, with the capacity of its buffer. -/
def nativeVerify (windows : Windows) (selected_credential_id : Bytes 32) (rp_id_capacity : ℕ) :
    Except VerificationError (List UInt8 × Bytes 32) := do
  if ¬windows.complete then throw .unavailable
  if ¬windows.verifies selected_credential_id then throw .invalid
  let request ← windows.decoded.okOr .invalid
  let (rp, clientDataHash) ← (checkRequest request).okOr .invalid
  if request.credentialList.cCredentials ≠ 0 ∧ ¬request.credentialList.credentials.any
      (fun credential => usableBytes credential = selected_credential_id.val) then
    throw .invalid
  if rp.length > rp_id_capacity then throw .invalid
  return (rp, clientDataHash)

/-- A buffer of zeros, after bytes have been written to its start, cut to a length. -/
def truncate (capacity : ℕ) (written : List UInt8) (length : ℕ) : List UInt8 :=
  (written ++ List.replicate (capacity - written.length) 0).take length

/-- `truncate`, which refuses the length zero and lengths beyond the buffer. -/
def readBack (capacity : ℕ) (written : List UInt8) : Except VerificationError (List UInt8) :=
  if written.length = 0 ∨ written.length > capacity then .error .failed
  else .ok (truncate capacity written written.length)

/-- `chunks_exact`, of a buffer with that many chunks. -/
def chunks (bytes : List UInt8) : ℕ → List (List UInt8)
  | 0 => []
  | count + 1 => bytes.take credentialIdBytes :: chunks (bytes.drop credentialIdBytes) count

/-- `VerifiedAssertionLookup`. -/
structure VerifiedAssertionLookup where
  rp_id : String
  allowed_credential_ids : List (Bytes 32)
  allow_list_present : Bool
  deriving DecidableEq

/-- `allow_list_present.then_some(allowed_credential_ids)`. -/
def VerifiedAssertionLookup.allowed (lookup : VerifiedAssertionLookup) :
    Option (List (Bytes 32)) :=
  if lookup.allow_list_present then some lookup.allowed_credential_ids else none

/-- `VerifiedAssertionRequest`. -/
structure VerifiedAssertionRequest where
  rp_id : String
  client_data_hash : Bytes 32
  deriving DecidableEq

/-- `verify_assertion_lookup`. -/
def verifyAssertionLookup (windows : Windows) :
    Except VerificationError VerifiedAssertionLookup := do
  let output ← nativeLookup windows maxRpIdBytes (maxExcludedCredentials * credentialIdBytes)
  let rp_id ← readBack maxRpIdBytes output.rp_id
  if output.allowed_credential_ids_count > maxExcludedCredentials then throw .failed
  let allowed ← (chunks (truncate (maxExcludedCredentials * credentialIdBytes)
    output.allowed_credential_ids (output.allowed_credential_ids_count * credentialIdBytes))
    output.allowed_credential_ids_count).mapM fun chunk => (Bytes.ofList? 32 chunk).okOr .failed
  let rp_id ← (Utf8.decode rp_id).okOr .invalid
  return ⟨rp_id, allowed, output.allow_list_present⟩

/-- `verify_assertion`. -/
def verifyAssertion (windows : Windows) (credential_id : Bytes 32) :
    Except VerificationError VerifiedAssertionRequest := do
  let (rp, clientDataHash) ← nativeVerify windows credential_id maxRpIdBytes
  let rp_id ← readBack maxRpIdBytes rp
  let rp_id ← (Utf8.decode rp_id).okOr .invalid
  return ⟨rp_id, clientDataHash⟩

/-! ## What they come to -/

/-- Windows' answers for a request that it has signed: every signature verifies, and the request is
decoded each time. -/
def Windows.signed (request : AssertionRequest) : Windows where
  complete := true
  verifiesRequest := true
  verifies _ := true
  decoded := some request

/-- The ids of a list that can be those of credentials of ours. -/
def CredentialList.ids (list : CredentialList) : List (Bytes 32) :=
  list.credentials.filterMap fun credential =>
    (credential.bind ListedCredential.id).bind (Bytes.ofList? 32)

/-- What both verifications take from a request: its relying party, as a text, and its hash. -/
def AssertionRequest.accepted (request : AssertionRequest) : Option (String × Bytes 32) :=
  (checkRequest request).bind fun (rp, clientDataHash) =>
    (Utf8.decode rp).map fun rp_id => (rp_id, clientDataHash)

theorem usableBytes_eq (credential : Option ListedCredential) :
    usableBytes credential =
      (((credential.bind ListedCredential.id).bind (Bytes.ofList? 32)).map
        Subtype.val).getD [] := by
  unfold usableBytes
  split
  · rename_i credentialType id
    by_cases hlength : id.length = credentialIdBytes
    · have hsome : Bytes.ofList? 32 id = some ⟨id, hlength⟩ := dif_pos hlength
      rw [if_pos hlength, Option.bind_some, Option.bind_some, hsome]
      rfl
    · have hnone : Bytes.ofList? 32 id = none := dif_neg hlength
      rw [if_neg hlength, Option.bind_some, Option.bind_some, hnone]
      rfl
  · rename_i hother
    cases credential with
    | none => rfl
    | some credential =>
      obtain ⟨credentialType, id⟩ := credential
      cases id with
      | none => rfl
      | some id => exact absurd rfl (hother credentialType id)

/-- The bytes that the bridge copies are those of the usable ids. -/
theorem flatMap_usableBytes (list : CredentialList) :
    list.credentials.flatMap usableBytes = list.ids.flatMap Subtype.val := by
  unfold CredentialList.ids
  induction list.credentials with
  | nil => rfl
  | cons credential credentials ih =>
    rw [List.flatMap_cons, ih, usableBytes_eq, List.filterMap_cons]
    cases (credential.bind ListedCredential.id).bind (Bytes.ofList? 32) with
    | none => rfl
    | some id => rw [List.flatMap_cons, Option.map_some, Option.getD_some]

/-- A credential's bytes are those of an id exactly where the id is listed. -/
theorem any_usableBytes (list : CredentialList) (id : Bytes 32) :
    list.credentials.any (fun credential => usableBytes credential = id.val) ↔ id ∈ list.ids := by
  rw [List.any_eq_true, CredentialList.ids, List.mem_filterMap]
  refine exists_congr fun credential => and_congr_right fun _ => ?_
  rw [decide_eq_true_eq, usableBytes_eq]
  cases (credential.bind ListedCredential.id).bind (Bytes.ofList? 32) with
  | none =>
    have hne : ([] : List UInt8) ≠ id.val := by
      intro hnil
      have hlength := id.property
      rw [← hnil] at hlength
      cases hlength
    simpa using hne
  | some other => simp [Subtype.ext_iff]

theorem length_flatMap_val (ids : List (Bytes 32)) :
    (ids.flatMap Subtype.val).length = ids.length * credentialIdBytes := by
  induction ids with
  | nil => rfl
  | cons id ids ih =>
    have hid : id.val.length = credentialIdBytes := id.property
    rw [List.flatMap_cons, List.length_append, ih, hid, List.length_cons, Nat.succ_mul,
      Nat.add_comm]

theorem chunks_flatMap (ids : List (Bytes 32)) :
    chunks (ids.flatMap Subtype.val) ids.length = ids.map Subtype.val := by
  induction ids with
  | nil => rfl
  | cons id ids ih =>
    have hid : id.val.length = credentialIdBytes := id.property
    rw [List.flatMap_cons, List.length_cons, chunks, ← hid, List.take_left, List.drop_left, ih,
      List.map_cons]

theorem mapM_ofList? {α : Type} (e : α) (ids : List (Bytes 32)) :
    (ids.map Subtype.val).mapM (fun chunk => (Bytes.ofList? 32 chunk).okOr e) = .ok ids := by
  induction ids with
  | nil => rfl
  | cons id ids ih =>
    rw [List.map_cons, List.mapM_cons, Bytes.ofList?_val, Option.okOr_some, Except.ok_bind, ih]
    rfl

/-- A list that passes its check has no more ids than the buffer holds. -/
theorem length_ids_le {list : CredentialList} (h : validateCredentialList list) :
    list.ids.length ≤ maxExcludedCredentials := by
  unfold validateCredentialList at h
  split at h
  · cases h
  · rename_i hcount
    refine (List.length_filterMap_le _ _).trans ?_
    cases list with
    | null count => exact Nat.zero_le _
    | entries credentials => exact not_lt.mp hcount

/-- What the checks of a request establish. -/
theorem checkRequest_eq_some {request : AssertionRequest} {rp : List UInt8} {hash : Bytes 32}
    (h : checkRequest request = some (rp, hash)) :
    rp.length ≠ 0 ∧ rp.length ≤ maxRpIdBytes ∧ validateCredentialList request.credentialList ∧
      (Utf8.decode rp).isSome := by
  unfold checkRequest at h
  split at h
  · split_ifs at h with hfields htext
    cases h
    simp only [not_or, not_lt, Classical.not_not] at hfields htext
    obtain ⟨-, hne, hlength, -, hlist, -⟩ := hfields
    have hutf8 := htext.1
    simp only [validUtf8, decide_eq_true_eq] at hutf8
    exact ⟨fun hzero => hne (List.length_eq_zero_iff.mp hzero), hlength, hlist, hutf8.2.2⟩
  · cases h

/-- What has been written to a buffer is read back. -/
theorem truncate_eq {capacity : ℕ} (written : List UInt8) :
    truncate capacity written written.length = written := List.take_left

theorem readBack_eq {capacity : ℕ} {written : List UInt8} (hne : written.length ≠ 0)
    (hlength : written.length ≤ capacity) : readBack capacity written = .ok written := by
  rw [readBack, if_neg (not_or.mpr ⟨hne, not_lt.mpr hlength⟩), truncate_eq]

/-- The list of allowed credentials survives its way through the buffer. -/
theorem nativeLookup_signed {request : AssertionRequest} {rp : List UInt8} {hash : Bytes 32}
    (h : checkRequest request = some (rp, hash)) :
    nativeLookup (.signed request) maxRpIdBytes (maxExcludedCredentials * credentialIdBytes) =
      .ok ⟨rp, request.credentialList.ids.flatMap Subtype.val, request.credentialList.ids.length,
        request.credentialList.cCredentials ≠ 0⟩ := by
  obtain ⟨-, hlength, hlist, -⟩ := checkRequest_eq_some h
  have hids := length_ids_le hlist
  have hrp : ¬rp.length > maxRpIdBytes := not_lt.mpr hlength
  have hroom : ¬(request.credentialList.ids.flatMap Subtype.val).length >
      maxExcludedCredentials * credentialIdBytes := by
    rw [length_flatMap_val]
    exact not_lt.mpr (Nat.mul_le_mul_right _ hids)
  have hcount : (request.credentialList.ids.flatMap Subtype.val).length / credentialIdBytes =
      request.credentialList.ids.length := by
    rw [length_flatMap_val]
    exact Nat.mul_div_cancel _ (by decide)
  simp only [nativeLookup, Windows.signed, not_true_eq_false, if_false, Option.okOr_some,
    Except.ok_bind, h, hrp, flatMap_usableBytes, hroom, hcount]
  rfl

/-- A signed request is looked up exactly when it is accepted. -/
theorem verifyAssertionLookup_eq_ok {request : AssertionRequest}
    {lookup : VerifiedAssertionLookup} :
    verifyAssertionLookup (.signed request) = .ok lookup ↔
      ∃ rp_id hash, request.accepted = some (rp_id, hash) ∧
        lookup = ⟨rp_id, request.credentialList.ids,
          request.credentialList.cCredentials ≠ 0⟩ := by
  cases hcheck : checkRequest request with
  | none =>
    simp [verifyAssertionLookup, nativeLookup, Windows.signed, hcheck, AssertionRequest.accepted,
      Option.okOr, bind, Except.bind]
  | some result =>
    obtain ⟨rp, hash⟩ := result
    obtain ⟨hne, hlength, hlist, hutf8⟩ := checkRequest_eq_some hcheck
    obtain ⟨rp_id, hdecode⟩ := Option.isSome_iff_exists.mp hutf8
    have hids : ¬request.credentialList.ids.length > maxExcludedCredentials :=
      not_lt.mpr (length_ids_le hlist)
    have hbuffer : truncate (maxExcludedCredentials * credentialIdBytes)
        (request.credentialList.ids.flatMap Subtype.val)
        (request.credentialList.ids.length * credentialIdBytes) =
        request.credentialList.ids.flatMap Subtype.val := by
      rw [← length_flatMap_val, truncate_eq]
    have haccepted : request.accepted = some (rp_id, hash) := by
      simp [AssertionRequest.accepted, hcheck, hdecode]
    rw [verifyAssertionLookup, nativeLookup_signed hcheck, Except.ok_bind,
      readBack_eq hne hlength, Except.ok_bind, if_neg hids, hbuffer, chunks_flatMap,
      mapM_ofList?, Except.ok_bind, hdecode, haccepted]
    constructor
    · intro h
      exact ⟨rp_id, hash, rfl, (Except.ok.inj h).symm⟩
    · rintro ⟨rp_id', hash', hsame, rfl⟩
      cases hsame
      rfl

/-- A signed request is verified for a credential exactly when it is accepted, and lists the
credential if it lists any. -/
theorem verifyAssertion_eq_ok {request : AssertionRequest} {credential_id : Bytes 32}
    {verified : VerifiedAssertionRequest} :
    verifyAssertion (.signed request) credential_id = .ok verified ↔
      ∃ rp_id hash, request.accepted = some (rp_id, hash) ∧
        (request.credentialList.cCredentials = 0 ∨ credential_id ∈ request.credentialList.ids) ∧
        verified = ⟨rp_id, hash⟩ := by
  cases hcheck : checkRequest request with
  | none =>
    simp [verifyAssertion, nativeVerify, Windows.signed, hcheck, AssertionRequest.accepted,
      Option.okOr, bind, Except.bind]
  | some result =>
    obtain ⟨rp, hash⟩ := result
    obtain ⟨hne, hlength, hlist, hutf8⟩ := checkRequest_eq_some hcheck
    obtain ⟨rp_id, hdecode⟩ := Option.isSome_iff_exists.mp hutf8
    have hrp : ¬rp.length > maxRpIdBytes := not_lt.mpr hlength
    have haccepted : request.accepted = some (rp_id, hash) := by
      simp [AssertionRequest.accepted, hcheck, hdecode]
    have hunlisted : (request.credentialList.cCredentials ≠ 0 ∧
        ¬request.credentialList.credentials.any
          (fun credential => usableBytes credential = credential_id.val)) ↔
        ¬(request.credentialList.cCredentials = 0 ∨
          credential_id ∈ request.credentialList.ids) := by
      rw [any_usableBytes, not_or]
    have hnative : nativeVerify (.signed request) credential_id maxRpIdBytes =
        if ¬(request.credentialList.cCredentials = 0 ∨
          credential_id ∈ request.credentialList.ids) then .error .invalid else .ok (rp, hash) := by
      simp only [nativeVerify, Windows.signed, not_true_eq_false, if_false, Option.okOr_some,
        Except.ok_bind, hcheck, hunlisted, hrp, Except.throw_eq, Except.error_bind]
      rfl
    rw [verifyAssertion, hnative, haccepted]
    by_cases hlisted : request.credentialList.cCredentials = 0 ∨
        credential_id ∈ request.credentialList.ids
    · rw [if_neg (not_not.mpr hlisted), Except.ok_bind]
      simp only [readBack_eq hne hlength, Except.ok_bind, hdecode, Option.okOr_some]
      constructor
      · intro h
        exact ⟨rp_id, hash, rfl, hlisted, (Except.ok.inj h).symm⟩
      · rintro ⟨rp_id', hash', hsame, -, rfl⟩
        cases hsame
        rfl
    · rw [if_pos hlisted, Except.error_bind]
      constructor
      · intro h
        cases h
      · rintro ⟨rp_id', hash', -, hlisted', -⟩
        exact absurd hlisted' hlisted

/-! ## Offering and signing -/

section

variable (P : Primitives) (vault : UnlockedVault) (snapshot : Snapshot)
  (request : AssertionRequest) (credential_id : Bytes 32)

/-- The passkey is in the list that the request is answered with. -/
def Offers (should_cancel : ℕ → Bool) : Prop :=
  ∃ lookup listed, verifyAssertionLookup (.signed request) = .ok lookup ∧
    listPasskeysForAssertion P vault snapshot lookup.rp_id lookup.allowed should_cancel =
      .ok listed ∧
    ∃ summary ∈ listed, summary.credential_id = credential_id

/-- The passkey signs the request. -/
def Signs (should_cancel : ℕ → Bool) (now : UInt64) (entropy : Entropy) : Prop :=
  ∃ verified result, verifyAssertion (.signed request) credential_id = .ok verified ∧
    preparePasskeyAssertion P vault snapshot verified.rp_id credential_id
      verified.client_data_hash now should_cancel entropy = .ok result

/-- The snapshot can be listed for the request: no credential id is repeated, and not too many
passkeys match. -/
def Listable (decrypted : List DecryptedRecord) : Prop :=
  ((passkeysOf decrypted).map PasskeyRecord.credential_id).Nodup ∧
    ∀ lookup, verifyAssertionLookup (.signed request) = .ok lookup →
      (passkeysOf decrypted).countP (matchesAssertion lookup.rp_id lookup.allowed) ≤
        maxPasskeyAssertionCandidates

end

/-- What a lookup lets through is what the verification does. -/
theorem mem_allowed {request : AssertionRequest} {rp_id : String} {credential_id : Bytes 32} :
    (VerifiedAssertionLookup.allowed ⟨rp_id, request.credentialList.ids,
        request.credentialList.cCredentials ≠ 0⟩ = none ∨
      credential_id ∈ (VerifiedAssertionLookup.allowed ⟨rp_id, request.credentialList.ids,
        request.credentialList.cCredentials ≠ 0⟩).getD []) ↔
      request.credentialList.cCredentials = 0 ∨ credential_id ∈ request.credentialList.ids := by
  unfold VerifiedAssertionLookup.allowed
  by_cases hnone : request.credentialList.cCredentials = 0
  · simp [hnone]
  · simp [hnone]

/-- An accepted request does not list too many credentials for the listing. -/
theorem length_allowed_le {request : AssertionRequest} {rp_id : String} {hash : Bytes 32}
    (h : request.accepted = some (rp_id, hash)) :
    ((VerifiedAssertionLookup.allowed ⟨rp_id, request.credentialList.ids,
      request.credentialList.cCredentials ≠ 0⟩).getD []).length ≤
        maxPasskeyAssertionCandidates := by
  obtain ⟨⟨rp, hash⟩, hcheck, -⟩ := Option.bind_eq_some_iff.mp h
  obtain ⟨-, -, hlist, -⟩ := checkRequest_eq_some hcheck
  unfold VerifiedAssertionLookup.allowed
  split_ifs
  · exact length_ids_le hlist
  · exact Nat.zero_le _

/-- Listing and signing agree: in an authentic snapshot, the passkeys that a signed request is
answered with are those that sign it, where the snapshot can be listed for the request. -/
theorem offers_iff_signs {P : Primitives} (hP : Encrypts P) {vault : UnlockedVault}
    {snapshot : Snapshot} {decrypted : List DecryptedRecord}
    (hauthentic : Authentic P vault snapshot decrypted) {request : AssertionRequest}
    (hnormal : ∀ rp_id hash, request.accepted = some (rp_id, hash) →
      normalizeRpId P rp_id = .ok rp_id)
    {should_cancel should_cancel' : ℕ → Bool}
    (huncancelled : ∀ j < snapshot.records.length, should_cancel j = false)
    (huncancelled' : ∀ j < snapshot.records.length, should_cancel' j = false)
    {entropy : Entropy} (hdraws : DrawsNonces entropy) {generation : UInt64}
    (hgeneration : Format.checkedSucc vault.manifest.generation = some generation) (now : UInt64)
    {credential_id : Bytes 32}
    (hcounters : ∀ passkey ∈ passkeysOf decrypted, passkey.credential_id = credential_id →
      ¬passkey.Exhausted) :
    Offers P vault snapshot request credential_id should_cancel ↔
      Signs P vault snapshot request credential_id should_cancel' now entropy ∧
        Listable request decrypted := by
  constructor
  · rintro ⟨lookup, listed, hlookup, hlist, summary, hsummary, rfl⟩
    obtain ⟨-, -, decrypted', hauthentic', hnodup, hroom, rfl⟩ :=
      listPasskeysForAssertion_eq_ok.mp hlist
    obtain rfl := hauthentic'.unique hauthentic
    obtain ⟨passkey, hpasskey, rfl⟩ := List.mem_map.mp hsummary
    obtain ⟨hmem, hmatches⟩ := List.mem_filter.mp hpasskey
    simp only [matchesAssertion, decide_eq_true_eq] at hmatches
    obtain ⟨hstate, hrp, hallowed⟩ := hmatches
    obtain ⟨rp_id, hash, haccepted, rfl⟩ := verifyAssertionLookup_eq_ok.mp hlookup
    have hverified : verifyAssertion (.signed request) passkey.credential_id =
        .ok ⟨rp_id, hash⟩ :=
      verifyAssertion_eq_ok.mpr ⟨rp_id, hash, haccepted, mem_allowed.mp hallowed, rfl⟩
    have hnormal' : normalizeRpId P rp_id = .ok passkey.rp_id :=
      hrp.symm ▸ hnormal rp_id hash haccepted
    obtain ⟨result, hresult⟩ := hauthentic.signs hP hdraws hgeneration hmem hnodup hstate hnormal'
      (hcounters passkey hmem rfl) huncancelled' hash now
    refine ⟨⟨_, result, hverified, hresult⟩, hnodup, fun lookup' hlookup' => ?_⟩
    rw [hlookup] at hlookup'
    exact Except.ok.inj hlookup' ▸ hroom
  · rintro ⟨⟨verified, ⟨⟨prepared, assertion⟩, rest⟩, hverified, hprepare⟩, hnodup, hroom⟩
    obtain ⟨rp_id, hash, haccepted, hallowed, rfl⟩ := verifyAssertion_eq_ok.mp hverified
    obtain ⟨-, decrypted', passkey, counter, hauthentic', hmem, rfl, hstate, hrp, -⟩ :=
      preparePasskeyAssertion_spec hprepare
    obtain rfl := hauthentic'.unique hauthentic
    obtain ⟨lookup, hlookup⟩ : ∃ lookup, verifyAssertionLookup (.signed request) = .ok lookup :=
      ⟨_, verifyAssertionLookup_eq_ok.mpr ⟨rp_id, hash, haccepted, rfl⟩⟩
    have hcount := hroom lookup hlookup
    obtain ⟨rp_id', hash', haccepted', rfl⟩ := verifyAssertionLookup_eq_ok.mp hlookup
    obtain ⟨rfl, rfl⟩ := Prod.mk.inj (Option.some.inj (haccepted.symm.trans haccepted'))
    have hnormal' := hnormal rp_id hash haccepted
    have hsame : passkey.rp_id = rp_id := Except.ok.inj (hrp.symm.trans hnormal')
    have hmatches : matchesAssertion rp_id (VerifiedAssertionLookup.allowed
        ⟨rp_id, request.credentialList.ids, request.credentialList.cCredentials ≠ 0⟩) passkey := by
      simp only [matchesAssertion, decide_eq_true_eq]
      exact ⟨hstate, hsame, mem_allowed.mpr hallowed⟩
    refine ⟨_, _, hlookup, listPasskeysForAssertion_eq_ok.mpr
      ⟨?_, huncancelled, decrypted', hauthentic, hnodup, hcount, rfl⟩, passkey.summary,
      List.mem_map_of_mem (List.mem_filter.mpr ⟨hmem, hmatches⟩), rfl⟩
    rintro (hlong | hother)
    · exact absurd (length_allowed_le haccepted) (not_le.mpr hlong)
    · exact hother hnormal'

/-! ### Sample requests -/

/-- A request of the one host that the sample vaults know, for any credential. -/
def sampleRequest : AssertionRequest where
  current := true
  rpId := some (Utf8.encode "example.com")
  wideRpId := .text "example.com"
  clientDataHash := some (List.replicate 32 1)
  credentialList := .entries []
  cborExtensionsMap := ⟨0, false⟩
  authenticatorOptions := none
  fEmptyPinAuth := false
  pinAuth := ⟨0, false⟩
  hmacSaltExtension := false
  hmacSecretSaltValues := ⟨0, false⟩
  dwPinProtocol := 0
  lCredBlobExt := 0
  lLargeBlobKeyExt := 0
  dwCredLargeBlobOperation := 0
  credLargeBlobCompressed := ⟨0, false⟩
  dwCredLargeBlobOriginalSize := 0
  jsonExt := ⟨0, false⟩

theorem sampleRequest_accepted :
    sampleRequest.accepted = some ("example.com", Bytes.replicate 32 1) := by
  decide +kernel

theorem caselessPrimitives_encrypts : Encrypts caselessPrimitives where
  encrypt := by
    intro key nonce plaintext aad _
    exact ⟨plaintext ++ List.replicate 16 0, rfl, by simp [Format.tagBytes]⟩

/-- Two nonces. -/
def sampleDraws : Entropy := [List.replicate 24 0, List.replicate 24 0]

theorem sampleDraws_draw : DrawsNonces sampleDraws :=
  ⟨Bytes.replicate 24 0, [List.replicate 24 0], Bytes.replicate 24 0, [], rfl, rfl⟩

/-- A passkey signs a request that it is not offered for: another credential id is repeated in the
snapshot, and the listing is refused. -/
theorem signs_unoffered : ∃ vault, twinsVault = some vault ∧
    Signs caselessPrimitives vault.session vault.snapshot sampleRequest (Bytes.replicate 32 1)
      (fun _ => false) 2 sampleDraws ∧
    ¬Offers caselessPrimitives vault.session vault.snapshot sampleRequest (Bytes.replicate 32 1)
      fun _ => false := by
  have htwins : twinsVault.any (fun vault =>
      (preparePasskeyAssertion caselessPrimitives vault.session vault.snapshot "example.com"
        (Bytes.replicate 32 1) (Bytes.replicate 32 1) 2 (fun _ => false)
        sampleDraws).toOption.isSome &&
      decide (wholeListing vault "example.com" = .error .failed)) = true := by
    decide +kernel
  obtain ⟨vault, hvault, hresults⟩ := (Option.any_eq_true _ _).mp htwins
  rw [Bool.and_eq_true, Option.isSome_iff_exists, decide_eq_true_eq] at hresults
  obtain ⟨⟨result, hresult⟩, hlisting⟩ := hresults
  refine ⟨vault, hvault, ⟨_, result, verifyAssertion_eq_ok.mpr ⟨_, _, sampleRequest_accepted,
    .inl rfl, rfl⟩, Except.toOption_eq_some.mp hresult⟩, ?_⟩
  rintro ⟨lookup, listed, hlookup, hlist, -⟩
  obtain ⟨rp_id, hash, haccepted, rfl⟩ := verifyAssertionLookup_eq_ok.mp hlookup
  obtain ⟨rfl, rfl⟩ := Prod.mk.inj (Option.some.inj (sampleRequest_accepted.symm.trans haccepted))
  have hwhole : wholeListing vault "example.com" = .ok listed := hlist
  rw [hlisting] at hwhole
  cases hwhole

/-- The records that an authentic snapshot is read to. -/
theorem decrypted_eq_read {P : Primitives} {vault : UnlockedVault} {snapshot : Snapshot}
    {decrypted read : List DecryptedRecord} (h : Authentic P vault snapshot decrypted)
    (hread : visitSnapshot P vault snapshot (fun _ => false) (fun records record =>
      records ++ [record]) [] = .ok read) : decrypted = read := by
  rw [h.visitSnapshot_eq] at hread
  have hfold : decrypted.foldl (fun records record => records ++ [record]) [] = decrypted := by
    rw [List.foldl_append_eq_append, ← List.flatMap_def, List.flatMap_singleton',
      List.nil_append]
  exact hfold.symm.trans (Except.ok.inj hread)

/-- The one passkey of a vault is offered, and signs. -/
theorem sole_offered : ∃ vault, soleVault = some vault ∧ ∃ decrypted,
    (Offers caselessPrimitives vault.session vault.snapshot sampleRequest (Bytes.replicate 32 1)
        (fun _ => false) ↔
      Signs caselessPrimitives vault.session vault.snapshot sampleRequest (Bytes.replicate 32 1)
        (fun _ => false) 2 sampleDraws ∧ Listable sampleRequest decrypted) := by
  have hsole : soleVault.any (fun vault =>
      ((visitSnapshot caselessPrimitives vault.session vault.snapshot (fun _ => false)
        (fun records record => records ++ [record]) []).toOption.any fun read =>
          (passkeysOf read).all fun passkey =>
            (Format.checkedSucc passkey.revision).isSome &&
            (checkedSucc32 passkey.signature_counter).isSome) &&
      (Format.checkedSucc vault.session.manifest.generation).isSome) = true := by
    decide +kernel
  obtain ⟨vault, hvault, hresults⟩ := (Option.any_eq_true _ _).mp hsole
  rw [Bool.and_eq_true, Option.any_eq_true, Option.isSome_iff_exists] at hresults
  obtain ⟨⟨read, hread, hcounters⟩, generation, hgeneration⟩ := hresults
  obtain ⟨-, decrypted, hauthentic, -⟩ :=
    visitSnapshot_eq_ok.mp (Except.toOption_eq_some.mp hread)
  obtain rfl := decrypted_eq_read hauthentic (Except.toOption_eq_some.mp hread)
  refine ⟨vault, hvault, decrypted, offers_iff_signs caselessPrimitives_encrypts hauthentic ?_
    (fun _ _ => rfl) (fun _ _ => rfl) sampleDraws_draw hgeneration 2 ?_⟩
  · intro rp_id hash haccepted
    obtain ⟨rfl, -⟩ := Prod.mk.inj (Option.some.inj (sampleRequest_accepted.symm.trans haccepted))
    decide +kernel
  · intro passkey hmem hid hexhausted
    have hsome := List.all_eq_true.mp hcounters passkey hmem
    rw [Bool.and_eq_true] at hsome
    obtain hrevision | hcounter := hexhausted
    · rw [hrevision] at hsome
      cases hsome.1
    · rw [hcounter] at hsome
      cases hsome.2

end Librarian.PasskeyAgent
