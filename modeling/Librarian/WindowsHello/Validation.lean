import Librarian.Lib.Bytes

/-!
# What Windows answers to a ceremony

`validation.cpp` looks at an attestation, which comes with a new credential, and at an assertion of
an old one. Both carry authenticator data: the hash of the relying party, flags, a counter, and for
a new credential its id among the attested data. The checks read the bytes where they expect them.
`AuthenticatorData` and `AttestedCredential` are the layout itself, and the checks accept exactly
what has it.
-/

namespace Librarian.WindowsHello

/-- `Error`. -/
inductive Error
  | none
  | invalidArgument
  | unavailable
  | unsupported
  | cancelled
  | invalidResponse
  | platformFailure
  | credentialRemovalFailed
  deriving DecidableEq, Repr

/-! ## The layout of authenticator data -/

/-- Authenticator data. -/
structure AuthenticatorData where
  rp_id_hash : Bytes 32
  flags : UInt8
  counter : Bytes 4
  /-- The attested credential and the extensions, as the flags say. -/
  rest : List UInt8

def AuthenticatorData.encode (data : AuthenticatorData) : List UInt8 :=
  data.rp_id_hash.val ++ data.flags :: (data.counter.val ++ data.rest)

/-- The attested data of a new credential. -/
structure AttestedCredential where
  aaguid : Bytes 16
  credential_id : List UInt8
  bounded : credential_id.length < 65536
  /-- The public key. -/
  rest : List UInt8

def AttestedCredential.encode (credential : AttestedCredential) : List UInt8 :=
  credential.aaguid.val ++ (BigEndian.encode 2 credential.credential_id.length ++
    (credential.credential_id ++ credential.rest))

/-! ## The checks -/

def authenticatorDataMinimumBytes : ℕ := 37
def authenticatorFlagsOffset : ℕ := 32
def authenticatorUserPresentFlag : UInt8 := 0x01
def authenticatorUserVerifiedFlag : UInt8 := 0x04
def authenticatorAttestedDataFlag : UInt8 := 0x40
def attestedAaguidBytes : ℕ := 16
def attestedCredentialLengthBytes : ℕ := 2
def attestedCredentialLengthOffset : ℕ := authenticatorDataMinimumBytes + attestedAaguidBytes
def attestedCredentialOffset : ℕ := attestedCredentialLengthOffset + attestedCredentialLengthBytes

/-- `WEBAUTHN_CREDENTIAL_ATTESTATION_VERSION_7`. -/
def minimumAttestationVersion : UInt32 := 7

/-- `WEBAUTHN_ASSERTION_VERSION_3`. -/
def minimumAssertionVersion : UInt32 := 3

/-- `WEBAUTHN_CTAP_TRANSPORT_INTERNAL`. -/
def internalTransport : UInt32 := 0x10

/-- `L"public-key"`. -/
def publicKeyType : List UInt16 := "public-key".toList.map fun c => c.toNat.toUInt16

/-- The outputs of the pseudo-random function that come with an answer. -/
structure PrfView where
  first : List UInt8 := []
  second : List UInt8 := []
  deriving DecidableEq

structure AttestationView where
  version : UInt32
  credential_id : List UInt8
  authenticator_data : List UInt8
  prf_enabled : Bool
  used_transport : UInt32
  prf : PrfView
  deriving DecidableEq

structure AssertionView where
  version : UInt32
  credential_id : List UInt8
  credential_type : List UInt16
  authenticator_data : List UInt8
  prf : PrfView
  deriving DecidableEq

structure ValidationResult where
  error : Error := .invalidResponse
  output : Option (Bytes 32) := none
  deriving DecidableEq

/-- `valid_authenticator_data`. -/
def validAuthenticatorData (data : List UInt8) (expected_hash : Bytes 32)
    (required_flags : UInt8) : Bool :=
  decide (authenticatorDataMinimumBytes ≤ data.length) &&
    decide (data.take 32 = expected_hash.val) &&
    -- The length has been checked.
    decide (data.getD authenticatorFlagsOffset 0 &&& required_flags = required_flags)

/-- `valid_attested_credential`. -/
def validAttestedCredential (data expected : List UInt8) : Bool :=
  if expected = [] ∨ data.length < attestedCredentialOffset then false
  else
    let length := (data.getD attestedCredentialLengthOffset 0).toNat <<< 8 |||
      (data.getD (attestedCredentialLengthOffset + 1) 0).toNat
    decide (length = expected.length) &&
      decide (attestedCredentialOffset + length ≤ data.length) &&
      decide ((data.drop attestedCredentialOffset).take expected.length = expected)

/-- `validated_prf`. -/
def validatedPrf (value : PrfView) : ValidationResult :=
  if value.second ≠ [] then {}
  else match Bytes.ofList? 32 value.first with
    | none => {}
    | some fixed => { error := .none, output := some fixed }

/-- `ValidateAttestation`. -/
def validateAttestation (value : AttestationView)
    (expected_relying_party_hash : Bytes 32) : ValidationResult :=
  if ¬value.prf_enabled then { error := .unsupported }
  else if value.version < minimumAttestationVersion ∨ value.used_transport ≠ internalTransport ∨
      ¬validAuthenticatorData value.authenticator_data expected_relying_party_hash
        (authenticatorUserPresentFlag ||| authenticatorUserVerifiedFlag |||
          authenticatorAttestedDataFlag) ∨
      ¬validAttestedCredential value.authenticator_data value.credential_id then {}
  else validatedPrf value.prf

/-- `ValidateAssertion`. -/
def validateAssertion (value : AssertionView) (expected_credential_id : List UInt8)
    (expected_relying_party_hash : Bytes 32) : ValidationResult :=
  if value.version < minimumAssertionVersion ∨ value.credential_id ≠ expected_credential_id ∨
      value.credential_type ≠ publicKeyType ∨
      ¬validAuthenticatorData value.authenticator_data expected_relying_party_hash
        (authenticatorUserPresentFlag ||| authenticatorUserVerifiedFlag) ∨
      value.authenticator_data.getD authenticatorFlagsOffset 0 &&&
        authenticatorAttestedDataFlag ≠ 0 then {}
  else validatedPrf value.prf

/-! ## What the checks accept -/

section

variable {data : List UInt8} {hash : Bytes 32} {flags : UInt8}

/-- The authenticator data that bytes are, when there are enough of them. -/
theorem exists_authenticatorData (h : authenticatorDataMinimumBytes ≤ data.length) :
    ∃ parsed : AuthenticatorData, parsed.encode = data := by
  have hlength : 37 ≤ data.length := h
  let hash : Bytes 32 := ⟨data.take 32, by rw [List.length_take]; omega⟩
  let counter : Bytes 4 := ⟨(data.drop 33).take 4, by rw [List.length_take, List.length_drop]; omega⟩
  refine ⟨⟨hash, data[32], counter, data.drop 37⟩, ?_⟩
  calc data.take 32 ++ data[32] :: ((data.drop 33).take 4 ++ data.drop 37)
      = data.take 32 ++ data[32] :: data.drop 33 := by
        rw [show data.drop 37 = (data.drop 33).drop 4 by rw [List.drop_drop], List.take_append_drop]
    _ = data.take 32 ++ data.drop 32 := by rw [List.getElem_cons_drop]
    _ = data := List.take_append_drop 32 data

theorem AuthenticatorData.length_encode (parsed : AuthenticatorData) :
    parsed.encode.length = 37 + parsed.rest.length := by
  obtain ⟨hash, flags, counter, rest⟩ := parsed
  have hhash := hash.property
  have hcounter := counter.property
  simp only [encode, List.length_append, List.length_cons]
  omega

theorem AuthenticatorData.take_encode (parsed : AuthenticatorData) :
    parsed.encode.take 32 = parsed.rp_id_hash.val :=
  List.take_left' parsed.rp_id_hash.property

theorem AuthenticatorData.flags_encode (parsed : AuthenticatorData) :
    parsed.encode.getD authenticatorFlagsOffset 0 = parsed.flags := by
  have hhash := parsed.rp_id_hash.property
  have hflags : parsed.encode[authenticatorFlagsOffset]? = some parsed.flags := by
    unfold encode authenticatorFlagsOffset
    rw [List.getElem?_append_right (by omega), hhash]
    rfl
  rw [List.getD_eq_getElem?_getD, hflags, Option.getD_some]

/-- `valid_authenticator_data` accepts authenticator data for the relying party with the flags. -/
theorem validAuthenticatorData_iff :
    validAuthenticatorData data hash flags = true ↔
      ∃ parsed : AuthenticatorData, parsed.encode = data ∧ parsed.rp_id_hash = hash ∧
        parsed.flags &&& flags = flags := by
  simp only [validAuthenticatorData, Bool.and_eq_true, decide_eq_true_eq]
  constructor
  · rintro ⟨⟨hlength, hhash⟩, hflags⟩
    obtain ⟨parsed, rfl⟩ := exists_authenticatorData hlength
    rw [parsed.take_encode] at hhash
    rw [parsed.flags_encode] at hflags
    exact ⟨parsed, rfl, Subtype.ext hhash, hflags⟩
  · rintro ⟨parsed, rfl, rfl, hflags⟩
    have hlength := parsed.length_encode
    rw [parsed.take_encode, parsed.flags_encode]
    exact ⟨⟨by unfold authenticatorDataMinimumBytes; omega, rfl⟩, hflags⟩

theorem AuthenticatorData.drop_encode (parsed : AuthenticatorData) (i : ℕ) :
    parsed.encode.drop (37 + i) = parsed.rest.drop i := by
  have hhash := parsed.rp_id_hash.property
  have hcounter := parsed.counter.property
  have hsplit : parsed.encode =
      (parsed.rp_id_hash.val ++ parsed.flags :: parsed.counter.val) ++ parsed.rest := by
    simp [encode]
  rw [hsplit, List.drop_append, List.drop_eq_nil_of_le, List.nil_append]
  · congr 1
    simp only [List.length_append, List.length_cons]
    omega
  · simp only [List.length_append, List.length_cons]
    omega

theorem AuthenticatorData.getD_encode (parsed : AuthenticatorData) (i : ℕ) :
    parsed.encode.getD (37 + i) 0 = parsed.rest.getD i 0 := by
  have hdrop := parsed.drop_encode i
  rw [List.getD_eq_getElem?_getD, List.getD_eq_getElem?_getD]
  calc parsed.encode[37 + i]?.getD 0 = (parsed.encode.drop (37 + i))[0]?.getD 0 := by
        rw [List.getElem?_drop, Nat.add_zero]
    _ = (parsed.rest.drop i)[0]?.getD 0 := by rw [hdrop]
    _ = parsed.rest[i]?.getD 0 := by rw [List.getElem?_drop, Nat.add_zero]

/-- The length of an id, as `valid_attested_credential` reads it. -/
theorem shiftLeft_or (a b : UInt8) : a.toNat <<< 8 ||| b.toNat = BigEndian.decode [a, b] := by
  have hb : b.toNat < 2 ^ 8 := b.toNat_lt
  rw [← Nat.shiftLeft_add_eq_or_of_lt hb, Nat.shiftLeft_eq]
  simp [BigEndian.decode]

/-- `valid_attested_credential` accepts attested data with a credential that is not empty. -/
theorem validAttestedCredential_iff {parsed : AuthenticatorData} {expected : List UInt8} :
    validAttestedCredential parsed.encode expected = true ↔ expected ≠ [] ∧
      ∃ attested : AttestedCredential, attested.encode = parsed.rest ∧
        attested.credential_id = expected := by
  have hlength := parsed.length_encode
  unfold validAttestedCredential
  rw [show attestedCredentialLengthOffset = 37 + 16 from rfl,
    show 37 + 16 + 1 = 37 + 17 from rfl, show attestedCredentialOffset = 37 + 18 from rfl,
    parsed.getD_encode, parsed.getD_encode, parsed.drop_encode, hlength, shiftLeft_or]
  constructor
  · intro h
    split_ifs at h with hshort
    simp only [Bool.and_eq_true, decide_eq_true_eq] at h
    obtain ⟨⟨hcount, hfits⟩, hsame⟩ := h
    obtain ⟨hne, hlong⟩ := not_or.mp hshort
    have hlong : 18 ≤ parsed.rest.length := by omega
    have hpair : (parsed.rest.drop 16).take 2 = [parsed.rest.getD 16 0, parsed.rest.getD 17 0] := by
      have h16 : 16 < parsed.rest.length := by omega
      have h17 : 17 < parsed.rest.length := by omega
      rw [List.getD_eq_getElem?_getD, List.getD_eq_getElem?_getD, List.getElem?_eq_getElem h16,
        List.getElem?_eq_getElem h17, List.drop_eq_getElem_cons h16, List.drop_eq_getElem_cons h17]
      rfl
    have haaguid : (parsed.rest.take 16).length = 16 := by
      rw [List.length_take]
      omega
    have hbounded : expected.length < 65536 := by
      have hlt := BigEndian.decode_lt [parsed.rest.getD 16 0, parsed.rest.getD 17 0]
      rw [hcount] at hlt
      norm_num at hlt
      exact hlt
    have hencoded : BigEndian.encode 2 expected.length = (parsed.rest.drop 16).take 2 := by
      rw [hpair, ← hcount]
      exact BigEndian.encode_decode [parsed.rest.getD 16 0, parsed.rest.getD 17 0]
    refine ⟨hne, ⟨⟨_, haaguid⟩, expected, hbounded, (parsed.rest.drop 18).drop expected.length⟩, ?_, rfl⟩
    calc parsed.rest.take 16 ++ (BigEndian.encode 2 expected.length ++
          (expected ++ (parsed.rest.drop 18).drop expected.length))
        = parsed.rest.take 16 ++ ((parsed.rest.drop 16).take 2 ++
            ((parsed.rest.drop 18).take expected.length ++
              (parsed.rest.drop 18).drop expected.length)) := by rw [hencoded, hsame]
      _ = parsed.rest.take 16 ++ ((parsed.rest.drop 16).take 2 ++ (parsed.rest.drop 16).drop 2) := by
        rw [List.take_append_drop, List.drop_drop]
      _ = parsed.rest := by rw [List.take_append_drop, List.take_append_drop]
  · rintro ⟨hne, attested, hencode, rfl⟩
    have haaguid := attested.aaguid.property
    have hcount : BigEndian.decode [parsed.rest.getD 16 0, parsed.rest.getD 17 0] =
        attested.credential_id.length := by
      have hpair : [parsed.rest.getD 16 0, parsed.rest.getD 17 0] =
          BigEndian.encode 2 attested.credential_id.length := by
        rw [← hencode]
        unfold AttestedCredential.encode
        simp [List.getD_eq_getElem?_getD, List.getElem?_append_right, haaguid, BigEndian.encode]
      rw [hpair]
      exact BigEndian.decode_encode attested.bounded
    have hrest : parsed.rest.length = 18 + (attested.credential_id.length + attested.rest.length) := by
      rw [← hencode]
      simp only [AttestedCredential.encode, List.length_append, haaguid, BigEndian.encode_length]
      omega
    have hdrop : parsed.rest.drop 18 = attested.credential_id ++ attested.rest := by
      rw [← hencode]
      unfold AttestedCredential.encode
      rw [← List.append_assoc]
      exact List.drop_left' (by simp [haaguid])
    rw [if_neg (by
      rw [not_or]
      exact ⟨hne, by omega⟩)]
    simp only [Bool.and_eq_true, decide_eq_true_eq]
    refine ⟨⟨hcount, by omega⟩, ?_⟩
    rw [hdrop]
    exact List.take_left

end

/-! ## Well-formed answers -/

/-- An attestation that Windows makes for a new credential of the relying party: a platform
authenticator has verified the user, and the output is the credential's. -/
structure Attests (value : AttestationView) (hash output : Bytes 32) : Prop where
  version : minimumAttestationVersion ≤ value.version
  prf_enabled : value.prf_enabled = true
  used_transport : value.used_transport = internalTransport
  prf : value.prf = ⟨output.val, []⟩
  credential_id : value.credential_id ≠ []
  authenticator_data : ∃ (data : AuthenticatorData) (attested : AttestedCredential),
    data.encode = value.authenticator_data ∧ attested.encode = data.rest ∧ data.rp_id_hash = hash ∧
    attested.credential_id = value.credential_id ∧ data.flags &&& 0x45 = 0x45

/-- An assertion that Windows makes of a credential of the relying party. -/
structure Asserts (value : AssertionView) (credential_id : List UInt8) (hash output : Bytes 32) :
    Prop where
  version : minimumAssertionVersion ≤ value.version
  credential_id : value.credential_id = credential_id
  credential_type : value.credential_type = publicKeyType
  prf : value.prf = ⟨output.val, []⟩
  authenticator_data : ∃ data : AuthenticatorData,
    data.encode = value.authenticator_data ∧ data.rp_id_hash = hash ∧
    data.flags &&& 0x05 = 0x05 ∧ data.flags &&& 0x40 = 0

theorem validatedPrf_eq_none {value : PrfView} {output : Option (Bytes 32)} :
    validatedPrf value = ⟨.none, output⟩ ↔
      ∃ fixed : Bytes 32, output = some fixed ∧ value = ⟨fixed.val, []⟩ := by
  obtain ⟨first, second⟩ := value
  unfold validatedPrf
  constructor
  · intro h
    dsimp only at h
    split_ifs at h with hsecond
    · cases h
    · obtain rfl := not_not.mp hsecond
      by_cases hlength : first.length = 32
      · rw [show Bytes.ofList? 32 first = some ⟨first, hlength⟩ from dif_pos hlength] at h
        exact ⟨⟨first, hlength⟩, (congrArg ValidationResult.output h).symm, rfl⟩
      · rw [show Bytes.ofList? 32 first = none from dif_neg hlength] at h
        cases h
  · rintro ⟨fixed, rfl, hvalue⟩
    cases hvalue
    simp

/-- An attestation is accepted when it is well formed, and its output is the one returned. -/
theorem validateAttestation_eq_none {value : AttestationView} {hash : Bytes 32}
    {output : Option (Bytes 32)} :
    validateAttestation value hash = ⟨.none, output⟩ ↔
      ∃ fixed, output = some fixed ∧ Attests value hash fixed := by
  unfold validateAttestation
  constructor
  · intro h
    split_ifs at h with henabled hbad
    · cases h
    · obtain ⟨fixed, rfl, hprf⟩ := validatedPrf_eq_none.mp h
      simp only [not_or, not_not] at hbad
      obtain ⟨hversion, htransport, hdata, hcredential⟩ := hbad
      obtain ⟨data, hencode, hhash, hflags⟩ := validAuthenticatorData_iff.mp hdata
      rw [← hencode] at hcredential
      obtain ⟨hne, attested, hattested, hid⟩ := validAttestedCredential_iff.mp hcredential
      exact ⟨fixed, rfl, UInt32.not_lt.mp hversion, henabled, htransport, hprf, hne,
        data, attested, hencode, hattested, hhash, hid, hflags⟩
    · cases h
  · rintro ⟨fixed, rfl, h⟩
    obtain ⟨data, attested, hencode, hattested, hhash, hid, hflags⟩ := h.authenticator_data
    have hdata := validAuthenticatorData_iff.mpr ⟨data, hencode, hhash, hflags⟩
    have hcredential : validAttestedCredential value.authenticator_data value.credential_id :=
      hencode ▸ validAttestedCredential_iff.mpr ⟨h.credential_id, attested, hattested, hid⟩
    rw [if_neg (not_not.mpr h.prf_enabled), if_neg, validatedPrf_eq_none]
    · exact ⟨fixed, rfl, h.prf⟩
    · simp only [not_or, not_not]
      exact ⟨UInt32.not_lt.mpr h.version, h.used_transport, hdata, hcredential⟩

/-- An assertion is accepted when it is well formed and of the expected credential. -/
theorem validateAssertion_eq_none {value : AssertionView} {expected : List UInt8} {hash : Bytes 32}
    {output : Option (Bytes 32)} :
    validateAssertion value expected hash = ⟨.none, output⟩ ↔
      ∃ fixed, output = some fixed ∧ Asserts value expected hash fixed := by
  unfold validateAssertion
  constructor
  · intro h
    split_ifs at h with hbad
    · cases h
    · obtain ⟨fixed, rfl, hprf⟩ := validatedPrf_eq_none.mp h
      simp only [not_or, not_not] at hbad
      obtain ⟨hversion, hid, htype, hdata, hattested⟩ := hbad
      obtain ⟨data, hencode, hhash, hflags⟩ := validAuthenticatorData_iff.mp hdata
      rw [← hencode, data.flags_encode] at hattested
      exact ⟨fixed, rfl, UInt32.not_lt.mp hversion, hid, htype, hprf, data, hencode, hhash, hflags,
        hattested⟩
  · rintro ⟨fixed, rfl, h⟩
    obtain ⟨data, hencode, hhash, hflags, hattested⟩ := h.authenticator_data
    have hdata := validAuthenticatorData_iff.mpr ⟨data, hencode, hhash, hflags⟩
    rw [if_neg, validatedPrf_eq_none]
    · exact ⟨fixed, rfl, h.prf⟩
    · simp only [not_or, not_not]
      refine ⟨UInt32.not_lt.mpr h.version, h.credential_id, h.credential_type, hdata, ?_⟩
      rw [← hencode, data.flags_encode]
      exact hattested

end Librarian.WindowsHello
