import Librarian.Agent.WindowsHello
import Librarian.Format.Protector

/-!
# The encoding of the local state of Windows Hello

The plaintext of the blob that the agent keeps on the device. An enrollment holds an encoded
protector and repeats what the protector says; a missing credential to be removed is an empty byte
string. Every state that the agent can make is encoded within the limit and decoded again, and what
decodes is the encoding of a state whose parts agree (`local_state_codec`).
-/

namespace Librarian.Agent

open Cursor Format

/-- `LOCAL_STATE_MAGIC`. -/
def localStateMagic : String := "LBR-HLO"

/-- `LOCAL_STATE_VERSION`. -/
def localStateVersion : UInt32 := 3

/-- `LOCAL_STATE_FIELDS`. -/
def localStateFields : ℕ := 4

/-- `LOCAL_ENROLLMENT_FIELDS`. -/
def localEnrollmentFields : ℕ := 7

/-- `LOCAL_STATE_ENROLLMENT`. -/
def localStateEnrollment : ℕ := 0

/-- `LOCAL_STATE_PENDING_REMOVAL`. -/
def localStatePendingRemoval : ℕ := 1

/-- `MAXIMUM_LOCAL_STATE_BYTES`. -/
def maximumLocalStateBytes : ℕ := 4 * 1024

namespace WindowsHelloLocalState

/-- `WindowsHelloLocalState::new`. -/
def new (vault_id : Bytes 16) (key_epoch : UInt32) (installation_key : Bytes 32)
    (credential_id : List UInt8) (prf_salt : Bytes 32) (protector : List UInt8) :
    Except WindowsHelloStateError WindowsHelloLocalState := do
  if vault_id.isZero ∨ key_epoch = 0 ∨ installation_key.isZero ∨ credential_id = [] ∨
      credential_id.length > maxWindowsHelloCredentialIdBytes ∨ prf_salt.isZero ∨ protector = [] ∨
      protector.length > maxWindowsHelloProtectorBytes then
    throw .invalid
  let decoded ← (WindowsHelloProtector.decode protector).mapErr fun _ => .invalid
  if decoded.vault_id ≠ vault_id ∨ decoded.key_epoch ≠ key_epoch ∨
      decoded.credential_id ≠ credential_id ∨ decoded.prf_salt ≠ prf_salt then
    throw .invalid
  return enrollment vault_id key_epoch installation_key credential_id none prf_salt protector

/-- The bytes before the kind of the state. -/
def encodeStart : List UInt8 :=
  Cbor.array localStateFields ++ (Cbor.text localStateMagic ++ encodeU32 localStateVersion)

/-- The bytes that `encode` writes. -/
def encodeInto : WindowsHelloLocalState → List UInt8
  | enrollment vault_id key_epoch installation_key credential_id pending prf_salt protector =>
    encodeStart ++ (Cbor.unsigned localStateEnrollment ++ (Cbor.array localEnrollmentFields ++
      (Cbor.bytes vault_id.val ++ (encodeU32 key_epoch ++ (Cbor.bytes installation_key.val ++
        (Cbor.bytes credential_id ++ (Cbor.bytes (pending.getD []) ++
          (Cbor.bytes prf_salt.val ++ Cbor.bytes protector))))))))
  | pendingRemoval credential_id =>
    encodeStart ++ (Cbor.unsigned localStatePendingRemoval ++ Cbor.bytes credential_id)

/-- `encode`. -/
def encode (state : WindowsHelloLocalState) : Except WindowsHelloStateError (List UInt8) :=
  if state.encodeInto.length > maximumLocalStateBytes then .error .invalid
  else .ok state.encodeInto

/-- A cursor that fails with an invalid state. -/
abbrev Decoder (α : Type) : Type := Cursor WindowsHelloStateError α

/-- `bounded_bytes`. -/
def boundedBytes (minimum maximum : ℕ) : Decoder (List UInt8) := do
  let value ← ofReader .invalid Cbor.readBytes
  if ¬(minimum ≤ value.length ∧ value.length ≤ maximum) then throw .invalid
  return value

/-- The reads before the kind of the state. -/
def decodeStart : Decoder Unit := do
  expectArray .invalid localStateFields
  let magic ← ofReader .invalid Cbor.readText
  if magic ≠ localStateMagic then throw .invalid
  let version ← UInt32.ofNat <$> ofReader .invalid (Cbor.readUnsigned (2 ^ 32))
  if version ≠ localStateVersion then throw .invalid

/-- The reads of an enrollment. -/
def decodeEnrollment : Decoder WindowsHelloLocalState := do
  expectArray .invalid localEnrollmentFields
  let vault_id ← fixedBytes .invalid 16
  let key_epoch ← UInt32.ofNat <$> ofReader .invalid (Cbor.readUnsigned (2 ^ 32))
  let installation_key ← fixedBytes .invalid 32
  let credential_id ← boundedBytes 1 maxWindowsHelloCredentialIdBytes
  let pending ← boundedBytes 0 maxWindowsHelloCredentialIdBytes
  let prf_salt ← fixedBytes .invalid 32
  let protector ← boundedBytes 1 maxWindowsHelloProtectorBytes
  let state ← new vault_id key_epoch installation_key credential_id prf_salt protector
  if pending = [] then return state
  let state ←
    (state.setPendingRemovalCredentialId pending).okOr WindowsHelloStateError.invalid
  return state

/-- The reads of a credential to be removed. -/
def decodePendingRemoval : Decoder WindowsHelloLocalState := do
  let credential_id ← boundedBytes 1 maxWindowsHelloCredentialIdBytes
  let state ← (newPendingRemoval credential_id).okOr WindowsHelloStateError.invalid
  return state

/-- The reads of `decode`. -/
def decodeFrom : Decoder WindowsHelloLocalState := do
  decodeStart
  let kind ← ofReader .invalid (Cbor.readUnsigned (2 ^ 8))
  if kind = localStateEnrollment then decodeEnrollment
  else if kind = localStatePendingRemoval then decodePendingRemoval
  else throw .invalid

/-- `decode`. -/
def decode (bytes : List UInt8) : Except WindowsHelloStateError WindowsHelloLocalState :=
  if bytes = [] ∨ bytes.length > maximumLocalStateBytes then .error .invalid
  else Codec.checked .invalid encode (Cursor.all .invalid decodeFrom) bytes

/-! ## Valid states -/

/-- The parts of the state agree, and none of them is too long. -/
inductive Valid : WindowsHelloLocalState → Prop
  | enrollment (vault_id : Bytes 16) (key_epoch : UInt32) (installation_key : Bytes 32)
      (credential_id : List UInt8) (pending : Option (List UInt8)) (prf_salt : Bytes 32)
      (protector : List UInt8)
      (hnew : new vault_id key_epoch installation_key credential_id prf_salt protector =
        .ok (.enrollment vault_id key_epoch installation_key credential_id none prf_salt protector))
      (hpending : ∀ id, pending = some id →
        id ≠ [] ∧ id.length ≤ maxWindowsHelloCredentialIdBytes ∧ id ≠ credential_id) :
      Valid (.enrollment vault_id key_epoch installation_key credential_id pending prf_salt
        protector)
  | pendingRemoval (credential_id : List UInt8) (hne : credential_id ≠ [])
      (hlength : credential_id.length ≤ maxWindowsHelloCredentialIdBytes) :
      Valid (.pendingRemoval credential_id)

/-- The states that the agent can make. -/
inductive Reachable : WindowsHelloLocalState → Prop
  | new {vault_id : Bytes 16} {key_epoch : UInt32} {installation_key : Bytes 32}
      {credential_id : List UInt8} {prf_salt : Bytes 32} {protector : List UInt8}
      {state : WindowsHelloLocalState}
      (h : new vault_id key_epoch installation_key credential_id prf_salt protector = .ok state) :
      Reachable state
  | pendingRemoval {credential_id : List UInt8} {state : WindowsHelloLocalState}
      (h : newPendingRemoval credential_id = some state) : Reachable state
  | setPendingRemoval {state state' : WindowsHelloLocalState} (hstate : Reachable state)
      {credential_id : List UInt8} (h : state.setPendingRemovalCredentialId credential_id =
        some state') : Reachable state'
  | clearPendingRemoval {state state' : WindowsHelloLocalState} (hstate : Reachable state)
      (h : state.clearPendingRemovalCredentialId = some state') : Reachable state'

variable {vault_id : Bytes 16} {key_epoch : UInt32} {installation_key : Bytes 32}
  {credential_id : List UInt8} {pending : Option (List UInt8)} {prf_salt : Bytes 32}
  {protector : List UInt8} {state state' : WindowsHelloLocalState}

/-- What `new` checks. -/
theorem new_eq_ok :
    new vault_id key_epoch installation_key credential_id prf_salt protector = .ok state ↔
      (vault_id.isZero = false ∧ key_epoch ≠ 0 ∧ installation_key.isZero = false ∧
        credential_id ≠ [] ∧ credential_id.length ≤ maxWindowsHelloCredentialIdBytes ∧
        prf_salt.isZero = false ∧ protector ≠ [] ∧
        protector.length ≤ maxWindowsHelloProtectorBytes) ∧
      (∃ decoded, WindowsHelloProtector.decode protector = .ok decoded ∧
        decoded.vault_id = vault_id ∧ decoded.key_epoch = key_epoch ∧
        decoded.credential_id = credential_id ∧ decoded.prf_salt = prf_salt) ∧
      enrollment vault_id key_epoch installation_key credential_id none prf_salt protector =
        state := by
  simp only [new, Except.throw_eq, Except.error_bind, Except.pure_eq, Except.ite_error_eq_ok,
    Except.bind_eq_ok, Except.mapErr_eq_ok, Except.ok.injEq, not_or, not_not, not_lt, gt_iff_lt,
    Bool.not_eq_true, ne_eq]
  constructor
  · rintro ⟨hsizes, decoded, hdecode, hparts, rfl⟩
    exact ⟨hsizes, ⟨decoded, hdecode, hparts⟩, rfl⟩
  · rintro ⟨hsizes, ⟨decoded, hdecode, hparts⟩, rfl⟩
    exact ⟨hsizes, decoded, hdecode, hparts, rfl⟩

theorem Valid.new (h : new vault_id key_epoch installation_key credential_id prf_salt protector =
    .ok state) : Valid state := by
  obtain ⟨-, -, rfl⟩ := new_eq_ok.mp h
  exact .enrollment _ _ _ _ _ _ _ h fun _ hsome => (Option.some_ne_none _ hsome.symm).elim

theorem Valid.newPendingRemoval (h : newPendingRemoval credential_id = some state) :
    Valid state := by
  unfold WindowsHelloLocalState.newPendingRemoval at h
  split_ifs at h with hbounds
  obtain ⟨hne, hlength⟩ := not_or.mp hbounds
  rw [← Option.some.inj h]
  exact .pendingRemoval credential_id hne (not_lt.mp hlength)

theorem Valid.setPendingRemoval (hstate : Valid state)
    (h : state.setPendingRemovalCredentialId credential_id = some state') : Valid state' := by
  cases hstate with
  | enrollment vault_id key_epoch installation_key active pending prf_salt protector hnew _ =>
    unfold setPendingRemovalCredentialId at h
    dsimp only at h
    split_ifs at h with hbounds
    obtain ⟨hne, hlength, hother⟩ : credential_id ≠ [] ∧
        ¬credential_id.length > maxWindowsHelloCredentialIdBytes ∧ credential_id ≠ active := by
      simpa [not_or] using hbounds
    rw [← Option.some.inj h]
    refine .enrollment _ _ _ _ _ _ _ hnew fun id hid => ?_
    rw [← Option.some.inj hid]
    exact ⟨hne, not_lt.mp hlength, hother⟩
  | pendingRemoval => cases h

theorem Valid.clearPendingRemoval (hstate : Valid state)
    (h : state.clearPendingRemovalCredentialId = some state') : Valid state' := by
  cases hstate with
  | enrollment vault_id key_epoch installation_key active pending prf_salt protector hnew _ =>
    rw [← Option.some.inj h]
    exact .new hnew
  | pendingRemoval => cases h

theorem Reachable.valid (h : Reachable state) : Valid state := by
  induction h with
  | new h => exact .new h
  | pendingRemoval h => exact .newPendingRemoval h
  | setPendingRemoval _ h ih => exact ih.setPendingRemoval h
  | clearPendingRemoval _ h ih => exact ih.clearPendingRemoval h

/-! ## Size -/

/-- A byte string with a short head. -/
theorem bytes_length_le {value : List UInt8} (h : value.length ≤ 0xffff) :
    (Cbor.bytes value).length ≤ value.length + 3 := by
  have hhead : (Cbor.head 2 value.length).length ≤ 3 := Cbor.head_length_le_three h
  rw [Cbor.bytes_length]
  omega

theorem fixed_length_le {n : ℕ} (value : Bytes n) (hn : n ≤ 0xffff) :
    (Cbor.bytes value.val).length ≤ n + 3 := by
  have hlength := bytes_length_le (value.property.trans_le hn)
  rwa [value.property] at hlength

/-- An encoded protector is not much longer than the credential id in it. -/
theorem protector_length_le {decoded : WindowsHelloProtector}
    (h : WindowsHelloProtector.decode protector = .ok decoded) :
    protector.length ≤ decoded.credential_id.length + 512 := by
  obtain ⟨hnew, -, rfl⟩ :=
    WindowsHelloProtector.encode_eq_ok.mp (WindowsHelloProtector.canonical.encode_decode h)
  have hlength := (WindowsHelloProtector.new_eq_ok.mp hnew).2.1
  have hsuite : encodeHelloSuite.length ≤ 32 := by decide +kernel
  have harray : (Cbor.array 15).length = 1 := Cbor.head_length_eq_one (by norm_num)
  have hid := bytes_length_le (hlength.trans (by norm_num [Format.maxWindowsHelloCredentialIdBytes]))
  simp only [encodeWindowsHelloProtectorInto, encodeWindowsHelloBindingInto, List.length_append]
  have hvault := fixed_length_le decoded.vault_id (by norm_num)
  have hinstallation := fixed_length_le decoded.installation_id (by norm_num)
  have hsalt := fixed_length_le decoded.prf_salt (by norm_num)
  have hnonce := fixed_length_le decoded.nonce (by norm_num)
  have hwrapped := fixed_length_le decoded.wrapped_vrk (by norm_num)
  have hepoch := encodeU32_length_le decoded.key_epoch
  omega

/-- The state is encoded within the limit. -/
theorem Valid.encodeInto_length_le (h : Valid state) :
    state.encodeInto.length ≤ maximumLocalStateBytes := by
  have hstart : encodeStart.length ≤ 16 := by decide +kernel
  cases h with
  | enrollment vault_id key_epoch installation_key credential_id pending prf_salt protector hnew
      hpending =>
    obtain ⟨⟨-, -, -, -, hlength, -, -, -⟩, ⟨decoded, hdecode, -, -, hcredential, -⟩, -⟩ :=
      new_eq_ok.mp hnew
    have hprotector := protector_length_le hdecode
    rw [hcredential] at hprotector
    have hremoval : (pending.getD []).length ≤ maxWindowsHelloCredentialIdBytes := by
      cases pending with
      | none => exact Nat.zero_le _
      | some id => exact (hpending id rfl).2.1
    unfold maxWindowsHelloCredentialIdBytes at hlength hremoval
    have hid := bytes_length_le (hlength.trans (by norm_num))
    have hremovalBytes := bytes_length_le (hremoval.trans (by norm_num))
    have hprotectorBytes : (Cbor.bytes protector).length ≤ protector.length + 3 :=
      bytes_length_le (by omega)
    have hvault := fixed_length_le vault_id (by norm_num)
    have hkey := fixed_length_le installation_key (by norm_num)
    have hsalt := fixed_length_le prf_salt (by norm_num)
    have hepoch := encodeU32_length_le key_epoch
    have hkind : (Cbor.unsigned localStateEnrollment).length = 1 :=
      Cbor.head_length_eq_one (by norm_num [localStateEnrollment])
    have hfields : (Cbor.array localEnrollmentFields).length = 1 :=
      Cbor.head_length_eq_one (by norm_num [localEnrollmentFields])
    simp only [encodeInto, List.length_append, maximumLocalStateBytes]
    omega
  | pendingRemoval credential_id _ hlength =>
    unfold maxWindowsHelloCredentialIdBytes at hlength
    have hid := bytes_length_le (hlength.trans (by norm_num))
    have hkind : (Cbor.unsigned localStatePendingRemoval).length = 1 :=
      Cbor.head_length_eq_one (by norm_num [localStatePendingRemoval])
    simp only [encodeInto, List.length_append, maximumLocalStateBytes]
    omega

theorem Valid.encode (h : Valid state) : state.encode = .ok state.encodeInto :=
  if_neg (not_lt.mpr h.encodeInto_length_le)

/-! ## Round trip -/

theorem boundedBytes_reads {minimum maximum : ℕ} {value : List UInt8} (hmax : maximum < 2 ^ 64)
    (hmin : minimum ≤ value.length) (hv : value.length ≤ maximum) :
    Reads (boundedBytes minimum maximum) (Cbor.bytes value) value := by
  refine (Reads.ofReader (Cbor.readBytes_bytes (hv.trans_lt hmax))).bind_last ?_
  rw [if_neg (not_not.mpr ⟨hmin, hv⟩)]
  exact Reads.pure value

theorem number_reads (value : UInt32) :
    Reads (UInt32.ofNat <$> ofReader WindowsHelloStateError.invalid (Cbor.readUnsigned (2 ^ 32)))
      (encodeU32 value) value := by
  have h : Reads
      (UInt32.ofNat <$> ofReader WindowsHelloStateError.invalid (Cbor.readUnsigned (2 ^ 32)))
      (encodeU32 value) (UInt32.ofNat value.toNat) :=
    (unsigned_reads value.toNat_lt (by norm_num)).map UInt32.ofNat
  rwa [UInt32.ofNat_toNat] at h

theorem decodeStart_reads : Reads decodeStart encodeStart () := by
  refine (Cursor.expectArray_reads (by norm_num [localStateFields])).bind ?_
  refine (Reads.ofReader (Cbor.readText_text (by decide))).bind ?_
  rw [if_neg (by simp)]
  refine (number_reads localStateVersion).bind_last ?_
  rw [if_neg (by simp)]
  exact Reads.pure ()

/-- The enrollment is read back, with the credential to be removed. -/
theorem decodeEnrollment_reads
    (hnew : new vault_id key_epoch installation_key credential_id prf_salt protector =
      .ok (.enrollment vault_id key_epoch installation_key credential_id none prf_salt protector))
    (hpending : ∀ id, pending = some id →
      id ≠ [] ∧ id.length ≤ maxWindowsHelloCredentialIdBytes ∧ id ≠ credential_id) :
    Reads decodeEnrollment (Cbor.array localEnrollmentFields ++
      (Cbor.bytes vault_id.val ++ (encodeU32 key_epoch ++ (Cbor.bytes installation_key.val ++
        (Cbor.bytes credential_id ++ (Cbor.bytes (pending.getD []) ++
          (Cbor.bytes prf_salt.val ++ Cbor.bytes protector)))))))
      (.enrollment vault_id key_epoch installation_key credential_id pending prf_salt
        protector) := by
  obtain ⟨⟨-, -, -, hne, hlength, -, hprotector, hprotectorLength⟩, -, -⟩ := new_eq_ok.mp hnew
  have hremoval : (pending.getD []).length ≤ maxWindowsHelloCredentialIdBytes := by
    cases pending with
    | none => exact Nat.zero_le _
    | some id => exact (hpending id rfl).2.1
  refine (Cursor.expectArray_reads (by norm_num [localEnrollmentFields])).bind ?_
  refine (fixedBytes_reads (by norm_num) vault_id).bind ?_
  refine (number_reads key_epoch).bind ?_
  refine (fixedBytes_reads (by norm_num) installation_key).bind ?_
  refine (boundedBytes_reads (by norm_num [maxWindowsHelloCredentialIdBytes])
    (List.length_pos_of_ne_nil hne) hlength).bind ?_
  refine (boundedBytes_reads (by norm_num [maxWindowsHelloCredentialIdBytes]) (Nat.zero_le _)
    hremoval).bind ?_
  refine (fixedBytes_reads (by norm_num) prf_salt).bind ?_
  refine (boundedBytes_reads (by norm_num [maxWindowsHelloProtectorBytes])
    (List.length_pos_of_ne_nil hprotector) hprotectorLength).bind_last ?_
  refine (Reads.lift hnew).bind_first ?_
  cases pending with
  | none => exact Reads.pure _
  | some id =>
    obtain ⟨hid, hidLength, hother⟩ := hpending id rfl
    have hset : (enrollment vault_id key_epoch installation_key credential_id none prf_salt
        protector).setPendingRemovalCredentialId id = some (enrollment vault_id key_epoch
          installation_key credential_id (some id) prf_salt protector) := by
      have hbounds : ¬(id = [] ∨ id.length > maxWindowsHelloCredentialIdBytes ∨
          id = credential_id) := by
        rintro (hnone | hlong | hsame)
        · exact hid hnone
        · exact absurd hidLength (not_le.mpr hlong)
        · exact hother hsame
      exact if_neg hbounds
    rw [Option.getD_some, if_neg hid, hset]
    exact Reads.pure _

theorem decodeFrom_reads (h : Valid state) : Reads decodeFrom state.encodeInto state := by
  cases h with
  | enrollment vault_id key_epoch installation_key credential_id pending prf_salt protector hnew
      hpending =>
    refine decodeStart_reads.bind ?_
    refine (unsigned_reads (by norm_num [localStateEnrollment]) (by norm_num)).bind ?_
    rw [if_pos rfl]
    exact decodeEnrollment_reads hnew hpending
  | pendingRemoval credential_id hne hlength =>
    refine decodeStart_reads.bind ?_
    refine (unsigned_reads (by norm_num [localStatePendingRemoval]) (by norm_num)).bind ?_
    rw [if_neg (by decide), if_pos rfl]
    refine (boundedBytes_reads (by norm_num [maxWindowsHelloCredentialIdBytes])
      (List.length_pos_of_ne_nil hne) hlength).bind_last ?_
    have hnew : newPendingRemoval credential_id = some (pendingRemoval credential_id) := by
      have hbounds : ¬(credential_id = [] ∨
          credential_id.length > maxWindowsHelloCredentialIdBytes) :=
        not_or.mpr ⟨hne, not_lt.mpr hlength⟩
      exact if_neg hbounds
    rw [hnew]
    exact Reads.pure _

/-! ## What is accepted -/

theorem decodeFrom_yields : Yields decodeFrom Valid := by
  refine Yields.bind fun _ => Yields.bind fun _ => Yields.ite ?_ (Yields.ite ?_ (Yields.throw _))
  · refine Yields.bind fun _ => Yields.bind fun _ => Yields.bind fun _ => Yields.bind fun _ =>
      Yields.bind fun _ => Yields.bind fun _ => Yields.bind fun _ => Yields.bind fun _ =>
      Yields.lift_bind fun state hstate => Yields.ite (Yields.pure (.new hstate)) ?_
    refine Yields.lift fun state' hstate' => ?_
    exact (Valid.new hstate).setPendingRemoval (Option.okOr_eq_ok.mp hstate')
  · refine Yields.bind fun _ => Yields.lift fun state hstate => ?_
    exact .newPendingRemoval (Option.okOr_eq_ok.mp hstate)

theorem decode_eq_ok {bytes : List UInt8} : decode bytes = .ok state ↔
    bytes ≠ [] ∧ bytes.length ≤ maximumLocalStateBytes ∧
      Cursor.all .invalid decodeFrom bytes = .ok state ∧ state.encode = .ok bytes := by
  unfold decode
  rw [Except.ite_error_eq_ok, Codec.checked_eq_ok, not_or, not_lt]
  exact and_assoc

/-- The codec of the local state. Every state that the agent can make is encoded within the limit
and decoded again. What decodes is the encoding of its state; an enrollment's protector says what
the enrollment says, and a credential to be removed is not the enrolled one. -/
theorem local_state_codec :
    (∀ state, Reachable state → ∃ bytes, state.encode = .ok bytes ∧
      bytes.length ≤ maximumLocalStateBytes ∧ decode bytes = .ok state) ∧
    ∀ bytes state, decode bytes = .ok state →
      state.encode = .ok bytes ∧
      (∀ protector, state.protector = some protector → ∃ decoded,
        WindowsHelloProtector.decode protector = .ok decoded ∧
        state.vaultBinding = some (decoded.vault_id, decoded.key_epoch) ∧
        state.credentialId = some decoded.credential_id ∧
        state.prfSalt = some decoded.prf_salt) ∧
      ∀ id, state.pendingRemovalCredentialId = some id →
        id ≠ [] ∧ state.credentialId ≠ some id := by
  refine ⟨fun state hstate => ?_, fun bytes state hdecode => ?_⟩
  · have hvalid := hstate.valid
    have hlength := hvalid.encodeInto_length_le
    have hnonempty : state.encodeInto ≠ [] := by
      cases state <;> exact List.cons_ne_nil _ _
    exact ⟨_, hvalid.encode, hlength,
      decode_eq_ok.mpr ⟨hnonempty, hlength, (decodeFrom_reads hvalid).all_eq, hvalid.encode⟩⟩
  · obtain ⟨-, -, hall, hencode⟩ := decode_eq_ok.mp hdecode
    have hvalid : Valid state := decodeFrom_yields.all hall
    refine ⟨hencode, ?_⟩
    cases hvalid with
    | enrollment vault_id key_epoch installation_key credential_id pending prf_salt protector hnew
        hpending =>
      obtain ⟨-, ⟨decoded, hdecoded, rfl, rfl, rfl, rfl⟩, -⟩ := new_eq_ok.mp hnew
      refine ⟨fun protector' hprotector => ?_, fun id hid => ?_⟩
      · rw [← Option.some.inj hprotector]
        exact ⟨decoded, hdecoded, rfl, rfl, rfl⟩
      · obtain ⟨hne, -, hother⟩ := hpending id hid
        exact ⟨hne, fun hsame => hother (Option.some.inj hsame).symm⟩
    | pendingRemoval credential_id hne hlength =>
      refine ⟨fun protector hprotector => (Option.some_ne_none _ hprotector.symm).elim,
        fun id hid => ?_⟩
      rw [← Option.some.inj hid]
      exact ⟨hne, (Option.some_ne_none _).symm⟩

end WindowsHelloLocalState

end Librarian.Agent
