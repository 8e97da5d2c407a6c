import Mathlib.Algebra.Order.BigOperators.Group.List
import Librarian.Lib.Cbor
import Librarian.Protocol.Handshake
import Librarian.Protocol.Wire

/-!
# Response bodies

The encoders of listings, and the envelope that carries a response's body. An encoder writes into a
`SecretWriter` of fixed capacity, whose overflow is a panic; that none of them overflows it is part
of what is proved here.
-/

namespace Librarian.Protocol

/-! ## Limits -/

/-- `MAX_RESPONSE_BODY_BYTES`. -/
def maxResponseBodyBytes : ℕ := maxPayloadBytes - 96

/-- `MAX_PASSKEY_USER_HANDLE_BYTES`. -/
def maxPasskeyUserHandleBytes : ℕ := 64

/-- `MAX_PASSKEY_RP_ID_BYTES`. -/
def maxPasskeyRpIdBytes : ℕ := 253

/-- `MAX_PASSKEY_USER_NAME_BYTES`. -/
def maxPasskeyUserNameBytes : ℕ := 256

/-- `MAX_PASSKEY_CREDENTIALS`. -/
def maxPasskeyCredentials : ℕ := 64

/-! ## Writing -/

/-- `checked_response_body`. -/
def checkedResponseBody (bytes : List UInt8) : Except EncodeFault (List UInt8) :=
  if bytes.length > maxResponseBodyBytes then .error (.returned .tooLarge) else .ok bytes

/-- The loop of an encoder, which writes the items of one value after another. -/
theorem foldlM_writeItems_eq_ok {α : Type} {items : α → List (List UInt8)} {values : List α}
    {written : List UInt8}
    (h : written.length + (values.flatMap fun value => (items value).flatten).length ≤
      maxPayloadBytes) :
    values.foldlM (fun written value => writeItems maxPayloadBytes written (items value)) written =
      .ok (written ++ values.flatMap fun value => (items value).flatten) := by
  induction values generalizing written with
  | nil => simp
  | cons value values ih =>
    rw [List.flatMap_cons, List.length_append] at h
    rw [List.foldlM_cons, writeItems_eq_ok (by omega), Except.ok_bind,
      ih (by rw [List.length_append]; omega), List.append_assoc, List.flatMap_cons]

/-- The loop of an encoder writes nothing but the items. -/
theorem eq_of_foldlM_writeItems {α : Type} {items : α → List (List UInt8)} {values : List α}
    {written bytes : List UInt8}
    (h : values.foldlM (fun written value => writeItems maxPayloadBytes written (items value))
      written = .ok bytes) :
    bytes = written ++ values.flatMap fun value => (items value).flatten := by
  induction values generalizing written with
  | nil =>
    cases h
    simp
  | cons value values ih =>
    rw [List.foldlM_cons] at h
    obtain ⟨next, hnext, hrest⟩ := Except.bind_eq_ok.mp h
    obtain rfl := eq_of_writeItems hnext
    rw [ih hrest, List.append_assoc, List.flatMap_cons]

/-- What the values of a listing take when each takes at most `bound`. -/
theorem length_flatMap_le {α : Type} {encode : α → List UInt8} {values : List α} {bound : ℕ}
    (h : ∀ value ∈ values, (encode value).length ≤ bound) :
    (values.flatMap encode).length ≤ values.length * bound := by
  induction values with
  | nil => simp
  | cons value values ih =>
    have hvalue := h value List.mem_cons_self
    have hrest := ih fun value hmem => h value (List.mem_cons_of_mem _ hmem)
    rw [List.flatMap_cons, List.length_append, List.length_cons, Nat.add_mul, Nat.one_mul]
    omega

/-! ## Account summaries -/

/-- Borrowed account view used to encode a response without cloning plaintext. -/
structure AccountView where
  id : Bytes 16
  revision : UInt64
  created_at_ms : UInt64
  modified_at_ms : UInt64
  service_name : String
  permitted_origin : String
  username : String
  password : String
  deriving DecidableEq

/-- `validate_view_fields`. -/
def validateViewFields (account : AccountView) (include_password : Bool) :
    Except EncodeFault Unit :=
  if account.service_name.utf8ByteSize > maxServiceNameBytes ∨
      account.permitted_origin.utf8ByteSize > maxOriginBytes ∨
      account.username.utf8ByteSize > maxUsernameBytes ∨
      include_password ∧ account.password.utf8ByteSize > maxPasswordBytes then
    .error (.returned .tooLarge)
  else .ok ()

/-- What the estimate of `encode_account_summaries` adds for an account. -/
def AccountView.summaryBound (account : AccountView) : ℕ :=
  54 + account.service_name.utf8ByteSize + account.permitted_origin.utf8ByteSize +
    account.username.utf8ByteSize

/-- The loop of `encode_account_summaries` that estimates the size of the body. -/
def estimateSummary (maximum_encoded : ℕ) (account : AccountView) : Except EncodeFault ℕ := do
  validateViewFields account false
  if maximum_encoded + account.summaryBound ≥ 2 ^ 64 then throw (.returned .tooLarge)
  return maximum_encoded + account.summaryBound

/-- The items of one summary. -/
def AccountView.summaryItems (account : AccountView) : List (List UInt8) :=
  [Cbor.array 7, Cbor.bytes account.id.val, Cbor.unsigned account.revision.toNat,
    Cbor.unsigned account.created_at_ms.toNat, Cbor.unsigned account.modified_at_ms.toNat,
    Cbor.text account.service_name, Cbor.text account.permitted_origin,
    Cbor.text account.username]

/-- The offset of the next page, or null. -/
def encodeNextOffset (next_offset : Option UInt32) : List UInt8 :=
  next_offset.elim Cbor.null fun offset => Cbor.unsigned offset.toNat

/-- `encode_account_summaries`. -/
def encodeAccountSummaries (accounts : List AccountView) (next_offset : Option UInt32) :
    Except EncodeFault (List UInt8) := do
  if accounts.length > maxListPageSize then throw (.returned .tooLarge)
  let maximum_encoded ← accounts.foldlM estimateSummary 8
  if maximum_encoded > maxResponseBodyBytes then throw (.returned .tooLarge)
  let written ← writeItems maxPayloadBytes []
    [Cbor.array 2, encodeNextOffset next_offset, Cbor.array accounts.length]
  let written ← accounts.foldlM (fun written account => writeItems maxPayloadBytes written account.summaryItems)
    written
  checkedResponseBody written

/-- The fields of a view are within their limits, as they are in every stored account. -/
structure AccountView.Bounded (account : AccountView) : Prop where
  service_name : account.service_name.utf8ByteSize ≤ maxServiceNameBytes
  permitted_origin : account.permitted_origin.utf8ByteSize ≤ maxOriginBytes
  username : account.username.utf8ByteSize ≤ maxUsernameBytes

/-- The estimate for a listing. -/
def summariesBound (accounts : List AccountView) : ℕ :=
  8 + (accounts.map AccountView.summaryBound).sum

/-- The body of a listing. -/
def accountSummariesBody (accounts : List AccountView) (next_offset : Option UInt32) :
    List UInt8 :=
  Cbor.array 2 ++ encodeNextOffset next_offset ++ Cbor.array accounts.length ++
    accounts.flatMap fun account => account.summaryItems.flatten

namespace AccountView.Bounded

variable {account : AccountView} (h : account.Bounded)
include h

theorem summaryBound_le : account.summaryBound ≤ 3382 := by
  obtain ⟨hservice, horigin, husername⟩ := h
  unfold maxServiceNameBytes at hservice
  unfold maxOriginBytes at horigin
  unfold maxUsernameBytes at husername
  unfold summaryBound
  omega

theorem validateViewFields : validateViewFields account false = .ok () := by
  obtain ⟨hservice, horigin, husername⟩ := h
  rw [Protocol.validateViewFields, if_neg]
  simp only [not_or, not_lt, Bool.false_eq_true, false_and, not_false_eq_true, and_true]
  exact ⟨hservice, horigin, husername⟩

/-- The estimate covers a summary. -/
theorem summaryItems_length_le : account.summaryItems.flatten.length ≤ account.summaryBound := by
  obtain ⟨hservice, horigin, husername⟩ := h
  unfold maxServiceNameBytes at hservice
  unfold maxOriginBytes at horigin
  unfold maxUsernameBytes at husername
  have harray : (Cbor.array 7).length = 1 := Cbor.head_length_eq_one (by norm_num)
  have hid : (Cbor.bytes account.id.val).length = 17 := by
    rw [Cbor.bytes_length, account.id.property, Cbor.head_length_eq_one (by norm_num)]
  have hrevision : (Cbor.unsigned account.revision.toNat).length ≤ 9 := Cbor.head_length_le 0 _
  have hcreated : (Cbor.unsigned account.created_at_ms.toNat).length ≤ 9 :=
    Cbor.head_length_le 0 _
  have hmodified : (Cbor.unsigned account.modified_at_ms.toNat).length ≤ 9 :=
    Cbor.head_length_le 0 _
  have h1 : (Cbor.head 3 account.service_name.utf8ByteSize).length ≤ 3 :=
    Cbor.head_length_le_three (by omega)
  have h2 : (Cbor.head 3 account.permitted_origin.utf8ByteSize).length ≤ 3 :=
    Cbor.head_length_le_three (by omega)
  have h3 : (Cbor.head 3 account.username.utf8ByteSize).length ≤ 3 :=
    Cbor.head_length_le_three (by omega)
  simp only [summaryItems, summaryBound, List.flatten_cons, List.flatten_nil, List.length_append,
    List.length_nil, harray, hid, Cbor.text_length]
  omega

end AccountView.Bounded

section

variable {accounts : List AccountView} (hbounded : ∀ account ∈ accounts, account.Bounded)
include hbounded

theorem sum_summaryBound_le : (accounts.map AccountView.summaryBound).sum ≤
    accounts.length * 3382 := by
  have h := List.sum_le_card_nsmul (accounts.map AccountView.summaryBound) 3382 (by
    simpa using fun account hmem => (hbounded account hmem).summaryBound_le)
  simpa using h

/-- The loop computes the estimate. -/
theorem foldlM_estimateSummary (maximum_encoded : ℕ)
    (h : maximum_encoded + (accounts.map AccountView.summaryBound).sum < 2 ^ 64) :
    accounts.foldlM estimateSummary maximum_encoded =
      .ok (maximum_encoded + (accounts.map AccountView.summaryBound).sum) := by
  induction accounts generalizing maximum_encoded with
  | nil => simp
  | cons account accounts ih =>
    rw [List.map_cons, List.sum_cons] at h ⊢
    have hvalid := (hbounded account List.mem_cons_self).validateViewFields
    have hfits : ¬maximum_encoded + account.summaryBound ≥ 2 ^ 64 := by omega
    have hstep : estimateSummary maximum_encoded account =
        .ok (maximum_encoded + account.summaryBound) := by
      rw [estimateSummary, hvalid, Except.ok_bind, if_neg hfits]
      rfl
    rw [List.foldlM_cons, hstep, Except.ok_bind,
      ih (fun account hmem => hbounded account (List.mem_cons_of_mem _ hmem)) _ (by omega),
      Nat.add_assoc]

/-- The estimate covers the body. -/
theorem accountSummariesBody_length_le (hlength : accounts.length ≤ maxListPageSize)
    (next_offset : Option UInt32) :
    (accountSummariesBody accounts next_offset).length ≤ summariesBound accounts := by
  unfold maxListPageSize at hlength
  have harray : (Cbor.array 2).length = 1 := Cbor.head_length_eq_one (by norm_num)
  have hcount : (Cbor.array accounts.length).length ≤ 2 := Cbor.head_length_le_two (by omega)
  have hnext : (encodeNextOffset next_offset).length ≤ 5 := by
    cases next_offset with
    | none => simp [encodeNextOffset, Cbor.null]
    | some offset =>
      have hlt := offset.toNat_lt
      exact Cbor.head_length_le_five (by omega)
  have hsummaries : (accounts.flatMap fun account => account.summaryItems.flatten).length ≤
      (accounts.map AccountView.summaryBound).sum := by
    rw [List.length_flatMap]
    exact List.sum_le_sum fun account hmem => (hbounded account hmem).summaryItems_length_le
  simp only [accountSummariesBody, summariesBound, List.length_append]
  omega

/-- A page is accepted when the estimate is within the limit, and is too large otherwise. What the
next offset is makes no difference. -/
theorem encodeAccountSummaries_eq (hlength : accounts.length ≤ maxListPageSize)
    (next_offset : Option UInt32) :
    encodeAccountSummaries accounts next_offset =
      if summariesBound accounts ≤ maxResponseBodyBytes then
        .ok (accountSummariesBody accounts next_offset)
      else .error (.returned .tooLarge) := by
  have hbody := accountSummariesBody_length_le hbounded hlength next_offset
  have hsum := sum_summaryBound_le hbounded
  have hcount : ¬accounts.length > maxListPageSize := by omega
  unfold maxListPageSize at hlength
  have hestimate := foldlM_estimateSummary hbounded 8 (by omega)
  have hmax : maxResponseBodyBytes + 96 = maxPayloadBytes := rfl
  unfold encodeAccountSummaries
  simp only [hcount, if_false, hestimate, Except.ok_bind]
  by_cases hfits : summariesBound accounts ≤ maxResponseBodyBytes
  · have hsmall : ¬8 + (accounts.map AccountView.summaryBound).sum > maxResponseBodyBytes :=
      not_lt.mpr hfits
    have hchecked : ¬(accountSummariesBody accounts next_offset).length > maxResponseBodyBytes := by
      omega
    unfold accountSummariesBody at hbody hchecked ⊢
    simp only [List.length_append] at hbody
    rw [if_pos hfits, if_neg hsmall, writeItems_eq_ok, Except.ok_bind, foldlM_writeItems_eq_ok,
      Except.ok_bind, checkedResponseBody]
    · simp only [List.nil_append, List.flatten_cons, List.flatten_nil, List.append_nil,
        ← List.append_assoc]
      rw [if_neg hchecked]
    · simp only [List.nil_append, List.flatten_cons, List.flatten_nil, List.append_nil,
        List.length_append]
      omega
    · simp only [List.length_nil, List.flatten_cons, List.flatten_nil, List.append_nil,
        List.length_append]
      omega
  · have hlarge : 8 + (accounts.map AccountView.summaryBound).sum > maxResponseBodyBytes :=
      not_le.mp hfits
    rw [if_neg hfits, if_pos hlarge, Except.throw_eq, Except.error_bind]

end

/-- The estimate checks every account. -/
theorem bounded_of_foldlM_estimateSummary {accounts : List AccountView}
    {maximum_encoded result : ℕ}
    (h : accounts.foldlM estimateSummary maximum_encoded = .ok result) :
    ∀ account ∈ accounts, account.Bounded := by
  induction accounts generalizing maximum_encoded with
  | nil => exact fun _ hmem => nomatch hmem
  | cons account accounts ih =>
    rw [List.foldlM_cons] at h
    obtain ⟨next, hnext, hrest⟩ := Except.bind_eq_ok.mp h
    obtain ⟨u, hfields, -⟩ := Except.bind_eq_ok.mp hnext
    obtain ⟨hbounded, -⟩ := Except.ite_error_eq_ok.mp hfields
    simp only [not_or, not_lt] at hbounded
    intro other hmem
    rcases List.mem_cons.mp hmem with rfl | hmem
    · exact ⟨hbounded.1, hbounded.2.1, hbounded.2.2.1⟩
    · exact ih hrest other hmem

/-- What a page that is encoded looks like. -/
theorem of_encodeAccountSummaries {accounts : List AccountView} {next_offset : Option UInt32}
    {body : List UInt8} (h : encodeAccountSummaries accounts next_offset = .ok body) :
    accounts.length ≤ maxListPageSize ∧ (∀ account ∈ accounts, account.Bounded) ∧
      body = accountSummariesBody accounts next_offset := by
  have hlength : ¬accounts.length > maxListPageSize := by
    intro hlarge
    unfold encodeAccountSummaries at h
    simp [hlarge] at h
  have hbounded : ∀ account ∈ accounts, account.Bounded := by
    unfold encodeAccountSummaries at h
    rw [if_neg hlength] at h
    obtain ⟨estimate, hestimate, -⟩ := Except.bind_eq_ok.mp h
    exact bounded_of_foldlM_estimateSummary hestimate
  rw [encodeAccountSummaries_eq hbounded (not_lt.mp hlength)] at h
  split_ifs at h
  cases h
  exact ⟨not_lt.mp hlength, hbounded, rfl⟩

/-! ## Passkey summaries -/

/-- Public metadata for one credential eligible for an assertion request. -/
structure PasskeySummaryView where
  credential_id : Bytes 32
  user_handle : List UInt8
  user_name : String
  user_display_name : String
  deriving DecidableEq

/-- Public passkey metadata exposed only to the authorized desktop management surface. -/
structure PasskeyManagementSummaryView where
  credential_id : Bytes 32
  rp_id : String
  user_name : String
  user_display_name : String
  deriving DecidableEq

/-- One round of the loop that both passkey listings run: the entry's checks, then its items. -/
def writePasskey {α : Type} (invalid : α → Bool) (items : α → List (List UInt8))
    (written : List UInt8) (passkey : α) : Except EncodeFault (List UInt8) := do
  if invalid passkey then throw (.returned .invariantViolation)
  writeItems maxPayloadBytes written (items passkey)

/-- The two passkey listings, which differ in the fields of an entry. -/
def encodePasskeyListing {α : Type} (invalid : α → Bool) (items : α → List (List UInt8))
    (passkeys : List α) : Except EncodeFault (List UInt8) := do
  if passkeys.length > maxPasskeyCredentials then throw (.returned .tooLarge)
  let written ← writeItems maxPayloadBytes [] [Cbor.array passkeys.length]
  let written ← passkeys.foldlM (writePasskey invalid items) written
  checkedResponseBody written

/-- The checks of `encode_passkey_summaries` on an entry. -/
def PasskeySummaryView.invalid (passkey : PasskeySummaryView) : Bool :=
  passkey.credential_id.isZero ∨ passkey.user_handle = [] ∨
    passkey.user_handle.length > maxPasskeyUserHandleBytes ∨ passkey.user_name = "" ∨
    passkey.user_name.utf8ByteSize > maxPasskeyUserNameBytes ∨ passkey.user_display_name = "" ∨
    passkey.user_display_name.utf8ByteSize > maxPasskeyUserNameBytes

/-- The items of an entry of `encode_passkey_summaries`. -/
def PasskeySummaryView.items (passkey : PasskeySummaryView) : List (List UInt8) :=
  [Cbor.array 4, Cbor.bytes passkey.credential_id.val, Cbor.bytes passkey.user_handle,
    Cbor.text passkey.user_name, Cbor.text passkey.user_display_name]

/-- `encode_passkey_summaries`. -/
def encodePasskeySummaries (passkeys : List PasskeySummaryView) :
    Except EncodeFault (List UInt8) :=
  encodePasskeyListing PasskeySummaryView.invalid PasskeySummaryView.items passkeys

/-- The checks of `encode_passkey_management_summaries` on an entry. -/
def PasskeyManagementSummaryView.invalid (passkey : PasskeyManagementSummaryView) : Bool :=
  passkey.credential_id.isZero ∨ passkey.rp_id = "" ∨
    passkey.rp_id.utf8ByteSize > maxPasskeyRpIdBytes ∨ passkey.user_name = "" ∨
    passkey.user_name.utf8ByteSize > maxPasskeyUserNameBytes ∨ passkey.user_display_name = "" ∨
    passkey.user_display_name.utf8ByteSize > maxPasskeyUserNameBytes

/-- The items of an entry of `encode_passkey_management_summaries`. -/
def PasskeyManagementSummaryView.items (passkey : PasskeyManagementSummaryView) :
    List (List UInt8) :=
  [Cbor.array 4, Cbor.bytes passkey.credential_id.val, Cbor.text passkey.rp_id,
    Cbor.text passkey.user_name, Cbor.text passkey.user_display_name]

/-- `encode_passkey_management_summaries`. -/
def encodePasskeyManagementSummaries (passkeys : List PasskeyManagementSummaryView) :
    Except EncodeFault (List UInt8) :=
  encodePasskeyListing PasskeyManagementSummaryView.invalid PasskeyManagementSummaryView.items
    passkeys

/-- The largest entry of a listing that can fill up: 64 of them and the head of the array fit the
body of a response. -/
def passkeyEntryBound : ℕ := 1022

/-- The loop writes the entries when all pass their checks. -/
theorem foldlM_writePasskey_eq {α : Type} {invalid : α → Bool} {items : α → List (List UInt8)}
    {passkeys : List α} (hvalid : ∀ passkey ∈ passkeys, invalid passkey = false)
    (written : List UInt8) :
    passkeys.foldlM (writePasskey invalid items) written =
      passkeys.foldlM (fun written passkey => writeItems maxPayloadBytes written (items passkey)) written := by
  induction passkeys generalizing written with
  | nil => rfl
  | cons passkey passkeys ih =>
    have hstep : writePasskey invalid items written passkey =
        writeItems maxPayloadBytes written (items passkey) := by
      simp [writePasskey, hvalid passkey List.mem_cons_self]
    rw [List.foldlM_cons, List.foldlM_cons, hstep]
    exact congrArg _ (funext fun written =>
      ih (fun passkey hmem => hvalid passkey (List.mem_cons_of_mem _ hmem)) written)

/-- A listing of valid entries is encoded, within the limit of a response's body and therefore
within the capacity of the writer. -/
theorem encodePasskeyListing_eq_ok {α : Type} {invalid : α → Bool}
    {items : α → List (List UInt8)} {passkeys : List α}
    (hlength : passkeys.length ≤ maxPasskeyCredentials)
    (hvalid : ∀ passkey ∈ passkeys, invalid passkey = false)
    (hitems : ∀ passkey, invalid passkey = false →
      (items passkey).flatten.length ≤ passkeyEntryBound) :
    ∃ body, encodePasskeyListing invalid items passkeys = .ok body ∧
      body.length ≤ maxResponseBodyBytes := by
  have hcount : ¬passkeys.length > maxPasskeyCredentials := by omega
  have hmax : maxResponseBodyBytes + 96 = maxPayloadBytes := rfl
  have hlimit : maxPasskeyCredentials * passkeyEntryBound + 2 ≤ maxResponseBodyBytes := by decide
  have hentries : (passkeys.flatMap fun passkey => (items passkey).flatten).length ≤
      passkeys.length * passkeyEntryBound :=
    length_flatMap_le fun passkey hmem => hitems passkey (hvalid passkey hmem)
  have htotal : passkeys.length * passkeyEntryBound ≤ maxPasskeyCredentials * passkeyEntryBound :=
    Nat.mul_le_mul_right _ hlength
  have hhead : (Cbor.array passkeys.length).length ≤ 2 := by
    unfold maxPasskeyCredentials at hlength
    exact Cbor.head_length_le_two (by omega)
  have hbody : (Cbor.array passkeys.length ++
      passkeys.flatMap fun passkey => (items passkey).flatten).length ≤ maxResponseBodyBytes := by
    rw [List.length_append]
    omega
  refine ⟨_, ?_, hbody⟩
  rw [List.length_append] at hbody
  unfold encodePasskeyListing
  simp only [hcount, if_false]
  rw [writeItems_eq_ok, Except.ok_bind, foldlM_writePasskey_eq hvalid, foldlM_writeItems_eq_ok,
    Except.ok_bind, checkedResponseBody, if_neg]
  · simp
  · simp only [List.nil_append, List.flatten_cons, List.flatten_nil, List.append_nil,
      List.length_append]
    omega
  · simp only [List.nil_append, List.flatten_cons, List.flatten_nil, List.append_nil]
    omega
  · simp only [List.length_nil, List.flatten_cons, List.flatten_nil, List.append_nil]
    omega

/-- A listing is encoded only when all entries pass their checks. -/
theorem valid_of_foldlM_writePasskey {α : Type} {invalid : α → Bool}
    {items : α → List (List UInt8)} {passkeys : List α} {written bytes : List UInt8}
    (h : passkeys.foldlM (writePasskey invalid items) written = .ok bytes) :
    ∀ passkey ∈ passkeys, invalid passkey = false := by
  induction passkeys generalizing written with
  | nil => exact fun _ hmem => nomatch hmem
  | cons passkey passkeys ih =>
    rw [List.foldlM_cons] at h
    obtain ⟨next, hnext, hrest⟩ := Except.bind_eq_ok.mp h
    have hvalid : invalid passkey = false := by
      cases hinvalid : invalid passkey with
      | false => rfl
      | true => simp [writePasskey, hinvalid] at hnext
    intro other hmem
    rcases List.mem_cons.mp hmem with rfl | hmem
    · exact hvalid
    · exact ih hrest other hmem

/-- What a listing that is encoded looks like. -/
theorem of_encodePasskeyListing {α : Type} {invalid : α → Bool} {items : α → List (List UInt8)}
    {passkeys : List α} {body : List UInt8}
    (h : encodePasskeyListing invalid items passkeys = .ok body) :
    passkeys.length ≤ maxPasskeyCredentials ∧ (∀ passkey ∈ passkeys, invalid passkey = false) ∧
      body = Cbor.array passkeys.length ++ passkeys.flatMap fun passkey => (items passkey).flatten := by
  have hlength : ¬passkeys.length > maxPasskeyCredentials := by
    intro hlarge
    unfold encodePasskeyListing at h
    simp [hlarge] at h
  unfold encodePasskeyListing at h
  rw [if_neg hlength] at h
  obtain ⟨head, hhead, h⟩ := Except.bind_eq_ok.mp h
  obtain ⟨written, hwritten, h⟩ := Except.bind_eq_ok.mp h
  obtain ⟨-, hsame⟩ := Except.ite_error_eq_ok.mp h
  cases hsame
  have hvalid := valid_of_foldlM_writePasskey hwritten
  obtain rfl := eq_of_writeItems hhead
  rw [foldlM_writePasskey_eq hvalid] at hwritten
  refine ⟨not_lt.mp hlength, hvalid, ?_⟩
  rw [eq_of_foldlM_writeItems hwritten]
  simp

theorem PasskeySummaryView.items_length_le (passkey : PasskeySummaryView)
    (h : passkey.invalid = false) : passkey.items.flatten.length ≤ passkeyEntryBound := by
  simp only [invalid, decide_eq_false_iff_not, not_or, not_lt] at h
  obtain ⟨-, -, hhandle, -, hname, -, hdisplay⟩ := h
  unfold maxPasskeyUserHandleBytes at hhandle
  unfold maxPasskeyUserNameBytes at hname hdisplay
  have harray : (Cbor.array 4).length = 1 := Cbor.head_length_eq_one (by norm_num)
  have hid : (Cbor.head 2 passkey.credential_id.val.length).length ≤ 9 := Cbor.head_length_le 2 _
  have h1 := Cbor.head_length_le 2 passkey.user_handle.length
  have h2 := Cbor.head_length_le 3 passkey.user_name.utf8ByteSize
  have h3 := Cbor.head_length_le 3 passkey.user_display_name.utf8ByteSize
  have hsize := passkey.credential_id.property
  simp only [items, passkeyEntryBound, List.flatten_cons, List.flatten_nil, List.length_append,
    List.length_nil, harray, Cbor.bytes_length, Cbor.text_length]
  omega

theorem PasskeyManagementSummaryView.items_length_le (passkey : PasskeyManagementSummaryView)
    (h : passkey.invalid = false) : passkey.items.flatten.length ≤ passkeyEntryBound := by
  simp only [invalid, decide_eq_false_iff_not, not_or, not_lt] at h
  obtain ⟨-, -, hrp, -, hname, -, hdisplay⟩ := h
  unfold maxPasskeyRpIdBytes at hrp
  unfold maxPasskeyUserNameBytes at hname hdisplay
  have harray : (Cbor.array 4).length = 1 := Cbor.head_length_eq_one (by norm_num)
  have hid : (Cbor.head 2 passkey.credential_id.val.length).length ≤ 9 := Cbor.head_length_le 2 _
  have h1 := Cbor.head_length_le 3 passkey.rp_id.utf8ByteSize
  have h2 := Cbor.head_length_le 3 passkey.user_name.utf8ByteSize
  have h3 := Cbor.head_length_le 3 passkey.user_display_name.utf8ByteSize
  have hsize := passkey.credential_id.property
  simp only [items, passkeyEntryBound, List.flatten_cons, List.flatten_nil, List.length_append,
    List.length_nil, harray, Cbor.bytes_length, Cbor.text_length]
  omega

/-- Up to 64 valid summaries are encoded. -/
theorem encodePasskeySummaries_eq_ok {passkeys : List PasskeySummaryView}
    (hlength : passkeys.length ≤ maxPasskeyCredentials)
    (hvalid : ∀ passkey ∈ passkeys, passkey.invalid = false) :
    ∃ body, encodePasskeySummaries passkeys = .ok body ∧ body.length ≤ maxResponseBodyBytes :=
  encodePasskeyListing_eq_ok hlength hvalid PasskeySummaryView.items_length_le

/-- Up to 64 valid management summaries are encoded. -/
theorem encodePasskeyManagementSummaries_eq_ok {passkeys : List PasskeyManagementSummaryView}
    (hlength : passkeys.length ≤ maxPasskeyCredentials)
    (hvalid : ∀ passkey ∈ passkeys, passkey.invalid = false) :
    ∃ body, encodePasskeyManagementSummaries passkeys = .ok body ∧
      body.length ≤ maxResponseBodyBytes :=
  encodePasskeyListing_eq_ok hlength hvalid PasskeyManagementSummaryView.items_length_le

/-! ## One passkey -/

/-- `MAX_PASSKEY_ASSERTION_SIGNATURE_BYTES`. -/
def maxPasskeyAssertionSignatureBytes : ℕ := 80

/-- Public material of a new passkey. -/
structure PasskeyCredentialView where
  credential_id : Bytes 32
  user_handle : List UInt8
  public_key : Bytes 65
  deriving DecidableEq

/-- The checks of `encode_passkey_credential`. -/
def PasskeyCredentialView.invalid (credential : PasskeyCredentialView) : Bool :=
  credential.credential_id.isZero ∨ credential.user_handle = [] ∨
    credential.user_handle.length > maxPasskeyUserHandleBytes ∨
    credential.public_key.val.head? ≠ some 0x04

/-- The items of `encode_passkey_credential`. -/
def PasskeyCredentialView.items (credential : PasskeyCredentialView) : List (List UInt8) :=
  [Cbor.array 3, Cbor.bytes credential.credential_id.val, Cbor.bytes credential.user_handle,
    Cbor.bytes credential.public_key.val]

/-- `encode_passkey_credential`. -/
def encodePasskeyCredential (credential : PasskeyCredentialView) :
    Except EncodeFault (List UInt8) := do
  if credential.invalid then throw (.returned .invariantViolation)
  let written ← writeItems maxPayloadBytes [] credential.items
  checkedResponseBody written

/-- An assertion. -/
structure PasskeyAssertionView where
  credential_id : Bytes 32
  user_handle : List UInt8
  authenticator_data : Bytes 37
  signature_der : List UInt8
  deriving DecidableEq

/-- The checks of `encode_passkey_assertion`. -/
def PasskeyAssertionView.invalid (assertion : PasskeyAssertionView) : Bool :=
  assertion.credential_id.isZero ∨ assertion.user_handle = [] ∨
    assertion.user_handle.length > maxPasskeyUserHandleBytes ∨ assertion.signature_der = [] ∨
    assertion.signature_der.length > maxPasskeyAssertionSignatureBytes

/-- The items of `encode_passkey_assertion`. -/
def PasskeyAssertionView.items (assertion : PasskeyAssertionView) : List (List UInt8) :=
  [Cbor.array 4, Cbor.bytes assertion.credential_id.val, Cbor.bytes assertion.user_handle,
    Cbor.bytes assertion.authenticator_data.val, Cbor.bytes assertion.signature_der]

/-- `encode_passkey_assertion`. -/
def encodePasskeyAssertion (assertion : PasskeyAssertionView) :
    Except EncodeFault (List UInt8) := do
  if assertion.invalid then throw (.returned .invariantViolation)
  let written ← writeItems maxPayloadBytes [] assertion.items
  checkedResponseBody written

/-- What an encoder with a check and one sequence of items has encoded. -/
theorem of_encodeItems {invalid : Bool} {items : List (List UInt8)} {body : List UInt8}
    (h : (do
      if invalid then throw (.returned .invariantViolation)
      let written ← writeItems maxPayloadBytes [] items
      checkedResponseBody written : Except EncodeFault (List UInt8)) = .ok body) :
    invalid = false ∧ body = items.flatten := by
  simp only [Except.throw_eq, Except.error_bind, Except.bind_eq_ok, Except.ite_error_eq_ok,
    Bool.not_eq_true] at h
  obtain ⟨hvalid, written, hwritten, hbody⟩ := h
  obtain ⟨-, hbody⟩ := Except.ite_error_eq_ok.mp hbody
  rw [← Except.ok.inj hbody]
  exact ⟨hvalid, eq_of_writeItems hwritten⟩

/-! ## The envelope -/

/-- The fields of a response, before validation. -/
structure ResponseFields where
  error : Option PublicErrorCode
  retry : RetryCategory
  correlation_id : Bytes 16
  body : List UInt8
  deriving DecidableEq

/-- The check of `ResponseEnvelope::new`. -/
def ResponseFields.invalid (response : ResponseFields) : Bool :=
  response.body.length > maxResponseBodyBytes ∨
    response.error.isSome ∧ response.body ≠ [] ∨
    response.error.isNone ∧ response.retry ≠ .never ∨
    response.correlation_id.isZero

/-- Terminal response envelope. -/
structure ResponseEnvelope extends ResponseFields where
  /-- The constructor has validated the fields. -/
  validated : toResponseFields.invalid = false
  deriving DecidableEq

namespace ResponseEnvelope

/-- `ResponseEnvelope::new`. -/
def new (response : ResponseFields) : Except ProtocolError ResponseEnvelope :=
  if h : response.invalid = false then .ok ⟨response, h⟩ else .error .invariantViolation

/-- `ResponseEnvelope::success`. -/
def success (correlation_id : Bytes 16) (body : List UInt8) :
    Except ProtocolError ResponseEnvelope :=
  new ⟨none, .never, correlation_id, body⟩

/-- `ResponseEnvelope::failure`. -/
def failure (error : PublicErrorCode) (retry : RetryCategory) (correlation_id : Bytes 16) :
    Except ProtocolError ResponseEnvelope :=
  new ⟨some error, retry, correlation_id, []⟩

/-- `encoded_byte_string_len`. -/
def encodedByteStringLen (length : ℕ) : ℕ :=
  (if length < 24 then 1
    else if length ≤ 0xff then 2
    else if length ≤ 0xffff then 3
    else if length ≤ 0xffffffff then 5
    else 9) + length

/-- `ResponseEnvelope::encoded_len`. -/
def encodedLen (response : ResponseEnvelope) : ℕ := 20 + encodedByteStringLen response.body.length

/-- A body within its limit makes a response, whatever the correlation id, unless that is zero. -/
theorem success_eq_ok {correlation_id : Bytes 16} {body : List UInt8}
    (hbody : body.length ≤ maxResponseBodyBytes) (hid : correlation_id.isZero = false) :
    ∃ response, success correlation_id body = .ok response ∧ response.body = body := by
  have hvalid : (⟨none, .never, correlation_id, body⟩ : ResponseFields).invalid = false := by
    simp [ResponseFields.invalid, hid, hbody]
  exact ⟨⟨_, hvalid⟩, dif_pos hvalid, rfl⟩

/-- Every response fits the largest payload. -/
theorem encodedLen_le (response : ResponseEnvelope) : response.encodedLen ≤ maxPayloadBytes := by
  have hvalid := response.validated
  simp only [ResponseFields.invalid, decide_eq_false_iff_not, not_or, not_lt] at hvalid
  have hbody := hvalid.1
  unfold maxResponseBodyBytes maxPayloadBytes at hbody
  unfold encodedLen encodedByteStringLen maxPayloadBytes
  split_ifs <;> omega

end ResponseEnvelope

/-- `ConnectionLimits::default`. -/
def ConnectionLimits.default : ConnectionLimits where
  maximum_payload_bytes := UInt32.ofNat maxPayloadBytes
  maximum_in_flight := UInt8.ofNat maxInFlightPerConnection
  payload_bounded := by decide
  in_flight_bounded := by decide

/-- `Connection::response_fits`, on the connection's limits. -/
def ConnectionLimits.responseFits (limits : ConnectionLimits) (response : ResponseEnvelope) : Bool :=
  response.encodedLen ≤ limits.maximum_payload_bytes.toNat

/-- Every response fits the default limits. -/
theorem ConnectionLimits.default_responseFits (response : ResponseEnvelope) :
    ConnectionLimits.default.responseFits response := by
  have hle := response.encodedLen_le
  exact decide_eq_true hle

end Librarian.Protocol
