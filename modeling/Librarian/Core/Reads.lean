import Librarian.Core.Session
import Mathlib.Data.Prod.Lex

/-!
# Reading records

The read operations of `UnlockedVault`. Each authenticates the whole snapshot while it folds its own
accumulator over the decrypted records, and looks at the accumulator only afterwards.
-/

namespace Librarian.Core

open Librarian.Format

/-- `MAX_WEBSITE_ACCOUNT_PAGE_SIZE`. -/
def maxWebsiteAccountPageSize : ℕ := 100

/-- `MAX_PASSKEY_ASSERTION_CANDIDATES`. -/
def maxPasskeyAssertionCandidates : ℕ := 64

/-- `MAX_PASSKEY_CREDENTIALS`. -/
def maxPasskeyCredentials : ℕ := 64

/-- A canonical HTTPS origin, independently parsed at the agent boundary. -/
structure BrowserOrigin (P : Primitives) where
  value : String
  /-- The checks of `BrowserOrigin::parse`. -/
  parsed : value.utf8ByteSize ≤ maxOriginBytes ∧
    ∃ url, P.parseUrl value = some url ∧ url.scheme = "https" ∧ url.origin = value

/-- `BrowserOrigin::parse`. -/
def BrowserOrigin.parse (P : Primitives) (value : String) : Option (BrowserOrigin P) :=
  if hsize : value.utf8ByteSize > maxOriginBytes then none
  else
    match hurl : P.parseUrl value with
    | none => none
    | some url =>
      if h : url.scheme = "https" ∧ url.origin = value then
        some ⟨value, not_lt.mp hsize, url, hurl, h⟩
      else none

/-- Public metadata for one vault-backed passkey. -/
structure PasskeySummary where
  credential_id : Bytes 32
  rp_id : String
  user_handle : List UInt8
  user_name : String
  user_display_name : String
  deriving DecidableEq

/-- The public metadata of a passkey record. -/
def PasskeyRecord.summary (passkey : PasskeyRecord) : PasskeySummary where
  credential_id := passkey.credential_id
  rp_id := passkey.rp_id
  user_handle := passkey.user_handle
  user_name := passkey.user_name
  user_display_name := passkey.user_display_name

section

variable (P : Primitives) (vault : UnlockedVault) (snapshot : Snapshot)

/-! ## Website accounts -/

/-- The callback of `list_website_accounts`. -/
def pushAccount (accounts : List WebsiteAccount) (record : DecryptedRecord) :
    List WebsiteAccount :=
  match record with
  | .websiteAccount account => accounts ++ [account]
  | .passkey _ => accounts

/-- `list_website_accounts`. -/
def listWebsiteAccounts : Except RecordOperationError (List WebsiteAccount) :=
  visitSnapshot P vault snapshot (fun _ => false) pushAccount []

/-- The accumulator of `list_website_account_page`. -/
structure PageState where
  index : ℕ
  accounts : List WebsiteAccount
  has_more : Bool

/-- `saturating_add(1)` on a `usize`. -/
def saturatingSucc (n : ℕ) : ℕ := min (n + 1) (2 ^ 64 - 1)

/-- The callback of `list_website_account_page`. -/
def pushPage (offset stop : ℕ) (state : PageState) (record : DecryptedRecord) : PageState :=
  match record with
  | .websiteAccount account =>
    { index := saturatingSucc state.index
      accounts :=
        if state.index ≥ offset ∧ state.index < stop then state.accounts ++ [account]
        else state.accounts
      has_more :=
        if state.index ≥ offset ∧ state.index < stop then state.has_more
        else if state.index ≥ stop then true
        else state.has_more }
  | .passkey _ => state

/-- `list_website_account_page_with_check`. -/
def listWebsiteAccountPage (offset limit : ℕ) (should_cancel : ℕ → Bool) :
    Except RecordOperationError (List WebsiteAccount × Bool) := do
  if limit = 0 ∨ limit > maxWebsiteAccountPageSize then throw .failed
  authenticateSnapshotMetadata P vault snapshot.header snapshot.manifest_envelope
  if offset + limit ≥ 2 ^ 64 then throw .failed
  let state ← (visitAuthenticatedRecords P vault snapshot.records should_cancel
    (pushPage offset (offset + limit)) ⟨0, [], false⟩).mapErr mapSnapshotOperationError
  return (state.accounts, state.has_more)

/-- The callback of `get_website_account`. -/
def findAccount (id : RecordId) (found : Option WebsiteAccount) (record : DecryptedRecord) :
    Option WebsiteAccount :=
  match record with
  | .websiteAccount account => if account.id = id then some account else found
  | .passkey _ => found

/-- `get_website_account_with_check`. -/
def getWebsiteAccount (id : RecordId) (should_cancel : ℕ → Bool) :
    Except RecordOperationError WebsiteAccount := do
  let found ← visitSnapshot P vault snapshot should_cancel (findAccount id) none
  found.okOr .notFound

/-- The callback of `unique_browser_account`, on the account found so far and whether there have
been several. -/
def findUnique (origin : String) (state : Option WebsiteAccount × Bool)
    (record : DecryptedRecord) : Option WebsiteAccount × Bool :=
  match record with
  | .websiteAccount account =>
    if account.permitted_origin = origin ∧ state.2 = false then
      if state.1.isSome then (none, true) else (some account, false)
    else state
  | .passkey _ => state

/-- `unique_browser_account_with_check`. -/
def uniqueBrowserAccount (origin : BrowserOrigin P) (should_cancel : ℕ → Bool) :
    Except RecordOperationError (Option WebsiteAccount) := do
  let (found, _) ← visitSnapshot P vault snapshot should_cancel (findUnique origin.value)
    (none, false)
  return found

/-! ## Passkeys

The callbacks below keep the set of credential ids that they have seen, as the list of its elements,
and turn `invalid` on at a repetition. -/

/-- The accumulator of the operations that collect passkeys. -/
structure CollectState (α : Type) where
  credential_ids : List (Bytes 32)
  collected : List α
  invalid : Bool

/-- The callback shared by the three collecting operations: a repeated credential id or one element
too many is invalid; other selected passkeys are collected. -/
def collectPasskey {α : Type} (selected : PasskeyRecord → Bool) (limit : ℕ)
    (project : PasskeyRecord → α) (state : CollectState α) (record : DecryptedRecord) :
    CollectState α :=
  match record with
  | .websiteAccount _ => state
  | .passkey passkey =>
    if passkey.credential_id ∈ state.credential_ids then { state with invalid := true }
    else
      let credential_ids := passkey.credential_id :: state.credential_ids
      if selected passkey then
        if state.collected.length ≥ limit then
          { state with credential_ids := credential_ids, invalid := true }
        else
          { state with
            credential_ids := credential_ids
            collected := state.collected ++ [project passkey] }
      else { state with credential_ids := credential_ids }

/-- `list_pending_passkey_credential_ids_with_check`. -/
def listPendingPasskeyCredentialIds (should_cancel : ℕ → Bool) :
    Except RecordOperationError (List (Bytes 32)) := do
  let state ← visitSnapshot P vault snapshot should_cancel
    (collectPasskey (fun passkey => passkey.creation_state = .pending) maxPasskeyCredentials
      PasskeyRecord.credential_id) ⟨[], [], false⟩
  if state.invalid then throw .failed
  return state.collected.insertionSort (· ≤ ·)

/-- Whether a passkey matches an assertion request. -/
def matchesAssertion (rp_id : String) (allowed : Option (List (Bytes 32)))
    (passkey : PasskeyRecord) : Bool :=
  passkey.creation_state = .confirmed ∧ passkey.rp_id = rp_id ∧
    (allowed = none ∨ passkey.credential_id ∈ allowed.getD [])

/-- `list_passkeys_for_assertion_with_check`. The input is checked before the snapshot. -/
def listPasskeysForAssertion (rp_id : String) (allowed : Option (List (Bytes 32)))
    (should_cancel : ℕ → Bool) : Except RecordOperationError (List PasskeySummary) := do
  if (allowed.getD []).length > maxPasskeyAssertionCandidates then throw .conflict
  let expected_rp_id ← (normalizeRpId P rp_id).mapErr fun _ => .conflict
  if expected_rp_id ≠ rp_id then throw .conflict
  let state ← visitSnapshot P vault snapshot should_cancel
    (collectPasskey (matchesAssertion expected_rp_id allowed) maxPasskeyAssertionCandidates
      PasskeyRecord.summary) ⟨[], [], false⟩
  if state.invalid then throw .failed
  return state.collected

/-- The order of `list_passkeys`: by relying party, user name and credential id, texts as bytes. -/
def PasskeySummary.sortKey (summary : PasskeySummary) :
    List UInt8 ×ₗ List UInt8 ×ₗ Bytes 32 :=
  toLex (Utf8.encode summary.rp_id, toLex (Utf8.encode summary.user_name, summary.credential_id))

/-- `list_passkeys_with_check`. -/
def listPasskeys (should_cancel : ℕ → Bool) :
    Except RecordOperationError (List PasskeySummary) := do
  let state ← visitSnapshot P vault snapshot should_cancel
    (collectPasskey (fun passkey => passkey.creation_state ≠ .pending)
      maxPasskeyAssertionCandidates PasskeyRecord.summary) ⟨[], [], false⟩
  if state.invalid then throw .failed
  return Keyed.sortByKey PasskeySummary.sortKey state.collected

end

end Librarian.Core
