import Librarian.Agent.Idempotency
import Librarian.Core.VaultRun
import Librarian.Protocol.Responses

/-!
# Paging through the accounts

`encode_summary_page` searches for the longest prefix of a page that `encode_account_summaries`
accepts. What the encoder accepts does not depend on the next offset, so the accepted prefixes are
closed downwards and the search is exact; a single account is always accepted, so a page of a window
with accounts has at least one.
-/

namespace Librarian.Agent

open Librarian.Core Librarian.Protocol

/-- What executing an operation returns. -/
abbrev Outcome : Type := Except DispatchError ExecutionOutcome

/-- `account_view`. -/
def accountView (account : WebsiteAccount) : AccountView where
  id := account.id
  revision := account.revision
  created_at_ms := account.created_at_ms
  modified_at_ms := account.modified_at_ms
  service_name := account.service_name
  permitted_origin := account.permitted_origin
  username := account.username
  password := account.password

/-- The next offset that a page of `count` accounts announces. -/
def nextOffset (offset : UInt32) (count : ℕ) (has_more : Bool) :
    Except DispatchError (Option UInt32) :=
  if has_more then
    if offset.toNat + count < 2 ^ 32 then .ok (some (UInt32.ofNat (offset.toNat + count)))
    else .error .internal
  else .ok none

/-- The loop of `encode_summary_page`: a binary search between `lower` and `upper`. The interval
shrinks in every round, so a round for each account is enough. -/
def searchPage (accounts : List WebsiteAccount) (offset : UInt32) (source_has_more : Bool) :
    ℕ → ℕ → ℕ → Option Body → Except DispatchError (Option Body)
  | 0, _, _, best => .ok best
  | rounds + 1, lower, upper, best =>
    if lower ≤ upper then do
      let count := lower + (upper - lower) / 2
      let page := accounts.take count
      let next_offset ← nextOffset offset count (source_has_more || count < accounts.length)
      match encodeAccountSummaries (page.map accountView) next_offset with
      | .ok _ =>
        searchPage accounts offset source_has_more rounds (count + 1) upper
          (some (.accountSummaries page next_offset))
      | .error (.returned .tooLarge) =>
        searchPage accounts offset source_has_more rounds lower (count - 1) best
      -- The other errors are internal. A panic has no outcome; the encoder does not panic.
      | .error _ => .error .internal
    else .ok best

/-- `encode_summary_page`. -/
def encodeSummaryPage (accounts : List WebsiteAccount) (offset : UInt32)
    (source_has_more : Bool) : Outcome :=
  if accounts = [] then
    if source_has_more then .ok .failed
    else
      match encodeAccountSummaries [] none with
      | .ok _ => .ok (.success (.accountSummaries [] none))
      | .error _ => .error .internal
  else do
    let best ← searchPage accounts offset source_has_more accounts.length 1 accounts.length none
    return best.elim .failed .success

/-- The part of `list_accounts` that nothing interrupts: the page that is read, encoded. -/
def accountPage (P : Primitives) (vault : UnlockedVault) (snapshot : Snapshot) (limit : UInt16)
    (offset : UInt32) : Except RecordOperationError Outcome := do
  let (accounts, has_more) ← listWebsiteAccountPage P vault snapshot offset.toNat limit.toNat
    fun _ => false
  return encodeSummaryPage accounts offset has_more

/-! ## What the search finds -/

/-- The encoder accepts a page, whatever the next offset. -/
def Accepted (page : List WebsiteAccount) : Prop :=
  ∀ next_offset, ∃ body, encodeAccountSummaries (page.map accountView) next_offset = .ok body

/-- A page is the longest prefix of a window that the encoder accepts. -/
structure LongestAccepted (window page : List WebsiteAccount) : Prop where
  isPrefix : page <+: window
  accepted : Accepted page
  longest : ∀ longer, longer <+: window → Accepted longer → longer.length ≤ page.length

/-- The estimate for the first `count` accounts of a window is within the limit of a body. -/
def Fits (window : List WebsiteAccount) (count : ℕ) : Prop :=
  summariesBound ((window.take count).map accountView) ≤ maxResponseBodyBytes

instance (window : List WebsiteAccount) (count : ℕ) : Decidable (Fits window count) :=
  inferInstanceAs (Decidable (_ ≤ _))

/-- The page of the first `count` accounts of a window. -/
def pageBody (window : List WebsiteAccount) (offset : UInt32) (source_has_more : Bool)
    (count : ℕ) : Body :=
  .accountSummaries (window.take count)
    (if source_has_more || count < window.length then some (UInt32.ofNat (offset.toNat + count))
      else none)

/-- A shorter page has the smaller estimate. -/
theorem Fits.of_le {window : List WebsiteAccount} {count count' : ℕ} (h : Fits window count')
    (hle : count ≤ count') : Fits window count := by
  have hsublist : (window.take count).Sublist (window.take count') :=
    (List.take_prefix_take_left hle).sublist
  have hsum := ((hsublist.map accountView).map AccountView.summaryBound).sum_le_sum
    (fun _ _ => Nat.zero_le _)
  unfold Fits summariesBound at h ⊢
  omega

theorem fits_zero (window : List WebsiteAccount) : Fits window 0 := by
  simp [Fits, summariesBound, maxResponseBodyBytes, maxPayloadBytes]

section

variable {window : List WebsiteAccount}
  (hbounded : ∀ account ∈ window, (accountView account).Bounded)
  (hlength : window.length ≤ maxListPageSize)
include hbounded hlength

theorem encodeAccountSummaries_take (count : ℕ) (next_offset : Option UInt32) :
    encodeAccountSummaries ((window.take count).map accountView) next_offset =
      if Fits window count then
        .ok (accountSummariesBody ((window.take count).map accountView) next_offset)
      else .error (.returned .tooLarge) := by
  refine encodeAccountSummaries_eq ?_ ?_ next_offset
  · intro view hmem
    obtain ⟨account, haccount, rfl⟩ := List.mem_map.mp hmem
    exact hbounded account (List.mem_of_mem_take haccount)
  · rw [List.length_map, List.length_take]
    omega

theorem accepted_take_iff (count : ℕ) : Accepted (window.take count) ↔ Fits window count := by
  constructor
  · intro haccepted
    obtain ⟨body, hbody⟩ := haccepted none
    rw [encodeAccountSummaries_take hbounded hlength] at hbody
    by_contra hfits
    rw [if_neg hfits] at hbody
    cases hbody
  · intro hfits next_offset
    rw [encodeAccountSummaries_take hbounded hlength, if_pos hfits]
    exact ⟨_, rfl⟩

omit hlength in
/-- One account always fits. -/
theorem fits_one : Fits window 1 := by
  cases window with
  | nil => exact fits_zero []
  | cons account rest =>
    have hbound := (hbounded account List.mem_cons_self).summaryBound_le
    simp only [Fits, summariesBound, List.take_succ_cons, List.take_zero, List.map_cons,
      List.map_nil, List.sum_cons, List.sum_nil, maxResponseBodyBytes, maxPayloadBytes]
    omega

omit hbounded hlength in
/-- The next offset of a page within the window. -/
theorem nextOffset_eq {offset : UInt32} (hoffset : offset.toNat + window.length < 2 ^ 32)
    {count : ℕ} (hcount : count ≤ window.length) (has_more : Bool) :
    nextOffset offset count has_more =
      .ok (if has_more then some (UInt32.ofNat (offset.toNat + count)) else none) := by
  have hlt : offset.toNat + count < 2 ^ 32 := by omega
  unfold nextOffset
  rw [if_pos hlt]
  split_ifs <;> rfl

/-- The search finds the largest count that fits. It begins with all counts below `lower` known to
fit and all above `upper` known not to. -/
theorem searchPage_spec {offset : UInt32} (hoffset : offset.toNat + window.length < 2 ^ 32)
    (source_has_more : Bool) (rounds lower upper : ℕ) (best : Option Body)
    (hrounds : upper + 1 ≤ rounds + lower) (hpos : 0 < lower) (hlower : lower ≤ upper + 1)
    (hupper : upper ≤ window.length) (hbelow : Fits window (lower - 1))
    (habove : ∀ count, upper < count → count ≤ window.length → ¬Fits window count) :
    ∃ count ≤ window.length, Fits window count ∧
      (∀ longer, count < longer → longer ≤ window.length → ¬Fits window longer) ∧
      searchPage window offset source_has_more rounds lower upper best =
        .ok (if count = lower - 1 then best
          else some (pageBody window offset source_has_more count)) := by
  induction rounds generalizing lower upper best with
  | zero =>
    refine ⟨lower - 1, by omega, hbelow, fun longer hlonger => habove longer (by omega), ?_⟩
    rw [if_pos rfl]
    rfl
  | succ rounds ih =>
    unfold searchPage
    by_cases hinterval : lower ≤ upper
    · obtain ⟨count, hcount⟩ : ∃ count, lower + (upper - lower) / 2 = count := ⟨_, rfl⟩
      have hge : lower ≤ count := by omega
      have hle : count ≤ upper := by omega
      simp only [if_pos hinterval, hcount, nextOffset_eq hoffset (hle.trans hupper),
        Except.ok_bind, encodeAccountSummaries_take hbounded hlength]
      by_cases hfits : Fits window count
      · -- The count fits: the search goes on above it, with its page as the best.
        rw [if_pos hfits]
        obtain ⟨found, hfound, hfits', hlongest, hsearch⟩ := ih (count + 1) upper
          (some (pageBody window offset source_has_more count)) (by omega) (by omega) (by omega)
          hupper hfits habove
        have hmin : count ≤ found := by
          by_contra hlt
          exact hlongest count (by omega) (by omega) hfits
        refine ⟨found, hfound, hfits', hlongest, ?_⟩
        have hne : found ≠ lower - 1 := by omega
        rw [if_neg hne]
        refine hsearch.trans ?_
        rw [Nat.add_sub_cancel]
        split_ifs with heq
        · rw [heq]
        · rfl
      · -- It does not fit: the search goes on below it.
        rw [if_neg hfits]
        refine ih lower (count - 1) best (by omega) hpos (by omega) (by omega) hbelow ?_
        intro longer hlonger hlonger' hfits'
        exact hfits (hfits'.of_le (by omega))
    · have heq : lower - 1 = upper := by omega
      refine ⟨lower - 1, by omega, hbelow, fun longer hlonger => habove longer (by omega), ?_⟩
      rw [if_neg hinterval, if_pos rfl]

/-- The page of a window with accounts is the longest accepted prefix, and is not empty. -/
theorem encodeSummaryPage_eq (hne : window ≠ []) (offset : UInt32)
    (hoffset : offset.toNat + window.length < 2 ^ 32) (source_has_more : Bool) :
    ∃ count, 0 < count ∧ count ≤ window.length ∧ LongestAccepted window (window.take count) ∧
      encodeSummaryPage window offset source_has_more =
        .ok (.success (pageBody window offset source_has_more count)) := by
  have hone : 0 < window.length := List.length_pos_iff.mpr hne
  obtain ⟨count, hcount, hfits, hlongest, hsearch⟩ := searchPage_spec hbounded hlength hoffset
    source_has_more window.length 1 window.length none (by omega) (by omega) (by omega) le_rfl
    (fits_zero window) (fun count hlt hle => by omega)
  have hpos : 0 < count := by
    by_contra hzero
    exact hlongest 1 (by omega) hone (fits_one hbounded)
  refine ⟨count, hpos, hcount, ⟨List.take_prefix _ _,
    (accepted_take_iff hbounded hlength count).mpr hfits, ?_⟩, ?_⟩
  · intro longer hprefix haccepted
    rw [List.prefix_iff_eq_take.mp hprefix, accepted_take_iff hbounded hlength] at haccepted
    rw [List.length_take, min_eq_left hcount]
    by_contra hlt
    exact hlongest longer.length (by omega) hprefix.length_le haccepted
  · rw [encodeSummaryPage, if_neg hne, hsearch, if_neg (by omega)]
    rfl

end

/-- The page of a window without accounts, at the end, is empty. -/
theorem encodeSummaryPage_nil (offset : UInt32) :
    encodeSummaryPage [] offset false = .ok (.success (.accountSummaries [] none)) := rfl

/-! ## All pages -/

section

variable {P : Primitives} {vault : UnlockedVault} {snapshot : Snapshot}
  {decrypted : List DecryptedRecord} {limit : UInt16}

/-- The accounts of an authentic snapshot are within the limits of the protocol. -/
theorem bounded_accountView (h : Authentic P vault snapshot decrypted) {account : WebsiteAccount}
    (hmem : account ∈ accountsOf decrypted) : (accountView account).Bounded := by
  obtain ⟨value, hvalue⟩ := h.exists_account hmem
  rw [hvalue]
  exact ⟨value.valid.service_name_size, value.valid.permitted_origin_size,
    value.valid.username_size⟩

/-- The page at an offset: the longest accepted prefix of the window, nonempty when the window is,
with the offset of what follows it. -/
theorem accountPage_eq (h : Authentic P vault snapshot decrypted) (hpos : 0 < limit.toNat)
    (hmax : limit.toNat ≤ maxListPageSize) (offset : UInt32) :
    ∃ page next, accountPage P vault snapshot limit offset =
        .ok (.ok (.success (.accountSummaries page next))) ∧
      LongestAccepted (((accountsOf decrypted).drop offset.toNat).take limit.toNat) page ∧
      (page = [] → (accountsOf decrypted).length ≤ offset.toNat) ∧
      (next = none ↔ (accountsOf decrypted).length ≤ offset.toNat + page.length) ∧
      ∀ following, next = some following → following.toNat = offset.toNat + page.length := by
  obtain ⟨accounts, haccounts⟩ : ∃ accounts, accountsOf decrypted = accounts := ⟨_, rfl⟩
  obtain ⟨window, hwindow⟩ : ∃ window, (accounts.drop offset.toNat).take limit.toNat = window :=
    ⟨_, rfl⟩
  have htotal := h.accounts_length_le
  have hbounded : ∀ account ∈ window, (accountView account).Bounded := by
    intro account hmem
    rw [← hwindow] at hmem
    rw [← haccounts] at hmem
    exact bounded_accountView h (List.mem_of_mem_drop (List.mem_of_mem_take hmem))
  have hlt := offset.toNat_lt
  have hlength : window.length = min limit.toNat (accounts.length - offset.toNat) := by
    rw [← hwindow, List.length_take, List.length_drop]
  unfold maxListPageSize at hmax
  have hread := h.listWebsiteAccountPage_eq offset.toNat limit.toNat hpos hmax (by omega)
  rw [haccounts] at htotal hread ⊢
  unfold Format.maxRecords at htotal
  rw [hwindow] at hread ⊢
  rw [accountPage, hread, Except.ok_bind]
  by_cases hempty : window = []
  · have hend : accounts.length ≤ offset.toNat := by
      rw [hempty, List.length_nil] at hlength
      omega
    have hmore : decide (offset.toNat + limit.toNat < accounts.length) = false := by
      rw [decide_eq_false_iff_not]
      omega
    refine ⟨[], none, ?_, ⟨List.nil_prefix, ?_, ?_⟩, fun _ => hend, ?_, ?_⟩
    · rw [hmore, hempty]
      rfl
    · have haccepted := (accepted_take_iff hbounded (by unfold maxListPageSize; omega) 0).mpr
        (fits_zero window)
      rwa [List.take_zero] at haccepted
    · intro longer hprefix _
      rw [hempty] at hprefix
      rw [List.prefix_nil.mp hprefix]
    · simpa using hend
    · intro following hsome
      cases hsome
  · have hnonempty : 0 < window.length := List.length_pos_iff.mpr hempty
    obtain ⟨count, hcount, hle, hlongest, hpage⟩ := encodeSummaryPage_eq hbounded
      (by unfold maxListPageSize; omega) hempty offset (by omega)
      (decide (offset.toNat + limit.toNat < accounts.length))
    have hpagelength : (window.take count).length = count := by
      rw [List.length_take, min_eq_left hle]
    refine ⟨_, _, congrArg Except.ok hpage, hlongest, ?_, ?_, ?_⟩
    · intro hnil
      rw [hnil, List.length_nil] at hpagelength
      omega
    · rw [hpagelength]
      by_cases hmore : (decide (offset.toNat + limit.toNat < accounts.length) ||
        decide (count < window.length)) = true
      · rw [if_pos hmore]
        simp only [Bool.or_eq_true, decide_eq_true_eq] at hmore
        simp only [reduceCtorEq, false_iff, not_le]
        omega
      · rw [if_neg hmore]
        simp only [Bool.or_eq_true, decide_eq_true_eq, not_or, not_lt] at hmore
        simp only [true_iff]
        omega
    · intro following hsome
      rw [hpagelength]
      split_ifs at hsome
      rw [Option.some.injEq] at hsome
      rw [← hsome, UInt32.toNat_ofNat_of_lt']
      change _ < 2 ^ 32
      omega

/-- The pages that a client collects from an offset on, calling with the returned offset until it is
null. -/
inductive Pages (call : UInt32 → Except RecordOperationError Outcome) :
    UInt32 → List (List WebsiteAccount) → Prop
  | last {offset : UInt32} {page : List WebsiteAccount}
      (h : call offset = .ok (.ok (.success (.accountSummaries page none)))) :
      Pages call offset [page]
  | more {offset next : UInt32} {page : List WebsiteAccount} {rest : List (List WebsiteAccount)}
      (h : call offset = .ok (.ok (.success (.accountSummaries page (some next)))))
      (following : Pages call next rest) : Pages call offset (page :: rest)

/-- A client collects the pages in one way. -/
theorem Pages.unique {call : UInt32 → Except RecordOperationError Outcome} {offset : UInt32}
    {pages pages' : List (List WebsiteAccount)} (h : Pages call offset pages)
    (h' : Pages call offset pages') : pages = pages' := by
  induction h generalizing pages' with
  | last hcall =>
    cases h' with
    | last hcall' => simp_all [ExecutionOutcome.success]
    | more hcall' _ => simp_all [ExecutionOutcome.success]
  | more hcall _ ih =>
    cases h' with
    | last hcall' => simp_all [ExecutionOutcome.success]
    | more hcall' hrest' =>
      rw [hcall] at hcall'
      simp only [ExecutionOutcome.success, Except.ok.injEq, ExecutionOutcome.mk.injEq,
        Body.accountSummaries.injEq, Option.some.injEq, true_and, and_true] at hcall'
      obtain ⟨rfl, rfl⟩ := hcall'
      rw [ih hrest']

/-- From any offset within the accounts, the pages end, none but the last is empty, and together
they are the accounts from the offset on. -/
theorem exists_pages (h : Authentic P vault snapshot decrypted) (hpos : 0 < limit.toNat)
    (hmax : limit.toNat ≤ maxListPageSize) (offset : UInt32)
    (hoffset : offset.toNat ≤ (accountsOf decrypted).length) :
    ∃ pages, Pages (accountPage P vault snapshot limit) offset pages ∧
      (∀ page ∈ pages.dropLast, page ≠ []) ∧
      pages.flatten = (accountsOf decrypted).drop offset.toNat := by
  -- Each page that is not the last has an account, so what is left gets shorter.
  induction hleft : (accountsOf decrypted).length - offset.toNat using Nat.strong_induction_on
    generalizing offset with
  | h left ih =>
    obtain ⟨page, next, hcall, hlongest, hempty, hnone, hnext⟩ := accountPage_eq h hpos hmax offset
    have hprefix : page <+: (accountsOf decrypted).drop offset.toNat :=
      hlongest.isPrefix.trans (List.take_prefix _ _)
    have hpage := List.prefix_iff_eq_take.mp hprefix
    have hlength := hprefix.length_le
    rw [List.length_drop] at hlength
    cases next with
    | none =>
      refine ⟨[page], .last hcall, by simp, ?_⟩
      have hend := hnone.mp rfl
      rw [List.flatten_singleton, hpage, List.take_of_length_le]
      rw [List.length_drop]
      omega
    | some following =>
      have hfollowing := hnext following rfl
      have hmore : ¬(accountsOf decrypted).length ≤ offset.toNat + page.length :=
        fun hend => by simpa using hnone.mpr hend
      have hnonempty : page ≠ [] := by
        intro hnil
        have := hempty hnil
        omega
      have hpositive : 0 < page.length := List.length_pos_iff.mpr hnonempty
      obtain ⟨rest, hrest, hdrop, hflatten⟩ := ih _ (by omega) following (by omega) rfl
      refine ⟨page :: rest, .more hcall hrest, ?_, ?_⟩
      · have hne : rest ≠ [] := by
          rintro rfl
          cases hrest
        rw [List.dropLast_cons_of_ne_nil hne]
        exact List.forall_mem_cons.mpr ⟨hnonempty, hdrop⟩
      · rw [List.flatten_cons, hflatten, hfollowing, ← List.drop_drop]
        exact List.prefix_iff_eq_append.mp hprefix

end

/-- A text of `n` letters. -/
def letters (n : ℕ) : String := String.ofList (List.replicate n 'a')

theorem utf8ByteSize_letters (n : ℕ) : (letters n).utf8ByteSize = n := by
  have hbytes : (List.replicate n 'a').flatMap String.utf8EncodeChar = List.replicate n 97 := by
    induction n with
    | zero => rfl
    | succ n ih =>
      rw [List.replicate_succ, List.flatMap_cons, ih]
      rfl
  rw [← Utf8.encode_length, Utf8.encode, letters, String.toByteArray_ofList, List.utf8Encode,
    hbytes]
  simp

theorem hasControl_letters (n : ℕ) : Format.hasControl (letters n) = false := by
  simp [Format.hasControl, letters]

/-- The account with number `i` of the vault: the first 48 are a little shorter than the last. -/
def longAccount (i : ℕ) : Format.WebsiteAccountPlaintext where
  revision := 1
  created_at_ms := 0
  modified_at_ms := 0
  service_name := letters 256
  permitted_origin := "https://example.com"
  username := letters (if i < 48 then 1006 else 1024)
  password := ""
  validated := by
    rw [Format.validatePlaintext_eq_ok]
    constructor
    case service_name =>
      intro h
      have := congrArg String.utf8ByteSize h
      rw [utf8ByteSize_letters] at this
      cases this
    case service_name_size => exact (utf8ByteSize_letters 256).le
    case service_name_control => exact hasControl_letters 256
    case username_size =>
      rw [utf8ByteSize_letters]
      split_ifs <;> decide
    case revision => exact (by decide : (1 : UInt64) ≠ 0)
    case times => exact (by decide : (0 : UInt64) ≤ 0)
    case permitted_origin => exact (by decide : "https://example.com" ≠ "")
    case permitted_origin_size =>
      exact (by decide : "https://example.com".utf8ByteSize ≤ Format.maxOriginBytes)
    case permitted_origin_control =>
      exact (by decide +kernel : Format.hasControl "https://example.com" = false)
    case password_size => exact Nat.zero_le _

/-- The row of an account. -/
def longRow (i : ℕ) : EncryptedRecord where
  id := ⟨BigEndian.encode 16 i, BigEndian.encode_length 16 i⟩
  envelope := Format.encodeRecordEnvelopeInto ⟨1, Bytes.replicate 24 0,
    Format.encodeWebsiteInto (longAccount i).toWebsiteAccountFields ++ List.replicate 16 0⟩

/-- The session of the vault with 49 accounts. -/
def longVault : UnlockedVault :=
  { sampleVault with
    manifest := { sampleVault.manifest with
      generation := 49
      entries := (List.range 49).map fun i => ⟨(longRow i).id, Bytes.replicate 32 0⟩ } }

/-- The stored bytes of the vault with 49 accounts. -/
def longSnapshot : Snapshot where
  header := Format.encodeHeaderInto longVault.header
  manifest_envelope := Format.encodeManifestEnvelopeInto
    ⟨Bytes.replicate 24 0, Format.encodeManifestInto longVault.manifest ++ List.replicate 16 0⟩
  records := (List.range 49).map longRow

/-- The accounts of the vault. -/
def longAccounts : List WebsiteAccount :=
  (List.range 49).map fun i => WebsiteAccountPlaintext.account (longAccount i) (longRow i).id

theorem decryptRecord_longRow (i : ℕ) :
    decryptRecord exampleComPrimitives longVault (longRow i) =
      .ok (.websiteAccount (WebsiteAccountPlaintext.account (longAccount i) (longRow i).id)) := by
  have hsize := Format.encodeWebsiteInto_length_le (longAccount i).toWebsiteAccountFields
  have hvalid := (longAccount i).valid
  have h1 := hvalid.service_name_size
  have h2 := hvalid.permitted_origin_size
  have h3 := hvalid.username_size
  have h4 := hvalid.password_size
  simp only [Format.maxServiceNameBytes, Format.maxOriginBytes, Format.maxUsernameBytes,
    Format.maxPasswordBytes, Format.websiteAccountEncodingOverheadBytes] at hsize h1 h2 h3 h4
  have hseals : SealsRecord exampleComPrimitives longVault (longRow i).id (longRow i).envelope
      (Format.encodeWebsiteInto (longAccount i).toWebsiteAccountFields) := by
    refine ⟨Bytes.replicate 32 0, Bytes.replicate 24 0, _, rfl, rfl,
      Format.RecordEnvelope.encode_eq_ok.mpr
        ⟨⟨(by decide : (1 : UInt32) ≠ 0), ?_⟩, ?_, rfl⟩⟩
    · simp [Format.tagBytes]
    · have hhead := Cbor.head_length_le 2
        (Format.encodeWebsiteInto (longAccount i).toWebsiteAccountFields ++
          List.replicate 16 0).length
      have hversion := Format.encodeU32_length_le Format.recordEnvelopeVersion
      have hepoch := Format.encodeU32_length_le longVault.header.key_epoch
      have harray : (Cbor.array 4).length ≤ 9 := Cbor.head_length_le 4 _
      have hnonce : (Cbor.bytes (Bytes.replicate 24 0).val).length ≤ 33 := by decide
      simp only [Format.encodeRecordEnvelopeInto, List.length_append, Cbor.bytes_length,
        List.length_replicate, Format.maxRecordEnvelopeBytes] at hhead hnonce ⊢
      omega
  have hstored : Stored exampleComPrimitives (WebsiteAccountPlaintext.record (longAccount i))
      (Format.encodeWebsiteInto (longAccount i).toWebsiteAccountFields) :=
    .websiteAccount (longAccount i) rfl
  obtain ⟨result, hresult, hdecrypted⟩ := decryptRecord_of_stored
    (hseals.opens exampleComPrimitives_lawful) hstored
  have haccount := (@Decrypted.websiteAccount (longRow i).id (longAccount i)).account_iff.mp rfl
  rw [hdecrypted.account_iff.mpr haccount] at hresult
  exact hresult

theorem longSnapshot_authentic : Authentic exampleComPrimitives longVault longSnapshot
    (longAccounts.map DecryptedRecord.websiteAccount) where
  header := Format.VaultHeader.decode_encode
    (Format.VaultHeader.encode_eq_ok.mpr ⟨by decide +kernel, by decide +kernel, rfl⟩)
  manifest := by
    refine @SealsManifest.decryptManifest _ longVault exampleComPrimitives_lawful _ _ ⟨Bytes.replicate 32 0,
      Bytes.replicate 24 0, _, _,
      Format.Manifest.encode_eq_ok.mpr ⟨by decide +kernel, by decide +kernel, rfl⟩, rfl, rfl,
      Format.ManifestEnvelope.encode_eq_ok.mpr ⟨?_, by decide +kernel, rfl⟩⟩ longVault rfl rfl
    simp [Format.tagBytes]
  rows := by
    simp only [longSnapshot, longVault, List.map_map]
    rfl
  decrypts := by
    simp only [longSnapshot, longAccounts, List.map_map, List.forall₂_map_left_iff,
      List.forall₂_map_right_iff, List.forall₂_same]
    intro i _
    exact decryptRecord_longRow i

theorem summaryBound_longAccount (i : ℕ) (id : RecordId) :
    (accountView (WebsiteAccountPlaintext.account (longAccount i) id)).summaryBound =
      329 + if i < 48 then 1006 else 1024 := by
  have horigin : "https://example.com".utf8ByteSize = 19 := by decide
  simp only [accountView, WebsiteAccountPlaintext.account, longAccount, AccountView.summaryBound,
    utf8ByteSize_letters, horigin]

theorem summaryItems_longAccount (i : ℕ) (id : RecordId) :
    (accountView (WebsiteAccountPlaintext.account (longAccount i) id)).summaryItems.flatten.length =
      303 + if i < 48 then 1006 else 1024 := by
  have horigin : (Cbor.text "https://example.com").length = 20 := by decide +kernel
  have hservice : (Cbor.head 3 256).length = 3 := by decide
  have hone : (Cbor.unsigned (1 : UInt64).toNat).length = 1 := by decide
  have hzero : (Cbor.unsigned (0 : UInt64).toNat).length = 1 := by decide
  have hseven : (Cbor.array 7).length = 1 := by decide
  have hid : (Cbor.head 2 16).length = 1 := by decide
  have hname : (Cbor.head 3 (if i < 48 then 1006 else 1024)).length = 3 := by
    split_ifs <;> decide
  simp only [accountView, WebsiteAccountPlaintext.account, longAccount, AccountView.summaryItems,
    List.flatten_cons, List.flatten_nil, List.length_append, List.length_nil, horigin, hone, hzero,
    hseven, Cbor.bytes_length, id.property, hid, Cbor.text_length, utf8ByteSize_letters, hservice,
    hname]
  omega

end Librarian.Agent
