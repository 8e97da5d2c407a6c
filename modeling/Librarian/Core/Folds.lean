import Librarian.Core.Mutations

/-!
# The accumulators of the operations

What each callback of `visit_authenticated_records` has computed when the visit of a list of
decrypted records is over. Every lemma is an induction over that list, for any state to begin with.
-/

namespace Librarian.Core

open Librarian.Format

/-- The website accounts among decrypted records. -/
def accountsOf (decrypted : List DecryptedRecord) : List WebsiteAccount :=
  decrypted.filterMap DecryptedRecord.account?

/-- The passkeys among decrypted records. -/
def passkeysOf (decrypted : List DecryptedRecord) : List PasskeyRecord :=
  decrypted.filterMap DecryptedRecord.passkey?

@[simp]
theorem mem_accountsOf {decrypted : List DecryptedRecord} {account : WebsiteAccount} :
    account ∈ accountsOf decrypted ↔ .websiteAccount account ∈ decrypted := by
  simp only [accountsOf, List.mem_filterMap]
  constructor
  · rintro ⟨record, hmem, hrecord⟩
    cases record with
    | websiteAccount a =>
      cases hrecord
      exact hmem
    | passkey p => cases hrecord
  · exact fun hmem => ⟨_, hmem, rfl⟩

@[simp]
theorem mem_passkeysOf {decrypted : List DecryptedRecord} {passkey : PasskeyRecord} :
    passkey ∈ passkeysOf decrypted ↔ .passkey passkey ∈ decrypted := by
  simp only [passkeysOf, List.mem_filterMap]
  constructor
  · rintro ⟨record, hmem, hrecord⟩
    cases record with
    | websiteAccount a => cases hrecord
    | passkey p =>
      cases hrecord
      exact hmem
  · exact fun hmem => ⟨_, hmem, rfl⟩

@[simp]
theorem accountsOf_cons_account (account : WebsiteAccount) (decrypted : List DecryptedRecord) :
    accountsOf (.websiteAccount account :: decrypted) = account :: accountsOf decrypted := rfl

@[simp]
theorem accountsOf_cons_passkey (passkey : PasskeyRecord) (decrypted : List DecryptedRecord) :
    accountsOf (.passkey passkey :: decrypted) = accountsOf decrypted := rfl

@[simp]
theorem passkeysOf_cons_account (account : WebsiteAccount) (decrypted : List DecryptedRecord) :
    passkeysOf (.websiteAccount account :: decrypted) = passkeysOf decrypted := rfl

@[simp]
theorem passkeysOf_cons_passkey (passkey : PasskeyRecord) (decrypted : List DecryptedRecord) :
    passkeysOf (.passkey passkey :: decrypted) = passkey :: passkeysOf decrypted := rfl

/-! ## Website accounts -/

theorem foldl_pushAccount (decrypted : List DecryptedRecord) (accounts : List WebsiteAccount) :
    decrypted.foldl pushAccount accounts = accounts ++ accountsOf decrypted := by
  induction decrypted generalizing accounts with
  | nil => simp [accountsOf]
  | cons record decrypted ih =>
    cases record with
    | websiteAccount account => simp [pushAccount, ih]
    | passkey passkey => simp [pushAccount, ih]

/-- An account that has been found is one of the records, with the wanted id. -/
theorem foldl_findAccount_eq_some {id : RecordId} {decrypted : List DecryptedRecord}
    {found : Option WebsiteAccount} {account : WebsiteAccount}
    (h : decrypted.foldl (findAccount id) found = some account) :
    found = some account ∨ .websiteAccount account ∈ decrypted ∧ account.id = id := by
  induction decrypted generalizing found with
  | nil => exact .inl h
  | cons record decrypted ih =>
    rcases ih h with hfound | ⟨hmem, hid⟩
    · cases record with
      | websiteAccount a =>
        simp only [findAccount] at hfound
        split_ifs at hfound with hid
        · cases hfound
          exact .inr ⟨List.mem_cons_self, hid⟩
        · exact .inl hfound
      | passkey p => exact .inl hfound
    · exact .inr ⟨List.mem_cons_of_mem _ hmem, hid⟩

/-- An account is found when there is one with the wanted id. -/
theorem foldl_findAccount_isSome {id : RecordId} {decrypted : List DecryptedRecord}
    (found : Option WebsiteAccount)
    (h : found.isSome ∨ ∃ account, .websiteAccount account ∈ decrypted ∧ account.id = id) :
    (decrypted.foldl (findAccount id) found).isSome := by
  induction decrypted generalizing found with
  | nil => simpa using h
  | cons record decrypted ih =>
    refine ih _ ?_
    rcases h with hfound | ⟨account, hmem, hid⟩
    · refine .inl ?_
      cases record with
      | websiteAccount a =>
        simp only [findAccount]
        split_ifs
        · rfl
        · exact hfound
      | passkey p => exact hfound
    · rcases List.mem_cons.mp hmem with rfl | hmem
      · exact .inl (by simp [findAccount, hid])
      · exact .inr ⟨account, hmem, hid⟩

/-- A page of the accounts, from the index that the visit has reached: those between the bounds,
and whether there are any from the upper bound on. -/
theorem foldl_pushPage {offset stop : ℕ} (hbounds : offset ≤ stop)
    (decrypted : List DecryptedRecord) (state : PageState)
    (hindex : state.index + (accountsOf decrypted).length < 2 ^ 64) :
    (decrypted.foldl (pushPage offset stop) state).accounts = state.accounts ++
        ((accountsOf decrypted).drop (offset - state.index)).take
          (stop - max offset state.index) ∧
      (decrypted.foldl (pushPage offset stop) state).has_more =
        (state.has_more || decide (stop - state.index < (accountsOf decrypted).length)) := by
  induction decrypted generalizing state with
  | nil => simp [accountsOf]
  | cons record decrypted ih =>
    cases record with
    | passkey p => exact ih state hindex
    | websiteAccount a =>
      simp only [accountsOf_cons_account, List.length_cons] at hindex ⊢
      have hsucc : saturatingSucc state.index = state.index + 1 := by
        unfold saturatingSucc
        omega
      obtain ⟨haccounts, hmore⟩ := ih (pushPage offset stop state (.websiteAccount a)) (by
        simp only [pushPage, hsucc]
        omega)
      rw [List.foldl_cons, haccounts, hmore]
      simp only [pushPage, hsucc]
      rcases lt_or_ge state.index offset with hbefore | hfrom
      · -- The account is before the page.
        obtain ⟨n, hn⟩ : ∃ n, offset - state.index = n + 1 := ⟨offset - state.index - 1, by omega⟩
        have hn' : offset - (state.index + 1) = n := by omega
        have hout : ¬(state.index ≥ offset ∧ state.index < stop) := by omega
        have hstop : ¬state.index ≥ stop := by omega
        rw [if_neg hout, if_neg hout, if_neg hstop, hn, hn', List.drop_succ_cons,
          max_eq_left (by omega), max_eq_left (by omega)]
        refine ⟨rfl, ?_⟩
        congr 1
        exact decide_eq_decide.mpr (by omega)
      · have hzero : offset - state.index = 0 := by omega
        have hzero' : offset - (state.index + 1) = 0 := by omega
        rw [hzero, hzero', max_eq_right hfrom, max_eq_right (by omega)]
        rcases lt_or_ge state.index stop with hin | hafter
        · -- The account is on the page.
          obtain ⟨n, hn⟩ : ∃ n, stop - state.index = n + 1 := ⟨stop - state.index - 1, by omega⟩
          have hn' : stop - (state.index + 1) = n := by omega
          rw [if_pos ⟨hfrom, hin⟩, if_pos ⟨hfrom, hin⟩, hn, hn']
          simp
        · -- The account is after the page.
          have hout : ¬(state.index ≥ offset ∧ state.index < stop) := by omega
          have hn : stop - state.index = 0 := by omega
          have hn' : stop - (state.index + 1) = 0 := by omega
          rw [if_neg hout, if_neg hout, if_pos hafter, hn, hn']
          simp

/-- The state of `unique_browser_account` when the given accounts have matched. -/
def uniqueState : List WebsiteAccount → Option WebsiteAccount × Bool
  | [] => (none, false)
  | [account] => (some account, false)
  | _ :: _ :: _ => (none, true)

/-- The account that is found is the only one that has matched. -/
theorem uniqueState_eq_some {matched : List WebsiteAccount} {account : WebsiteAccount} :
    (uniqueState matched).1 = some account ↔ matched = [account] := by
  match matched with
  | [] => simp [uniqueState]
  | [_] => simp [uniqueState]
  | _ :: _ :: _ => simp [uniqueState]

theorem findUnique_uniqueState {origin : String} (matched : List WebsiteAccount)
    (account : WebsiteAccount) :
    findUnique origin (uniqueState matched) (.websiteAccount account) =
      uniqueState (matched ++ if account.permitted_origin = origin then [account] else []) := by
  by_cases horigin : account.permitted_origin = origin
  · match matched with
    | [] => simp [findUnique, uniqueState, horigin]
    | [_] => simp [findUnique, uniqueState, horigin]
    | _ :: _ :: _ => simp [findUnique, uniqueState, horigin]
  · simp [findUnique, horigin]

theorem foldl_findUnique (origin : String) (decrypted : List DecryptedRecord)
    (matched : List WebsiteAccount) :
    decrypted.foldl (findUnique origin) (uniqueState matched) = uniqueState (matched ++
      (accountsOf decrypted).filter fun account => account.permitted_origin = origin) := by
  induction decrypted generalizing matched with
  | nil => simp [accountsOf]
  | cons record decrypted ih =>
    cases record with
    | websiteAccount account =>
      rw [List.foldl_cons, findUnique_uniqueState, ih, accountsOf_cons_account, List.append_assoc]
      by_cases horigin : account.permitted_origin = origin <;> simp [horigin]
    | passkey passkey => exact ih matched

/-! ## Passkeys -/

/-- When no credential id is repeated, the visit has collected those of all passkeys. -/
theorem foldl_noteExisting {rp_id : String} {excluded : List (Bytes 32)}
    {decrypted : List DecryptedRecord} {state : AddPasskeyState}
    (h : (decrypted.foldl (noteExisting rp_id excluded) state).invalid = false) :
    state.invalid = false ∧
      (decrypted.foldl (noteExisting rp_id excluded) state).existing_credential_ids =
        ((passkeysOf decrypted).map PasskeyRecord.credential_id).reverse ++
          state.existing_credential_ids := by
  induction decrypted generalizing state with
  | nil => exact ⟨h, by simp [passkeysOf]⟩
  | cons record decrypted ih =>
    obtain ⟨hinvalid, hids⟩ := ih h
    rw [List.foldl_cons, hids]
    cases record with
    | websiteAccount a => exact ⟨hinvalid, by simp [noteExisting]⟩
    | passkey p =>
      by_cases hmem : p.credential_id ∈ state.existing_credential_ids
      · simp [noteExisting, hmem] at hinvalid
      · simp only [noteExisting, hmem, if_false] at hinvalid ⊢
        exact ⟨hinvalid, by simp⟩

/-- A passkey that has been found is one of the records, with the wanted credential id. -/
theorem foldl_findPasskey_eq_some {credential_id : Bytes 32} {decrypted : List DecryptedRecord}
    {state : Option PasskeyRecord × Bool} {passkey : PasskeyRecord}
    (h : (decrypted.foldl (findPasskey credential_id) state).1 = some passkey) :
    state.1 = some passkey ∨
      .passkey passkey ∈ decrypted ∧ passkey.credential_id = credential_id := by
  induction decrypted generalizing state with
  | nil => exact .inl h
  | cons record decrypted ih =>
    rcases ih h with hfound | ⟨hmem, hid⟩
    · cases record with
      | websiteAccount a => exact .inl hfound
      | passkey p =>
        simp only [findPasskey] at hfound
        split_ifs at hfound with hid
        · cases hfound
          exact .inr ⟨List.mem_cons_self, hid⟩
        · exact .inl hfound
    · exact .inr ⟨List.mem_cons_of_mem _ hmem, hid⟩

/-- Records without a credential id leave the search for it alone. -/
theorem foldl_findPasskey_of_not_mem {credential_id : Bytes 32} {decrypted : List DecryptedRecord}
    (h : credential_id ∉ (passkeysOf decrypted).map PasskeyRecord.credential_id)
    (state : Option PasskeyRecord × Bool) :
    decrypted.foldl (findPasskey credential_id) state = state := by
  induction decrypted with
  | nil => rfl
  | cons record decrypted ih =>
    cases record with
    | websiteAccount a => exact ih h
    | passkey p =>
      have hp : credential_id ∉ p.credential_id ::
          (passkeysOf decrypted).map PasskeyRecord.credential_id := h
      rw [List.mem_cons, not_or] at hp
      rw [List.foldl_cons, findPasskey, if_neg (Ne.symm hp.1)]
      exact ih hp.2

/-- When no credential id is repeated, the search finds the one passkey with it. -/
theorem foldl_findPasskey_unique {decrypted : List DecryptedRecord}
    (hnodup : ((passkeysOf decrypted).map PasskeyRecord.credential_id).Nodup)
    {passkey : PasskeyRecord} (hmem : passkey ∈ passkeysOf decrypted) :
    decrypted.foldl (findPasskey passkey.credential_id) (none, false) = (some passkey, false) := by
  induction decrypted with
  | nil => cases hmem
  | cons record decrypted ih =>
    cases record with
    | websiteAccount a => exact ih hnodup hmem
    | passkey p =>
      have hnodup' : (p.credential_id ::
          (passkeysOf decrypted).map PasskeyRecord.credential_id).Nodup := hnodup
      rw [List.nodup_cons] at hnodup'
      have hmem' : passkey ∈ p :: passkeysOf decrypted := hmem
      rw [List.foldl_cons, findPasskey]
      rcases List.mem_cons.mp hmem' with rfl | hrest
      · rw [if_pos rfl]
        exact foldl_findPasskey_of_not_mem hnodup'.1 _
      · have hne : p.credential_id ≠ passkey.credential_id := by
          intro heq
          exact hnodup'.1 (heq ▸ List.mem_map_of_mem hrest)
        rw [if_neg hne]
        exact ih hnodup'.2 hrest

/-- When no credential id is repeated and there is room, the visit has collected the selected
passkeys. -/
theorem foldl_collectPasskey {α : Type} {selected : PasskeyRecord → Bool} {limit : ℕ}
    (project : PasskeyRecord → α) {decrypted : List DecryptedRecord} (state : CollectState α)
    (hnodup : ((passkeysOf decrypted).map PasskeyRecord.credential_id).Nodup)
    (hnew : ∀ passkey ∈ passkeysOf decrypted, passkey.credential_id ∉ state.credential_ids)
    (hlimit : state.collected.length + (passkeysOf decrypted).countP selected ≤ limit) :
    (decrypted.foldl (collectPasskey selected limit project) state).invalid = state.invalid ∧
      (decrypted.foldl (collectPasskey selected limit project) state).collected =
        state.collected ++ ((passkeysOf decrypted).filter selected).map project := by
  induction decrypted generalizing state with
  | nil => simp [passkeysOf]
  | cons record decrypted ih =>
    cases record with
    | websiteAccount a => exact ih state hnodup hnew hlimit
    | passkey p =>
      simp only [passkeysOf_cons_passkey, List.map_cons, List.nodup_cons] at hnodup hnew hlimit ⊢
      have hp : p.credential_id ∉ state.credential_ids := hnew p List.mem_cons_self
      -- The later passkeys are new after this one, too.
      have hrest : ∀ q ∈ passkeysOf decrypted,
          q.credential_id ∉ p.credential_id :: state.credential_ids := by
        intro q hq
        rw [List.mem_cons, not_or]
        refine ⟨?_, hnew q (List.mem_cons_of_mem _ hq)⟩
        intro heq
        exact hnodup.1 (heq ▸ List.mem_map_of_mem hq)
      rw [List.foldl_cons]
      by_cases hselected : selected p
      · rw [List.countP_cons_of_pos hselected] at hlimit
        have hroom : ¬state.collected.length ≥ limit := by omega
        have hstep : collectPasskey selected limit project state (.passkey p) =
            { state with
              credential_ids := p.credential_id :: state.credential_ids
              collected := state.collected ++ [project p] } := by
          simp only [collectPasskey, hp, hselected, hroom, if_false, if_true]
        obtain ⟨hinvalid, hcollected⟩ := ih ({ state with
            credential_ids := p.credential_id :: state.credential_ids
            collected := state.collected ++ [project p] }) hnodup.2 hrest (by
          simp only [List.length_append, List.length_singleton]
          omega)
        rw [hstep]
        exact ⟨hinvalid, by simp [hcollected, hselected]⟩
      · rw [List.countP_cons_of_neg hselected] at hlimit
        have hstep : collectPasskey selected limit project state (.passkey p) =
            { state with credential_ids := p.credential_id :: state.credential_ids } := by
          simp only [collectPasskey, hp, if_false, hselected, Bool.false_eq_true]
        obtain ⟨hinvalid, hcollected⟩ := ih ({ state with
            credential_ids := p.credential_id :: state.credential_ids }) hnodup.2 hrest hlimit
        rw [hstep]
        exact ⟨hinvalid, by simp [hcollected, hselected]⟩

end Librarian.Core
