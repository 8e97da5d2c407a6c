import Librarian.Core.VaultRun
import Librarian.Protocol.Responses

/-!
# Passkey listings are encodable

A vault holds at most 64 passkeys, pending and confirmed together, and no two have the same
credential id. So the listings that would reject a repetition or a 65th entry never do, and the
worst case of 64 entries fits the body of a response.
-/

namespace Librarian.Agent

open Librarian.Core Librarian.Protocol

/-- The view of a passkey in the response to `list_passkeys_for_assertion`. -/
def passkeySummaryView (passkey : PasskeySummary) : PasskeySummaryView where
  credential_id := passkey.credential_id
  user_handle := passkey.user_handle
  user_name := passkey.user_name
  user_display_name := passkey.user_display_name

/-- The view of a passkey in the response to `list_passkeys`. -/
def passkeyManagementSummaryView (passkey : PasskeySummary) : PasskeyManagementSummaryView where
  credential_id := passkey.credential_id
  rp_id := passkey.rp_id
  user_name := passkey.user_name
  user_display_name := passkey.user_display_name

/-- An encoder has neither failed nor overflowed its writer, and its body makes a response that fits
the default limits of a connection. -/
def Deliverable (encoded : Except EncodeFault (List UInt8)) : Prop :=
  ∃ body, encoded = .ok body ∧ body.length ≤ maxResponseBodyBytes ∧
    ∀ correlation_id : Bytes 16, correlation_id.isZero = false →
      ∃ response, ResponseEnvelope.success correlation_id body = .ok response ∧
        response.body = body ∧ ConnectionLimits.default.responseFits response

/-- A body within its limit is deliverable. -/
theorem deliverable_of_length_le {encoded : Except EncodeFault (List UInt8)}
    (h : ∃ body, encoded = .ok body ∧ body.length ≤ maxResponseBodyBytes) :
    Deliverable encoded := by
  obtain ⟨body, hencoded, hbody⟩ := h
  refine ⟨body, hencoded, hbody, ?_⟩
  intro correlation_id hid
  obtain ⟨response, hresponse, hsame⟩ := ResponseEnvelope.success_eq_ok hbody hid
  exact ⟨response, hresponse, hsame, ConnectionLimits.default_responseFits response⟩

section

variable {P : Primitives} {vault : UnlockedVault} {snapshot : Snapshot}
  {decrypted : List DecryptedRecord}

/-- The summary of a stored passkey passes the checks of the encoders. -/
theorem summary_valid (h : Authentic P vault snapshot decrypted) {passkey : PasskeyRecord}
    (hmem : passkey ∈ passkeysOf decrypted) :
    (passkeySummaryView passkey.summary).invalid = false ∧
      (passkeyManagementSummaryView passkey.summary).invalid = false := by
  obtain ⟨value, hvalue⟩ := h.exists_passkey hmem
  have hvalid := value.valid
  have hrp := hvalid.rp_id_size
  have hhandle := hvalid.user_handle_size
  have hname := hvalid.user_name_size
  have hdisplay := hvalid.user_display_name_size
  rw [hvalue]
  simp only [PasskeySummaryView.invalid, PasskeyManagementSummaryView.invalid,
    decide_eq_false_iff_not, not_or, not_lt, Bool.not_eq_true]
  exact ⟨⟨hvalid.credential_id, hvalid.user_handle, hhandle, hvalid.user_name, hname,
      hvalid.user_display_name, hdisplay⟩,
    ⟨hvalid.credential_id, hvalid.rp_id, hrp, hvalid.user_name, hname, hvalid.user_display_name,
      hdisplay⟩⟩

/-- The summaries of some of the stored passkeys, in any order, are deliverable in both forms. -/
theorem deliverable_summaries (h : Authentic P vault snapshot decrypted)
    (hcapacity : (passkeysOf decrypted).length ≤ Core.maxPasskeyCredentials)
    (selected : PasskeyRecord → Bool) {summaries : List PasskeySummary}
    (hperm : summaries.Perm (((passkeysOf decrypted).filter selected).map PasskeyRecord.summary)) :
    Deliverable (encodePasskeySummaries (summaries.map passkeySummaryView)) ∧
      Deliverable
        (encodePasskeyManagementSummaries (summaries.map passkeyManagementSummaryView)) := by
  have hlength : summaries.length ≤ Core.maxPasskeyCredentials := by
    rw [hperm.length_eq, List.length_map]
    exact (List.length_filter_le _ _).trans hcapacity
  have hfrom : ∀ summary ∈ summaries, ∃ passkey ∈ passkeysOf decrypted,
      passkey.summary = summary := by
    intro summary hmem
    obtain ⟨passkey, hpasskey, rfl⟩ := List.mem_map.mp (hperm.mem_iff.mp hmem)
    exact ⟨passkey, List.mem_of_mem_filter hpasskey, rfl⟩
  constructor
  · refine deliverable_of_length_le (encodePasskeySummaries_eq_ok ?_ ?_)
    · rw [List.length_map]
      exact hlength
    · intro view hview
      obtain ⟨summary, hsummary, rfl⟩ := List.mem_map.mp hview
      obtain ⟨passkey, hpasskey, rfl⟩ := hfrom summary hsummary
      exact (summary_valid h hpasskey).1
  · refine deliverable_of_length_le (encodePasskeyManagementSummaries_eq_ok ?_ ?_)
    · rw [List.length_map]
      exact hlength
    · intro view hview
      obtain ⟨summary, hsummary, rfl⟩ := List.mem_map.mp hview
      obtain ⟨passkey, hpasskey, rfl⟩ := hfrom summary hsummary
      exact (summary_valid h hpasskey).2

end

section

variable {P : Primitives} {password : MasterPassword}

end

end Librarian.Agent
