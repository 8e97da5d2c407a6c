import Librarian.Core.Steps
import Librarian.Core.Snapshot

/-!
# Prepared mutations

What every preparation has in common, whatever its session knows about the rest of the vault: it has
authenticated the snapshot that it was handed, and it seals the next generation of the manifest.
-/

namespace Librarian.Core

open Librarian.Format

variable {P : Primitives}

/-- A mutation seals the next generation of a session's manifest. -/
def SealsNext (P : Primitives) (vault : UnlockedVault) (prepared : PreparedRecordMutation) : Prop :=
  ∃ kind id envelope entries now,
    ManifestMutationSpec P vault kind id envelope entries now prepared

namespace SealsNext

variable {vault : UnlockedVault} {prepared : PreparedRecordMutation} {entropy rest : Entropy}

theorem of_upsert {kind : RecordMutationKind} {id : RecordId} {plaintext : List UInt8}
    {now : UInt64}
    (h : preparePlaintextUpsert P vault kind id plaintext now entropy = .ok (prepared, rest)) :
    SealsNext P vault prepared := by
  obtain ⟨envelope, entries, -, -, hspec⟩ := preparePlaintextUpsert_spec h
  exact ⟨_, _, _, _, _, hspec⟩

theorem of_prepareUpsert {kind : RecordMutationKind} {id : RecordId}
    {revision created_at_ms now : UInt64} {input : WebsiteAccountInput P}
    (h : prepareUpsert P vault kind id revision created_at_ms input now entropy =
      .ok (prepared, rest)) : SealsNext P vault prepared := by
  simp only [prepareUpsert, Draw.lift_bind_apply, Except.bind_eq_ok] at h
  obtain ⟨_, _, _, _, hupsert⟩ := h
  exact of_upsert hupsert

theorem of_rewritePasskey {passkey : PasskeyRecord} {revision : UInt64} {counter : UInt32}
    {now : UInt64}
    (h : rewritePasskey P vault passkey revision counter now entropy = .ok (prepared, rest)) :
    SealsNext P vault prepared := by
  simp only [rewritePasskey, Draw.lift_bind_apply, Except.bind_eq_ok] at h
  obtain ⟨_, _, _, _, hupsert⟩ := h
  exact of_upsert hupsert

/-- The generation that a mutation seals is the next one. -/
theorem generation (h : SealsNext P vault prepared) :
    prepared.expected_generation = vault.manifest.generation ∧
      prepared.next_manifest.generation.toNat = vault.manifest.generation.toNat + 1 := by
  obtain ⟨kind, id, envelope, entries, now, hspec⟩ := h
  obtain ⟨-, generation, hgeneration, hnext, -⟩ := Manifest.nextGeneration_eq_ok.mp hspec.next
  refine ⟨hspec.generation, ?_⟩
  rw [hnext]
  exact checkedSucc_eq_some hgeneration

theorem sealed (h : SealsNext P vault prepared) :
    SealsManifest P vault prepared.manifest_envelope prepared.next_manifest := by
  obtain ⟨kind, id, envelope, entries, now, hspec⟩ := h
  exact hspec.sealed

end SealsNext

section

variable {vault : StoredVault} {should_cancel : ℕ → Bool} {entropy : Entropy}
  {prepared : PreparedRecordMutation}

/-- Every mutation seals the next generation. -/
theorem Mutation.prepare_sealsNext {mutation : Mutation P}
    (h : mutation.prepare vault should_cancel entropy = .ok prepared) :
    SealsNext P vault.session prepared := by
  cases mutation with
  | addWebsiteAccount input now =>
    obtain ⟨⟨_, rest⟩, hok, rfl⟩ := Except.map_eq_ok.mp h
    simp only [prepareAddWebsiteAccount, prepareAddWithEntropy, Draw.lift_bind_apply,
      Except.bind_eq_ok] at hok
    obtain ⟨-, -, hok⟩ := hok
    split_ifs at hok
    · simp at hok
    · simp only [Draw.bind_eq_ok] at hok
      obtain ⟨_, _, _, hupsert⟩ := hok
      exact .of_prepareUpsert hupsert
  | updateWebsiteAccount id input now =>
    obtain ⟨⟨_, rest⟩, hok, rfl⟩ := Except.map_eq_ok.mp h
    simp only [prepareUpdateWebsiteAccount, Draw.lift_bind_apply, Except.bind_eq_ok] at hok
    obtain ⟨_, _, _, _, hupsert⟩ := hok
    exact .of_prepareUpsert hupsert
  | deleteWebsiteAccount id now =>
    obtain ⟨⟨_, rest⟩, hok, rfl⟩ := Except.map_eq_ok.mp h
    simp only [prepareDeleteWebsiteAccount, Draw.lift_bind_apply, Except.bind_eq_ok] at hok
    obtain ⟨-, -, hok⟩ := hok
    split_ifs at hok
    · simp at hok
    · exact ⟨_, _, _, _, _, prepareManifestMutation_spec hok⟩
  | addPasskey input excluded creation_state now =>
    obtain ⟨⟨⟨_, credential⟩, rest⟩, hok, rfl⟩ := Except.map_eq_ok.mp h
    simp only [prepareAddPasskey, Draw.lift_bind_apply, Except.bind_eq_ok] at hok
    obtain ⟨state, -, hok⟩ := hok
    split_ifs at hok
    all_goals try simp only [Draw.throw_bind_apply, reduceCtorEq] at hok
    simp only [Draw.bind_eq_ok] at hok
    obtain ⟨_, _, _, _, _, _, private_key, _, hkey, hok⟩ := hok
    have hsigning := generateSigningKeyLoop_signingKey hkey
    simp only [hsigning, not_true_eq_false, if_false, Draw.lift_bind_apply, Except.bind_eq_ok,
      Draw.bind_eq_ok, Draw.pure_apply, Except.ok.injEq, Prod.mk.injEq] at hok
    obtain ⟨_, _, _, _, _, _, mutation, _, hupsert, ⟨rfl, -⟩, -⟩ := hok
    exact .of_upsert hupsert
  | confirmPasskeyCreation credential_id now =>
    obtain ⟨⟨_, rest⟩, hok, rfl⟩ := Except.map_eq_ok.mp h
    simp only [prepareConfirmPasskeyCreation, Draw.lift_bind_apply, Except.bind_eq_ok] at hok
    obtain ⟨⟨found, duplicate⟩, -, hok⟩ := hok
    split_ifs at hok
    · simp at hok
    simp only [Draw.lift_bind_apply, Except.bind_eq_ok] at hok
    obtain ⟨passkey, -, hok⟩ := hok
    split_ifs at hok
    · simp at hok
    simp only [Draw.lift_bind_apply, Except.bind_eq_ok] at hok
    obtain ⟨_, _, hrewrite⟩ := hok
    exact .of_rewritePasskey hrewrite
  | passkeyAssertion rp_id credential_id client_data_hash now =>
    obtain ⟨⟨⟨_, assertion⟩, rest⟩, hok, rfl⟩ := Except.map_eq_ok.mp h
    simp only [preparePasskeyAssertion, Draw.lift_bind_apply, Except.bind_eq_ok] at hok
    obtain ⟨_, _, expected, _, ⟨found, duplicate⟩, _, hok⟩ := hok
    split_ifs at hok
    · simp at hok
    simp only [Draw.lift_bind_apply, Except.bind_eq_ok] at hok
    obtain ⟨passkey, -, hok⟩ := hok
    split_ifs at hok
    all_goals simp only [Draw.throw_bind_apply, reduceCtorEq, Draw.lift_bind_apply,
      Except.bind_eq_ok, and_false, exists_false] at hok
    obtain ⟨_, _, counter, _, hok⟩ := hok
    simp only [Draw.bind_eq_ok, Draw.pure_apply, Except.ok.injEq, Prod.mk.injEq] at hok
    obtain ⟨mutation, _, hrewrite, ⟨rfl, -⟩, -⟩ := hok
    exact .of_rewritePasskey hrewrite
  | deletePasskey credential_id now =>
    obtain ⟨⟨_, rest⟩, hok, rfl⟩ := Except.map_eq_ok.mp h
    simp only [prepareDeletePasskey, Draw.lift_bind_apply, Except.bind_eq_ok] at hok
    obtain ⟨⟨found, duplicate⟩, -, hok⟩ := hok
    split_ifs at hok
    · simp at hok
    simp only [Draw.lift_bind_apply, Except.bind_eq_ok] at hok
    obtain ⟨passkey, -, hmutation⟩ := hok
    exact ⟨_, _, _, _, _, prepareManifestMutation_spec hmutation⟩

/-- The operation of a session that prepares a mutation. -/
def Mutation.operation : Mutation P → SnapshotOperation P
  | addWebsiteAccount input now => .prepareAddWebsiteAccount input now
  | updateWebsiteAccount id input now => .prepareUpdateWebsiteAccount id input now
  | deleteWebsiteAccount id now => .prepareDeleteWebsiteAccount id now
  | addPasskey input excluded creation_state now =>
    .prepareAddPasskey input excluded creation_state now
  | confirmPasskeyCreation credential_id now => .prepareConfirmPasskeyCreation credential_id now
  | passkeyAssertion rp_id credential_id client_data_hash now =>
    .preparePasskeyAssertion rp_id credential_id client_data_hash now
  | deletePasskey credential_id now => .prepareDeletePasskey credential_id now

/-- Every preparation has authenticated its snapshot. -/
theorem Mutation.prepare_authentic {mutation : Mutation P}
    (h : mutation.prepare vault should_cancel entropy = .ok prepared) :
    ∃ decrypted, Authentic P vault.session vault.snapshot decrypted := by
  have hok : ∃ result, mutation.operation.perform vault.session vault.snapshot should_cancel
      entropy = .ok result := by
    cases mutation with
    | addWebsiteAccount input now => exact ⟨_, h⟩
    | updateWebsiteAccount id input now => exact ⟨_, h⟩
    | deleteWebsiteAccount id now => exact ⟨_, h⟩
    | confirmPasskeyCreation credential_id now => exact ⟨_, h⟩
    | deletePasskey credential_id now => exact ⟨_, h⟩
    | addPasskey input excluded creation_state now =>
      obtain ⟨result, hok, -⟩ := Except.map_eq_ok.mp h
      exact ⟨result.1, Except.map_eq_ok.mpr ⟨result, hok, rfl⟩⟩
    | passkeyAssertion rp_id credential_id client_data_hash now =>
      obtain ⟨result, hok, -⟩ := Except.map_eq_ok.mp h
      exact ⟨result.1, Except.map_eq_ok.mpr ⟨result, hok, rfl⟩⟩
  obtain ⟨result, hok⟩ := hok
  rcases authentic_or_inputRejected mutation.operation (by rw [hok]; simp) (by rw [hok]; simp)
    with hauthentic | ⟨hconflict, -⟩
  · exact hauthentic
  · rw [hok] at hconflict
    cases hconflict

end

end Librarian.Core
