import Librarian.Core.VaultRun
import Librarian.Format.Protector

/-!
# Unlocking with Windows Hello

A session wraps its root key under a key that only the platform's PRF and this installation can
derive. The protector that holds it is bound to the vault, the key epoch, the installation and the
credential, and an unlock compares all four before it derives anything. What it unwraps is the root
key that the password unwraps, and from there on the two unlocks are the same function.
-/

namespace Librarian.Core

open Librarian.Format

section

variable (P : Primitives)

/-- `windows_hello_installation_id`. -/
def windowsHelloInstallationId (installation_key : Bytes 32) : Bytes 32 :=
  P.sha256 (Utf8.encode "librarian/vault/v1/windows-hello-installation-id" ++ installation_key.val)

/-- `derive_windows_hello_wrapping_key`. -/
def deriveWindowsHelloWrappingKey (prf_output installation_key : Bytes 32) (vault_id : Bytes 16) :
    Option (Bytes 32) :=
  deriveKey P (prf_output.val ++ installation_key.val) vault_id
    (Utf8.encode "librarian/vault/v1/windows-hello-wrap")

/-- `create_windows_hello_protector`. -/
def createWindowsHelloProtector (vault : UnlockedVault) (installation_key : Bytes 32)
    (credential_id : List UInt8) (prf_salt prf_output : Bytes 32) :
    Draw CreateVaultError (List UInt8) := do
  let nonce ← randomArray 24
  let installation_id := windowsHelloInstallationId P installation_key
  let template ← Draw.lift <| (WindowsHelloProtector.new
    { vault_id := vault.header.vault_id
      key_epoch := vault.header.key_epoch
      installation_id := installation_id
      credential_id := credential_id
      prf_salt := prf_salt
      nonce := nonce
      wrapped_vrk := Bytes.replicate 48 0 }).mapErr fun _ => .formatFailure
  let wrapping_key ← Draw.lift <|
    (deriveWindowsHelloWrappingKey P prf_output installation_key vault.header.vault_id).okOr
      .cryptographicFailure
  let wrapped_vrk ← Draw.lift <| encryptFixedKey P wrapping_key template.nonce
    vault.vault_root_key (encodeWindowsHelloWrapperAad template)
  Draw.lift <| (WindowsHelloProtector.new { template with wrapped_vrk := wrapped_vrk } >>=
    fun protector => protector.encode).mapErr fun _ => .formatFailure

/-- `unlock_vault_with_windows_hello`. Each call of `is_cancelled` has an answer of its own. -/
def unlockVaultWithWindowsHello (prf_output installation_key : Bytes 32)
    (credential_id protector_bytes : List UInt8) (snapshot : Snapshot) (cancelled : ℕ → Bool) :
    Except UnlockError UnlockedVault := do
  if cancelled 0 then throw .cancelled
  let header ← (VaultHeader.decode snapshot.header).mapErr fun _ => .failed
  let envelope ← (ManifestEnvelope.decode snapshot.manifest_envelope).mapErr fun _ => .failed
  let protector ← (WindowsHelloProtector.decode protector_bytes).mapErr fun _ => .failed
  if protector.vault_id ≠ header.vault_id ∨ protector.key_epoch ≠ header.key_epoch ∨
      protector.installation_id ≠ windowsHelloInstallationId P installation_key ∨
      protector.credential_id ≠ credential_id then
    throw .failed
  let wrapping_key ←
    (deriveWindowsHelloWrappingKey P prf_output installation_key header.vault_id).okOr .failed
  if cancelled 1 then throw .cancelled
  let vault_root_key ← (decryptFixedKey P wrapping_key protector.nonce protector.wrapped_vrk
    (encodeWindowsHelloWrapperAad protector)).okOr .failed
  authenticateVaultRootKey P vault_root_key header envelope snapshot.records cancelled 2

/-- Installations have different ids: SHA-256 is collision free on installation keys. -/
def DistinguishesInstallations : Prop :=
  ∀ installation_key installation_key', windowsHelloInstallationId P installation_key =
    windowsHelloInstallationId P installation_key' → installation_key = installation_key'

end

/-- A vault after further successful mutations. -/
inductive StoredVault.Continues (P : Primitives) (vault : StoredVault) : StoredVault → Prop
  | refl : Continues P vault vault
  | step {mutation : Mutation P} {later later' : StoredVault} {should_cancel : ℕ → Bool}
      {entropy : Entropy} {prepared : PreparedRecordMutation} (continues : Continues P vault later)
      (prepare : mutation.prepare later should_cancel entropy = .ok prepared)
      (commit : later.commit prepared = some later') : Continues P vault later'

section

variable {P : Primitives} {password : MasterPassword} {vault later : StoredVault}

/-- A commit changes neither the root key nor the header of the session. -/
theorem StoredVault.commit_keeps {prepared : PreparedRecordMutation}
    (h : vault.commit prepared = some later) :
    later.session.vault_root_key = vault.session.vault_root_key ∧
      later.session.header = vault.session.header := by
  unfold StoredVault.commit at h
  split at h
  case h_2 => cases h
  case h_1 records session id hrecords hcommit =>
    simp only [Option.some.injEq] at h
    subst h
    simp only [commitRecordMutation, Except.throw_eq, Except.error_bind, Except.pure_eq,
      Except.bind_eq_ok, Except.ite_error_eq_ok, Except.ok.injEq, Prod.mk.injEq] at hcommit
    obtain ⟨-, -, -, -, rfl, -⟩ := hcommit
    exact ⟨rfl, rfl⟩

theorem StoredVault.Continues.keeps (h : vault.Continues P later) :
    later.session.vault_root_key = vault.session.vault_root_key ∧
      later.session.header = vault.session.header := by
  induction h with
  | refl => exact ⟨rfl, rfl⟩
  | step continues prepare commit ih =>
    obtain ⟨hkey, hheader⟩ := StoredVault.commit_keeps commit
    exact ⟨hkey.trans ih.1, hheader.trans ih.2⟩

theorem StoredVault.Continues.represents (hP : Lawful P) (h : vault.Continues P later)
    (hvault : ∃ V, Represents P password vault V) : ∃ V, Represents P password later V := by
  induction h with
  | refl => exact hvault
  | step continues prepare commit ih =>
    obtain ⟨V, hrepresents⟩ := ih
    obtain ⟨V', -, later', hcommit, hrepresents'⟩ := hrepresents.step hP prepare
    rw [commit, Option.some.injEq] at hcommit
    exact ⟨V', hcommit ▸ hrepresents'⟩

/-- What a protector that has been made decodes to: it is bound to the session's vault, and its
wrapped key unwraps to the session's root key. -/
structure Protects (P : Primitives) (vault : UnlockedVault)
    (prf_output installation_key : Bytes 32) (credential_id : List UInt8)
    (protector : WindowsHelloProtector) : Prop where
  vault_id : protector.vault_id = vault.header.vault_id
  key_epoch : protector.key_epoch = vault.header.key_epoch
  installation_id : protector.installation_id = windowsHelloInstallationId P installation_key
  credential_id : protector.credential_id = credential_id
  unwraps : ∃ wrapping_key,
    deriveWindowsHelloWrappingKey P prf_output installation_key vault.header.vault_id =
      some wrapping_key ∧
    decryptFixedKey P wrapping_key protector.nonce protector.wrapped_vrk
      (encodeWindowsHelloWrapperAad protector) = some vault.vault_root_key

theorem createWindowsHelloProtector_spec (hP : Lawful P) {session : UnlockedVault}
    {prf_output installation_key prf_salt : Bytes 32} {credential_id bytes : List UInt8}
    {entropy rest : Entropy}
    (h : createWindowsHelloProtector P session installation_key credential_id prf_salt prf_output
      entropy = .ok (bytes, rest)) :
    ∃ protector, WindowsHelloProtector.decode bytes = .ok protector ∧
      Protects P session prf_output installation_key credential_id protector := by
  simp only [createWindowsHelloProtector, Draw.bind_eq_ok, Draw.lift_bind_apply, Except.bind_eq_ok,
    Except.mapErr_eq_ok, Option.okOr_eq_ok, WindowsHelloProtector.new_eq_ok] at h
  obtain ⟨nonce, _, -, template, ⟨-, -, rfl⟩, wrapping_key, hderive, wrapped, hwrapped, h⟩ := h
  obtain ⟨bytes', hlift, hbytes⟩ := Except.map_eq_ok (f := fun bytes => (bytes, _)).mp h
  rw [Prod.mk.injEq] at hbytes
  obtain ⟨rfl, -⟩ := hbytes
  simp only [Except.mapErr_eq_ok, Except.bind_eq_ok, WindowsHelloProtector.new_eq_ok] at hlift
  obtain ⟨protector, ⟨-, -, rfl⟩, hencode⟩ := hlift
  refine ⟨_, WindowsHelloProtector.canonical.decode_encode hencode, rfl, rfl, rfl, rfl,
    wrapping_key, hderive, ?_⟩
  -- The associated data does not cover the wrapped key, so it is that of the template.
  exact decryptFixedKey_encryptFixedKey hP hwrapped

/-- A represented vault unlocks with every protector of its root key, to the session. -/
theorem Represents.unlockVaultWithWindowsHello {V : VaultMap} (h : Represents P password vault V)
    {prf_output installation_key : Bytes 32} {credential_id bytes : List UInt8}
    {protector : WindowsHelloProtector}
    (hdecode : WindowsHelloProtector.decode bytes = .ok protector)
    (hprotects : Protects P vault.session prf_output installation_key credential_id protector) :
    Core.unlockVaultWithWindowsHello P prf_output installation_key credential_id bytes
      vault.snapshot (fun _ => false) = .ok vault.session := by
  obtain ⟨wrapping_key, hderive, hunwrap⟩ := hprotects.unwraps
  obtain ⟨envelope, henvelope, hauthentic⟩ := h.authenticateVaultRootKey 2
  simp [Core.unlockVaultWithWindowsHello, VaultHeader.decode_encode h.header, henvelope, hdecode,
    hprotects.vault_id, hprotects.key_epoch, hprotects.installation_id, hprotects.credential_id,
    hderive, hunwrap, hauthentic]

/-- Any difference between what a protector is bound to and what is presented with it. -/
def Mismatch (session : UnlockedVault) (installation_key : Bytes 32) (credential_id : List UInt8)
    (installation_key' : Bytes 32) (credential_id' : List UInt8) (snapshot : Snapshot) : Prop :=
  (∃ header, VaultHeader.decode snapshot.header = .ok header ∧
    (header.vault_id ≠ session.header.vault_id ∨ header.key_epoch ≠ session.header.key_epoch)) ∨
  installation_key' ≠ installation_key ∨ credential_id' ≠ credential_id

/-- A protector unlocks nothing when one of its bindings differs. -/
theorem unlockVaultWithWindowsHello_mismatch (hsha : DistinguishesInstallations P)
    {session : UnlockedVault} {prf_output installation_key prf_output' installation_key' : Bytes 32}
    {credential_id credential_id' bytes : List UInt8} {protector : WindowsHelloProtector}
    (hdecode : WindowsHelloProtector.decode bytes = .ok protector)
    (hprotects : Protects P session prf_output installation_key credential_id protector)
    {snapshot : Snapshot}
    (hmismatch : Mismatch session installation_key credential_id installation_key' credential_id'
      snapshot) (cancelled : ℕ → Bool) :
    unlockVaultWithWindowsHello P prf_output' installation_key' credential_id' bytes snapshot
      cancelled = .error (if cancelled 0 then .cancelled else .failed) := by
  unfold unlockVaultWithWindowsHello
  cases hcancelled : cancelled 0 with
  | true => simp
  | false =>
  simp only [Bool.false_eq_true, if_false]
  cases hheader : VaultHeader.decode snapshot.header with
  | error e => rfl
  | ok header =>
  cases henvelope : ManifestEnvelope.decode snapshot.manifest_envelope with
  | error e => rfl
  | ok envelope =>
  simp only [hdecode, Except.mapErr_ok, Except.ok_bind, Except.throw_eq, Except.error_bind]
  rw [if_pos]
  rw [hprotects.vault_id, hprotects.key_epoch, hprotects.installation_id, hprotects.credential_id]
  rcases hmismatch with ⟨header', hheader', hdiffers⟩ | hkey | hcredential
  · rw [hheader, Except.ok.injEq] at hheader'
    subst hheader'
    rcases hdiffers with hid | hepoch
    · exact .inl hid.symm
    · exact .inr (.inl hepoch.symm)
  · exact .inr (.inr (.inl fun hid => hkey (hsha _ _ hid).symm))
  · exact .inr (.inr (.inr hcredential.symm))

/-- Password and Windows Hello agree. A protector that any session of a vault has made unlocks the
vault at any later time, to the session that the password unlocks; and it unlocks nothing for another
vault, key epoch, installation or credential. -/
theorem windows_hello_unlock_agrees (hP : Lawful P) (hsha : DistinguishesInstallations P)
    {created_at_ms : UInt64} {mutations : List (Mutation P)}
    (hrun : StoredVault.Run P password created_at_ms mutations vault)
    {installation_key prf_salt prf_output : Bytes 32} {credential_id protector : List UInt8}
    {entropy rest : Entropy}
    (hprotector : createWindowsHelloProtector P vault.session installation_key credential_id
      prf_salt prf_output entropy = .ok (protector, rest))
    (hlater : vault.Continues P later) :
    unlockVaultWithWindowsHello P prf_output installation_key credential_id protector
        later.snapshot (fun _ => false) = .ok later.session ∧
      unlockVault P password later.snapshot (fun _ => false) = .ok later.session ∧
      ∀ (prf_output' installation_key' : Bytes 32) (credential_id' : List UInt8)
        (snapshot : Snapshot) (cancelled : ℕ → Bool),
        Mismatch vault.session installation_key credential_id installation_key' credential_id'
          snapshot →
        unlockVaultWithWindowsHello P prf_output' installation_key' credential_id' protector
          snapshot cancelled = .error (if cancelled 0 then .cancelled else .failed) := by
  obtain ⟨V, -, hrepresents⟩ := hrun.represents hP
  obtain ⟨V', hrepresents'⟩ := hlater.represents hP ⟨V, hrepresents⟩
  obtain ⟨decoded, hdecode, hprotects⟩ := createWindowsHelloProtector_spec hP hprotector
  -- The later session has the root key and the header of the one that made the protector.
  obtain ⟨hkey, hheader⟩ := hlater.keeps
  have hprotects' : Protects P later.session prf_output installation_key credential_id decoded := by
    obtain ⟨wrapping_key, hderive, hunwrap⟩ := hprotects.unwraps
    refine ⟨?_, ?_, hprotects.installation_id, hprotects.credential_id, wrapping_key, ?_, ?_⟩
    · rw [hheader, hprotects.vault_id]
    · rw [hheader, hprotects.key_epoch]
    · rw [hheader, hderive]
    · rw [hkey, hunwrap]
  refine ⟨hrepresents'.unlockVaultWithWindowsHello hdecode hprotects', hrepresents'.unlockVault, ?_⟩
  intro prf_output' installation_key' credential_id' snapshot cancelled hmismatch
  exact unlockVaultWithWindowsHello_mismatch hsha hdecode hprotects hmismatch cancelled

end

/-! ### A sample protector -/

/-- The sample primitives with a digest that keeps the last bytes of its input. -/
def lastBytesPrimitives : Primitives :=
  { exampleComPrimitives with
    sha256 := fun bytes =>
      (Bytes.ofList? 32 (bytes.drop (bytes.length - 32))).getD (Bytes.replicate 32 0) }

theorem lastBytesPrimitives_lawful : Lawful lastBytesPrimitives where
  decrypt_encrypt := exampleComPrimitives_lawful.decrypt_encrypt
  normalizeOrigin_idem := exampleComPrimitives_lawful.normalizeOrigin_idem

theorem lastBytesPrimitives_distinguishes : DistinguishesInstallations lastBytesPrimitives := by
  have hid (key : Bytes 32) : windowsHelloInstallationId lastBytesPrimitives key = key := by
    simp only [windowsHelloInstallationId, lastBytesPrimitives, List.length_append, key.property,
      Nat.add_sub_cancel, List.drop_left]
    simp
  intro key key' h
  rwa [hid, hid] at h

/-- An account at the one origin that the sample parser knows. -/
def lastBytesInput : WebsiteAccountInput lastBytesPrimitives where
  service_name := "Example"
  permitted_origin := "https://example.com"
  username := "user"
  password := "password"
  normalized := ⟨"https://example.com", rfl⟩

/-- Creates a vault, makes a protector of its root key, and adds an account. -/
def protectedRun : Option (MasterPassword × StoredVault × List UInt8 × StoredVault) := do
  let password ← MasterPassword.new "master"
  let (created, _) ← (createVault lastBytesPrimitives password 0 [List.replicate 16 0,
    List.replicate 32 0, List.replicate 32 0, List.replicate 16 0, List.replicate 24 0,
    List.replicate 24 0, List.replicate 24 0]).toOption
  let vault : StoredVault :=
    ⟨created.session, ⟨created.header, created.manifest_envelope, []⟩⟩
  let (protector, _) ← (createWindowsHelloProtector lastBytesPrimitives vault.session
    (Bytes.replicate 32 1) [1] (Bytes.replicate 32 2) (Bytes.replicate 32 3)
    [List.replicate 24 0]).toOption
  let prepared ← ((Mutation.addWebsiteAccount lastBytesInput 1).prepare vault (fun _ => false)
    [List.replicate 16 1, List.replicate 24 0, List.replicate 24 0]).toOption
  let later ← vault.commit prepared
  return (password, vault, protector, later)

/-- The protector of the sample vault unlocks it after the account was added, and not for another
credential. -/
theorem windows_hello_unlock_agrees_sample :
    ∃ password vault protector later, protectedRun = some (password, vault, protector, later) ∧
      unlockVaultWithWindowsHello lastBytesPrimitives (Bytes.replicate 32 3) (Bytes.replicate 32 1)
        [1] protector later.snapshot (fun _ => false) =
        unlockVault lastBytesPrimitives password later.snapshot (fun _ => false) ∧
      unlockVaultWithWindowsHello lastBytesPrimitives (Bytes.replicate 32 3) (Bytes.replicate 32 1)
        [2] protector later.snapshot (fun _ => false) = .error .failed := by
  have hsome : protectedRun.isSome := by decide +kernel
  obtain ⟨⟨password, vault, protector, later⟩, hrun⟩ := Option.isSome_iff_exists.mp hsome
  refine ⟨password, vault, protector, later, hrun, ?_⟩
  simp only [protectedRun, Option.bind_eq_bind, Option.bind_eq_some_iff, Except.toOption_eq_some,
    Option.pure_def, Option.some.injEq, Prod.mk.injEq] at hrun
  obtain ⟨_, -, ⟨created, _⟩, hcreate, ⟨_, _⟩, hprotector, prepared, hprepare, _, hcommit, rfl,
    rfl, rfl, rfl⟩ := hrun
  obtain ⟨hhello, hpassword, hmismatch⟩ := windows_hello_unlock_agrees lastBytesPrimitives_lawful
    lastBytesPrimitives_distinguishes (.create hcreate) hprotector
    (.step .refl hprepare hcommit)
  refine ⟨by rw [hhello, hpassword], ?_⟩
  exact hmismatch (Bytes.replicate 32 3) (Bytes.replicate 32 1) [2] _ (fun _ => false)
    (.inr (.inr (by simp)))

end Librarian.Core
