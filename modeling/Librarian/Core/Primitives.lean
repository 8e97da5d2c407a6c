import Librarian.Format.Records

/-!
# What the vault core is built on

The core calls cryptographic primitives, a URL parser and the operating system's random generator,
none of which are part of the repository. They are parameters here: `Primitives` for the pure
functions, and an `Entropy` value for the bytes that the generator hands out. The functions of the
core that wrap them, and the two normalisations that are built on the URL parser, are translated.
-/

namespace Librarian.Core

open Librarian.Format

/-- What the core reads off a URL that the `url` crate has parsed. -/
structure Url where
  scheme : String
  host : Option String
  username : String
  password : Option String
  port : Option ℕ
  query : Option String
  fragment : Option String
  path : String
  /-- `origin().ascii_serialization()`. -/
  origin : String
  deriving DecidableEq

/-- The primitives that the core calls, each with the failures that its interface allows. -/
structure Primitives where
  /-- Argon2id with the version-1 parameters, on a password and a salt. -/
  argon2id : List UInt8 → Bytes 16 → Option (Bytes 32)
  /-- HKDF-SHA256 on an input key, a salt and a label. -/
  hkdf : List UInt8 → List UInt8 → List UInt8 → Option (Bytes 32)
  /-- SHA-256. -/
  sha256 : List UInt8 → Bytes 32
  /-- XChaCha20-Poly1305 encryption on a key, a nonce, a plaintext and associated data. -/
  encrypt : Bytes 32 → Bytes 24 → List UInt8 → List UInt8 → Option (List UInt8)
  /-- XChaCha20-Poly1305 decryption on a key, a nonce, a ciphertext and associated data. -/
  decrypt : Bytes 32 → Bytes 24 → List UInt8 → List UInt8 → Option (List UInt8)
  /-- Whether `SigningKey::from_slice` accepts a scalar. -/
  signingKey : Bytes 32 → Bool
  /-- The uncompressed SEC1 point of a scalar's public key. -/
  publicKey : Bytes 32 → List UInt8
  /-- The DER encoding of a scalar's signature on a message. -/
  sign : Bytes 32 → List UInt8 → List UInt8
  /-- `Url::parse`. -/
  parseUrl : String → Option Url

/-- Non-secret failures while creating a brand-new vault. -/
inductive CreateVaultError
  | randomnessUnavailable
  | cryptographicFailure
  | formatFailure
  deriving DecidableEq, Repr

/-! ## Entropy -/

/-- The byte strings that the random generator will hand out, one for each `fill`. A `fill` that
finds no string of the requested length has failed. -/
abbrev Entropy : Type := List (List UInt8)

/-- A computation that draws random bytes and can fail. -/
abbrev Draw (ε α : Type) : Type := StateT Entropy (Except ε) α

namespace Draw

variable {ε α β : Type}

/-- A step that draws nothing. -/
def lift (x : Except ε α) : Draw ε α := fun entropy => x.map (·, entropy)

@[simp]
theorem lift_bind_apply (x : Except ε α) (f : α → Draw ε β) (entropy : Entropy) :
    (lift x >>= f) entropy = x >>= fun a => f a entropy := by
  cases x <;> rfl

/-- A sequence succeeds when both parts do, the second on what the first has not drawn. -/
theorem bind_eq_ok {x : Draw ε α} {f : α → Draw ε β} {entropy : Entropy} {r : β × Entropy} :
    (x >>= f) entropy = .ok r ↔ ∃ a rest, x entropy = .ok (a, rest) ∧ f a rest = .ok r := by
  change (x entropy >>= fun p => f p.1 p.2) = .ok r ↔ _
  simp [Except.bind_eq_ok, Prod.exists]

/-- A sequence goes on with what its first part has returned and has not drawn. -/
theorem bind_of_ok {x : Draw ε α} {entropy rest : Entropy} {a : α} (h : x entropy = .ok (a, rest))
    (f : α → Draw ε β) : (x >>= f) entropy = f a rest := by
  change (x entropy >>= fun p => f p.1 p.2) = _
  rw [h]
  rfl

@[simp]
theorem throw_apply (e : ε) (entropy : Entropy) :
    (throw e : Draw ε α) entropy = .error e := rfl

@[simp]
theorem throw_bind_apply (e : ε) (f : α → Draw ε β) (entropy : Entropy) :
    ((throw e : Draw ε α) >>= f) entropy = .error e := rfl

@[simp]
theorem pure_apply (a : α) (entropy : Entropy) :
    (pure a : Draw ε α) entropy = .ok (a, entropy) := rfl

/-- A guard reads no random bytes. -/
theorem ite_apply {c : Prop} [Decidable c] (x y : Draw ε α) (entropy : Entropy) :
    (if c then x else y) entropy = if c then x entropy else y entropy := by
  split_ifs <;> rfl

end Draw

/-- `random_array` and `random_secret_array`. -/
def randomArray (n : ℕ) : Draw CreateVaultError (Bytes n) := fun entropy =>
  match Bytes.ofList? n entropy.headI with
  | some value => .ok (value, entropy.tail)
  | none => .error .randomnessUnavailable

/-- `random_array(entropy).ok()`: a failed `fill` is no candidate, and drawing goes on. -/
def randomArray? (n : ℕ) (entropy : Entropy) : Option (Bytes n) × Entropy :=
  (Bytes.ofList? n entropy.headI, entropy.tail)

/-! ## Keys -/

section

variable (P : Primitives)

/-- `derive_password_key`. -/
def derivePasswordKey (password : List UInt8) (salt : Bytes 16) : Option (Bytes 32) :=
  P.argon2id password salt

/-- `derive_key`. -/
def deriveKey (input_key : List UInt8) (vault_id : Bytes 16) (label : List UInt8) :
    Option (Bytes 32) :=
  P.hkdf input_key vault_id.val label

/-- `derive_manifest_key`. -/
def deriveManifestKey (vault_root_key : Bytes 32) (vault_id : Bytes 16) (key_epoch : UInt32) :
    Option (Bytes 32) :=
  deriveKey P vault_root_key.val vault_id
    (Utf8.encode "librarian/vault/v1/manifest/" ++ BigEndian.encode 4 key_epoch.toNat)

/-- `encrypt_bytes`. -/
def encryptBytes (key : Bytes 32) (nonce : Bytes 24) (plaintext aad : List UInt8) :
    Except CreateVaultError (List UInt8) :=
  (P.encrypt key nonce plaintext aad).okOr .cryptographicFailure

/-- `encrypt_fixed_key`. -/
def encryptFixedKey (key : Bytes 32) (nonce : Bytes 24) (plaintext : Bytes 32)
    (aad : List UInt8) : Except CreateVaultError (Bytes 48) := do
  let ciphertext ← encryptBytes P key nonce plaintext.val aad
  (Bytes.ofList? 48 ciphertext).okOr .cryptographicFailure

/-- `decrypt_bytes`. -/
def decryptBytes (key : Bytes 32) (nonce : Bytes 24) (ciphertext aad : List UInt8) :
    Option (List UInt8) :=
  P.decrypt key nonce ciphertext aad

/-- `decrypt_fixed_key`. -/
def decryptFixedKey (key : Bytes 32) (nonce : Bytes 24) (ciphertext : Bytes 48)
    (aad : List UInt8) : Option (Bytes 32) := do
  let plaintext ← decryptBytes P key nonce ciphertext.val aad
  Bytes.ofList? 32 plaintext

/-! ## Normalised origins and relying-party identifiers -/

/-- Actionable input validation failures before a vault operation starts. -/
inductive WebsiteAccountInputError
  | invalidServiceName
  | invalidOrigin
  | fieldTooLarge
  deriving DecidableEq, Repr

/-- `normalize_origin`. -/
def normalizeOrigin (value : String) : Except WebsiteAccountInputError String := do
  if value.utf8ByteSize > maxOriginBytes then throw .fieldTooLarge
  let parsed ← (P.parseUrl value).okOr .invalidOrigin
  if ¬(parsed.scheme = "http" ∨ parsed.scheme = "https") ∨ parsed.host = none ∨
      parsed.username ≠ "" ∨ parsed.password ≠ none ∨ parsed.query ≠ none ∨
      parsed.fragment ≠ none ∨ parsed.path ≠ "/" then
    throw .invalidOrigin
  let normalized := parsed.origin
  if normalized = "null" ∨ normalized.utf8ByteSize > maxOriginBytes then throw .invalidOrigin
  return normalized

/-- Actionable passkey input failures before a vault operation starts. -/
inductive PasskeyInputError
  | invalidRpId
  | invalidUser
  | fieldTooLarge
  deriving DecidableEq, Repr

/-- `trim_end_matches('.').to_ascii_lowercase()`. -/
def trimHost (host : String) : String :=
  String.ofList ((host.toList.reverse.dropWhile (· == '.')).reverse.map Char.toLower)

/-- `normalize_rp_id`. -/
def normalizeRpId (value : String) : Except PasskeyInputError String := do
  if value = "" ∨ value.utf8ByteSize > maxPasskeyRpIdBytes ∨ hasControl value then
    throw (if value.utf8ByteSize > maxPasskeyRpIdBytes then .fieldTooLarge else .invalidRpId)
  let parsed ← (P.parseUrl ("https://" ++ value)).okOr .invalidRpId
  if parsed.host = none ∨ parsed.username ≠ "" ∨ parsed.password ≠ none ∨ parsed.port ≠ none ∨
      parsed.query ≠ none ∨ parsed.fragment ≠ none ∨ parsed.path ≠ "/" then
    throw .invalidRpId
  let host := trimHost (← parsed.host.okOr .invalidRpId)
  if host = "" ∨ host.utf8ByteSize > maxPasskeyRpIdBytes ∨ value.toList.getLast? = some '.' then
    throw .invalidRpId
  return host

end

end Librarian.Core
