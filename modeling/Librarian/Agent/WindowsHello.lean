import Librarian.Core.Session

/-!
# The local state of Windows Hello

What the agent keeps on the device besides the vault: one enrollment, possibly with the credential
that it replaces, or a credential that has still to be removed.
-/

namespace Librarian.Agent

/-- `MAX_WINDOWS_HELLO_CREDENTIAL_ID_BYTES`. -/
def maxWindowsHelloCredentialIdBytes : ℕ := 1024

/-- Failures of the state store. `published` is a failure after the new state has become visible. -/
inductive WindowsHelloStateError
  | notFound
  | invalid
  | failed
  | published
  deriving DecidableEq, Repr

/-- Failures of the platform's provider. -/
inductive WindowsHelloProviderError
  | invalidRequest
  | unavailable
  | cancelled
  | failed
  | removalFailed
  | cleanupRequired (credential_id : List UInt8)
  deriving DecidableEq, Repr

/-- What the provider returns for an enrollment. -/
structure WindowsHelloEnrollment where
  credential_id : List UInt8
  prf_salt : Bytes 32
  prf_output : Bytes 32
  deriving DecidableEq

/-- The device-local state. -/
inductive WindowsHelloLocalState
  | enrollment (vault_id : Bytes 16) (key_epoch : UInt32) (installation_key : Bytes 32)
      (credential_id : List UInt8) (pending_removal_credential_id : Option (List UInt8))
      (prf_salt : Bytes 32) (protector : List UInt8)
  | pendingRemoval (credential_id : List UInt8)
  deriving DecidableEq

namespace WindowsHelloLocalState

/-- `vault_binding`. -/
def vaultBinding : WindowsHelloLocalState → Option (Bytes 16 × UInt32)
  | enrollment vault_id key_epoch .. => some (vault_id, key_epoch)
  | pendingRemoval _ => none

/-- `installation_key`. -/
def installationKey : WindowsHelloLocalState → Option (Bytes 32)
  | enrollment _ _ installation_key .. => some installation_key
  | pendingRemoval _ => none

/-- `credential_id`. -/
def credentialId : WindowsHelloLocalState → Option (List UInt8)
  | enrollment _ _ _ credential_id .. => some credential_id
  | pendingRemoval _ => none

/-- `pending_removal_credential_id`. -/
def pendingRemovalCredentialId : WindowsHelloLocalState → Option (List UInt8)
  | enrollment _ _ _ _ pending .. => pending
  | pendingRemoval credential_id => some credential_id

/-- `prf_salt`. -/
def prfSalt : WindowsHelloLocalState → Option (Bytes 32)
  | enrollment _ _ _ _ _ prf_salt _ => some prf_salt
  | pendingRemoval _ => none

/-- `protector`. -/
def protector : WindowsHelloLocalState → Option (List UInt8)
  | enrollment _ _ _ _ _ _ protector => some protector
  | pendingRemoval _ => none

/-- `WindowsHelloLocalState::pending_removal`. -/
def newPendingRemoval (credential_id : List UInt8) : Option WindowsHelloLocalState :=
  if credential_id = [] ∨ credential_id.length > maxWindowsHelloCredentialIdBytes then none
  else some (pendingRemoval credential_id)

/-- `set_pending_removal_credential_id`. -/
def setPendingRemovalCredentialId (credential_id : List UInt8) :
    WindowsHelloLocalState → Option WindowsHelloLocalState
  | enrollment vault_id key_epoch installation_key active _ prf_salt protector =>
    if credential_id = [] ∨ credential_id.length > maxWindowsHelloCredentialIdBytes ∨
        credential_id = active then none
    else some (enrollment vault_id key_epoch installation_key active (some credential_id) prf_salt
      protector)
  | pendingRemoval _ => none

/-- `clear_pending_removal_credential_id`. -/
def clearPendingRemovalCredentialId : WindowsHelloLocalState → Option WindowsHelloLocalState
  | enrollment vault_id key_epoch installation_key credential_id _ prf_salt protector =>
    some (enrollment vault_id key_epoch installation_key credential_id none prf_salt protector)
  | pendingRemoval _ => none

end WindowsHelloLocalState

/-- The calls of the provider and of the state store that change what they hold, and the load of the
state. -/
inductive HelloCall
  | load
  | save (state : WindowsHelloLocalState)
  | removeState
  | enroll
  | removeCredential (credential_id : List UInt8)
  deriving DecidableEq

/-- What the calls return. -/
abbrev HelloCall.Result : HelloCall → Type
  | load => Except WindowsHelloStateError WindowsHelloLocalState
  | save _ | removeState => Except WindowsHelloStateError Unit
  | enroll => Except WindowsHelloProviderError WindowsHelloEnrollment
  | removeCredential _ => Bool

end Librarian.Agent
