import Librarian.Desktop.Cbor
import Librarian.Protocol.Frame

/-!
# The messages of the desktop client

The part of `DesktopTransport.cpp` that turns requests into bytes and responses into values. The texts
of the client are UTF-16; those that are not well formed do not leave `utf8`, and `wide` makes no
others, so that a text is a `String` here.
-/

namespace Librarian.Desktop

open Librarian.Protocol

/-- `maximum_payload_bytes`. -/
def maximumPayloadBytes : ℕ := 65536

/-- `cbor_writer::take`. -/
def take (buffer : List UInt8) : Except TransportError (List UInt8) :=
  if buffer.length > maximumPayloadBytes then .error .invalid else .ok buffer

/-- `utf8`. -/
def utf8 (value : String) : List UInt8 := Utf8.encode value

/-- `wide`. -/
def wide (value : List UInt8) : Except TransportError String :=
  (Utf8.decode value).okOr .invalid

/-- `nonzero`. -/
def nonzero (value : List UInt8) : Bool := value.any (· != 0)

/-! ## Requests -/

/-- `operation`. -/
inductive Operation
  | status
  | createVault
  | unlockMasterPassword
  | lock
  | listAccountSummaries
  | addAccount
  | enrollWindowsHello
  | removeWindowsHello
  | unlockWindowsHello
  | deletePasskey
  | listPasskeys
  deriving DecidableEq, Repr

/-- The codes of `operation`. -/
def Operation.code : Operation → UInt16
  | status => 1
  | createVault => 2
  | unlockMasterPassword => 3
  | lock => 4
  | listAccountSummaries => 5
  | addAccount => 7
  | enrollWindowsHello => 10
  | removeWindowsHello => 11
  | unlockWindowsHello => 12
  | deletePasskey => 32
  | listPasskeys => 34

/-- `requires_idempotency`. -/
def requiresIdempotency (value : Operation) : Bool :=
  value = .createVault ∨ value = .addAccount ∨ value = .enrollWindowsHello ∨
    value = .removeWindowsHello ∨ value = .deletePasskey

/-- `random_bytes`, on what the system has drawn. -/
def randomBytes (drawn : Option (Bytes 16)) : Except TransportError (Bytes 16) :=
  match drawn with
  | none => .error .invalid
  | some key => if key.isZero then .error .invalid else .ok key

/-- The idempotency key of a request, or null. -/
def writeKey (requested_operation : Operation) (drawn : Option (Bytes 16)) :
    Except TransportError (List UInt8) :=
  if requiresIdempotency requested_operation then (randomBytes drawn).map fun key => bytes key.val
  else .ok nullValue

/-- `request_envelope`. -/
def requestEnvelope (requested_operation : Operation) (unlock_epoch : UInt64) (timeout_ms : UInt32)
    (drawn : Option (Bytes 16)) (body : List UInt8) : Except TransportError (List UInt8) := do
  let key ← writeKey requested_operation drawn
  take (array 5 ++ unsignedValue requested_operation.code.toUInt64 ++ unsignedValue unlock_epoch ++
    unsignedValue timeout_ms.toUInt64 ++ key ++ bytes body)

/-- `empty_body`. -/
def emptyBody : Except TransportError (List UInt8) := take (array 0)

/-- `password_body`. -/
def passwordBody (password : String) : Except TransportError (List UInt8) :=
  take (array 1 ++ text (utf8 password))

/-- `parent_window_body`. -/
def parentWindowBody (parent_window : UInt64) : Except TransportError (List UInt8) :=
  if parent_window = 0 then .error .invalid
  else take (array 1 ++ unsignedValue parent_window)

/-- `AccountDraft`. -/
structure AccountDraft where
  service_name : String
  origin : String
  username : String
  password : String

/-- `account_body`. -/
def accountBody (account : AccountDraft) : Except TransportError (List UInt8) :=
  take (array 4 ++ text (utf8 account.service_name) ++ text (utf8 account.origin) ++
    text (utf8 account.username) ++ text (utf8 account.password))

/-- `list_body`. -/
def listBody (offset : UInt32) : Except TransportError (List UInt8) :=
  take (array 2 ++ unsignedValue offset.toUInt64 ++ unsignedValue 100)

/-- `delete_passkey_body`. -/
def deletePasskeyBody (credential_id : Bytes 32) : Except TransportError (List UInt8) :=
  take (array 1 ++ bytes credential_id.val)

/-- The requests of `IDesktopClient`. -/
inductive DesktopRequest
  | getStatus
  | createVault (master_password : String)
  | unlock (master_password : String)
  | unlockWindowsHello (parent_window : UInt64)
  | enrollWindowsHello (parent_window : UInt64)
  | removeWindowsHello
  | lock
  | listAccounts (offset : UInt32)
  | listPasskeys
  | deletePasskey (credential_id : Bytes 32)
  | saveAccount (account : AccountDraft)

namespace DesktopRequest

/-- The operation that a request names. -/
def operation : DesktopRequest → Operation
  | getStatus => .status
  | createVault _ => .createVault
  | unlock _ => .unlockMasterPassword
  | unlockWindowsHello _ => .unlockWindowsHello
  | enrollWindowsHello _ => .enrollWindowsHello
  | removeWindowsHello => .removeWindowsHello
  | lock => .lock
  | listAccounts _ => .listAccountSummaries
  | listPasskeys => .listPasskeys
  | deletePasskey _ => .deletePasskey
  | saveAccount _ => .addAccount

/-- The body that a request sends. -/
def body : DesktopRequest → Except TransportError (List UInt8)
  | getStatus | removeWindowsHello | lock | listPasskeys => emptyBody
  | createVault master_password | unlock master_password => passwordBody master_password
  | unlockWindowsHello parent_window | enrollWindowsHello parent_window =>
    parentWindowBody parent_window
  | listAccounts offset => listBody offset
  | deletePasskey credential_id => deletePasskeyBody credential_id
  | saveAccount account => accountBody account

/-- The request that the agent's library has for the same operation and values. -/
def toOperationRequest : DesktopRequest → Except ProtocolError OperationRequest
  | getStatus => .ok .status
  | createVault master_password => .ok (.createVault master_password)
  | unlock master_password => .ok (.unlockMasterPassword master_password)
  | unlockWindowsHello parent_window => .ok (.unlockWindowsHello parent_window)
  | enrollWindowsHello parent_window => .ok (.enrollWindowsHello parent_window)
  | removeWindowsHello => .ok .removeWindowsHello
  | lock => .ok .lock
  | listAccounts offset => .ok (.listAccountSummaries offset 100)
  | listPasskeys => .ok .listPasskeys
  | deletePasskey credential_id => .ok (.deletePasskey credential_id)
  | saveAccount account =>
    (AccountFields.new account.service_name account.origin account.username account.password).map
      .addAccount

end DesktopRequest

/-! ## Responses -/

/-- `decoded_response`. -/
structure DecodedResponse where
  error : UInt8
  retry : UInt8
  body : List UInt8
  deriving DecidableEq

/-- The reads and checks of `decode_response`. -/
def decodeResponseFrom : Reader DecodedResponse := do
  if (← readArray) ≠ 4 then throw .invalid
  let error ← readUnsigned
  let retry ← readUnsigned
  let correlation ← readBytes 16
  let body ← readBytes (maximumPayloadBytes - 96)
  finish
  if error > 11 ∨ retry = 0 ∨ retry > 4 ∨ correlation.length ≠ 16 ∨ nonzero correlation = false ∨
      error ≠ 0 ∧ body ≠ [] ∨ error = 0 ∧ retry ≠ 1 then
    throw .invalid
  return ⟨error.toUInt8, retry.toUInt8, body⟩

/-- `decode_response`, on the payload of a frame. -/
def decodeResponse (payload : List UInt8) : Except TransportError DecodedResponse :=
  run decodeResponseFrom payload

/-- `ClientError`. -/
inductive ClientError
  | none
  | agentUnavailable
  | busy
  | cancelled
  | invalidCredentials
  | windowsHelloUnavailable
  | locked
  | unexpected
  deriving DecidableEq, Repr

/-- `VaultStatus`. -/
inductive VaultStatus
  | firstRun
  | locked
  | unlocked
  deriving DecidableEq, Repr

/-- `ClientResult`. -/
structure ClientResult where
  error : ClientError
  status : VaultStatus
  deriving DecidableEq, Repr

/-- The end of `decode_status_body`. -/
def statusResult (state : UInt64) : Except TransportError ClientResult :=
  if state = 2 then .ok ⟨.none, .firstRun⟩
  else if state = 3 then .ok ⟨.none, .locked⟩
  else if state = 4 ∨ state = 6 then .ok ⟨.busy, .locked⟩
  else if state = 5 then .ok ⟨.none, .unlocked⟩
  else .error .unavailable

/-- The reads of `decode_status_body`. -/
def decodeStatusFrom : Reader ClientResult := do
  if (← readArray) ≠ 2 then throw .invalid
  let state ← readUnsigned
  let _ ← readUnsigned
  finish
  liftM (statusResult state)

/-- `decode_status_body`. -/
def decodeStatusBody (body : List UInt8) : Except TransportError ClientResult :=
  run decodeStatusFrom body

/-- A digit of `hex_identifier`. -/
def hexDigit (nibble : UInt8) : Char :=
  if nibble < 10 then Char.ofNat (48 + nibble.toNat) else Char.ofNat (87 + nibble.toNat)

/-- The text of `hex_identifier`. -/
def hexText (identifier : List UInt8) : List Char :=
  identifier.flatMap fun byte : UInt8 => [hexDigit (byte >>> 4), hexDigit (byte &&& 0x0f)]

/-- `hex_identifier`. -/
def hexIdentifier (identifier : List UInt8) (expected_bytes : ℕ) :
    Except TransportError (List Char) :=
  if identifier.length ≠ expected_bytes ∨ nonzero identifier = false then .error .invalid
  else .ok (hexText identifier)

/-- `AccountSummary`. -/
structure AccountSummary where
  id : List Char
  service_name : String
  origin : String
  username : String
  deriving DecidableEq

/-- `account_page`. -/
structure AccountPage where
  next_offset : Option UInt32
  accounts : List AccountSummary
  deriving DecidableEq

/-- `PasskeySummary` of the client. -/
structure PasskeyEntry where
  credential_id : List Char
  rp_id : String
  user_name : String
  user_display_name : String
  deriving DecidableEq

/-- One round of the loop of `decode_passkey_list`. -/
def readPasskey : Reader PasskeyEntry := do
  if (← readArray) ≠ 4 then throw .invalid
  let credential_id ← liftM (hexIdentifier (← readBytes 32) 32)
  let rp_id ← liftM (wide (← readText 253))
  let user_name ← liftM (wide (← readText 256))
  let user_display_name ← liftM (wide (← readText 256))
  if rp_id = "" ∨ user_name = "" ∨ user_display_name = "" then throw .invalid
  return ⟨credential_id, rp_id, user_name, user_display_name⟩

/-- One round of the loop of `decode_account_page`. -/
def readAccount : Reader AccountSummary := do
  if (← readArray) ≠ 7 then throw .invalid
  let id ← readBytes 16
  let _ ← readUnsigned
  let _ ← readUnsigned
  let _ ← readUnsigned
  let service ← liftM (wide (← readText 256))
  let origin ← liftM (wide (← readText 2048))
  let username ← liftM (wide (← readText 1024))
  return ⟨← liftM (hexIdentifier id 16), service, origin, username⟩

/-- A loop that reads a value in each round. -/
def readMany {α : Type} (read : Reader α) : ℕ → Reader (List α)
  | 0 => pure []
  | count + 1 => do
    let value ← read
    let values ← readMany read count
    return value :: values

/-- The reads of `decode_passkey_list`. -/
def decodePasskeyListFrom : Reader (List PasskeyEntry) := do
  let count ← readArray
  if count > 64 then throw .invalid
  let passkeys ← readMany readPasskey count.toNat
  finish
  return passkeys

/-- `decode_passkey_list`. -/
def decodePasskeyList (body : List UInt8) : Except TransportError (List PasskeyEntry) :=
  run decodePasskeyListFrom body

/-- The optional offset of `decode_account_page`. -/
def readNextOffset : Reader (Option UInt32) := fun input =>
  match input with
  | 0xf6 :: rest => .ok (none, rest)
  | _ => (do
    let value ← readUnsigned
    if value > 0xffffffff then throw .invalid
    return some value.toUInt32 : Reader (Option UInt32)) input

/-- The reads of `decode_account_page`. -/
def decodeAccountPageFrom : Reader AccountPage := do
  if (← readArray) ≠ 2 then throw .invalid
  let next_offset ← readNextOffset
  let count ← readArray
  if count > 100 then throw .invalid
  let accounts ← readMany readAccount count.toNat
  finish
  return ⟨next_offset, accounts⟩

/-- `decode_account_page`. -/
def decodeAccountPage (body : List UInt8) : Except TransportError AccountPage :=
  run decodeAccountPageFrom body

/-! ## Frames -/

/-- `write_u16`, at the place that it writes to. -/
def writeU16 (value : UInt16) : List UInt8 := [(value >>> 8).toUInt8, value.toUInt8]

/-- `write_u32`. -/
def writeU32 (value : UInt32) : List UInt8 :=
  [24, 16, 8, 0].map fun shift : UInt32 => (value >>> shift).toUInt8

/-- `write_u64`. -/
def writeU64 (value : UInt64) : List UInt8 :=
  [56, 48, 40, 32, 24, 16, 8, 0].map fun shift : UInt64 => (value >>> shift).toUInt8

/-- The header of `write_frame`. -/
def frameHeader (kind : MessageKind) (major minor : UInt16) (connection_id : Bytes 16)
    (request_id : UInt64) (payload : List UInt8) : Except TransportError (List UInt8) :=
  if payload.length > maximumPayloadBytes then .error .invalid
  else .ok ([0x4c, 0x42, 0x49, 0x50, 1, kind.code, 0, 0] ++ writeU16 major ++ writeU16 minor ++
    writeU32 (UInt32.ofNat payload.length) ++ connection_id.val ++ writeU64 request_id)

/-- The fields of `frame` that its header gives, with the length of its payload. -/
structure FrameFields where
  kind : MessageKind
  major : UInt16
  minor : UInt16
  payload_length : UInt32
  connection_id : Bytes 16
  request_id : UInt64
  deriving DecidableEq

/-- `read_u16`, `read_u32` and `read_u64`: the loop over the bytes of a number. -/
def readNumber (span : List UInt8) : ℕ :=
  span.foldl (fun value byte => value <<< 8 ||| byte.toNat) 0

/-- The header of `read_frame`, of which `read_exact` has read 40 bytes. -/
def readFrameHeader (header : Bytes 40) : Except TransportError FrameFields := do
  let byte := fun i => header.val.getD i 0
  if byte 0 ≠ 0x4c ∨ byte 1 ≠ 0x42 ∨ byte 2 ≠ 0x49 ∨ byte 3 ≠ 0x50 ∨ byte 4 ≠ 1 ∨ byte 6 ≠ 0 ∨
      byte 7 ≠ 0 ∨ byte 5 < 1 ∨ byte 5 > 6 then
    throw .invalid
  let kind ← (MessageKind.fromU8 (byte 5)).okOr .invalid
  let payload_length := UInt32.ofNat (readNumber (slice 12 16 header.val))
  if payload_length.toNat > maximumPayloadBytes then throw .invalid
  let connection_id ← (Bytes.ofList? 16 (slice 16 32 header.val)).okOr .invalid
  return {
    kind := kind
    major := UInt16.ofNat (readNumber (slice 8 10 header.val))
    minor := UInt16.ofNat (readNumber (slice 10 12 header.val))
    payload_length := payload_length
    connection_id := connection_id
    request_id := UInt64.ofNat (readNumber (slice 32 40 header.val)) }

end Librarian.Desktop
