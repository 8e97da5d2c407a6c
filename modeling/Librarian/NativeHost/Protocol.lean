import Librarian.Browser.Document
import Librarian.Core.Primitives
import Librarian.Lib.JsonText
import Librarian.Protocol.Requests

/-!
# The native host's protocol

`protocol.rs` of the native host: one frame is read from the browser, its request is checked and
passed on to the agent, and one frame is written back.

The JSON reader of `serde_json` and the URL parser are the parameters `readJson` and `parseUrl`. The
reader's work ends at a JSON value; how the derived structures are made of that value is translated.
The host's platforms are little-endian.
-/

namespace Librarian.NativeHost

open Librarian.Protocol (BrowserCredential)

/-- `BROWSER_PROTOCOL_VERSION`. -/
def browserProtocolVersion : UInt16 := 1

/-- `MAX_BROWSER_MESSAGE_BYTES`. -/
def maxBrowserMessageBytes : ℕ := 16384

/-- `FILL_PROTOCOL_VERSION`. -/
def fillProtocolVersion : UInt16 := 2

/-- `MAX_BROWSER_RESPONSE_BYTES`. -/
def maxBrowserResponseBytes : ℕ := 131072

/-- `MIN_TIMEOUT_MS`. -/
def minTimeoutMs : UInt32 := 100

/-- `MAX_TIMEOUT_MS`. -/
def maxTimeoutMs : UInt32 := 5000

/-- `BridgeFailure`. -/
inductive BridgeFailure
  | agentUnavailable
  | incompatible
  | operationFailed
  | locked
  | cancelled
  | timedOut
  deriving DecidableEq, Repr

/-- `AgentStatus`. -/
inductive AgentStatus
  | starting
  | noVault
  | locked
  | unlocking
  | unlocked
  | updating
  | shuttingDown
  deriving DecidableEq, Repr

/-! ## Derived structures -/

/-- The fields of a derived structure that has to have exactly these: from an object in any order,
from an array in theirs. -/
def fieldsOf (keys : List String) : Json → Option (List Json)
  | .object members =>
    if members.length = keys.length then keys.mapM fun key => members.lookup key else none
  | .array items => if items.length = keys.length then some items else none
  | _ => none

/-- An integer of the type `u16`. -/
def u16? : Json → Option UInt16
  | .number value => if 0 ≤ value ∧ value < 65536 then some (UInt16.ofNat value.toNat) else none
  | _ => none

/-- An integer of the type `u32`. -/
def u32? : Json → Option UInt32
  | .number value =>
    if 0 ≤ value ∧ value < 4294967296 then some (UInt32.ofNat value.toNat) else none
  | _ => none

/-- `BrowserOperation`. -/
inductive BrowserOperation
  | status
  | fillSingle
  deriving DecidableEq, Repr

def BrowserOperation.ofName : String → Option BrowserOperation
  | "status" => some .status
  | "fillSingle" => some .fillSingle
  | _ => none

/-- A variant without fields is its name, or its name with a null. -/
def BrowserOperation.ofJson : Json → Option BrowserOperation
  | .string name => ofName name
  | .object [(name, .null)] => ofName name
  | _ => none

/-- `BrowserContext`. -/
inductive BrowserContext
  | none
  | exactHttps (tab_id frame_id : UInt32) (document_id top_level_origin frame_origin : String)
  deriving DecidableEq, Repr

/-- The variant of the tag `kind`, from what is beside the tag. The variant without fields ignores
the members of an object. -/
def BrowserContext.ofContent (kind : String) (content : Json) : Option BrowserContext :=
  if kind = "none" then
    match content with
    | .object _ => some .none
    | .array [] => some .none
    | _ => Option.none
  else if kind = "exactHttps" then
    match fieldsOf ["tabId", "frameId", "documentId", "topLevelOrigin", "frameOrigin"] content with
    | some [tab_id, frame_id, .string document_id, .string top_level_origin,
        .string frame_origin] => do
      let tab_id ← u32? tab_id
      let frame_id ← u32? frame_id
      return .exactHttps tab_id frame_id document_id top_level_origin frame_origin
    | _ => Option.none
  else Option.none

/-- A tagged variant: its tag stands anywhere in an object, but once, or first in an array. -/
def BrowserContext.ofJson : Json → Option BrowserContext
  | .object members =>
    match members.filter fun (key, _) => key = "kind" with
    | [(_, .string kind)] => ofContent kind (.object (members.filter fun (key, _) => key ≠ "kind"))
    | _ => Option.none
  | .array (.string kind :: rest) => ofContent kind (.array rest)
  | _ => Option.none

/-- `BrowserRequest`. -/
structure BrowserRequest where
  protocol_version : UInt16
  request_id : String
  operation : BrowserOperation
  context : BrowserContext
  timeout_ms : UInt32
  deriving DecidableEq, Repr

def BrowserRequest.ofJson (value : Json) : Option BrowserRequest :=
  match fieldsOf ["protocolVersion", "requestId", "operation", "context", "timeoutMs"] value with
  | some [version, .string request_id, operation, context, timeout] => do
    let protocol_version ← u16? version
    let operation ← BrowserOperation.ofJson operation
    let context ← BrowserContext.ofJson context
    let timeout_ms ← u32? timeout
    return { protocol_version, request_id, operation, context, timeout_ms }
  | _ => none

/-! ## Responses -/

/-- `BrowserError`. -/
inductive BrowserError
  | invalidRequest
  | incompatible
  | agentUnavailable
  | operationFailed
  | locked
  | cancelled
  | timedOut
  deriving DecidableEq, Repr

/-- `BrowserResponse`. -/
inductive BrowserResponse
  | credential (protocol_version : UInt16) (request_id username password : String)
  | noCredential (protocol_version : UInt16) (request_id : String)
  | ok (protocol_version : UInt16) (request_id : String) (agent_status : AgentStatus)
  | error (protocol_version : UInt16) (request_id : Option String) (error : BrowserError)
  deriving DecidableEq, Repr

def AgentStatus.name : AgentStatus → String
  | starting => "starting"
  | noVault => "noVault"
  | locked => "locked"
  | unlocking => "unlocking"
  | unlocked => "unlocked"
  | updating => "updating"
  | shuttingDown => "shuttingDown"

def BrowserError.name : BrowserError → String
  | invalidRequest => "invalidRequest"
  | incompatible => "incompatible"
  | agentUnavailable => "agentUnavailable"
  | operationFailed => "operationFailed"
  | locked => "locked"
  | cancelled => "cancelled"
  | timedOut => "timedOut"

/-- What a response is serialised as: its tag, and then its fields. -/
def BrowserResponse.members : BrowserResponse → List (String × Json.Scalar)
  | credential protocol_version request_id username password =>
    [("status", .string "credential"), ("protocolVersion", .number protocol_version.toNat),
      ("requestId", .string request_id), ("username", .string username),
      ("password", .string password)]
  | noCredential protocol_version request_id =>
    [("status", .string "noCredential"), ("protocolVersion", .number protocol_version.toNat),
      ("requestId", .string request_id)]
  | ok protocol_version request_id agent_status =>
    [("status", .string "ok"), ("protocolVersion", .number protocol_version.toNat),
      ("requestId", .string request_id), ("agentStatus", .string agent_status.name)]
  | error protocol_version request_id reason =>
    [("status", .string "error"), ("protocolVersion", .number protocol_version.toNat),
      ("requestId", request_id.elim .null .string), ("error", .string reason.name)]

/-- The bytes of a response. -/
def BrowserResponse.encode (response : BrowserResponse) : List UInt8 :=
  Utf8.encode (Json.writeObject response.members)

/-- What the bytes of a response stand for. -/
def BrowserResponse.toJson (response : BrowserResponse) : Json := Json.ofMembers response.members

/-! ## Identifiers and origins -/

/-- `valid_request_id`. -/
def validRequestId (value : String) : Bool :=
  value.utf8ByteSize = 32 ∧ value.toList.all Browser.isLowerHex ∧ value.toList.any (· ≠ '0')

/-- The value of a hexadecimal digit. -/
def hexValue (digit : Char) : ℕ := if digit ≤ '9' then digit.toNat - 48 else digit.toNat - 87

/-- A byte of each pair of digits, `from_str_radix`. -/
def hexPairs : List Char → List UInt8
  | high :: low :: rest => UInt8.ofNat (16 * hexValue high + hexValue low) :: hexPairs rest
  | _ => []

/-- `parse_hex_id`. -/
def parseHexId (value : String) : Option (Bytes 16) :=
  if validRequestId value then Bytes.ofList? 16 (hexPairs value.toList) else none

/-- `parse_document_id`. -/
def parseDocumentId (value : String) : Option (Bytes 16) :=
  if value.utf8ByteSize ≠ 36 ∨ ¬value.toList.all (·.toNat < 0x80) ∨
      [8, 13, 18, 23].any (fun index => value.toList[index]? ≠ some '-') then none
  else parseHexId (String.ofList (value.toList.filter (· ≠ '-')))

/-- `canonical_origin`. -/
def canonicalOrigin (parseUrl : String → Option Core.Url) (value : String) : Bool :=
  value.utf8ByteSize ≤ 2048 ∧
    (parseUrl value).any fun url => url.scheme = "https" ∧ url.origin = value

/-! ## Requests -/

/-- `ValidRequest`. The timeout is in milliseconds. -/
structure ValidRequest where
  request_id : String
  timeout : ℕ
  fill_context : Option Librarian.Protocol.BrowserContext
  deriving DecidableEq

/-- `RequestFailure`. -/
structure RequestFailure where
  request_id : Option String
  error : BrowserError
  version : UInt16
  deriving DecidableEq

/-- The version that goes with an operation. -/
def BrowserOperation.version : BrowserOperation → UInt16
  | status => browserProtocolVersion
  | fillSingle => fillProtocolVersion

/-- The `fill_context` of `validate_request`: a status has none, and a fill the agent's form of the
browser's. -/
def fillContext (parseUrl : String → Option Core.Url) (request_id : String) :
    BrowserOperation → BrowserContext → Option (Option Librarian.Protocol.BrowserContext)
  | .status, .none => some none
  | .fillSingle, .exactHttps tab_id frame_id document_id top_level_origin frame_origin =>
    match parseHexId request_id, parseDocumentId document_id with
    | some id, some document =>
      if canonicalOrigin parseUrl top_level_origin ∧ canonicalOrigin parseUrl frame_origin then
        (Librarian.Protocol.BrowserContext.new id tab_id frame_id document top_level_origin
          frame_origin).toOption.map some
      else none
    | _, _ => none
  | _, _ => none

/-- The identifier that a failure may repeat. -/
def BrowserRequest.validId (request : BrowserRequest) : Option String :=
  if validRequestId request.request_id then some request.request_id else none

/-- `validate_request`. -/
def validateRequest (readJson : List UInt8 → Option Json) (parseUrl : String → Option Core.Url)
    (bytes : List UInt8) : Except RequestFailure ValidRequest := do
  let request ← ((readJson bytes).bind BrowserRequest.ofJson).okOr
    (⟨none, .invalidRequest, browserProtocolVersion⟩ : RequestFailure)
  if request.protocol_version ≠ request.operation.version then
    throw ⟨request.validId, .incompatible, request.operation.version⟩
  if request.validId = none ∨
      ¬(minTimeoutMs ≤ request.timeout_ms ∧ request.timeout_ms ≤ maxTimeoutMs) then
    throw ⟨request.validId, .invalidRequest, request.operation.version⟩
  let fill_context ←
    (fillContext parseUrl request.request_id request.operation request.context).okOr
      (⟨some request.request_id, .invalidRequest, request.operation.version⟩ : RequestFailure)
  return ⟨request.request_id, request.timeout_ms.toNat, fill_context⟩

/-! ## Frames -/

/-- What a read of one byte gives: the byte, an interruption, or another error. After the last of
them the stream is at its end. -/
inductive ReadEvent
  | byte (value : UInt8)
  | interrupted
  | fault
  deriving DecidableEq, Repr

/-- The first read of `read_frame`, which goes on after an interruption. The end of the stream is
no error there. -/
def readFirst : List ReadEvent → Except Unit (Option (UInt8 × List ReadEvent))
  | [] => .ok none
  | .byte value :: input => .ok (some (value, input))
  | .interrupted :: input => readFirst input
  | .fault :: _ => .error ()

/-- `read_exact`, for a number of bytes. -/
def readExact : List ReadEvent → ℕ → Except Unit (List UInt8 × List ReadEvent)
  | input, 0 => .ok ([], input)
  | .byte value :: input, n + 1 =>
    (readExact input n).map fun (bytes, rest) => (value :: bytes, rest)
  | .interrupted :: input, n + 1 => readExact input (n + 1)
  | .fault :: _, _ + 1 => .error ()
  | [], _ + 1 => .error ()

/-- The four bytes of a length. -/
def lengthBytes (length : ℕ) : List UInt8 := (BigEndian.encode 4 length).reverse

/-- `read_frame`. The end of the stream is `none`. -/
def readFrame (input : List ReadEvent) : Except Unit (Option (List UInt8)) :=
  match readFirst input with
  | .error e => .error e
  | .ok none => .ok none
  | .ok (some (first, input)) => do
    let (others, input) ← readExact input 3
    let length := BigEndian.decode (first :: others).reverse
    if length = 0 ∨ length > maxBrowserMessageBytes then throw ()
    let (bytes, _) ← readExact input length
    return some bytes

/-- `ServeError`, and the underflow of a subtraction. -/
inductive ServeError
  | input
  | output
  | underflow
  deriving DecidableEq, Repr

/-- `JsonBuffer::write`. -/
def jsonBufferWrite (buffer bytes : List UInt8) : Except ServeError (List UInt8) :=
  if maxBrowserResponseBytes < buffer.length then .error .underflow
  else if bytes.length > maxBrowserResponseBytes - buffer.length then .error .output
  else .ok (buffer ++ bytes)

/-- Which writes of the output succeed, after what has been written before. -/
structure Writer where
  write_all : List UInt8 → List UInt8 → Bool
  flush : List UInt8 → Bool

/-- A writer that never fails. -/
def Writer.Reliable (writer : Writer) : Prop :=
  (∀ written bytes, writer.write_all written bytes) ∧ ∀ written, writer.flush written

/-- What a run of the host did: the bytes that it wrote, and how it ended. -/
abbrev Written : Type := List UInt8 × Except ServeError Unit

/-- `write_response`. The serialiser hands the bytes of the response over in pieces, `cut`. -/
def writeResponse (cut : List UInt8 → List (List UInt8)) (writer : Writer)
    (response : BrowserResponse) : Written :=
  match (cut response.encode).foldlM jsonBufferWrite [] with
  | .error e => ([], .error e)
  | .ok bytes =>
    if bytes.length ≥ 4294967296 ∨ ¬writer.write_all [] (lengthBytes bytes.length) then
      ([], .error .output)
    else if ¬writer.write_all (lengthBytes bytes.length) bytes then
      (lengthBytes bytes.length, .error .output)
    else if ¬writer.flush (lengthBytes bytes.length ++ bytes) then
      (lengthBytes bytes.length ++ bytes, .error .output)
    else (lengthBytes bytes.length ++ bytes, .ok ())

/-! ## One exchange -/

/-- The error of a failed fill. -/
def BridgeFailure.fillError : BridgeFailure → BrowserError
  | agentUnavailable => .agentUnavailable
  | incompatible => .incompatible
  | locked => .locked
  | cancelled => .cancelled
  | timedOut => .timedOut
  | operationFailed => .operationFailed

/-- The error of a failed status. -/
def BridgeFailure.statusError : BridgeFailure → BrowserError
  | agentUnavailable => .agentUnavailable
  | incompatible => .incompatible
  | operationFailed | locked | cancelled | timedOut => .operationFailed

/-- The response of a fill. -/
def fillResponse (request_id : String) :
    Except BridgeFailure (Option BrowserCredential) → BrowserResponse
  | .ok (some credential) =>
    .credential fillProtocolVersion request_id credential.username credential.password
  | .ok none => .noCredential fillProtocolVersion request_id
  | .error error => .error fillProtocolVersion (some request_id) error.fillError

/-- The response of a status. -/
def statusResponse (request_id : String) : Except BridgeFailure AgentStatus → BrowserResponse
  | .ok agent_status => .ok browserProtocolVersion request_id agent_status
  | .error error => .error browserProtocolVersion (some request_id) error.statusError

/-- A call of one of the two closures of `serve_with_fill`. -/
inductive Call
  | status (timeout : ℕ)
  | fill (context : Librarian.Protocol.BrowserContext) (timeout : ℕ)
  deriving DecidableEq

/-- What the host is given. -/
structure Host where
  readJson : List UInt8 → Option Json
  parseUrl : String → Option Core.Url
  cut : List UInt8 → List (List UInt8)
  status : ℕ → Except BridgeFailure AgentStatus
  fill : Librarian.Protocol.BrowserContext → ℕ → Except BridgeFailure (Option BrowserCredential)

/-- `serve_with_fill`, with its calls in their order. -/
def serveWithFill (host : Host) (writer : Writer) (input : List ReadEvent) :
    List Call × Written :=
  match readFrame input with
  | .ok none => ([], [], .ok ())
  | .error () =>
    -- The response to a frame that could not be read is followed by the error of its input.
    match writeResponse host.cut writer (.error browserProtocolVersion none .invalidRequest) with
    | (written, .ok ()) => ([], written, .error .input)
    | failed => ([], failed)
  | .ok (some bytes) =>
    match validateRequest host.readJson host.parseUrl bytes with
    | .error failure =>
      ([], writeResponse host.cut writer (.error failure.version failure.request_id failure.error))
    | .ok request =>
      match request.fill_context with
      | some context =>
        ([.fill context request.timeout], writeResponse host.cut writer
          (fillResponse request.request_id (host.fill context request.timeout)))
      | none =>
        ([.status request.timeout], writeResponse host.cut writer
          (statusResponse request.request_id (host.status request.timeout)))

end Librarian.NativeHost
