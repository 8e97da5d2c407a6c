import Librarian.Browser.Document
import Librarian.Lib.Bytes

/-!
# Requests of the native host

`fill-native.ts` of the browser extension: what is posted to the native host for a document, and
how its response is read.
-/

namespace Librarian.Browser

/-- `boundedText`, with the text. -/
def boundedText (value : Option Json) (maximum : ℕ) : Option String :=
  match Json.string? value with
  | some text => if length text ≤ maximum ∧ byteLength text ≤ maximum then some text else none
  | none => none

/-- `exactKeys`, of a record. -/
def exactKeys (value : Json) (keys : List String) : Bool :=
  value.isObject ∧ value.members.length = keys.length ∧ keys.all fun key => (value.get? key).isSome

/-- `FillResult`. -/
inductive FillResult
  | credential (username password : String)
  | noCredential
  | locked
  | cancelled
  | timedOut
  | unavailable
  | incompatible
  | protocolError
  | operationFailed
  deriving DecidableEq, Repr

/-! ## Requests -/

/-- `HOST_REQUEST_TIMEOUT_MS`. -/
def hostRequestTimeoutMs : ℤ := 2000

/-- A digit of `toString(16)`. -/
def hexDigit (value : ℕ) : Char :=
  if value < 10 then Char.ofNat (48 + value) else Char.ofNat (87 + value)

/-- `createRequestId`, from the bytes of the random source. It throws on sixteen zeros. -/
def createRequestId (bytes : Bytes 16) : Option String :=
  if bytes.isZero then none
  else
    some (String.ofList (bytes.val.flatMap fun byte =>
      [hexDigit (byte.toNat / 16), hexDigit (byte.toNat % 16)]))

/-- The message that `requestCredential` posts. The identifier of the document is respelled. -/
def fillRequest (requestId documentId : String) (context : BrowserDocumentContext) : Json :=
  .object
    [("protocolVersion", .number 2),
      ("requestId", .string requestId),
      ("operation", .string "fillSingle"),
      ("context", .object
        [("kind", .string "exactHttps"),
          ("tabId", .number context.tabId),
          ("frameId", .number context.frameId),
          ("documentId", .string documentId),
          ("topLevelOrigin", .string context.topLevelOrigin),
          ("frameOrigin", .string context.frameOrigin)]),
      ("timeoutMs", .number hostRequestTimeoutMs)]

/-- What `requestCredential` posts for a document, unless it gives up before. -/
def requestCredential (bytes : Bytes 16) (context : BrowserDocumentContext) : Option Json :=
  match protocolDocumentId context.documentId, createRequestId bytes with
  | some documentId, some requestId => some (fillRequest requestId documentId context)
  | _, _ => none

/-! ## Responses -/

/-- The errors of `parseFillResponse`. -/
def parseFillError : Option String → FillResult
  | some "locked" => .locked
  | some "cancelled" => .cancelled
  | some "timedOut" => .timedOut
  | some "incompatible" => .incompatible
  | some "operationFailed" => .operationFailed
  | some "agentUnavailable" => .unavailable
  | _ => .protocolError

/-- `parseFillResponse`. -/
def parseFillResponse (message : Json) (requestId : String) : FillResult :=
  if ¬message.isObject ∨ Json.number? (message.get? "protocolVersion") ≠ some 2 ∨
      Json.string? (message.get? "requestId") ≠ some requestId then .protocolError
  else
    match Json.string? (message.get? "status"), boundedText (message.get? "username") 1024,
        boundedText (message.get? "password") 16384 with
    | some "credential", some username, some password =>
      if exactKeys message ["protocolVersion", "requestId", "status", "username", "password"] then
        .credential username password
      else .protocolError
    | some "noCredential", _, _ =>
      if exactKeys message ["protocolVersion", "requestId", "status"] then .noCredential
      else .protocolError
    | some "error", _, _ =>
      if exactKeys message ["protocolVersion", "requestId", "status", "error"] then
        parseFillError (Json.string? (message.get? "error"))
      else .protocolError
    | _, _, _ => .protocolError

end Librarian.Browser
