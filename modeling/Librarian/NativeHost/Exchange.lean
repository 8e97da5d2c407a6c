import Librarian.NativeHost.Requests

/-!
# One exchange of the native host

The host calls the agent at most once, for a request that it has accepted, and answers every stream
that is not empty with one frame (`RelaysOnce`). What it answers to a fill fits in its buffer, also
when every character is escaped, and the extension reads it as the outcome of the fill
(`parseFillResponse_fillResponse`).
-/

namespace Librarian.NativeHost

open Librarian.Browser
open Librarian.Protocol (BrowserCredential)

/-! ## The buffer -/

/-- Pieces are collected while they fit, and the subtraction does not underflow. -/
theorem foldlM_jsonBufferWrite (pieces : List (List UInt8)) (buffer : List UInt8)
    (hbuffer : buffer.length ≤ maxBrowserResponseBytes) :
    pieces.foldlM jsonBufferWrite buffer =
      if (buffer ++ pieces.flatten).length ≤ maxBrowserResponseBytes then
        .ok (buffer ++ pieces.flatten)
      else .error .output := by
  induction pieces generalizing buffer with
  | nil =>
    rw [List.flatten_nil, List.append_nil, if_pos hbuffer]
    rfl
  | cons piece pieces ih =>
    rw [List.foldlM_cons, jsonBufferWrite, if_neg (not_lt.mpr hbuffer)]
    by_cases hpiece : piece.length > maxBrowserResponseBytes - buffer.length
    · rw [if_pos hpiece, Except.error_bind, if_neg]
      simp only [List.flatten_cons, List.length_append]
      omega
    · have hfits : (buffer ++ piece).length ≤ maxBrowserResponseBytes := by
        rw [List.length_append]
        omega
      rw [if_neg hpiece, Except.ok_bind, ih _ hfits, List.flatten_cons, List.append_assoc]

/-- What a response is on the wire: its length, and its bytes. -/
def BrowserResponse.frame (response : BrowserResponse) : List UInt8 :=
  lengthBytes response.encode.length ++ response.encode

section Writing

variable {cut : List UInt8 → List (List UInt8)} (hcut : ∀ bytes, (cut bytes).flatten = bytes)
include hcut

/-- A response that fits is written as its frame. -/
theorem writeResponse_eq {writer : Writer} (hwriter : writer.Reliable) {response : BrowserResponse}
    (hfits : response.encode.length ≤ maxBrowserResponseBytes) :
    writeResponse cut writer response = (response.frame, .ok ()) := by
  obtain ⟨hwrite, hflush⟩ := hwriter
  have hbuffer : (cut response.encode).foldlM jsonBufferWrite [] = .ok response.encode := by
    rw [foldlM_jsonBufferWrite _ _ (Nat.zero_le _), List.nil_append, hcut, if_pos hfits]
  have hlength : ¬response.encode.length ≥ 4294967296 := by
    have hmax : maxBrowserResponseBytes = 131072 := rfl
    omega
  simp only [writeResponse, hbuffer, hlength, hwrite, hflush, not_true_eq_false, or_self, if_false]
  rfl

/-- No response makes the subtraction underflow. -/
theorem writeResponse_ne_underflow (writer : Writer) (response : BrowserResponse) :
    (writeResponse cut writer response).2 ≠ .error .underflow := by
  have hbuffer : (cut response.encode).foldlM jsonBufferWrite [] =
      if response.encode.length ≤ maxBrowserResponseBytes then .ok response.encode
      else .error .output := by
    rw [foldlM_jsonBufferWrite _ _ (Nat.zero_le _), List.nil_append, hcut]
  unfold writeResponse
  rw [hbuffer]
  split_ifs with hfits
  · simp only
    split_ifs <;> simp
  · simp

end Writing

/-! ## The sizes of responses -/

/-- The versions that a response may have. -/
def IsVersion (version : UInt16) : Prop :=
  version = browserProtocolVersion ∨ version = fillProtocolVersion

/-- A version is written as one digit. -/
theorem IsVersion.write_size {version : UInt16} (h : IsVersion version) :
    (Json.Scalar.number version.toNat).write.utf8ByteSize = 1 := by
  obtain rfl | rfl := h <;> rfl

/-- A member takes its key, its value and three more bytes. -/
theorem writeMember_size (key : String) {value : Json.Scalar} {n : ℕ}
    (h : value.write.utf8ByteSize ≤ n) :
    (Json.writeMember key value).utf8ByteSize ≤ 6 * key.utf8ByteSize + 3 + n := by
  have hkey := Json.quote_size key
  have hcolon : (":" : String).utf8ByteSize = 1 := rfl
  rw [Json.writeMember, String.utf8ByteSize_append, String.utf8ByteSize_append]
  omega

/-- A text as a value takes six bytes for each of its own, and two. -/
theorem string_size {text : String} {n : ℕ} (h : text.utf8ByteSize ≤ n) :
    (Json.Scalar.string text).write.utf8ByteSize ≤ 6 * n + 2 := by
  have htext := Json.quote_size text
  rw [Json.Scalar.write]
  omega

/-- A member of a list takes a comma more. -/
theorem writeMembers_cons_size (key : String) (value : Json.Scalar)
    (members : List (String × Json.Scalar)) :
    (Json.writeMembers ((key, value) :: members)).utf8ByteSize ≤
      (Json.writeMember key value).utf8ByteSize + 1 + (Json.writeMembers members).utf8ByteSize := by
  have hcomma : ("," : String).utf8ByteSize = 1 := rfl
  cases members with
  | nil =>
    show (Json.writeMember key value).utf8ByteSize ≤ _
    omega
  | cons member members =>
    show (Json.writeMember key value ++ "," ++
      Json.writeMembers (member :: members)).utf8ByteSize ≤ _
    rw [String.utf8ByteSize_append, String.utf8ByteSize_append]
    omega

theorem encode_length_eq (response : BrowserResponse) : response.encode.length =
    (Json.writeMembers response.members).utf8ByteSize + 2 := by
  have hopen : ("\x7b" : String).utf8ByteSize = 1 := rfl
  have hclose : ("\x7d" : String).utf8ByteSize = 1 := rfl
  rw [BrowserResponse.encode, Utf8.encode_length, Json.writeObject, String.utf8ByteSize_append,
    String.utf8ByteSize_append]
  omega

/-- What the host puts into a response: one of the two versions, an identifier of 32 bytes, and a
credential within its bounds. -/
def BrowserResponse.Sent : BrowserResponse → Prop
  | credential version request_id username password =>
    IsVersion version ∧ request_id.utf8ByteSize = 32 ∧ username.utf8ByteSize ≤ 1024 ∧
      password.utf8ByteSize ≤ 16384
  | noCredential version request_id => IsVersion version ∧ request_id.utf8ByteSize = 32
  | ok version request_id _ => IsVersion version ∧ request_id.utf8ByteSize = 32
  | error version request_id _ =>
    IsVersion version ∧ ∀ id, request_id = some id → id.utf8ByteSize = 32

/-- The tag and the version take at most 209 bytes, whatever follows them. -/
theorem header_size (status : String) (hstatus : status.utf8ByteSize ≤ 12) {version : UInt16}
    (hversion : IsVersion version) (members : List (String × Json.Scalar)) :
    (Json.writeMembers (("status", .string status) ::
      ("protocolVersion", .number version.toNat) :: members)).utf8ByteSize ≤
        209 + (Json.writeMembers members).utf8ByteSize := by
  have htag := writeMember_size "status" (string_size hstatus)
  have hnumber := writeMember_size "protocolVersion" (Nat.le_of_eq hversion.write_size)
  have hfirst := writeMembers_cons_size "status" (.string status)
    (("protocolVersion", .number version.toNat) :: members)
  have hsecond := writeMembers_cons_size "protocolVersion" (.number version.toNat) members
  have hlength : ("status" : String).utf8ByteSize = 6 := rfl
  have hlength' : ("protocolVersion" : String).utf8ByteSize = 15 := rfl
  omega

/-- What the host sends fits in its buffer. -/
theorem BrowserResponse.Sent.encode_length_le {response : BrowserResponse} (h : response.Sent) :
    response.encode.length ≤ maxBrowserResponseBytes := by
  have hid : ∀ (value : Json.Scalar) (members : List (String × Json.Scalar)),
      value.write.utf8ByteSize ≤ 194 → (Json.writeMembers
        (("requestId", value) :: members)).utf8ByteSize ≤
          252 + (Json.writeMembers members).utf8ByteSize := by
    intro value members hvalue
    have hmember := writeMember_size "requestId" hvalue
    have hcons := writeMembers_cons_size "requestId" value members
    have hlength : ("requestId" : String).utf8ByteSize = 9 := rfl
    omega
  have hlast : ∀ (key text : String) (n : ℕ), key.utf8ByteSize ≤ 11 → text.utf8ByteSize ≤ n →
      (Json.writeMember key (.string text)).utf8ByteSize ≤ 71 + 6 * n := by
    intro key text n hkey htext
    have hmember := writeMember_size key (string_size htext)
    omega
  have hmax : maxBrowserResponseBytes = 131072 := rfl
  rw [encode_length_eq]
  cases response with
  | credential version request_id username password =>
    obtain ⟨hversion, hrequest, husername, hpassword⟩ := h
    have hheader := header_size "credential" (by decide) hversion
      [("requestId", .string request_id), ("username", .string username),
        ("password", .string password)]
    have hrest := hid (.string request_id) [("username", .string username),
      ("password", .string password)] (string_size (Nat.le_of_eq hrequest))
    have hcons := writeMembers_cons_size "username" (.string username)
      [("password", .string password)]
    have husername' := hlast "username" username 1024 (by decide) husername
    have hpassword' := hlast "password" password 16384 (by decide) hpassword
    simp only [members, Json.writeMembers] at *
    omega
  | noCredential version request_id =>
    obtain ⟨hversion, hrequest⟩ := h
    have hheader := header_size "noCredential" (by decide) hversion
      [("requestId", .string request_id)]
    have hrest := hid (.string request_id) [] (string_size (Nat.le_of_eq hrequest))
    have hnil : (Json.writeMembers []).utf8ByteSize = 0 := rfl
    simp only [members] at *
    omega
  | ok version request_id agent_status =>
    obtain ⟨hversion, hrequest⟩ := h
    have hname : agent_status.name.utf8ByteSize ≤ 12 := by cases agent_status <;> decide
    have hheader := header_size "ok" (by decide) hversion
      [("requestId", .string request_id), ("agentStatus", .string agent_status.name)]
    have hrest := hid (.string request_id) [("agentStatus", .string agent_status.name)]
      (string_size (Nat.le_of_eq hrequest))
    have hstatus := hlast "agentStatus" agent_status.name 12 (by decide) hname
    simp only [members, Json.writeMembers] at *
    omega
  | error version request_id reason =>
    obtain ⟨hversion, hrequest⟩ := h
    have hname : reason.name.utf8ByteSize ≤ 16 := by cases reason <;> decide
    have hvalue : (request_id.elim .null Json.Scalar.string).write.utf8ByteSize ≤ 194 := by
      cases request_id with
      | none => decide
      | some id => exact string_size (Nat.le_of_eq (hrequest id rfl))
    have hheader := header_size "error" (by decide) hversion
      [("requestId", request_id.elim .null .string), ("error", .string reason.name)]
    have hrest := hid (request_id.elim .null .string) [("error", .string reason.name)] hvalue
    have herror := hlast "error" reason.name 16 (by decide) hname
    simp only [members, Json.writeMembers] at *
    omega

/-! ## What is answered -/

variable {readJson : List UInt8 → Option Json} {parseUrl : String → Option Core.Url}
  {bytes : List UInt8}

theorem size_of_validRequestId {value : String} (h : validRequestId value) :
    value.utf8ByteSize = 32 := by
  simp only [validRequestId, decide_eq_true_eq] at h
  exact h.1

theorem size_of_validId {request : BrowserRequest} {id : String} (h : request.validId = some id) :
    id.utf8ByteSize = 32 := by
  unfold BrowserRequest.validId at h
  split at h
  · rename_i hvalid
    obtain rfl := Option.some.inj h
    exact size_of_validRequestId hvalid
  · cases h

theorem BrowserOperation.isVersion (operation : BrowserOperation) :
    IsVersion operation.version := by
  cases operation with
  | status => exact .inl rfl
  | fillSingle => exact .inr rfl

/-- An accepted request has an identifier of 32 bytes. -/
theorem validateRequest_eq_ok {request : ValidRequest}
    (h : validateRequest readJson parseUrl bytes = .ok request) :
    request.request_id.utf8ByteSize = 32 := by
  simp only [validateRequest, Except.throw_eq, Except.error_bind, Except.bind_eq_ok,
    Option.okOr_eq_ok, Except.ite_error_eq_ok, Except.pure_eq, Except.ok.injEq, not_or] at h
  obtain ⟨read, -, -, ⟨hvalid, -⟩, context, -, rfl⟩ := h
  unfold BrowserRequest.validId at hvalid
  split at hvalid
  · rename_i hvalid'
    exact size_of_validRequestId hvalid'
  · exact absurd rfl hvalid

/-- A refusal can be answered. -/
theorem validateRequest_eq_error {failure : RequestFailure}
    (h : validateRequest readJson parseUrl bytes = .error failure) :
    (BrowserResponse.error failure.version failure.request_id failure.error).Sent := by
  simp only [validateRequest, Except.throw_eq, Except.error_bind, Except.bind_eq_error,
    Option.okOr_eq_ok, Option.okOr_eq_error, Except.ite_error_eq_error, Except.pure_eq,
    reduceCtorEq, and_false, exists_false, or_false, not_or] at h
  obtain ⟨-, rfl⟩ | ⟨request, -, ⟨-, rfl⟩ | ⟨-, ⟨-, rfl⟩ | ⟨⟨hvalid, -⟩, -, rfl⟩⟩⟩ := h
  · exact ⟨.inl rfl, fun _ hid => (Option.some_ne_none _ hid.symm).elim⟩
  · exact ⟨request.operation.isVersion, fun _ hid => size_of_validId hid⟩
  · exact ⟨request.operation.isVersion, fun _ hid => size_of_validId hid⟩
  · refine ⟨request.operation.isVersion, fun id hid => ?_⟩
    obtain rfl := Option.some.inj hid
    unfold BrowserRequest.validId at hvalid
    split at hvalid
    · rename_i hvalid'
      exact size_of_validRequestId hvalid'
    · exact absurd rfl hvalid

/-- The answer to a fill can be sent. -/
theorem fillResponse_sent {request_id : String} (h : request_id.utf8ByteSize = 32)
    (outcome : Except BridgeFailure (Option BrowserCredential)) :
    (fillResponse request_id outcome).Sent := by
  cases outcome with
  | error failure =>
    refine ⟨.inr rfl, fun id hid => ?_⟩
    rw [← Option.some.inj hid, h]
  | ok found =>
    cases found with
    | none => exact ⟨.inr rfl, h⟩
    | some credential =>
      obtain ⟨husername, hpassword⟩ := not_or.mp credential.bounded
      exact ⟨.inr rfl, h, not_lt.mp husername, not_lt.mp hpassword⟩

/-- The answer to a status can be sent. -/
theorem statusResponse_sent {request_id : String} (h : request_id.utf8ByteSize = 32)
    (outcome : Except BridgeFailure AgentStatus) : (statusResponse request_id outcome).Sent := by
  cases outcome with
  | error failure =>
    refine ⟨.inl rfl, fun id hid => ?_⟩
    rw [← Option.some.inj hid, h]
  | ok agent_status => exact ⟨.inl rfl, h⟩

/-! ## Runs -/

/-- A stream without a byte: there is nothing but interruptions before its end. -/
def Silent (input : List ReadEvent) : Prop := ∀ event ∈ input, event = .interrupted

theorem readFirst_eq_none {input : List ReadEvent} :
    readFirst input = .ok none ↔ Silent input := by
  induction input with
  | nil => simp [readFirst, Silent]
  | cons event input ih =>
    cases event with
    | byte value => simp [readFirst, Silent]
    | interrupted =>
      rw [readFirst, ih]
      simp [Silent]
    | fault => simp [readFirst, Silent]

/-- The end of the stream is found exactly when there is no byte. -/
theorem readFrame_eq_none {input : List ReadEvent} :
    readFrame input = .ok none ↔ Silent input := by
  rw [← readFirst_eq_none]
  unfold readFrame
  split
  · rename_i e he
    simp [he]
  · rename_i he
    simp [he]
  · rename_i first rest he
    simp only [he, Except.ok.injEq, reduceCtorEq, iff_false]
    intro h
    simp only [Except.throw_eq, Except.error_bind, Except.bind_eq_ok, Except.ite_error_eq_ok,
      Except.pure_eq, Except.ok.injEq, reduceCtorEq, and_false, exists_false] at h

/-- The call that a request is passed on with. -/
def ValidRequest.call (request : ValidRequest) : Call :=
  match request.fill_context with
  | some context => .fill context request.timeout
  | none => .status request.timeout

/-- The answer to a request, from the answer of the agent. -/
def ValidRequest.answer (host : Host) (request : ValidRequest) : BrowserResponse :=
  match request.fill_context with
  | some context => fillResponse request.request_id (host.fill context request.timeout)
  | none => statusResponse request.request_id (host.status request.timeout)

/-- An accepted request is passed on once, and answered. -/
theorem serveWithFill_of_ok {host : Host} (writer : Writer) {input : List ReadEvent}
    {request : ValidRequest} (hframe : readFrame input = .ok (some bytes))
    (h : validateRequest host.readJson host.parseUrl bytes = .ok request) :
    serveWithFill host writer input =
      ([request.call], writeResponse host.cut writer (request.answer host)) := by
  obtain ⟨request_id, timeout, fill_context⟩ := request
  unfold serveWithFill
  simp only [hframe, h]
  cases fill_context with
  | none => rfl
  | some context => rfl

/-- The answer to an accepted request can be sent. -/
theorem ValidRequest.answer_sent {request : ValidRequest}
    (h : request.request_id.utf8ByteSize = 32) (host : Host) : (request.answer host).Sent := by
  unfold ValidRequest.answer
  split
  · exact fillResponse_sent h _
  · exact statusResponse_sent h _

/-- What a run of the host does: at most one call, which passes an accepted request on, and, unless
the writer fails, one response, or nothing when the stream has no byte. The length of the buffer
never underflows. -/
structure RelaysOnce (host : Host) (writer : Writer) (input : List ReadEvent) : Prop where
  once : (serveWithFill host writer input).1.length ≤ 1
  accepted : ∀ call ∈ (serveWithFill host writer input).1, ∃ bytes request,
    readFrame input = .ok (some bytes) ∧
      validateRequest host.readJson host.parseUrl bytes = .ok request ∧ call = request.call
  silent : Silent input → serveWithFill host writer input = ([], [], .ok ())
  answered : writer.Reliable → ¬Silent input → ∃ response : BrowserResponse,
    response.encode.length ≤ maxBrowserResponseBytes ∧
      (serveWithFill host writer input).2.1 = response.frame
  underflow : (serveWithFill host writer input).2.2 ≠ .error .underflow

/-- A frame that cannot be read is answered without a call. -/
theorem serveWithFill_of_unreadable {host : Host} (writer : Writer) {input : List ReadEvent}
    (hcut : ∀ bytes, (host.cut bytes).flatten = bytes) (hframe : readFrame input = .error ()) :
    (serveWithFill host writer input).1 = [] ∧
      (serveWithFill host writer input).2.1 = (writeResponse host.cut writer
        (.error browserProtocolVersion none .invalidRequest)).1 ∧
      (serveWithFill host writer input).2.2 ≠ .error .underflow := by
  have hne := writeResponse_ne_underflow hcut writer
    (.error browserProtocolVersion none .invalidRequest)
  unfold serveWithFill
  simp only [hframe]
  generalize writeResponse host.cut writer
    (.error browserProtocolVersion none .invalidRequest) = answer at hne
  obtain ⟨written, result⟩ := answer
  cases result with
  | error e => exact ⟨rfl, rfl, hne⟩
  | ok _ => exact ⟨rfl, rfl, by simp⟩

/-- A request that is refused is answered without a call. -/
theorem serveWithFill_of_refused {host : Host} (writer : Writer) {input : List ReadEvent}
    {failure : RequestFailure} (hframe : readFrame input = .ok (some bytes))
    (h : validateRequest host.readJson host.parseUrl bytes = .error failure) :
    serveWithFill host writer input = ([], writeResponse host.cut writer
      (.error failure.version failure.request_id failure.error)) := by
  unfold serveWithFill
  simp only [hframe, h]

/-- Every run of the host relays once. -/
theorem serveWithFill_relaysOnce {host : Host} (hcut : ∀ bytes, (host.cut bytes).flatten = bytes)
    (writer : Writer) (input : List ReadEvent) : RelaysOnce host writer input := by
  have hwritten : ∀ {response : BrowserResponse}, response.Sent → writer.Reliable →
      (writeResponse host.cut writer response).1 = response.frame := by
    intro response hsent hwriter
    rw [writeResponse_eq hcut hwriter hsent.encode_length_le]
  cases hframe : readFrame input with
  | error e =>
    obtain ⟨hcalls, hbytes, hne⟩ := serveWithFill_of_unreadable writer hcut hframe
    have hsent : (BrowserResponse.error browserProtocolVersion none .invalidRequest).Sent :=
      ⟨.inl rfl, fun _ hid => (Option.some_ne_none _ hid.symm).elim⟩
    refine ⟨by simp [hcalls], by simp [hcalls], fun hsilent => ?_, fun hwriter _ => ?_, hne⟩
    · rw [readFrame_eq_none.mpr hsilent] at hframe
      cases hframe
    · exact ⟨_, hsent.encode_length_le, hbytes.trans (hwritten hsent hwriter)⟩
  | ok found =>
    cases found with
    | none =>
      have hserve : serveWithFill host writer input = ([], [], .ok ()) := by
        rw [serveWithFill, hframe]
      refine ⟨by simp [hserve], by simp [hserve], fun _ => hserve, fun _ h => ?_, by simp [hserve]⟩
      exact absurd (readFrame_eq_none.mp hframe) h
    | some bytes =>
      have hsound : ¬Silent input := by
        intro hsilent
        rw [readFrame_eq_none.mpr hsilent] at hframe
        cases hframe
      cases hvalid : validateRequest host.readJson host.parseUrl bytes with
      | error failure =>
        have hserve := serveWithFill_of_refused writer hframe hvalid
        have hsent := validateRequest_eq_error hvalid
        refine ⟨by simp [hserve], by simp [hserve], fun h => absurd h hsound, fun hwriter _ => ?_,
          ?_⟩
        · exact ⟨_, hsent.encode_length_le, by rw [hserve, hwritten hsent hwriter]⟩
        · rw [hserve]
          exact writeResponse_ne_underflow hcut writer _
      | ok request =>
        have hserve := serveWithFill_of_ok writer hframe hvalid
        have hsent := request.answer_sent (validateRequest_eq_ok hvalid) host
        refine ⟨by simp [hserve], ?_, fun h => absurd h hsound, fun hwriter _ => ?_, ?_⟩
        · intro call hcall
          rw [hserve, List.mem_singleton] at hcall
          exact ⟨bytes, request, hframe, hvalid, hcall⟩
        · exact ⟨_, hsent.encode_length_le, by rw [hserve, hwritten hsent hwriter]⟩
        · rw [hserve]
          exact writeResponse_ne_underflow hcut writer _

/-- The outcome of a fill, as the extension has it. -/
def fillOutcome : Except BridgeFailure (Option BrowserCredential) → FillResult
  | .ok (some credential) => .credential credential.username credential.password
  | .ok none => .noCredential
  | .error .agentUnavailable => .unavailable
  | .error .incompatible => .incompatible
  | .error .operationFailed => .operationFailed
  | .error .locked => .locked
  | .error .cancelled => .cancelled
  | .error .timedOut => .timedOut

theorem boundedText_string {text : String} {maximum : ℕ} (h : text.utf8ByteSize ≤ maximum) :
    boundedText (some (.string text)) maximum = some text := by
  have hlength := (length_bounds text).2
  show (if Browser.length text ≤ maximum ∧ byteLength text ≤ maximum then some text else none) =
    some text
  exact if_pos ⟨by omega, h⟩

/-- The extension goes on to the status of an object with its version and identifier. -/
theorem header_of_members (status request_id : String) (rest : List (String × Json.Scalar)) :
    ¬(¬(Json.ofMembers (("status", .string status) ::
        ("protocolVersion", .number fillProtocolVersion.toNat) ::
        ("requestId", .string request_id) :: rest)).isObject ∨
      Json.number? ((Json.ofMembers (("status", .string status) ::
        ("protocolVersion", .number fillProtocolVersion.toNat) ::
        ("requestId", .string request_id) :: rest)).get? "protocolVersion") ≠ some 2 ∨
      Json.string? ((Json.ofMembers (("status", .string status) ::
        ("protocolVersion", .number fillProtocolVersion.toNat) ::
        ("requestId", .string request_id) :: rest)).get? "requestId") ≠ some request_id) := by
  simp only [not_or, not_not]
  exact ⟨rfl, rfl, rfl⟩

/-- The extension reads the answer to a fill as the outcome of the fill. -/
theorem parseFillResponse_fillResponse (request_id : String)
    (outcome : Except BridgeFailure (Option BrowserCredential)) :
    parseFillResponse (fillResponse request_id outcome).toJson request_id =
      fillOutcome outcome := by
  cases outcome with
  | error failure =>
    unfold parseFillResponse
    refine (if_neg (header_of_members "error" request_id
      [("error", .string failure.fillError.name)])).trans ?_
    cases failure <;> rfl
  | ok found =>
    cases found with
    | none =>
      unfold parseFillResponse
      exact (if_neg (header_of_members "noCredential" request_id [])).trans rfl
    | some credential =>
      obtain ⟨husername, hpassword⟩ := not_or.mp credential.bounded
      have husername' := boundedText_string (not_lt.mp husername)
      have hpassword' := boundedText_string (not_lt.mp hpassword)
      unfold parseFillResponse
      refine (if_neg (header_of_members "credential" request_id
        [("username", .string credential.username),
          ("password", .string credential.password)])).trans ?_
      have hstatus : Json.string? ((fillResponse request_id (.ok (some credential))).toJson.get?
          "status") = some "credential" := rfl
      have hname : (fillResponse request_id (.ok (some credential))).toJson.get? "username" =
          some (.string credential.username) := rfl
      have hword : (fillResponse request_id (.ok (some credential))).toJson.get? "password" =
          some (.string credential.password) := rfl
      rw [hstatus, hname, hword, husername', hpassword']
      exact if_pos rfl

/-! ## The two sides together -/

/-- The host accepts what the extension posts for a validated document and reads the same document
in it, two documents never as one; it relays once; and the extension reads its answer to a fill as
the outcome of the fill. -/
theorem host_speaks_extension {host : Host} {parse : String → Option Browser.Url}
    (hurls : SameOrigins parse host.parseUrl)
    (hcut : ∀ bytes, (host.cut bytes).flatten = bytes) :
    (∀ (sender currentFrame : Option Json) (extensionId : String)
      (context : BrowserDocumentContext) (id : Bytes 16),
      validateBrowserDocument parse sender currentFrame extensionId = some context →
      ¬id.isZero →
      ∃ message requestId read, requestCredential id context = some message ∧
        createRequestId id = some requestId ∧ SameDocument id context read ∧
        ∀ bytes, host.readJson bytes = some message →
          validateRequest host.readJson host.parseUrl bytes =
            .ok ⟨requestId, 2000, some read⟩) ∧
    (∀ (id id' : Bytes 16) (context context' : BrowserDocumentContext)
      (read read' : Protocol.BrowserContext),
      SameDocument id context read → SameDocument id' context' read' →
      documentBits context.documentId ≠ documentBits context'.documentId →
      read.document_id ≠ read'.document_id) ∧
    (∀ writer input, RelaysOnce host writer input) ∧
    ∀ (writer : Writer) (input : List ReadEvent) (bytes : List UInt8) (requestId : String)
      (timeout : ℕ) (context : Protocol.BrowserContext),
      writer.Reliable → readFrame input = .ok (some bytes) →
      validateRequest host.readJson host.parseUrl bytes = .ok ⟨requestId, timeout, some context⟩ →
      ∃ response : BrowserResponse,
        serveWithFill host writer input = ([.fill context timeout], response.frame, .ok ()) ∧
        response.encode.length ≤ maxBrowserResponseBytes ∧
        ∀ readResponse : List UInt8 → Option Json,
          readResponse response.encode = some response.toJson →
          (readResponse response.encode).map (parseFillResponse · requestId) =
            some (fillOutcome (host.fill context timeout)) := by
  refine ⟨?_, ?_, fun writer input => serveWithFill_relaysOnce hcut writer input, ?_⟩
  · intro sender currentFrame extensionId context id hcontext hid
    obtain ⟨message, requestId, read, hmessage, hrequest, hsame, haccept⟩ :=
      validateRequest_requestCredential hurls hcontext hid
    exact ⟨message, requestId, read, hmessage, hrequest, hsame,
      fun bytes => haccept host.readJson bytes⟩
  · intro id id' context context' read read' hsame hsame' hne heq
    apply hne
    rw [← hsame.document_id, ← hsame'.document_id, heq]
  · intro writer input bytes requestId timeout context hwriter hframe hvalid
    have hsent := fillResponse_sent (validateRequest_eq_ok hvalid) (host.fill context timeout)
    refine ⟨_, ?_, hsent.encode_length_le, fun readResponse hread => ?_⟩
    · have hanswer := writeResponse_eq hcut hwriter hsent.encode_length_le
      rw [serveWithFill_of_ok writer hframe hvalid]
      exact congrArg (Prod.mk [Call.fill context timeout]) hanswer
    · rw [hread, Option.map_some]
      exact congrArg some (parseFillResponse_fillResponse requestId (host.fill context timeout))

/-- The browser's parser, for one origin. -/
def exampleParse (value : String) : Option Browser.Url :=
  if value = "https://example.com" then
    some ⟨"https:", "https://example.com", "example.com"⟩
  else none

/-- The host's parser, for the same origin. -/
def exampleParseUrl (value : String) : Option Core.Url :=
  if value = "https://example.com" then
    some ⟨"https", some "example.com", "", none, none, none, none, "/", "https://example.com"⟩
  else none

theorem example_sameOrigins : SameOrigins exampleParse exampleParseUrl where
  agree value url h hprotocol := by
    unfold exampleParse at h
    split at h
    · rename_i hvalue
      obtain rfl := Option.some.inj h
      exact ⟨_, if_pos hvalue, rfl, rfl⟩
    · cases h
  ascii value url h := by
    unfold exampleParseUrl at h
    split at h
    · obtain rfl := Option.some.inj h
      have hall : "https://example.com".toList.all (·.toNat < 0x80) = true := by decide
      intro c hc
      exact of_decide_eq_true (List.all_eq_true.mp hall c hc)
    · cases h
  empty := by decide

/-- The document of a tab. -/
def exampleSender : Json := .object
  [("id", .string "abcdefghijklmnopabcdefghijklmnop"),
    ("frameId", .number 0), ("documentLifecycle", .string "active"),
    ("documentId", .string "0123456789ABCDEF0123456789ABCDEF"),
    ("origin", .string "https://example.com"), ("url", .string "https://example.com"),
    ("tab", .object [("id", .number 7), ("url", .string "https://example.com")])]

/-- Its frame. -/
def exampleFrame : Json := .object
  [("documentId", .string "0123456789ABCDEF0123456789ABCDEF"),
    ("documentLifecycle", .string "active"), ("frameType", .string "outermost_frame"),
    ("parentFrameId", .number (-1)), ("errorOccurred", .bool false),
    ("url", .string "https://example.com")]

/-- The message for the document, as it is posted. -/
def exampleText : String :=
  "\x7b\"protocolVersion\":2,\"requestId\":\"01010101010101010101010101010101\"," ++
  "\"operation\":\"fillSingle\",\"context\":\x7b\"kind\":\"exactHttps\",\"tabId\":7," ++
  "\"frameId\":0,\"documentId\":\"01234567-89ab-cdef-0123-456789abcdef\"," ++
  "\"topLevelOrigin\":\"https://example.com\"," ++
  "\"frameOrigin\":\"https://example.com\"\x7d,\"timeoutMs\":2000\x7d"

/-- A host that reads the message, and finds no credential. -/
def exampleHost : Host where
  readJson bytes :=
    if bytes = Utf8.encode exampleText then
      requestCredential (Bytes.replicate 16 1)
        ⟨7, 0, "0123456789ABCDEF0123456789ABCDEF", "https://example.com", "https://example.com"⟩
    else none
  parseUrl := exampleParseUrl
  cut bytes := [bytes]
  status _ := .ok .unlocked
  fill _ _ := .ok none

/-- The document of the tab is taken by the host. -/
theorem example_spoken : ∃ context requestId read,
    validateBrowserDocument exampleParse (some exampleSender) (some exampleFrame)
      "abcdefghijklmnopabcdefghijklmnop" = some context ∧
    validateRequest exampleHost.readJson exampleParseUrl (Utf8.encode exampleText) =
      .ok ⟨requestId, 2000, some read⟩ ∧ read.top_origin = context.topLevelOrigin := by
  have hcontext : validateBrowserDocument exampleParse (some exampleSender) (some exampleFrame)
      "abcdefghijklmnopabcdefghijklmnop" = some ⟨7, 0, "0123456789ABCDEF0123456789ABCDEF",
        "https://example.com", "https://example.com"⟩ := by decide +kernel
  obtain ⟨message, requestId, read, hmessage, -, hsame, haccept⟩ :=
    (@host_speaks_extension exampleHost exampleParse example_sameOrigins
      fun bytes => List.append_nil bytes).1 _ _ _ _ (Bytes.replicate 16 1) hcontext (by decide)
  have hread : exampleHost.readJson (Utf8.encode exampleText) = some message := by
    simp only [exampleHost, if_true, hmessage]
  exact ⟨_, requestId, read, hcontext, haccept _ hread, hsame.top_origin⟩

end Librarian.NativeHost
