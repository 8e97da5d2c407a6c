import Librarian.Desktop.Codec
import Librarian.Lib.Runs

/-!
# Requests and the closing of the desktop client

`packaged_desktop_client` of `DesktopTransport.cpp`: one thread makes requests, another may call
`Close` at any time. They share the flag `closed_` and, under a lock, the handle of the pipe that a
request has registered. A step is one section under that lock, one load or store of the flag, or the
start or the end of one I/O; the events of the request's thread carry what the system and the agent
answer. An event that the state does not allow changes nothing.

`CancelIoEx` aborts the I/O that has been started on a pipe and is not complete. It does nothing
about the I/O that the request starts next.
-/

namespace Librarian.Desktop

/-- A pipe handle. `INVALID_HANDLE_VALUE` is no handle. -/
abbrev Handle : Type := ℕ

/-- `frame_header_bytes`. -/
def frameHeaderBytes : ℕ := 40

/-- The buffers that a connection and a request transfer, in this order: the header and the payload
of four frames. Each is one call of `write_all` or `read_exact`. -/
inductive Transfer
  | helloHeader
  | helloPayload
  | serverHeader
  | serverPayload
  | requestHeader
  | requestPayload
  | responseHeader
  | responsePayload
  deriving DecidableEq, Repr

/-- Whether the buffer belongs to the request's own two frames, those of `send_locked`. -/
def Transfer.ofRequest : Transfer → Bool
  | requestHeader | requestPayload | responseHeader | responsePayload => true
  | helloHeader | helloPayload | serverHeader | serverPayload => false

/-- An I/O of the overlapped kind: not started, started and not complete, or aborted. -/
inductive Io
  | ready
  | pending
  | aborted
  deriving DecidableEq, Repr

/-- Where the request's thread is. `activated` is the flag of `retry_agent_connection`. -/
inductive Phase
  /-- Between calls. -/
  | idle
  /-- Before the load in `password_body_after_latch`. -/
  | latching
  /-- Before the load under `request_gate_`. -/
  | entering
  /-- The call has been admitted; its body is built. -/
  | admitted
  /-- At the head of the retry loop. -/
  | looking (activated : Bool)
  /-- In `load_descriptor` or `connect_pipe`. -/
  | attempting (activated : Bool)
  /-- The pipe is open and not registered. -/
  | connected (activated : Bool) (pipe : Handle)
  /-- In `write_all` or `read_exact`, with `left` bytes of the buffer to go. -/
  | transferring (activated : Bool) (pipe : Handle) (transfer : Transfer) (left : ℕ) (io : Io)
  /-- `connect_agent` has returned. -/
  | negotiated (pipe : Handle)
  /-- In the handler that clears the pipe after a failed negotiation. -/
  | rejecting (activated : Bool) (pipe : Handle) (error : TransportError)
  /-- An attempt ends and closes its pipe. -/
  | dropping (activated : Bool) (pipe : Handle) (error : TransportError)
  /-- An attempt has failed. -/
  | caught (activated : Bool) (error : TransportError)
  /-- Before the destructor of `active_request`. -/
  | leaving (pipe : Handle) (result : ClientError)
  /-- `send_locked` ends and closes its pipe. -/
  | disconnecting (pipe : Handle) (result : ClientError)
  /-- The call has its result. -/
  | returning (result : ClientError)
  deriving DecidableEq, Repr

/-- What a caller asks for, as far as it decides what the call does before its request: whether the
body is built from a password, and the parent window of the two calls that take one. -/
structure Call where
  password : Bool
  parent_window : Option ℕ
  deriving DecidableEq, Repr

/-- `packaged_desktop_client`, with its open pipes, the two threads, and what is said of the calls:
whether a `Close` has returned, whether the present or last call began after that, and the result of
the last call. -/
structure DesktopClient where
  closed : Bool := false
  active_pipe : Option Handle := none
  handles : List Handle := []
  phase : Phase := .idle
  closing : Bool := false
  close_returned : Bool := false
  late : Bool := false
  result : Option ClientError := none
  deriving DecidableEq, Repr

/-- `map_transport_error`. -/
def mapTransportError : TransportError → ClientError
  | .cancelled => .cancelled
  | .unavailable | .invalid => .agentUnavailable

namespace DesktopClient

/-! ## Close -/

/-- The store in `Close`. -/
def closeStore (c : DesktopClient) : DesktopClient :=
  if c.closing then c else { c with closed := true, closing := true }

/-- `CancelIoEx` on a pipe. -/
def cancelIo (pipe : Handle) : Phase → Phase
  | .transferring activated p transfer left io =>
    if p = pipe ∧ io = .pending then .transferring activated p transfer left .aborted
    else .transferring activated p transfer left io
  | phase => phase

/-- The section of `Close` under the lock, and its return. -/
def closeCancel (c : DesktopClient) : DesktopClient :=
  if c.closing then
    { c with
      phase := match c.active_pipe with
        | some pipe => cancelIo pipe c.phase
        | none => c.phase
      closing := false
      close_returned := true }
  else c

/-! ## The start of a call -/

/-- A call begins. Without a parent window, the two calls that need one do nothing else. -/
def start (call : Call) (c : DesktopClient) : DesktopClient :=
  match c.phase with
  | .idle =>
    { c with
      phase :=
        if call.parent_window = some 0 then .returning .windowsHelloUnavailable
        else if call.password then .latching else .entering
      late := c.close_returned
      result := none }
  | _ => c

/-- `password_body_after_latch`; the body may turn out to be invalid. -/
def latch (valid : Bool) (c : DesktopClient) : DesktopClient :=
  match c.phase with
  | .latching =>
    { c with phase :=
        if c.closed then .returning (mapTransportError .cancelled)
        else if valid then .entering else .returning (mapTransportError .invalid) }
  | _ => c

/-- The load under `request_gate_`. -/
def enter (c : DesktopClient) : DesktopClient :=
  match c.phase with
  | .entering => { c with phase := if c.closed then .returning .cancelled else .admitted }
  | _ => c

/-- What a call does before `send_locked`: building the body, removing a cached passkey. -/
def prepare (failure : Option TransportError) (c : DesktopClient) : DesktopClient :=
  match c.phase, failure with
  | .admitted, some error => { c with phase := .returning (mapTransportError error) }
  | .admitted, none => { c with phase := .looking false }
  | _, _ => c

/-! ## Connecting -/

/-- The load at the head of the loop in `retry_agent_connection`. -/
def look (c : DesktopClient) : DesktopClient :=
  match c.phase with
  | .looking activated =>
    { c with phase :=
        if c.closed then .returning (mapTransportError .cancelled) else .attempting activated }
  | _ => c

/-- `load_descriptor` and `connect_pipe`: a new pipe, or a failure. -/
def connect (answer : Except TransportError Handle) (c : DesktopClient) : DesktopClient :=
  match c.phase, answer with
  | .attempting activated, .ok pipe =>
    if pipe ∈ c.handles then c
    else { c with phase := .connected activated pipe, handles := pipe :: c.handles }
  | .attempting activated, .error error => { c with phase := .caught activated error }
  | _, _ => c

/-- `register_active_pipe`, and the entry into the negotiation. -/
def registerActivePipe (c : DesktopClient) : DesktopClient :=
  match c.phase with
  | .connected activated pipe =>
    if c.closed then { c with phase := .dropping activated pipe .cancelled }
    else if c.active_pipe ≠ none then { c with phase := .dropping activated pipe .invalid }
    else
      { c with
        active_pipe := some pipe
        phase := .transferring activated pipe .helloHeader frameHeaderBytes .ready }
  | _ => c

/-- `clear_active_pipe`, which the destructor of `active_request` does as well. -/
def clearActivePipe (pipe : Handle) (c : DesktopClient) : DesktopClient :=
  if c.active_pipe = some pipe then { c with active_pipe := none } else c

/-- The handler of `connect_agent` after a failed negotiation. -/
def reject (c : DesktopClient) : DesktopClient :=
  match c.phase with
  | .rejecting activated pipe error =>
    { clearActivePipe pipe c with phase := .dropping activated pipe error }
  | _ => c

/-- The end of an attempt closes its pipe. -/
def drop (c : DesktopClient) : DesktopClient :=
  match c.phase with
  | .dropping activated pipe error =>
    { c with phase := .caught activated error, handles := c.handles.erase pipe }
  | _ => c

/-- The rest of the loop in `retry_agent_connection`: which errors are final, the activation of the
agent, the deadline and the pause. -/
def retry (activates expired : Bool) (c : DesktopClient) : DesktopClient :=
  match c.phase with
  | .caught activated error =>
    { c with phase :=
        if error = .cancelled ∨ error = .invalid then .returning (mapTransportError error)
        else if ¬activated ∧ ¬activates then .returning (mapTransportError .unavailable)
        else if expired then .returning (mapTransportError .unavailable)
        else .looking true }
  | _ => c

/-! ## Transferring -/

/-- The start of a `WriteFile` or `ReadFile`. -/
def startIo (c : DesktopClient) : DesktopClient :=
  match c.phase with
  | .transferring activated pipe transfer left .ready =>
    if left = 0 then c
    else { c with phase := .transferring activated pipe transfer left .pending }
  | _ => c

/-- An I/O that has been started transfers some of the bytes that are left. -/
def completeIo (transferred : ℕ) (c : DesktopClient) : DesktopClient :=
  match c.phase with
  | .transferring activated pipe transfer left .pending =>
    if transferred = 0 ∨ transferred > left then c
    else { c with phase := .transferring activated pipe transfer (left - transferred) .ready }
  | _ => c

/-- What an exception in the middle of a transfer unwinds to. -/
def unwind (activated : Bool) (pipe : Handle) (transfer : Transfer) (error : TransportError) :
    Phase :=
  if transfer.ofRequest then .leaving pipe (mapTransportError error)
  else .rejecting activated pipe error

/-- A transfer fails of itself: the deadline, the agent's exit, a frame that is not valid. -/
def failIo (valid : Bool) (c : DesktopClient) : DesktopClient :=
  match c.phase with
  | .transferring activated pipe transfer _ _ =>
    { c with phase := unwind activated pipe transfer (if valid then .unavailable else .invalid) }
  | _ => c

/-- The thread sees that its I/O has been aborted. -/
def observeAbort (c : DesktopClient) : DesktopClient :=
  match c.phase with
  | .transferring activated pipe transfer _ .aborted =>
    { c with phase := unwind activated pipe transfer .cancelled }
  | _ => c

/-- What follows a buffer that has been transferred: the next one, whose payload has `payload`
bytes, the end of the negotiation, or the end of the request with the result that the response
decodes to. -/
def follow (activated : Bool) (pipe : Handle) (payload : ℕ) (result : ClientError) :
    Transfer → Phase
  | .helloHeader => .transferring activated pipe .helloPayload payload .ready
  | .helloPayload => .transferring activated pipe .serverHeader frameHeaderBytes .ready
  | .serverHeader => .transferring activated pipe .serverPayload payload .ready
  | .serverPayload => .negotiated pipe
  | .requestHeader => .transferring activated pipe .requestPayload payload .ready
  | .requestPayload => .transferring activated pipe .responseHeader frameHeaderBytes .ready
  | .responseHeader => .transferring activated pipe .responsePayload payload .ready
  | .responsePayload => .leaving pipe result

/-- A buffer has been transferred. -/
def advance (payload : ℕ) (result : ClientError) (c : DesktopClient) : DesktopClient :=
  match c.phase with
  | .transferring activated pipe transfer 0 .ready =>
    { c with phase := follow activated pipe payload result transfer }
  | _ => c

/-! ## The request -/

/-- The constructor of `active_request`, and the entry into `write_frame`. -/
def activeRequest (c : DesktopClient) : DesktopClient :=
  match c.phase with
  | .negotiated pipe =>
    if c.closed then
      { clearActivePipe pipe c with phase := .disconnecting pipe (mapTransportError .cancelled) }
    else if c.active_pipe ≠ some pipe then
      { c with phase := .disconnecting pipe (mapTransportError .invalid) }
    else
      { c with phase := .transferring false pipe .requestHeader frameHeaderBytes .ready }
  | _ => c

/-- The destructor of `active_request`. -/
def leave (c : DesktopClient) : DesktopClient :=
  match c.phase with
  | .leaving pipe result =>
    { clearActivePipe pipe c with phase := .disconnecting pipe result }
  | _ => c

/-- The end of `send_locked` closes its pipe. -/
def disconnect (c : DesktopClient) : DesktopClient :=
  match c.phase with
  | .disconnecting pipe result =>
    { c with phase := .returning result, handles := c.handles.erase pipe }
  | _ => c

/-- The call returns. -/
def finish (c : DesktopClient) : DesktopClient :=
  match c.phase with
  | .returning result => { c with phase := .idle, result := some result }
  | _ => c

/-! ## Runs -/

/-- A step of one of the two threads, with what the system answers. -/
inductive Event
  | closeStore
  | closeCancel
  | start (call : Call)
  | latch (valid : Bool)
  | enter
  | prepare (failure : Option TransportError)
  | look
  | connect (answer : Except TransportError Handle)
  | registerActivePipe
  | startIo
  | completeIo (transferred : ℕ)
  | failIo (valid : Bool)
  | observeAbort
  | advance (payload : ℕ) (result : ClientError)
  | reject
  | drop
  | retry (activates expired : Bool)
  | activeRequest
  | leave
  | disconnect
  | finish

/-- One step of an interleaving. -/
def step (c : DesktopClient) : Event → DesktopClient
  | .closeStore => c.closeStore
  | .closeCancel => c.closeCancel
  | .start call => c.start call
  | .latch valid => c.latch valid
  | .enter => c.enter
  | .prepare failure => c.prepare failure
  | .look => c.look
  | .connect answer => c.connect answer
  | .registerActivePipe => c.registerActivePipe
  | .startIo => c.startIo
  | .completeIo transferred => c.completeIo transferred
  | .failIo valid => c.failIo valid
  | .observeAbort => c.observeAbort
  | .advance payload result => c.advance payload result
  | .reject => c.reject
  | .drop => c.drop
  | .retry activates expired => c.retry activates expired
  | .activeRequest => c.activeRequest
  | .leave => c.leave
  | .disconnect => c.disconnect
  | .finish => c.finish

end DesktopClient

end Librarian.Desktop
