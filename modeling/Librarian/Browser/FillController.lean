import Librarian.Browser.FillNative

/-!
# The fill controller

`fill-controller.ts` of the browser extension, in its service worker. A handler runs up to its next
`await`; what the browser then answers is an event of its own, and so anything may happen between
the two. The answers are arbitrary. A restart of the worker loses its maps and its suspended runs.
-/

namespace Librarian.Browser

/-- What the worker has of the browser: its parser for URLs, and the extension's identifier. -/
structure BrowserApi where
  parse : String → Option Url
  id : String

/-! ## Requests of documents -/

/-- The answer that a run waits for. -/
inductive Await
  /-- `getFrame`, for a message. -/
  | frame (message : Json)
  /-- `permissions.contains`, for a pattern. -/
  | permission (context : BrowserDocumentContext) (pattern : String)
  /-- `requestCredential`. -/
  | credential (context : BrowserDocumentContext) (pattern : String)
  /-- `getFrame` once more. -/
  | frameAgain (context : BrowserDocumentContext) (pattern : String) (result : FillResult)
  /-- `permissions.contains` once more. -/
  | permissionAgain (context : BrowserDocumentContext) (pattern : String) (result : FillResult)

/-- What the listeners of one port hold. It is in `active` until it is finished. -/
structure FillPort where
  sender : Option Json
  tabId : Option ℤ
  aborted : Bool := false
  received : Bool := false
  finished : Bool := false
  await : Option Await := none

/-- `close`. -/
def FillPort.close (r : FillPort) : FillPort :=
  if r.finished then r else { r with finished := true, aborted := true }

/-- The end of a run, in its `finally`. -/
def FillPort.settle (r : FillPort) : FillPort := { r.close with await := none }

/-- `actions` of a tab. -/
structure Grant where
  documentId : String
  nonce : String
  expires : ℕ
  deriving DecidableEq, Repr

/-- A toolbar action of a tab, and whether it has sent its message. -/
structure ToolbarAction where
  tabId : ℤ
  sent : Bool
  deriving DecidableEq, Repr

/-- `FillPresentation`. -/
inductive FillPresentation
  | result (result : FillResult)
  | noForm
  deriving DecidableEq, Repr

/-- What the worker has done and heard. -/
inductive WorkerEntry
  | connected (port : ℕ) (sender : Option Json)
  | framed (port : ℕ) (frame : Option Json)
  | permitted (port : ℕ) (pattern : String) (held : Bool)
  | asked (port : ℕ) (context : BrowserDocumentContext)
  | answered (port : ℕ) (result : FillResult)
  | posted (port : ℕ) (result : FillResult)
  | presented (tabId : Option ℤ) (status : FillPresentation)
  /-- A navigation of the main frame of a tab. -/
  | navigated (tabId : ℤ)
  | removed (tabId : ℤ)
  | revoked
  | disconnected (port : ℕ)
  | expired (port : ℕ)
  | restarted

/-- The worker. `ports` numbers the ports and outlives it; the history, newest last, does as
well. -/
structure Worker where
  ports : ℕ := 0
  requests : ℕ → Option FillPort := fun _ => none
  automatic : List (ℤ × String) := []
  actions : List (ℤ × Grant) := []
  clicks : List ToolbarAction := []
  history : List WorkerEntry := []

/-- `delete` of a map. -/
def mapDelete {α : Type} (key : ℤ) (entries : List (ℤ × α)) : List (ℤ × α) :=
  entries.filter fun entry => entry.1 ≠ key

/-- `set` of a map. -/
def mapSet {α : Type} (key : ℤ) (value : α) (entries : List (ℤ × α)) : List (ℤ × α) :=
  (key, value) :: mapDelete key entries

namespace Worker

def note (entry : WorkerEntry) (w : Worker) : Worker := { w with history := w.history ++ [entry] }

/-- The listeners of one port change what they hold. -/
def modify (port : ℕ) (f : FillPort → FillPort) (w : Worker) : Worker :=
  { w with requests := fun p => if p = port then (w.requests p).map f else w.requests p }

/-- `active.size`. -/
def activeSize (w : Worker) : ℕ :=
  ((List.range w.ports).filter fun port => (w.requests port).any fun r => !r.finished).length

/-- Aborts the active requests that meet `p`. -/
def abort (p : FillPort → Bool) (w : Worker) : Worker :=
  { w with requests := fun port =>
      (w.requests port).map fun r => if ¬r.finished ∧ p r then { r with aborted := true } else r }

/-- `cancelTab`. -/
def cancelTab (tabId : ℤ) (w : Worker) : Worker :=
  abort (fun r => r.tabId = some tabId) { w with actions := mapDelete tabId w.actions }

/-- `navigated`, the listener of four events. -/
def navigated (tabId frameId : ℤ) (w : Worker) : Worker :=
  if frameId = 0 then note (.navigated tabId) (w.cancelTab tabId) else w

/-- The listener of `tabs.onRemoved`. -/
def tabRemoved (tabId : ℤ) (w : Worker) : Worker :=
  note (.removed tabId)
    { w.cancelTab tabId with automatic := mapDelete tabId (w.cancelTab tabId).automatic }

/-- The listener of `permissions.onRemoved`. -/
def permissionRemoved (w : Worker) : Worker :=
  note .revoked (abort (fun _ => true) { w with actions := [] })

/-! ## Ports -/

/-- Whether a tab's identifier is a number, whichever. -/
def isNumber : Option Json → Bool
  | some (.number _) | some .fraction => true
  | _ => false

/-- The listener of `runtime.onConnect`. -/
def connect (api : BrowserApi) (name : String) (sender : Option Json) (w : Worker) : Worker :=
  if name ≠ "librarian-fill-v1" ∨ sender.isNone ∨
      Json.string? (property sender "id") ≠ some api.id ∨
      Json.number? (property sender "frameId") ≠ some 0 ∨
      ¬isNumber (property (property sender "tab") "id") ∨ w.activeSize ≥ 32 then
    { w with ports := w.ports + 1 }
  else
    note (.connected w.ports sender)
      { w with
        ports := w.ports + 1
        requests := fun port =>
          if port = w.ports then
            some { sender, tabId := Json.number? (property (property sender "tab") "id") }
          else w.requests port }

/-- `run`, as far as its first `await`. -/
def run (message : Json) (r : FillPort) : FillPort :=
  if Json.string? (message.get? "kind") = some "fill" ∧
      (exactKeys message ["kind"] ∨ exactKeys message ["kind", "actionNonce"]) then
    { r with await := some (.frame message) }
  else r.settle

/-- The listener of `onMessage` of a port. -/
def message (port : ℕ) (message : Json) (w : Worker) : Worker :=
  w.modify port fun r =>
    if r.received then r.close else run message { r with received := true }

/-- The listener of `onDisconnect` of a port. -/
def disconnected (port : ℕ) (w : Worker) : Worker :=
  note (.disconnected port) (w.modify port FillPort.close)

/-- The timeout of a port. -/
def expired (port : ℕ) (w : Worker) : Worker := note (.expired port) (w.modify port FillPort.close)

/-- A run returns. -/
def settle (port : ℕ) (w : Worker) : Worker := w.modify port FillPort.settle

/-- A run throws. -/
def fail (port : ℕ) (r : FillPort) (w : Worker) : Worker :=
  if r.aborted then w.settle port
  else note (.presented r.tabId (.result .operationFailed)) (w.settle port)

/-- A run waits for another answer. -/
def wait (port : ℕ) (await : Await) (w : Worker) : Worker :=
  w.modify port fun r => { r with await := some await }

/-- Whether a message may use the automatic fill of its document, or the grant of its tab. Both are
used up. -/
def admitted (message : Json) (context : BrowserDocumentContext) (now : ℕ) (w : Worker) :
    Worker × Bool :=
  if (message.get? "actionNonce").isSome then
    ({ w with actions := mapDelete context.tabId w.actions },
      (w.actions.lookup context.tabId).any fun grant =>
        grant.documentId = context.documentId ∧
          some grant.nonce = Json.string? (message.get? "actionNonce") ∧ now < grant.expires)
  else if w.automatic.lookup context.tabId = some context.documentId ∨
      (w.automatic.length ≥ 256 ∧ (w.automatic.lookup context.tabId).isNone) then (w, false)
  else ({ w with automatic := mapSet context.tabId context.documentId w.automatic }, true)

/-- The pattern of the host permission of a document. The parser may throw. -/
def permissionPattern (api : BrowserApi) (context : BrowserDocumentContext) : Option String :=
  (api.parse context.topLevelOrigin).map fun url => "https://" ++ url.hostname ++ "/*"

/-- From the first answer of `getFrame` to the first question for the permission. -/
def onFrame (api : BrowserApi) (port : ℕ) (r : FillPort) (message : Json) (frame : Option Json)
    (now : ℕ) (w : Worker) : Worker :=
  match validateBrowserDocument api.parse r.sender frame api.id with
  | none => w.settle port
  | some context =>
    if r.aborted then w.settle port
    else if ¬(w.admitted message context now).2 then (w.admitted message context now).1.settle port
    else
      match permissionPattern api context with
      | none => (w.admitted message context now).1.fail port r
      | some pattern =>
        note (.framed port frame) ((w.admitted message context now).1.wait port
          (.permission context pattern))

/-- From the first answer of `contains` to the request of the native host. -/
def onPermission (port : ℕ) (r : FillPort) (context : BrowserDocumentContext) (pattern : String)
    (held : Bool) (w : Worker) : Worker :=
  if ¬held ∨ r.aborted then w.settle port
  else
    note (.asked port context)
      (note (.permitted port pattern held) (w.wait port (.credential context pattern)))

/-- From the native host's answer to the second question for the frame. -/
def onCredential (port : ℕ) (r : FillPort) (context : BrowserDocumentContext) (pattern : String)
    (result : FillResult) (w : Worker) : Worker :=
  if r.aborted then w.settle port
  else note (.answered port result) (w.wait port (.frameAgain context pattern result))

/-- From the second answer of `getFrame` to the second question for the permission. -/
def onFrameAgain (api : BrowserApi) (port : ℕ) (r : FillPort) (context : BrowserDocumentContext)
    (pattern : String) (result : FillResult) (frame : Option Json) (w : Worker) : Worker :=
  match validateBrowserDocument api.parse r.sender frame api.id with
  | none => w.settle port
  | some current =>
    if sameBrowserDocument context current then
      note (.framed port frame) (w.wait port (.permissionAgain context pattern result))
    else w.settle port

/-- From the second answer of `contains` to the end. The port may be closed, and then `postMessage`
throws. -/
def onPermissionAgain (port : ℕ) (r : FillPort) (context : BrowserDocumentContext)
    (pattern : String) (result : FillResult) (held posts : Bool) (w : Worker) : Worker :=
  if ¬held ∨ r.aborted then w.settle port
  else if posts then
    (note (.presented (some context.tabId) (.result result))
      (note (.posted port result) (note (.permitted port pattern held) w))).settle port
  else (note (.permitted port pattern held) w).fail port r

/-! ## Toolbar actions -/

/-- `explicit`, as far as its first `await`. -/
def explicit (tabId : Option ℤ) (w : Worker) : Worker :=
  match tabId with
  | some tabId => { w with clicks := w.clicks ++ [⟨tabId, false⟩] }
  | none => w

/-- The checks of `explicit` on a frame, with the document. -/
def explicitDocument (api : BrowserApi) (frame : Option Json) : Option String :=
  match Json.string? (property frame "documentId") with
  | some documentId =>
    if Json.string? (property frame "documentLifecycle") = some "active" ∧
        Json.string? (property frame "frameType") = some "outermost_frame" ∧
        Json.number? (property frame "parentFrameId") = some (-1) ∧
        Json.bool? (property frame "errorOccurred") = some false ∧
        (originFromBrowserUrl api.parse (property frame "url")).isSome then some documentId
    else none
  | none => none

/-- From the frame of a toolbar action to its message. -/
def explicitFrame (api : BrowserApi) (click : ToolbarAction) (frame : Option Json)
    (bytes : Bytes 16) (now : ℕ) (w : Worker) : Worker :=
  match explicitDocument api frame, createRequestId bytes with
  | some documentId, some nonce =>
    if w.actions.length ≥ 256 ∧ (w.actions.lookup click.tabId).isNone then
      { w with clicks := w.clicks.erase click }
    else
      { w with
        actions := mapSet click.tabId ⟨documentId, nonce, now + 3000⟩ w.actions
        clicks := ⟨click.tabId, true⟩ :: w.clicks.erase click }
  | _, _ => { w with clicks := w.clicks.erase click }

/-- The content script's response to the message of a toolbar action, or the lack of one. -/
def explicitResponse (click : ToolbarAction) (response : Option Json) (w : Worker) : Worker :=
  if (response.any fun value => exactKeys value ["started"]) ∧
      Json.bool? (property response "started") = some true then
    { w with clicks := w.clicks.erase click }
  else
    note (.presented (some click.tabId) .noForm)
      { w with
        actions := mapDelete click.tabId w.actions
        clicks := w.clicks.erase click }

/-! ## Runs -/

/-- What may happen to the worker. -/
inductive Event
  | connect (name : String) (sender : Option Json)
  | message (port : ℕ) (message : Json)
  | disconnected (port : ℕ)
  | expired (port : ℕ)
  | navigated (tabId frameId : ℤ)
  | tabRemoved (tabId : ℤ)
  | permissionRemoved
  | restart
  /-- `getFrame` answers, at a time. -/
  | frame (port : ℕ) (frame : Option Json) (now : ℕ)
  /-- `contains` answers; `posts` says that the port takes a message. -/
  | permission (port : ℕ) (held posts : Bool)
  /-- `requestCredential` answers. -/
  | credential (port : ℕ) (result : FillResult)
  /-- What a run waits for is refused. -/
  | refused (port : ℕ)
  | explicit (tabId : Option ℤ)
  | explicitFrame (click : ToolbarAction) (frame : Option Json) (bytes : Bytes 16) (now : ℕ)
  | explicitResponse (click : ToolbarAction) (response : Option Json)

/-- The run of a port goes on with the answer of `getFrame`. -/
def resumeFrame (api : BrowserApi) (port : ℕ) (frame : Option Json) (now : ℕ) (r : FillPort)
    (w : Worker) : Worker :=
  match r.await with
  | some (.frame message) => w.onFrame api port r message frame now
  | some (.frameAgain context pattern result) =>
    w.onFrameAgain api port r context pattern result frame
  | _ => w

/-- The run of a port goes on with the answer of `contains`. -/
def resumePermission (port : ℕ) (held posts : Bool) (r : FillPort) (w : Worker) : Worker :=
  match r.await with
  | some (.permission context pattern) => w.onPermission port r context pattern held
  | some (.permissionAgain context pattern result) =>
    w.onPermissionAgain port r context pattern result held posts
  | _ => w

/-- The run of a port goes on with the answer of the native host. -/
def resumeCredential (port : ℕ) (result : FillResult) (r : FillPort) (w : Worker) : Worker :=
  match r.await with
  | some (.credential context pattern) => w.onCredential port r context pattern result
  | _ => w

/-- The run of a port goes on with an exception. -/
def resumeRefused (port : ℕ) (r : FillPort) (w : Worker) : Worker :=
  match r.await with
  | some _ => w.fail port r
  | none => w

/-- The run of a port goes on. -/
def resume (port : ℕ) (f : FillPort → Worker → Worker) (w : Worker) : Worker :=
  match w.requests port with
  | some r => f r w
  | none => w

def step (api : BrowserApi) (w : Worker) : Event → Worker
  | .connect name sender => w.connect api name sender
  | .message port message => Worker.message port message w
  | .disconnected port => w.disconnected port
  | .expired port => w.expired port
  | .navigated tabId frameId => w.navigated tabId frameId
  | .tabRemoved tabId => w.tabRemoved tabId
  | .permissionRemoved => w.permissionRemoved
  | .restart => { ports := w.ports, history := w.history ++ [.restarted] }
  | .frame port frame now => w.resume port (resumeFrame api port frame now)
  | .permission port held posts => w.resume port (resumePermission port held posts)
  | .credential port result => w.resume port (resumeCredential port result)
  | .refused port => w.resume port (resumeRefused port)
  | .explicit tabId => w.explicit tabId
  | .explicitFrame click frame bytes now =>
    if ⟨click.tabId, false⟩ ∈ w.clicks then
      w.explicitFrame api ⟨click.tabId, false⟩ frame bytes now else w
  | .explicitResponse click response =>
    if ⟨click.tabId, true⟩ ∈ w.clicks then
      w.explicitResponse ⟨click.tabId, true⟩ response else w

end Worker

end Librarian.Browser
