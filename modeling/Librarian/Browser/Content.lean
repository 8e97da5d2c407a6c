import Librarian.Browser.FillNative

/-!
# The content script

`fill-state.ts` and `content.ts` of the browser extension, in one document. The browser runs one
handler of the script at a time, and each is a step here. The script's own events are the exception:
the handlers of the page hear them while `writeFields` still dispatches, and may in turn dispatch
events that the script hears. So `writeFields` leaves a number of events to dispatch, and nothing
that waits in a queue runs before they are.

What the script reads of the document may change between any two steps. `findFillTargets` only
reads; what it finds is part of the document here, and so is that it throws.
-/

namespace Librarian.Browser

/-! ## Attempts -/

/-- Where an attempt comes from. -/
inductive FillKind
  | automatic
  | explicit
  deriving DecidableEq, Repr

/-- `FillAttempt`. The number is the identity of the object. -/
structure FillAttempt where
  kind : FillKind
  serial : ℕ
  deriving DecidableEq, Repr

/-- Non-secret, per-document state of the content script, with the number of the next attempt. -/
structure FillOnceState where
  automaticConsumed : Bool
  active : Bool := true
  pending : Option FillAttempt := none
  next : ℕ := 0
  deriving DecidableEq, Repr

namespace FillOnceState

/-- `#begin`. -/
def beginKind (kind : FillKind) (s : FillOnceState) : FillOnceState × Option FillAttempt :=
  if ¬s.active ∨ s.pending.isSome then (s, none)
  else
    ({ s with automaticConsumed := true, pending := some ⟨kind, s.next⟩, next := s.next + 1 },
      some ⟨kind, s.next⟩)

/-- Call only after detecting an eligible form, before requesting a record. -/
def beginAutomatic (s : FillOnceState) : FillOnceState × Option FillAttempt :=
  if s.automaticConsumed then (s, none) else s.beginKind .automatic

/-- The caller must independently verify a fresh extension-toolbar action. -/
def beginExplicit (s : FillOnceState) : FillOnceState × Option FillAttempt := s.beginKind .explicit

/-- Consume before the DOM write; duplicate or stale completions fail closed. -/
def complete (attempt : FillAttempt) (s : FillOnceState) : FillOnceState × Bool :=
  if ¬s.active ∨ s.pending ≠ some attempt then (s, false) else ({ s with pending := none }, true)

/-- Failure does not reset the automatic budget or cancel a newer attempt. -/
def fail (attempt : FillAttempt) (s : FillOnceState) : FillOnceState :=
  if s.pending = some attempt then { s with pending := none } else s

/-- Call on edits/deletions, including while a request is in flight. -/
def noteEdit (s : FillOnceState) : FillOnceState :=
  { s with automaticConsumed := true, pending := none }

/-- pagehide/navigation invalidates in-flight work, including BFCache work. -/
def suspend (s : FillOnceState) : FillOnceState :=
  { s with active := false, automaticConsumed := true, pending := none }

/-- pageshow may allow an explicit action, but never restores the auto budget. -/
def resume (s : FillOnceState) : FillOnceState := { s with active := true }

end FillOnceState

/-! ## Documents -/

/-- The identity of an element of the document. -/
abbrev Element : Type := ℕ

/-- `FillTargets`. -/
structure FillTargets where
  username : Option Element
  password : Element
  form : Option Element
  action : String
  deriving DecidableEq, Repr

/-- What `findFillTargets` comes to. -/
inductive Found
  | throws
  | nothing
  | targets (targets : FillTargets)
  deriving DecidableEq, Repr

/-- What the script reads of its document: whether it is the topmost one, what `findFillTargets`
finds in it, whether there is a setter for values, the values, and the location. -/
structure Page where
  top : Bool
  found : Found
  setter : Bool
  value : Element → String
  href : String

/-- The value of a target that may be missing. -/
def Page.valueOf (page : Page) (element : Option Element) : String :=
  match element with
  | some element => page.value element
  | none => ""

/-- `snapshot`. -/
structure Snapshot where
  targets : FillTargets
  username : String
  password : String
  url : String
  deriving DecidableEq, Repr

/-- The snapshot that `begin` takes. -/
def Page.snapshot (page : Page) (targets : FillTargets) : Snapshot where
  targets
  username := page.valueOf targets.username
  password := page.value targets.password
  url := page.href

/-- The values of the targets after the two writes of `writeFields`. -/
def Page.write (page : Page) (targets : FillTargets) (username password : String) : Page :=
  { page with
    value := fun element =>
      if element = targets.password then password
      else if some element = targets.username then username
      else page.value element }

/-- The events that `writeFields` dispatches: two at each of its targets. -/
def FillTargets.dispatches (targets : FillTargets) : ℕ :=
  if targets.username.isSome then 4 else 2

/-! ## The script -/

/-- The number of a port. Each call of `connect` gives the next one. -/
abbrev Port : Type := ℕ

/-- What the listeners and the timeout of one port hold, and whether the timeout is still to
come. -/
structure Opening where
  port : Port
  attempt : FillAttempt
  snapshot : Snapshot
  armed : Bool
  deriving DecidableEq, Repr

/-- What the script has done and heard. -/
inductive Entry
  | began (attempt : FillAttempt) (snapshot : Snapshot)
  | opened (attempt : FillAttempt) (port : Port)
  | wrote (attempt : FillAttempt) (page : Page)
  | edited
  | popstate
  | hidden
  | pagehide
  /-- `pageshow` of a document that comes back from the history. -/
  | restored

/-- The variables of `content.ts` and its document. Beside them stand the events that `writeFields`
has still to dispatch, and the history, newest last. -/
structure ContentScript where
  state : FillOnceState
  autoStopped : Bool
  pendingPort : Option Port := none
  pendingTimer : Option Port := none
  scheduled : Bool
  openings : List Opening := []
  page : Page
  dispatching : ℕ := 0
  history : List Entry := []

namespace ContentScript

/-- The script as it is loaded. `restored` is what the navigation's type says. -/
def load (restored : Bool) (page : Page) : ContentScript where
  state := { automaticConsumed := restored }
  autoStopped := restored
  scheduled := !restored
  page

def note (entry : Entry) (s : ContentScript) : ContentScript :=
  { s with history := s.history ++ [entry] }

/-- `stopAutomatic`. The observer hears nothing more, as nothing would come of it. -/
def stopAutomatic (s : ContentScript) : ContentScript :=
  { s with autoStopped := true, scheduled := false }

/-- `clearTimeout`, of the timeout of a port. -/
def clearTimeout (timer : Option Port) (s : ContentScript) : ContentScript :=
  { s with openings := s.openings.map fun o =>
      if timer = some o.port then { o with armed := false } else o }

/-- `cancel`. -/
def cancel (s : ContentScript) : ContentScript :=
  { s.clearTimeout s.pendingTimer with pendingTimer := none, pendingPort := none }

def noteEdit (s : ContentScript) : ContentScript := { s with state := s.state.noteEdit }

def fail (attempt : FillAttempt) (s : ContentScript) : ContentScript :=
  { s with state := s.state.fail attempt }

/-- A connection for an attempt, with its listeners and its timeout. -/
def connect (attempt : FillAttempt) (snapshot : Snapshot) (s : ContentScript) : ContentScript :=
  note (.opened attempt s.openings.length)
    { s with
      pendingPort := some s.openings.length
      pendingTimer := some s.openings.length
      openings := s.openings ++ [⟨s.openings.length, attempt, snapshot, true⟩] }

/-- The rest of `begin`, for an attempt: the connection, which may throw, and the post, which may
throw as well. -/
def request (attempt : FillAttempt) (snapshot : Snapshot) (connects posts : Bool)
    (s : ContentScript) : ContentScript × Bool :=
  if ¬connects then (s.fail attempt, false)
  else if posts then (s.connect attempt snapshot, true)
  else
    ((((s.connect attempt snapshot).fail attempt).cancel).clearTimeout (some s.openings.length),
      false)

/-- The attempt that `begin` asks its state for. -/
def attempt (explicit : Bool) (s : ContentScript) : FillOnceState × Option FillAttempt :=
  if explicit then s.state.beginExplicit else s.state.beginAutomatic

/-- `begin`. It comes to nothing where `findFillTargets` throws. -/
def begin (explicit connects posts : Bool) (s : ContentScript) : ContentScript × Bool :=
  if ¬s.page.top ∨ s.pendingPort.isSome then (s, false)
  else
    match s.page.found with
    | .throws | .nothing => (s, false)
    | .targets targets =>
      if ¬s.page.setter then (s, false)
      else if ¬explicit ∧
          (s.page.value targets.password ≠ "" ∨ s.page.valueOf targets.username ≠ "") then
        (s.stopAutomatic.noteEdit, false)
      else
        match s.attempt explicit with
        | (_, none) => (s, false)
        | (state, some attempt) =>
          (note (.began attempt (s.page.snapshot targets))
            { s with state }.stopAutomatic).request attempt (s.page.snapshot targets) connects posts

/-! ## Ports -/

/-- The script lets go of a port, when it is the pending one. -/
def forget (port : Port) (s : ContentScript) : ContentScript :=
  if s.pendingPort = some port then { s with pendingPort := none, pendingTimer := none } else s

/-- The listener of `onDisconnect` of a port. -/
def disconnected (o : Opening) (s : ContentScript) : ContentScript :=
  ((s.clearTimeout (some o.port)).fail o.attempt).forget o.port

/-- The timeout of a port. -/
def expired (o : Opening) (s : ContentScript) : ContentScript :=
  if o.armed then ((s.clearTimeout (some o.port)).fail o.attempt).cancel else s

/-- The credential in a message, when it is one. -/
def credential (message : Json) : Option (String × String) :=
  match boundedText (message.get? "username") 1024, boundedText (message.get? "password") 16384 with
  | some username, some password =>
    if message.isObject ∧ Json.string? (message.get? "status") = some "credential" ∧
        exactKeys message ["status", "username", "password"] then some (username, password)
    else none
  | _, _ => none

/-- `sameTargets`. -/
def sameTargets (left right : FillTargets) : Bool :=
  left.username = right.username ∧ left.password = right.password ∧ left.form = right.form ∧
    left.action = right.action

/-- Whether the document is what it was when the snapshot was taken. -/
def unchanged (snapshot : Snapshot) (page : Page) (current : FillTargets) : Bool :=
  sameTargets snapshot.targets current ∧ page.href = snapshot.url ∧
    page.value current.password = snapshot.password ∧
    page.valueOf current.username = snapshot.username

/-- `writeFields`, as far as the two writes. -/
def writeFields (attempt : FillAttempt) (targets : FillTargets) (username password : String)
    (s : ContentScript) : ContentScript :=
  note (.wrote attempt s.page)
    { s with
      page := s.page.write targets username password
      dispatching := targets.dispatches }

/-- What the listener of `onMessage` does when it has let go of the port. Where `findFillTargets`
throws, it does nothing more. -/
def receive (o : Opening) (message : Json) (s : ContentScript) : ContentScript :=
  match s.page.found, credential message with
  | .throws, _ => s
  | .targets current, some (username, password) =>
    if unchanged o.snapshot s.page current then
      match s.state.complete o.attempt with
      | (state, true) => { s with state }.writeFields o.attempt current username password
      | (_, false) => s.fail o.attempt
    else s.fail o.attempt
  | _, _ => s.fail o.attempt

/-- The listener of `onMessage` of a port. -/
def message (o : Opening) (message : Json) (s : ContentScript) : ContentScript :=
  if s.pendingPort ≠ some o.port then s.clearTimeout (some o.port)
  else ((s.clearTimeout (some o.port)).forget o.port).receive o message

/-! ## The document and its window -/

/-- `edited`, with whether the target is an input element. -/
def edited (input : Bool) (s : ContentScript) : ContentScript :=
  if input then note .edited s.stopAutomatic.noteEdit.cancel else s

/-- `schedule`. -/
def schedule (s : ContentScript) : ContentScript :=
  if s.autoStopped ∨ s.scheduled then s else { s with scheduled := true }

/-- The timer that `schedule` sets. -/
def tick (connects posts : Bool) (s : ContentScript) : ContentScript :=
  if ¬s.scheduled then s
  else if s.autoStopped then { s with scheduled := false }
  else ({ s with scheduled := false }.begin false connects posts).1

def popstate (s : ContentScript) : ContentScript := note .popstate s.stopAutomatic.noteEdit.cancel

def pagehide (s : ContentScript) : ContentScript :=
  note .pagehide (cancel { s.stopAutomatic with state := s.state.suspend })

def pageshow (persisted : Bool) (s : ContentScript) : ContentScript :=
  if persisted then note .restored { s.stopAutomatic with state := s.state.suspend.resume }
  else s.schedule

def visibilitychange (visible : Bool) (s : ContentScript) : ContentScript :=
  if visible then s.schedule else note .hidden s.noteEdit.stopAutomatic.cancel

/-- The nonce of an explicit fill, in a message of the extension's own worker. -/
def actionNonce (ownWorker : Bool) (message : Json) : Option String :=
  match Json.string? (message.get? "actionNonce") with
  | some nonce =>
    if ownWorker ∧ exactKeys message ["kind", "actionNonce"] ∧
        Json.string? (message.get? "kind") = some "explicitFill" ∧ nonce.toList.length = 32 ∧
        nonce.toList.all isLowerHex then some nonce
    else none
  | none => none

/-- The listener of `runtime.onMessage`. The nonce goes into the post of `begin`. -/
def runtimeMessage (ownWorker : Bool) (message : Json) (connects posts : Bool) (s : ContentScript) :
    ContentScript :=
  match actionNonce ownWorker message with
  | some _ => (s.begin true connects posts).1
  | none => s

/-- `writeFields` dispatches its next event, and the script hears it. -/
def dispatch (s : ContentScript) : ContentScript :=
  if s.dispatching = 0 then s else { s with dispatching := s.dispatching - 1 }.edited true

/-! ## Runs -/

/-- What may happen to the script. `connects` and `posts` say that `connect` and `postMessage` do
not throw. -/
inductive Event
  /-- The page, its user or the browser changes the document. -/
  | page (page : Page)
  | edited (input : Bool)
  | popstate
  | pagehide
  | pageshow (persisted : Bool)
  | visibilitychange (visible : Bool)
  /-- The handlers that only schedule: of the document's load, of a scroll, of a mutation. -/
  | schedule
  | dispatch
  | tick (connects posts : Bool)
  | runtimeMessage (ownWorker : Bool) (message : Json) (connects posts : Bool)
  | message (port : Port) (message : Json)
  | disconnected (port : Port)
  | expired (port : Port)

/-- The listeners and the timeout of a port. -/
def ofPort (port : Port) (f : Opening → ContentScript → ContentScript) (s : ContentScript) :
    ContentScript :=
  match s.openings.find? (·.port = port) with
  | some o => f o s
  | none => s

/-- What waits in a queue runs when the events of `writeFields` are dispatched. -/
def queued (f : ContentScript → ContentScript) (s : ContentScript) : ContentScript :=
  if s.dispatching = 0 then f s else s

def step (s : ContentScript) : Event → ContentScript
  | .page page => { s with page }
  | .edited input => s.edited input
  | .popstate => s.popstate
  | .pagehide => s.pagehide
  | .pageshow persisted => s.pageshow persisted
  | .visibilitychange visible => s.visibilitychange visible
  | .schedule => s.schedule
  | .dispatch => s.dispatch
  | .tick connects posts => s.queued (tick connects posts)
  | .runtimeMessage ownWorker message connects posts =>
    s.queued (runtimeMessage ownWorker message connects posts)
  | .message port message => s.queued (ofPort port fun o => ContentScript.message o message)
  | .disconnected port => s.queued (ofPort port disconnected)
  | .expired port => s.queued (ofPort port expired)

end ContentScript

end Librarian.Browser
