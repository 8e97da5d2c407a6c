import Librarian.Desktop.Transport

/-!
# Closing the desktop client

`Close` sets the flag and cancels the I/O that the registered pipe has in flight. The request's
thread looks at the flag when it is admitted, at each attempt to connect, and in the two sections
that register and keep the pipe; after that it does not look again. So a `Close` that falls between
two I/Os of a request finds nothing to cancel, and the request goes on (`request_after_close`). When
every `Close` finds the request outside of such a gap, closing wins (`closing_wins`).
-/

namespace Librarian.Desktop

/-- The pipe that the request's thread holds open. -/
def Phase.pipe : Phase → Option Handle
  | connected _ pipe | transferring _ pipe _ _ _ | negotiated pipe | rejecting _ pipe _
  | dropping _ pipe _ | leaving pipe _ | disconnecting pipe _ => some pipe
  | idle | latching | entering | admitted | looking _ | attempting _ | caught _ _
  | returning _ => none

/-- The pipe that the request's thread has registered. -/
def Phase.registered : Phase → Option Handle
  | transferring _ pipe _ _ _ | negotiated pipe | rejecting _ pipe _ | leaving pipe _ => some pipe
  | idle | latching | entering | admitted | looking _ | attempting _ | connected _ _
  | dropping _ _ _ | caught _ _ | disconnecting _ _ | returning _ => none

/-- The request's thread has an I/O of its own frames in flight: it writes its request or waits for
the response. -/
def Phase.Waits : Phase → Prop
  | transferring _ _ transfer _ io => transfer.ofRequest ∧ io = .pending
  | _ => False

/-- The request's thread starts no I/O of its own frames any more: what was in flight has been
aborted, or the response is complete. -/
def Phase.Silent : Phase → Prop
  | transferring _ _ transfer left io =>
    transfer.ofRequest → io = .aborted ∨ transfer = .responsePayload ∧ left = 0 ∧ io = .ready
  | _ => True

/-- The call is at its first checks, or its result is `Cancelled`. -/
def Phase.Refuses (result : Option ClientError) : Phase → Prop
  | idle => result = some .cancelled
  | latching | entering => True
  | returning error => error = .cancelled
  | _ => False

theorem Phase.Silent.not_waits {phase : Phase} (h : phase.Silent) : ¬phase.Waits := by
  cases phase with
  | transferring activated pipe transfer left io =>
    rintro ⟨hrequest, rfl⟩
    rcases h hrequest with h | ⟨-, -, h⟩ <;> cases h
  | _ => exact id

/-- A pipe that is registered is open. -/
theorem Phase.pipe_of_registered {phase : Phase} {pipe : Handle}
    (h : phase.registered = some pipe) : phase.pipe = some pipe := by
  cases phase <;> first | exact h | cases h

/-- The steps that the condition for closing is about. When `Close` cancels, a request that has
passed its last look at the flag has an I/O in flight, or the whole response. A call that begins
after a `Close` has returned, and needs a parent window, has one. -/
def Orderly (c : DesktopClient) : DesktopClient.Event → Prop
  | .closeCancel => c.closing → c.phase.Silent ∨ c.phase.Waits
  | .start call => c.close_returned → call.parent_window ≠ some 0
  | _ => True

namespace DesktopClient

variable {c : DesktopClient}

/-! ## The two threads -/

/-- What holds of the two threads in every interleaving. -/
structure Sound (c : DesktopClient) : Prop where
  active : c.active_pipe = c.phase.registered
  handles : c.handles = c.phase.pipe.toList
  closing : c.closing → c.closed
  returned : c.close_returned → c.closed

/-- A step of the request's thread that opens, closes and registers nothing. -/
theorem Sound.move (h : Sound c) {phase : Phase}
    (hregistered : phase.registered = c.phase.registered) (hpipe : phase.pipe = c.phase.pipe) :
    Sound { c with phase := phase } where
  active := h.active.trans hregistered.symm
  handles := by
    rw [hpipe]
    exact h.handles
  closing := h.closing
  returned := h.returned

theorem cancelIo_registered (pipe : Handle) (phase : Phase) :
    (cancelIo pipe phase).registered = phase.registered := by
  unfold cancelIo
  split
  · split_ifs <;> rfl
  · rfl

theorem cancelIo_pipe (pipe : Handle) (phase : Phase) :
    (cancelIo pipe phase).pipe = phase.pipe := by
  unfold cancelIo
  split
  · split_ifs <;> rfl
  · rfl

theorem Sound.closeStore (h : Sound c) : Sound c.closeStore := by
  unfold DesktopClient.closeStore
  split_ifs
  · exact h
  · exact ⟨h.active, h.handles, fun _ => rfl, fun _ => rfl⟩

theorem Sound.closeCancel (h : Sound c) : Sound c.closeCancel := by
  unfold DesktopClient.closeCancel
  split_ifs with hclosing
  · have hclosed := h.closing hclosing
    split
    · refine ⟨?_, ?_, by simp, fun _ => hclosed⟩
      · rw [cancelIo_registered]
        exact h.active
      · rw [cancelIo_pipe]
        exact h.handles
    · exact ⟨h.active, h.handles, by simp, fun _ => hclosed⟩
  · exact h

theorem Sound.start (h : Sound c) (call : Call) : Sound (c.start call) := by
  unfold DesktopClient.start
  split
  · rename_i hphase
    have hmove : Sound { c with phase :=
        if call.parent_window = some 0 then .returning .windowsHelloUnavailable
        else if call.password then .latching else .entering } :=
      h.move (by rw [hphase]; split_ifs <;> rfl) (by rw [hphase]; split_ifs <;> rfl)
    exact ⟨hmove.active, hmove.handles, hmove.closing, hmove.returned⟩
  · exact h

theorem Sound.latch (h : Sound c) (valid : Bool) : Sound (c.latch valid) := by
  unfold DesktopClient.latch
  split
  · rename_i hphase
    exact h.move (by rw [hphase]; split_ifs <;> rfl) (by rw [hphase]; split_ifs <;> rfl)
  · exact h

theorem Sound.enter (h : Sound c) : Sound c.enter := by
  unfold DesktopClient.enter
  split
  · rename_i hphase
    exact h.move (by rw [hphase]; split_ifs <;> rfl) (by rw [hphase]; split_ifs <;> rfl)
  · exact h

theorem Sound.prepare (h : Sound c) (failure : Option TransportError) :
    Sound (c.prepare failure) := by
  unfold DesktopClient.prepare
  split
  · rename_i hphase
    exact h.move (by rw [hphase]; rfl) (by rw [hphase]; rfl)
  · rename_i hphase
    exact h.move (by rw [hphase]; rfl) (by rw [hphase]; rfl)
  · exact h

theorem Sound.look (h : Sound c) : Sound c.look := by
  unfold DesktopClient.look
  split
  · rename_i hphase
    exact h.move (by rw [hphase]; split_ifs <;> rfl) (by rw [hphase]; split_ifs <;> rfl)
  · exact h

theorem Sound.connect (h : Sound c) (answer : Except TransportError Handle) :
    Sound (c.connect answer) := by
  unfold DesktopClient.connect
  split
  · rename_i hphase
    have hhandles := h.handles
    have hactive := h.active
    rw [hphase] at hhandles hactive
    split_ifs
    · exact h
    · exact ⟨hactive, by rw [hhandles]; rfl, h.closing, h.returned⟩
  · rename_i hphase
    exact h.move (by rw [hphase]; rfl) (by rw [hphase]; rfl)
  · exact h

theorem Sound.registerActivePipe (h : Sound c) : Sound c.registerActivePipe := by
  unfold DesktopClient.registerActivePipe
  split
  · rename_i hphase
    have hhandles := h.handles
    rw [hphase] at hhandles
    split_ifs
    · exact h.move (by rw [hphase]; rfl) (by rw [hphase]; rfl)
    · exact h.move (by rw [hphase]; rfl) (by rw [hphase]; rfl)
    · exact ⟨rfl, hhandles, h.closing, h.returned⟩
  · exact h

/-- Clearing the registered pipe leaves it open. -/
theorem Sound.clear (h : Sound c) {pipe : Handle} {phase : Phase}
    (hregistered : c.phase.registered = some pipe) (hphase : phase.registered = none)
    (hpipe : phase.pipe = c.phase.pipe) :
    Sound { clearActivePipe pipe c with phase := phase } := by
  have hactive : c.active_pipe = some pipe := h.active.trans hregistered
  have hclear : clearActivePipe pipe c = { c with active_pipe := none } := if_pos hactive
  rw [hclear]
  exact ⟨hphase.symm, by rw [hpipe]; exact h.handles, h.closing, h.returned⟩

/-- The end of a scope closes the pipe that it has open. -/
theorem Sound.close (h : Sound c) {pipe : Handle} {phase : Phase}
    (hopen : c.phase.pipe = some pipe) (hregistered : phase.registered = c.phase.registered)
    (hphase : phase.pipe = none) :
    Sound { c with phase := phase, handles := c.handles.erase pipe } where
  active := h.active.trans hregistered.symm
  handles := by
    rw [h.handles, hopen, hphase]
    simp
  closing := h.closing
  returned := h.returned

theorem Sound.reject (h : Sound c) : Sound c.reject := by
  unfold DesktopClient.reject
  split
  · rename_i hphase
    exact h.clear (by rw [hphase]; rfl) rfl (by rw [hphase]; rfl)
  · exact h

theorem Sound.drop (h : Sound c) : Sound c.drop := by
  unfold DesktopClient.drop
  split
  · rename_i hphase
    exact h.close (by rw [hphase]; rfl) (by rw [hphase]; rfl) rfl
  · exact h

theorem Sound.retry (h : Sound c) (activates expired : Bool) :
    Sound (c.retry activates expired) := by
  unfold DesktopClient.retry
  split
  · rename_i hphase
    exact h.move (by rw [hphase]; split_ifs <;> rfl) (by rw [hphase]; split_ifs <;> rfl)
  · exact h

theorem Sound.startIo (h : Sound c) : Sound c.startIo := by
  unfold DesktopClient.startIo
  split
  · rename_i hphase
    split_ifs
    · exact h
    · exact h.move (by rw [hphase]; rfl) (by rw [hphase]; rfl)
  · exact h

theorem Sound.completeIo (h : Sound c) (transferred : ℕ) : Sound (c.completeIo transferred) := by
  unfold DesktopClient.completeIo
  split
  · rename_i hphase
    split_ifs
    · exact h
    · exact h.move (by rw [hphase]; rfl) (by rw [hphase]; rfl)
  · exact h

theorem unwind_registered (activated : Bool) (pipe : Handle) (transfer : Transfer)
    (error : TransportError) : (unwind activated pipe transfer error).registered = some pipe := by
  unfold unwind
  split_ifs <;> rfl

theorem unwind_pipe (activated : Bool) (pipe : Handle) (transfer : Transfer)
    (error : TransportError) : (unwind activated pipe transfer error).pipe = some pipe := by
  unfold unwind
  split_ifs <;> rfl

theorem Sound.failIo (h : Sound c) (valid : Bool) : Sound (c.failIo valid) := by
  unfold DesktopClient.failIo
  split
  · rename_i hphase
    exact h.move (by rw [hphase, unwind_registered]; rfl) (by rw [hphase, unwind_pipe]; rfl)
  · exact h

theorem Sound.observeAbort (h : Sound c) : Sound c.observeAbort := by
  unfold DesktopClient.observeAbort
  split
  · rename_i hphase
    exact h.move (by rw [hphase, unwind_registered]; rfl) (by rw [hphase, unwind_pipe]; rfl)
  · exact h

theorem Sound.advance (h : Sound c) (payload : ℕ) (result : ClientError) :
    Sound (c.advance payload result) := by
  unfold DesktopClient.advance
  split
  · rename_i transfer hphase
    refine h.move ?_ ?_
    · rw [hphase]
      cases transfer <;> rfl
    · rw [hphase]
      cases transfer <;> rfl
  · exact h

theorem Sound.activeRequest (h : Sound c) : Sound c.activeRequest := by
  unfold DesktopClient.activeRequest
  split
  · rename_i pipe hphase
    have hregistered : c.phase.registered = some pipe := by rw [hphase]; rfl
    split_ifs with hclosed hother
    · exact h.clear hregistered rfl (by rw [hphase]; rfl)
    · exact absurd (h.active.trans hregistered) hother
    · exact h.move (by rw [hphase]; rfl) (by rw [hphase]; rfl)
  · exact h

theorem Sound.leave (h : Sound c) : Sound c.leave := by
  unfold DesktopClient.leave
  split
  · rename_i hphase
    exact h.clear (by rw [hphase]; rfl) rfl (by rw [hphase]; rfl)
  · exact h

theorem Sound.disconnect (h : Sound c) : Sound c.disconnect := by
  unfold DesktopClient.disconnect
  split
  · rename_i hphase
    exact h.close (by rw [hphase]; rfl) (by rw [hphase]; rfl) rfl
  · exact h

theorem Sound.finish (h : Sound c) : Sound c.finish := by
  unfold DesktopClient.finish
  split
  · rename_i hphase
    have hmove : Sound { c with phase := .idle } :=
      h.move (by rw [hphase]; rfl) (by rw [hphase]; rfl)
    exact ⟨hmove.active, hmove.handles, hmove.closing, hmove.returned⟩
  · exact h

theorem Sound.step (h : Sound c) (e : Event) : Sound (c.step e) := by
  cases e with
  | closeStore => exact h.closeStore
  | closeCancel => exact h.closeCancel
  | start call => exact h.start call
  | latch valid => exact h.latch valid
  | enter => exact h.enter
  | prepare failure => exact h.prepare failure
  | look => exact h.look
  | connect answer => exact h.connect answer
  | registerActivePipe => exact h.registerActivePipe
  | startIo => exact h.startIo
  | completeIo transferred => exact h.completeIo transferred
  | failIo valid => exact h.failIo valid
  | observeAbort => exact h.observeAbort
  | advance payload result => exact h.advance payload result
  | reject => exact h.reject
  | drop => exact h.drop
  | retry activates expired => exact h.retry activates expired
  | activeRequest => exact h.activeRequest
  | leave => exact h.leave
  | disconnect => exact h.disconnect
  | finish => exact h.finish

/-! ## After a Close -/

/-- What holds of the two threads when each step is orderly. -/
structure Closes (c : DesktopClient) : Prop where
  silent : c.close_returned → c.phase.Silent
  late : c.late → c.close_returned ∧ c.phase.Refuses c.result

/-- A step of a call that has been admitted. -/
theorem Closes.move (h : Closes c) {c' : DesktopClient}
    (hreturned : c'.close_returned = c.close_returned) (hlate : c'.late = c.late)
    (hrefuses : ¬c.phase.Refuses c.result)
    (hsilent : c.close_returned → c'.phase.Silent) : Closes c' where
  silent := by
    rw [hreturned]
    exact hsilent
  late := by
    rw [hlate]
    intro hlate
    exact absurd (h.late hlate).2 hrefuses

theorem Closes.closeStore (h : Closes c) : Closes c.closeStore := by
  unfold DesktopClient.closeStore
  split_ifs
  · exact h
  · exact ⟨h.silent, h.late⟩

theorem cancelIo_silent {pipe : Handle} {phase : Phase} (h : phase.Silent) :
    (cancelIo pipe phase).Silent := by
  unfold cancelIo
  split
  · split_ifs
    · exact fun _ => .inl rfl
    · exact h
  · exact h

theorem cancelIo_waits {pipe : Handle} {phase : Phase} (hpipe : phase.registered = some pipe)
    (h : phase.Waits) : (cancelIo pipe phase).Silent := by
  cases phase with
  | transferring activated pipe' transfer left io =>
    obtain ⟨-, rfl⟩ := h
    obtain rfl := Option.some.inj hpipe
    rw [cancelIo, if_pos ⟨rfl, rfl⟩]
    exact fun _ => .inl rfl
  | _ => exact h.elim

theorem cancelIo_refuses {pipe : Handle} {phase : Phase} {result : Option ClientError}
    (h : phase.Refuses result) : (cancelIo pipe phase).Refuses result := by
  unfold cancelIo
  split
  · exact h.elim
  · exact h

/-- A `Close` that finds the request outside of a gap leaves it silent. -/
theorem Closes.closeCancel (h : Closes c) (hsound : Sound c) (horderly : Orderly c .closeCancel) :
    Closes c.closeCancel := by
  unfold DesktopClient.closeCancel
  split_ifs with hclosing
  · have hactive := hsound.active
    split
    · rename_i pipe hpipe
      rw [hpipe] at hactive
      refine ⟨fun _ => ?_, fun hlate => ⟨rfl, cancelIo_refuses (h.late hlate).2⟩⟩
      rcases horderly hclosing with hsilent | hwaits
      · exact cancelIo_silent hsilent
      · exact cancelIo_waits hactive.symm hwaits
    · rename_i hpipe
      rw [hpipe] at hactive
      refine ⟨fun _ => ?_, fun hlate => ⟨rfl, (h.late hlate).2⟩⟩
      rcases horderly hclosing with hsilent | hwaits
      · exact hsilent
      · -- A request that waits has registered its pipe.
        cases hphase : c.phase with
        | transferring activated pipe transfer left io =>
          rw [hphase] at hactive
          cases hactive
        | _ =>
          rw [hphase] at hwaits
          exact hwaits.elim
  · exact h

theorem Closes.start (h : Closes c) {call : Call} (horderly : Orderly c (.start call)) :
    Closes (c.start call) := by
  unfold DesktopClient.start
  split
  · refine ⟨fun _ => ?_, fun hreturned => ⟨hreturned, ?_⟩⟩
    · dsimp only
      split_ifs <;> trivial
    · dsimp only
      rw [if_neg (horderly hreturned)]
      split_ifs <;> trivial
  · exact h

theorem Closes.latch (h : Closes c) (hsound : Sound c) (valid : Bool) : Closes (c.latch valid) := by
  unfold DesktopClient.latch
  split
  · refine ⟨fun _ => ?_, fun hlate => ?_⟩
    · dsimp only
      split_ifs <;> trivial
    · have hreturned := (h.late hlate).1
      dsimp only
      rw [if_pos (hsound.returned hreturned)]
      exact ⟨hreturned, rfl⟩
  · exact h

theorem Closes.enter (h : Closes c) (hsound : Sound c) : Closes c.enter := by
  unfold DesktopClient.enter
  split
  · refine ⟨fun _ => ?_, fun hlate => ?_⟩
    · dsimp only
      split_ifs <;> trivial
    · have hreturned := (h.late hlate).1
      dsimp only
      rw [if_pos (hsound.returned hreturned)]
      exact ⟨hreturned, rfl⟩
  · exact h

theorem Closes.prepare (h : Closes c) (failure : Option TransportError) :
    Closes (c.prepare failure) := by
  unfold DesktopClient.prepare
  split
  · rename_i hphase
    exact h.move rfl rfl (by rw [hphase]; exact id) fun _ => trivial
  · rename_i hphase
    exact h.move rfl rfl (by rw [hphase]; exact id) fun _ => trivial
  · exact h

theorem Closes.look (h : Closes c) : Closes c.look := by
  unfold DesktopClient.look
  split
  · rename_i hphase
    refine h.move rfl rfl (by rw [hphase]; exact id) fun _ => ?_
    dsimp only
    split_ifs <;> trivial
  · exact h

theorem Closes.connect (h : Closes c) (answer : Except TransportError Handle) :
    Closes (c.connect answer) := by
  unfold DesktopClient.connect
  split
  · rename_i hphase
    split_ifs
    · exact h
    · exact h.move rfl rfl (by rw [hphase]; exact id) fun _ => trivial
  · rename_i hphase
    exact h.move rfl rfl (by rw [hphase]; exact id) fun _ => trivial
  · exact h

theorem Closes.registerActivePipe (h : Closes c) : Closes c.registerActivePipe := by
  unfold DesktopClient.registerActivePipe
  split
  · rename_i hphase
    split_ifs
    · exact h.move rfl rfl (by rw [hphase]; exact id) fun _ => trivial
    · exact h.move rfl rfl (by rw [hphase]; exact id) fun _ => trivial
    · exact h.move rfl rfl (by rw [hphase]; exact id) fun _ hrequest => absurd hrequest (by decide)
  · exact h

@[simp] theorem clearActivePipe_close_returned (pipe : Handle) :
    (clearActivePipe pipe c).close_returned = c.close_returned := by
  unfold clearActivePipe
  split_ifs <;> rfl

@[simp] theorem clearActivePipe_late (pipe : Handle) : (clearActivePipe pipe c).late = c.late := by
  unfold clearActivePipe
  split_ifs <;> rfl

theorem Closes.reject (h : Closes c) : Closes c.reject := by
  unfold DesktopClient.reject
  split
  · rename_i hphase
    exact h.move (by simp) (by simp) (by rw [hphase]; exact id) fun _ => trivial
  · exact h

theorem Closes.drop (h : Closes c) : Closes c.drop := by
  unfold DesktopClient.drop
  split
  · rename_i hphase
    exact h.move rfl rfl (by rw [hphase]; exact id) fun _ => trivial
  · exact h

theorem Closes.retry (h : Closes c) (activates expired : Bool) :
    Closes (c.retry activates expired) := by
  unfold DesktopClient.retry
  split
  · rename_i hphase
    refine h.move rfl rfl (by rw [hphase]; exact id) fun _ => ?_
    dsimp only
    split_ifs <;> trivial
  · exact h

/-- A silent request starts no I/O of its own. -/
theorem Closes.startIo (h : Closes c) : Closes c.startIo := by
  unfold DesktopClient.startIo
  split
  · rename_i hphase
    split_ifs with hleft
    · exact h
    · refine h.move rfl rfl (by rw [hphase]; exact id) fun hreturned hrequest => ?_
      have hsilent := h.silent hreturned
      rw [hphase] at hsilent
      rcases hsilent hrequest with habort | ⟨-, hzero, -⟩
      · cases habort
      · exact absurd hzero hleft
  · exact h

theorem Closes.completeIo (h : Closes c) (transferred : ℕ) : Closes (c.completeIo transferred) := by
  unfold DesktopClient.completeIo
  split
  · rename_i hphase
    split_ifs
    · exact h
    · refine h.move rfl rfl (by rw [hphase]; exact id) fun hreturned hrequest => ?_
      have hsilent := h.silent hreturned
      rw [hphase] at hsilent
      rcases hsilent hrequest with habort | ⟨-, -, hready⟩
      · cases habort
      · cases hready
  · exact h

theorem unwind_silent (activated : Bool) (pipe : Handle) (transfer : Transfer)
    (error : TransportError) : (unwind activated pipe transfer error).Silent := by
  unfold unwind
  split_ifs <;> trivial

theorem Closes.failIo (h : Closes c) (valid : Bool) : Closes (c.failIo valid) := by
  unfold DesktopClient.failIo
  split
  · rename_i hphase
    exact h.move rfl rfl (by rw [hphase]; exact id) fun _ => unwind_silent _ _ _ _
  · exact h

theorem Closes.observeAbort (h : Closes c) : Closes c.observeAbort := by
  unfold DesktopClient.observeAbort
  split
  · rename_i hphase
    exact h.move rfl rfl (by rw [hphase]; exact id) fun _ => unwind_silent _ _ _ _
  · exact h

/-- The only buffer of a silent request that can be complete is the last one. -/
theorem Closes.advance (h : Closes c) (payload : ℕ) (result : ClientError) :
    Closes (c.advance payload result) := by
  unfold DesktopClient.advance
  split
  · rename_i transfer hphase
    refine h.move rfl rfl (by rw [hphase]; exact id) fun hreturned => ?_
    have hsilent := h.silent hreturned
    rw [hphase] at hsilent
    by_cases hrequest : transfer.ofRequest = true
    · rcases hsilent hrequest with habort | ⟨rfl, -, -⟩
      · cases habort
      · trivial
    · cases transfer with
      | helloHeader | helloPayload | serverHeader =>
        exact fun hnext => absurd hnext Bool.false_ne_true
      | serverPayload => trivial
      | requestHeader | requestPayload | responseHeader | responsePayload =>
        exact absurd rfl hrequest
  · exact h

/-- No request begins its own frames once the flag is set. -/
theorem Closes.activeRequest (h : Closes c) (hsound : Sound c) : Closes c.activeRequest := by
  unfold DesktopClient.activeRequest
  split
  · rename_i hphase
    split_ifs with hclosed
    · exact h.move (by simp) (by simp) (by rw [hphase]; exact id) fun _ => trivial
    · exact h.move rfl rfl (by rw [hphase]; exact id) fun _ => trivial
    · exact h.move rfl rfl (by rw [hphase]; exact id)
        fun hreturned => absurd (hsound.returned hreturned) hclosed
  · exact h

theorem Closes.leave (h : Closes c) : Closes c.leave := by
  unfold DesktopClient.leave
  split
  · rename_i hphase
    exact h.move (by simp) (by simp) (by rw [hphase]; exact id) fun _ => trivial
  · exact h

theorem Closes.disconnect (h : Closes c) : Closes c.disconnect := by
  unfold DesktopClient.disconnect
  split
  · rename_i hphase
    exact h.move rfl rfl (by rw [hphase]; exact id) fun _ => trivial
  · exact h

theorem Closes.finish (h : Closes c) : Closes c.finish := by
  unfold DesktopClient.finish
  split
  · rename_i result hphase
    refine ⟨fun _ => trivial, fun hlate => ?_⟩
    obtain ⟨hreturned, hrefuses⟩ := h.late hlate
    rw [hphase] at hrefuses
    exact ⟨hreturned, congrArg some hrefuses⟩
  · exact h

theorem Closes.step (h : Closes c) (hsound : Sound c) {e : Event} (horderly : Orderly c e) :
    Closes (c.step e) := by
  cases e with
  | closeStore => exact h.closeStore
  | closeCancel => exact h.closeCancel hsound horderly
  | start call => exact h.start horderly
  | latch valid => exact h.latch hsound valid
  | enter => exact h.enter hsound
  | prepare failure => exact h.prepare failure
  | look => exact h.look
  | connect answer => exact h.connect answer
  | registerActivePipe => exact h.registerActivePipe
  | startIo => exact h.startIo
  | completeIo transferred => exact h.completeIo transferred
  | failIo valid => exact h.failIo valid
  | observeAbort => exact h.observeAbort
  | advance payload result => exact h.advance payload result
  | reject => exact h.reject
  | drop => exact h.drop
  | retry activates expired => exact h.retry activates expired
  | activeRequest => exact h.activeRequest hsound
  | leave => exact h.leave
  | disconnect => exact h.disconnect
  | finish => exact h.finish

/-! ## Runs -/

theorem Sound.initial : Sound {} :=
  ⟨rfl, rfl, Bool.noConfusion, Bool.noConfusion⟩

theorem Closes.initial : Closes {} :=
  ⟨fun _ => trivial, Bool.noConfusion⟩

theorem Sound.run (events : List Event) : Sound (events.foldl DesktopClient.step {}) :=
  Runs.invariant events Sound.initial fun _ e h => h.step e

theorem Closes.run {events : List Event} (h : Runs.Along DesktopClient.step Orderly {} events) :
    Closes (events.foldl DesktopClient.step {}) := by
  have hboth := h.invariant (I := fun c => Sound c ∧ Closes c)
    ⟨Sound.initial, Closes.initial⟩ fun c e hc horderly =>
      ⟨hc.1.step e, hc.2.step hc.1 horderly⟩
  exact hboth.2

/-- An orderly run. The registered pipe is an open one of the running request. Once a `Close` has
returned, the request's thread neither writes its request nor waits for the response, and a call
that begins after it comes to nothing but `Cancelled`. -/
theorem closing_wins (events : List Event) (h : Runs.Along step Orderly {} events) :
    (∀ pipe, (events.foldl step {}).active_pipe = some pipe →
        (events.foldl step {}).phase.pipe = some pipe ∧ pipe ∈ (events.foldl step {}).handles) ∧
      ((events.foldl step {}).close_returned → ¬(events.foldl step {}).phase.Waits) ∧
      ((events.foldl step {}).late →
        (events.foldl step {}).phase.Refuses (events.foldl step {}).result) := by
  have hsound := Sound.run events
  have hcloses := Closes.run h
  refine ⟨fun pipe hpipe => ?_, fun hreturned => ?_, fun hlate => (hcloses.late hlate).2⟩
  · have hopen := Phase.pipe_of_registered (hsound.active.symm.trans hpipe)
    refine ⟨hopen, ?_⟩
    rw [hsound.handles, hopen]
    exact List.mem_singleton_self pipe
  · exact (hcloses.silent hreturned).not_waits

/-- A call that gets as far as its own frames. -/
def beginRequest : List Event :=
  [.start ⟨false, none⟩, .enter, .prepare none, .look, .connect (.ok 1), .registerActivePipe,
    .startIo, .completeIo frameHeaderBytes, .advance 9 .none, .startIo, .completeIo 9,
    .advance 0 .none, .startIo, .completeIo frameHeaderBytes, .advance 40 .none,
    .startIo, .completeIo 40, .advance 0 .none, .activeRequest]

/-- A `Close` during the write of the request's header, the end of that call, and another call. -/
def closeDuringWrite : List Event :=
  beginRequest ++
    [.startIo, .closeStore, .closeCancel, .observeAbort, .leave, .disconnect, .finish,
      .start ⟨true, none⟩, .latch true, .finish]

theorem closing_wins_during_write :
    (closeDuringWrite.foldl step {}).close_returned = true ∧
      (closeDuringWrite.foldl step {}).late = true ∧
      ¬(closeDuringWrite.foldl step {}).phase.Waits ∧
      (closeDuringWrite.foldl step {}).phase.Refuses (closeDuringWrite.foldl step {}).result := by
  have hlate : (closeDuringWrite.foldl step {}).late = true := rfl
  have hreturned : (closeDuringWrite.foldl step {}).close_returned = true := rfl
  have horderly : Runs.Along step Orderly {} closeDuringWrite := by
    refine ⟨fun _ => (Option.some_ne_none 0).symm, ?_⟩
    repeat refine ⟨trivial, ?_⟩
    refine ⟨fun _ => .inr ⟨rfl, rfl⟩, trivial, trivial, trivial, trivial, ?_⟩
    exact ⟨fun _ => (Option.some_ne_none 0).symm, trivial, trivial, trivial⟩
  have hwins := closing_wins closeDuringWrite horderly
  exact ⟨hreturned, hlate, hwins.2.1 hreturned, hwins.2.2 hlate⟩

/-- A `Close` before the first I/O of the request, and its frame after that. -/
def closeBeforeWrite : List Event := beginRequest ++ [.closeStore, .closeCancel, .startIo]

/-- The request starts its frame after `Close` has returned, and waits. -/
theorem request_after_close :
    (closeBeforeWrite.foldl step {}).close_returned = true ∧
      (closeBeforeWrite.foldl step {}).active_pipe = some 1 ∧
      (closeBeforeWrite.foldl step {}).phase.Waits :=
  ⟨rfl, rfl, rfl, rfl⟩

end DesktopClient

end Librarian.Desktop
