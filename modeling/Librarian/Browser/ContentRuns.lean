import Librarian.Browser.Content
import Librarian.Lib.Chronicle
import Librarian.Lib.Runs
import Mathlib.Logic.Relation

/-!
# Runs of the content script

Whatever happens to a document, an attempt leads to one write at most, and only when nothing has
disturbed it since it began (`ContentScript.written_once`); and the script opens one port at most of
its own accord, none when the document was restored (`ContentScript.opened_once`).

`Moves` says what a step can do to the state and the history; each invariant is kept by each of its
cases.
-/

namespace Librarian.Browser

open Chronicle

/-! ## Entries -/

/-- An attempt that goes on is cancelled by this. -/
def Entry.disturbs : Entry → Bool
  | edited | popstate | hidden | pagehide => true
  | began _ _ | opened _ _ | wrote _ _ | restored => false

def Entry.begun : Entry → Option FillAttempt
  | began attempt _ => some attempt
  | _ => none

def Entry.written : Entry → Option FillAttempt
  | wrote attempt _ => some attempt
  | _ => none

/-- A port is opened for an attempt of the script's own accord. -/
def Entry.automatic : Entry → Bool
  | opened attempt _ => attempt.kind = .automatic
  | _ => false

/-- The document is what the snapshot says. -/
def Page.Matches (page : Page) (snapshot : Snapshot) : Prop :=
  page.found = .targets snapshot.targets ∧ page.snapshot snapshot.targets = snapshot

/-- The attempt is in the history, with its snapshot, and nothing has disturbed it since. -/
def Undisturbed (attempt : FillAttempt) (snapshot : Snapshot) (history : List Entry) : Prop :=
  Since (·.disturbs) (.began attempt snapshot) history

namespace ContentScript

variable {s s' t : ContentScript} {budget : ℕ}

/-! ## What a step can do -/

/-- Nothing is noted, nothing begins, and what has been given up stays so. -/
structure Quiet (s s' : ContentScript) : Prop where
  history : s'.history = s.history
  next : s'.state.next = s.state.next
  pending : ∀ attempt, s'.state.pending = some attempt → s.state.pending = some attempt
  consumed : s.state.automaticConsumed → s'.state.automaticConsumed
  openings : ∀ o' ∈ s'.openings, ∃ o ∈ s.openings,
    o.attempt = o'.attempt ∧ o.snapshot = o'.snapshot

theorem Quiet.refl (s : ContentScript) : Quiet s s :=
  ⟨rfl, rfl, fun _ => id, id, fun o ho => ⟨o, ho, rfl, rfl⟩⟩

theorem Quiet.trans (h : Quiet s t) (h' : Quiet t s') : Quiet s s' where
  history := h'.history.trans h.history
  next := h'.next.trans h.next
  pending := fun attempt hpending => h.pending attempt (h'.pending attempt hpending)
  consumed := fun hconsumed => h'.consumed (h.consumed hconsumed)
  openings := by
    intro o'' ho''
    obtain ⟨o', ho', hattempt', hsnapshot'⟩ := h'.openings o'' ho''
    obtain ⟨o, ho, hattempt, hsnapshot⟩ := h.openings o' ho'
    exact ⟨o, ho, hattempt.trans hattempt', hsnapshot.trans hsnapshot'⟩

/-- The elementary steps. -/
inductive Moves (s : ContentScript) : ContentScript → Prop
  | quiet {s' : ContentScript} (h : Quiet s s') : Moves s s'
  /-- A handler is noted. One that disturbs has given up what was pending. -/
  | noted (entry : Entry) (hplain : entry.begun = none ∧ entry.written = none)
      (hquiet : entry.automatic = false) (hdisturbs : entry.disturbs → s.state.pending = none)
      (hrestored : entry = .restored → s.state.automaticConsumed) : Moves s (s.note entry)
  /-- An attempt begins, and its connection fails. -/
  | began (kind : FillKind) (snapshot : Snapshot) (state : FillOnceState)
      (hkind : kind = .automatic → s.state.automaticConsumed = false)
      (hstate : state = (s.state.beginKind kind).1)
      (hbegins : (s.state.beginKind kind).2 = some ⟨kind, s.state.next⟩) :
      Moves s (note (.began ⟨kind, s.state.next⟩ snapshot) { s with state })
  /-- An attempt begins, with a port. -/
  | opened (kind : FillKind) (snapshot : Snapshot) (state : FillOnceState)
      (hkind : kind = .automatic → s.state.automaticConsumed = false)
      (hstate : state = (s.state.beginKind kind).1)
      (hbegins : (s.state.beginKind kind).2 = some ⟨kind, s.state.next⟩) :
      Moves s ((note (.began ⟨kind, s.state.next⟩ snapshot) { s with state }).connect
        ⟨kind, s.state.next⟩ snapshot)
  /-- The pending attempt writes into the document that its port's snapshot describes. -/
  | wrote (attempt : FillAttempt) (snapshot : Snapshot) (username password : String)
      (hopening : ∃ o ∈ s.openings, o.attempt = attempt ∧ o.snapshot = snapshot)
      (hpending : s.state.pending = some attempt) (hpage : s.page.Matches snapshot) :
      Moves s ({ s with state := { s.state with pending := none } }.writeFields attempt
        snapshot.targets username password)

/-! ## The steps -/

/-- A step that leaves the state, the ports and the history alone. -/
theorem Quiet.of_eq (hstate : s'.state = s.state) (hopenings : s'.openings = s.openings)
    (hhistory : s'.history = s.history) : Quiet s s' where
  history := hhistory
  next := by rw [hstate]
  pending := by
    rw [hstate]
    exact fun _ => id
  consumed := by
    rw [hstate]
    exact id
  openings := by
    rw [hopenings]
    exact fun o ho => ⟨o, ho, rfl, rfl⟩

theorem quiet_stopAutomatic (s : ContentScript) : Quiet s s.stopAutomatic :=
  Quiet.of_eq rfl rfl rfl

theorem quiet_clearTimeout (timer : Option Port) (s : ContentScript) :
    Quiet s (s.clearTimeout timer) := by
  refine ⟨rfl, rfl, fun _ => id, id, fun o' ho' => ?_⟩
  obtain ⟨o, ho, rfl⟩ := List.mem_map.mp ho'
  refine ⟨o, ho, ?_⟩
  split_ifs
  · exact ⟨rfl, rfl⟩
  · exact ⟨rfl, rfl⟩

theorem quiet_cancel (s : ContentScript) : Quiet s s.cancel :=
  (quiet_clearTimeout s.pendingTimer s).trans (Quiet.of_eq rfl rfl rfl)

/-- Giving up what is pending is quiet. -/
theorem quiet_noteEdit (s : ContentScript) : Quiet s s.noteEdit where
  history := rfl
  next := rfl
  pending := by
    intro attempt h
    cases h
  consumed := fun _ => rfl
  openings := fun o ho => ⟨o, ho, rfl, rfl⟩

theorem quiet_fail (attempt : FillAttempt) (s : ContentScript) : Quiet s (s.fail attempt) := by
  unfold ContentScript.fail FillOnceState.fail
  split_ifs
  · refine ⟨rfl, rfl, fun _ h => ?_, id, fun o ho => ⟨o, ho, rfl, rfl⟩⟩
    cases h
  · exact Quiet.refl s

theorem quiet_forget (port : Port) (s : ContentScript) : Quiet s (s.forget port) := by
  unfold forget
  split_ifs
  · exact Quiet.of_eq rfl rfl rfl
  · exact Quiet.refl s

theorem quiet_schedule (s : ContentScript) : Quiet s s.schedule := by
  unfold schedule
  split_ifs
  · exact Quiet.refl s
  · exact Quiet.of_eq rfl rfl rfl

/-- What one handler does: some elementary steps. -/
abbrev Handles : ContentScript → ContentScript → Prop := Relation.ReflTransGen Moves

theorem Quiet.handles (h : Quiet s s') : Handles s s' := .single (.quiet h)

/-- A handler gives something up and is noted. -/
theorem handles_noted {entry : Entry} (h : Quiet s t)
    (hplain : entry.begun = none ∧ entry.written = none) (hquiet : entry.automatic = false)
    (hdisturbs : t.state.pending = none)
    (hrestored : t.state.automaticConsumed) : Handles s (t.note entry) :=
  h.handles.tail (.noted entry hplain hquiet (fun _ => hdisturbs) fun _ => hrestored)

theorem handles_edited (input : Bool) (s : ContentScript) : Handles s (s.edited input) := by
  unfold edited
  split_ifs
  · have hquiet : Quiet s s.stopAutomatic.noteEdit.cancel :=
      ((quiet_stopAutomatic s).trans (quiet_noteEdit _)).trans (quiet_cancel _)
    exact handles_noted hquiet ⟨rfl, rfl⟩ rfl rfl rfl
  · exact .refl

theorem handles_popstate (s : ContentScript) : Handles s s.popstate := by
  have hquiet : Quiet s s.stopAutomatic.noteEdit.cancel :=
    ((quiet_stopAutomatic s).trans (quiet_noteEdit _)).trans (quiet_cancel _)
  exact handles_noted hquiet ⟨rfl, rfl⟩ rfl rfl rfl

theorem handles_visibilitychange (visible : Bool) (s : ContentScript) :
    Handles s (s.visibilitychange visible) := by
  unfold visibilitychange
  split_ifs
  · exact (quiet_schedule s).handles
  · have hquiet : Quiet s s.noteEdit.stopAutomatic.cancel :=
      ((quiet_noteEdit s).trans (quiet_stopAutomatic _)).trans (quiet_cancel _)
    exact handles_noted hquiet ⟨rfl, rfl⟩ rfl rfl rfl

/-- Suspending, with or without resuming, gives up what is pending. -/
theorem quiet_suspend {state : FillOnceState} (hstate : state = s.state.suspend ∨
    state = s.state.suspend.resume) : Quiet s { s.stopAutomatic with state } := by
  rcases hstate with rfl | rfl
  all_goals
    refine ⟨rfl, rfl, fun _ h => ?_, fun _ => rfl, fun o ho => ⟨o, ho, rfl, rfl⟩⟩
    cases h

theorem handles_pagehide (s : ContentScript) : Handles s s.pagehide := by
  have hquiet := (quiet_suspend (s := s) (.inl rfl)).trans (quiet_cancel _)
  exact handles_noted hquiet ⟨rfl, rfl⟩ rfl rfl rfl

theorem handles_pageshow (persisted : Bool) (s : ContentScript) :
    Handles s (s.pageshow persisted) := by
  unfold pageshow
  split_ifs
  · exact handles_noted (quiet_suspend (.inr rfl)) ⟨rfl, rfl⟩ rfl rfl rfl
  · exact (quiet_schedule s).handles

theorem beginKind_eq_some {kind : FillKind} {state : FillOnceState} {attempt : FillAttempt}
    (h : s.state.beginKind kind = (state, some attempt)) :
    attempt = ⟨kind, s.state.next⟩ ∧ state = (s.state.beginKind kind).1 ∧
      (s.state.beginKind kind).2 = some ⟨kind, s.state.next⟩ := by
  have hattempt : attempt = ⟨kind, s.state.next⟩ := by
    unfold FillOnceState.beginKind at h
    split at h
    · cases h
    · exact (Option.some.inj (Prod.mk.inj h).2).symm
  rw [h, ← hattempt]
  exact ⟨rfl, rfl, rfl⟩

/-- An attempt begins only when none is pending, and an automatic one only once. -/
theorem attempt_eq_some {explicit : Bool} {state : FillOnceState} {attempt : FillAttempt}
    (h : s.attempt explicit = (state, some attempt)) :
    ∃ kind, attempt = ⟨kind, s.state.next⟩ ∧ state = (s.state.beginKind kind).1 ∧
      (s.state.beginKind kind).2 = some ⟨kind, s.state.next⟩ ∧
      (kind = .automatic → s.state.automaticConsumed = false) := by
  unfold ContentScript.attempt at h
  split at h
  · obtain ⟨hattempt, hstate, hsome⟩ := beginKind_eq_some h
    exact ⟨.explicit, hattempt, hstate, hsome, fun hkind => FillKind.noConfusion hkind⟩
  · unfold FillOnceState.beginAutomatic at h
    split at h
    · cases h
    · rename_i hconsumed
      obtain ⟨hattempt, hstate, hsome⟩ := beginKind_eq_some h
      exact ⟨.automatic, hattempt, hstate, hsome, fun _ => by simpa using hconsumed⟩

/-- From the begin of an attempt on, with its port or without. -/
theorem handles_request {kind : FillKind} {state : FillOnceState} (snapshot : Snapshot)
    (connects posts : Bool) (hstate : state = (s.state.beginKind kind).1)
    (hbegins : (s.state.beginKind kind).2 = some ⟨kind, s.state.next⟩)
    (hkind : kind = .automatic → s.state.automaticConsumed = false) :
    Handles s ((note (.began ⟨kind, s.state.next⟩ snapshot) { s with state }).request
      ⟨kind, s.state.next⟩ snapshot connects posts).1 := by
  have hopened := Relation.ReflTransGen.single
    (Moves.opened (s := s) kind snapshot state hkind hstate hbegins)
  unfold request
  split
  · exact (Relation.ReflTransGen.single (.began kind snapshot state hkind hstate hbegins)).trans
      (quiet_fail _ _).handles
  split
  · exact hopened
  · have hquiet := ((quiet_fail ⟨kind, s.state.next⟩ ((note (.began ⟨kind, s.state.next⟩ snapshot)
      { s with state }).connect ⟨kind, s.state.next⟩ snapshot)).trans (quiet_cancel _)).trans
      (quiet_clearTimeout (some s.openings.length) _)
    exact hopened.trans hquiet.handles

theorem handles_begin (explicit connects posts : Bool) (s : ContentScript) :
    Handles s (s.begin explicit connects posts).1 := by
  unfold begin
  split
  · exact .refl
  split
  · exact .refl
  · exact .refl
  rename_i targets htargets
  split
  · exact .refl
  split
  · exact ((quiet_stopAutomatic s).trans (quiet_noteEdit _)).handles
  split
  · exact .refl
  rename_i state attempt hattempt
  obtain ⟨kind, rfl, hstate, hbegins, hkind⟩ := attempt_eq_some hattempt
  exact (quiet_stopAutomatic s).handles.trans
    (handles_request (s := s.stopAutomatic) (s.page.snapshot targets) connects posts hstate hbegins
      hkind)

theorem handles_tick (connects posts : Bool) (s : ContentScript) :
    Handles s (s.tick connects posts) := by
  have hquiet : Quiet s { s with scheduled := false } := Quiet.of_eq rfl rfl rfl
  unfold tick
  split
  · exact .refl
  split
  · exact hquiet.handles
  · exact hquiet.handles.trans (handles_begin _ _ _ _)

theorem handles_runtimeMessage (ownWorker : Bool) (message : Json) (connects posts : Bool)
    (s : ContentScript) : Handles s (s.runtimeMessage ownWorker message connects posts) := by
  unfold runtimeMessage
  split
  · exact handles_begin _ _ _ _
  · exact .refl

theorem handles_disconnected (o : Opening) (s : ContentScript) :
    Handles s (s.disconnected o) :=
  (((quiet_clearTimeout _ _).trans (quiet_fail _ _)).trans (quiet_forget _ _)).handles

theorem handles_expired (o : Opening) (s : ContentScript) : Handles s (s.expired o) := by
  unfold expired
  split_ifs
  · exact (((quiet_clearTimeout _ _).trans (quiet_fail _ _)).trans (quiet_cancel _)).handles
  · exact .refl

theorem sameTargets_iff {left right : FillTargets} : sameTargets left right ↔ left = right := by
  obtain ⟨u, p, f, a⟩ := left
  obtain ⟨u', p', f', a'⟩ := right
  simp [sameTargets]

/-- The checks of the listener say that the document is what the snapshot says. -/
theorem matches_of_unchanged {snapshot : Snapshot} {page : Page} {current : FillTargets}
    (htargets : page.found = .targets current) (h : unchanged snapshot page current) :
    current = snapshot.targets ∧ page.Matches snapshot := by
  simp only [unchanged, decide_eq_true_eq, sameTargets_iff] at h
  obtain ⟨rfl, hhref, hpassword, husername⟩ := h
  refine ⟨rfl, htargets, ?_⟩
  simp only [Page.snapshot, hhref, hpassword, husername]

/-- A message that completes its attempt writes, in the state in which it is checked. -/
theorem handles_receive {o : Opening}
    (ho : ∃ o' ∈ s.openings, o'.attempt = o.attempt ∧ o'.snapshot = o.snapshot) (message : Json) :
    Handles s (s.receive o message) := by
  unfold receive
  split
  · exact .refl
  · rename_i current username password htargets _
    split_ifs with hunchanged
    · obtain ⟨rfl, hpage⟩ := matches_of_unchanged htargets hunchanged
      unfold FillOnceState.complete
      split_ifs with hcomplete
      · exact (quiet_fail _ _).handles
      · have hpending : s.state.pending = some o.attempt := by
          by_contra hother
          exact hcomplete (.inr hother)
        exact .single (.wrote o.attempt o.snapshot username password ho hpending hpage)
    · exact (quiet_fail _ _).handles
  · exact (quiet_fail _ _).handles

theorem mem_clearTimeout {o : Opening} (ho : o ∈ s.openings) (timer : Option Port) :
    ∃ o' ∈ (s.clearTimeout timer).openings, o'.attempt = o.attempt ∧ o'.snapshot = o.snapshot := by
  refine ⟨_, List.mem_map.mpr ⟨o, ho, rfl⟩, ?_⟩
  split_ifs
  · exact ⟨rfl, rfl⟩
  · exact ⟨rfl, rfl⟩

@[simp] theorem forget_openings (port : Port) (s : ContentScript) :
    (s.forget port).openings = s.openings := by
  unfold forget
  split_ifs <;> rfl

theorem handles_message {o : Opening} (ho : o ∈ s.openings) (message : Json) :
    Handles s (ContentScript.message o message s) := by
  have hclear := quiet_clearTimeout (some o.port) s
  unfold ContentScript.message
  split_ifs
  · exact hclear.handles
  · have hmem := mem_clearTimeout ho (some o.port)
    rw [← forget_openings o.port] at hmem
    exact (hclear.trans (quiet_forget _ _)).handles.trans (handles_receive hmem message)

theorem handles_ofPort {port : Port} {f : Opening → ContentScript → ContentScript}
    (hf : ∀ o ∈ s.openings, Handles s (f o s)) : Handles s (s.ofPort port f) := by
  unfold ofPort
  split
  · rename_i o hfind
    exact hf o (List.mem_of_find?_eq_some hfind)
  · exact .refl

theorem handles_queued {f : ContentScript → ContentScript} (hf : Handles s (f s)) :
    Handles s (s.queued f) := by
  unfold queued
  split_ifs
  · exact hf
  · exact .refl

theorem handles_dispatch (s : ContentScript) : Handles s s.dispatch := by
  have hquiet : Quiet s { s with dispatching := s.dispatching - 1 } := Quiet.of_eq rfl rfl rfl
  unfold dispatch
  split_ifs
  · exact .refl
  · exact hquiet.handles.trans (handles_edited true _)

/-- Every step consists of elementary ones. -/
theorem handles_step (s : ContentScript) (e : Event) : Handles s (s.step e) := by
  cases e with
  | page page =>
    have hquiet : Quiet s { s with page } := Quiet.of_eq rfl rfl rfl
    exact hquiet.handles
  | edited input => exact handles_edited input s
  | popstate => exact handles_popstate s
  | pagehide => exact handles_pagehide s
  | pageshow persisted => exact handles_pageshow persisted s
  | visibilitychange visible => exact handles_visibilitychange visible s
  | schedule => exact (quiet_schedule s).handles
  | dispatch => exact handles_dispatch s
  | tick connects posts => exact handles_queued (handles_tick connects posts s)
  | runtimeMessage ownWorker message connects posts =>
    exact handles_queued (handles_runtimeMessage ownWorker message connects posts s)
  | message port message =>
    exact handles_queued (handles_ofPort fun _ ho => handles_message ho message)
  | disconnected port => exact handles_queued (handles_ofPort fun o _ => handles_disconnected o s)
  | expired port => exact handles_queued (handles_ofPort fun o _ => handles_expired o s)

/-! ## Attempts -/

/-- The attempts that have begun. -/
def begun (s : ContentScript) : List FillAttempt := s.history.filterMap Entry.begun

/-- The attempts that have written. -/
def written (s : ContentScript) : List FillAttempt := s.history.filterMap Entry.written

theorem begun_note (entry : Entry) (s : ContentScript) :
    (s.note entry).begun = s.begun ++ entry.begun.toList := by
  cases entry <;> simp [begun, note, Entry.begun, List.filterMap_append]

theorem written_note (entry : Entry) (s : ContentScript) :
    (s.note entry).written = s.written ++ entry.written.toList := by
  cases entry <;> simp [written, note, Entry.written, List.filterMap_append]

/-- Attempts are told apart by their numbers, and an attempt that is pending has not written. -/
structure Numbered (s : ContentScript) : Prop where
  below : ∀ attempt ∈ s.begun, attempt.serial < s.state.next
  nodup : s.begun.Nodup
  of_written : ∀ attempt ∈ s.written, attempt ∈ s.begun
  once : s.written.Nodup
  pending : ∀ attempt, s.state.pending = some attempt → attempt ∈ s.begun ∧ attempt ∉ s.written

/-- The history names the same attempts, and no other is pending. -/
theorem Numbered.congr (h : Numbered s) (hbegun : s'.begun = s.begun)
    (hwritten : s'.written = s.written) (hnext : s'.state.next = s.state.next)
    (hpending : ∀ attempt, s'.state.pending = some attempt → s.state.pending = some attempt) :
    Numbered s' where
  below := by
    rw [hbegun, hnext]
    exact h.below
  nodup := by
    rw [hbegun]
    exact h.nodup
  of_written := by
    rw [hbegun, hwritten]
    exact h.of_written
  once := by
    rw [hwritten]
    exact h.once
  pending := by
    rw [hbegun, hwritten]
    exact fun attempt hattempt => h.pending attempt (hpending attempt hattempt)

/-- What the state is after an attempt has begun. -/
theorem beginKind_state {kind : FillKind}
    (h : (s.state.beginKind kind).2 = some ⟨kind, s.state.next⟩) :
    (s.state.beginKind kind).1 =
      { s.state with
        automaticConsumed := true
        pending := some ⟨kind, s.state.next⟩
        next := s.state.next + 1 } := by
  unfold FillOnceState.beginKind at h ⊢
  split_ifs with hbusy
  · rw [if_pos hbusy] at h
    cases h
  · rfl

theorem Numbered.began (h : Numbered s) {kind : FillKind} (snapshot : Snapshot)
    {state : FillOnceState} (hstate : state = (s.state.beginKind kind).1)
    (hbegins : (s.state.beginKind kind).2 = some ⟨kind, s.state.next⟩) :
    Numbered (note (.began ⟨kind, s.state.next⟩ snapshot) { s with state }) := by
  have hfresh : ⟨kind, s.state.next⟩ ∉ s.begun :=
    fun hmem => (Nat.lt_irrefl _ (h.below _ hmem)).elim
  have hbegun : (note (.began ⟨kind, s.state.next⟩ snapshot) { s with state }).begun =
      s.begun ++ [⟨kind, s.state.next⟩] := begun_note _ _
  have hwritten : (note (.began ⟨kind, s.state.next⟩ snapshot) { s with state }).written =
      s.written := (written_note _ _).trans (List.append_nil _)
  rw [beginKind_state hbegins] at hstate
  refine ⟨?_, ?_, ?_, ?_, ?_⟩
  · rw [hbegun]
    intro attempt hattempt
    have hnext : (note (.began ⟨kind, s.state.next⟩ snapshot) { s with state }).state.next =
        s.state.next + 1 := by rw [hstate]; rfl
    rw [hnext]
    rcases List.mem_append.mp hattempt with hattempt | hattempt
    · exact Nat.lt_succ_of_lt (h.below attempt hattempt)
    · rw [List.mem_singleton.mp hattempt]
      exact Nat.lt_succ_self _
  · rw [hbegun]
    exact nodup_snoc h.nodup hfresh
  · rw [hbegun, hwritten]
    exact fun attempt hattempt => List.mem_append_left _ (h.of_written attempt hattempt)
  · rw [hwritten]
    exact h.once
  · rw [hbegun, hwritten]
    intro attempt hattempt
    have hpending : some attempt = some ⟨kind, s.state.next⟩ := by
      rw [← hattempt, hstate]
      rfl
    obtain rfl := Option.some.inj hpending
    exact ⟨List.mem_append_right _ (List.mem_singleton_self _),
      fun hmem => hfresh (h.of_written _ hmem)⟩

theorem Numbered.wrote (h : Numbered s) {attempt : FillAttempt} {targets : FillTargets}
    {username password : String} (hbegun : attempt ∈ s.begun) (hwritten : attempt ∉ s.written) :
    Numbered ({ s with state := { s.state with pending := none } }.writeFields attempt targets
      username password) := by
  have hbegun' : ({ s with state := { s.state with pending := none } }.writeFields attempt targets
      username password).begun = s.begun := (begun_note _ _).trans (List.append_nil _)
  have hwritten' : ({ s with state := { s.state with pending := none } }.writeFields attempt targets
      username password).written = s.written ++ [attempt] := written_note _ _
  refine ⟨?_, ?_, ?_, ?_, fun _ hpending => (Option.some_ne_none _ hpending.symm).elim⟩
  · rw [hbegun']
    exact h.below
  · rw [hbegun']
    exact h.nodup
  · rw [hbegun', hwritten']
    intro a ha
    rcases List.mem_append.mp ha with ha | ha
    · exact h.of_written a ha
    · exact List.mem_singleton.mp ha ▸ hbegun
  · rw [hwritten']
    exact nodup_snoc h.once hwritten

theorem Numbered.moves (h : Numbered s) (hmoves : Moves s s') : Numbered s' := by
  cases hmoves with
  | quiet hquiet =>
    exact h.congr (congrArg (List.filterMap Entry.begun) hquiet.history)
      (congrArg (List.filterMap Entry.written) hquiet.history) hquiet.next hquiet.pending
  | noted entry hplain =>
    refine h.congr ?_ ?_ rfl fun _ => id
    · rw [begun_note, hplain.1, Option.toList_none, List.append_nil]
    · rw [written_note, hplain.2, Option.toList_none, List.append_nil]
  | began kind snapshot state _ hstate hbegins => exact h.began snapshot hstate hbegins
  | opened kind snapshot state _ hstate hbegins =>
    refine (h.began snapshot hstate hbegins).congr ?_ ?_ rfl fun _ => id
    · exact (begun_note _ _).trans (List.append_nil _)
    · exact (written_note _ _).trans (List.append_nil _)
  | wrote attempt snapshot username password _ hpending =>
    obtain ⟨hbegun, hwritten⟩ := h.pending attempt hpending
    exact h.wrote hbegun hwritten

/-! ## Writes -/

/-- The ports know the snapshots of their attempts, and a write has been justified when it was
made. -/
structure Justified (s : ContentScript) : Prop where
  below : ∀ o ∈ s.openings, o.attempt.serial < s.state.next
  openings : ∀ o ∈ s.openings, s.state.pending = some o.attempt →
    Undisturbed o.attempt o.snapshot s.history
  writes : Always (fun before entry => ∀ attempt page, entry = .wrote attempt page →
    ∃ snapshot, Undisturbed attempt snapshot before ∧ page.Matches snapshot) s.history

theorem Justified.quiet (h : Justified s) (hquiet : Quiet s s') : Justified s' where
  below := by
    intro o' ho'
    obtain ⟨o, ho, hattempt, -⟩ := hquiet.openings o' ho'
    rw [hquiet.next, ← hattempt]
    exact h.below o ho
  openings := by
    intro o' ho' hpending
    obtain ⟨o, ho, hattempt, hsnapshot⟩ := hquiet.openings o' ho'
    rw [← hattempt] at hpending ⊢
    rw [hquiet.history, ← hsnapshot]
    exact h.openings o ho (hquiet.pending _ hpending)
  writes := by
    rw [hquiet.history]
    exact h.writes

/-- An entry that is no write and leaves the pending attempt undisturbed. -/
theorem Justified.note (h : Justified s) {entry : Entry} (hplain : entry.written = none)
    (hdisturbs : entry.disturbs → s.state.pending = none) : Justified (s.note entry) where
  below := h.below
  openings := by
    intro o ho hpending
    have hkept : ¬entry.disturbs := by
      intro hdisturbed
      have hnone : s.state.pending = none := hdisturbs hdisturbed
      exact Option.some_ne_none _ (hpending.symm.trans hnone)
    exact Since.snoc (h.openings o ho hpending) hkept
  writes := by
    refine h.writes.snoc fun attempt page hentry => ?_
    rw [hentry] at hplain
    cases hplain

theorem Justified.began (h : Justified s) {kind : FillKind} (snapshot : Snapshot)
    {state : FillOnceState} (hstate : state = (s.state.beginKind kind).1)
    (hbegins : (s.state.beginKind kind).2 = some ⟨kind, s.state.next⟩) :
    Justified (ContentScript.note (.began ⟨kind, s.state.next⟩ snapshot) { s with state }) := by
  rw [beginKind_state hbegins] at hstate
  have hnext : state.next = s.state.next + 1 := by rw [hstate]
  have hpending : state.pending = some ⟨kind, s.state.next⟩ := by rw [hstate]
  refine ⟨fun o ho => ?_, fun o ho hpending' => ?_, ?_⟩
  · have hbelow := h.below o ho
    have hlt : o.attempt.serial < state.next := by omega
    exact hlt
  · -- The attempt of an older port is older.
    have hattempt : o.attempt = ⟨kind, s.state.next⟩ :=
      (Option.some.inj (hpending.symm.trans hpending')).symm
    have hbelow := h.below o ho
    rw [hattempt] at hbelow
    exact (Nat.lt_irrefl _ hbelow).elim
  · exact h.writes.snoc fun attempt page hentry => Entry.noConfusion hentry

theorem Justified.opened (h : Justified s) {attempt : FillAttempt} {snapshot : Snapshot}
    (hbelow : attempt.serial < s.state.next)
    (hundisturbed : Undisturbed attempt snapshot s.history) :
    Justified (s.connect attempt snapshot) := by
  refine ⟨fun o ho => ?_, fun o ho hpending => ?_, ?_⟩
  · rcases List.mem_append.mp ho with ho | ho
    · exact h.below o ho
    · rw [List.mem_singleton.mp ho]
      exact hbelow
  · rcases List.mem_append.mp ho with ho | ho
    · exact Since.snoc (h.openings o ho hpending) Bool.false_ne_true
    · rw [List.mem_singleton.mp ho]
      exact Since.snoc hundisturbed Bool.false_ne_true
  · exact h.writes.snoc fun attempt page hentry => Entry.noConfusion hentry

theorem Justified.moves (h : Justified s) (hmoves : Moves s s') : Justified s' := by
  cases hmoves with
  | quiet hquiet => exact h.quiet hquiet
  | noted entry hplain _ hdisturbs => exact h.note hplain.2 hdisturbs
  | began kind snapshot state _ hstate hbegins => exact h.began snapshot hstate hbegins
  | opened kind snapshot state _ hstate hbegins =>
    refine (h.began snapshot hstate hbegins).opened ?_ since_snoc_self
    rw [hstate, beginKind_state hbegins]
    exact Nat.lt_succ_self _
  | wrote attempt snapshot username password hopening hpending hpage =>
    obtain ⟨o, ho, rfl, rfl⟩ := hopening
    refine ⟨h.below, fun o' _ hnone => (Option.some_ne_none _ hnone.symm).elim, ?_⟩
    refine h.writes.snoc fun attempt page hentry => ?_
    obtain ⟨rfl, rfl⟩ := Entry.wrote.inj hentry
    exact ⟨o.snapshot, h.openings o ho hpending, hpage⟩

/-! ## Ports of the script's own accord -/

/-- The budget for ports that the script opens of its own accord: what is spent, and what is
left. -/
structure Budgeted (budget : ℕ) (s : ContentScript) : Prop where
  spent : s.history.countP Entry.automatic + (if s.state.automaticConsumed then 0 else 1) ≤ budget
  restored : .restored ∈ s.history → s.state.automaticConsumed
  after : Always (fun before entry => entry.automatic → .restored ∉ before) s.history

theorem Budgeted.quiet (h : Budgeted budget s) (hquiet : Quiet s s') : Budgeted budget s' where
  spent := by
    have hspent := h.spent
    rw [hquiet.history]
    by_cases hconsumed : s.state.automaticConsumed
    · rw [if_pos (hquiet.consumed hconsumed)]
      rw [if_pos hconsumed] at hspent
      exact hspent
    · rw [if_neg hconsumed] at hspent
      split_ifs <;> omega
  restored := by
    rw [hquiet.history]
    exact fun hmem => hquiet.consumed (h.restored hmem)
  after := by
    rw [hquiet.history]
    exact h.after

theorem countP_note (entry : Entry) (s : ContentScript) :
    (s.note entry).history.countP Entry.automatic =
      s.history.countP Entry.automatic + if entry.automatic then 1 else 0 := by
  simp [note, List.countP_append, List.countP_singleton]

/-- An entry that opens no port of the script's own accord. -/
theorem Budgeted.note (h : Budgeted budget s) (entry : Entry) (hquiet : entry.automatic = false)
    (hrestored : entry = .restored → s.state.automaticConsumed) :
    Budgeted budget (s.note entry) where
  spent := by
    rw [countP_note, hquiet]
    exact h.spent
  restored := by
    intro hmem
    rcases List.mem_append.mp hmem with hmem | hmem
    · exact h.restored hmem
    · exact hrestored (List.mem_singleton.mp hmem).symm
  after := by
    refine h.after.snoc fun hautomatic => ?_
    rw [hquiet] at hautomatic
    cases hautomatic

theorem beginKind_consumed {kind : FillKind} {state : FillOnceState}
    (hstate : state = (s.state.beginKind kind).1)
    (hbegins : (s.state.beginKind kind).2 = some ⟨kind, s.state.next⟩) :
    state.automaticConsumed := by
  rw [hstate, beginKind_state hbegins]

theorem Budgeted.began (h : Budgeted budget s) (kind : FillKind) (snapshot : Snapshot)
    {state : FillOnceState} (hconsumed : state.automaticConsumed) :
    Budgeted budget (ContentScript.note (.began ⟨kind, s.state.next⟩ snapshot)
      { s with state }) := by
  have hstate : Budgeted budget { s with state } := by
    refine ⟨?_, fun _ => hconsumed, h.after⟩
    have hspent := h.spent
    rw [if_pos hconsumed]
    exact le_trans (Nat.add_le_add_left (Nat.zero_le _) _) hspent
  exact hstate.note _ rfl fun hentry => Entry.noConfusion hentry

/-- The port of an attempt is paid for by the budget that its begin has taken. -/
theorem Budgeted.opened (h : Budgeted budget s) {kind : FillKind} (snapshot : Snapshot)
    {state : FillOnceState} (hkind : kind = .automatic → s.state.automaticConsumed = false)
    (hconsumed : state.automaticConsumed) :
    Budgeted budget ((ContentScript.note (.began ⟨kind, s.state.next⟩ snapshot)
      { s with state }).connect ⟨kind, s.state.next⟩ snapshot) := by
  have hbegan := h.began kind snapshot hconsumed
  refine ⟨?_, fun _ => hconsumed, hbegan.after.snoc fun hautomatic hmem => ?_⟩
  · have hspent := h.spent
    have hcount : ((ContentScript.note (.began ⟨kind, s.state.next⟩ snapshot)
        { s with state }).connect ⟨kind, s.state.next⟩ snapshot).history.countP Entry.automatic =
        s.history.countP Entry.automatic + if kind = .automatic then 1 else 0 := by
      simp [connect, ContentScript.note, List.countP_append, List.countP_singleton,
        Entry.automatic]
    rw [hcount]
    refine le_trans (le_of_eq (congrArg _ (if_pos hconsumed))) ?_
    cases kind with
    | automatic =>
      rw [hkind rfl] at hspent
      exact hspent
    | explicit => exact le_trans (Nat.le_add_right _ _) hspent
  · have hautomatic : kind = .automatic := of_decide_eq_true hautomatic
    have hunspent := hkind hautomatic
    rcases List.mem_append.mp hmem with hmem | hmem
    · rw [h.restored hmem] at hunspent
      cases hunspent
    · cases List.mem_singleton.mp hmem

theorem Budgeted.moves (h : Budgeted budget s) (hmoves : Moves s s') : Budgeted budget s' := by
  cases hmoves with
  | quiet hquiet => exact h.quiet hquiet
  | noted entry _ hquiet _ hrestored => exact h.note entry hquiet hrestored
  | began kind snapshot state _ hstate hbegins =>
    exact h.began kind snapshot (beginKind_consumed hstate hbegins)
  | opened kind snapshot state hkind hstate hbegins =>
    exact h.opened snapshot hkind (beginKind_consumed hstate hbegins)
  | wrote attempt snapshot username password =>
    have hstate : Budgeted budget { s with state := { s.state with pending := none } } :=
      ⟨h.spent, h.restored, h.after⟩
    have hwritten := hstate.note (.wrote attempt s.page) rfl fun hentry => Entry.noConfusion hentry
    exact ⟨hwritten.spent, hwritten.restored, hwritten.after⟩

/-! ## Runs -/

theorem numbered_load (restored : Bool) (page : Page) : Numbered (load restored page) where
  below := by simp [begun, load]
  nodup := List.nodup_nil
  of_written := by simp [written, load]
  once := List.nodup_nil
  pending := by simp [load]

theorem justified_load (restored : Bool) (page : Page) : Justified (load restored page) where
  below := by simp [load]
  openings := by simp [load]
  writes := always_nil

theorem budgeted_load (restored : Bool) (page : Page) :
    Budgeted (if restored then 0 else 1) (load restored page) where
  spent := by cases restored <;> exact Nat.le_refl _
  restored := by simp [load]
  after := always_nil

/-- What the elementary steps keep, every run keeps. -/
theorem run_invariant {I : ContentScript → Prop} (events : List Event) (hs : I s)
    (hmoves : ∀ s s', I s → Moves s s' → I s') : I (events.foldl step s) := by
  have hhandles : ∀ s s', I s → Handles s s' → I s' := by
    intro s s' h hsteps
    induction hsteps with
    | refl => exact h
    | tail _ hlast ih => exact hmoves _ _ ih hlast
  exact Runs.invariant events hs fun s e h => hhandles s (s.step e) h (handles_step s e)

/-- Whatever happens, an attempt begins once and writes once at most; it writes into the targets,
with the values and under the URL of its begin, and nothing has disturbed it since. -/
theorem written_once (restored : Bool) (page : Page) (events : List Event) :
    (events.foldl step (load restored page)).begun.Nodup ∧
      (events.foldl step (load restored page)).written.Nodup ∧
      ∀ before attempt page' after,
        (events.foldl step (load restored page)).history =
          before ++ .wrote attempt page' :: after →
        ∃ snapshot, Undisturbed attempt snapshot before ∧ page'.Matches snapshot := by
  have hnumbered := run_invariant events (numbered_load restored page) fun _ _ => Numbered.moves
  have hjustified := run_invariant events (justified_load restored page) fun _ _ => Justified.moves
  exact ⟨hnumbered.nodup, hnumbered.once, fun before attempt page' after hsplit =>
    hjustified.writes before _ after hsplit attempt page' rfl⟩

/-- Whatever happens, the script opens one port at most of its own accord. It opens none when its
document was restored as it was loaded, and none after its document has been restored. -/
theorem opened_once (restored : Bool) (page : Page) (events : List Event) :
    (events.foldl step (load restored page)).history.countP Entry.automatic ≤
        (if restored then 0 else 1) ∧
      ∀ before entry after,
        (events.foldl step (load restored page)).history = before ++ entry :: after →
        entry.automatic → .restored ∉ before := by
  have hbudgeted := run_invariant events (budgeted_load restored page) fun _ _ => Budgeted.moves
  exact ⟨le_trans (Nat.le_add_right _ _) hbudgeted.spent, hbudgeted.after⟩

end ContentScript

end Librarian.Browser
